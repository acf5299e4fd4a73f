import ListingAttributes.Toml.Node
import ListingAttributes.Toml.Scalar
import ListingAttributes.Toml.StringLiteral

/-!
# Reading TOML

A text is a sequence of lines: blank ones, headers, and keys with values.  `statements?` applies
the grammar, and the statements are then put together to one table.
-/

namespace ListingAttributes.Toml

/-- How many arrays and inline tables may not lie inside one another, nor keys be joined by dots;
one less is allowed. -/
def nestingLimit : Nat := 80

/-! ## Blanks and comments -/

/-- A text without the comment it starts with, if it does. -/
def skipComment : List Char → List Char
  | '#' :: text => text.dropWhile isTextChar
  | text => text

/-- What follows the end of a line, with blanks and a comment before it; the end of the text ends
a line too. -/
def afterLine? (text : List Char) : Option (List Char) :=
  match skipComment (skipGap text) with
  | [] => some []
  | text => afterLineEnd? text

/-- Passes over blanks, line ends and comments, as they may stand between the items of an array.
The first argument bounds the number of lines. -/
def skipLines : Nat → List Char → List Char
  | 0, text => text
  | bound + 1, text =>
    let text := skipGap text
    match afterLineEnd? (skipComment text) with
    | some rest => skipLines bound rest
    | none => text

/-! ## Keys -/

/-- Whether a character may stand in a key without quotes. -/
def isBareChar (c : Char) : Bool := c.isAlphanum || c == '-' || c == '_'

/-- Reads one part of a key. -/
def readKeyPart (text : List Char) : Option (String × List Char) :=
  match text.takeWhile isBareChar with
  | [] => (readLineString text).map fun (key, rest) => (String.ofList key, rest)
  | key => some (String.ofList key, text.dropWhile isBareChar)

/-- Reads a key, its parts joined by dots, and the blanks around them.  The first argument bounds
the number of parts. -/
def readKey : Nat → List Char → Option (List String × List Char)
  | 0, _ => none
  | bound + 1, text => do
    let (part, rest) ← readKeyPart (skipGap text)
    match skipGap rest with
    | '.' :: rest =>
      let (parts, rest) ← readKey bound rest
      return (part :: parts, rest)
    | rest => return ([part], rest)

/-- Reads a key of less parts than the limit. -/
def readPath (text : List Char) : Option (List String × List Char) :=
  readKey (nestingLimit - 1) text

/-! ## Values -/

mutual

/-- Reads a value.  The first argument bounds the depth of the recursion, for which the length of
the text suffices; the second counts the arrays and tables around the value. -/
def readValue : Nat → Nat → List Char → Option (Toml × List Char)
  | 0, _, _ => none
  | bound + 1, depth, text =>
    match text with
    | '[' :: rest =>
      if depth + 1 < nestingLimit then
        (readItems bound (depth + 1) rest).map fun (items, rest) => (.array items, rest)
      else none
    | '\x7b' :: rest =>
      if depth + 1 < nestingLimit then
        match skipGap rest with
        | '\x7d' :: rest => some (.table [], rest)
        | rest => do
          let (pairs, rest) ← readPairs bound (depth + 1) rest
          return (← inlineTable? pairs, rest)
      else none
    | text =>
      match readString text with
      | some (value, rest) => some (.string (String.ofList value), rest)
      | none => readScalar text

/-- Reads the items of an array and its closing bracket; a comma may follow the last item. -/
def readItems : Nat → Nat → List Char → Option (List Toml × List Char)
  | 0, _, _ => none
  | bound + 1, depth, text =>
    match skipLines text.length text with
    | ']' :: rest => some ([], rest)
    | text => do
      let (item, rest) ← readValue bound depth text
      match skipLines rest.length rest with
      | ',' :: rest =>
        let (items, rest) ← readItems bound depth rest
        return (item :: items, rest)
      | ']' :: rest => return ([item], rest)
      | _ => none

/-- Reads the pairs of an inline table that has some, and its closing brace. -/
def readPairs : Nat → Nat → List Char → Option (List (List String × Toml) × List Char)
  | 0, _, _ => none
  | bound + 1, depth, text => do
    let (path, rest) ← readPath text
    let '=' :: rest := rest | none
    let (value, rest) ← readValue bound depth (skipGap rest)
    match skipGap rest with
    | ',' :: rest =>
      let (pairs, rest) ← readPairs bound depth rest
      return ((path, value) :: pairs, rest)
    | '\x7d' :: rest => return ([(path, value)], rest)
    | _ => none

end

/-! ## Statements -/

/-- Reads a header, a header of an array, or a key and its value. -/
def readStatement (text : List Char) : Option (Statement × List Char) :=
  match text with
  | '[' :: '[' :: rest => do
    let (path, rest) ← readPath rest
    let ']' :: ']' :: rest := rest | none
    return (.arrayHeader path, rest)
  | '[' :: rest => do
    let (path, rest) ← readPath rest
    let ']' :: rest := rest | none
    return (.header path, rest)
  | text => do
    let (path, rest) ← readPath text
    let '=' :: rest := rest | none
    let rest := skipGap rest
    let (value, rest) ← readValue (2 * rest.length + 2) 0 rest
    return (.keyValue path value, rest)

/-- Reads the statements of a text, each on a line of its own.  The first argument bounds the
number of lines. -/
def readStatements : Nat → List Char → Option (List Statement)
  | 0, _ => none
  | bound + 1, text =>
    match skipLines text.length text with
    | [] => some []
    | '#' :: comment => if skipComment ('#' :: comment) = [] then some [] else none
    | text => do
      let (statement, rest) ← readStatement text
      let rest ← afterLine? rest
      return statement :: (← readStatements bound rest)

/-- A text without the mark of its byte order, if it starts with one. -/
def dropByteOrderMark : List Char → List Char
  | '\uFEFF' :: text => text
  | text => text

/-- The statements of a text. -/
def statements? (text : List Char) : Option (List Statement) :=
  readStatements (text.length + 1) (dropByteOrderMark text)

/-- The table of a text. -/
def parse? (text : List Char) : Option Table := (statements? text).bind Assembly.table?

end ListingAttributes.Toml
