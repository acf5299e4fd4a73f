import ListingAttributes.Text.DecimalDigit

/-!
# JSON documents

A document is a JSON text after the grammar has been applied and before any meaning is given to
it: strings are still sequences of characters and escaped sixteen-bit units, numbers are still
digits, and an object has its members in the order written, repeated keys included.  Whether an
escape names a character, whether a number is in range and which of two equal keys counts is
decided by those who read a document, for some of them skip parts of it.
-/

namespace ListingAttributes.Json

/-- A part of a string literal: a character, or a sixteen-bit unit written as `\u` and four
hexadecimal digits. -/
inductive Piece where
  | char (c : Char)
  | unit (code : Nat)
  deriving DecidableEq, Repr

/-- A number literal: its digits, and its exponent with a sign. -/
structure NumberLiteral where
  negative : Bool
  whole : List Char
  fraction : List Char
  exponent : Option (Bool × List Char)
  deriving DecidableEq, Repr

/-- A JSON text, parsed. -/
inductive Document where
  | null
  | bool (value : Bool)
  | number (literal : NumberLiteral)
  | string (pieces : List Piece)
  | array (items : List Document)
  | object (members : List (List Piece × Document))

/-- Whether a character may stand between tokens. -/
def isSpace (c : Char) : Bool := c == ' ' || c == '\t' || c == '\n' || c == '\r'

/-- A text from its first character that is no space. -/
def skipSpace (text : List Char) : List Char := text.dropWhile isSpace

/-! ## Strings -/

/-- The value of a hexadecimal digit. -/
def hexValue? (c : Char) : Option Nat :=
  if '0' ≤ c ∧ c ≤ '9' then some (c.toNat - 48)
  else if 'a' ≤ c ∧ c ≤ 'f' then some (c.toNat - 87)
  else if 'A' ≤ c ∧ c ≤ 'F' then some (c.toNat - 55)
  else none

/-- The unit that four hexadecimal digits write. -/
def unitOfHex? (a b c d : Char) : Option Nat := do
  let a ← hexValue? a
  let b ← hexValue? b
  let c ← hexValue? c
  let d ← hexValue? d
  return ((a * 16 + b) * 16 + c) * 16 + d

/-- The character that a letter after a backslash stands for. -/
def escapedChar? : Char → Option Char
  | '"' => some '"'
  | '\\' => some '\\'
  | '/' => some '/'
  | 'b' => some '\x08'
  | 'f' => some '\x0c'
  | 'n' => some '\n'
  | 'r' => some '\r'
  | 't' => some '\t'
  | _ => none

/-- Reads a string literal from behind its opening quote to behind its closing one. -/
def readString : List Char → Option (List Piece × List Char)
  | [] => none
  | '"' :: rest => some ([], rest)
  | '\\' :: 'u' :: a :: b :: c :: d :: rest => do
    let code ← unitOfHex? a b c d
    let (pieces, rest) ← readString rest
    return (.unit code :: pieces, rest)
  | '\\' :: letter :: rest => do
    let c ← escapedChar? letter
    let (pieces, rest) ← readString rest
    return (.char c :: pieces, rest)
  | c :: rest =>
    if c.toNat < 0x20 ∨ c = '\\' then none
    else do
      let (pieces, rest) ← readString rest
      return (.char c :: pieces, rest)

/-! ## Numbers -/

/-- The digits a text starts with, and what follows them. -/
def spanDigits (text : List Char) : List Char × List Char :=
  (text.takeWhile Text.isAsciiDigit, text.dropWhile Text.isAsciiDigit)

/-- Reads the digits before the point: a single zero, or digits that do not start with one. -/
def readWhole (text : List Char) : Option (List Char × List Char) :=
  match spanDigits text with
  | ([], _) => none
  | ('0' :: _ :: _, _) => none
  | digits => some digits

/-- Reads a point and the digits after it, if there is a point. -/
def readFraction : List Char → Option (List Char × List Char)
  | '.' :: rest =>
    match spanDigits rest with
    | ([], _) => none
    | digits => some digits
  | text => some ([], text)

/-- Reads the digits of an exponent. -/
def readExponentDigits (negative : Bool) (text : List Char) :
    Option (Option (Bool × List Char) × List Char) :=
  match spanDigits text with
  | ([], _) => none
  | (digits, rest) => some (some (negative, digits), rest)

/-- Reads an exponent, if there is one. -/
def readExponent : List Char → Option (Option (Bool × List Char) × List Char)
  | c :: rest =>
    if c = 'e' ∨ c = 'E' then
      match rest with
      | '+' :: rest => readExponentDigits false rest
      | '-' :: rest => readExponentDigits true rest
      | rest => readExponentDigits false rest
    else some (none, c :: rest)
  | [] => some (none, [])

/-- Reads a number literal without its sign. -/
def readUnsigned (negative : Bool) (text : List Char) : Option (NumberLiteral × List Char) := do
  let (whole, rest) ← readWhole text
  let (fraction, rest) ← readFraction rest
  let (exponent, rest) ← readExponent rest
  return (⟨negative, whole, fraction, exponent⟩, rest)

/-- Reads a number literal. -/
def readNumber : List Char → Option (NumberLiteral × List Char)
  | '-' :: rest => readUnsigned true rest
  | text => readUnsigned false text

/-! ## Values -/

mutual

/-- Reads a value and the spaces before it.  The first argument bounds the depth of the
recursion; twice the length of the text suffices. -/
def readValue : Nat → List Char → Option (Document × List Char)
  | 0, _ => none
  | bound + 1, text =>
    match skipSpace text with
    | '"' :: rest => (readString rest).map fun (pieces, rest) => (.string pieces, rest)
    | '[' :: rest =>
      match skipSpace rest with
      | ']' :: rest => some (.array [], rest)
      | rest => (readItems bound rest).map fun (items, rest) => (.array items, rest)
    | '\x7b' :: rest =>
      match skipSpace rest with
      | '\x7d' :: rest => some (.object [], rest)
      | rest => (readMembers bound rest).map fun (members, rest) => (.object members, rest)
    | 'n' :: 'u' :: 'l' :: 'l' :: rest => some (.null, rest)
    | 't' :: 'r' :: 'u' :: 'e' :: rest => some (.bool true, rest)
    | 'f' :: 'a' :: 'l' :: 's' :: 'e' :: rest => some (.bool false, rest)
    | text => (readNumber text).map fun (literal, rest) => (.number literal, rest)

/-- Reads the items of an array that has some, and its closing bracket. -/
def readItems : Nat → List Char → Option (List Document × List Char)
  | 0, _ => none
  | bound + 1, text => do
    let (item, rest) ← readValue bound text
    match skipSpace rest with
    | ',' :: rest =>
      let (items, rest) ← readItems bound rest
      return (item :: items, rest)
    | ']' :: rest => return ([item], rest)
    | _ => none

/-- Reads the members of an object that has some, and its closing brace. -/
def readMembers : Nat → List Char → Option (List (List Piece × Document) × List Char)
  | 0, _ => none
  | bound + 1, text => do
    let '"' :: rest := skipSpace text | none
    let (key, rest) ← readString rest
    let ':' :: rest := skipSpace rest | none
    let (value, rest) ← readValue bound rest
    match skipSpace rest with
    | ',' :: rest =>
      let (members, rest) ← readMembers bound rest
      return ((key, value) :: members, rest)
    | '\x7d' :: rest => return ([(key, value)], rest)
    | _ => none

end

/-- The document of a text, if the text is one JSON value with nothing but spaces around it. -/
def Document.parse? (text : List Char) : Option Document :=
  match readValue (2 * text.length + 2) text with
  | some (document, rest) => if skipSpace rest = [] then some document else none
  | none => none

mutual

/-- How many arrays and objects lie inside one another. -/
def Document.nesting : Document → Nat
  | .array items => nestingOfItems items + 1
  | .object members => nestingOfMembers members + 1
  | _ => 0

/-- The deepest nesting among items. -/
def nestingOfItems : List Document → Nat
  | [] => 0
  | item :: items => max item.nesting (nestingOfItems items)

/-- The deepest nesting among members. -/
def nestingOfMembers : List (List Piece × Document) → Nat
  | [] => 0
  | (_, value) :: members => max value.nesting (nestingOfMembers members)

end

end ListingAttributes.Json
