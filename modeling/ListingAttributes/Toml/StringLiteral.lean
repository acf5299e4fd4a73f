import ListingAttributes.Json.Document

/-!
# TOML strings

TOML has four forms of strings: basic ones between double quotes, with escapes, and literal ones
between single quotes, without; either can span lines if its quotes are tripled.

Every reader starts behind the opening quotes and returns the text and what follows the closing
quotes.  The writer selects, for each text, the plainest form that can hold it; `Form.text` writes
a text in a form.
-/

namespace ListingAttributes.Toml

/-! ## Characters -/

/-- Whether a character may stand in a string or a comment: no control character but the tab. -/
def isTextChar (c : Char) : Bool := c == '\t' || (0x20 ≤ c.toNat && c.toNat != 0x7F)

/-- Whether a character separates tokens of a line. -/
def isGap (c : Char) : Bool := c == ' ' || c == '\t'

/-- A text from its first character that separates no tokens. -/
def skipGap (text : List Char) : List Char := text.dropWhile isGap

/-- What follows a line end, if a text starts with one. -/
def afterLineEnd? : List Char → Option (List Char)
  | '\n' :: text => some text
  | '\r' :: '\n' :: text => some text
  | _ => none

/-! ## Escapes -/

/-- The character that a letter behind a backslash stands for. -/
def escapedChar? : Char → Option Char
  | 'b' => some '\x08'
  | 't' => some '\t'
  | 'n' => some '\n'
  | 'f' => some '\x0c'
  | 'r' => some '\r'
  | '"' => some '"'
  | '\\' => some '\\'
  | _ => none

/-- The number that hexadecimal digits write. -/
def hexNumber? (digits : List Char) : Option Nat :=
  digits.foldlM (fun value c => (Json.hexValue? c).map (16 * value + ·)) 0

/-- The character of a code point, if it is one. -/
def charOfCode? (code : Nat) : Option Char :=
  if h : code.isValidChar then some (Char.ofNatAux code h) else none

/-- The character that hexadecimal digits name. -/
def charOfHex? (digits : List Char) : Option Char := (hexNumber? digits).bind charOfCode?

/-! ## Reading -/

/-- Puts a character before the text that a reader returned. -/
def consText (c : Char) (read : Option (List Char × List Char)) :
    Option (List Char × List Char) :=
  read.map fun (text, rest) => (c :: text, rest)

/-- Reads a basic string of one line. -/
def readBasic : List Char → Option (List Char × List Char)
  | [] => none
  | '"' :: rest => some ([], rest)
  | '\\' :: 'u' :: a :: b :: c :: d :: rest => do
    consText (← charOfHex? [a, b, c, d]) (readBasic rest)
  | '\\' :: 'U' :: a :: b :: c :: d :: e :: f :: g :: h :: rest => do
    consText (← charOfHex? [a, b, c, d, e, f, g, h]) (readBasic rest)
  | '\\' :: letter :: rest => do consText (← escapedChar? letter) (readBasic rest)
  | c :: rest => if isTextChar c ∧ c ≠ '\\' then consText c (readBasic rest) else none

/-- Reads a literal string of one line. -/
def readLiteral : List Char → Option (List Char × List Char)
  | [] => none
  | '\'' :: rest => some ([], rest)
  | c :: rest => if isTextChar c then consText c (readLiteral rest) else none

/-- Reads a basic string of several lines.  A backslash at the end of a line takes the line end and
all blanks behind it away; the first argument says whether these are being passed over.  Up to two
quotes may stand directly before the closing ones. -/
def readMultiBasic : Bool → List Char → Option (List Char × List Char)
  | _, [] => none
  | true, ' ' :: rest => readMultiBasic true rest
  | true, '\t' :: rest => readMultiBasic true rest
  | true, '\n' :: rest => readMultiBasic true rest
  | true, '\r' :: '\n' :: rest => readMultiBasic true rest
  | _, '"' :: '"' :: '"' :: '"' :: '"' :: rest => some (['"', '"'], rest)
  | _, '"' :: '"' :: '"' :: '"' :: rest => some (['"'], rest)
  | _, '"' :: '"' :: '"' :: rest => some ([], rest)
  | _, '\r' :: '\n' :: rest => consText '\n' (readMultiBasic false rest)
  | _, '\n' :: rest => consText '\n' (readMultiBasic false rest)
  | _, '\\' :: 'u' :: a :: b :: c :: d :: rest => do
    consText (← charOfHex? [a, b, c, d]) (readMultiBasic false rest)
  | _, '\\' :: 'U' :: a :: b :: c :: d :: e :: f :: g :: h :: rest => do
    consText (← charOfHex? [a, b, c, d, e, f, g, h]) (readMultiBasic false rest)
  | _, '\\' :: letter :: rest =>
    if (afterLineEnd? (skipGap (letter :: rest))).isSome then readMultiBasic true (letter :: rest)
    else do consText (← escapedChar? letter) (readMultiBasic false rest)
  | _, c :: rest => if isTextChar c ∧ c ≠ '\\' then consText c (readMultiBasic false rest) else none

/-- Reads a literal string of several lines.  Up to two quotes may stand directly before the
closing ones. -/
def readMultiLiteral : List Char → Option (List Char × List Char)
  | [] => none
  | '\'' :: '\'' :: '\'' :: '\'' :: '\'' :: rest => some (['\'', '\''], rest)
  | '\'' :: '\'' :: '\'' :: '\'' :: rest => some (['\''], rest)
  | '\'' :: '\'' :: '\'' :: rest => some ([], rest)
  | '\r' :: '\n' :: rest => consText '\n' (readMultiLiteral rest)
  | '\n' :: rest => consText '\n' (readMultiLiteral rest)
  | c :: rest => if isTextChar c then consText c (readMultiLiteral rest) else none

/-- A text without the line end it starts with, if it does. -/
def dropLineEnd (text : List Char) : List Char := (afterLineEnd? text).getD text

/-- Reads a string of one line, if a text starts with one. -/
def readLineString : List Char → Option (List Char × List Char)
  | '"' :: rest => readBasic rest
  | '\'' :: rest => readLiteral rest
  | _ => none

/-- Reads a string of any form, if a text starts with one. -/
def readString : List Char → Option (List Char × List Char)
  | '"' :: '"' :: '"' :: rest => readMultiBasic false (dropLineEnd rest)
  | '\'' :: '\'' :: '\'' :: rest => readMultiLiteral (dropLineEnd rest)
  | text => readLineString text

/-! ## Writing -/

/-- A form of strings. -/
inductive Form where
  | basic
  | literal
  | multiBasic
  | multiLiteral
  deriving DecidableEq, Repr

/-- Whether a basic string has to escape a character by a letter or a number: a control character
other than tab and line feed. -/
def isControl (c : Char) : Bool :=
  (c.toNat < 0x20 && c != '\t' && c != '\n') || c.toNat == 0x7F

/-- The length of the longest run of a character; `run` of them stand directly before the text. -/
def longestRun (quote : Char) (run : Nat) : List Char → Nat
  | [] => run
  | c :: text =>
    if c = quote then longestRun quote (run + 1) text else max run (longestRun quote 0 text)

/-- The form that a text is written in: without escapes and on one line if that can be. -/
def formOf (text : List Char) : Form :=
  let doubles := longestRun '"' 0 text
  let singles := longestRun '\'' 0 text
  let controls := text.any isControl
  let lines := text.contains '\n'
  let escapes := text.contains '\\'
  if !controls && !escapes && doubles == 0 && !lines then .basic
  else if !controls && singles == 0 && !lines then .literal
  else if !controls && !escapes && doubles ≤ 2 then .multiBasic
  else if !controls && singles ≤ 2 then .multiLiteral
  else if lines then .multiBasic
  else .basic

/-- A hexadecimal digit in upper case. -/
def hexDigit (n : Nat) : Char := (Nat.digitChar n).toUpper

/-- A character other than a quote or a line feed, as a basic string has it. -/
def basicChar (c : Char) : List Char :=
  match c with
  | '\x08' => ['\\', 'b']
  | '\t' => ['\\', 't']
  | '\x0c' => ['\\', 'f']
  | '\r' => ['\\', 'r']
  | '\\' => ['\\', '\\']
  | c =>
    if isControl c then
      ['\\', 'u', '0', '0', hexDigit (c.toNat / 16), hexDigit (c.toNat % 16)]
    else [c]

/-- A text inside a basic string, with up to `free` quotes in a row as they are and every further
one escaped; `quotes` of them stand directly before the text. -/
def basicText (lines : Bool) (free quotes : Nat) : List Char → List Char
  | [] => []
  | '"' :: text =>
    if quotes < free then '"' :: basicText lines free (quotes + 1) text
    else '\\' :: '"' :: basicText lines free 0 text
  | '\n' :: text =>
    if lines then '\n' :: basicText lines free 0 text
    else '\\' :: 'n' :: basicText lines free 0 text
  | c :: text => basicChar c ++ basicText lines free 0 text

/-- A text in a form, with its quotes. -/
def Form.text (text : List Char) : Form → List Char
  | basic => '"' :: basicText false 0 0 text ++ ['"']
  | literal => '\'' :: text ++ ['\'']
  | multiBasic => ['"', '"', '"', '\n'] ++ basicText true 2 0 text ++ ['"', '"', '"']
  | multiLiteral => ['\'', '\'', '\'', '\n'] ++ text ++ ['\'', '\'', '\'']

/-- A text as a string. -/
def stringText (text : List Char) : List Char := (formOf text).text text

end ListingAttributes.Toml
