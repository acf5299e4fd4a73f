import ListingAttributes.Json.Value

/-!
# Writing JSON values

The compact text of a value: no space between tokens, members in the order of the object, and in
strings an escape only for quotes, backslashes and control characters.
-/

namespace ListingAttributes.Json

/-- A hexadecimal digit in lower case. -/
def hexDigit (n : Nat) : Char := Nat.digitChar n

/-- A character as it stands in a string literal. -/
def literalChar (c : Char) : List Char :=
  match c with
  | '"' => ['\\', '"']
  | '\\' => ['\\', '\\']
  | '\x08' => ['\\', 'b']
  | '\x0c' => ['\\', 'f']
  | '\n' => ['\\', 'n']
  | '\r' => ['\\', 'r']
  | '\t' => ['\\', 't']
  | c =>
    if c.toNat < 0x20 then ['\\', 'u', '0', '0', hexDigit (c.toNat / 16), hexDigit (c.toNat % 16)]
    else [c]

/-- A text as a string literal. -/
def stringText (text : String) : List Char := '"' :: text.toList.flatMap literalChar ++ ['"']

variable {ν : Type} (numberText : ν → List Char)

mutual

/-- The text of a value, given the text of its numbers. -/
def textWith : Json ν → List Char
  | .null => ['n', 'u', 'l', 'l']
  | .bool true => ['t', 'r', 'u', 'e']
  | .bool false => ['f', 'a', 'l', 's', 'e']
  | .number x => numberText x
  | .string text => stringText text
  | .array [] => ['[', ']']
  | .array (item :: items) => '[' :: textWith item ++ itemsText items
  | .object [] => ['\x7b', '\x7d']
  | .object ((key, value) :: members) =>
    '\x7b' :: stringText key ++ ':' :: textWith value ++ membersText members

/-- The items that follow the first, each behind a comma, and the closing bracket. -/
def itemsText : List (Json ν) → List Char
  | [] => [']']
  | item :: items => ',' :: textWith item ++ itemsText items

/-- The members that follow the first, each behind a comma, and the closing brace. -/
def membersText : List (String × Json ν) → List Char
  | [] => ['\x7d']
  | (key, value) :: members =>
    ',' :: stringText key ++ ':' :: textWith value ++ membersText members

end

/-- The text of a value. -/
def Value.text (value : Value) : List Char := textWith Number.text value

end ListingAttributes.Json
