import ListingAttributes.Text.EscapeTable

/-!
# Quoted text in messages

A message shows a text of unknown content between double quotes.  Quotes and backslashes are
escaped, line ends, tabs and the null character have letters, and every other character that
would not be visible is written by its number in lower-case hexadecimal digits.
-/

namespace ListingAttributes.Text

/-- Whether a quoted text writes a character by its number. -/
def isHidden (c : Char) : Bool :=
  !(0x20 ≤ c.toNat && c.toNat < 0x7F) && hiddenRanges.covers c.toNat

/-- A character as it stands between quotes. -/
def quotedChar (c : Char) : List Char :=
  match c with
  | '"' => ['\\', '"']
  | '\\' => ['\\', '\\']
  | '\n' => ['\\', 'n']
  | '\r' => ['\\', 'r']
  | '\t' => ['\\', 't']
  | '\x00' => ['\\', '0']
  | c => if isHidden c then ['\\', 'u', '\x7b'] ++ Nat.toDigits 16 c.toNat ++ ['\x7d'] else [c]

/-- A text between double quotes. -/
def quoted (text : String) : String :=
  String.ofList ('"' :: text.toList.flatMap quotedChar ++ ['"'])

end ListingAttributes.Text
