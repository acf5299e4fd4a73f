import ListingAttributes.Numeric.Notation
import ListingAttributes.Toml.StringLiteral

/-!
# Writing TOML

A section of settings is a sequence of lines, each a key and its value.  An integer that does not
fit 64 bits with a sign has no written form.
-/

namespace ListingAttributes.Toml

open Numeric

/-- A value that settings hold. -/
inductive Setting where
  | text (text : String)
  | count (n : Nat)
  | temperature (value : Extended binary32)

/-- The text of a value, if it has one.  A temperature is written in double precision. -/
def Setting.text? : Setting → Option (List Char)
  | .text value => some (stringText value.toList)
  | .count n => if n < 9223372036854775808 then some (digitsOf n) else none
  | .temperature value => some value.widen.tomlText

/-- The lines of keys and values. -/
def linesText? : List (String × Setting) → Option (List Char)
  | [] => some []
  | (key, setting) :: settings => do
    let value ← setting.text?
    let lines ← linesText? settings
    return key.toList ++ ' ' :: '=' :: ' ' :: value ++ '\n' :: lines

/-- The line that opens a section. -/
def headerText (name : String) : List Char := '[' :: name.toList ++ [']', '\n']

end ListingAttributes.Toml
