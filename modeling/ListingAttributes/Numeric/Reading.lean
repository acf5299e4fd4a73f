import ListingAttributes.Numeric.Decimal
import ListingAttributes.Text.DecimalDigit

/-!
# Reading written numbers

Decimal notation with an optional sign, point and exponent, and words for what is no finite
number.  A number is rounded once, to the nearest of its format; beyond the range it is infinite.
-/

namespace ListingAttributes.Numeric

open Text

/-- The digits a text starts with, and what follows them. -/
def leadingDigits (text : List Char) : List Char × List Char :=
  (text.takeWhile isAsciiDigit, text.dropWhile isAsciiDigit)

/-- The power of ten that the end of a number states: nothing, or a letter `e` with a signed
integer behind it. -/
def exponentOfText? : List Char → Option Int
  | [] => some 0
  | c :: text =>
    if c = 'e' ∨ c = 'E' then
      let (negative, text) :=
        match text with
        | '-' :: text => (true, text)
        | '+' :: text => (false, text)
        | text => (false, text)
      match leadingDigits text with
      | ([], _) => none
      | (digits, []) =>
        some (if negative then -(decimalValue digits : Int) else decimalValue digits)
      | _ => none
    else none

/-- What follows the point of a number, if there is one: the fractional digits and the rest. -/
def fractionOfText : List Char → List Char × List Char
  | '.' :: text => leadingDigits text
  | text => ([], text)

/-- The decimal that a text without sign writes.  There must be a digit before the exponent. -/
def Decimal.ofText? (text : List Char) : Option Decimal :=
  let (whole, text) := leadingDigits text
  let (fraction, text) := fractionOfText text
  if whole = [] ∧ fraction = [] then none
  else
    (exponentOfText? text).map fun exponent =>
      ⟨decimalValue (whole ++ fraction), exponent - fraction.length⟩

/-- The magnitude that a text without sign writes, of the given sign. -/
def Extended.ofUnsignedText? {F : Format} (negative : Bool) (text : List Char) :
    Option (Extended F) :=
  let word := String.ofList (text.map Char.toLower)
  if word = "inf" ∨ word = "infinity" then some (.infinite negative)
  else if word = "nan" then some .notANumber
  else
    (Decimal.ofText? text).map fun d =>
      match Binary.ofDecimal? negative d with
      | some x => .finite x
      | none => .infinite negative

/-- The value that a text writes. -/
def Extended.ofText? {F : Format} : List Char → Option (Extended F)
  | '-' :: text => ofUnsignedText? true text
  | '+' :: text => ofUnsignedText? false text
  | text => ofUnsignedText? false text

end ListingAttributes.Numeric
