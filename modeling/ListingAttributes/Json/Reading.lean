import ListingAttributes.Json.Document
import ListingAttributes.Json.Members

/-!
# Reading JSON values

The value that a document stands for.  Escaped units must make up characters, numbers must be in
range, values may not lie deeper than `deepestNesting`, and of repeated keys the last one counts.

A number without fraction and exponent is an integer if it is one of the range, and otherwise a
double; `-0` is the double that is negative zero.  The digits of a double are taken up to the
largest number that fits 64 bits; that number is rounded to a double and then multiplied or
divided once by the double nearest to a power of ten.
-/

namespace ListingAttributes.Json

open Numeric

/-! ## Strings -/

/-- The characters of a string literal.  A unit of the upper surrogates must be followed by one of
the lower surrogates, with which it names one character; no other surrogate may occur. -/
def charsOf? : List Piece → Option (List Char)
  | [] => some []
  | .char c :: pieces => (charsOf? pieces).map (c :: ·)
  | .unit high :: pieces =>
    if high < 0xD800 ∨ 0xE000 ≤ high then (charsOf? pieces).map (Char.ofNat high :: ·)
    else if high < 0xDC00 then
      match pieces with
      | .unit low :: pieces =>
        if 0xDC00 ≤ low ∧ low < 0xE000 then
          (charsOf? pieces).map
            (Char.ofNat (0x10000 + (high - 0xD800) * 0x400 + (low - 0xDC00)) :: ·)
        else none
      | _ => none
    else none

/-- The text of a string literal. -/
def textOf? (pieces : List Piece) : Option String := (charsOf? pieces).map String.ofList

/-! ## Numbers -/

/-- The largest number that fits 64 bits. -/
def largestWord : Nat := 18446744073709551615

/-- Appends digits to a number as long as it fits 64 bits; the digits left over come second. -/
def appendDigits : Nat → List Char → Nat × List Char
  | value, [] => (value, [])
  | value, c :: digits =>
    let next := 10 * value + Text.digitValue c
    if next ≤ largestWord then appendDigits next digits else (value, c :: digits)

/-- The double nearest to a natural number that has one. -/
def doubleOfNat (n : Nat) : Binary binary64 := (Binary.ofInt? n).getD (Binary.zero false)

/-- The largest power of ten that is a finite double. -/
def largestPower : Nat := 308

/-- Divides by a power of ten in steps of the largest one. -/
def scaleDown (x : Binary binary64) (power : Nat) : Binary binary64 :=
  if power ≤ largestPower then (x.div? (doubleOfNat (powTen power))).getD (Binary.zero false)
  else if x.isZero then x
  else
    scaleDown ((x.div? (doubleOfNat (powTen largestPower))).getD (Binary.zero false))
      (power - largestPower)
termination_by power
decreasing_by
  simp only [largestPower] at *
  omega

/-- A word scaled by a power of ten; nothing if the result is beyond the range of doubles. -/
def scaled? (significand : Nat) (exponent : Int) : Option (Binary binary64) :=
  if exponent < 0 then some (scaleDown (doubleOfNat significand) exponent.natAbs)
  else if significand = 0 then some (Binary.zero false)
  else if (largestPower : Int) < exponent then none
  else (doubleOfNat significand).mul? (doubleOfNat (powTen exponent.natAbs))

/-- The double that a literal stands for. -/
def doubleOf? (literal : NumberLiteral) : Option (Binary binary64) :=
  let (whole, dropped) := appendDigits 0 literal.whole
  let (significand, unread) := appendDigits whole literal.fraction
  let exponent : Int := dropped.length - (literal.fraction.length - unread.length : Nat)
  let exponent :=
    match literal.exponent with
    | none => exponent
    | some (true, digits) => exponent - Text.decimalValue digits
    | some (false, digits) => exponent + Text.decimalValue digits
  (scaled? significand exponent).map fun x => if literal.negative then x.negate else x

/-- The integer that a literal stands for, if it has neither fraction nor exponent, is in range
and is not a negative zero. -/
def integerOf? (literal : NumberLiteral) : Option Integer :=
  if literal.fraction = [] ∧ literal.exponent = none then
    let magnitude := Text.decimalValue literal.whole
    if literal.negative then
      if magnitude = 0 then none else Integer.ofInt? (-(magnitude : Int))
    else Integer.ofInt? magnitude
  else none

/-- The number that a literal stands for. -/
def numberOf? (literal : NumberLiteral) : Option Number :=
  match integerOf? literal with
  | some i => some (.integer i)
  | none => (doubleOf? literal).map .double

/-! ## Values -/

mutual

/-- The value of a document, at any depth. -/
def Document.value? : Document → Option Value
  | .null => some .null
  | .bool b => some (.bool b)
  | .number literal => (numberOf? literal).map .number
  | .string pieces => (textOf? pieces).map .string
  | .array items => (valuesOf? items).map .array
  | .object members => (entriesOf? members).map fun entries => .object (ofEntries entries)

/-- The values of the items of an array. -/
def valuesOf? : List Document → Option (List Value)
  | [] => some []
  | item :: items => do
    let value ← item.value?
    let values ← valuesOf? items
    return value :: values

/-- The keys and values of the members of an object, in the order written. -/
def entriesOf? : List (List Piece × Document) → Option (List (String × Value))
  | [] => some []
  | (key, item) :: members => do
    let key ← textOf? key
    let value ← item.value?
    let entries ← entriesOf? members
    return (key, value) :: entries

end

/-- How deep arrays and objects may lie inside one another. -/
def deepestNesting : Nat := 127

/-- The value of a JSON text. -/
def parse? (text : List Char) : Option Value := do
  let document ← Document.parse? text
  if document.nesting ≤ deepestNesting then document.value? else none

end ListingAttributes.Json
