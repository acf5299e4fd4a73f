import ListingAttributes.Numeric.Binary

/-!
# Decimals that identify a binary number

Every real number near a number of a format rounds to it; those reals form an interval, from
halfway to the neighbour below to halfway to the neighbour above.  `shortest` selects a decimal
of that interval with as few digits as possible and, among those, the nearest.

The selection is exact arithmetic on naturals.  On the grid of `n` digits only the two neighbours
of the value need to be tried, for a point of the grid that lies inside the interval has one of
them between itself and the value.
-/

namespace ListingAttributes.Numeric

/-- The decimal `digits * 10 ^ exponent`. -/
structure Decimal where
  digits : Nat
  exponent : Int
  deriving DecidableEq, Repr

/-- Which of two equally near candidates is taken. -/
inductive TieRule where
  | toEven
  | upward
  deriving DecidableEq, Repr

namespace Decimal

/-- A decimal as a fraction of naturals. -/
def numerator (d : Decimal) : Nat := d.digits * powTen d.exponent.toNat

/-- The denominator that belongs to `numerator`. -/
def denominator (d : Decimal) : Nat := powTen (-d.exponent).toNat

/-- The number of digits of a decimal; zero has one. -/
def length (d : Decimal) : Nat := (Nat.toDigits 10 d.digits).length

/-- Moves trailing zeros of the digits into the exponent, at most `limit` of them. -/
def strip : Nat → Decimal → Decimal
  | 0, d => d
  | limit + 1, d =>
    if d.digits % 10 = 0 ∧ d.digits ≠ 0 then strip limit ⟨d.digits / 10, d.exponent + 1⟩ else d

end Decimal

namespace Binary

variable {F : Format}

/-- Whether the gap to the neighbour below is half the gap to the neighbour above. -/
def narrowBelow (x : Binary F) : Bool :=
  let spacing := F.spacingBits x.units
  0 < spacing && x.units == powTwo (F.precision - 1 + spacing)

/-- The lower end of the interval of reals that round to `x`, in quarters of a unit. -/
def lowerEnd (x : Binary F) : Nat :=
  4 * x.units - (if x.narrowBelow then 1 else 2) * powTwo (F.spacingBits x.units)

/-- The upper end of the interval of reals that round to `x`, in quarters of a unit. -/
def upperEnd (x : Binary F) : Nat := 4 * x.units + 2 * powTwo (F.spacingBits x.units)

/-- Whether the ends belong to the interval: a tie goes to the even significand. -/
def closedEnds (x : Binary F) : Bool := x.units / powTwo (F.spacingBits x.units) % 2 == 0

/-- Whether a decimal rounds to the magnitude of `x`. -/
def readsBack (x : Binary F) (d : Decimal) : Bool :=
  let value := 4 * d.numerator * powTwo F.fractionBits
  let lower := x.lowerEnd * d.denominator
  let upper := x.upperEnd * d.denominator
  if x.closedEnds then lower ≤ value && value ≤ upper else lower < value && value < upper

/-- The least exponent `e` with `|x| < 10 ^ e`, for a number that is not zero. -/
def decimalScale (x : Binary F) : Int :=
  let one := powTwo F.fractionBits
  if one ≤ x.units then ((Nat.toDigits 10 (x.units / one)).length : Int)
  else 1 - ((Nat.toDigits 10 ((one - 1) / x.units)).length : Int)

/-- The decimal of `count` digits that identifies `x`, if one of the two neighbours of `x` on
that grid does. -/
def candidate? (tie : TieRule) (x : Binary F) (count : Nat) : Option Decimal :=
  let exponent := x.decimalScale - count
  let num := x.units * powTen (-exponent).toNat
  let den := powTwo F.fractionBits * powTen exponent.toNat
  let floor := num / den
  let remainder := num % den
  let below : Decimal := ⟨floor, exponent⟩
  let above : Decimal := ⟨floor + 1, exponent⟩
  match x.readsBack below, x.readsBack above with
  | true, true =>
    if 2 * remainder < den then some below
    else if den < 2 * remainder then some above
    else if tie = .toEven ∧ floor % 2 = 0 then some below
    else some above
  | true, false => some below
  | false, true => some above
  | false, false => none

/-- The exact decimal value of a number. -/
def exactDecimal (x : Binary F) : Decimal := ⟨x.units * Nat.pow 5 F.fractionBits, -F.fractionBits⟩

/-- The shortest decimal that identifies the magnitude of `x`, nearest to it among those of its
length.  Seventeen digits identify every double. -/
def shortest (tie : TieRule) (x : Binary F) : Decimal :=
  if x.units = 0 then ⟨0, 0⟩
  else
    match (List.range 17).findSome? fun i => x.candidate? tie (i + 1) with
    | some d => d.strip 17
    | none => x.exactDecimal

/-! ## Reading -/

/-- The number nearest to a decimal, or nothing beyond the range.  A decimal whose leading digit
stands far outside the range is decided without raising ten to its exponent. -/
def ofDecimal? (negative : Bool) (d : Decimal) : Option (Binary F) :=
  let leading := d.exponent + d.length
  if d.digits = 0 ∨ leading < -(F.fractionBits : Int) then some (zero negative)
  else if (F.rangeBits : Int) < leading then none
  else ofUnits? negative (d.numerator * powTwo F.fractionBits) d.denominator

end Binary

end ListingAttributes.Numeric
