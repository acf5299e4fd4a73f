import ListingAttributes.Numeric.Power

/-!
# Binary numbers of limited precision

A format fixes how many significant bits its numbers have and how far they reach.  Its finite
numbers are counted in *units*, the least positive number of the format, so that every number is
a sign and a natural number and all comparisons are comparisons of integers.  The numbers of one
size lie `powTwo spacingBits` units apart; a natural number is representable when it lies on that
grid and inside the range.

Rounding takes any fraction of naturals to the nearest representable number of units, a tie going
to the neighbour whose last bit is zero.  `representable_nearestUnits` says that the result is on
the grid, so the range is the only thing that can go wrong.
-/

namespace ListingAttributes.Numeric

/-! ## Formats -/

/-- A binary format: the number of significant bits, the exponent `fractionBits` such that one
unit is `2 ^ -fractionBits`, and the bound `2 ^ rangeBits` that every magnitude in units is
below. -/
structure Format where
  precision : Nat
  fractionBits : Nat
  rangeBits : Nat
  precision_pos : 0 < precision := by decide
  deriving DecidableEq, Repr

/-- Double precision. -/
def binary64 : Format := { precision := 53, fractionBits := 1074, rangeBits := 2098 }

/-- Single precision. -/
def binary32 : Format := { precision := 24, fractionBits := 149, rangeBits := 277 }

/-- The number of bits of a natural number. -/
def bitLength (n : Nat) : Nat := if n = 0 then 0 else n.log2 + 1

theorem bitLength_le_iff (n k : Nat) : bitLength n ≤ k ↔ n < powTwo k := by
  unfold bitLength
  split
  · next h =>
    subst h
    exact ⟨fun _ => powTwo_pos k, fun _ => Nat.zero_le k⟩
  · next h =>
    rw [lt_powTwo_iff_log2_lt h]
    exact Nat.succ_le_iff

theorem lt_powTwo_bitLength (n : Nat) : n < powTwo (bitLength n) :=
  (bitLength_le_iff n _).1 (Nat.le_refl _)

theorem bitLength_powTwo (k : Nat) : bitLength (powTwo k) = k + 1 := by
  simp [bitLength, powTwo_ne_zero, log2_powTwo]

/-- How far numbers of this size lie apart, as a power of two of units. -/
def Format.spacingBits (F : Format) (units : Nat) : Nat := bitLength units - F.precision

/-- Whether a number of units is a magnitude of the format. -/
def Format.Representable (F : Format) (units : Nat) : Prop :=
  units < powTwo F.rangeBits ∧ powTwo (F.spacingBits units) ∣ units

instance (F : Format) (units : Nat) : Decidable (F.Representable units) :=
  inferInstanceAs (Decidable (_ ∧ _))

/-- A finite number of a format: a sign and a magnitude in units.  Zero has a sign too. -/
structure Binary (F : Format) where
  negative : Bool
  units : Nat
  representable : F.Representable units
  deriving DecidableEq

/-- A number of a format, or one of the values that stand for no number. -/
inductive Extended (F : Format) where
  | finite (value : Binary F)
  | infinite (negative : Bool)
  | notANumber
  deriving DecidableEq

/-! ## Rounding -/

/-- The integer nearest to `num / den`; a tie goes to the even neighbour. -/
def roundHalfEven (num den : Nat) : Nat :=
  let quotient := num / den
  let remainder := num % den
  if 2 * remainder < den then quotient
  else if den < 2 * remainder then quotient + 1
  else quotient + quotient % 2

/-- The multiple of the local spacing that is nearest to `num / den` units. -/
def Format.nearestUnits (F : Format) (num den : Nat) : Nat :=
  let spacing := powTwo (F.spacingBits (num / den))
  roundHalfEven num (den * spacing) * spacing

theorem roundHalfEven_le (num den : Nat) : roundHalfEven num den ≤ num / den + 1 := by
  unfold roundHalfEven
  have := Nat.mod_lt (num / den) (y := 2) (by decide)
  dsimp only
  split
  · omega
  · split <;> omega

/-- A rounded number of units lies on the grid of its own size, even where rounding carried it
into the next size. -/
theorem spacing_dvd_nearestUnits (F : Format) (num den : Nat) :
    powTwo (F.spacingBits (F.nearestUnits num den)) ∣ F.nearestUnits num den := by
  unfold Format.nearestUnits
  dsimp only
  generalize hs : F.spacingBits (num / den) = s
  generalize hr : roundHalfEven num (den * powTwo s) = r
  have hq : num / den < powTwo (F.precision + s) := by
    apply (bitLength_le_iff _ _).1
    unfold Format.spacingBits at hs
    omega
  have hfloor : num / (den * powTwo s) < powTwo F.precision := by
    rw [← Nat.div_div_eq_div_mul, Nat.div_lt_iff_lt_mul (powTwo_pos s), ← powTwo_add]
    exact hq
  have hle : r ≤ powTwo F.precision := by
    have := roundHalfEven_le num (den * powTwo s)
    omega
  rcases Nat.lt_or_eq_of_le hle with hlt | heq
  · -- the significand kept its length
    have hbits : bitLength (r * powTwo s) ≤ F.precision + s := by
      rw [bitLength_le_iff, powTwo_add]
      exact Nat.mul_lt_mul_of_pos_right hlt (powTwo_pos s)
    have hsp : F.spacingBits (r * powTwo s) ≤ s := by unfold Format.spacingBits; omega
    exact Nat.dvd_trans (powTwo_dvd_powTwo hsp) (Nat.dvd_mul_left _ _)
  · -- rounding carried into the next size
    have hp := F.precision_pos
    rw [heq, ← powTwo_add]
    have hsp : F.spacingBits (powTwo (F.precision + s)) ≤ F.precision + s := by
      unfold Format.spacingBits
      rw [bitLength_powTwo]
      omega
    exact powTwo_dvd_powTwo hsp

theorem representable_nearestUnits (F : Format) (num den : Nat)
    (h : F.nearestUnits num den < powTwo F.rangeBits) : F.Representable (F.nearestUnits num den) :=
  ⟨h, spacing_dvd_nearestUnits F num den⟩

namespace Binary

variable {F : Format}

/-- The number nearest to `num / den` units, or nothing where it lies beyond the range. -/
def ofUnits? (negative : Bool) (num den : Nat) : Option (Binary F) :=
  if h : F.nearestUnits num den < powTwo F.rangeBits then
    some ⟨negative, F.nearestUnits num den, representable_nearestUnits F num den h⟩
  else none

/-- Zero, with a sign. -/
def zero (negative : Bool) : Binary F :=
  ⟨negative, 0, powTwo_pos _, Nat.dvd_zero _⟩

/-- The number nearest to an integer. -/
def ofInt? (i : Int) : Option (Binary F) :=
  ofUnits? (decide (i < 0)) (i.natAbs * powTwo F.fractionBits) 1

/-! ## Views -/

/-- The value in units, with its sign. -/
def signedUnits (x : Binary F) : Int := if x.negative then -(x.units : Int) else x.units

/-- Whether a number is zero, of either sign. -/
def isZero (x : Binary F) : Bool := x.units == 0

/-- Order of values; the two zeros are equal. -/
def le (x y : Binary F) : Bool := x.signedUnits ≤ y.signedUnits

/-- Equality of values; the two zeros are equal. -/
def sameValue (x y : Binary F) : Bool := x.signedUnits == y.signedUnits

/-- Whether a number has no fractional part. -/
def isWhole (x : Binary F) : Bool := x.units % powTwo F.fractionBits == 0

/-- The integer part of a number. -/
def truncate (x : Binary F) : Int :=
  if x.negative then -((x.units / powTwo F.fractionBits : Nat) : Int)
  else ((x.units / powTwo F.fractionBits : Nat) : Int)

/-- The same number with the other sign. -/
def negate (x : Binary F) : Binary F := { x with negative := !x.negative }

/-! ## Arithmetic, rounded once -/

/-- The product, or nothing beyond the range. -/
def mul? (x y : Binary F) : Option (Binary F) :=
  ofUnits? (x.negative != y.negative) (x.units * y.units) (powTwo F.fractionBits)

/-- The quotient by a number that is not zero, or nothing beyond the range. -/
def div? (x y : Binary F) : Option (Binary F) :=
  ofUnits? (x.negative != y.negative) (x.units * powTwo F.fractionBits) y.units

end Binary

/-! ## Between the two precisions -/

/-- A unit of single precision is `2 ^ wideningBits` units of double precision. -/
def wideningBits : Nat := binary64.fractionBits - binary32.fractionBits

theorem representable_widened {units : Nat} (h : binary32.Representable units) :
    binary64.Representable (units * powTwo wideningBits) := by
  obtain ⟨hrange, hgrid⟩ := h
  constructor
  · calc units * powTwo wideningBits < powTwo binary32.rangeBits * powTwo wideningBits :=
          Nat.mul_lt_mul_of_pos_right hrange (powTwo_pos _)
      _ = powTwo (binary32.rangeBits + wideningBits) := (powTwo_add _ _).symm
      _ ≤ powTwo binary64.rangeBits := powTwo_le_powTwo (by decide)
  · have hbits : bitLength (units * powTwo wideningBits) ≤ bitLength units + wideningBits := by
      rw [bitLength_le_iff, powTwo_add]
      exact Nat.mul_lt_mul_of_pos_right (lt_powTwo_bitLength units) (powTwo_pos _)
    have hsp : binary64.spacingBits (units * powTwo wideningBits)
        ≤ binary32.spacingBits units + wideningBits := by
      simp only [Format.spacingBits, wideningBits, binary64, binary32] at hbits ⊢
      omega
    refine Nat.dvd_trans (powTwo_dvd_powTwo hsp) ?_
    rw [powTwo_add]
    exact Nat.mul_dvd_mul_right hgrid _

/-- A single-precision number in double precision; no rounding takes place. -/
def Binary.widen (x : Binary binary32) : Binary binary64 :=
  ⟨x.negative, x.units * powTwo wideningBits, representable_widened x.representable⟩

/-- A double-precision number rounded to single precision, or nothing beyond the range. -/
def Binary.narrow? (x : Binary binary64) : Option (Binary binary32) :=
  Binary.ofUnits? x.negative x.units (powTwo wideningBits)

/-- Widening of any value. -/
def Extended.widen : Extended binary32 → Extended binary64
  | .finite x => .finite x.widen
  | .infinite negative => .infinite negative
  | .notANumber => .notANumber

/-- Narrowing of any value; what lies beyond the range becomes infinite. -/
def Extended.narrow : Extended binary64 → Extended binary32
  | .finite x =>
    match x.narrow? with
    | some y => .finite y
    | none => .infinite x.negative
  | .infinite negative => .infinite negative
  | .notANumber => .notANumber

end ListingAttributes.Numeric
