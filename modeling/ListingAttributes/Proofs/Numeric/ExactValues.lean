import Mathlib.Algebra.Order.Field.Basic
import Mathlib.Data.Rat.Cast.Order
import ListingAttributes.Proofs.Json.Numbers
import ListingAttributes.Proofs.Numeric.Integers

/-!
# Exact values

The exact value of a JSON number is a fraction.  A schema compares numbers as
doubles, and an integer of more than fifty-three bits is rounded first.
Rounding does not carry it across a bound of fewer bits, since it never leaves
the side of a power of two that it is on (`toDouble_exact_or_large`).

* `covers_toDouble_iff`: a range whose bounds are moderate covers a number
  exactly if it admits its exact value;
* `isZero_toDouble_iff`: a number is zero as a double exactly if it is zero.
-/

namespace ListingAttributes.Numeric

variable {F : Format}

/-! ### How far rounding goes -/

theorem div_le_roundHalfEven (num den : Nat) : num / den ≤ roundHalfEven num den := by
  unfold roundHalfEven
  dsimp only
  split
  · exact Nat.le_refl _
  · split <;> omega

/-- A number is not rounded below a point of its grid that it reaches. -/
theorem le_nearestUnits {point units : Nat} (hle : point ≤ units)
    (hgrid : powTwo (F.spacingBits units) ∣ point) : point ≤ F.nearestUnits units 1 := by
  unfold Format.nearestUnits
  dsimp only
  rw [Nat.div_one, Nat.one_mul]
  generalize powTwo (F.spacingBits units) = spacing at *
  calc point = point / spacing * spacing := (Nat.div_mul_cancel hgrid).symm
    _ ≤ units / spacing * spacing := Nat.mul_le_mul_right _ (Nat.div_le_div_right hle)
    _ ≤ roundHalfEven units spacing * spacing :=
        Nat.mul_le_mul_right _ (div_le_roundHalfEven units spacing)

theorem nearestUnits_le (units : Nat) :
    F.nearestUnits units 1 ≤ units + powTwo (F.spacingBits units) := by
  unfold Format.nearestUnits
  dsimp only
  rw [Nat.div_one, Nat.one_mul]
  generalize powTwo (F.spacingBits units) = spacing
  calc roundHalfEven units spacing * spacing
      ≤ (units / spacing + 1) * spacing := Nat.mul_le_mul_right _ (roundHalfEven_le units spacing)
    _ = units / spacing * spacing + spacing := Nat.succ_mul _ _
    _ ≤ units + spacing := Nat.add_le_add_right (Nat.div_mul_le_self _ _) _

/-! ### Integers as doubles -/

/-- An integer in units has at most sixty-four bits before the point. -/
theorem natAbs_mul_lt (i : Json.Integer) :
    i.value.natAbs * powTwo binary64.fractionBits < powTwo (64 + binary64.fractionBits) := by
  have hlower := i.lower
  have hupper := i.upper
  have hwhole : i.value.natAbs < powTwo 64 := by
    rw [show powTwo 64 = 18446744073709551616 from rfl]
    omega
  rw [powTwo_add]
  exact Nat.mul_lt_mul_of_pos_right hwhole (powTwo_pos _)

/-- The double of an integer has its sign and is what its magnitude is rounded to. -/
theorem toDouble_integer (i : Json.Integer) :
    (Json.Number.integer i).toDouble.negative = decide (i.value < 0) ∧
      (Json.Number.integer i).toDouble.units =
        binary64.nearestUnits (i.value.natAbs * powTwo binary64.fractionBits) 1 := by
  have hlt := natAbs_mul_lt i
  have hrange : binary64.nearestUnits (i.value.natAbs * powTwo binary64.fractionBits) 1 <
      powTwo binary64.rangeBits := by
    have hspacing : powTwo (binary64.spacingBits
        (i.value.natAbs * powTwo binary64.fractionBits)) ≤ powTwo (64 + binary64.fractionBits) := by
      apply powTwo_le_powTwo
      have hbits := (bitLength_le_iff _ _).2 hlt
      unfold Format.spacingBits
      omega
    have hdouble : powTwo (64 + binary64.fractionBits) + powTwo (64 + binary64.fractionBits) ≤
        powTwo binary64.rangeBits := by
      decide +kernel
    have hle := nearestUnits_le (F := binary64) (i.value.natAbs * powTwo binary64.fractionBits)
    omega
  rw [Json.Number.toDouble, Binary.ofInt?, Binary.ofUnits?, dif_pos hrange, Option.getD_some]
  exact ⟨rfl, rfl⟩

/-- The magnitude from which on integers may be rounded, in units. -/
def exactLimit : Nat := powTwo (binary64.precision + binary64.fractionBits)

/-- The exact value of a finite number. -/
def Binary.value (x : Binary F) : ℚ := x.signedUnits / powTwo F.fractionBits

end ListingAttributes.Numeric

namespace ListingAttributes.Json.Number

open Numeric

/-! ### Exact values and doubles -/

/-- The value of a number in units of a double, not rounded. -/
def exactUnits : Number → Int
  | .integer i => i.value * powTwo binary64.fractionBits
  | .double x => x.signedUnits

/-- The exact value of a number. -/
def value : Number → ℚ
  | .integer i => i.value
  | .double x => x.value

theorem scale_pos : (0 : ℚ) < powTwo binary64.fractionBits := by
  exact_mod_cast powTwo_pos binary64.fractionBits

theorem value_eq_div (x : Number) : x.value = x.exactUnits / powTwo binary64.fractionBits := by
  cases x with
  | double x => rfl
  | integer i =>
      rw [value, exactUnits, Int.cast_mul, Int.cast_natCast, mul_div_cancel_right₀ _ scale_pos.ne']

theorem le_value_iff (bound : Binary binary64) (x : Number) :
    bound.value ≤ x.value ↔ bound.signedUnits ≤ x.exactUnits := by
  rw [value_eq_div, Binary.value, div_le_div_iff_of_pos_right scale_pos, Int.cast_le]

theorem value_le_iff (bound : Binary binary64) (x : Number) :
    x.value ≤ bound.value ↔ x.exactUnits ≤ bound.signedUnits := by
  rw [value_eq_div, Binary.value, div_le_div_iff_of_pos_right scale_pos, Int.cast_le]

/-- **The double of a number** has its exact value, or both values are beyond the limit, on the
same side. -/
theorem toDouble_exact_or_large (x : Number) :
    x.toDouble.signedUnits = x.exactUnits ∨
      ((exactLimit : Int) ≤ x.toDouble.signedUnits ∧ (exactLimit : Int) ≤ x.exactUnits) ∨
      (x.toDouble.signedUnits ≤ -(exactLimit : Int) ∧ x.exactUnits ≤ -(exactLimit : Int)) := by
  cases x with
  | double x => exact Or.inl rfl
  | integer i =>
      by_cases hsmall : i.value.natAbs < powTwo binary64.precision
      · exact Or.inl (signedUnits_toDouble hsmall)
      · right
        obtain ⟨hnegative, hunits⟩ := toDouble_integer i
        have hexact : exactLimit ≤ i.value.natAbs * powTwo binary64.fractionBits := by
          unfold exactLimit
          rw [powTwo_add]
          exact Nat.mul_le_mul_right _ (Nat.le_of_not_lt hsmall)
        -- the limit is on the grid of every integer of the range
        have hgrid : powTwo (binary64.spacingBits
            (i.value.natAbs * powTwo binary64.fractionBits)) ∣ exactLimit := by
          apply powTwo_dvd_powTwo
          have hbits := (bitLength_le_iff _ _).2 (natAbs_mul_lt i)
          simp only [Format.spacingBits, binary64] at hbits ⊢
          omega
        have hrounded := le_nearestUnits hexact hgrid
        rw [← hunits] at hrounded
        have hvalue : (Number.integer i).exactUnits =
            i.value * (powTwo binary64.fractionBits : Int) := rfl
        unfold Binary.signedUnits
        rw [hnegative, hvalue]
        by_cases hneg : i.value < 0
        · right
          have habs : i.value = -(i.value.natAbs : Int) := by omega
          rw [if_pos (decide_eq_true hneg), habs, Int.neg_mul, ← Int.natCast_mul]
          omega
        · left
          have habs : i.value = (i.value.natAbs : Int) := by omega
          rw [if_neg (by rw [decide_eq_true_eq]; exact hneg), habs, ← Int.natCast_mul]
          omega

/-- A number is zero as a double exactly if it is zero. -/
theorem isZero_toDouble_iff (x : Number) : x.toDouble.isZero = true ↔ x.value = 0 := by
  have hdouble : x.toDouble.isZero = true ↔ x.toDouble.signedUnits = 0 := by
    rw [← Int.natAbs_eq_zero, Json.natAbs_signedUnits, Binary.isZero, beq_iff_eq]
  have hexact : x.value = 0 ↔ x.exactUnits = 0 := by
    rw [value_eq_div, div_eq_zero_iff, or_iff_left scale_pos.ne', Int.cast_eq_zero]
  have hlimit : 0 < exactLimit := powTwo_pos _
  rw [hdouble, hexact]
  rcases toDouble_exact_or_large x with hsame | hlarge | hlarge
  · rw [hsame]
  · omega
  · omega

end ListingAttributes.Json.Number

namespace ListingAttributes.Bounds

open Numeric Json

/-! ### Ranges -/

/-- A range admits an exact value that lies between its bounds. -/
def Admits (bounds : Bounds) (q : ℚ) : Prop :=
  bounds.low.value ≤ q ∧ ∀ high ∈ bounds.high, q ≤ high.value

theorem value_ofRatio {n : Nat} (h : n < powTwo binary64.precision) :
    (ofRatio n 1).value = n := by
  rw [Binary.value, signedUnits_ofRatio h, Int.cast_mul, Int.cast_natCast, Int.cast_natCast,
    mul_div_cancel_right₀ _ Number.scale_pos.ne']

theorem admits_between_iff {low high : Nat} (hlow : low < powTwo binary64.precision)
    (hhigh : high < powTwo binary64.precision) (q : ℚ) :
    (between low high).Admits q ↔ (low : ℚ) ≤ q ∧ q ≤ high := by
  unfold Admits between
  simp only [Option.mem_some_iff, forall_eq', value_ofRatio hlow, value_ofRatio hhigh]

/-- The bounds of a range are of a magnitude below the limit. -/
def Moderate (bounds : Bounds) : Prop :=
  bounds.low.units < exactLimit ∧ ∀ high ∈ bounds.high, high.units < exactLimit

instance (bounds : Bounds) : Decidable bounds.Moderate :=
  inferInstanceAs (Decidable (_ ∧ _))

/-- **A range with moderate bounds covers a number** as a double exactly if it admits its exact
value. -/
theorem covers_toDouble_iff {bounds : Bounds} (hmoderate : bounds.Moderate) (x : Number) :
    bounds.covers x.toDouble = true ↔ bounds.Admits x.value := by
  have hside : ∀ bound : Binary binary64, bound.units < exactLimit →
      (bound.le x.toDouble = true ↔ bound.value ≤ x.value) ∧
        (x.toDouble.le bound = true ↔ x.value ≤ bound.value) := by
    intro bound hbound
    have habs := natAbs_signedUnits bound
    rw [Number.le_value_iff, Number.value_le_iff, Binary.le, Binary.le, decide_eq_true_eq,
      decide_eq_true_eq]
    -- beyond the limit both comparisons are decided by the side
    rcases Number.toDouble_exact_or_large x with hsame | hlarge | hlarge
    · rw [hsame]
      exact ⟨Iff.rfl, Iff.rfl⟩
    · omega
    · omega
  obtain ⟨hlow, hhigh⟩ := hmoderate
  unfold covers Admits
  rw [Bool.and_eq_true, (hside _ hlow).1]
  refine and_congr_right fun _ => ?_
  cases hbound : bounds.high with
  | none => simp
  | some high => simp [(hside high (hhigh high hbound)).2]

end ListingAttributes.Bounds
