import ListingAttributes.Json.Value
import ListingAttributes.Schema

/-!
# Integers as binary numbers

A representable number of units is rounded to itself (`ofUnits?_representable`),
so an integer of no more bits than the precision is exact as a double
(`signedUnits_toDouble`), and an integer of any size is rounded to a whole
number (`isWhole_toDouble`).  The bounds of a schema are exact as well, which
turns a comparison with them into one of integers (`covers_between_iff`).  For
the same reason a number of single precision survives a stay in double
precision (`narrow_widen`).
-/

namespace ListingAttributes.Numeric

/-! ### Rounding what needs no rounding -/

theorem roundHalfEven_of_dvd {num den : Nat} (hden : 0 < den) (h : den ∣ num) :
    roundHalfEven num den = num / den := by
  unfold roundHalfEven
  dsimp only
  rw [Nat.mod_eq_zero_of_dvd h, if_pos (by omega)]

/-- A fraction that is a number of the grid is rounded to that number. -/
theorem nearestUnits_mul {F : Format} {units den : Nat} (hden : 0 < den)
    (h : powTwo (F.spacingBits units) ∣ units) : F.nearestUnits (units * den) den = units := by
  unfold Format.nearestUnits
  dsimp only
  rw [Nat.mul_div_cancel _ hden,
    roundHalfEven_of_dvd (Nat.mul_pos hden (powTwo_pos _))
      (by rw [Nat.mul_comm units]; exact Nat.mul_dvd_mul_left den h),
    Nat.mul_comm units, Nat.mul_div_mul_left _ _ hden, Nat.div_mul_cancel h]

theorem nearestUnits_of_dvd {F : Format} {units : Nat}
    (h : powTwo (F.spacingBits units) ∣ units) : F.nearestUnits units 1 = units := by
  have hmul := nearestUnits_mul Nat.one_pos h
  rwa [Nat.mul_one] at hmul

/-- A fraction whose value is a representable number of units is rounded to that number. -/
theorem ofUnits?_mul {F : Format} (negative : Bool) {units den : Nat} (hden : 0 < den)
    (h : F.Representable units) :
    Binary.ofUnits? negative (units * den) den = some (⟨negative, units, h⟩ : Binary F) := by
  have hnearest := nearestUnits_mul hden h.2
  unfold Binary.ofUnits?
  rw [dif_pos (by rw [hnearest]; exact h.1)]
  simp only [hnearest]

/-- A representable number of units is rounded to itself. -/
theorem ofUnits?_representable {F : Format} (negative : Bool) {units : Nat}
    (h : F.Representable units) :
    Binary.ofUnits? negative units 1 = some (⟨negative, units, h⟩ : Binary F) := by
  have hmul := ofUnits?_mul negative Nat.one_pos h
  rwa [Nat.mul_one] at hmul

theorem narrow?_widen (x : Binary binary32) : x.widen.narrow? = some x := by
  have hmul := ofUnits?_mul x.negative (powTwo_pos wideningBits) x.representable
  exact hmul

theorem narrow_finite {x : Binary binary64} {y : Binary binary32} (h : x.narrow? = some y) :
    (Extended.finite x).narrow = .finite y := by
  -- the equations of `narrow` would be computed with the range of the format as a numeral
  delta Extended.narrow
  simp only [h]

/-- **Widening loses nothing**: a number of single precision comes back from double precision. -/
theorem narrow_widen (x : Extended binary32) : x.widen.narrow = x := by
  cases x with
  | finite x => exact narrow_finite (narrow?_widen x)
  | infinite negative => rfl
  | notANumber => rfl

/-- An integer of no more bits than the precision is representable. -/
theorem representable_integer {n : Nat} (h : n < powTwo binary64.precision) :
    binary64.Representable (n * powTwo binary64.fractionBits) := by
  have hlt : n * powTwo binary64.fractionBits <
      powTwo (binary64.precision + binary64.fractionBits) := by
    rw [powTwo_add]
    exact Nat.mul_lt_mul_of_pos_right h (powTwo_pos _)
  constructor
  · exact Nat.lt_of_lt_of_le hlt (powTwo_le_powTwo (by decide))
  · -- bits beyond the precision are bits of the fraction, which are zeros
    have hspacing : binary64.spacingBits (n * powTwo binary64.fractionBits) ≤
        binary64.fractionBits := by
      have := (bitLength_le_iff _ _).2 hlt
      unfold Format.spacingBits
      omega
    exact Nat.dvd_trans (powTwo_dvd_powTwo hspacing) (Nat.dvd_mul_left _ _)

/-- The units with sign of a number that is put together from the parts of an integer. -/
theorem signedUnits_of_natAbs {F : Format} {x : Binary F} {i : Int} {scale : Nat}
    (hnegative : x.negative = decide (i < 0)) (hunits : x.units = i.natAbs * scale) :
    x.signedUnits = i * scale := by
  unfold Binary.signedUnits
  rw [hnegative, hunits, Int.natCast_mul]
  by_cases hneg : i < 0
  · have habs : (i.natAbs : Int) = -i := by omega
    rw [if_pos (decide_eq_true hneg), habs, Int.neg_mul, Int.neg_neg]
  · have habs : (i.natAbs : Int) = i := by omega
    rw [if_neg (by rw [decide_eq_true_eq]; exact hneg), habs]

theorem signedUnits_ofInt? {i : Int} (h : i.natAbs < powTwo binary64.precision) :
    ∃ x : Binary binary64, Binary.ofInt? i = some x ∧
      x.signedUnits = i * powTwo binary64.fractionBits :=
  ⟨_, ofUnits?_representable _ (representable_integer h), signedUnits_of_natAbs rfl rfl⟩

/-- **Integers of up to fifty-three bits are exact as doubles.** -/
theorem signedUnits_toDouble {i : Json.Integer}
    (h : i.value.natAbs < powTwo binary64.precision) :
    (Json.Number.integer i).toDouble.signedUnits = i.value * powTwo binary64.fractionBits := by
  obtain ⟨x, hx, hunits⟩ := signedUnits_ofInt? h
  rw [Json.Number.toDouble, hx, Option.getD_some, hunits]

/-! ### Rounding whole numbers -/

/-- A whole number is rounded to a whole number: either it is on the grid already, or the grid is
coarser than the integers. -/
theorem dvd_nearestUnits_mul (F : Format) (n : Nat) :
    powTwo F.fractionBits ∣ F.nearestUnits (n * powTwo F.fractionBits) 1 := by
  by_cases hfine : F.spacingBits (n * powTwo F.fractionBits) ≤ F.fractionBits
  · have hgrid : powTwo (F.spacingBits (n * powTwo F.fractionBits)) ∣
        n * powTwo F.fractionBits :=
      Nat.dvd_trans (powTwo_dvd_powTwo hfine) (Nat.dvd_mul_left _ _)
    rw [nearestUnits_of_dvd hgrid]
    exact Nat.dvd_mul_left _ _
  · unfold Format.nearestUnits
    rw [Nat.div_one]
    exact Nat.dvd_trans (powTwo_dvd_powTwo (by omega)) (Nat.dvd_mul_left _ _)

/-- **Integers of any size are whole as doubles.** -/
theorem isWhole_toDouble (i : Json.Integer) : (Json.Number.integer i).toDouble.isWhole = true := by
  unfold Json.Number.toDouble Binary.isWhole
  dsimp only
  rw [beq_iff_eq]
  apply Nat.mod_eq_zero_of_dvd
  cases hround : (Binary.ofInt? i.value : Option (Binary binary64)) with
  | none =>
      -- zero stands for what is out of range
      exact Nat.dvd_zero _
  | some x =>
      unfold Binary.ofInt? Binary.ofUnits? at hround
      split at hround
      · obtain rfl := Option.some.inj hround
        exact dvd_nearestUnits_mul binary64 _
      · cases hround

end ListingAttributes.Numeric

namespace ListingAttributes.Bounds

open Numeric

/-! ### Bounds -/

theorem signedUnits_ofRatio {n : Nat} (h : n < powTwo binary64.precision) :
    (ofRatio n 1).signedUnits = n * powTwo binary64.fractionBits := by
  unfold ofRatio
  rw [ofUnits?_representable false (representable_integer h), Option.getD_some]
  exact Int.natCast_mul n (powTwo binary64.fractionBits)

/-- **A number lies between two naturals** if it does so in units. -/
theorem covers_between_iff {low high : Nat} (hlow : low < powTwo binary64.precision)
    (hhigh : high < powTwo binary64.precision) (x : Binary binary64) :
    (between low high).covers x = true ↔
      (low * powTwo binary64.fractionBits : Int) ≤ x.signedUnits ∧
        x.signedUnits ≤ (high * powTwo binary64.fractionBits : Int) := by
  unfold covers between
  simp only [Binary.le, Bool.and_eq_true, decide_eq_true_eq, signedUnits_ofRatio hlow,
    signedUnits_ofRatio hhigh]

end ListingAttributes.Bounds
