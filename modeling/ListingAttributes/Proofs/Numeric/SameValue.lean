import ListingAttributes.Proofs.Json.Numbers
import ListingAttributes.Schema

/-!
# Numbers of the same value

Two numbers have the same value if they have the same units with sign: they
are equal, or they are zeros of either sign (`eq_of_signedUnits_eq`).  What
only depends on the value is the same for both.
-/

namespace ListingAttributes.Numeric.Binary

variable {F : Format} {x y : Binary F}

theorem sameValue_iff : x.sameValue y = true ↔ x.signedUnits = y.signedUnits := by
  simp [sameValue]

theorem units_eq_of_signedUnits_eq (h : x.signedUnits = y.signedUnits) : x.units = y.units := by
  rw [← Json.natAbs_signedUnits x, ← Json.natAbs_signedUnits y, h]

/-- Numbers of the same value other than zero are equal. -/
theorem eq_of_signedUnits_eq (h : x.signedUnits = y.signedUnits) (hpos : 0 < x.units) : x = y := by
  have hunits := units_eq_of_signedUnits_eq h
  have hsign : x.negative = y.negative := by
    unfold signedUnits at h
    -- numbers of different signs would both be zero
    cases hx : x.negative <;> cases hy : y.negative
    · rfl
    · rw [hx, hy, if_neg Bool.false_ne_true, if_pos rfl] at h
      omega
    · rw [hx, hy, if_neg Bool.false_ne_true, if_pos rfl] at h
      omega
    · rfl
  cases x
  cases y
  dsimp only at hunits hsign
  subst hunits hsign
  rfl

theorem isZero_congr (h : x.signedUnits = y.signedUnits) : x.isZero = y.isZero := by
  unfold isZero
  rw [units_eq_of_signedUnits_eq h]

theorem isWhole_congr (h : x.signedUnits = y.signedUnits) : x.isWhole = y.isWhole := by
  unfold isWhole
  rw [units_eq_of_signedUnits_eq h]

theorem truncate_eq_tdiv (x : Binary F) :
    x.truncate = x.signedUnits.tdiv (powTwo F.fractionBits) := by
  unfold truncate signedUnits
  split
  · rw [Int.neg_tdiv]
    rfl
  · rfl

theorem truncate_of_signedUnits {i : Int} (h : x.signedUnits = i * powTwo F.fractionBits) :
    x.truncate = i := by
  rw [truncate_eq_tdiv, h]
  exact Int.mul_tdiv_cancel i (Int.natCast_ne_zero.2 (powTwo_ne_zero _))

/-- A small whole number is its integer part. -/
theorem signedUnits_of_isSmallWhole {x : Binary binary64} (h : Json.isSmallWhole x = true) :
    x.signedUnits = x.truncate * powTwo binary64.fractionBits ∧
      x.truncate.natAbs < Json.wholeLimit := by
  obtain ⟨i, hunits, hlt⟩ := (Json.isSmallWhole_iff x).1 h
  rw [truncate_of_signedUnits hunits]
  exact ⟨hunits, hlt⟩

theorem truncate_congr (h : x.signedUnits = y.signedUnits) : x.truncate = y.truncate := by
  rw [truncate_eq_tdiv, truncate_eq_tdiv, h]

theorem isSmallWhole_congr {x y : Binary binary64} (h : x.signedUnits = y.signedUnits) :
    Json.isSmallWhole x = Json.isSmallWhole y := by
  unfold Json.isSmallWhole
  rw [isWhole_congr h, units_eq_of_signedUnits_eq h]

end ListingAttributes.Numeric.Binary

namespace ListingAttributes.Bounds

open Numeric

theorem covers_congr {x y : Binary binary64} (h : x.signedUnits = y.signedUnits)
    (bounds : Bounds) : bounds.covers x = bounds.covers y := by
  unfold covers Binary.le
  rw [h]

end ListingAttributes.Bounds
