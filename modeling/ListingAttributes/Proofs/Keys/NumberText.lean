import ListingAttributes.ProductKey
import ListingAttributes.Proofs.Numeric.Integers
import ListingAttributes.Proofs.Numeric.ReadingBack
import ListingAttributes.Proofs.Numeric.SameValue

/-!
# Numbers in a key

A key shows a small whole number as an integer and every other number in plain
notation.  Either text is read as a number of the same value
(`read_numberText`), so two numbers have the same text in a key exactly if
they have the same value (`numberText_eq_iff`).
-/

namespace ListingAttributes.ProductKey

open Numeric

/-- A natural number of no more bits than the precision is read exactly. -/
theorem ofDecimal?_natural {n : Nat} (h : n < powTwo binary64.precision) (negative : Bool) :
    Binary.ofDecimal? negative ⟨n, 0⟩ =
      some (⟨negative, n * powTwo binary64.fractionBits, representable_integer h⟩ :
        Binary binary64) := by
  by_cases hzero : n = 0
  · subst hzero
    unfold Binary.ofDecimal?
    dsimp only
    rw [if_pos (Or.inl rfl)]
    simp only [Binary.zero, Nat.zero_mul]
  · have hlength : (⟨n, 0⟩ : Decimal).length ≤ 16 := by
      refine (Nat.length_toDigits_le_iff (by decide) (by decide)).2 (Nat.lt_trans h ?_)
      decide
    -- the guards on the magnitude let every number of so few digits pass
    have hnumerator : (⟨n, 0⟩ : Decimal).numerator = n := Nat.mul_one n
    have hdenominator : (⟨n, 0⟩ : Decimal).denominator = 1 := rfl
    have hlow : ¬(0 + ((⟨n, 0⟩ : Decimal).length : Int) < -(binary64.fractionBits : Int)) := by
      omega
    have hhigh : ¬((binary64.rangeBits : Int) < 0 + (⟨n, 0⟩ : Decimal).length) := by
      have hrange : binary64.rangeBits = 2098 := rfl
      omega
    unfold Binary.ofDecimal?
    dsimp only
    rw [if_neg (not_or.2 ⟨hzero, hlow⟩), if_neg hhigh, hnumerator, hdenominator]
    exact ofUnits?_representable negative (representable_integer h)

theorem ofUnsignedText?_digitsOf {n : Nat} (h : n < powTwo binary64.precision)
    (negative : Bool) :
    Extended.ofUnsignedText? negative (digitsOf n) = some (.finite
      (⟨negative, n * powTwo binary64.fractionBits, representable_integer h⟩ :
        Binary binary64)) := by
  have hread := ofText?_whole (digitsOf n) []
    (fun c hc => isAsciiDigit_of_mem_digitsOf hc) (digitsOf_ne_nil n) startsNoDigit_nil rfl
  rw [List.append_nil, decimalValue_digitsOf] at hread
  obtain ⟨c, rest, hcons, hdigit⟩ := head_digitsOf n
  have hvalue : Decimal.ofText? (digitsOf n) = some ⟨n, 0⟩ := hread
  rw [hcons, ofUnsignedText?_digit negative hdigit, ← hcons, hvalue, Option.map_some,
    ofDecimal?_natural h]

/-- The text of an integer of no more bits than the precision is read as that integer. -/
theorem ofText?_intText {i : Int} (h : i.natAbs < powTwo binary64.precision) :
    ∃ x : Binary binary64, Extended.ofText? (Json.intText i) = some (.finite x) ∧
      x.signedUnits = i * powTwo binary64.fractionBits := by
  have hread := ofUnsignedText?_digitsOf h
  unfold Json.intText
  by_cases hneg : i < 0
  · rw [if_pos hneg]
    exact ⟨_, hread true, signedUnits_of_natAbs (decide_eq_true hneg).symm rfl⟩
  · obtain ⟨c, rest, hcons, hdigit⟩ := head_digitsOf i.natAbs
    rw [if_neg hneg, hcons, ofText?_digit hdigit, ← hcons]
    exact ⟨_, hread false, signedUnits_of_natAbs (decide_eq_false hneg).symm rfl⟩

/-! ### Texts in a key -/

/-- **The text of a number in a key is read as a number of the same value.** -/
theorem read_numberText (x : Binary binary64) :
    ∃ y : Binary binary64, Extended.ofText? (numberText x) = some (.finite y) ∧
      y.signedUnits = x.signedUnits := by
  unfold numberText
  by_cases hsmall : Json.isSmallWhole x = true
  · rw [if_pos hsmall]
    obtain ⟨hunits, hlt⟩ := Binary.signedUnits_of_isSmallWhole hsmall
    rw [hunits]
    exact ofText?_intText (Nat.lt_trans hlt (by decide))
  · rw [if_neg hsmall]
    exact ⟨x, ofText?_text plainStyle x, rfl⟩

/-- **Numbers have the same text in a key exactly if they have the same value.** -/
theorem numberText_eq_iff {x y : Binary binary64} :
    numberText x = numberText y ↔ x.signedUnits = y.signedUnits := by
  constructor
  · intro h
    obtain ⟨u, hu, hux⟩ := read_numberText x
    obtain ⟨v, hv, hvy⟩ := read_numberText y
    rw [h, hv, Option.some.injEq, Extended.finite.injEq] at hu
    rw [← hux, ← hvy, hu]
  · intro h
    unfold numberText
    rw [Binary.isSmallWhole_congr h, Binary.truncate_congr h]
    by_cases hsmall : Json.isSmallWhole y = true
    · rw [if_pos hsmall, if_pos hsmall]
    · -- a number that is no small whole number is not zero, so the two are equal
      rw [if_neg hsmall, if_neg hsmall]
      have hpos : 0 < x.units := by
        refine Nat.pos_of_ne_zero fun hzero => hsmall ?_
        rw [← Binary.isSmallWhole_congr h]
        unfold Json.isSmallWhole Binary.isWhole
        rw [hzero]
        decide +kernel
      rw [Binary.eq_of_signedUnits_eq h hpos]

end ListingAttributes.ProductKey
