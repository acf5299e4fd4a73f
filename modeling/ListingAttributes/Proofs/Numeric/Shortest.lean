import Mathlib.Algebra.Order.Field.Power
import Mathlib.Tactic.FieldSimp
import Mathlib.Tactic.Linarith
import Mathlib.Tactic.NormNum
import Mathlib.Tactic.Positivity
import ListingAttributes.Proofs.Numeric.Rounding

/-!
# Shortest decimals identify their number

A decimal stands for a rational number (`Decimal.value`), and the interval of
a number is an interval of rationals (`Contains`).  The shortest decimal lies
in it, whichever candidate was taken (`contains_shortest`), and every decimal
that does is read as the number (`ofDecimal?_of_contains`).  So the shortest
decimal is read back, and two numbers with the same one are the same.
-/

namespace ListingAttributes.Numeric

/-! ### The value of a decimal -/

theorem powTen_cast (k : Nat) : (powTen k : ℚ) = 10 ^ k := by
  show ((10 ^ k : Nat) : ℚ) = 10 ^ k
  push_cast
  rfl

namespace Decimal

/-- The rational number that a decimal stands for. -/
def value (d : Decimal) : ℚ := d.digits * 10 ^ d.exponent

theorem denominator_pos (d : Decimal) : 0 < d.denominator := Nat.pow_pos (by decide)

theorem value_eq_div (d : Decimal) : d.value = (d.numerator : ℚ) / d.denominator := by
  unfold value numerator denominator
  push_cast
  rw [powTen_cast, powTen_cast]
  rcases Int.le_total 0 d.exponent with h | h
  · obtain ⟨k, hk⟩ := Int.eq_ofNat_of_zero_le h
    rw [hk, Int.toNat_natCast, show (-(k : Int)).toNat = 0 by omega, pow_zero, div_one,
      zpow_natCast]
  · obtain ⟨k, hk⟩ := Int.eq_ofNat_of_zero_le (Int.neg_nonneg_of_nonpos h)
    have hexponent : d.exponent = -(k : Int) := by omega
    rw [hk, hexponent, show (-(k : Int)).toNat = 0 by omega, Int.toNat_natCast, pow_zero, mul_one,
      zpow_neg, zpow_natCast, div_eq_mul_inv]

/-- Moving zeros into the exponent keeps the value. -/
theorem value_strip (limit : Nat) (d : Decimal) : (d.strip limit).value = d.value := by
  induction limit generalizing d with
  | zero => rfl
  | succ limit ih =>
      rw [strip]
      split
      · next h =>
        have hdigits : (d.digits : ℚ) = 10 * (d.digits / 10 : Nat) := by
          exact_mod_cast (Nat.mul_div_cancel' (Nat.dvd_of_mod_eq_zero h.1)).symm
        rw [ih]
        unfold value
        dsimp only
        rw [hdigits, zpow_add_one₀ (by norm_num)]
        ring
      · rfl

theorem digits_lt (d : Decimal) : d.digits < 10 ^ d.length :=
  (Nat.length_toDigits_le_iff (by decide) Nat.length_toDigits_pos).1 (Nat.le_refl _)

theorem le_digits {d : Decimal} (hpos : 0 < d.digits) : 10 ^ (d.length - 1) ≤ d.digits := by
  apply Nat.le_of_not_lt
  intro hlt
  have hlength : 0 < d.length := Nat.length_toDigits_pos
  by_cases hone : d.length - 1 = 0
  · rw [hone, Nat.pow_zero] at hlt
    omega
  · have hle := (Nat.length_toDigits_le_iff (by decide) (by omega)).2 hlt
    have hsame : d.length = (Nat.toDigits 10 d.digits).length := rfl
    omega

/-- The leading digit of a decimal places its value between two powers of ten. -/
theorem value_lt (d : Decimal) : d.value < 10 ^ (d.exponent + d.length) := by
  unfold value
  rw [zpow_add₀ (by norm_num), mul_comm, zpow_natCast]
  refine mul_lt_mul_of_pos_left ?_ (by positivity)
  exact_mod_cast digits_lt d

theorem le_value {d : Decimal} (hpos : 0 < d.digits) :
    10 ^ (d.exponent + d.length - 1) ≤ d.value := by
  have hlength : 0 < d.length := Nat.length_toDigits_pos
  unfold value
  rw [show d.exponent + d.length - 1 = d.exponent + ((d.length - 1 : Nat) : Int) by omega,
    zpow_add₀ (by norm_num), mul_comm, zpow_natCast]
  refine mul_le_mul_of_nonneg_right ?_ (by positivity)
  exact_mod_cast le_digits hpos

end Decimal

/-! ### The interval of a number -/

namespace Binary

variable {F : Format} {x : Binary F} {d : Decimal}

/-- Whether a rational number lies in the interval of a number. -/
def Contains (x : Binary F) (q : ℚ) : Prop :=
  if x.closedEnds then
    x.lowerEnd ≤ 4 * q * powTwo F.fractionBits ∧ 4 * q * powTwo F.fractionBits ≤ x.upperEnd
  else x.lowerEnd < 4 * q * powTwo F.fractionBits ∧ 4 * q * powTwo F.fractionBits < x.upperEnd

theorem Contains.bounds {q : ℚ} (h : x.Contains q) :
    x.lowerEnd ≤ 4 * q * powTwo F.fractionBits ∧
      4 * q * powTwo F.fractionBits ≤ x.upperEnd := by
  unfold Contains at h
  split at h
  · exact h
  · exact ⟨le_of_lt h.1, le_of_lt h.2⟩

/-- A decimal is in the interval as a fraction exactly if its value is. -/
theorem identified_iff_contains :
    x.Identified (d.numerator * powTwo F.fractionBits) d.denominator ↔ x.Contains d.value := by
  have hden : (0 : ℚ) < d.denominator := by exact_mod_cast d.denominator_pos
  have hscaled : 4 * d.value * powTwo F.fractionBits =
      (4 * (d.numerator * powTwo F.fractionBits) : Nat) / (d.denominator : ℚ) := by
    rw [Decimal.value_eq_div]
    push_cast
    ring
  unfold Identified Contains
  rw [hscaled]
  split
  · rw [le_div_iff₀ hden, div_le_iff₀ hden]
    norm_cast
  · rw [lt_div_iff₀ hden, div_lt_iff₀ hden]
    norm_cast

theorem readsBack_iff : x.readsBack d = true ↔ x.Contains d.value := by
  rw [readsBack_iff_identified, identified_iff_contains]

/-! ### The shortest decimal -/

theorem readsBack_of_candidate? {tie : TieRule} {count : Nat}
    (h : x.candidate? tie count = some d) : x.readsBack d = true := by
  unfold candidate? at h
  dsimp only at h
  split at h
  · next hbelow habove =>
    split at h
    · obtain rfl := Option.some.inj h
      exact hbelow
    · split at h
      · obtain rfl := Option.some.inj h
        exact habove
      · split at h
        · obtain rfl := Option.some.inj h
          exact hbelow
        · obtain rfl := Option.some.inj h
          exact habove
  · next hbelow _ =>
    obtain rfl := Option.some.inj h
    exact hbelow
  · next _ habove =>
    obtain rfl := Option.some.inj h
    exact habove
  · cases h

theorem lowerEnd_lt (hpos : 0 < x.units) : x.lowerEnd < 4 * x.units := by
  have hlower := lowerEnd_add x hpos
  have hspacing := powTwo_pos (F.spacingBits x.units)
  split at hlower <;> omega

theorem lowerEnd_pos (hpos : 0 < x.units) : 2 ≤ x.lowerEnd := by
  have hlower := lowerEnd_add x hpos
  have hspacing := spacing_le_units hpos
  split at hlower <;> omega

/-- The number itself lies in its interval. -/
theorem contains_exactDecimal (hpos : 0 < x.units) : x.Contains x.exactDecimal.value := by
  have hvalue : 4 * x.exactDecimal.value * powTwo F.fractionBits = (4 * x.units : Nat) := by
    have hten : (10 : ℚ) ^ F.fractionBits = 5 ^ F.fractionBits * 2 ^ F.fractionBits := by
      rw [← mul_pow]
      norm_num
    have hfive : ((Nat.pow 5 F.fractionBits : Nat) : ℚ) = 5 ^ F.fractionBits := by
      exact_mod_cast rfl
    have htwo : (powTwo F.fractionBits : ℚ) = 2 ^ F.fractionBits := by
      exact_mod_cast rfl
    unfold Decimal.value exactDecimal
    dsimp only
    push_cast
    rw [hfive, htwo, zpow_neg, zpow_natCast, hten]
    field_simp
  have hlow : (x.lowerEnd : ℚ) < (4 * x.units : Nat) := by
    exact_mod_cast lowerEnd_lt hpos
  have hhigh : ((4 * x.units : Nat) : ℚ) < x.upperEnd := by
    have hspacing := powTwo_pos (F.spacingBits x.units)
    have hlt : 4 * x.units < x.upperEnd := by
      unfold upperEnd
      omega
    exact_mod_cast hlt
  unfold Contains
  rw [hvalue]
  split
  · exact ⟨le_of_lt hlow, le_of_lt hhigh⟩
  · exact ⟨hlow, hhigh⟩

/-- **The shortest decimal lies in the interval** of its number. -/
theorem contains_shortest (tie : TieRule) (hpos : 0 < x.units) :
    x.Contains (x.shortest tie).value := by
  unfold shortest
  rw [if_neg (by omega)]
  split
  · next found hfound =>
    obtain ⟨i, _, hcandidate⟩ := List.exists_of_findSome?_eq_some hfound
    rw [Decimal.value_strip]
    exact readsBack_iff.1 (readsBack_of_candidate? hcandidate)
  · -- no candidate was found, and the decimal is the number itself
    exact contains_exactDecimal hpos

/-! ### Reading decimals -/

theorem digits_pos_of_contains (hpos : 0 < x.units) (h : x.Contains d.value) : 0 < d.digits := by
  apply Nat.pos_of_ne_zero
  intro hzero
  have hlow := h.bounds.1
  have hvalue : d.value = 0 := by
    unfold Decimal.value
    rw [hzero]
    norm_num
  rw [hvalue, mul_zero, zero_mul] at hlow
  have hlower : (2 : ℚ) ≤ x.lowerEnd := by exact_mod_cast lowerEnd_pos hpos
  linarith

/-- The leading digit of a decimal in the interval does not stand far below the range. -/
theorem le_leading (hpos : 0 < x.units) (h : x.Contains d.value) :
    -(F.fractionBits : Int) ≤ d.exponent + d.length := by
  apply le_of_not_gt
  intro hlt
  -- a tenth of a unit lies below the lower end of every interval
  have hvalue : d.value * powTwo F.fractionBits < 1 / 10 := by
    have hpower : d.value < 1 / 10 * (1 / 10 ^ F.fractionBits) := by
      refine lt_of_lt_of_le d.value_lt ?_
      rw [one_div_mul_one_div, ← pow_succ', one_div, ← zpow_natCast, ← zpow_neg]
      exact zpow_le_zpow_right₀ (by norm_num) (by push_cast; omega)
    have htwo : (powTwo F.fractionBits : ℚ) ≤ 10 ^ F.fractionBits := by
      exact_mod_cast Nat.pow_le_pow_left (by decide : 2 ≤ 10) F.fractionBits
    have hten : (0 : ℚ) < 10 ^ F.fractionBits := by positivity
    have hscale : (0 : ℚ) < powTwo F.fractionBits := by exact_mod_cast powTwo_pos _
    calc d.value * powTwo F.fractionBits
        < 1 / 10 * (1 / 10 ^ F.fractionBits) * powTwo F.fractionBits :=
          mul_lt_mul_of_pos_right hpower hscale
      _ ≤ 1 / 10 * (1 / 10 ^ F.fractionBits) * 10 ^ F.fractionBits :=
          mul_le_mul_of_nonneg_left htwo (by positivity)
      _ = 1 / 10 := by field_simp
  have hlow := h.bounds.1
  have hlower : (2 : ℚ) ≤ x.lowerEnd := by exact_mod_cast lowerEnd_pos hpos
  rw [mul_assoc] at hlow
  linarith

theorem rangeBits_pos (hpos : 0 < x.units) : 0 < F.rangeBits := by
  apply Nat.pos_of_ne_zero
  intro hzero
  have hrange := x.representable.1
  rw [hzero] at hrange
  have hone : powTwo 0 = 1 := rfl
  omega

/-- The leading digit of a decimal in the interval does not stand above the range. -/
theorem leading_le (hpos : 0 < x.units) (h : x.Contains d.value) :
    d.exponent + d.length ≤ F.rangeBits := by
  apply le_of_not_gt
  intro hlt
  -- the upper end is less than half a spacing beyond the range, and ten is five times two
  have hvalue : (10 : ℚ) ^ F.rangeBits ≤ d.value :=
    calc (10 : ℚ) ^ F.rangeBits
        = 10 ^ (F.rangeBits : Int) := (zpow_natCast _ _).symm
      _ ≤ 10 ^ (d.exponent + d.length - 1) := zpow_le_zpow_right₀ (by norm_num) (by omega)
      _ ≤ d.value := Decimal.le_value (digits_pos_of_contains hpos h)
  have hupper : (x.upperEnd : ℚ) ≤ 6 * 2 ^ F.rangeBits := by
    have hspacing := spacing_le_units hpos
    have hrange : x.units < 2 ^ F.rangeBits := x.representable.1
    have hle : x.upperEnd ≤ 6 * 2 ^ F.rangeBits := by
      unfold upperEnd
      omega
    exact_mod_cast hle
  have hten : (5 : ℚ) * 2 ^ F.rangeBits ≤ 10 ^ F.rangeBits := by
    rw [show (10 : ℚ) = 5 * 2 by norm_num, mul_pow]
    refine mul_le_mul_of_nonneg_right ?_ (by positivity)
    exact le_self_pow₀ (by norm_num) (Nat.pos_iff_ne_zero.1 (rangeBits_pos hpos))
  have hscale : (1 : ℚ) ≤ powTwo F.fractionBits := by exact_mod_cast powTwo_pos _
  have hunits : d.value ≤ d.value * powTwo F.fractionBits :=
    le_mul_of_one_le_right (le_trans (by positivity) hvalue) hscale
  have hhigh := h.bounds.2
  have hpower : (0 : ℚ) < 2 ^ F.rangeBits := by positivity
  rw [mul_assoc] at hhigh
  linarith

/-- **A decimal in the interval is read as the number.** -/
theorem ofDecimal?_of_contains (hpos : 0 < x.units) (h : x.Contains d.value) :
    ofDecimal? x.negative d = some x := by
  have hdigits := digits_pos_of_contains hpos h
  have hlow := le_leading hpos h
  have hhigh := leading_le hpos h
  have hnearest := nearestUnits_of_identified hpos d.denominator_pos
    (identified_iff_contains.2 h)
  unfold ofDecimal? ofUnits?
  dsimp only
  -- the decimal is neither too great nor too small to be placed at all
  rw [if_neg (by omega), if_neg (by omega), dif_pos (by rw [hnearest]; exact x.representable.1)]
  simp only [hnearest]

end Binary

end ListingAttributes.Numeric
