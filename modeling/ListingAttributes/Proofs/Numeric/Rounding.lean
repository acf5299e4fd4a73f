import Mathlib.Tactic.Ring
import ListingAttributes.Numeric.Decimal

/-!
# The fractions that round to a number

A number of a format is what every fraction of its interval is rounded to: the
ends that `lowerEnd` and `upperEnd` name, each included exactly if the
significand is even (`Identified`).  Above the number the grid is the grid of
the number itself; below it the grid is the same one, or half as wide if the
number is the least of its size.

* `roundHalfEven_eq`: the integer that a fraction is rounded to;
* `spacingBits_above`, `spacingBits_below`, `spacingBits_narrow`: the grid;
* `nearestUnits_of_identified`: a fraction of the interval is rounded to the
  number.
-/

namespace ListingAttributes.Numeric

/-! ### Rounding to integers -/

/-- The multiples of a number that lie on one side of another multiple are a whole step away. -/
theorem mul_le_or_add_le_mul (den m q : Nat) : den * m ≤ den * q ∨ den * q + den ≤ den * m := by
  rcases Nat.lt_or_ge q m with h | h
  · have hstep := Nat.mul_le_mul_left den h
    rw [Nat.mul_succ] at hstep
    exact Or.inr hstep
  · exact Or.inl (Nat.mul_le_mul_left den h)

/-- **A fraction is rounded to `m`** if it lies within a half of `m`, and strictly within unless
`m` is even. -/
theorem roundHalfEven_eq {num den m : Nat} (hden : 0 < den)
    (hlow : 2 * (den * m) ≤ 2 * num + den) (hhigh : 2 * num ≤ 2 * (den * m) + den)
    (htie : m % 2 = 1 → 2 * (den * m) < 2 * num + den ∧ 2 * num < 2 * (den * m) + den) :
    roundHalfEven num den = m := by
  have hsplit := Nat.div_add_mod num den
  have hremainder := Nat.mod_lt num hden
  unfold roundHalfEven
  dsimp only
  generalize num / den = q at *
  generalize num % den = r at *
  -- any other quotient would put the fraction a whole step away from `m`
  have hquotient : q = m ∨ q + 1 = m := by
    have hge : m ≤ q + 1 := by
      apply Nat.le_of_not_lt
      intro hlt
      have hfar := Nat.mul_le_mul_left den hlt
      simp only [Nat.mul_succ] at hfar
      omega
    have hle : q ≤ m := by
      apply Nat.le_of_not_lt
      intro hlt
      have hfar := Nat.mul_le_mul_left den hlt
      rw [Nat.mul_succ] at hfar
      omega
    omega
  rcases hquotient with rfl | rfl
  · -- the quotient is `m`: the remainder is at most a half
    by_cases hhalf : 2 * r < den
    · rw [if_pos hhalf]
    · rw [if_neg hhalf, if_neg (by omega)]
      rcases Nat.mod_two_eq_zero_or_one q with heven | hodd
      · rw [heven, Nat.add_zero]
      · have hstrict := htie hodd
        omega
  · -- the quotient is one less: the remainder is at least a half
    rw [Nat.mul_succ] at hlow htie
    rw [if_neg (by omega)]
    by_cases hmore : den < 2 * r
    · rw [if_pos hmore]
    · rw [if_neg hmore]
      rcases Nat.mod_two_eq_zero_or_one q with heven | hodd
      · have hstrict := htie (by omega)
        omega
      · rw [hodd]

/-! ### The grid around a number -/

theorem bitLength_mono {m n : Nat} (h : m ≤ n) : bitLength m ≤ bitLength n :=
  (bitLength_le_iff m _).2 (Nat.lt_of_le_of_lt h (lt_powTwo_bitLength n))

theorem powTwo_lt_bitLength {n k : Nat} (h : powTwo k ≤ n) : k + 1 ≤ bitLength n := by
  rw [← bitLength_powTwo k]
  exact bitLength_mono h

theorem powTwo_pred_bitLength_le {n : Nat} (h : 0 < n) : powTwo (bitLength n - 1) ≤ n := by
  apply Nat.le_of_not_lt
  intro hlt
  have hle := (bitLength_le_iff _ _).2 hlt
  have hpos := powTwo_lt_bitLength (k := 0) h
  omega

/-- A multiple of a number that lies below another multiple lies a whole step below it. -/
theorem add_le_of_dvd_of_lt {s m n : Nat} (hm : s ∣ m) (hn : s ∣ n) (h : m < n) : m + s ≤ n := by
  obtain ⟨i, rfl⟩ := hm
  obtain ⟨j, rfl⟩ := hn
  rcases mul_le_or_add_le_mul s j i with hle | hge
  · omega
  · exact hge

theorem powTwo_succ (k : Nat) : powTwo (k + 1) = 2 * powTwo k := by
  rw [powTwo_add, Nat.mul_comm]
  rfl

variable {F : Format} {units f : Nat}

/-- Above a number the grid stays the same up to the next number. -/
theorem spacingBits_above (hgrid : powTwo (F.spacingBits units) ∣ units) (hle : units ≤ f)
    (hlt : f < units + powTwo (F.spacingBits units)) : F.spacingBits f = F.spacingBits units := by
  have hmono := bitLength_mono hle
  unfold Format.spacingBits at *
  by_cases hcoarse : F.precision < bitLength units
  · -- the next number is at most the next power of two, so the length does not grow
    have hnext : units + powTwo (bitLength units - F.precision) ≤ powTwo (bitLength units) :=
      add_le_of_dvd_of_lt hgrid (powTwo_dvd_powTwo (Nat.sub_le _ _)) (lt_powTwo_bitLength units)
    have hbits := (bitLength_le_iff f _).2 (Nat.lt_of_lt_of_le hlt hnext)
    omega
  · have hzero : bitLength units - F.precision = 0 := by omega
    rw [hzero] at hlt ⊢
    have hone : powTwo 0 = 1 := rfl
    have hsame : f = units := by omega
    rw [hsame, hzero]

/-- Below a number that is not the least of its size the grid stays the same up to the number
before. -/
theorem spacingBits_below (hgrid : powTwo (F.spacingBits units) ∣ units) (hlt : f < units)
    (hle : units ≤ f + powTwo (F.spacingBits units))
    (hnarrow : ¬(0 < F.spacingBits units ∧
      units = powTwo (F.precision - 1 + F.spacingBits units))) :
    F.spacingBits f = F.spacingBits units := by
  have hmono := bitLength_mono (Nat.le_of_lt hlt)
  have hprecision := F.precision_pos
  unfold Format.spacingBits at *
  by_cases hcoarse : F.precision < bitLength units
  · -- the number before is at least the power of two below, so the length does not shrink
    have hleast := powTwo_pred_bitLength_le (n := units) (by omega)
    have hne : units ≠ powTwo (bitLength units - 1) := by
      intro heq
      refine hnarrow ⟨by omega, ?_⟩
      rw [show F.precision - 1 + (bitLength units - F.precision) = bitLength units - 1 by omega]
      exact heq
    have hnext : powTwo (bitLength units - 1) + powTwo (bitLength units - F.precision) ≤ units :=
      add_le_of_dvd_of_lt (powTwo_dvd_powTwo (by omega)) hgrid (by omega)
    have hbits := powTwo_lt_bitLength (n := f) (k := bitLength units - 1) (by omega)
    omega
  · omega

/-- Below the least number of a size the grid is half as wide. -/
theorem spacingBits_narrow (hspacing : 0 < F.spacingBits units)
    (hleast : units = powTwo (F.precision - 1 + F.spacingBits units)) (hlt : f < units)
    (hle : units ≤ f + powTwo (F.spacingBits units - 1)) :
    F.spacingBits f = F.spacingBits units - 1 := by
  have hprecision := F.precision_pos
  generalize hs : F.spacingBits units = s at *
  have htop : bitLength f ≤ F.precision - 1 + s := by
    rw [bitLength_le_iff, ← hleast]
    exact hlt
  have hhalf : powTwo (F.precision - 1 + s) = 2 * powTwo (F.precision - 1 + s - 1) :=
    calc powTwo (F.precision - 1 + s)
        = powTwo (F.precision - 1 + s - 1 + 1) := by congr 1; omega
      _ = 2 * powTwo (F.precision - 1 + s - 1) := powTwo_succ _
  have hstep : powTwo (s - 1) ≤ powTwo (F.precision - 1 + s - 1) := powTwo_le_powTwo (by omega)
  have hbits := powTwo_lt_bitLength (n := f) (k := F.precision - 1 + s - 1) (by omega)
  unfold Format.spacingBits
  omega

/-! ### Rounding to the grid -/

variable {num den m : Nat}

/-- A fraction near a point of its own grid is rounded to that point. -/
theorem nearestUnits_of_near {t : Nat} (hden : 0 < den) (hgrid : F.spacingBits (num / den) = t)
    (hunits : units = powTwo t * m) (hlow : 2 * (units * den) ≤ 2 * num + powTwo t * den)
    (hhigh : 2 * num ≤ 2 * (units * den) + powTwo t * den)
    (htie : m % 2 = 1 → 2 * (units * den) < 2 * num + powTwo t * den ∧
      2 * num < 2 * (units * den) + powTwo t * den) : F.nearestUnits num den = units := by
  have hpoint : units * den = den * powTwo t * m := by
    rw [hunits]
    ring
  rw [hpoint, Nat.mul_comm _ den] at hlow hhigh htie
  unfold Format.nearestUnits
  dsimp only
  rw [hgrid, roundHalfEven_eq (Nat.mul_pos hden (powTwo_pos t)) hlow hhigh htie, hunits,
    Nat.mul_comm]

theorem floor_lt (num : Nat) (hden : 0 < den) : num < (num / den + 1) * den := by
  rw [Nat.mul_comm]
  exact Nat.lt_mul_div_succ num hden

/-- A fraction above a number, by at most half the spacing, is rounded to the number. -/
theorem nearestUnits_above (hden : 0 < den) (hunits : units = powTwo (F.spacingBits units) * m)
    (hside : units * den ≤ num)
    (hhigh : 2 * num ≤ 2 * (units * den) + powTwo (F.spacingBits units) * den)
    (htie : m % 2 = 1 → 2 * num < 2 * (units * den) + powTwo (F.spacingBits units) * den) :
    F.nearestUnits num den = units := by
  have hstep : 0 < powTwo (F.spacingBits units) * den := Nat.mul_pos (powTwo_pos _) hden
  have hge : units ≤ num / den := (Nat.le_div_iff_mul_le hden).2 hside
  have hlt : num / den < units + powTwo (F.spacingBits units) := by
    rw [Nat.div_lt_iff_lt_mul hden, Nat.add_mul]
    omega
  refine nearestUnits_of_near hden (spacingBits_above ⟨m, hunits⟩ hge hlt) hunits (by omega)
    hhigh fun hodd => ?_
  have hopen := htie hodd
  omega

/-- A fraction below a number, by at most half the spacing, is rounded to the number if that is
not the least of its size. -/
theorem nearestUnits_below (hden : 0 < den) (hunits : units = powTwo (F.spacingBits units) * m)
    (hnarrow : ¬(0 < F.spacingBits units ∧
      units = powTwo (F.precision - 1 + F.spacingBits units)))
    (hside : num < units * den)
    (hlow : 2 * (units * den) ≤ 2 * num + powTwo (F.spacingBits units) * den)
    (htie : m % 2 = 1 → 2 * (units * den) < 2 * num + powTwo (F.spacingBits units) * den) :
    F.nearestUnits num den = units := by
  have hspacing := powTwo_pos (F.spacingBits units)
  have hlt : num / den < units := (Nat.div_lt_iff_lt_mul hden).2 hside
  have hfloor := floor_lt num hden
  have hclose : 2 * units < 2 * (num / den + 1) + powTwo (F.spacingBits units) := by
    refine Nat.lt_of_mul_lt_mul_right (a := den) ?_
    rw [Nat.add_mul, Nat.mul_assoc, Nat.mul_assoc]
    omega
  refine nearestUnits_of_near hden (spacingBits_below ⟨m, hunits⟩ hlt (by omega) hnarrow) hunits
    hlow (by omega) fun hodd => ?_
  have hopen := htie hodd
  omega

/-- A fraction below the least number of a size, by at most a quarter of the spacing, is rounded
to the number. -/
theorem nearestUnits_narrow (hden : 0 < den) (hunits : units = powTwo (F.spacingBits units) * m)
    (hspacing : 0 < F.spacingBits units)
    (hleast : units = powTwo (F.precision - 1 + F.spacingBits units))
    (hside : num < units * den)
    (hlow : 4 * (units * den) ≤ 4 * num + powTwo (F.spacingBits units) * den) :
    F.nearestUnits num den = units := by
  have hhalf : powTwo (F.spacingBits units) = 2 * powTwo (F.spacingBits units - 1) := by
    rw [← powTwo_succ, Nat.sub_add_cancel hspacing]
  have hpos := powTwo_pos (F.spacingBits units - 1)
  have hlt : num / den < units := (Nat.div_lt_iff_lt_mul hden).2 hside
  have hfloor := floor_lt num hden
  rw [hhalf, Nat.mul_assoc] at hlow
  have hclose : 2 * units < 2 * (num / den + 1) + powTwo (F.spacingBits units - 1) := by
    refine Nat.lt_of_mul_lt_mul_right (a := den) ?_
    rw [Nat.add_mul, Nat.mul_assoc, Nat.mul_assoc]
    omega
  -- on the finer grid the number is an even multiple, to which a tie falls
  have hdouble : units = powTwo (F.spacingBits units - 1) * (2 * m) := by
    rw [hhalf] at hunits
    rw [Nat.mul_left_comm, ← Nat.mul_assoc]
    exact hunits
  refine nearestUnits_of_near hden (spacingBits_narrow hspacing hleast hlt (by omega)) hdouble
    (by omega) (by omega) fun hodd => ?_
  omega

/-! ### The interval of a number -/

namespace Binary

/-- Whether a fraction of units lies in the interval of a number. -/
def Identified (x : Binary F) (num den : Nat) : Prop :=
  if x.closedEnds then x.lowerEnd * den ≤ 4 * num ∧ 4 * num ≤ x.upperEnd * den
  else x.lowerEnd * den < 4 * num ∧ 4 * num < x.upperEnd * den

theorem readsBack_iff_identified (x : Binary F) (d : Decimal) :
    x.readsBack d = true ↔ x.Identified (d.numerator * powTwo F.fractionBits) d.denominator := by
  unfold readsBack Identified
  dsimp only
  rw [Nat.mul_assoc 4]
  split <;> simp

theorem Identified.bounds {x : Binary F} (h : x.Identified num den) :
    x.lowerEnd * den ≤ 4 * num ∧ 4 * num ≤ x.upperEnd * den := by
  unfold Identified at h
  split at h
  · exact h
  · exact ⟨Nat.le_of_lt h.1, Nat.le_of_lt h.2⟩

theorem Identified.strict {x : Binary F} (h : x.Identified num den)
    (hopen : x.closedEnds = false) :
    x.lowerEnd * den < 4 * num ∧ 4 * num < x.upperEnd * den := by
  unfold Identified at h
  rw [if_neg (by rw [hopen]; exact Bool.false_ne_true)] at h
  exact h

theorem narrowBelow_iff (x : Binary F) :
    x.narrowBelow = true ↔ 0 < F.spacingBits x.units ∧
      x.units = powTwo (F.precision - 1 + F.spacingBits x.units) := by
  simp [narrowBelow]

/-- The spacing of a number other than zero is at most the number. -/
theorem spacing_le_units {x : Binary F} (hpos : 0 < x.units) :
    powTwo (F.spacingBits x.units) ≤ x.units :=
  Nat.le_of_dvd hpos x.representable.2

theorem lowerEnd_add (x : Binary F) (hpos : 0 < x.units) :
    x.lowerEnd + (if x.narrowBelow then 1 else 2) * powTwo (F.spacingBits x.units) =
      4 * x.units := by
  have hspacing := spacing_le_units hpos
  unfold lowerEnd
  split <;> omega

/-- **A fraction of the interval is rounded to the number.** -/
theorem nearestUnits_of_identified {x : Binary F} (hpos : 0 < x.units) (hden : 0 < den)
    (h : x.Identified num den) : F.nearestUnits num den = x.units := by
  obtain ⟨hlow, hhigh⟩ := h.bounds
  have hstrict := h.strict
  have hlower := congrArg (fun units => units * den) (lowerEnd_add x hpos)
  obtain ⟨m, hunits⟩ := x.representable.2
  have hclosed : x.closedEnds = (m % 2 == 0) := by
    have hdiv : x.units / powTwo (F.spacingBits x.units) = m :=
      Nat.div_eq_of_eq_mul_right (powTwo_pos _) hunits
    rw [closedEnds, hdiv]
  have hopen : m % 2 = 1 → x.closedEnds = false := fun hodd => by
    rw [hclosed, hodd]
    rfl
  unfold upperEnd at hhigh hstrict
  simp only [Nat.add_mul, Nat.mul_assoc] at hhigh hstrict hlower
  -- above the number its own grid decides; below it the spacing may be half as wide
  by_cases hside : x.units * den ≤ num
  · refine nearestUnits_above hden hunits hside (by omega) fun hodd => ?_
    have hinside := hstrict (hopen hodd)
    omega
  · by_cases hnarrow : x.narrowBelow = true
    · obtain ⟨hspacing, hleast⟩ := (narrowBelow_iff x).1 hnarrow
      rw [if_pos hnarrow, Nat.one_mul] at hlower
      exact nearestUnits_narrow hden hunits hspacing hleast (by omega) (by omega)
    · rw [if_neg hnarrow] at hlower
      refine nearestUnits_below hden hunits (fun h => hnarrow ((narrowBelow_iff x).2 h))
        (by omega) (by omega) fun hodd => ?_
      have hinside := hstrict (hopen hodd)
      omega

end Binary

end ListingAttributes.Numeric
