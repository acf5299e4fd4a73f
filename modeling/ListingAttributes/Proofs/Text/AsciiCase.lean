import Mathlib
import ListingAttributes.Text.DecimalDigit
import ListingAttributes.Text.LowerCase

/-!
# The case of ASCII letters

Texts are compared without their case in lower case or in capitals, which is
the same (`map_toUpper_eq_iff`).  A text without letters differs in case from
no other text (`eq_of_map_toLower`), and decimal digits are no letters.
-/

namespace ListingAttributes.Text

theorem sameButAsciiCase_iff {left right : List Char} :
    sameButAsciiCase left right = true ↔ left.map Char.toLower = right.map Char.toLower := by
  simp [sameButAsciiCase]

/-- Texts may be compared in capitals or in lower case. -/
theorem map_toUpper_eq_iff {left right : List Char} :
    left.map Char.toUpper = right.map Char.toUpper ↔
      left.map Char.toLower = right.map Char.toLower := by
  have hlower : Char.toLower ∘ Char.toUpper = Char.toLower := by
    funext c
    exact Char.toLower_toUpper_eq_toLower c
  have hupper : Char.toUpper ∘ Char.toLower = Char.toUpper := by
    funext c
    exact Char.toUpper_toLower_eq_toUpper c
  constructor
  · intro h
    simpa [hlower] using congrArg (List.map Char.toLower) h
  · intro h
    simpa [hupper] using congrArg (List.map Char.toUpper) h

/-! ### Characters without case -/

/-- The code points of letters. -/
theorem toNat_of_isAlpha {c : Char} (h : c.isAlpha = true) :
    (65 ≤ c.toNat ∧ c.toNat ≤ 90) ∨ (97 ≤ c.toNat ∧ c.toNat ≤ 122) := by
  simp only [Char.isAlpha, Char.isUpper, Char.isLower, Bool.or_eq_true, Bool.and_eq_true,
    decide_eq_true_eq, UInt32.le_iff_toNat_le, ge_iff_le] at h
  exact h

theorem toLower_of_not_isAlpha {c : Char} (h : c.isAlpha = false) : c.toLower = c := by
  simp only [Char.isAlpha, Bool.or_eq_false_iff] at h
  apply Char.toLower_eq_of_not_isUpper
  simp [h.1]

theorem eq_of_toLower_eq {c d : Char} (hc : c.isAlpha = false) (h : d.toLower = c.toLower) :
    d = c := by
  have hd : d.isAlpha = false := by
    rw [← Char.isAlpha_toLower_eq_isAlpha, h, Char.isAlpha_toLower_eq_isAlpha, hc]
  rwa [toLower_of_not_isAlpha hc, toLower_of_not_isAlpha hd] at h

/-- **A text without letters** differs in case from no other text. -/
theorem eq_of_map_toLower {text other : List Char} (htext : ∀ c ∈ text, c.isAlpha = false)
    (h : other.map Char.toLower = text.map Char.toLower) : other = text := by
  induction text generalizing other with
  | nil => simpa using h
  | cons c text ih =>
      obtain ⟨d, rest, rfl, hd, hrest⟩ := List.map_eq_cons_iff.1 h
      rw [List.forall_mem_cons] at htext
      rw [eq_of_toLower_eq htext.1 hd, ih htext.2 hrest]

/-- No decimal digit is a letter. -/
theorem isAlpha_of_isDecimalDigit {c : Char} (h : isDecimalDigit c = true) :
    c.isAlpha = false := by
  have hapart : ∀ range ∈ decimalDigitRanges, range.2 < 65 ∨ 122 < range.1 := by decide
  obtain ⟨range, hrange, hcovers⟩ := List.any_eq_true.1 h
  have hside := hapart range hrange
  rw [Bool.and_eq_true, decide_eq_true_eq, decide_eq_true_eq] at hcovers
  rw [← Bool.not_eq_true]
  intro hletter
  have hcode := toNat_of_isAlpha hletter
  omega

end ListingAttributes.Text
