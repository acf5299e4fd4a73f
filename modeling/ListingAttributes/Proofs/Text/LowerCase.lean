import ListingAttributes.Text.LowerCase
import ListingAttributes.Proofs.Text.Trimming

/-!
# Characters that lower-casing cannot make

The lower-case form of a character is the character itself or lies beyond the
capital letters.  A digit, a space or a mark of punctuation in a lower-cased
text therefore stands in the text itself (`mem_of_mem_lower`).  A blank text is
its own lower-case form (`lower_of_isBlank`).
-/

namespace ListingAttributes.Text

/-- The code point that the capital letters start with. -/
def firstCapital : Nat := 0x41

/-- A run takes its letters to valid code points that are no smaller than the first capital. -/
def CaseRun.IsHigh (run : CaseRun) : Prop :=
  (firstCapital : Int) ≤ run.first + run.offset ∧
    ((run.last : Int) + run.offset < 0xD800 ∨
      (0xDFFF : Int) < run.first + run.offset ∧ (run.last : Int) + run.offset < 0x110000)

instance (run : CaseRun) : Decidable run.IsHigh := inferInstanceAs (Decidable (_ ∧ _))

theorem isHigh_caseRuns : ∀ run ∈ caseRuns, run.IsHigh := by
  decide +kernel

theorem toNat_toLower (c : Char) : c.toLower = c ∨ firstCapital ≤ c.toLower.toNat := by
  by_cases hupper : c.val ≥ 'A'.val ∧ c.val ≤ 'Z'.val
  · right
    have hlow : 65 ≤ c.val.toNat := hupper.1
    have hhigh : c.val.toNat ≤ 90 := hupper.2
    have hlower : c.toLower.toNat = (c.val + ('a'.val - 'A'.val)).toNat :=
      congrArg Char.toNat (dif_pos hupper)
    rw [hlower, UInt32.toNat_add]
    have hshift : ('a'.val - 'A'.val).toNat = 32 := rfl
    have hfirst : firstCapital = 65 := rfl
    omega
  · left
    exact dif_neg hupper

/-- The lower-case form of a character is the character or lies beyond the first capital. -/
theorem eq_or_le_of_mem_lowerChar {c d : Char} (h : d ∈ lowerChar c) :
    d = c ∨ firstCapital ≤ d.toNat := by
  unfold lowerChar at h
  -- an ASCII letter, the one letter with two characters, a letter of a run, or no capital
  split at h
  · rw [List.mem_singleton] at h
    rw [h]
    exact toNat_toLower c
  · split at h
    · right
      simp only [List.mem_cons, List.not_mem_nil, or_false] at h
      rcases h with rfl | rfl <;> decide
    · split at h
      · next run hrun =>
        right
        rw [List.mem_singleton] at h
        have hcovers : run.covers c.toNat = true :=
          List.find?_some (p := fun run : CaseRun => run.covers c.toNat) hrun
        obtain ⟨hlow, hvalid⟩ := isHigh_caseRuns run (List.mem_of_find?_eq_some hrun)
        simp only [CaseRun.covers, Bool.and_eq_true, decide_eq_true_eq] at hcovers
        have hchar : Nat.isValidChar ((c.toNat : Int) + run.offset).toNat := by
          unfold Nat.isValidChar
          omega
        rw [h, Char.ofNat, dif_pos hchar]
        show firstCapital ≤ ((c.toNat : Int) + run.offset).toNat
        omega
      · left
        exact List.mem_singleton.1 h

theorem mem_of_mem_lowerAfter {d : Char} (hd : d.toNat < firstCapital) {before text : List Char}
    (h : d ∈ lowerAfter before text) : d ∈ text := by
  induction text generalizing before with
  | nil => cases h
  | cons c rest ih =>
      rw [lowerAfter, List.mem_append] at h
      rcases h with h | h
      · split at h
        · -- either form of the sigma lies far beyond
          exfalso
          split at h
          · rw [List.mem_singleton.1 h] at hd
            exact absurd hd (by decide)
          · rw [List.mem_singleton.1 h] at hd
            exact absurd hd (by decide)
        · rcases eq_or_le_of_mem_lowerChar h with rfl | hle
          · exact List.mem_cons_self
          · exact absurd hd (Nat.not_lt.2 hle)
      · exact List.mem_cons_of_mem _ (ih h)

/-- **Lower-casing makes no character below the capital letters.** -/
theorem mem_of_mem_lower {d : Char} (hd : d.toNat < firstCapital) {text : List Char}
    (h : d ∈ lower text) : d ∈ text :=
  mem_of_mem_lowerAfter hd h

/-! ### Blank characters -/

/-- A blank character has no case. -/
theorem lowerChar_of_isBlank {c : Char} (h : isBlank c = true) : lowerChar c = [c] := by
  refine of_isBlank (P := fun c => lowerChar c = [c]) ?_ h
  decide +kernel

/-- Lower-casing leaves a blank text as it is. -/
theorem lower_of_isBlank {text : List Char} (h : ∀ c ∈ text, isBlank c = true) :
    lower text = text := by
  have hafter : ∀ before, lowerAfter before text = text := by
    induction text with
    | nil => intro before; rfl
    | cons c rest ih =>
        intro before
        have hc := h c List.mem_cons_self
        have hsigma : c ≠ 'Σ' := by
          rintro rfl
          exact absurd hc (by decide)
        rw [lowerAfter, if_neg hsigma, lowerChar_of_isBlank hc,
          ih fun d hd => h d (List.mem_cons_of_mem _ hd)]
        rfl
  exact hafter []

end ListingAttributes.Text
