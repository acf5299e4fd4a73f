import ListingAttributes.Proofs.Text.AsciiCase
import ListingAttributes.Proofs.Text.LowerCase

/-!
# Texts with a lower-case form in ASCII

One character beyond ASCII has its lower-case form in ASCII, the Kelvin sign;
every other one has a character beyond ASCII in it, whatever stands around it
(`lowered_cases`).  A text in lower-case ASCII is therefore the lower-case form
of those texts only that are the same text but for the case of ASCII letters,
the Kelvin sign being a `k` (`lower_eq_iff`); of a text without `k` the Kelvin
sign is no spelling either (`sameButAsciiCase_kelvin_iff`).

Lower-casing a character in this sense keeps blanks and makes none, so that it
can be exchanged with trimming (`trim_map`).
-/

namespace ListingAttributes.Text

/-- The code point that ASCII ends before. -/
def asciiEnd : Nat := 0x80

/-- The Kelvin sign is a letter k in the lower-case form of a text. -/
def kelvinAsK (c : Char) : Char := if c = '\u212A' then 'k' else c

/-- The lower-case form of a character of which that form is one in ASCII. -/
def asciiForm (c : Char) : Char := (kelvinAsK c).toLower

/-! ### Characters -/

theorem toLower_of_not_ascii {c : Char} (h : asciiEnd ≤ c.toNat) : c.toLower = c := by
  apply toLower_of_not_isAlpha
  rw [← Bool.not_eq_true]
  intro hletter
  have hcode := toNat_of_isAlpha hletter
  unfold asciiEnd at h
  omega

theorem asciiForm_of_not_ascii {c : Char} (hkelvin : c ≠ '\u212A') (h : asciiEnd ≤ c.toNat) :
    asciiForm c = c := by
  rw [asciiForm, kelvinAsK, if_neg hkelvin, toLower_of_not_ascii h]

/-- The letters of a run have their lower-case forms beyond ASCII, or the run is the Kelvin sign. -/
def CaseRun.StaysOut (run : CaseRun) : Prop :=
  (asciiEnd : Int) ≤ run.first + run.offset ∨ run.first = 0x212A ∧ run.last = 0x212A

instance (run : CaseRun) : Decidable run.StaysOut := inferInstanceAs (Decidable (_ ∨ _))

theorem staysOut_caseRuns : ∀ run ∈ caseRuns, run.StaysOut := by
  decide +kernel

/-- The lower-case form of a character is its ASCII form, or neither of them is ASCII. -/
theorem lowerChar_cases (c : Char) :
    lowerChar c = [asciiForm c] ∨
      asciiEnd ≤ (asciiForm c).toNat ∧ ∃ d ∈ lowerChar c, asciiEnd ≤ d.toNat := by
  by_cases hkelvin : c = '\u212A'
  · subst hkelvin
    left
    decide +kernel
  by_cases hascii : c.toNat < 0x80
  · left
    rw [lowerChar, if_pos hascii, asciiForm, kelvinAsK, if_neg hkelvin]
  have hform := asciiForm_of_not_ascii hkelvin (Nat.not_lt.1 hascii)
  rw [hform]
  unfold lowerChar
  rw [if_neg hascii]
  -- the one letter with two characters, a letter of a run, or no capital
  split
  · right
    exact ⟨Nat.not_lt.1 hascii, '\u0307', by simp, by decide⟩
  · split
    · next run hrun =>
      right
      refine ⟨Nat.not_lt.1 hascii, _, List.mem_singleton_self _, ?_⟩
      have hcovers : run.covers c.toNat = true :=
        List.find?_some (p := fun run : CaseRun => run.covers c.toNat) hrun
      have hmem := List.mem_of_find?_eq_some hrun
      obtain ⟨-, hvalid⟩ := isHigh_caseRuns run hmem
      have hout := staysOut_caseRuns run hmem
      simp only [CaseRun.covers, Bool.and_eq_true, decide_eq_true_eq] at hcovers
      have hcode : c.toNat ≠ 0x212A := by
        intro h
        exact hkelvin (Char.toNat_inj.1 h)
      have hchar : Nat.isValidChar ((c.toNat : Int) + run.offset).toNat := by
        unfold Nat.isValidChar
        omega
      rw [Char.ofNat, dif_pos hchar]
      show asciiEnd ≤ ((c.toNat : Int) + run.offset).toNat
      unfold CaseRun.StaysOut at hout
      omega
    · left
      rfl

/-- What a character comes to in a lower-cased text, whatever stands around it: its ASCII form, or
neither is ASCII. -/
theorem lowered_cases (c : Char) (final : Bool) :
    (if c = 'Σ' then [if final then 'ς' else 'σ'] else lowerChar c) = [asciiForm c] ∨
      asciiEnd ≤ (asciiForm c).toNat ∧
        ∃ d ∈ (if c = 'Σ' then [if final then 'ς' else 'σ'] else lowerChar c),
          asciiEnd ≤ d.toNat := by
  split
  · next hsigma =>
    subst hsigma
    right
    refine ⟨by decide, _, List.mem_singleton_self _, ?_⟩
    split <;> decide
  · exact lowerChar_cases c

/-! ### Texts -/

theorem lowerAfter_eq_iff {phrase : List Char} (hascii : ∀ c ∈ phrase, c.toNat < asciiEnd)
    {before text : List Char} : lowerAfter before text = phrase ↔ text.map asciiForm = phrase := by
  induction text generalizing before phrase with
  | nil => rfl
  | cons c rest ih =>
      rw [lowerAfter, List.map_cons]
      rcases lowered_cases c (endsWord before rest) with hform | ⟨hout, d, hd, hfar⟩
      · rw [hform, List.singleton_append]
        cases phrase with
        | nil => simp
        | cons p phrase =>
            rw [List.cons.injEq, List.cons.injEq,
              ih fun d hd => hascii d (List.mem_cons_of_mem _ hd)]
      · -- on either side stands a character that the phrase cannot have
        constructor
        · rintro rfl
          exact absurd (hascii d (List.mem_append_left _ hd)) (Nat.not_lt.2 hfar)
        · rintro rfl
          exact absurd (hascii _ List.mem_cons_self) (Nat.not_lt.2 hout)

/-- A phrase in lower-case ASCII. -/
def IsLowerAscii (phrase : List Char) : Prop :=
  ∀ c ∈ phrase, c.toNat < asciiEnd ∧ c.toLower = c

instance (phrase : List Char) : Decidable (IsLowerAscii phrase) :=
  decidable_of_iff (phrase.all fun c => decide (c.toNat < asciiEnd) && c.toLower == c)
    (by simp [IsLowerAscii])

theorem map_toLower_of_isLowerAscii {phrase : List Char} (h : IsLowerAscii phrase) :
    phrase.map Char.toLower = phrase :=
  (List.map_congr_left fun c hc => (h c hc).2).trans (List.map_id phrase)

theorem sameButAsciiCase_kelvinAsK_iff {phrase : List Char} (h : IsLowerAscii phrase)
    {text : List Char} :
    sameButAsciiCase (text.map kelvinAsK) phrase = true ↔ text.map asciiForm = phrase := by
  rw [sameButAsciiCase_iff, map_toLower_of_isLowerAscii h, List.map_map]
  rfl

/-- **The texts with a lower-case form in ASCII** are that text but for the case of ASCII letters
and for the Kelvin sign. -/
theorem lower_eq_iff {phrase : List Char} (h : IsLowerAscii phrase) {text : List Char} :
    lower text = phrase ↔ sameButAsciiCase (text.map kelvinAsK) phrase = true := by
  rw [sameButAsciiCase_kelvinAsK_iff h]
  exact lowerAfter_eq_iff fun c hc => (h c hc).1

/-- The Kelvin sign is no spelling of a text without k. -/
theorem sameButAsciiCase_kelvin_iff {phrase : List Char} (h : IsLowerAscii phrase)
    (hk : 'k' ∉ phrase) {text : List Char} :
    sameButAsciiCase (text.map kelvinAsK) phrase = true ↔
      sameButAsciiCase text phrase = true := by
  have hkelvin : '\u212A' ∈ text → sameButAsciiCase (text.map kelvinAsK) phrase = false ∧
      sameButAsciiCase text phrase = false := by
    intro hmem
    constructor
    · rw [← Bool.not_eq_true, sameButAsciiCase_kelvinAsK_iff h]
      rintro rfl
      exact hk (List.mem_map.2 ⟨_, hmem, by decide⟩)
    · rw [← Bool.not_eq_true, sameButAsciiCase_iff, map_toLower_of_isLowerAscii h]
      rintro rfl
      exact absurd (h _ (List.mem_map.2 ⟨_, hmem, rfl⟩)).1 (by decide)
  by_cases hmem : '\u212A' ∈ text
  · rw [(hkelvin hmem).1, (hkelvin hmem).2]
  · have hsame : ∀ c ∈ text, kelvinAsK c = c := by
      intro c hc
      refine if_neg ?_
      rintro rfl
      exact hmem hc
    rw [List.map_congr_left hsame, List.map_id']

/-! ### Blanks -/

theorem isBlank_toLower (c : Char) : isBlank c.toLower = isBlank c := by
  have hletter : ∀ {d : Char}, isBlank d = true → d.isAlpha = false :=
    of_isBlank (P := fun d => d.isAlpha = false) (by decide)
  rw [Bool.eq_iff_iff]
  constructor
  · intro h
    rwa [← eq_of_toLower_eq (hletter h) (Char.toLower_toLower_eq_toLower c).symm] at h
  · intro h
    rwa [toLower_of_not_isAlpha (hletter h)]

theorem isBlank_asciiForm (c : Char) : isBlank (asciiForm c) = isBlank c := by
  rw [asciiForm, isBlank_toLower, kelvinAsK]
  split
  · next hkelvin =>
    subst hkelvin
    decide
  · rfl

theorem trimEnd_map {f : Char → Char} (h : ∀ c, isBlank (f c) = isBlank c) (text : List Char) :
    trimEnd (text.map f) = (trimEnd text).map f := by
  induction text with
  | nil => rfl
  | cons c rest ih =>
      rw [List.map_cons]
      by_cases hnil : trimEnd rest = []
      · rw [trimEnd, trimEnd, ih, hnil, List.map_nil]
        dsimp only
        rw [h c]
        split <;> rfl
      · have hne : trimEnd (rest.map f) ≠ [] := by simpa [ih] using hnil
        rw [trimEnd_cons hne, trimEnd_cons hnil, ih, List.map_cons]

/-- **Trimming looks at blanks only.** -/
theorem trim_map {f : Char → Char} (h : ∀ c, isBlank (f c) = isBlank c) (text : List Char) :
    trim (text.map f) = (trim text).map f := by
  have hstart : trimStart (text.map f) = (trimStart text).map f := by
    have hcomp : isBlank ∘ f = isBlank := funext h
    rw [trimStart, trimStart, List.dropWhile_map, hcomp]
  rw [trim, hstart, trimEnd_map h, trim]

end ListingAttributes.Text
