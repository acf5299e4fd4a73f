import ListingAttributes.Text.Blank

/-!
# Trimming

Trimming looks at the ends of a text only: a text whose first and last
characters are not blank stays as it is (`trim_eq_self`), and blanks around a
text make no difference (`trim_append_of_blank`).  Conversely a text is what
trimming leaves of it, with blanks around that (`exists_eq_trim`).
-/

namespace ListingAttributes.Text

/-! ### Blank characters -/

/-- The code points of the blank characters. -/
def blankCodes : List Nat :=
  blankRanges.flatMap fun range => List.range' range.1 (range.2 - range.1 + 1)

theorem mem_blankCodes {c : Char} (h : isBlank c = true) : c.toNat ∈ blankCodes := by
  unfold isBlank CodeRanges.covers at h
  obtain ⟨range, hrange, hcovers⟩ := List.any_eq_true.1 h
  rw [Bool.and_eq_true, decide_eq_true_eq, decide_eq_true_eq] at hcovers
  refine List.mem_flatMap.2 ⟨range, hrange, ?_⟩
  rw [List.mem_range'_1]
  omega

/-- What holds of the listed characters holds of every blank one. -/
theorem of_isBlank {P : Char → Prop} (hcodes : ∀ code ∈ blankCodes, P (Char.ofNat code)) {c : Char}
    (h : isBlank c = true) : P c := by
  have hc := hcodes c.toNat (mem_blankCodes h)
  rwa [Char.ofNat_toNat] at hc

/-! ### Ends that are not blank -/

theorem trimStart_cons {c : Char} (h : isBlank c = false) (text : List Char) :
    trimStart (c :: text) = c :: text := by
  rw [trimStart, List.dropWhile_cons, h, if_neg Bool.false_ne_true]

theorem trimEnd_cons {c : Char} {text : List Char} (h : trimEnd text ≠ []) :
    trimEnd (c :: text) = c :: trimEnd text := by
  rw [trimEnd]
  split
  · next heq => exact absurd heq h
  · rfl

theorem trimEnd_cons_of_not_blank {c : Char} (h : isBlank c = false) (text : List Char) :
    trimEnd (c :: text) = c :: trimEnd text := by
  rw [trimEnd]
  split
  · next hnil => rw [h, if_neg Bool.false_ne_true, hnil]
  · rfl

/-- A text that ends with a character that is not blank keeps its end. -/
theorem trimEnd_append_of_not_blank {c : Char} (h : isBlank c = false) (text : List Char) :
    trimEnd (text ++ [c]) = text ++ [c] := by
  induction text with
  | nil => simp [trimEnd, h]
  | cons d text ih =>
      have hne : trimEnd (text ++ [c]) ≠ [] := by simp [ih]
      rw [List.cons_append, trimEnd_cons hne, ih]

/-- A blank at the end is dropped. -/
theorem trimEnd_append_blank {c : Char} (h : isBlank c = true) (text : List Char) :
    trimEnd (text ++ [c]) = trimEnd text := by
  induction text with
  | nil => simp [trimEnd, h]
  | cons d text ih => rw [List.cons_append, trimEnd, ih, trimEnd]

/-- A text whose ends are not blank stays as it is. -/
theorem trim_eq_self {first last : Char} {middle : List Char} (hfirst : isBlank first = false)
    (hlast : isBlank last = false) :
    trim (first :: middle ++ [last]) = first :: middle ++ [last] := by
  rw [trim, List.cons_append, trimStart_cons hfirst, ← List.cons_append,
    trimEnd_append_of_not_blank hlast]

/-- Trimming leaves a text without blanks as it is. -/
theorem trim_of_no_blank {text : List Char} (h : ∀ c ∈ text, isBlank c = false) :
    trim text = text := by
  have hstart : trimStart text = text := by
    cases text with
    | nil => rfl
    | cons c rest => exact trimStart_cons (h c List.mem_cons_self) rest
  rw [trim, hstart]
  -- trimming the end looks at the last character
  rcases List.eq_nil_or_concat text with rfl | ⟨front, last, rfl⟩
  · rfl
  · rw [List.concat_eq_append] at h ⊢
    exact trimEnd_append_of_not_blank (h last (by simp)) front

theorem isBlank_of_trimEnd_eq_nil {text : List Char} (h : trimEnd text = []) :
    ∀ c ∈ text, isBlank c = true := by
  induction text with
  | nil =>
      intro c hc
      cases hc
  | cons d rest ih =>
      rw [trimEnd] at h
      split at h
      · next hrest =>
        split at h
        · next hblank =>
          intro c hc
          rcases List.mem_cons.1 hc with rfl | hc
          · exact hblank
          · exact ih hrest c hc
        · cases h
      · cases h

/-- Nothing but blanks stands in a text of which trimming leaves nothing. -/
theorem isBlank_of_trim_eq_nil {text : List Char} (h : trim text = []) :
    ∀ c ∈ text, isBlank c = true := by
  intro c hc
  rw [← List.takeWhile_append_dropWhile (p := isBlank) (l := text), List.mem_append] at hc
  rcases hc with hc | hc
  · exact List.all_eq_true.1 List.all_takeWhile c hc
  · exact isBlank_of_trimEnd_eq_nil h c hc

/-! ### Blanks around a text -/

theorem trimStart_append_of_blank {margin : List Char} (h : ∀ c ∈ margin, isBlank c = true)
    (text : List Char) : trimStart (margin ++ text) = trimStart text :=
  List.dropWhile_append_of_pos h

theorem trimEnd_append_of_blank {margin : List Char} (h : ∀ c ∈ margin, isBlank c = true)
    (text : List Char) : trimEnd (text ++ margin) = trimEnd text := by
  induction margin generalizing text with
  | nil => rw [List.append_nil]
  | cons c margin ih =>
      rw [List.append_cons, ih fun d hd => h d (List.mem_cons_of_mem _ hd),
        trimEnd_append_blank (h c List.mem_cons_self)]

/-- What stands before a text that is not blank is not touched at its end. -/
theorem trimEnd_append_of_ne_nil (front : List Char) {text : List Char} (h : trimEnd text ≠ []) :
    trimEnd (front ++ text) = front ++ trimEnd text := by
  induction front with
  | nil => rfl
  | cons c front ih =>
      have hne : trimEnd (front ++ text) ≠ [] := by
        rw [ih]
        exact List.append_ne_nil_of_right_ne_nil _ h
      rw [List.cons_append, trimEnd_cons hne, ih, List.cons_append]

theorem trimEnd_of_blank {text : List Char} (h : ∀ c ∈ text, isBlank c = true) :
    trimEnd text = [] :=
  trimEnd_append_of_blank h []

theorem trim_of_blank {text : List Char} (h : ∀ c ∈ text, isBlank c = true) : trim text = [] := by
  have hstart := trimStart_append_of_blank h []
  rw [List.append_nil] at hstart
  rw [trim, hstart]
  rfl

/-- **Blanks around a text make no difference.** -/
theorem trim_append_of_blank {before after : List Char} (hbefore : ∀ c ∈ before, isBlank c = true)
    (hafter : ∀ c ∈ after, isBlank c = true) (text : List Char) :
    trim (before ++ text ++ after) = trim text := by
  by_cases hstart : trimStart text = []
  · -- the text is blank itself
    have htext : ∀ c ∈ text, isBlank c = true := by
      apply isBlank_of_trim_eq_nil
      rw [trim, hstart]
      rfl
    rw [trim_of_blank htext]
    apply trim_of_blank
    intro c hc
    simp only [List.mem_append] at hc
    rcases hc with (hc | hc) | hc
    · exact hbefore c hc
    · exact htext c hc
    · exact hafter c hc
  · have happend : trimStart (text ++ after) = trimStart text ++ after := by
      unfold trimStart at hstart ⊢
      rw [List.dropWhile_append, if_neg (by simpa using hstart)]
    rw [trim, List.append_assoc, trimStart_append_of_blank hbefore, happend,
      trimEnd_append_of_blank hafter, trim]

theorem trim_append_margin {margin : List Char} (h : ∀ c ∈ margin, isBlank c = true)
    (text : List Char) : trim (text ++ margin) = trim text :=
  trim_append_of_blank (List.forall_mem_nil _) h text

theorem exists_eq_trimEnd (text : List Char) :
    ∃ after, (∀ c ∈ after, isBlank c = true) ∧ text = trimEnd text ++ after := by
  induction text with
  | nil =>
      refine ⟨[], ?_, rfl⟩
      intro c hc
      cases hc
  | cons c rest ih =>
      by_cases hrest : trimEnd rest = []
      · have hblank := isBlank_of_trimEnd_eq_nil hrest
        rw [trimEnd, hrest]
        by_cases hc : isBlank c = true
        · refine ⟨c :: rest, ?_, by simp [hc]⟩
          intro d hd
          rcases List.mem_cons.1 hd with rfl | hd
          · exact hc
          · exact hblank d hd
        · exact ⟨rest, hblank, by simp [hc]⟩
      · obtain ⟨after, hafter, heq⟩ := ih
        refine ⟨after, hafter, ?_⟩
        rw [trimEnd_cons hrest, List.cons_append, ← heq]

/-- A text is what trimming leaves of it, between blanks. -/
theorem exists_eq_trim (text : List Char) :
    ∃ before after, (∀ c ∈ before, isBlank c = true) ∧ (∀ c ∈ after, isBlank c = true) ∧
      text = before ++ trim text ++ after := by
  obtain ⟨after, hafter, heq⟩ := exists_eq_trimEnd (trimStart text)
  refine ⟨text.takeWhile isBlank, after, List.all_eq_true.1 List.all_takeWhile, hafter, ?_⟩
  rw [List.append_assoc, trim, ← heq, trimStart, List.takeWhile_append_dropWhile]

theorem trimEnd_trimEnd (text : List Char) : trimEnd (trimEnd text) = trimEnd text := by
  obtain ⟨after, hafter, heq⟩ := exists_eq_trimEnd text
  calc trimEnd (trimEnd text)
      = trimEnd (trimEnd text ++ after) := (trimEnd_append_of_blank hafter _).symm
    _ = trimEnd text := by rw [← heq]

theorem trim_trimEnd (text : List Char) : trim (trimEnd text) = trim text := by
  obtain ⟨after, hafter, heq⟩ := exists_eq_trimEnd text
  calc trim (trimEnd text)
      = trim (trimEnd text ++ after) := (trim_append_margin hafter _).symm
    _ = trim text := by rw [← heq]

/-- The end of a text that trimming keeps is kept as well. -/
theorem trimEnd_of_append {front rest : List Char} (h : trimEnd (front ++ rest) = front ++ rest) :
    trimEnd rest = rest := by
  by_cases hnil : trimEnd rest = []
  · rw [trimEnd_append_of_blank (isBlank_of_trimEnd_eq_nil hnil)] at h
    obtain ⟨after, -, hfront⟩ := exists_eq_trimEnd front
    have hlength := congrArg List.length hfront
    rw [h, List.length_append, List.length_append] at hlength
    rw [hnil, List.eq_nil_of_length_eq_zero (by omega : rest.length = 0)]
  · rw [trimEnd_append_of_ne_nil front hnil] at h
    exact List.append_cancel_left h

/-- Trimming the end leaves the blanks at the start and what trimming leaves. -/
theorem exists_trimEnd_eq (text : List Char) :
    ∃ before, (∀ c ∈ before, isBlank c = true) ∧ trimEnd text = before ++ trim text := by
  obtain ⟨before, after, hbefore, hafter, heq⟩ := exists_eq_trim text
  by_cases hnil : trim text = []
  · refine ⟨[], by simp, ?_⟩
    rw [trimEnd_of_blank (isBlank_of_trim_eq_nil hnil), hnil, List.append_nil]
  · have hkept : trimEnd (trim text) = trim text := trimEnd_trimEnd _
    refine ⟨before, hbefore, ?_⟩
    calc trimEnd text
        = trimEnd (before ++ trim text ++ after) := by rw [← heq]
      _ = trimEnd (before ++ trim text) := trimEnd_append_of_blank hafter _
      _ = before ++ trim text := by rw [trimEnd_append_of_ne_nil _ (by rwa [hkept]), hkept]

end ListingAttributes.Text
