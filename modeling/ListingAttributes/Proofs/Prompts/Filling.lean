import ListingAttributes.Proofs.Text.Occurrences

/-!
# Templates are filled in one pass

A template is a sequence of parts that are found without looking at a value
(`Decomposition`): there is exactly one for each template, and its parts spell
the template out (`exists_decomposition`, `Decomposition.unique`,
`Decomposition.flatMap_text`).

* `fill_of_decomposition`: filling a template replaces its placeholders, each
  by what `Part.filled` says, and leaves its literals;
* `Decomposition.placeholders_le`: a pass over a template comes to its end, for
  each of its placeholders takes up four characters at least;
* `fill_append_cons`, `fill_slot`: a front that opens nothing is left as it is,
  and a placeholder with nothing but such a front before it is replaced.
-/

namespace ListingAttributes.Template

variable {template : List Char} {values : List (List Char × List Char)}

/-! ### Passes over a template -/

theorem fill_of_plain (hnone : ¬ opening <:+: template) : fill template values = template := by
  have hfound := around?_eq_none_iff.2 hnone
  rw [fill]
  split
  · rfl
  · next hopening => rw [hfound] at hopening; cases hopening

theorem fill_of_unterminated {before inside : List Char}
    (hopen : FirstOccurrence opening template before inside) (hnone : ¬ closing <:+: inside) :
    fill template values = template := by
  have hfound := around?_eq_some_iff.2 hopen
  rw [fill]
  split
  · rfl
  · next hopening =>
    rw [hfound] at hopening
    cases hopening
    split
    · next hclosing => rw [around?_eq_none_iff.2 hnone] at hclosing; cases hclosing
    · exact hopen.split.symm

theorem fill_of_placeholder {before inside name rest : List Char}
    (hopen : FirstOccurrence opening template before inside)
    (hclose : FirstOccurrence closing inside name rest) :
    fill template values = before ++ replacement values name ++ fill rest values := by
  have hfound := around?_eq_some_iff.2 hopen
  have hended := around?_eq_some_iff.2 hclose
  rw [fill]
  split
  · next hopening => rw [hfound] at hopening; cases hopening
  · next hopening =>
    rw [hfound] at hopening
    cases hopening
    split
    · next hclosing =>
      rw [hended] at hclosing
      cases hclosing
      rfl
    · next hclosing => rw [hended] at hclosing; cases hclosing

/-! ### Parts -/

/-- A part of a template. -/
inductive Part where
  | literal (text : List Char)
  | placeholder (name : List Char)
  deriving DecidableEq

/-- A part as it stands in the template. -/
def Part.text : Part → List Char
  | literal text => text
  | placeholder name => opening ++ name ++ closing

/-- What stands for a part: for a literal the literal, and for a placeholder the value that comes
first under its name, or the placeholder as it stands if there is none. -/
def Part.filled (values : List (List Char × List Char)) : Part → List Char
  | literal text => text
  | placeholder name => (values.lookup name).getD (placeholder name).text

/-- Whether a part is a placeholder. -/
def Part.isPlaceholder : Part → Bool
  | literal _ => false
  | placeholder _ => true

/-- The parts of a template, found from left to right.  A placeholder is a pair of opening braces,
the shortest text before a pair of closing braces, and that pair. -/
inductive Decomposition : List Char → List Part → Prop where
  /-- Nothing is opened. -/
  | plain {text : List Char} (hnone : ¬ opening <:+: text) : Decomposition text [.literal text]
  /-- What is opened is never closed, and belongs to the text. -/
  | unterminated {text before inside : List Char}
      (hopen : FirstOccurrence opening text before inside) (hnone : ¬ closing <:+: inside) :
      Decomposition text [.literal text]
  | placeholder {text before inside name rest : List Char} {parts : List Part}
      (hopen : FirstOccurrence opening text before inside)
      (hclose : FirstOccurrence closing inside name rest) (hrest : Decomposition rest parts) :
      Decomposition text (.literal before :: .placeholder name :: parts)

/-- A value stands in the placeholders of its name and changes nothing else. -/
theorem filled_cons (name value : List Char) (values : List (List Char × List Char))
    (part : Part) : part.filled ((name, value) :: values) =
      if part = .placeholder name then value else part.filled values := by
  cases part with
  | literal text => rfl
  | placeholder other =>
      by_cases hname : other = name
      · simp [Part.filled, hname]
      · have hlookup : (other == name) = false := beq_eq_false_iff_ne.2 hname
        simp [Part.filled, hname, List.lookup_cons, hlookup]

theorem replacement_cons (key value name : List Char) :
    replacement ((key, value) :: values) name =
      if key = name then value else replacement values name := by
  by_cases hname : key = name
  · simp [replacement, hname]
  · simp [replacement, hname]

theorem replacement_eq (values : List (List Char × List Char)) (name : List Char) :
    replacement values name = (Part.placeholder name).filled values := by
  induction values with
  | nil => rfl
  | cons entry values ih =>
      rw [replacement_cons, filled_cons, ih]
      simp only [Part.placeholder.injEq, @eq_comm _ name]

/-- Every template has a decomposition. -/
theorem exists_decomposition (template : List Char) : ∃ parts, Decomposition template parts := by
  -- along the passes over the template, which are the same for all values
  induction template using fill.induct with
  | case1 template hopening =>
      exact ⟨_, .plain (around?_eq_none_iff.1 hopening)⟩
  | case2 template before inside hopening name rest hclosing ih =>
      obtain ⟨parts, hrest⟩ := ih
      exact ⟨_, .placeholder (around?_eq_some_iff.1 hopening) (around?_eq_some_iff.1 hclosing)
        hrest⟩
  | case3 template before inside hopening hclosing =>
      exact ⟨_, .unterminated (around?_eq_some_iff.1 hopening) (around?_eq_none_iff.1 hclosing)⟩

namespace Decomposition

variable {parts : List Part}

/-- A template has one decomposition only. -/
theorem unique {other : List Part} (h : Decomposition template parts)
    (h' : Decomposition template other) : other = parts := by
  induction h generalizing other with
  | plain hnone =>
      cases h' with
      | plain _ => rfl
      | unterminated _ _ => rfl
      | placeholder hopen _ _ => exact absurd hopen.isInfix hnone
  | unterminated hopen hnone =>
      cases h' with
      | plain _ => rfl
      | unterminated _ _ => rfl
      | placeholder hopen' hclose' _ =>
          obtain ⟨-, rfl⟩ := hopen.unique hopen'
          exact absurd hclose'.isInfix hnone
  | placeholder hopen hclose _ ih =>
      cases h' with
      | plain hnone' => exact absurd hopen.isInfix hnone'
      | unterminated hopen' hnone' =>
          obtain ⟨-, rfl⟩ := hopen.unique hopen'
          exact absurd hclose.isInfix hnone'
      | placeholder hopen' hclose' hrest' =>
          obtain ⟨rfl, rfl⟩ := hopen.unique hopen'
          obtain ⟨rfl, rfl⟩ := hclose.unique hclose'
          rw [ih hrest']

/-- The parts of a template spell it out. -/
theorem flatMap_text (h : Decomposition template parts) : parts.flatMap Part.text = template := by
  induction h with
  | plain _ => simp [Part.text]
  | unterminated _ _ => simp [Part.text]
  | placeholder hopen hclose _ ih =>
      rw [List.flatMap_cons, List.flatMap_cons, ih, hopen.split, hclose.split]
      simp [Part.text]

/-- Each placeholder takes up four characters of the template at least. -/
theorem placeholders_le (h : Decomposition template parts) :
    4 * parts.countP Part.isPlaceholder ≤ template.length := by
  induction h with
  | plain _ => simp [Part.isPlaceholder]
  | unterminated _ _ => simp [Part.isPlaceholder]
  | placeholder hopen hclose _ ih =>
      rw [hopen.split, hclose.split]
      simp only [List.countP_cons, Part.isPlaceholder, Bool.false_eq_true, if_false, if_true,
        List.length_append, opening, closing, List.length_cons, List.length_nil]
      omega

end Decomposition

/-- **Filling a template** replaces its placeholders and nothing else. -/
theorem fill_of_decomposition {parts : List Part} (h : Decomposition template parts)
    (values : List (List Char × List Char)) :
    fill template values = parts.flatMap (Part.filled values) := by
  induction h with
  | plain hnone => simp [fill_of_plain hnone, Part.filled]
  | unterminated hopen hnone => simp [fill_of_unterminated hopen hnone, Part.filled]
  | placeholder hopen hclose _ ih =>
      rw [fill_of_placeholder hopen hclose, replacement_eq, ih, List.append_assoc]
      rfl

/-- Without a value, a template is filled with its own text. -/
theorem fill_nil (template : List Char) : fill template [] = template := by
  obtain ⟨parts, h⟩ := exists_decomposition template
  have hown : Part.filled [] = Part.text := by
    funext part
    cases part <;> rfl
  rw [fill_of_decomposition h, hown, h.flatMap_text]

/-! ### Fixed text -/

theorem not_mem_opening {c : Char} (hc : c ≠ '\x7b') : c ∉ opening := by
  simp [opening, hc]

/-- Text that opens nothing, up to a character that is no brace, is left as it is. -/
theorem fill_append_cons {front rest : List Char} {c : Char} (hc : c ≠ '\x7b')
    (hfront : ¬ opening <:+: front) :
    fill (front ++ c :: rest) values = front ++ c :: fill rest values := by
  have hbrace := not_mem_opening hc
  cases hopening : around? opening rest with
  | none =>
      have hnone := around?_eq_none_iff.1 hopening
      rw [fill_of_plain hnone,
        fill_of_plain (mt (isInfix_append_cons_iff hbrace hfront).1 hnone)]
  | some found =>
      obtain ⟨before, inside⟩ := found
      have hopen := around?_eq_some_iff.1 hopening
      have hopen' := hopen.append_cons hbrace hfront
      cases hclosing : around? closing inside with
      | none =>
          have hnone := around?_eq_none_iff.1 hclosing
          rw [fill_of_unterminated hopen hnone, fill_of_unterminated hopen' hnone]
      | some found =>
          obtain ⟨name, after⟩ := found
          have hclose := around?_eq_some_iff.1 hclosing
          rw [fill_of_placeholder hopen hclose, fill_of_placeholder hopen' hclose]
          simp

theorem fill_cons {rest : List Char} {c : Char} (hc : c ≠ '\x7b') :
    fill (c :: rest) values = c :: fill rest values := by
  have hnil : ¬ opening <:+: [] := by decide
  exact fill_append_cons hc hnil

/-- A placeholder with no brace before it and none in its name is replaced. -/
theorem fill_slot {front name rest : List Char} (hfront : '\x7b' ∉ front) (hname : '\x7d' ∉ name) :
    fill (front ++ opening ++ (name ++ closing ++ rest)) values =
      front ++ replacement values name ++ fill rest values :=
  fill_of_placeholder (firstOccurrence_of_not_mem hfront) (firstOccurrence_of_not_mem hname)

end ListingAttributes.Template
