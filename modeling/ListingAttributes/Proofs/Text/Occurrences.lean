import ListingAttributes.Template

/-!
# First occurrences

`FirstOccurrence` says where a needle occurs for the first time in a text, and
`around?` finds that place if there is one (`around?_eq_some_iff`,
`around?_eq_none_iff`).  A first occurrence is known from a front without the
first character of the needle (`firstOccurrence_of_not_mem`), or from a front
without the needle that ends in a character which the needle does not have
(`FirstOccurrence.append_cons`).
-/

namespace ListingAttributes.Template

variable {needle text before after front rest : List Char} {c : Char}

/-- The text divides into what is before the needle, the needle and what is after it, and the needle
does not occur earlier. -/
structure FirstOccurrence (needle text before after : List Char) : Prop where
  split : text = before ++ needle ++ after
  first : ∀ earlier later, text = earlier ++ needle ++ later → before.length ≤ earlier.length

namespace FirstOccurrence

theorem isInfix (h : FirstOccurrence needle text before after) : needle <:+: text :=
  ⟨before, after, h.split.symm⟩

/-- There is one first occurrence at most. -/
theorem unique {before' after' : List Char} (h : FirstOccurrence needle text before after)
    (h' : FirstOccurrence needle text before' after') : before = before' ∧ after = after' := by
  have hlength : before.length = before'.length :=
    Nat.le_antisymm (h.first before' after' h'.split) (h'.first before after h.split)
  have hsplit : before ++ (needle ++ after) = before' ++ (needle ++ after') := by
    rw [← List.append_assoc, ← List.append_assoc, ← h.split, ← h'.split]
  obtain ⟨hbefore, hafter⟩ := List.append_inj hsplit hlength
  exact ⟨hbefore, List.append_cancel_left hafter⟩

end FirstOccurrence

/-! ### Finding it -/

theorem around?_eq_none_iff : around? needle text = none ↔ ¬ needle <:+: text := by
  induction text with
  | nil => simp [around?]
  | cons c text ih =>
      rw [List.infix_cons_iff, not_or, ← List.isPrefixOf_iff_prefix, ← ih, around?]
      split
      · next hstarts => simp [hstarts]
      · next hstarts => simp [hstarts]

theorem firstOccurrence_of_around? (h : around? needle text = some (before, after)) :
    FirstOccurrence needle text before after := by
  refine ⟨eq_of_around? h, ?_⟩
  induction text generalizing before with
  | nil =>
      intro earlier later _
      have hnil := eq_of_around? h
      rw [List.append_assoc, List.nil_eq_append_iff] at hnil
      rw [hnil.1]
      exact Nat.zero_le _
  | cons c text ih =>
      intro earlier later hearlier
      rw [around?] at h
      split at h
      · cases h
        exact Nat.zero_le _
      · next hstarts =>
        obtain ⟨⟨front, rest⟩, hrest, h⟩ := Option.map_eq_some_iff.1 h
        cases h
        -- the needle is not at the very front, so an earlier occurrence is one in the tail
        cases earlier with
        | nil =>
            refine absurd (List.isPrefixOf_iff_prefix.2 ⟨later, ?_⟩) hstarts
            exact hearlier.symm
        | cons d earlier =>
            have htail : text = earlier ++ needle ++ later := (List.cons.inj hearlier).2
            exact Nat.succ_le_succ (ih hrest earlier later htail)

/-- **The first occurrence** is what is found. -/
theorem around?_eq_some_iff : around? needle text = some (before, after) ↔
    FirstOccurrence needle text before after := by
  constructor
  · exact firstOccurrence_of_around?
  · intro h
    cases hfound : around? needle text with
    | none => exact absurd h.isInfix (around?_eq_none_iff.1 hfound)
    | some found =>
        obtain ⟨rfl, rfl⟩ := (firstOccurrence_of_around? hfound).unique h
        rfl

/-! ### Knowing it -/

/-- A front without the first character of the needle holds no part of it. -/
theorem firstOccurrence_of_not_mem (hfront : c ∉ front) :
    FirstOccurrence (c :: needle) (front ++ (c :: needle) ++ rest) front rest := by
  refine ⟨rfl, ?_⟩
  intro earlier later h
  rw [List.append_assoc, List.append_assoc] at h
  rcases List.append_eq_append_iff.1 h with ⟨gap, rfl, -⟩ | ⟨gap, rfl, hgap⟩
  · simp
  · cases gap with
    | nil => simp
    | cons d gap =>
        obtain rfl : c = d := (List.cons.inj hgap).1
        simp at hfront

/-- Behind a front without the needle and a character that the needle does not have, every
occurrence is one in the rest. -/
theorem exists_eq_of_append_cons (hneedle : c ∉ needle) (hfront : ¬ needle <:+: front)
    {earlier later : List Char} (h : front ++ c :: rest = earlier ++ needle ++ later) :
    ∃ between, earlier = front ++ c :: between ∧ rest = between ++ needle ++ later := by
  rw [List.append_assoc] at h
  rcases List.append_eq_append_iff.1 h with ⟨gap, rfl, hgap⟩ | ⟨gap, rfl, hgap⟩
  · cases gap with
    | nil =>
        cases needle with
        | nil => exact absurd List.nil_infix hfront
        | cons d needle =>
            obtain rfl : c = d := (List.cons.inj hgap).1
            simp at hneedle
    | cons d gap =>
        obtain ⟨rfl, hrest⟩ := List.cons.inj hgap
        exact ⟨gap, rfl, hrest.trans (List.append_assoc gap needle later).symm⟩
  · -- the needle would end in the front or hold the character behind it
    rcases List.append_eq_append_iff.1 hgap with ⟨surplus, rfl, hlater⟩ | ⟨surplus, rfl, hlater⟩
    · exact absurd ⟨earlier, surplus, by rw [List.append_assoc]⟩ hfront
    · cases surplus with
      | nil => exact absurd ⟨earlier, [], by simp⟩ hfront
      | cons d surplus =>
          obtain rfl : c = d := (List.cons.inj hlater).1
          simp at hneedle

theorem isInfix_append_cons_iff (hneedle : c ∉ needle) (hfront : ¬ needle <:+: front) :
    needle <:+: front ++ c :: rest ↔ needle <:+: rest := by
  constructor
  · rintro ⟨earlier, later, h⟩
    obtain ⟨between, -, hrest⟩ := exists_eq_of_append_cons hneedle hfront h.symm
    exact ⟨between, later, hrest.symm⟩
  · rintro ⟨earlier, later, rfl⟩
    exact ⟨front ++ c :: earlier, later, by simp⟩

theorem FirstOccurrence.append_cons (h : FirstOccurrence needle rest before after)
    (hneedle : c ∉ needle) (hfront : ¬ needle <:+: front) :
    FirstOccurrence needle (front ++ c :: rest) (front ++ c :: before) after := by
  refine ⟨by rw [h.split]; simp, ?_⟩
  intro earlier later hearlier
  obtain ⟨between, rfl, hrest⟩ := exists_eq_of_append_cons hneedle hfront hearlier
  have hle := h.first between later hrest
  simp only [List.length_append, List.length_cons]
  omega

end ListingAttributes.Template
