import ListingAttributes.Category
import ListingAttributes.Proofs.Records.Validation
import ListingAttributes.Proofs.Text.AsciiForms

/-!
# Names and phrases in other spellings

Categories and conditions are looked up in lower case and without the blanks
around them.  The lookups accept the spellings that differ from a name or a
phrase in the case of ASCII letters, and nothing else but the Kelvin sign for a
`k` (`lower_trim_eq_iff`): no category has a `k` in its name.

A phrase can be found in one place of the table only, so that the table could
list its phrases in any order (`ofPhraseIn_eq_iff`).
-/

namespace ListingAttributes

open Text

/-! ### Blanks around a text -/

/-- A text is another one with blanks around it. -/
def Text.Padded (core text : List Char) : Prop :=
  ∃ before after, (∀ c ∈ before, isBlank c = true) ∧ (∀ c ∈ after, isBlank c = true) ∧
    text = before ++ core ++ after

/-- **What is looked up** is a phrase in lower-case ASCII exactly if the text spells it, the case of
ASCII letters, the Kelvin sign and blanks around it aside. -/
theorem lower_trim_eq_iff {phrase text : List Char} (hphrase : IsLowerAscii phrase)
    (htrim : trim phrase = phrase) :
    lower (trim text) = phrase ↔
      ∃ core, Padded core text ∧ sameButAsciiCase (core.map kelvinAsK) phrase = true := by
  constructor
  · intro h
    exact ⟨trim text, exists_eq_trim text, (lower_eq_iff hphrase).1 h⟩
  · rintro ⟨core, ⟨before, after, hbefore, hafter, rfl⟩, hcore⟩
    rw [sameButAsciiCase_kelvinAsK_iff hphrase] at hcore
    rw [trim_append_of_blank hbefore hafter, lower_eq_iff hphrase,
      sameButAsciiCase_kelvinAsK_iff hphrase, ← trim_map isBlank_asciiForm, hcore, htrim]

/-! ### Categories -/

namespace Category

theorem ofName?_eq_some_iff {text : String} {category : Category} :
    ofName? text = some category ↔ category.name = text := by
  constructor
  · intro h
    exact eq_of_beq (List.find?_some (p := fun c : Category => c.name == text) h)
  · rintro rfl
    cases category <;> decide

/-- The name of a category as it is looked up. -/
theorem name_toList (category : Category) :
    IsLowerAscii category.name.toList ∧ trim category.name.toList = category.name.toList ∧
      'k' ∉ category.name.toList := by
  cases category <;> decide +kernel

/-- **A category is named** by its name in any case, with blanks around it. -/
theorem parse?_eq_some_iff {text : String} {category : Category} :
    parse? text = some category ↔
      ∃ core, Padded core text.toList ∧
        sameButAsciiCase core category.name.toList = true := by
  obtain ⟨hlower, htrim, hk⟩ := category.name_toList
  rw [parse?, ofName?_eq_some_iff, ← String.toList_inj, String.toList_ofList, eq_comm,
    lower_trim_eq_iff hlower htrim]
  simp only [sameButAsciiCase_kelvin_iff hlower hk]

end Category

/-! ### Conditions -/

namespace Condition

/-- A text is a phrase in any case, the Kelvin sign being a k, with blanks around it. -/
def Spells (phrase text : String) : Prop :=
  ∃ core, Padded core text.toList ∧
    sameButAsciiCase (core.map kelvinAsK) phrase.toList = true

/-- The text that is looked up. -/
def lookedUp (text : String) : String := String.ofList (lower (trim text.toList))

/-- The condition that a table of phrases has for a text. -/
def ofPhraseIn (table : List (String × Condition)) (text : String) : Condition :=
  match table.find? fun entry => entry.1 == lookedUp text with
  | some entry => entry.2
  | none => unknown

theorem find?_phrase_iff {table : List (String × Condition)} (htable : (table.map Prod.fst).Nodup)
    {text : String} {entry : String × Condition} :
    (table.find? fun entry => entry.1 == text) = some entry ↔ entry ∈ table ∧ entry.1 = text := by
  induction table with
  | nil => simp
  | cons first table ih =>
      rw [List.map_cons, List.nodup_cons] at htable
      rw [List.find?_cons]
      by_cases hfirst : first.1 = text
      · have hother : entry ∈ table → entry.1 ≠ text := by
          rintro hmem rfl
          exact htable.1 (hfirst ▸ List.mem_map_of_mem hmem)
        simp only [hfirst, beq_self_eq_true, Option.some.injEq, List.mem_cons]
        constructor
        · rintro rfl
          exact ⟨Or.inl rfl, hfirst⟩
        · rintro ⟨rfl | hmem, htext⟩
          · rfl
          · exact absurd htext (hother hmem)
      · simp only [beq_eq_false_iff_ne.2 hfirst, ih htable.2, List.mem_cons]
        constructor
        · rintro ⟨hmem, htext⟩
          exact ⟨Or.inr hmem, htext⟩
        · rintro ⟨rfl | hmem, htext⟩
          · exact absurd htext hfirst
          · exact ⟨hmem, htext⟩

/-- **What a table without repetitions has for a text**, wherever it has it. -/
theorem ofPhraseIn_eq_iff {table : List (String × Condition)}
    (htable : (table.map Prod.fst).Nodup) {text : String} {condition : Condition} :
    ofPhraseIn table text = condition ↔
      (∃ entry ∈ table, entry.1 = lookedUp text ∧ entry.2 = condition) ∨
        (condition = unknown ∧ ∀ entry ∈ table, entry.1 ≠ lookedUp text) := by
  unfold ofPhraseIn
  split
  · next entry hentry =>
    obtain ⟨hmem, htext⟩ := (find?_phrase_iff htable).1 hentry
    constructor
    · rintro rfl
      exact Or.inl ⟨entry, hmem, htext, rfl⟩
    · rintro (⟨other, hother, hsame, rfl⟩ | ⟨-, hnone⟩)
      · have hfound := (find?_phrase_iff htable).2 ⟨hother, hsame⟩
        rw [hentry, Option.some.injEq] at hfound
        rw [hfound]
      · exact absurd htext (hnone entry hmem)
  · next hnone =>
    have hmissing : ∀ entry ∈ table, entry.1 ≠ lookedUp text := by
      intro entry hmem
      simpa using List.find?_eq_none.1 hnone entry hmem
    constructor
    · rintro rfl
      exact Or.inr ⟨rfl, hmissing⟩
    · rintro (⟨entry, hmem, htext, -⟩ | ⟨rfl, -⟩)
      · exact absurd htext (hmissing entry hmem)
      · rfl

theorem phrases_nodup : (phrases.map Prod.fst).Nodup := by
  decide

/-- The phrases of the table as they are looked up. -/
theorem phrases_toList :
    ∀ entry ∈ phrases, IsLowerAscii entry.1.toList ∧ trim entry.1.toList = entry.1.toList := by
  decide +kernel

theorem eq_lookedUp_iff {entry : String × Condition} (h : entry ∈ phrases) {text : String} :
    entry.1 = lookedUp text ↔ Spells entry.1 text := by
  obtain ⟨hlower, htrim⟩ := phrases_toList entry h
  rw [lookedUp, ← String.toList_inj, String.toList_ofList, eq_comm,
    lower_trim_eq_iff hlower htrim]
  rfl

end Condition

/-! ### Lookups -/

/-- **The lookups accept the intended spellings.**  A category is found for its name in any case of
the ASCII letters, with blanks around it, and for nothing else.  A condition is the one of the phrase
that the text spells in that sense, the Kelvin sign counting as a k, and unknown if there is none; a
text spells one phrase at most, the order of the table makes no difference, and the name of a
condition is a phrase for it. -/
theorem spellings_accepted :
    (∀ (text : String) (category : Category),
      Category.parse? text = some category ↔
        ∃ core, Padded core text.toList ∧
          sameButAsciiCase core category.name.toList = true) ∧
    (∀ (text : String) (condition : Condition),
      Condition.ofPhrase text = condition ↔
        (∃ entry ∈ Condition.phrases, Condition.Spells entry.1 text ∧ entry.2 = condition) ∨
          (condition = .unknown ∧ ∀ entry ∈ Condition.phrases, ¬ Condition.Spells entry.1 text)) ∧
    (∀ text, ∀ entry ∈ Condition.phrases, ∀ other ∈ Condition.phrases,
      Condition.Spells entry.1 text → Condition.Spells other.1 text → entry = other) ∧
    (∀ text table, table.Perm Condition.phrases →
      Condition.ofPhraseIn table text = Condition.ofPhrase text) ∧
    ∀ text, Condition.ofPhrase (Condition.ofPhrase text).name = Condition.ofPhrase text := by
  refine ⟨fun _ _ => Category.parse?_eq_some_iff, ?_, ?_, ?_, fun _ => Condition.ofPhrase_name _⟩
  · intro text condition
    refine (Condition.ofPhraseIn_eq_iff Condition.phrases_nodup).trans (or_congr ?_ ?_)
    · exact exists_congr fun entry => and_congr_right fun h =>
        and_congr_left' (Condition.eq_lookedUp_iff h)
    · exact and_congr_right' (forall₂_congr fun entry h => not_congr (Condition.eq_lookedUp_iff h))
  · intro text entry hentry other hother hspells hspelled
    -- both are found for the text that is looked up
    have hfirst := (Condition.find?_phrase_iff Condition.phrases_nodup).2
      ⟨hentry, (Condition.eq_lookedUp_iff hentry).2 hspells⟩
    have hsecond := (Condition.find?_phrase_iff Condition.phrases_nodup).2
      ⟨hother, (Condition.eq_lookedUp_iff hother).2 hspelled⟩
    exact Option.some.inj (hfirst.symm.trans hsecond)
  · intro text table hperm
    have htable : (table.map Prod.fst).Nodup :=
      (hperm.map Prod.fst).nodup_iff.2 Condition.phrases_nodup
    rw [Condition.ofPhraseIn_eq_iff htable]
    simp only [hperm.mem_iff]
    exact (Condition.ofPhraseIn_eq_iff Condition.phrases_nodup).1 rfl

/-- A phrase with a Kelvin sign and wide blanks, in the table and in the table read backwards. -/
theorem spellings_accepted_kelvin :
    Condition.Spells "like new" "\u3000Li\u212Ae NEW\u0085" ∧
    Condition.ofPhrase "\u3000Li\u212Ae NEW\u0085" = .likeNew ∧
    Condition.ofPhraseIn Condition.phrases.reverse "\u3000Li\u212Ae NEW\u0085" = .likeNew ∧
    ∀ entry ∈ Condition.phrases, Condition.Spells entry.1 "\u3000Li\u212Ae NEW\u0085" →
      entry = ("like new", .likeNew) := by
  obtain ⟨-, hcondition, hunique, horder, -⟩ := spellings_accepted
  have hmem : ("like new", Condition.likeNew) ∈ Condition.phrases := by decide
  have hspells : Condition.Spells "like new" "\u3000Li\u212Ae NEW\u0085" :=
    ⟨"Li\u212Ae NEW".toList, ⟨['\u3000'], ['\u0085'], List.forall_mem_singleton.2 (by decide),
      List.forall_mem_singleton.2 (by decide), by decide +kernel⟩, by decide +kernel⟩
  have hfound := (hcondition "\u3000Li\u212Ae NEW\u0085" .likeNew).2
    (Or.inl ⟨_, hmem, hspells, rfl⟩)
  refine ⟨hspells, hfound, ?_, ?_⟩
  · rw [horder _ _ (List.reverse_perm _), hfound]
  · intro entry hentry h
    exact hunique _ entry hentry _ hmem h hspells

end ListingAttributes
