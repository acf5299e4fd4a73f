import ListingAttributes.Proofs.Keys.Servers
import ListingAttributes.Proofs.Records.Likeness
import ListingAttributes.Proofs.Text.AsciiForms

/-!
# Keys and the style of texts

Texts are restyled by changing the case of ASCII letters and by exchanging
spaces and underscores (`Restyled`).  Texts are restyled exactly if they have
the same plain form (`map_plainForm_of_restyled`), and a key reads the plain
forms only: a sigma ends a word or does not, whatever the letters around it are
styled like (`folded_map_plainForm`).  The type of a drive is compared up to
the case of ASCII letters and may be restyled in that alone.

`key_restyled` says so for whole records, and that no key has a space.
-/

namespace ListingAttributes

open Json

/-! ### Restyled texts -/

/-- Two characters that a key does not tell apart: the same but for the case of ASCII letters, or
a space and an underscore. -/
inductive RestyledChar : Char → Char → Prop where
  | letter {c d : Char} (h : c.toLower = d.toLower) : RestyledChar c d
  | gap {c d : Char} (hc : c = ' ' ∨ c = '_') (hd : d = ' ' ∨ d = '_') : RestyledChar c d

/-- Two texts that differ at most in the case of ASCII letters and in what stands for a space. -/
def Restyled (text other : List Char) : Prop := List.Forall₂ RestyledChar text other

namespace ProductKey

open Text

/-- A character in lower-case ASCII, with an underscore for a space. -/
def plainForm (c : Char) : Char := if c = ' ' then '_' else c.toLower

/-- A character of a lower-cased text as a key has it. -/
def gapless (c : Char) : Char := if c = ' ' then '_' else c

theorem plainForm_of_restyledChar {c d : Char} (h : RestyledChar c d) :
    plainForm c = plainForm d := by
  cases h with
  | gap hc hd => rcases hc with rfl | rfl <;> rcases hd with rfl | rfl <;> rfl
  | letter h =>
      have hspace : c = ' ' ↔ d = ' ' := by
        constructor
        · rintro rfl
          exact eq_of_toLower_eq (by decide) h.symm
        · rintro rfl
          exact eq_of_toLower_eq (by decide) h
      simp only [plainForm, hspace, h]

theorem map_plainForm_of_restyled {text other : List Char} (h : Restyled text other) :
    text.map plainForm = other.map plainForm := by
  induction h with
  | nil => rfl
  | cons hchar _ ih =>
      rw [List.map_cons, List.map_cons, ih, plainForm_of_restyledChar hchar]

/-- The code points of the characters that have another plain form: the space and the capitals. -/
def styledCodes : List Nat := 32 :: List.range' 65 26

theorem plainForm_eq_self_or (c : Char) : plainForm c = c ∨ c.toNat ∈ styledCodes := by
  by_cases hspace : c = ' '
  · subst hspace
    exact Or.inr List.mem_cons_self
  by_cases hupper : c.isUpper = true
  · right
    refine List.mem_cons_of_mem _ (List.mem_range'_1.2 ?_)
    simp only [Char.isUpper, decide_eq_true_eq, UInt32.le_iff_toNat_le,
      ge_iff_le] at hupper
    change 65 ≤ c.toNat ∧ c.toNat ≤ 90 at hupper
    omega
  · left
    rw [plainForm, if_neg hspace]
    exact Char.toLower_eq_of_not_isUpper (by simpa using hupper)

/-- What is the same for a space or a capital and its plain form is the same for all. -/
theorem plainForm_congr {α : Type} {f : Char → α}
    (h : ∀ code ∈ styledCodes, f (plainForm (Char.ofNat code)) = f (Char.ofNat code)) (c : Char) :
    f (plainForm c) = f c := by
  rcases plainForm_eq_self_or c with hc | hc
  · rw [hc]
  · have hcode := h c.toNat hc
    rwa [Char.ofNat_toNat] at hcode

theorem isCased_plainForm (c : Char) : isCased (plainForm c) = isCased c :=
  plainForm_congr (by decide +kernel) c

theorem isCaseIgnorable_plainForm (c : Char) :
    isCaseIgnorable (plainForm c) = isCaseIgnorable c :=
  plainForm_congr (by decide +kernel) c

theorem plainForm_eq_sigma_iff (c : Char) : plainForm c = 'Σ' ↔ c = 'Σ' := by
  have h := plainForm_congr (f := fun c => decide (c = 'Σ')) (by decide +kernel) c
  simpa using h

theorem map_lowerChar_plainForm (c : Char) :
    (lowerChar (plainForm c)).map gapless = (lowerChar c).map gapless :=
  plainForm_congr (f := fun c => (lowerChar c).map gapless) (by decide +kernel) c

theorem startsCased_map_plainForm (text : List Char) :
    startsCased (text.map plainForm) = startsCased text := by
  have hcomp : isCaseIgnorable ∘ plainForm = isCaseIgnorable := funext isCaseIgnorable_plainForm
  unfold startsCased
  rw [List.dropWhile_map, hcomp]
  cases text.dropWhile isCaseIgnorable with
  | nil => rfl
  | cons c rest => exact isCased_plainForm c

/-- The context of a sigma is read from plain forms. -/
theorem map_lowerAfter_plainForm (before text : List Char) :
    (lowerAfter (before.map plainForm) (text.map plainForm)).map gapless =
      (lowerAfter before text).map gapless := by
  induction text generalizing before with
  | nil => rfl
  | cons c rest ih =>
      have hrest := ih (c :: before)
      rw [List.map_cons] at hrest
      simp only [List.map_cons, lowerAfter, List.map_append, hrest, endsWord,
        startsCased_map_plainForm, plainForm_eq_sigma_iff]
      split
      · rfl
      · rw [map_lowerChar_plainForm]

/-- **A key reads plain forms only.** -/
theorem folded_map_plainForm (text : List Char) : folded (text.map plainForm) = folded text :=
  map_lowerAfter_plainForm [] text

theorem folded_restyled {text other : List Char} (h : Restyled text other) :
    folded text = folded other := by
  rw [← folded_map_plainForm text, map_plainForm_of_restyled h, folded_map_plainForm]

/-! ### Components without a space -/

theorem space_not_mem_folded (text : List Char) : ' ' ∉ folded text := by
  intro h
  obtain ⟨c, -, hc⟩ := List.mem_map.1 h
  split at hc
  · cases hc
  · next hspace => exact hspace hc

theorem space_not_mem_token (record : Record) (field : String) : ' ' ∉ token record field := by
  unfold token
  split
  · split
    · decide
    · exact space_not_mem_folded _
  · decide

theorem space_not_mem_number (record : Record) (field : String) : ' ' ∉ number record field :=
  fun h => absurd (isNumberChar_of_mem_number h) (by decide)

theorem space_not_mem_ramSubtype (record : Record) : ' ' ∉ ramSubtype record :=
  fun h => absurd (isSubtypeChar_of_mem_ramSubtype h) (by decide)

theorem space_not_mem_driveSubtype (record : Record) : ' ' ∉ driveSubtype record :=
  fun h => absurd (isSubtypeChar_of_mem_driveSubtype h) (by decide)

theorem space_not_mem_joined {components : List (List Char)}
    (h : ∀ component ∈ components, ' ' ∉ component) : ' ' ∉ joined components := by
  induction components with
  | nil => exact List.not_mem_nil
  | cons component rest ih =>
      rw [List.forall_mem_cons] at h
      cases rest with
      | nil => exact h.1
      | cons next rest =>
          show ' ' ∉ component ++ ':' :: joined (next :: rest)
          rw [List.mem_append, List.mem_cons, not_or, not_or]
          exact ⟨h.1, by decide, ih h.2⟩

theorem space_not_mem_components (category : Category) (record : Record) :
    ∀ component ∈ components category.name record, ' ' ∉ component := by
  cases category with
  | ram =>
      show ∀ component ∈ components "ram" record, _
      simp only [components_ram, List.forall_mem_cons, List.mem_append, not_or]
      exact ⟨by decide, space_not_mem_token _ _, space_not_mem_ramSubtype _,
        ⟨space_not_mem_number _ _, by decide⟩, space_not_mem_number _ _, List.forall_mem_nil _⟩
  | drive =>
      show ∀ component ∈ components "drive" record, _
      simp only [components_drive, List.forall_mem_cons]
      exact ⟨by decide, space_not_mem_token _ _, space_not_mem_token _ _, space_not_mem_token _ _,
        space_not_mem_driveSubtype _, List.forall_mem_nil _⟩
  | server =>
      show ∀ component ∈ components "server" record, _
      simp only [components_server, List.forall_mem_cons]
      exact ⟨by decide, space_not_mem_token _ _, space_not_mem_token _ _, space_not_mem_token _ _,
        List.forall_mem_nil _⟩
  | cpu =>
      show ∀ component ∈ components "cpu" record, _
      simp only [components_cpu, List.forall_mem_cons]
      exact ⟨by decide, space_not_mem_token _ _, space_not_mem_token _ _, space_not_mem_token _ _,
        List.forall_mem_nil _⟩
  | nic =>
      show ∀ component ∈ components "nic" record, _
      simp only [components_nic, List.forall_mem_cons, List.mem_append, not_or]
      exact ⟨by decide, space_not_mem_token _ _, ⟨space_not_mem_number _ _, by decide⟩,
        space_not_mem_token _ _, List.forall_mem_nil _⟩
  | other =>
      show ∀ component ∈ ["other".toList, "other".toList], _
      decide

end ProductKey

/-! ### Restyled records -/

/-- The same in a field, up to the style of a text; the type of a drive up to the case of ASCII
letters. -/
inductive RestyledField (category : Category) (field : String) : Value → Value → Prop where
  | same (value : Value) : RestyledField category field value value
  | case {text other : String} (h : Text.sameButAsciiCase text.toList other.toList = true) :
      RestyledField category field (.string text) (.string other)
  | style {text other : String} (hfield : category ≠ .drive ∨ field ≠ "type")
      (h : Restyled text.toList other.toList) :
      RestyledField category field (.string text) (.string other)

/-- Two records with the same fields and the same in each of them, up to the style of texts. -/
def RestyledFor (category : Category) (first second : Record) : Prop :=
  ∀ field, Option.Rel (RestyledField category field) (lookup field first.members)
    (lookup field second.members)

variable {category : Category} {first second : Record} {field : String}

theorem RestyledField.isNull_eq {value other : Value} (h : RestyledField category field value other) :
    value.isNull = other.isNull := by
  cases h <;> rfl

theorem Restyled.refl (text : List Char) : Restyled text text :=
  List.forall₂_same.2 fun _ _ => .letter rfl

theorem restyled_of_sameButAsciiCase {text other : List Char}
    (h : Text.sameButAsciiCase text other = true) : Restyled text other := by
  rw [Text.sameButAsciiCase_iff] at h
  exact (List.forall₂_map_left_iff.1 (List.forall₂_map_right_iff.1
    (List.forall₂_eq_eq_eq ▸ h : List.Forall₂ Eq _ _))).imp fun _ _ => .letter

theorem RestyledField.restyled {text other : String}
    (h : RestyledField category field (.string text) (.string other)) :
    Restyled text.toList other.toList := by
  cases h with
  | same => exact .refl _
  | case h => exact restyled_of_sameButAsciiCase h
  | style _ h => exact h

/-- The type of a drive keeps its letters. -/
theorem RestyledField.sameButAsciiCase {text other : String}
    (h : RestyledField .drive "type" (.string text) (.string other)) :
    Text.sameButAsciiCase text.toList other.toList = true := by
  cases h with
  | same => exact Text.sameButAsciiCase_iff.2 rfl
  | case h => exact h
  | style hfield _ => exact absurd rfl (hfield.resolve_left (not_not_intro rfl))

namespace RestyledFor

/-- Restyled records state the same in a field, or texts in both. -/
theorem get?_eq_or (h : RestyledFor category first second) (field : String) :
    first.get? field = second.get? field ∨
      ∃ text other, first.get? field = some (.string text) ∧
        second.get? field = some (.string other) ∧
        RestyledField category field (.string text) (.string other) := by
  have hfield : Option.Rel (RestyledField category field) (first.get? field)
      (second.get? field) := rel_get? (fun _ _ => RestyledField.isNull_eq) (h field)
  generalize first.get? field = value at *
  generalize second.get? field = other at *
  cases hfield with
  | none => exact .inl rfl
  | some hfield =>
      cases hfield with
      | same => exact .inl rfl
      | case h => exact .inr ⟨_, _, rfl, rfl, .case h⟩
      | style hfield h => exact .inr ⟨_, _, rfl, rfl, .style hfield h⟩

theorem number?_eq (h : RestyledFor category first second) (field : String) :
    first.number? field = second.number? field := by
  unfold Record.number?
  rcases h.get?_eq_or field with heq | ⟨text, other, hfirst, hsecond, -⟩
  · rw [heq]
  · rw [hfirst, hsecond]

theorem bool?_eq (h : RestyledFor category first second) (field : String) :
    first.bool? field = second.bool? field := by
  unfold Record.bool?
  rcases h.get?_eq_or field with heq | ⟨text, other, hfirst, hsecond, -⟩
  · rw [heq]
  · rw [hfirst, hsecond]

theorem str?_eq_or (h : RestyledFor category first second) (field : String) :
    first.str? field = second.str? field ∨
      ∃ text other, first.str? field = some text ∧ second.str? field = some other ∧
        RestyledField category field (.string text) (.string other) := by
  unfold Record.str?
  rcases h.get?_eq_or field with heq | ⟨text, other, hfirst, hsecond, htext⟩
  · exact .inl (by rw [heq])
  · exact .inr ⟨text, other, by rw [hfirst], by rw [hsecond], htext⟩

end RestyledFor

/-! ### Keys -/

namespace ProductKey

theorem token_restyled (h : RestyledFor category first second) (field : String) :
    token first field = token second field := by
  unfold token
  rcases h.str?_eq_or field with heq | ⟨text, other, hfirst, hsecond, htext⟩
  · rw [heq]
  · have hnil : text.toList = [] ↔ other.toList = [] := by
      rw [← List.length_eq_zero_iff, ← List.length_eq_zero_iff, htext.restyled.length_eq]
    rw [hfirst, hsecond]
    dsimp only
    rw [folded_restyled htext.restyled]
    simp only [hnil]

theorem number_restyled (h : RestyledFor category first second) (field : String) :
    number first field = number second field := by
  unfold number
  rw [h.number?_eq]

theorem ramSubtype_restyled (h : RestyledFor category first second) :
    ramSubtype first = ramSubtype second := by
  unfold ramSubtype
  rw [h.bool?_eq, h.bool?_eq]

theorem driveSubtype_restyled (h : RestyledFor .drive first second) :
    driveSubtype first = driveSubtype second := by
  unfold driveSubtype
  rw [h.number?_eq]
  rcases h.str?_eq_or "type" with heq | ⟨text, other, hfirst, hsecond, htype⟩
  · rw [heq]
  · have hsame := htype.sameButAsciiCase
    have hssd : Text.sameButAsciiCase text.toList ['S', 'S', 'D'] =
        Text.sameButAsciiCase other.toList ['S', 'S', 'D'] := by
      unfold Text.sameButAsciiCase at hsame ⊢
      rw [eq_of_beq hsame]
    rw [hfirst, hsecond]
    dsimp only
    rw [hssd]

theorem components_restyled (h : RestyledFor category first second) :
    components category.name first = components category.name second := by
  cases category with
  | ram =>
      show components "ram" first = components "ram" second
      rw [components_ram, components_ram, token_restyled h, ramSubtype_restyled h,
        number_restyled h, number_restyled h]
  | drive =>
      show components "drive" first = components "drive" second
      rw [components_drive, components_drive, token_restyled h, token_restyled h,
        token_restyled h, driveSubtype_restyled h]
  | server =>
      show components "server" first = components "server" second
      rw [components_server, components_server, token_restyled h, token_restyled h,
        token_restyled h]
  | cpu =>
      show components "cpu" first = components "cpu" second
      rw [components_cpu, components_cpu, token_restyled h, token_restyled h, token_restyled h]
  | nic =>
      show components "nic" first = components "nic" second
      rw [components_nic, components_nic, token_restyled h, number_restyled h, token_restyled h]
  | other => rfl

end ProductKey

open ProductKey

/-- **A key ignores the style of texts.**  Records, valid or not, that differ in the case of ASCII
letters and in spaces and underscores of their texts have the same key, where the type of a drive may
differ in case only; and no key of a category has a space. -/
theorem key_restyled (category : Category) :
    (∀ first second, RestyledFor category first second →
      productKey category.name first = productKey category.name second) ∧
    ∀ record, ' ' ∉ (productKey category.name record).toList := by
  constructor
  · intro first second h
    unfold productKey
    rw [components_restyled h]
  · intro record
    unfold productKey
    rw [String.toList_ofList]
    exact space_not_mem_joined (space_not_mem_components category record)

/-- A drive of which two texts are known. -/
def driveOf (capacity type : String) : Record :=
  (Record.certain.insertText "capacity" capacity).insertText "type" type

/-- The last letter of the capacity ends a word in either style of the letter before it. -/
theorem key_restyled_sigma :
    RestyledFor .drive (driveOf "AB TΣ" "Ssd") (driveOf "ab_tΣ" "sSD") ∧
      productKey "drive" (driveOf "AB TΣ" "Ssd") = productKey "drive" (driveOf "ab_tΣ" "sSD") ∧
      productKey "drive" (driveOf "ab_tΣ" "sSD") = "drive:unknown:unknown:ab_tς:ssd" := by
  have hcapacity : Restyled "AB TΣ".toList "ab_tΣ".toList :=
    .cons (.letter (by decide)) (.cons (.letter (by decide)) (.cons (.gap (by decide) (by decide))
      (.cons (.letter (by decide)) (.cons (.letter rfl) .nil))))
  have hrestyled : RestyledFor .drive (driveOf "AB TΣ" "Ssd") (driveOf "ab_tΣ" "sSD") := by
    intro field
    unfold driveOf Record.insertText
    simp only [Record.lookup_insert]
    split
    · exact .some (.case (by decide +kernel))
    · split
      · next hfield =>
        refine .some (.style (Or.inr ?_) hcapacity)
        rintro rfl
        exact absurd hfield (by decide)
      · generalize lookup field Record.certain.members = value
        cases value with
        | none => exact .none
        | some value => exact .some (.same value)
  exact ⟨hrestyled, (key_restyled .drive).1 _ _ hrestyled, by decide +kernel⟩

end ListingAttributes
