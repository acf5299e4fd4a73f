import ListingAttributes.Proofs.Records.Spellings

/-!
# Records that say the same

A provider may write a number with or without a fraction of zero, a spelling
in another case, a condition in other words.  Two records are alike for a
category if they say the same in every field, one way or another (`AlikeFor`);
two records that agree but for the way numbers are written are `Alike`.

Validation cannot tell records apart that are alike for its category:

* `ruling_alike`, `check_alike`: no check can;
* `validate_alike`: both records fail in the same way, or both succeed and the
  results are alike for the category again;
* `alike_of_passed`: valid records that are alike for the category are alike.
-/

namespace ListingAttributes

open Json Validation

/-! ### Values -/

namespace Json

mutual

/-- The same value, numbers compared as doubles at every depth. -/
inductive Alike : Value → Value → Prop where
  | null : Alike .null .null
  | bool (b : Bool) : Alike (.bool b) (.bool b)
  | number {x y : Number} (h : x.toDouble.sameValue y.toDouble = true) :
      Alike (.number x) (.number y)
  | string (text : String) : Alike (.string text) (.string text)
  | array {items others : List Value} (h : AlikeItems items others) :
      Alike (.array items) (.array others)
  | object {members others : List (String × Value)} (h : AlikeMembers members others) :
      Alike (.object members) (.object others)

/-- The same items, one by one. -/
inductive AlikeItems : List Value → List Value → Prop where
  | nil : AlikeItems [] []
  | cons {item other : Value} {items others : List Value} (h : Alike item other)
      (hrest : AlikeItems items others) : AlikeItems (item :: items) (other :: others)

/-- The same keys with the same values, one by one. -/
inductive AlikeMembers : List (String × Value) → List (String × Value) → Prop where
  | nil : AlikeMembers [] []
  | cons (key : String) {value other : Value} {members others : List (String × Value)}
      (h : Alike value other) (hrest : AlikeMembers members others) :
      AlikeMembers ((key, value) :: members) ((key, other) :: others)

end

theorem Alike.isNull_eq {value other : Value} (h : Alike value other) :
    value.isNull = other.isNull := by
  cases h <;> rfl

end Json

/-! ### Fields and records -/

/-- A field that a schema constrains to a set of spellings. -/
def Category.IsSpelled (category : Category) (field : String) : Prop :=
  ∃ entry ∈ category.checks, entry.1.field = field ∧ ∃ allowed, entry.1.rule = .oneOf allowed

/-- The same in a field: the same value, or the same spelling but for blanks around it and the
case of ASCII letters where a spelling is expected, or the same condition in other words. -/
inductive AlikeField (category : Category) (field : String) : Value → Value → Prop where
  | value {value other : Value} (h : Alike value other) : AlikeField category field value other
  | spelling {text other : String} (hfield : category.IsSpelled field)
      (htext : Text.trim text.toList ≠ []) (hother : Text.trim other.toList ≠ [])
      (h : Text.sameButAsciiCase (Text.trim text.toList) (Text.trim other.toList) = true) :
      AlikeField category field (.string text) (.string other)
  | condition {text other : String} (hfield : field = conditionField)
      (h : Condition.ofPhrase text = Condition.ofPhrase other) :
      AlikeField category field (.string text) (.string other)

/-- Two records with the same fields that say the same in each of them. -/
def AlikeFor (category : Category) (first second : Record) : Prop :=
  ∀ field, Option.Rel (AlikeField category field) (lookup field first.members)
    (lookup field second.members)

/-- Two records with the same fields and the same value in each of them. -/
def Record.Alike (first second : Record) : Prop :=
  ∀ field, Option.Rel Json.Alike (lookup field first.members) (lookup field second.members)

/-! ### Results -/

/-- Two errors of one variant on one field. -/
inductive ValidationError.SameFailure : ValidationError → ValidationError → Prop where
  | missingField (field : String) : SameFailure (.missingField field) (.missingField field)
  | outOfRange (field : String) (bounds : Bounds)
      (value other : Numeric.Binary Numeric.binary64) :
      SameFailure (.outOfRange field value bounds) (.outOfRange field other bounds)
  | invalidEnum (field : String) (allowed : List String) (value other : String) :
      SameFailure (.invalidEnum field value allowed) (.invalidEnum field other allowed)
  | invalidType (field expected : String) :
      SameFailure (.invalidType field expected) (.invalidType field expected)

/-- Both results are errors of one variant on one field, or both are values that are related. -/
inductive Agree {α : Type} (related : α → α → Prop) :
    Except ValidationError α → Except ValidationError α → Prop where
  | ok {first second : α} (h : related first second) : Agree related (.ok first) (.ok second)
  | error {first second : ValidationError} (h : first.SameFailure second) :
      Agree related (.error first) (.error second)

theorem ValidationError.SameFailure.refl (error : ValidationError) : error.SameFailure error := by
  cases error with
  | missingField field => exact .missingField field
  | outOfRange field value bounds => exact .outOfRange field bounds value value
  | invalidEnum field value allowed => exact .invalidEnum field allowed value value
  | invalidType field expected => exact .invalidType field expected

namespace Agree

variable {α β : Type} {related : α → α → Prop} {others : β → β → Prop}
  {first second : Except ValidationError α}

theorem refl (result : Except ValidationError α) : Agree Eq result result := by
  cases result with
  | error error => exact .error (.refl error)
  | ok value => exact .ok rfl

theorem imp {stronger : α → α → Prop} (h : Agree related first second)
    (himp : ∀ a b, first = .ok a → second = .ok b → related a b → stronger a b) :
    Agree stronger first second := by
  cases h with
  | ok h => exact .ok (himp _ _ rfl rfl h)
  | error h => exact .error h

theorem map {f g : α → β} (h : Agree related first second)
    (hmap : ∀ a b, related a b → others (f a) (g b)) :
    Agree others (first.map f) (second.map g) := by
  cases h with
  | ok h => exact .ok (hmap _ _ h)
  | error h => exact .error h

theorem bind {f g : α → Except ValidationError β} (h : Agree related first second)
    (hbind : ∀ a b, related a b → Agree others (f a) (g b)) :
    Agree others (first.bind f) (second.bind g) := by
  cases h with
  | ok h => exact hbind _ _ h
  | error h => exact .error h

end Agree

/-! ### Reading and writing -/

variable {category : Category} {first second : Record}

theorem AlikeField.isNull_eq {field : String} {value other : Value}
    (h : AlikeField category field value other) : value.isNull = other.isNull := by
  cases h with
  | value h => exact h.isNull_eq
  | spelling _ _ _ _ => rfl
  | condition _ _ => rfl

/-- A relation that nulls have only with nulls holds between what fields state. -/
theorem rel_get? {related : Value → Value → Prop} {field : String}
    (hnull : ∀ value other, related value other → value.isNull = other.isNull)
    (h : Option.Rel related (lookup field first.members) (lookup field second.members)) :
    Option.Rel related (first.get? field) (second.get? field) := by
  unfold Record.get?
  generalize lookup field first.members = value at *
  generalize lookup field second.members = other at *
  cases h with
  | none => exact .none
  | @some value other h =>
      rw [Option.filter_some, Option.filter_some, hnull value other h]
      split
      · exact .some h
      · exact .none

theorem AlikeFor.get? (h : AlikeFor category first second) (field : String) :
    Option.Rel (AlikeField category field) (first.get? field) (second.get? field) :=
  rel_get? (fun _ _ => AlikeField.isNull_eq) (h field)

theorem AlikeFor.insert (h : AlikeFor category first second) {field : String}
    {value written : OrderedValue} (hvalue : AlikeField category field value.1 written.1) :
    AlikeFor category (first.insert field value) (second.insert field written) := by
  intro other
  rw [Record.lookup_insert, Record.lookup_insert]
  split
  · next heq =>
    rw [← heq]
    exact .some hvalue
  · exact h other

theorem AlikeFor.insertText (h : AlikeFor category first second) (field text : String) :
    AlikeFor category (first.insertText field text) (second.insertText field text) :=
  h.insert (.value (.string text))

/-! ### Checks -/

theorem sameButAsciiCase_congr {left right text : List Char}
    (h : Text.sameButAsciiCase left right = true) :
    Text.sameButAsciiCase text left = Text.sameButAsciiCase text right := by
  unfold Text.sameButAsciiCase at h ⊢
  rw [beq_iff_eq] at h
  rw [h]

/-- A rule cannot tell numbers of the same value apart. -/
theorem ruling_number {rule : FieldRule} {required : Bool} {x y : Number}
    (hno : Validation.Rule.HasNoWhole rule.rule)
    (h : x.toDouble.signedUnits = y.toDouble.signedUnits) :
    Agree Eq (ruling rule required (some (.number x)))
      (ruling rule required (some (.number y))) := by
  have hnonempty : ∀ x : Number, Text.trim x.text ≠ [] := by
    intro x
    rw [trim_numberText]
    exact numberText_ne_nil x
  unfold ruling
  cases hrule : rule.rule with
  | nonBlank => exact .refl _
  | oneOf allowed =>
      rw [hrule] at hno
      simp only [spelling?, if_neg (hnonempty x), if_neg (hnonempty y), find?_numberText hno h]
      split
      · exact .refl _
      · exact .error (.invalidEnum _ _ _ _)
  | within bounds zeroUnset =>
      dsimp only
      rw [Numeric.Binary.isZero_congr h, Bounds.covers_congr h]
      split
      · exact .refl _
      · exact .error (.outOfRange _ _ _ _)

/-- A rule cannot tell spellings apart that differ in blanks around them and in case. -/
theorem ruling_spelling {rule : FieldRule} {required : Bool} {text other : String}
    (htext : Text.trim text.toList ≠ []) (hother : Text.trim other.toList ≠ [])
    (h : Text.sameButAsciiCase (Text.trim text.toList) (Text.trim other.toList) = true) :
    Agree Eq (ruling rule required (some (.string text)))
      (ruling rule required (some (.string other))) := by
  unfold ruling
  cases rule.rule with
  | nonBlank =>
      dsimp only
      rw [if_neg htext, if_neg hother]
      exact .refl _
  | oneOf allowed =>
      simp only [spelling?, if_neg htext, if_neg hother, sameButAsciiCase_congr h]
      split
      · exact .refl _
      · exact .error (.invalidEnum _ _ _ _)
  | within bounds zeroUnset => exact .refl _

/-- **No rule of a category tells fields apart** that say the same. -/
theorem ruling_alike {entry : FieldRule × Bool} (hentry : entry ∈ category.checks)
    {value other : Option Value}
    (h : Option.Rel (AlikeField category entry.1.field) value other) :
    Agree Eq (ruling entry.1 entry.2 value) (ruling entry.1 entry.2 other) := by
  cases h with
  | none => exact .refl _
  | some h =>
      cases h with
      | value h =>
          cases h with
          | null => exact .refl _
          | bool b => exact .refl _
          | string text => exact .refl _
          | number h =>
              exact ruling_number (category.hasNoWhole_checks entry hentry)
                (Numeric.Binary.sameValue_iff.1 h)
          | array _ =>
              unfold ruling
              cases entry.1.rule <;> exact .refl _
          | object _ =>
              unfold ruling
              cases entry.1.rule <;> exact .refl _
      | spelling _ htext hother h => exact ruling_spelling htext hother h
      | condition hfield _ =>
          -- no check is about the condition
          have hmem := List.mem_map_of_mem (f := fun entry => entry.1.field) hentry
          rw [hfield] at hmem
          exact absurd hmem category.condition_not_mem_fields

theorem check_alike {entry : FieldRule × Bool} (hentry : entry ∈ category.checks)
    (h : AlikeFor category first second) :
    Agree (AlikeFor category) (check entry.1 entry.2 first) (check entry.1 entry.2 second) := by
  rw [check_eq, check_eq]
  refine (ruling_alike hentry (h.get? entry.1.field)).map ?_
  rintro spelling _ rfl
  cases spelling with
  | none => exact h
  | some text => exact h.insertText entry.1.field text

theorem checkAll_alike {checks : List (FieldRule × Bool)}
    (hchecks : ∀ entry ∈ checks, entry ∈ category.checks) (h : AlikeFor category first second) :
    Agree (AlikeFor category) (checkAll checks first) (checkAll checks second) := by
  induction checks generalizing first second with
  | nil => exact .ok h
  | cons entry checks ih =>
      rw [checkAll_cons, checkAll_cons]
      refine (check_alike (hchecks entry List.mem_cons_self) h).bind fun a b hab => ?_
      exact ih (fun other hother => hchecks other (List.mem_cons_of_mem _ hother)) hab

theorem canonicalCondition_alike (h : AlikeFor category first second) :
    Agree (AlikeFor category) (canonicalCondition first) (canonicalCondition second) := by
  have hfield := h.get? conditionField
  unfold canonicalCondition
  generalize first.get? conditionField = value at *
  generalize second.get? conditionField = other at *
  cases hfield with
  | none => exact .error (.missingField conditionField)
  | some hfield =>
      cases hfield with
      | value hvalue =>
          cases hvalue with
          | string text => exact .ok (h.insertText conditionField _)
          | _ => exact .error (.invalidType conditionField _)
      | spelling hspelled _ _ _ =>
          -- the condition is no field that a check expects a spelling in
          obtain ⟨entry, hentry, hname, _⟩ := hspelled
          have hmem := List.mem_map_of_mem (f := fun entry => entry.1.field) hentry
          rw [hname] at hmem
          exact absurd hmem category.condition_not_mem_fields
      | condition _ hcondition =>
          dsimp only
          rw [hcondition]
          exact .ok (h.insertText conditionField _)

/-- **Validation cannot tell records apart that are alike for its category.** -/
theorem validate_alike (h : AlikeFor category first second) :
    Agree (AlikeFor category) (category.validate first) (category.validate second) :=
  (canonicalCondition_alike h).bind fun _ _ hcondition => checkAll_alike (fun _ h => h) hcondition

/-! ### Valid records -/

/-- A valid record names its condition by the canonical name. -/
theorem condition_of_passed {record : Record} (h : Passed category record) {text : String}
    (htext : record.get? conditionField = some (.string text)) :
    text = (Condition.ofPhrase text).name := by
  obtain ⟨condition, hname⟩ := canonicalCondition_eq_self_iff.1 h.1
  rw [htext, Option.some.injEq, Json.string.injEq] at hname
  rw [hname, Condition.ofPhrase_name]

/-- A text in a valid record where a spelling is expected is canonical, unless it is blank. -/
theorem spelled_of_passed {record : Record} (h : Passed category record) {entry : FieldRule × Bool}
    (hentry : entry ∈ category.checks) {allowed : List String}
    (hrule : entry.1.rule = .oneOf allowed) {text : String}
    (htext : record.get? entry.1.field = some (.string text))
    (hblank : Text.trim text.toList ≠ []) : text ∈ allowed := by
  rcases spelled_or_blank hrule (h.2 entry hentry) with ⟨spelled, hmem, hspelled⟩ | ⟨_, hnone⟩
  · rw [Record.str?_eq_some_iff, htext, Option.some.injEq, Json.string.injEq] at hspelled
    rw [hspelled]
    exact hmem
  · exact absurd (hnone text (Record.str?_eq_some_iff.2 htext)) hblank

/-- **Valid records that are alike for their category are alike.** -/
theorem alike_of_passed (hfirst : Passed category first) (hsecond : Passed category second)
    (h : AlikeFor category first second) : first.Alike second := by
  intro field
  have hfield := h field
  have hget : ∀ {record : Record} {text : String},
      lookup field record.members = some (.string text) →
        record.get? field = some (.string text) := by
    intro record text hlookup
    unfold Record.get?
    rw [hlookup]
    rfl
  cases hx : lookup field first.members with
  | none =>
      rw [hx] at hfield
      cases hy : lookup field second.members with
      | none => exact .none
      | some other =>
          rw [hy] at hfield
          cases hfield
  | some value =>
      rw [hx] at hfield
      cases hy : lookup field second.members with
      | none =>
          rw [hy] at hfield
          cases hfield
      | some other =>
          rw [hy] at hfield
          cases hfield with
          | some hfield =>
              refine .some ?_
              cases hfield with
              | value h => exact h
              | @spelling text other hspelled htext hother hsame =>
                  -- both are canonical, and they are matched with the same spelling
                  obtain ⟨entry, hentry, rfl, allowed, hrule⟩ := hspelled
                  have hcanonical := category.canonical_checks entry hentry
                  rw [hrule] at hcanonical
                  have hfirstFind := (hcanonical text
                    (spelled_of_passed hfirst hentry hrule (hget hx) htext)).2
                  have hsecondFind := (hcanonical other
                    (spelled_of_passed hsecond hentry hrule (hget hy) hother)).2
                  simp only [sameButAsciiCase_congr hsame] at hfirstFind
                  rw [hfirstFind, Option.some.injEq] at hsecondFind
                  rw [hsecondFind]
                  exact .string other
              | @condition text other hcondition hsame =>
                  -- both are the name of the condition that they stand for
                  subst hcondition
                  have hfirstName := condition_of_passed hfirst (hget hx)
                  have hsecondName := condition_of_passed hsecond (hget hy)
                  rw [hfirstName, hsecondName, hsame]
                  exact .string _

end ListingAttributes
