import ListingAttributes.Proofs.Numeric.ExactValues
import ListingAttributes.Proofs.Records.Validation

/-!
# Validation as a list of demands

What a category demands of a record can be said without writing to it: the
condition is a string, and each field of the schema satisfies its rule
(`Category.demands`, `Violates`).  Numbers are compared by their exact value,
and every demand is about the record as it was given.

Validation fails with the error of the first demand that is not met
(`FirstViolation`), and otherwise returns the record with each value in the
form that the demands give to it (`canonicalValue`).

* `violates_field_iff`: a rule refuses a value exactly if the demand is
  violated;
* `checkAll_eq_error_iff`: a later check sees what it would have seen at first;
* `lookup_of_checkAll`: what comes out of the checks, value by value;
* `validate_iff_demands`: validation is the list of demands.
-/

namespace ListingAttributes

open Validation

/-! ### Demands -/

/-- The text of a value where a spelling is expected: a string is its own text, and a number is
written as in JSON. -/
inductive Spells : Json.Value → List Char → Prop where
  | string (text : String) : Spells (.string text) text.toList
  | number (x : Json.Number) : Spells (.number x) x.text

namespace Rule

/-- The rule can be put to a value of this kind. -/
def Takes : Rule → Json.Value → Prop
  | .nonBlank, value => ∃ text, value = .string text
  | .oneOf _, value => ∃ text, Spells value text
  | .within _ _, value => ∃ x, value = .number x

/-- The kind of value that is expected where the rule cannot be put. -/
def expected : Rule → String
  | .within _ _ => "number"
  | _ => "string"

/-- Nothing is stated: the field is absent or null, or its text is blank. -/
def Unstated : Rule → Option Json.Value → Prop
  | _, none => True
  | .nonBlank, some value => ∃ text, value = .string text ∧ Text.trim text.toList = []
  | .oneOf _, some value => ∃ text, Spells value text ∧ Text.trim text = []
  | .within _ _, some _ => False

/-- The form in which a value is returned: the spelling that it is matched with, if there is
one. -/
def canonical : Rule → Json.Value → Json.Value
  | .oneOf allowed, value =>
    match (spelling? value).bind fun text => allowed.find? fun candidate =>
        Text.sameButAsciiCase candidate.toList (Text.trim text) with
    | some spelling => .string spelling
    | none => value
  | _, value => value

end Rule

/-- What is demanded of a record: its condition, or what a rule says about a field that may be
required. -/
inductive Demand where
  | condition
  | field (rule : FieldRule) (required : Bool)

namespace Demand

/-- The field that a demand is about. -/
def about : Demand → String
  | condition => conditionField
  | field rule _ => rule.field

theorem about_condition : about condition = conditionField := rfl

theorem about_field (rule : FieldRule) (required : Bool) :
    about (field rule required) = rule.field := rfl

/-- The form in which the value of the field is returned. -/
def canonical : Demand → Json.Value → Json.Value
  | condition, .string phrase => .string (Condition.ofPhrase phrase).name
  | condition, value => value
  | field rule _, value => rule.rule.canonical value

end Demand

/-- The demands that a list of checks makes. -/
def Validation.demandsOf (checks : List (FieldRule × Bool)) : List Demand :=
  checks.map fun entry => .field entry.1 entry.2

namespace Category

/-- The demands of a category: the condition, what is common to all categories, the required
fields and then the optional ones. -/
def demands (category : Category) : List Demand :=
  .condition :: (Schema.common.required.map (.field · true) ++
    Schema.common.optional.map (.field · false) ++
    (Schema.ofCategory category).required.map (.field · true) ++
    (Schema.ofCategory category).optional.map (.field · false))

example : Category.drive.demands.map Demand.about =
    ["condition", "confidence", "quantity", "capacity", "interface", "form_factor", "type"] := by
  decide

theorem demands_eq (category : Category) :
    category.demands = .condition :: demandsOf category.checks := by
  cases category <;> rfl

end Category

/-- The form that the demands give to the value of a field. -/
def canonicalValue (demands : List Demand) (field : String) (value : Json.Value) : Json.Value :=
  match demands.find? fun demand => demand.about == field with
  | some demand => demand.canonical value
  | none => value

/-- A record violates a demand, with the error that says so. -/
inductive Violates (record : Record) : Demand → ValidationError → Prop where
  | conditionMissing (habsent : record.get? conditionField = none) :
      Violates record .condition (.missingField conditionField)
  | conditionKind {value : Json.Value} (hvalue : record.get? conditionField = some value)
      (hkind : ∀ text, value ≠ .string text) :
      Violates record .condition (.invalidType conditionField "string")
  | missing {rule : FieldRule} (hunstated : rule.rule.Unstated (record.get? rule.field)) :
      Violates record (.field rule true) (.missingField rule.field)
  | kind {rule : FieldRule} {required : Bool} {value : Json.Value}
      (hvalue : record.get? rule.field = some value) (hkind : ¬ rule.rule.Takes value) :
      Violates record (.field rule required) (.invalidType rule.field rule.rule.expected)
  | spelling {field : String} {allowed : List String} {required : Bool} {value : Json.Value}
      {text : List Char} (hvalue : record.get? field = some value) (hspells : Spells value text)
      (hstated : Text.trim text ≠ [])
      (hother : ∀ spelling ∈ allowed,
        Text.sameButAsciiCase spelling.toList (Text.trim text) = false) :
      Violates record (.field ⟨field, .oneOf allowed⟩ required)
        (.invalidEnum field (String.ofList (Text.trim text)) allowed)
  | range {field : String} {bounds : Bounds} {zeroUnset required : Bool} {x : Json.Number}
      (hvalue : record.get? field = some (.number x))
      (hstated : zeroUnset = true → x.value ≠ 0) (houtside : ¬ bounds.Admits x.value) :
      Violates record (.field ⟨field, .within bounds zeroUnset⟩ required)
        (.outOfRange field x.toDouble bounds)

/-- The error of the first demand that a record violates. -/
def FirstViolation (record : Record) (demands : List Demand) (error : ValidationError) : Prop :=
  ∃ before demand after, demands = before ++ demand :: after ∧
    (∀ earlier ∈ before, ∀ other, ¬ Violates record earlier other) ∧
    Violates record demand error

theorem firstViolation_nil {record : Record} {error : ValidationError} :
    ¬ FirstViolation record [] error := by
  rintro ⟨before, demand, after, hsplit, -, -⟩
  cases before <;> cases hsplit

theorem firstViolation_cons_iff {record : Record} {demand : Demand} {demands : List Demand}
    {error : ValidationError} :
    FirstViolation record (demand :: demands) error ↔
      Violates record demand error ∨
        (∀ other, ¬ Violates record demand other) ∧ FirstViolation record demands error := by
  constructor
  · rintro ⟨before, violated, after, hsplit, hbefore, hviolated⟩
    cases before with
    | nil =>
        cases hsplit
        exact Or.inl hviolated
    | cons first before =>
        cases hsplit
        rw [List.forall_mem_cons] at hbefore
        exact Or.inr ⟨hbefore.1, before, violated, after, rfl, hbefore.2, hviolated⟩
  · rintro (hviolated | ⟨hmet, before, violated, after, rfl, hbefore, hviolated⟩)
    · exact ⟨[], demand, demands, rfl, fun _ h => absurd h List.not_mem_nil, hviolated⟩
    · exact ⟨demand :: before, violated, after, rfl, List.forall_mem_cons.2 ⟨hmet, hbefore⟩,
        hviolated⟩

/-! ### One demand -/

theorem spells_iff {value : Json.Value} {text : List Char} :
    Spells value text ↔ spelling? value = some text := by
  constructor
  · intro h
    cases h <;> rfl
  · intro h
    cases value with
    | string text => cases h; exact .string text
    | number x => cases h; exact .number x
    | _ => cases h

/-- The bounds of a rule, if it has any, are moderate. -/
def Rule.Moderate : Rule → Prop
  | .within bounds _ => bounds.Moderate
  | _ => True

instance : (rule : Rule) → Decidable rule.Moderate
  | .within bounds _ => inferInstanceAs (Decidable bounds.Moderate)
  | .oneOf _ => isTrue trivial
  | .nonBlank => isTrue trivial

theorem Category.moderate_checks (category : Category) :
    ∀ entry ∈ category.checks, entry.1.rule.Moderate := by
  cases category <;> decide +kernel

/-! #### Conditions -/

namespace Validation

theorem demandsOf_cons (entry : FieldRule × Bool) (checks : List (FieldRule × Bool)) :
    demandsOf (entry :: checks) = .field entry.1 entry.2 :: demandsOf checks := rfl

theorem violates_condition_iff {record : Record} {error : ValidationError} :
    Violates record .condition error ↔ canonicalCondition record = .error error := by
  unfold canonicalCondition
  constructor
  · intro h
    cases h with
    | conditionMissing habsent => rw [habsent]
    | conditionKind hvalue hkind =>
        rw [hvalue]
        split
        · next hnone => cases hnone
        · next phrase hphrase => exact absurd (Option.some.inj hphrase) (hkind phrase)
        · rfl
  · intro h
    split at h
    · next habsent =>
      cases h
      exact .conditionMissing habsent
    · cases h
    · next value hkind hvalue =>
      cases h
      exact .conditionKind hvalue fun text => hkind text

/-! #### Rules -/

variable {rule : FieldRule} {required : Bool} {error : ValidationError}

theorem unstated_eq_error_iff {field : String} :
    unstated field required = .error error ↔ required = true ∧ error = .missingField field := by
  cases required <;> simp [unstated, eq_comm]

theorem ruling_of_unstated {value : Option Json.Value} (h : rule.rule.Unstated value) :
    ruling rule required value = unstated rule.field required := by
  obtain ⟨field, rule⟩ := rule
  cases value with
  | none => rfl
  | some value =>
      cases rule with
      | nonBlank =>
          obtain ⟨text, rfl, hblank⟩ := h
          exact if_pos hblank
      | oneOf allowed =>
          obtain ⟨text, hspells, hblank⟩ := h
          simp only [ruling, spells_iff.1 hspells, if_pos hblank]
      | within bounds zeroUnset => exact h.elim

theorem ruling_of_not_takes {value : Json.Value} (h : ¬ rule.rule.Takes value) :
    ruling rule required (some value) =
      .error (.invalidType rule.field rule.rule.expected) := by
  obtain ⟨field, rule⟩ := rule
  cases rule with
  | nonBlank =>
      cases value with
      | string text => exact absurd ⟨text, rfl⟩ h
      | _ => rfl
  | oneOf allowed =>
      have hnone : spelling? value = none := by
        rw [Option.eq_none_iff_forall_not_mem]
        intro text htext
        exact h ⟨text, spells_iff.2 htext⟩
      simp only [ruling, hnone, Rule.expected]
  | within bounds zeroUnset =>
      cases value with
      | number x => exact absurd ⟨x, rfl⟩ h
      | _ => rfl

theorem ruling_of_stated {field text : String} (hstated : Text.trim text.toList ≠ []) :
    ruling ⟨field, .nonBlank⟩ required (some (.string text)) = .ok none :=
  if_neg hstated

/-- A text that is not blank is replaced by the spelling that it is matched with. -/
theorem ruling_of_spells {field : String} {allowed : List String} {value : Json.Value}
    {text : List Char} (hspells : Spells value text) (hstated : Text.trim text ≠ []) :
    ruling ⟨field, .oneOf allowed⟩ required (some value) =
      match allowed.find? fun candidate =>
          Text.sameButAsciiCase candidate.toList (Text.trim text) with
      | some canonical => .ok (some canonical)
      | none => .error (.invalidEnum field (String.ofList (Text.trim text)) allowed) := by
  simp only [ruling, spells_iff.1 hspells]
  exact if_neg hstated

theorem ruling_of_number {field : String} {bounds : Bounds} {zeroUnset : Bool}
    {x : Json.Number} (hmoderate : bounds.Moderate) :
    ruling ⟨field, .within bounds zeroUnset⟩ required (some (.number x)) = .error error ↔
      (zeroUnset = true → x.value ≠ 0) ∧ ¬ bounds.Admits x.value ∧
        error = .outOfRange field x.toDouble bounds := by
  have hpasses : ((zeroUnset && x.toDouble.isZero) || bounds.covers x.toDouble) = true ↔
      ¬ ((zeroUnset = true → x.value ≠ 0) ∧ ¬ bounds.Admits x.value) := by
    rw [Bool.or_eq_true, Bool.and_eq_true, Json.Number.isZero_toDouble_iff,
      Bounds.covers_toDouble_iff hmoderate]
    tauto
  unfold ruling
  dsimp only
  split
  · next h =>
    have hnot := hpasses.1 h
    simp only [reduceCtorEq, false_iff]
    tauto
  · next h =>
    obtain ⟨hstated, houtside⟩ := not_not.1 (mt hpasses.2 h)
    rw [Except.error.injEq]
    exact ⟨fun heq => ⟨hstated, houtside, heq.symm⟩, fun hall => hall.2.2.symm⟩

theorem ruling_of_violates {record : Record} (hmoderate : rule.rule.Moderate)
    (h : Violates record (.field rule required) error) :
    ruling rule required (record.get? rule.field) = .error error := by
  cases h with
  | missing hunstated => exact ruling_of_unstated hunstated
  | kind hvalue hkind => rw [hvalue, ruling_of_not_takes hkind]
  | @spelling field allowed _ value text hvalue hspells hstated hother =>
      have hnone : (allowed.find? fun candidate =>
          Text.sameButAsciiCase candidate.toList (Text.trim text)) = none := by
        rw [List.find?_eq_none]
        intro candidate hmem
        rw [hother candidate hmem]
        exact Bool.false_ne_true
      rw [hvalue, ruling_of_spells hspells hstated, hnone]
  | range hvalue hstated houtside =>
      rw [hvalue]
      exact (ruling_of_number hmoderate).2 ⟨hstated, houtside, rfl⟩

/-- A value that a rule can be put to, and that states something, is refused for what it says. -/
theorem violates_of_ruling_stated {record : Record} {value : Json.Value}
    (hmoderate : rule.rule.Moderate) (hvalue : record.get? rule.field = some value)
    (htakes : rule.rule.Takes value) (hstated : ¬ rule.rule.Unstated (some value))
    (h : ruling rule required (some value) = .error error) :
    Violates record (.field rule required) error := by
  obtain ⟨field, rule⟩ := rule
  cases rule with
  | nonBlank =>
      obtain ⟨text, rfl⟩ := htakes
      rw [ruling_of_stated fun hblank => hstated ⟨text, rfl, hblank⟩] at h
      cases h
  | oneOf allowed =>
      obtain ⟨text, hspells⟩ := htakes
      have hnot : Text.trim text ≠ [] := fun hblank => hstated ⟨text, hspells, hblank⟩
      rw [ruling_of_spells hspells hnot] at h
      split at h
      · cases h
      · next hnone =>
        cases h
        rw [List.find?_eq_none] at hnone
        exact .spelling hvalue hspells hnot fun spelling hmem =>
          Bool.eq_false_iff.2 (hnone spelling hmem)
  | within bounds zeroUnset =>
      obtain ⟨x, rfl⟩ := htakes
      obtain ⟨hexempt, houtside, rfl⟩ := (ruling_of_number hmoderate).1 h
      exact .range hvalue hexempt houtside

theorem violates_of_ruling {record : Record} (hmoderate : rule.rule.Moderate)
    (h : ruling rule required (record.get? rule.field) = .error error) :
    Violates record (.field rule required) error := by
  by_cases hunstated : rule.rule.Unstated (record.get? rule.field)
  · rw [ruling_of_unstated hunstated, unstated_eq_error_iff] at h
    obtain ⟨rfl, rfl⟩ := h
    exact .missing hunstated
  · cases hvalue : record.get? rule.field with
    | none =>
        rw [hvalue] at hunstated
        exact absurd trivial hunstated
    | some value =>
        rw [hvalue] at h hunstated
        by_cases htakes : rule.rule.Takes value
        · exact violates_of_ruling_stated hmoderate hvalue htakes hunstated h
        · rw [ruling_of_not_takes htakes] at h
          cases h
          exact .kind hvalue htakes

/-- **What a rule refuses is what violates it.** -/
theorem violates_field_iff {record : Record} (hmoderate : rule.rule.Moderate) :
    Violates record (.field rule required) error ↔
      ruling rule required (record.get? rule.field) = .error error :=
  ⟨ruling_of_violates hmoderate, violates_of_ruling hmoderate⟩

/-! ### All demands -/

/-- **A later check sees what it would have seen at first**, if the checks are about different
fields, so the first demand that is violated decides the error. -/
theorem checkAll_eq_error_iff {checks : List (FieldRule × Bool)} {record current : Record}
    (hnodup : (checks.map fun entry => entry.1.field).Nodup)
    (hmoderate : ∀ entry ∈ checks, entry.1.rule.Moderate)
    (hsame : ∀ entry ∈ checks, current.get? entry.1.field = record.get? entry.1.field) :
    checkAll checks current = .error error ↔
      FirstViolation record (demandsOf checks) error := by
  induction checks generalizing current with
  | nil =>
      constructor
      · intro h
        cases h
      · intro h
        exact absurd h firstViolation_nil
  | cons entry checks ih =>
      rw [List.map_cons, List.nodup_cons] at hnodup
      rw [List.forall_mem_cons] at hmoderate hsame
      rw [demandsOf_cons, firstViolation_cons_iff, checkAll_cons, check_eq, hsame.1]
      simp only [violates_field_iff hmoderate.1]
      cases hruling : ruling entry.1 entry.2 (record.get? entry.1.field) with
      | error first => simp [Except.map, Except.bind]
      | ok spelling =>
          -- what is written is not what a later check looks at
          have hlater : ∀ other ∈ checks,
              (written current entry.1.field spelling).get? other.1.field =
                record.get? other.1.field := by
            intro other hother
            rw [get?_written_of_ne (field_ne_of_mem hnodup.1 hother), hsame.2 other hother]
          simpa [Except.map, Except.bind] using ih hnodup.2 hmoderate.2 hlater

/-! ### Canonical values -/

/-- A blank text is matched with no spelling that is matched with itself. -/
theorem canonical_of_blank {allowed : List String} {value : Json.Value} {text : List Char}
    (hcanonical : Rule.IsCanonical (.oneOf allowed)) (hspelling : spelling? value = some text)
    (hblank : Text.trim text = []) : (Rule.oneOf allowed).canonical value = value := by
  have hnone : (allowed.find? fun candidate =>
      Text.sameButAsciiCase candidate.toList []) = none := by
    rw [List.find?_eq_none]
    intro candidate hmem hsame
    have hempty : candidate.toList = [] := by
      simpa [Text.sameButAsciiCase] using hsame
    apply (hcanonical candidate hmem).1
    rw [hempty]
    rfl
  simp only [Rule.canonical, hspelling, Option.bind_some, hblank, hnone]

/-- What a rule writes is the canonical form of the value. -/
theorem canonical_of_ruling {value : Json.Value} {spelling : Option String}
    (hcanonical : Rule.IsCanonical rule.rule)
    (h : ruling rule required (some value) = .ok spelling) :
    rule.rule.canonical value = (spelling.map Json.string).getD value := by
  cases hrule : rule.rule with
  | oneOf allowed =>
      rw [hrule] at hcanonical
      unfold ruling at h
      rw [hrule] at h
      dsimp only at h
      split at h
      · cases h
      · next text hspelling =>
        split at h
        · next hblank =>
          cases spelling with
          | none => exact canonical_of_blank hcanonical hspelling hblank
          | some text => exact absurd h unstated_ne_some
        · split at h
          · next canonical hfind =>
            cases h
            simp only [Rule.canonical, hspelling, Option.bind_some, hfind]
            rfl
          · cases h
  | _ =>
      -- only a set of spellings is written
      cases spelling with
      | none => rfl
      | some text =>
          obtain ⟨allowed, hother, -⟩ := mem_of_ruling h
          rw [hrule] at hother
          cases hother

theorem canonical_of_isNull {value : Json.Value} (rule : Rule) (h : value.isNull = true) :
    rule.canonical value = value := by
  cases value with
  | null => cases rule <;> rfl
  | _ => cases h

/-- What a rule makes of a value that may be absent or null, with the value kept where nothing is
written, is its canonical form. -/
theorem canonical_of_ruling_filter {value : Option Json.Value} {spelling : Option String}
    (hcanonical : Rule.IsCanonical rule.rule)
    (h : ruling rule required (value.filter fun value => !value.isNull) = .ok spelling) :
    (spelling.map Json.string).or value = value.map rule.rule.canonical := by
  have hnone : ruling rule required none = .ok spelling → spelling = none := by
    intro h
    cases spelling with
    | none => rfl
    | some text => exact absurd h unstated_ne_some
  cases value with
  | none => rw [hnone h, Option.map_none, Option.map_none, Option.or_none]
  | some value =>
      rw [Option.filter_some] at h
      cases hnull : value.isNull with
      | true =>
          rw [hnull] at h
          rw [hnone h, Option.map_some, canonical_of_isNull rule.rule hnull]
          rfl
      | false =>
          rw [hnull] at h
          rw [Option.map_some, canonical_of_ruling hcanonical h]
          cases spelling <;> rfl

theorem lookup_written_self (record : Record) (field : String) (spelling : Option String) :
    Json.lookup field (written record field spelling).members =
      (spelling.map Json.string).or (Json.lookup field record.members) := by
  cases spelling with
  | none => rfl
  | some text => exact Record.lookup_of_get? (get?_written_some record field text)

end Validation

theorem canonicalValue_cons_of_ne {demand : Demand} {field : String} (h : demand.about ≠ field)
    (demands : List Demand) :
    canonicalValue (demand :: demands) field = canonicalValue demands field := by
  funext value
  simp [canonicalValue, h]

theorem canonicalValue_cons_of_eq {demand : Demand} {field : String} (h : demand.about = field)
    (demands : List Demand) : canonicalValue (demand :: demands) field = demand.canonical := by
  funext value
  simp [canonicalValue, h]

/-- A value that no demand is about is its own canonical form. -/
theorem canonicalValue_of_not_mem {demands : List Demand} {field : String}
    (h : field ∉ demands.map Demand.about) : canonicalValue demands field = id := by
  induction demands with
  | nil => rfl
  | cons demand demands ih =>
      rw [List.map_cons, List.mem_cons, not_or] at h
      rw [canonicalValue_cons_of_ne (Ne.symm h.1), ih h.2]

namespace Validation

/-- A field that no check is about is its own canonical form. -/
theorem canonicalValue_demandsOf {checks : List (FieldRule × Bool)} {field : String}
    (h : field ∉ checks.map fun entry => entry.1.field) :
    canonicalValue (demandsOf checks) field = id := by
  apply canonicalValue_of_not_mem
  rw [demandsOf, List.map_map]
  exact h

theorem lookup_written_of_ne {record : Record} {field other : String} (h : field ≠ other)
    (spelling : Option String) :
    Json.lookup other (written record field spelling).members =
      Json.lookup other record.members := by
  cases spelling with
  | none => rfl
  | some text => exact (Record.lookup_insert _ _ _ _).trans (if_neg h)

/-- **What comes out of the checks** is the canonical form of each value, if they are about
different fields. -/
theorem lookup_of_checkAll {checks : List (FieldRule × Bool)} {record after : Record}
    (hcanonical : ∀ entry ∈ checks, Rule.IsCanonical entry.1.rule)
    (hnodup : (checks.map fun entry => entry.1.field).Nodup)
    (h : checkAll checks record = .ok after) (field : String) :
    Json.lookup field after.members =
      (Json.lookup field record.members).map (canonicalValue (demandsOf checks) field) := by
  induction checks generalizing record with
  | nil =>
      rw [Except.ok.inj h, canonicalValue_demandsOf List.not_mem_nil, Option.map_id_apply]
  | cons entry checks ih =>
      obtain ⟨between, hcheck, hrest⟩ := checkAll_cons_eq_ok_iff.1 h
      obtain ⟨spelling, hruling, rfl⟩ := check_eq_ok_iff.1 hcheck
      rw [List.map_cons, List.nodup_cons] at hnodup
      rw [List.forall_mem_cons] at hcanonical
      rw [ih hcanonical.2 hnodup.2 hrest, demandsOf_cons]
      by_cases heq : entry.1.field = field
      · subst heq
        -- the later checks are about other fields
        rw [canonicalValue_demandsOf hnodup.1, Option.map_id_apply,
          lookup_written_self, canonical_of_ruling_filter hcanonical.1 hruling,
          canonicalValue_cons_of_eq (Demand.about_field entry.1 entry.2)]
        rfl
      · rw [lookup_written_of_ne heq,
          canonicalValue_cons_of_ne ((Demand.about_field entry.1 entry.2).trans_ne heq)]

end Validation

/-! ### Validation -/

theorem exists_firstViolation_iff {record : Record} {demands : List Demand} :
    (∃ error, FirstViolation record demands error) ↔
      ∃ demand ∈ demands, ∃ error, Violates record demand error := by
  induction demands with
  | nil => simp [firstViolation_nil]
  | cons demand demands ih =>
      simp only [firstViolation_cons_iff, exists_or, exists_and_left, ih, List.mem_cons,
        exists_eq_or_imp]
      by_cases hviolated : ∃ error, Violates record demand error
      · simp [hviolated]
      · simp [not_exists.1 hviolated]

namespace Category

variable {category : Category} {record after : Record}

/-- **The first demand that is not met** decides the error. -/
theorem validate_eq_error_iff {error : ValidationError} :
    category.validate record = .error error ↔ FirstViolation record category.demands error := by
  rw [demands_eq, firstViolation_cons_iff]
  simp only [violates_condition_iff]
  unfold validate
  cases hcondition : canonicalCondition record with
  | error first => simp [bind, Except.bind]
  | ok between =>
      obtain ⟨phrase, _, rfl⟩ := canonicalCondition_eq_ok_iff.1 hcondition
      -- no check is about the condition
      have hsame : ∀ entry ∈ category.checks,
          (record.insertText conditionField (Condition.ofPhrase phrase).name).get?
            entry.1.field = record.get? entry.1.field := fun entry hentry =>
        Record.get?_insertText_of_ne (field_ne_of_mem category.condition_not_mem_fields hentry)
      simpa [bind, Except.bind] using
        checkAll_eq_error_iff category.nodup_fields category.moderate_checks hsame

/-- What validation returns is the canonical form of each value. -/
theorem lookup_of_validate (h : category.validate record = .ok after) (field : String) :
    Json.lookup field after.members =
      (Json.lookup field record.members).map (canonicalValue category.demands field) := by
  obtain ⟨between, hcondition, hchecks⟩ := validate_eq_ok_iff.1 h
  obtain ⟨phrase, hphrase, rfl⟩ := canonicalCondition_eq_ok_iff.1 hcondition
  rw [lookup_of_checkAll category.canonical_checks category.nodup_fields hchecks, demands_eq]
  by_cases heq : conditionField = field
  · subst heq
    rw [canonicalValue_demandsOf category.condition_not_mem_fields, Option.map_id_apply,
      canonicalValue_cons_of_eq Demand.about_condition, Record.lookup_of_get? hphrase]
    exact Record.lookup_of_get? (Record.get?_insertText_self record _ _)
  · rw [canonicalValue_cons_of_ne (Demand.about_condition.trans_ne heq)]
    exact congrArg _ ((Record.lookup_insert _ _ _ _).trans (if_neg heq))

theorem members_of_validate (h : category.validate record = .ok after) :
    after.members = record.members.map fun member =>
      (member.1, canonicalValue category.demands member.1 member.2) := by
  apply Json.eq_of_lookup_eq after.ascending
  · rw [Json.ascending_iff_map, List.map_map]
    exact (Json.ascending_iff_map record.members).1 record.ascending
  · intro field
    rw [lookup_of_validate h, Json.lookup_map]

/-- **Validation is the list of demands.**  It fails exactly with the error of the first demand
that the record violates as it is given.  Otherwise it returns the record with the same fields,
each with its value in canonical form. -/
theorem validate_iff_demands (category : Category) (record : Record) :
    (∀ error, category.validate record = .error error ↔
        FirstViolation record category.demands error) ∧
      ∀ after, category.validate record = .ok after ↔
        (∀ demand ∈ category.demands, ∀ error, ¬ Violates record demand error) ∧
          after.members = record.members.map fun member =>
            (member.1, canonicalValue category.demands member.1 member.2) := by
  refine ⟨fun error => validate_eq_error_iff, fun after => ?_⟩
  constructor
  · intro h
    refine ⟨?_, members_of_validate h⟩
    intro demand hdemand error hviolates
    obtain ⟨first, hfirst⟩ := exists_firstViolation_iff.2 ⟨demand, hdemand, error, hviolates⟩
    rw [validate_eq_error_iff.2 hfirst] at h
    cases h
  · rintro ⟨hmet, hmembers⟩
    cases hresult : category.validate record with
    | error error =>
        obtain ⟨demand, hdemand, other, hviolates⟩ :=
          exists_firstViolation_iff.1 ⟨error, validate_eq_error_iff.1 hresult⟩
        exact absurd hviolates (hmet demand hdemand other)
    | ok result =>
        rw [Record.ext_members (hmembers.trans (members_of_validate hresult).symm)]

end Category

end ListingAttributes
