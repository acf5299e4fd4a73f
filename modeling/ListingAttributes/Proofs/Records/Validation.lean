import ListingAttributes.Proofs.Records.Fields
import ListingAttributes.Validation

/-!
# What validation does to a record

A check looks at the value of one field and nothing else.  `ruling` is what it
makes of that value: an error, or the spelling to be written if there is one
(`check_eq`).  Since the checks of a category are about different fields
(`nodup_fields`) and a spelling that was written is ruled to be that spelling
again (`ruling_string`), a record that comes out of the checks passes each of
them unchanged (`passes_of_checkAll`).

`Passed category record` says that of a whole record, the condition included.

* `ruling_of_validate`: every check looks at the record as it was given;
* `passed_of_validate`: what validation returns has passed;
* `validate_of_passed`: a record that has passed is returned as it is;
* `validate_idempotent`: validating again changes nothing;
* `validate_preserves`: whatever writing a text keeps, validation keeps.
-/

namespace ListingAttributes

open Validation

/-! ### One check -/

namespace Validation

/-- What a rule makes of a field that states nothing. -/
def unstated (field : String) (required : Bool) : Except ValidationError (Option String) :=
  if required then .error (.missingField field) else .ok none

/-- What a rule makes of the value of its field: an error, or the spelling that is to be written,
if there is one. -/
def ruling (rule : FieldRule) (required : Bool) :
    Option Json.Value → Except ValidationError (Option String)
  | none => unstated rule.field required
  | some value =>
    match rule.rule with
    | .nonBlank =>
      match value with
      | .string text =>
        if Text.trim text.toList = [] then unstated rule.field required else .ok none
      | _ => .error (.invalidType rule.field "string")
    | .oneOf allowed =>
      match spelling? value with
      | none => .error (.invalidType rule.field "string")
      | some text =>
        if Text.trim text = [] then unstated rule.field required
        else
          match allowed.find? fun candidate =>
              Text.sameButAsciiCase candidate.toList (Text.trim text) with
          | some canonical => .ok (some canonical)
          | none => .error (.invalidEnum rule.field (String.ofList (Text.trim text)) allowed)
    | .within bounds zeroUnset =>
      match value with
      | .number x =>
        if (zeroUnset && x.toDouble.isZero) || bounds.covers x.toDouble then .ok none
        else .error (.outOfRange rule.field x.toDouble bounds)
      | _ => .error (.invalidType rule.field "number")

/-- A record with a spelling written, if there is one. -/
def written (record : Record) (field : String) : Option String → Record
  | none => record
  | some text => record.insertText field text

theorem absent_eq (field : String) (required : Bool) (record : Record) :
    absent field required record = (unstated field required).map (written record field) := by
  cases required <;> rfl

/-- **A check sees one value.**  It writes what the rule makes of that value. -/
theorem check_eq (rule : FieldRule) (required : Bool) (record : Record) :
    check rule required record =
      (ruling rule required (record.get? rule.field)).map (written record rule.field) := by
  unfold check ruling
  cases record.get? rule.field with
  | none => exact absent_eq rule.field required record
  | some value =>
      cases rule.rule with
      | nonBlank =>
          cases value with
          | string text =>
              dsimp only
              split
              · exact absent_eq rule.field required record
              · rfl
          | _ => rfl
      | oneOf allowed =>
          dsimp only
          cases spelling? value with
          | none => rfl
          | some text =>
              dsimp only
              split
              · exact absent_eq rule.field required record
              · cases allowed.find? _ <;> rfl
      | within bounds zeroUnset =>
          cases value with
          | number x =>
              dsimp only
              split <;> rfl
          | _ => rfl

theorem check_eq_ok_iff {rule : FieldRule} {required : Bool} {record after : Record} :
    check rule required record = .ok after ↔
      ∃ spelling, ruling rule required (record.get? rule.field) = .ok spelling ∧
        after = written record rule.field spelling := by
  rw [check_eq]
  cases ruling rule required (record.get? rule.field) with
  | error error => simp [Except.map]
  | ok spelling => simp [Except.map, eq_comm]

theorem get?_written_some (record : Record) (field text : String) :
    (written record field (some text)).get? field = some (.string text) :=
  Record.get?_insertText_self record field text

theorem get?_written_of_ne {record : Record} {field other : String} (h : field ≠ other)
    (spelling : Option String) :
    (written record field spelling).get? other = record.get? other := by
  cases spelling with
  | none => rfl
  | some text => exact Record.get?_insertText_of_ne h

/-! ### Canonical spellings -/

/-- Each allowed spelling is the one that it is matched with itself. -/
def Rule.IsCanonical : Rule → Prop
  | .oneOf allowed => ∀ text ∈ allowed, Text.trim text.toList ≠ [] ∧
      (allowed.find? fun candidate =>
        Text.sameButAsciiCase candidate.toList (Text.trim text.toList)) = some text
  | _ => True

instance : (rule : Rule) → Decidable (Rule.IsCanonical rule)
  | .oneOf allowed => inferInstanceAs (Decidable (∀ text ∈ allowed, _))
  | .nonBlank => isTrue trivial
  | .within _ _ => isTrue trivial

theorem unstated_ne_some {field text : String} {required : Bool} :
    unstated field required ≠ .ok (some text) := by
  cases required <;> simp [unstated]

/-- A rule writes only what it allows. -/
theorem mem_of_ruling {rule : FieldRule} {required : Bool} {value : Option Json.Value}
    {text : String} (h : ruling rule required value = .ok (some text)) :
    ∃ allowed, rule.rule = .oneOf allowed ∧ text ∈ allowed := by
  unfold ruling at h
  cases value with
  | none => exact absurd h unstated_ne_some
  | some value =>
      cases hrule : rule.rule with
      | nonBlank =>
          rw [hrule] at h
          cases value with
          | string _ =>
              dsimp only at h
              split at h
              · exact absurd h unstated_ne_some
              · simp at h
          | _ => simp at h
      | oneOf allowed =>
          rw [hrule] at h
          dsimp only at h
          split at h
          · simp at h
          · split at h
            · exact absurd h unstated_ne_some
            · split at h
              · next canonical hfind =>
                obtain rfl : canonical = text := by simpa using h
                exact ⟨allowed, rfl, List.mem_of_find?_eq_some hfind⟩
              · simp at h
      | within bounds zeroUnset =>
          rw [hrule] at h
          cases value with
          | number _ =>
              dsimp only at h
              split at h <;> simp at h
          | _ => simp at h

/-- An allowed spelling is ruled to be itself. -/
theorem ruling_string {rule : FieldRule} {allowed : List String} {text : String}
    (hrule : rule.rule = .oneOf allowed) (hcanonical : Rule.IsCanonical rule.rule)
    (hmem : text ∈ allowed) (required : Bool) :
    ruling rule required (some (.string text)) = .ok (some text) := by
  rw [hrule] at hcanonical
  obtain ⟨hblank, hfind⟩ := hcanonical text hmem
  unfold ruling
  rw [hrule]
  simp only [spelling?, if_neg hblank, hfind]

/-- What a check returns passes the check. -/
theorem check_of_check {rule : FieldRule} {required : Bool} {record after : Record}
    (hcanonical : Rule.IsCanonical rule.rule) (h : check rule required record = .ok after) :
    check rule required after = .ok after := by
  obtain ⟨spelling, hruling, rfl⟩ := check_eq_ok_iff.1 h
  rw [check_eq_ok_iff]
  cases spelling with
  | none => exact ⟨none, hruling, rfl⟩
  | some text =>
      -- the spelling that was written is matched with itself
      obtain ⟨allowed, hrule, hmem⟩ := mem_of_ruling hruling
      refine ⟨some text, ?_, ?_⟩
      · rw [get?_written_some]
        exact ruling_string hrule hcanonical hmem required
      · exact (Record.insertText_of_get? (get?_written_some record rule.field text)).symm

/-- A check that a record passes is passed by every record with the same value in the field. -/
theorem check_of_get?_eq {rule : FieldRule} {required : Bool} {record other : Record}
    (h : check rule required record = .ok record)
    (hsame : other.get? rule.field = record.get? rule.field) :
    check rule required other = .ok other := by
  obtain ⟨spelling, hruling, hwritten⟩ := check_eq_ok_iff.1 h
  rw [check_eq_ok_iff, hsame]
  refine ⟨spelling, hruling, ?_⟩
  cases spelling with
  | none => rfl
  | some text =>
      have hget : record.get? rule.field = some (.string text) := by
        rw [hwritten, get?_written_some]
      exact (Record.insertText_of_get? (hsame.trans hget)).symm

/-! ### Checks of spellings -/

section Spellings

variable {rule : FieldRule} {allowed : List String} {required : Bool} {record : Record}

/-- Where a spelling is expected, nothing is written only if nothing is required and nothing is
spelled. -/
theorem blank_of_ruling_none {value : Option Json.Value} (hrule : rule.rule = .oneOf allowed)
    (h : ruling rule required value = .ok none) :
    required = false ∧ ∀ text, value = some (.string text) → Text.trim text.toList = [] := by
  have hrequired : unstated rule.field required = .ok none → required = false := by
    cases required <;> simp [unstated]
  unfold ruling at h
  cases value with
  | none =>
      refine ⟨hrequired h, ?_⟩
      intro text htext
      cases htext
  | some value =>
      rw [hrule] at h
      dsimp only at h
      split at h
      · cases h
      · next written hspelling =>
        split at h
        · next hblank =>
          refine ⟨hrequired h, ?_⟩
          intro text htext
          rw [Option.some.inj htext, spelling?, Option.some.injEq] at hspelling
          rw [hspelling, hblank]
        · -- a spelling that is not blank is replaced or refused
          split at h
          · cases h
          · cases h

/-- A field that passed the check of a set of spellings holds one of them, or it is optional and
holds no text but a blank one. -/
theorem spelled_or_blank (hrule : rule.rule = .oneOf allowed)
    (h : check rule required record = .ok record) :
    (∃ text ∈ allowed, record.str? rule.field = some text) ∨
      required = false ∧
        ∀ text, record.str? rule.field = some text → Text.trim text.toList = [] := by
  obtain ⟨spelling, hruling, hwritten⟩ := check_eq_ok_iff.1 h
  cases spelling with
  | some text =>
      obtain ⟨others, hothers, hmem⟩ := mem_of_ruling hruling
      obtain rfl : others = allowed := by
        rw [hrule] at hothers
        exact (Rule.oneOf.inj hothers).symm
      refine Or.inl ⟨text, hmem, Record.str?_eq_some_iff.2 ?_⟩
      rw [hwritten, get?_written_some]
  | none =>
      obtain ⟨hrequired, hblank⟩ := blank_of_ruling_none hrule hruling
      refine Or.inr ⟨hrequired, ?_⟩
      intro text htext
      exact hblank text (Record.str?_eq_some_iff.1 htext)

/-- A required field that passed the check of a set of spellings holds one of them. -/
theorem spelled_of_required (hrule : rule.rule = .oneOf allowed)
    (h : check rule true record = .ok record) :
    ∃ text ∈ allowed, record.str? rule.field = some text := by
  rcases spelled_or_blank hrule h with hspelled | ⟨hrequired, _⟩
  · exact hspelled
  · cases hrequired

end Spellings

/-! ### All checks -/

/-- A record that every one of the checks returns as it is. -/
def Passes (checks : List (FieldRule × Bool)) (record : Record) : Prop :=
  ∀ entry ∈ checks, check entry.1 entry.2 record = .ok record

theorem checkAll_cons (entry : FieldRule × Bool) (checks : List (FieldRule × Bool))
    (record : Record) :
    checkAll (entry :: checks) record =
      (check entry.1 entry.2 record).bind fun record => checkAll checks record := rfl

theorem checkAll_cons_eq_ok_iff {entry : FieldRule × Bool} {checks : List (FieldRule × Bool)}
    {record after : Record} :
    checkAll (entry :: checks) record = .ok after ↔
      ∃ between, check entry.1 entry.2 record = .ok between ∧
        checkAll checks between = .ok after := by
  rw [checkAll_cons]
  cases check entry.1 entry.2 record <;> simp [Except.bind]

theorem checkAll_of_passes {checks : List (FieldRule × Bool)} {record : Record}
    (h : Passes checks record) : checkAll checks record = .ok record := by
  induction checks with
  | nil => rfl
  | cons entry checks ih =>
      rw [checkAll_cons_eq_ok_iff]
      exact ⟨record, h entry List.mem_cons_self,
        ih fun other hother => h other (List.mem_cons_of_mem _ hother)⟩

theorem field_ne_of_mem {field : String} {checks : List (FieldRule × Bool)}
    (h : field ∉ checks.map fun entry => entry.1.field) {entry : FieldRule × Bool}
    (hentry : entry ∈ checks) : field ≠ entry.1.field := by
  intro heq
  apply h
  rw [heq]
  exact List.mem_map_of_mem hentry

/-- The checks leave the fields that they are not about as they are. -/
theorem get?_of_checkAll {checks : List (FieldRule × Bool)} {record after : Record}
    (h : checkAll checks record = .ok after) {field : String}
    (hfield : field ∉ checks.map fun entry => entry.1.field) :
    after.get? field = record.get? field := by
  induction checks generalizing record with
  | nil => rw [Except.ok.inj h]
  | cons entry checks ih =>
      obtain ⟨between, hcheck, hrest⟩ := checkAll_cons_eq_ok_iff.1 h
      obtain ⟨spelling, _, rfl⟩ := check_eq_ok_iff.1 hcheck
      simp only [List.map_cons, List.mem_cons, not_or] at hfield
      rw [ih hrest hfield.2, get?_written_of_ne (Ne.symm hfield.1)]

/-- A spelling that is written, or none, depends on the field alone. -/
theorem get?_written_congr {record other : Record} {field : String}
    (h : record.get? field = other.get? field) (spelling : Option String) :
    (written record field spelling).get? field = (written other field spelling).get? field := by
  cases spelling with
  | none => exact h
  | some text => rw [get?_written_some, get?_written_some]

/-- **Every check looks at the record as it was given**, if they are about different fields, and
what it writes is what comes out. -/
theorem ruling_of_checkAll {checks : List (FieldRule × Bool)} {record after : Record}
    (hnodup : (checks.map fun entry => entry.1.field).Nodup)
    (h : checkAll checks record = .ok after) {entry : FieldRule × Bool} (hentry : entry ∈ checks) :
    ∃ spelling, ruling entry.1 entry.2 (record.get? entry.1.field) = .ok spelling ∧
      after.get? entry.1.field = (written record entry.1.field spelling).get? entry.1.field := by
  induction checks generalizing record with
  | nil => cases hentry
  | cons head checks ih =>
      obtain ⟨between, hcheck, hrest⟩ := checkAll_cons_eq_ok_iff.1 h
      obtain ⟨spelling, hruling, rfl⟩ := check_eq_ok_iff.1 hcheck
      rw [List.map_cons, List.nodup_cons] at hnodup
      rcases List.mem_cons.1 hentry with rfl | hentry
      · exact ⟨spelling, hruling, get?_of_checkAll hrest hnodup.1⟩
      · -- the first check is about another field
        have hne : head.1.field ≠ entry.1.field := field_ne_of_mem hnodup.1 hentry
        obtain ⟨other, hother, hafter⟩ := ih hnodup.2 hrest hentry
        rw [get?_written_of_ne hne] at hother
        refine ⟨other, hother, ?_⟩
        rw [hafter]
        exact get?_written_congr (get?_written_of_ne hne spelling) other

/-- **What comes out of the checks passes them**, if they are about different fields: a later
check leaves what an earlier one looked at as it is. -/
theorem passes_of_checkAll {checks : List (FieldRule × Bool)} {record after : Record}
    (hcanonical : ∀ entry ∈ checks, Rule.IsCanonical entry.1.rule)
    (hnodup : (checks.map fun entry => entry.1.field).Nodup)
    (h : checkAll checks record = .ok after) : Passes checks after := by
  induction checks generalizing record with
  | nil =>
      intro entry hentry
      simp at hentry
  | cons entry checks ih =>
      obtain ⟨between, hcheck, hrest⟩ := checkAll_cons_eq_ok_iff.1 h
      rw [List.map_cons, List.nodup_cons] at hnodup
      -- the later checks are about other fields and leave this one alone
      have hentry : check entry.1 entry.2 after = .ok after :=
        check_of_get?_eq (check_of_check (hcanonical entry List.mem_cons_self) hcheck)
          (get?_of_checkAll hrest hnodup.1)
      have hothers := ih (fun other hother => hcanonical other (List.mem_cons_of_mem _ hother))
        hnodup.2 hrest
      intro other hother
      rcases List.mem_cons.1 hother with rfl | hother
      · exact hentry
      · exact hothers other hother

end Validation

/-! ### The checks of a category -/

namespace Category

theorem nodup_fields (category : Category) :
    (category.checks.map fun entry => entry.1.field).Nodup := by
  cases category <;> decide

theorem condition_not_mem_fields (category : Category) :
    conditionField ∉ category.checks.map fun entry => entry.1.field := by
  cases category <;> decide

theorem canonical_checks (category : Category) :
    ∀ entry ∈ category.checks, Rule.IsCanonical entry.1.rule := by
  cases category <;> decide

end Category

/-! ### Conditions -/

theorem Condition.ofPhrase_name (condition : Condition) :
    Condition.ofPhrase condition.name = condition := by
  cases condition <;> decide +kernel

theorem Validation.canonicalCondition_eq_ok_iff {record after : Record} :
    canonicalCondition record = .ok after ↔
      ∃ phrase, record.get? conditionField = some (.string phrase) ∧
        after = record.insertText conditionField (Condition.ofPhrase phrase).name := by
  unfold canonicalCondition
  split
  · next hnone => simp [hnone]
  · next phrase hphrase => simp [hphrase, eq_comm]
  · next value hother hvalue =>
    simp only [hvalue, Option.some.injEq, reduceCtorEq, false_iff, not_exists, not_and]
    intro phrase hphrase
    exact absurd hphrase (hother phrase)

/-- The condition stays as it is exactly if it has the name of a condition. -/
theorem Validation.canonicalCondition_eq_self_iff {record : Record} :
    canonicalCondition record = .ok record ↔
      ∃ condition : Condition,
        record.get? conditionField = some (.string condition.name) := by
  rw [canonicalCondition_eq_ok_iff]
  constructor
  · rintro ⟨phrase, _, hwritten⟩
    refine ⟨Condition.ofPhrase phrase, ?_⟩
    rw [hwritten, Record.get?_insertText_self]
  · rintro ⟨condition, hname⟩
    refine ⟨condition.name, hname, ?_⟩
    rw [Condition.ofPhrase_name, Record.insertText_of_get? hname]

/-! ### Validation -/

/-- A record that validation has nothing to change in. -/
def Passed (category : Category) (record : Record) : Prop :=
  canonicalCondition record = .ok record ∧ Passes category.checks record

namespace Category

variable {category : Category} {record after : Record}

theorem validate_eq_ok_iff : category.validate record = .ok after ↔
    ∃ between, canonicalCondition record = .ok between ∧
      checkAll category.checks between = .ok after := by
  unfold validate
  cases canonicalCondition record <;> simp [bind, Except.bind]

/-- **What validation returns has passed.** -/
theorem passed_of_validate (h : category.validate record = .ok after) : Passed category after := by
  obtain ⟨between, hcondition, hchecks⟩ := validate_eq_ok_iff.1 h
  refine ⟨?_, passes_of_checkAll category.canonical_checks category.nodup_fields hchecks⟩
  -- no check is about the condition, so its canonical name is still there
  obtain ⟨phrase, _, rfl⟩ := canonicalCondition_eq_ok_iff.1 hcondition
  refine canonicalCondition_eq_self_iff.2 ⟨Condition.ofPhrase phrase, ?_⟩
  rw [get?_of_checkAll hchecks category.condition_not_mem_fields, Record.get?_insertText_self]

/-- **Validation rules on the record as it was given**, field by field. -/
theorem ruling_of_validate (h : category.validate record = .ok after) {entry : FieldRule × Bool}
    (hentry : entry ∈ category.checks) :
    ∃ spelling, ruling entry.1 entry.2 (record.get? entry.1.field) = .ok spelling ∧
      after.get? entry.1.field = (written record entry.1.field spelling).get? entry.1.field := by
  obtain ⟨between, hcondition, hchecks⟩ := validate_eq_ok_iff.1 h
  obtain ⟨phrase, _, rfl⟩ := canonicalCondition_eq_ok_iff.1 hcondition
  have hne : conditionField ≠ entry.1.field :=
    field_ne_of_mem category.condition_not_mem_fields hentry
  obtain ⟨spelling, hruling, hafter⟩ := ruling_of_checkAll category.nodup_fields hchecks hentry
  have hfield : (record.insertText conditionField (Condition.ofPhrase phrase).name).get?
      entry.1.field = record.get? entry.1.field := Record.get?_insertText_of_ne hne
  rw [hfield] at hruling
  refine ⟨spelling, hruling, ?_⟩
  rw [hafter]
  exact get?_written_congr hfield spelling

/-- A record that has passed is returned as it is. -/
theorem validate_of_passed (h : Passed category record) : category.validate record = .ok record :=
  validate_eq_ok_iff.2 ⟨record, h.1, checkAll_of_passes h.2⟩

/-- **Validation is idempotent.** -/
theorem validate_idempotent (h : category.validate record = .ok after) :
    category.validate after = .ok after :=
  validate_of_passed (passed_of_validate h)

/-- A drive with a blank option, a null, numbers for texts and a field that no rule is about. -/
def looseDrive : Record :=
  (Record.decode ("\x7b\"capacity\": \" 4TB \", \"interface\": \"sata\", \"form_factor\": 2.5, " ++
    "\"type\": \"  \", \"condition\": \" Pre-Owned \", \"confidence\": 1.0, \"quantity\": 2.0, " ++
    "\"rpm\": null, \"seen\": \x7b\"weeks\": [3.0, -0.0]\x7d\x7d").toList).toOption.getD .empty

theorem validate_idempotent_drive :
    ∃ after, Category.drive.validate looseDrive = .ok after ∧ after ≠ looseDrive ∧
      Category.drive.validate after = .ok after := by
  have hcomputed : (Category.drive.validate looseDrive).toOption.any
      (fun after => decide (after ≠ looseDrive)) = true := by
    decide +kernel
  cases hafter : Category.drive.validate looseDrive with
  | error error =>
      rw [hafter] at hcomputed
      cases hcomputed
  | ok after =>
      rw [hafter] at hcomputed
      exact ⟨after, rfl, of_decide_eq_true hcomputed, validate_idempotent hafter⟩

/-- **Whatever writing a text keeps, validation keeps.** -/
theorem validate_preserves {P : Record → Prop}
    (hinsert : ∀ record field text, P record → P (record.insertText field text))
    (hrecord : P record) (h : category.validate record = .ok after) : P after := by
  have hchecks : ∀ (checks : List (FieldRule × Bool)) {record after : Record}, P record →
      checkAll checks record = .ok after → P after := by
    intro checks
    induction checks with
    | nil =>
        intro record after hrecord h
        rw [← Except.ok.inj h]
        exact hrecord
    | cons entry checks ih =>
        intro record after hrecord h
        obtain ⟨between, hcheck, hrest⟩ := checkAll_cons_eq_ok_iff.1 h
        obtain ⟨spelling, _, rfl⟩ := check_eq_ok_iff.1 hcheck
        refine ih ?_ hrest
        cases spelling with
        | none => exact hrecord
        | some text => exact hinsert record _ text hrecord
  obtain ⟨between, hcondition, hrest⟩ := validate_eq_ok_iff.1 h
  obtain ⟨phrase, _, rfl⟩ := canonicalCondition_eq_ok_iff.1 hcondition
  exact hchecks _ (hinsert record _ _ hrecord) hrest

end Category

end ListingAttributes
