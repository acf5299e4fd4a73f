import ListingAttributes.Proofs.Numeric.ExactValues
import ListingAttributes.Proofs.Records.MemorySpeed

/-!
# What the recovery of a speed changes

The speed of a title is filled in where the field of the speed holds no number
other than zero (`isSome_recovered?_iff`).  It is the only field that changes
(`fills_of_recovered?`), and recovering again changes nothing.

A field that is absent, null or zero states nothing (`Unset`).  One that holds
a text, a boolean, an array or an object is taken for such a field and is
overwritten (`recovery_overwrites`).  Validation lets none of them pass, so a
valid record loses nothing.
-/

namespace ListingAttributes.MemorySpeed

open Json Validation

/-! ### Fields that are overwritten -/

/-- The value of a field that states nothing. -/
inductive Unset : Option Value → Prop where
  /-- There is no such field. -/
  | absent : Unset none
  /-- The field holds null. -/
  | null : Unset (some .null)
  /-- The field holds a zero, as an integer or as a double of either sign. -/
  | zero {x : Number} (hzero : x.value = 0) : Unset (some (.number x))

/-- A value that is neither null nor a number. -/
inductive Misplaced : Value → Prop where
  | bool (b : Bool) : Misplaced (.bool b)
  | string (text : String) : Misplaced (.string text)
  | array (items : List Value) : Misplaced (.array items)
  | object (members : List (String × Value)) : Misplaced (.object members)

variable {title : List Char} {record after : Record}

/-- A speed is stated by what reads as a number other than zero. -/
theorem isStated_eq_false_iff :
    isStated record = false ↔ ∀ d, record.number? field = some d → d.value = 0 := by
  have hzero : ∀ d : Numeric.Binary Numeric.binary64, d.isZero = true ↔ d.value = 0 :=
    fun d => Number.isZero_toDouble_iff (.double d)
  unfold isStated
  cases record.number? field with
  | none => simp
  | some d => simp [hzero]

theorem isStated_eq_false_iff_lookup :
    isStated record = false ↔
      ∀ x : Number, lookup field record.members = some (.number x) → x.value = 0 := by
  have hvalue : ∀ x : Number, x.toDouble.value = 0 ↔ x.value = 0 := fun x =>
    (Number.isZero_toDouble_iff (.double x.toDouble)).symm.trans (Number.isZero_toDouble_iff x)
  simp [isStated_eq_false_iff, Record.number?_eq_some_iff, hvalue]

/-- What states no speed, by the kind of the value. -/
theorem isStated_eq_false_iff_unset :
    isStated record = false ↔ Unset (lookup field record.members) ∨
      ∃ value, lookup field record.members = some value ∧ Misplaced value := by
  rw [isStated_eq_false_iff_lookup]
  generalize lookup field record.members = value
  constructor
  · intro h
    cases value with
    | none => exact Or.inl .absent
    | some value =>
        cases value with
        | null => exact Or.inl .null
        | number x => exact Or.inl (.zero (h x rfl))
        | bool b => exact Or.inr ⟨_, rfl, .bool b⟩
        | string text => exact Or.inr ⟨_, rfl, .string text⟩
        | array items => exact Or.inr ⟨_, rfl, .array items⟩
        | object members => exact Or.inr ⟨_, rfl, .object members⟩
  · rintro (hunset | ⟨value, rfl, hmisplaced⟩) x hx
    · subst hx
      cases hunset with
      | zero hzero => exact hzero
    · obtain rfl := Option.some.inj hx
      cases hmisplaced

theorem isSome_recovered?_iff :
    (recovered? title record).isSome = true ↔
      isStated record = false ∧ ∃ rate, ofTitle? title = some rate := by
  unfold recovered?
  cases isStated record with
  | true => simp
  | false => simp [Option.isSome_iff_exists]

theorem recover_of_recovered? (h : recovered? title record = some after) :
    recover title record = after := by
  rw [recover, h, Option.getD_some]

/-- Validation lets no speed pass that is neither null nor a number. -/
theorem not_misplaced_of_passed (h : Passed .ram record) {value : Value}
    (hvalue : lookup field record.members = some value) : ¬ Misplaced value := by
  have hmem : ((⟨field, .within (.between slowest fastest) true⟩, false) : FieldRule × Bool) ∈
      Category.ram.checks := by decide +kernel
  obtain ⟨_, hruling, _⟩ := check_eq_ok_iff.1 (h.2 _ hmem)
  intro hmisplaced
  have hget : record.get? field = some value :=
    Record.get?_eq_some_iff.2 ⟨hvalue, by cases hmisplaced <;> rfl⟩
  rw [hget] at hruling
  cases hmisplaced <;> cases hruling

/-- **What the recovery of a speed overwrites.**  It changes a record exactly if the title states
a speed and the field of the speed states nothing or holds a value of another kind than a number.
A number other than zero stays, and so does the whole record.  Of a valid record only a field that
states nothing is filled in. -/
theorem recovery_overwrites (title : List Char) (record : Record) :
    ((recovered? title record).isSome = true ↔
        (∃ rate, ofTitle? title = some rate) ∧
          (Unset (lookup field record.members) ∨
            ∃ value, lookup field record.members = some value ∧ Misplaced value)) ∧
      (∀ x : Number, lookup field record.members = some (.number x) → x.value ≠ 0 →
        recovered? title record = none ∧ recover title record = record) ∧
      ∀ given, Category.ram.validate given = .ok record →
        (recovered? title record).isSome = true → Unset (lookup field record.members) := by
  have hiff : (recovered? title record).isSome = true ↔
      (∃ rate, ofTitle? title = some rate) ∧
        (Unset (lookup field record.members) ∨
          ∃ value, lookup field record.members = some value ∧ Misplaced value) := by
    rw [isSome_recovered?_iff, isStated_eq_false_iff_unset, and_comm]
  refine ⟨hiff, ?_, ?_⟩
  · intro x hx hne
    have hnone : recovered? title record = none := by
      rw [← Option.not_isSome_iff_eq_none, isSome_recovered?_iff, isStated_eq_false_iff_lookup]
      exact fun h => hne (h.1 x hx)
    exact ⟨hnone, recover_of_recovered?_eq_none hnone⟩
  · intro given hvalid hchanged
    rcases (hiff.1 hchanged).2 with hunset | ⟨value, hvalue, hmisplaced⟩
    · exact hunset
    · exact absurd hmisplaced
        (not_misplaced_of_passed (Category.passed_of_validate hvalid) hvalue)

/-- A memory module whose speed is null. -/
def unclockedModule : Record :=
  (Record.decode ("\x7b\"capacity_gb\": 32, \"condition\": \"used_working\", \"confidence\": 1, " ++
    "\"generation\": \"DDR4\", \"speed_mhz\": null\x7d").toList).toOption.getD .empty

theorem validate_unclockedModule : Category.ram.validate unclockedModule = .ok unclockedModule := by
  have hcomputed : (Category.ram.validate unclockedModule).toOption.any
      (fun after => decide (after = unclockedModule)) = true := by
    decide +kernel
  obtain ⟨after, hafter, hsame⟩ := exists_ok_of_any hcomputed
  exact hafter.trans (congrArg Except.ok (of_decide_eq_true hsame))

theorem recovery_overwrites_null :
    Category.ram.validate unclockedModule = .ok unclockedModule ∧
      (recovered? "PC4-21300".toList unclockedModule).isSome = true ∧
        Unset (lookup field unclockedModule.members) := by
  have hchanged : (recovered? "PC4-21300".toList unclockedModule).isSome = true := by
    decide +kernel
  obtain ⟨-, -, hunset⟩ := recovery_overwrites "PC4-21300".toList unclockedModule
  exact ⟨validate_unclockedModule, hchanged, hunset _ validate_unclockedModule hchanged⟩

/-- A speed that is written as a text is lost. -/
theorem text_overwritten :
    lookup field (Record.empty.insertText field "3200").members = some (.string "3200") ∧
      ¬ Unset (lookup field (Record.empty.insertText field "3200").members) ∧
        (recovered? "PC4-21300".toList (Record.empty.insertText field "3200")).isSome = true ∧
          (recover "PC4-21300".toList (Record.empty.insertText field "3200")).number? field =
            some (doubleOfNat 2666) := by
  have htext : lookup field (Record.empty.insertText field "3200").members =
      some (.string "3200") :=
    (Record.lookup_insert _ _ _ _).trans (if_pos rfl)
  refine ⟨htext, ?_, by decide +kernel, by decide +kernel⟩
  rw [htext]
  intro hunset
  cases hunset

/-! ### What is written -/

/-- A record with a data rate filled in, and nothing else changed. -/
structure Fills (rate : Nat) (record after : Record) : Prop where
  /-- The data rate is plausible. -/
  low : 800 ≤ rate
  high : rate ≤ 8400
  /-- It is written as an integer. -/
  written : ∃ i : Integer, i.value = rate ∧
    lookup field after.members = some (.number (.integer i))
  /-- All other fields are as they were. -/
  kept : ∀ name, name ≠ field → lookup name after.members = lookup name record.members

/-- **The speed of the title is written, and nothing else changes.** -/
theorem fills_of_recovered? (h : recovered? title record = some after) :
    ∃ rate, ofTitle? title = some rate ∧ Fills rate record after := by
  unfold recovered? at h
  split at h
  · cases h
  · obtain ⟨rate, hrate, rfl⟩ := Option.map_eq_some_iff.1 h
    obtain ⟨hlow, hhigh⟩ := ofTitle?_range hrate
    refine ⟨rate, hrate, hlow, hhigh, ⟨integerOfRate rate, value_integerOfRate hhigh, ?_⟩, ?_⟩
    · exact (Record.lookup_insert record field _ field).trans (if_pos rfl)
    · intro name hname
      exact (Record.lookup_insert record field _ name).trans (if_neg (Ne.symm hname))

/-- **The recovery of a speed is confined.**  It takes place exactly if the field of the speed
does not read as a number other than zero and the title states a speed.  Then that field holds the
speed, and all others are as they were; otherwise the record is as it was.  A second attempt does
nothing, and a valid record stays valid. -/
theorem recovery_confined (title : List Char) (record : Record) :
    ((recovered? title record).isSome = true ↔
        (∀ x, record.number? field = some x → x.value = 0) ∧
          ∃ rate, ofTitle? title = some rate) ∧
      (∀ after, recovered? title record = some after →
        recover title record = after ∧
          ∃ rate, ofTitle? title = some rate ∧ Fills rate record after) ∧
      (recovered? title record = none → recover title record = record) ∧
      (recovered? title (recover title record) = none ∧
        recover title (recover title record) = recover title record) ∧
      (Category.ram.validate record = .ok record →
        Category.ram.validate (recover title record) = .ok (recover title record)) := by
  refine ⟨?_, ?_, recover_of_recovered?_eq_none, ⟨recovered?_recover title record,
    recover_recover title record⟩, ?_⟩
  · rw [isSome_recovered?_iff, isStated_eq_false_iff]
  · intro after hafter
    exact ⟨recover_of_recovered? hafter, fills_of_recovered? hafter⟩
  · intro hvalid
    have hpassed : Passed .ram record := Category.passed_of_validate hvalid
    exact Category.validate_of_passed (passed_recover title hpassed)

theorem recovery_confined_null :
    (recovered? "PC4-21300".toList unclockedModule).isSome = true ∧
      recovered? "PC4-21300".toList (recover "PC4-21300".toList unclockedModule) = none ∧
        Category.ram.validate (recover "PC4-21300".toList unclockedModule) =
          .ok (recover "PC4-21300".toList unclockedModule) := by
  have hspeed : ofTitle? "PC4-21300".toList = some 2666 := by decide +kernel
  have hunstated : isStated unclockedModule = false := by decide +kernel
  obtain ⟨hchanged, -, -, ⟨hagain, -⟩, hvalid⟩ :=
    recovery_confined "PC4-21300".toList unclockedModule
  exact ⟨hchanged.2 ⟨isStated_eq_false_iff.1 hunstated, 2666, hspeed⟩, hagain,
    hvalid validate_unclockedModule⟩

end ListingAttributes.MemorySpeed
