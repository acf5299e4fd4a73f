import ListingAttributes.Proofs.Keys.Separation
import ListingAttributes.Proofs.Records.Spellings

/-!
# Spellings that are left blank

Where one of a set of spellings is optional, validation takes a blank text for
none, and it leaves the text where it is.  A key has a notion of its own of a
text that is not stated: only the empty one is, and the type of a drive is
stated even then.  The two notions come apart, so a blank text may change the
key of a valid record (`drive_key_blank`).

* `joined_replace_iff`: a component is known from the key that it stands in;
* `token_eq_unknown_iff`: the component of a blank text is unknown only if the
  text is empty;
* `validate_spelled`: what a valid record holds where a spelling is expected,
  and when a blank text there does without consequence for the key.
-/

namespace ListingAttributes.ProductKey

/-! ### Keys with one component replaced -/

theorem joined_cons_of_ne_nil {component : List Char} {rest : List (List Char)} (h : rest ≠ []) :
    joined (component :: rest) = component ++ ':' :: joined rest := by
  cases rest with
  | nil => exact absurd rfl h
  | cons next rest => rfl

/-- A component is known from what it is joined with. -/
theorem joined_replace_iff (front : List (List Char)) {back : List (List Char)}
    {component other : List Char} :
    joined (front ++ component :: back) = joined (front ++ other :: back) ↔ component = other := by
  induction front with
  | nil =>
      cases back with
      | nil => rfl
      | cons next back => exact List.append_left_inj _
  | cons first front ih =>
      rw [List.cons_append, List.cons_append, joined_cons_of_ne_nil (by simp),
        joined_cons_of_ne_nil (by simp), List.append_right_inj, List.cons_inj_right, ih]

/-! ### Components of removed fields -/

theorem str?_erase_self (record : Record) (field : String) :
    (record.erase field).str? field = none := by
  unfold Record.str?
  rw [Record.get?_erase_self]

theorem str?_erase_of_ne {record : Record} {erased field : String} (h : erased ≠ field) :
    (record.erase erased).str? field = record.str? field := by
  unfold Record.str?
  rw [Record.get?_erase_of_ne h]

theorem number?_erase_of_ne {record : Record} {erased field : String} (h : erased ≠ field) :
    (record.erase erased).number? field = record.number? field := by
  unfold Record.number?
  rw [Record.get?_erase_of_ne h]

theorem token_erase_self (record : Record) (field : String) :
    token (record.erase field) field = unknown := by
  unfold token
  rw [str?_erase_self]

theorem token_erase_of_ne {record : Record} {erased field : String} (h : erased ≠ field) :
    token (record.erase erased) field = token record field :=
  token_congr (str?_erase_of_ne h)

theorem number_erase_of_ne {record : Record} {erased field : String} (h : erased ≠ field) :
    number (record.erase erased) field = number record field := by
  unfold number
  rw [number?_erase_of_ne h]

theorem driveSubtype_erase_type (record : Record) :
    driveSubtype (record.erase "type") = unknown := by
  unfold driveSubtype
  rw [str?_erase_self]

theorem driveSubtype_erase_of_ne {record : Record} {erased : String} (htype : erased ≠ "type")
    (hrate : erased ≠ "rpm") : driveSubtype (record.erase erased) = driveSubtype record := by
  unfold driveSubtype
  rw [str?_erase_of_ne htype, number?_erase_of_ne hrate]

/-! ### Components of blank texts -/

variable {record : Record} {text : String}

/-- The component of a blank text is unknown only if the text is empty. -/
theorem token_eq_unknown_iff {field : String} (htext : record.str? field = some text)
    (hblank : Text.trim text.toList = []) : token record field = unknown ↔ text = "" := by
  have hempty : text.toList = [] ↔ text = "" := String.toList_eq_nil_iff
  rw [token_of_str? htext, ← hempty]
  split
  · next h => simp [h]
  · next h =>
    simp only [h, iff_false]
    intro hunknown
    -- no letter comes out of a blank text
    have hletter : 'u' ∈ folded text.toList := by
      rw [hunknown]
      decide
    have hblanks := Text.isBlank_of_trim_eq_nil hblank
    unfold folded at hletter
    rw [Text.lower_of_isBlank hblanks] at hletter
    obtain ⟨c, hc, hu⟩ := List.mem_map.1 hletter
    split at hu
    · cases hu
    · rw [hu] at hc
      exact absurd (hblanks 'u' hc) (by decide)

/-- A drive whose type is a text is of some kind. -/
theorem driveSubtype_ne_unknown (htext : record.str? "type" = some text) :
    driveSubtype record ≠ unknown := by
  unfold driveSubtype
  rw [htext]
  dsimp only
  split
  · decide
  · split <;> decide

/-! ### Keys of records with a blank spelling -/

theorem components_nic_erase (record : Record) : components "nic" (record.erase "port_type") =
    ["nic".toList, token record "speed", number record "port_count" ++ ['p'], unknown] := by
  rw [components_nic, token_erase_of_ne (by decide), number_erase_of_ne (by decide),
    token_erase_self]

theorem components_drive_erase_formFactor (record : Record) :
    components "drive" (record.erase "form_factor") =
      ["drive".toList, token record "interface", unknown, token record "capacity",
        driveSubtype record] := by
  rw [components_drive, token_erase_of_ne (by decide), token_erase_self,
    token_erase_of_ne (by decide), driveSubtype_erase_of_ne (by decide) (by decide)]

theorem components_drive_erase_type (record : Record) :
    components "drive" (record.erase "type") =
      ["drive".toList, token record "interface", token record "form_factor",
        token record "capacity", unknown] := by
  rw [components_drive, token_erase_of_ne (by decide), token_erase_of_ne (by decide),
    token_erase_of_ne (by decide), driveSubtype_erase_type]

theorem components_server_erase (record : Record) :
    components "server" (record.erase "form_factor") = components "server" record := by
  show ["server".toList, token (record.erase "form_factor") "manufacturer",
    token (record.erase "form_factor") "model",
    token (record.erase "form_factor") "drive_form_factor"] = components "server" record
  rw [token_erase_of_ne (by decide), token_erase_of_ne (by decide), token_erase_of_ne (by decide)]
  rfl

/-- Whether a rule is about a set of spellings. -/
def isSpelling : Rule → Bool
  | .oneOf _ => true
  | _ => false

/-- The categories and their fields where a spelling is optional. -/
def optionalSpellings : List (Category × String) :=
  [(.drive, "form_factor"), (.drive, "type"), (.server, "form_factor"), (.nic, "port_type")]

theorem mem_optionalSpellings {category : Category} {field : String} {allowed : List String}
    (h : (⟨field, .oneOf allowed⟩, false) ∈ category.checks) :
    (category, field) ∈ optionalSpellings := by
  have hall : ∀ entry ∈ category.checks, isSpelling entry.1.rule = true → entry.2 = false →
      (category, entry.1.field) ∈ optionalSpellings := by
    cases category <;> decide +kernel
  exact hall _ h rfl rfl

/-- **A blank text has the key of a field that is not there** exactly if the key does not show the
field, or if the text is empty and is not the type of a drive. -/
theorem key_erase_iff_of_blank {category : Category} {field : String}
    (hfield : (category, field) ∈ optionalSpellings) (htext : record.str? field = some text)
    (hblank : Text.trim text.toList = []) :
    productKey category.name record = productKey category.name (record.erase field) ↔
      category = .server ∨ text = "" ∧ field ≠ "type" := by
  rw [productKey_eq_iff]
  simp only [optionalSpellings, List.mem_cons, Prod.mk.injEq, List.not_mem_nil, or_false] at hfield
  rcases hfield with ⟨rfl, rfl⟩ | ⟨rfl, rfl⟩ | ⟨rfl, rfl⟩ | ⟨rfl, rfl⟩
  · calc joined (components "drive" record) =
          joined (components "drive" (record.erase "form_factor"))
        ↔ token record "form_factor" = unknown := by
          rw [components_drive_erase_formFactor, components_drive]
          exact joined_replace_iff ["drive".toList, token record "interface"]
      _ ↔ text = "" := token_eq_unknown_iff htext hblank
      _ ↔ Category.drive = .server ∨ text = "" ∧ "form_factor" ≠ "type" := by simp
  · calc joined (components "drive" record) = joined (components "drive" (record.erase "type"))
        ↔ driveSubtype record = unknown := by
          rw [components_drive_erase_type, components_drive]
          exact joined_replace_iff ["drive".toList, token record "interface",
            token record "form_factor", token record "capacity"]
      _ ↔ False := iff_false_intro (driveSubtype_ne_unknown htext)
      _ ↔ Category.drive = .server ∨ text = "" ∧ "type" ≠ "type" := by simp
  · rw [show Category.server.name = "server" from rfl, components_server_erase]
    simp
  · calc joined (components "nic" record) = joined (components "nic" (record.erase "port_type"))
        ↔ token record "port_type" = unknown := by
          rw [components_nic_erase, components_nic]
          exact joined_replace_iff ["nic".toList, token record "speed",
            number record "port_count" ++ ['p']]
      _ ↔ text = "" := token_eq_unknown_iff htext hblank
      _ ↔ Category.nic = .server ∨ text = "" ∧ "port_type" ≠ "type" := by simp

/-! ### Valid records -/

/-- **What a valid record holds where a spelling is expected**: one of the spellings; or nothing,
if it is optional; or the blank text that the record was given with, if it is optional, and such a
text has the key of a field that is not there only in the cases of `key_erase_iff_of_blank`. -/
theorem validate_spelled {category : Category} {record after : Record}
    (h : category.validate record = .ok after) {field : String} {allowed : List String}
    {required : Bool} (hmem : (⟨field, .oneOf allowed⟩, required) ∈ category.checks) :
    (∃ text ∈ allowed, after.get? field = some (.string text)) ∨
      required = false ∧ after.get? field = none ∨
      required = false ∧ ∃ text, record.get? field = some (.string text) ∧
        Text.trim text.toList = [] ∧ after.get? field = some (.string text) ∧
        (productKey category.name after = productKey category.name (after.erase field) ↔
          category = .server ∨ text = "" ∧ field ≠ "type") := by
  obtain ⟨spelling, hruling, hafter⟩ := Category.ruling_of_validate h hmem
  cases spelling with
  | some text =>
      left
      obtain ⟨others, hothers, htext⟩ := Validation.mem_of_ruling hruling
      obtain rfl : allowed = others := Rule.oneOf.inj hothers
      exact ⟨text, htext, by rw [hafter, Validation.get?_written_some]⟩
  | none =>
      right
      -- nothing was written, so the field is as it was given
      have hsame : after.get? field = record.get? field := hafter
      obtain ⟨rfl, hunstated⟩ := Validation.unstated_of_ruling_none rfl hruling
      rcases hunstated with hnone | ⟨text, htext, hblank⟩
      · exact Or.inl ⟨rfl, hsame.trans hnone⟩
      · right
        have hkept : after.get? field = some (.string text) := hsame.trans htext
        exact ⟨rfl, text, htext, hblank, hkept,
          key_erase_iff_of_blank (mem_optionalSpellings hmem) (Record.str?_eq_some_iff.2 hkept)
            hblank⟩

/-- A drive with a form factor, besides its capacity and its interface. -/
def driveOf (formFactor condition : String) : Record :=
  (((Record.certain.insertText "capacity" "4TB").insertText "interface" "SAS").insertText
    "form_factor" formFactor).insertText Validation.conditionField condition

theorem validate_spelled_empty :
    Category.drive.validate (driveOf "" "used") = .ok (driveOf "" "used_working") ∧
      (driveOf "" "used_working").get? "form_factor" = some (.string "") ∧
      productKey "drive" (driveOf "" "used_working") =
        productKey "drive" ((driveOf "" "used_working").erase "form_factor") := by
  have hvalid : Category.drive.validate (driveOf "" "used") =
      .ok (driveOf "" "used_working") := by
    decide +kernel
  have hmem : (⟨"form_factor", .oneOf ["2.5", "3.5"]⟩, false) ∈ Category.drive.checks := by
    decide +kernel
  have hget : (driveOf "" "used_working").get? "form_factor" = some (.string "") := by
    decide +kernel
  refine ⟨hvalid, hget, ?_⟩
  rcases validate_spelled hvalid hmem with
    ⟨text, htext, hspelled⟩ | ⟨_, hnone⟩ | ⟨_, text, _, _, hkept, hkey⟩
  · -- the empty text is none of the spellings
    rw [hget] at hspelled
    cases hspelled
    exact absurd htext (by decide)
  · rw [hget] at hnone
    cases hnone
  · rw [hget] at hkept
    cases hkept
    exact hkey.2 (Or.inr ⟨rfl, by decide⟩)

/-- A valid drive holds a blank form factor, and has another key than without it. -/
theorem drive_key_blank :
    Category.drive.validate (driveOf " " "used") = .ok (driveOf " " "used_working") ∧
      (driveOf " " "used_working").get? "form_factor" = some (.string " ") ∧
      productKey "drive" (driveOf " " "used_working") ≠
        productKey "drive" ((driveOf " " "used_working").erase "form_factor") := by
  refine ⟨?_, ?_, ?_⟩
  · decide +kernel
  · decide +kernel
  · decide +kernel

end ListingAttributes.ProductKey
