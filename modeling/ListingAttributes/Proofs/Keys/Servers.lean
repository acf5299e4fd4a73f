import ListingAttributes.Proofs.Keys.Separation

/-!
# Keys of servers

The manufacturer, the model and the drive form factor of a server are any
texts, and colons in them are kept.  A colon of the manufacturer may therefore
pass for the one between the components, and two servers may share a key
(`server_keys_collide`).  Nothing else makes keys collide: what a key leaves
open is only how many of its colons each component has (`server_key_iff`).
-/

namespace ListingAttributes.ProductKey

/-- Two records agree on the components of a server. -/
structure SameServer (first second : Record) : Prop where
  manufacturer : token first "manufacturer" = token second "manufacturer"
  model : token first "model" = token second "model"
  formFactor : token first "drive_form_factor" = token second "drive_form_factor"

/-- How many colons the component of a text field has. -/
def colons (record : Record) (field : String) : Nat := (token record field).count ':'

theorem components_server (record : Record) : components "server" record =
    ["server".toList, token record "manufacturer", token record "model",
      token record "drive_form_factor"] := rfl

/-- **Two records agree on the components of a server** exactly if they have the same key and their
components have equally many colons. -/
theorem server_key_iff (first second : Record) :
    SameServer first second ↔
      productKey "server" first = productKey "server" second ∧
        colons first "manufacturer" = colons second "manufacturer" ∧
        colons first "model" = colons second "model" := by
  rw [productKey_eq_iff]
  constructor
  · intro h
    refine ⟨?_, congrArg _ h.manufacturer, congrArg _ h.model⟩
    rw [components_server, components_server, h.manufacturer, h.model, h.formFactor]
  · rintro ⟨hkey, hmanufacturer, hmodel⟩
    obtain ⟨-, hcomponents⟩ := joined_cons_inj (by decide) (by decide) hkey
    -- equally many colons leave one place for the end of each component
    obtain ⟨hmaker, hrest⟩ := append_colon_inj_of_count hmanufacturer hcomponents
    obtain ⟨hname, hform⟩ := append_colon_inj_of_count hmodel hrest
    exact ⟨hmaker, hname, hform⟩

/-- A server of which only the manufacturer, the model and the condition are known. -/
def serverOf (manufacturer model condition : String) : Record :=
  ((Record.certain.insertText "manufacturer" manufacturer).insertText "model" model).insertText
    Validation.conditionField condition

/-- Two valid servers of different manufacturers and models have one key. -/
theorem server_keys_collide :
    Category.server.validate (serverOf "Dell:EMC" "R740" "used") =
        .ok (serverOf "Dell:EMC" "R740" "used_working") ∧
      Category.server.validate (serverOf "Dell" "EMC:R740" "used") =
        .ok (serverOf "Dell" "EMC:R740" "used_working") ∧
      productKey "server" (serverOf "Dell:EMC" "R740" "used_working") =
        productKey "server" (serverOf "Dell" "EMC:R740" "used_working") ∧
      token (serverOf "Dell:EMC" "R740" "used_working") "manufacturer" ≠
        token (serverOf "Dell" "EMC:R740" "used_working") "manufacturer" ∧
      token (serverOf "Dell:EMC" "R740" "used_working") "model" ≠
        token (serverOf "Dell" "EMC:R740" "used_working") "model" := by
  refine ⟨?_, ?_, ?_, ?_, ?_⟩
  · decide +kernel
  · decide +kernel
  · decide +kernel
  · decide +kernel
  · decide +kernel

end ListingAttributes.ProductKey
