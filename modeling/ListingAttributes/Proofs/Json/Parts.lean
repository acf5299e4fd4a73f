import ListingAttributes.Proofs.Json.Lookup

/-!
# Parts of a value

A part of a value is found under a path of keys (`at?`), or it is the value
itself or a part of one of its items or members (`PartOf`).
-/

namespace ListingAttributes.Json

variable {ν : Type}

/-! ### Paths -/

/-- The value under a path of keys. -/
def at? : List String → Json ν → Option (Json ν)
  | [], value => some value
  | key :: path, .object members => (lookup key members).bind (at? path)
  | _ :: _, _ => none

@[simp] theorem at?_nil : at? [] = some (α := Json ν) := rfl

@[simp] theorem at?_object (key : String) (path : List String)
    (members : List (String × Json ν)) :
    at? (key :: path) (.object members) = (lookup key members).bind (at? path) := rfl

/-! ### Values without null -/

/-- A value that stands somewhere in another one, or is that value. -/
inductive PartOf (part : Json ν) : Json ν → Prop where
  | self : PartOf part part
  | item {items : List (Json ν)} {item : Json ν} (hitem : item ∈ items) (h : PartOf part item) :
      PartOf part (.array items)
  | member {members : List (String × Json ν)} {key : String} {value : Json ν}
      (hmember : (key, value) ∈ members) (h : PartOf part value) : PartOf part (.object members)

/-- No part of the value is null. -/
def NullFree (value : Json ν) : Prop := ¬ PartOf .null value

@[simp] theorem nullFree_bool (b : Bool) : NullFree (.bool b : Json ν) := nofun

@[simp] theorem nullFree_number (x : ν) : NullFree (.number x) := nofun

@[simp] theorem nullFree_string (text : String) : NullFree (.string text : Json ν) := nofun

@[simp] theorem nullFree_array {items : List (Json ν)} :
    NullFree (.array items) ↔ ∀ item ∈ items, NullFree item := by
  constructor
  · intro h item hitem hpart
    exact h (.item hitem hpart)
  · rintro h ⟨⟩
    next item hpart hitem => exact h item hitem hpart

@[simp] theorem nullFree_object {members : List (String × Json ν)} :
    NullFree (.object members) ↔ ∀ member ∈ members, NullFree member.2 := by
  constructor
  · intro h member hmember hpart
    exact h (.member hmember hpart)
  · rintro h ⟨⟩
    next key value hpart hmember => exact h (key, value) hmember hpart

end ListingAttributes.Json
