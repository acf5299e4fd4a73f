import ListingAttributes.Json.WholeNumber
import ListingAttributes.Json.Writing

/-!
# Attribute records

A record is an open map from attribute names to JSON values, as a generation backend produces it.
A field that holds null counts as absent for every reader, but stays part of the record.

Records made from JSON text, from a value or from the members of an object hold their whole
numbers as integers; `decode` takes an object as it is.
-/

namespace ListingAttributes

/-- A map from attribute names to JSON values, in ascending order of names. -/
structure Record where
  members : List (String × Json.Value)
  ascending : Json.Ascending members
  ordered : Json.OrderedMembers members

/-- Why a text or value is no record. -/
inductive RecordError where
  /-- The text is not well-formed JSON. -/
  | malformed
  /-- The value is of another kind than an object. -/
  | notAnObject (kind : String)
  deriving DecidableEq, Repr

/-- What all messages about malformed JSON start with. -/
def malformedLead : String := "malformed JSON: "

/-- The message of an error.  What is wrong with a malformed text is not said. -/
def RecordError.message : RecordError → String
  | malformed => malformedLead
  | notAnObject kind => "expected a JSON object, got " ++ kind

namespace Record

theorem ext_members {a b : Record} (h : a.members = b.members) : a = b := by
  cases a; cases b; cases h; rfl

instance : DecidableEq Record := fun a b =>
  if h : a.members = b.members then isTrue (ext_members h)
  else isFalse (fun heq => h (by rw [heq]))

/-! ## Making records -/

/-- The record without fields. -/
def empty : Record := ⟨[], List.Pairwise.nil, trivial⟩

/-- The record of an object, as it is. -/
def ofObject? : Json.OrderedValue → Option Record
  | ⟨.object members, h⟩ => some ⟨members, h.1, h.2⟩
  | _ => none

/-- The record of a value, with whole numbers as integers. -/
def ofValue (value : Json.OrderedValue) : Except RecordError Record :=
  match ofObject? ⟨Json.wholeNumbers value.1, Json.ordered_wholeNumbers value.1 value.2⟩ with
  | some record => .ok record
  | none => .error (.notAnObject value.1.kind)

/-- The record of a JSON text, with whole numbers as integers. -/
def ofText (text : List Char) : Except RecordError Record :=
  match Json.parseOrdered? text with
  | some value => ofValue value
  | none => .error .malformed

/-- The record of a JSON text, with every number as written. -/
def decode (text : List Char) : Except RecordError Record :=
  match (Json.parseOrdered? text).bind ofObject? with
  | some record => .ok record
  | none => .error .malformed

/-- A record with its whole numbers as integers. -/
def whole (record : Record) : Record :=
  ⟨Json.wholeMembers record.members, Json.ascending_wholeMembers record.ascending,
    Json.orderedMembers_wholeMembers _ record.ordered⟩

/-- A record as a JSON value. -/
def toValue (record : Record) : Json.Value := .object record.members

/-- A record as JSON text. -/
def text (record : Record) : List Char := record.toValue.text

/-! ## Reading fields -/

/-- The value of a field; null counts as absent. -/
def get? (record : Record) (field : String) : Option Json.Value :=
  (Json.lookup field record.members).filter fun value => !value.isNull

/-- The text of a field that holds a string. -/
def str? (record : Record) (field : String) : Option String :=
  match record.get? field with
  | some (.string text) => some text
  | _ => none

/-- The value of a field that holds a number, as a double. -/
def number? (record : Record) (field : String) : Option (Numeric.Binary Numeric.binary64) :=
  match record.get? field with
  | some (.number x) => some x.toDouble
  | _ => none

/-- The value of a field that holds a boolean. -/
def bool? (record : Record) (field : String) : Option Bool :=
  match record.get? field with
  | some (.bool b) => some b
  | _ => none

/-- Whether a field holds a value other than null. -/
def contains (record : Record) (field : String) : Bool := (record.get? field).isSome

/-! ## Changing fields -/

/-- Sets a field. -/
def insert (record : Record) (field : String) (value : Json.OrderedValue) : Record :=
  ⟨Json.insert field value.1 record.members, Json.ascending_insert _ _ record.ascending,
    Json.orderedMembers_insert _ value.2 record.ordered⟩

/-- Sets a field to a text. -/
def insertText (record : Record) (field : String) (text : String) : Record :=
  record.insert field ⟨.string text, trivial⟩

/-- Sets a field to an integer. -/
def insertInteger (record : Record) (field : String) (i : Json.Integer) : Record :=
  record.insert field ⟨.number (.integer i), trivial⟩

/-- Removes a field. -/
def erase (record : Record) (field : String) : Record :=
  ⟨Json.erase field record.members, Json.ascending_erase _ record.ascending,
    Json.orderedMembers_erase _ record.ordered⟩

end Record

end ListingAttributes
