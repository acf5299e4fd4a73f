import ListingAttributes.Condition
import ListingAttributes.Record
import ListingAttributes.Schema

/-!
# Validation of records

A record is validated against the schema of a category: first its condition, then the checks of
the category in order.  The first check that fails decides the error.  A record that passes is
returned with a canonical condition and with the canonical spelling in every field that holds one
of a fixed set.
-/

namespace ListingAttributes

open Numeric

/-- Why a record fails validation. -/
inductive ValidationError where
  /-- A required field is absent, null or blank. -/
  | missingField (field : String)
  /-- A number lies outside its range. -/
  | outOfRange (field : String) (value : Binary binary64) (bounds : Bounds)
  /-- A text is none of the allowed spellings. -/
  | invalidEnum (field : String) (value : String) (allowed : List String)
  /-- A value is of a kind that its rule cannot accept. -/
  | invalidType (field : String) (expected : String)
  deriving DecidableEq

namespace ValidationError

/-- The field that fails. -/
def field : ValidationError → String
  | missingField field => field
  | outOfRange field _ _ => field
  | invalidEnum field _ _ => field
  | invalidType field _ => field

/-- The message of an error. -/
def message : ValidationError → String
  | missingField field => "missing required field '" ++ field ++ "'"
  | outOfRange field value bounds =>
    "field '" ++ field ++ "' value " ++ String.ofList (value.text plainStyle) ++ " out of range "
      ++ String.ofList bounds.text
  | invalidEnum field value allowed =>
    "field '" ++ field ++ "' has invalid value " ++ Text.quoted value ++ " (allowed: "
      ++ ", ".intercalate allowed ++ ")"
  | invalidType field expected => "field '" ++ field ++ "' must be a " ++ expected

end ValidationError

namespace Validation

/-- The outcome for a field that states nothing. -/
def absent (field : String) (required : Bool) (record : Record) : Except ValidationError Record :=
  if required then .error (.missingField field) else .ok record

/-- The text of a value where one of a set of spellings is expected. -/
def spelling? : Json.Value → Option (List Char)
  | .string text => some text.toList
  | .number x => some x.text
  | _ => none

/-- Checks one field, and writes its canonical spelling if it has one. -/
def check (rule : FieldRule) (required : Bool) (record : Record) :
    Except ValidationError Record :=
  match record.get? rule.field with
  | none => absent rule.field required record
  | some value =>
    match rule.rule with
    | .nonBlank =>
      match value with
      | .string text =>
        if Text.trim text.toList = [] then absent rule.field required record else .ok record
      | _ => .error (.invalidType rule.field "string")
    | .oneOf allowed =>
      match spelling? value with
      | none => .error (.invalidType rule.field "string")
      | some text =>
        let text := Text.trim text
        if text = [] then absent rule.field required record
        else
          match allowed.find? fun candidate => Text.sameButAsciiCase candidate.toList text with
          | some canonical => .ok (record.insertText rule.field canonical)
          | none => .error (.invalidEnum rule.field (String.ofList text) allowed)
    | .within bounds zeroUnset =>
      match value with
      | .number x =>
        if (zeroUnset && x.toDouble.isZero) || bounds.covers x.toDouble then .ok record
        else .error (.outOfRange rule.field x.toDouble bounds)
      | _ => .error (.invalidType rule.field "number")

/-- Checks a list of fields, one after the other, until one fails. -/
def checkAll (checks : List (FieldRule × Bool)) (record : Record) :
    Except ValidationError Record :=
  checks.foldlM (fun record entry => check entry.1 entry.2 record) record

/-- The field that holds the condition. -/
def conditionField : String := "condition"

/-- Replaces the condition by its canonical name. -/
def canonicalCondition (record : Record) : Except ValidationError Record :=
  match record.get? conditionField with
  | none => .error (.missingField conditionField)
  | some (.string phrase) =>
    .ok (record.insertText conditionField (Condition.ofPhrase phrase).name)
  | some _ => .error (.invalidType conditionField "string")

end Validation

/-- Validates a record for a category. -/
def Category.validate (category : Category) (record : Record) : Except ValidationError Record := do
  let record ← Validation.canonicalCondition record
  Validation.checkAll category.checks record

end ListingAttributes
