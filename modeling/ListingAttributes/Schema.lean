import ListingAttributes.Category
import ListingAttributes.Numeric.Notation

/-!
# Schemas

What a record of a category must and may state.  A schema lists the rules for required and for
optional fields; the checks of a category are those common to all categories followed by its own,
in the order in which they are made.
-/

namespace ListingAttributes

open Numeric

/-- An inclusive range of numbers; without upper bound if there is none. -/
structure Bounds where
  low : Binary binary64
  high : Option (Binary binary64)
  deriving DecidableEq

namespace Bounds

/-- The double nearest to a fraction of naturals. -/
def ofRatio (num den : Nat) : Binary binary64 :=
  (Binary.ofUnits? false (num * powTwo binary64.fractionBits) den).getD (Binary.zero false)

/-- The range between two natural numbers. -/
def between (low high : Nat) : Bounds := ⟨ofRatio low 1, some (ofRatio high 1)⟩

/-- Whether a number lies in the range. -/
def covers (bounds : Bounds) (x : Binary binary64) : Bool :=
  bounds.low.le x && (match bounds.high with | some high => x.le high | none => true)

/-- The bounds as a message shows them. -/
def text (bounds : Bounds) : List Char :=
  let high := match bounds.high with | some high => high.text plainStyle | none => "inf".toList
  '[' :: bounds.low.text plainStyle ++ ',' :: ' ' :: high ++ [']']

end Bounds

/-- What the value of a field must satisfy. -/
inductive Rule where
  /-- A string with a character that is not blank. -/
  | nonBlank
  /-- One of a fixed set of spellings, case of ASCII letters aside; a number counts as its text. -/
  | oneOf (allowed : List String)
  /-- A number of a range; if `zeroUnset`, a zero states nothing. -/
  | within (bounds : Bounds) (zeroUnset : Bool)
  deriving DecidableEq

/-- A rule and the field it is about. -/
structure FieldRule where
  field : String
  rule : Rule
  deriving DecidableEq

/-- The rules for required and for optional fields. -/
structure Schema where
  required : List FieldRule
  optional : List FieldRule
  deriving DecidableEq

namespace Schema

/-- A number between two naturals. -/
private def between (field : String) (low high : Nat) : FieldRule :=
  ⟨field, .within (.between low high) false⟩

/-- One of a set of spellings. -/
private def oneOf (field : String) (allowed : List String) : FieldRule := ⟨field, .oneOf allowed⟩

/-- A text that is not blank. -/
private def nonBlank (field : String) : FieldRule := ⟨field, .nonBlank⟩

/-- The rules that hold in every category. -/
def common : Schema where
  required := [between "confidence" 0 1]
  optional := [⟨"quantity", .within ⟨Bounds.ofRatio 1 1, none⟩ false⟩]

/-- The rules for memory modules. -/
def ram : Schema where
  required := [between "capacity_gb" 1 1024, oneOf "generation" ["DDR3", "DDR4", "DDR5"]]
  optional := [⟨"speed_mhz", .within (.between 800 8400) true⟩]

/-- The rules for drives. -/
def drive : Schema where
  required := [nonBlank "capacity", oneOf "interface" ["SAS", "SATA", "NVMe", "U.2"]]
  optional := [oneOf "form_factor" ["2.5", "3.5"], oneOf "type" ["SSD", "HDD"]]

/-- The rules for servers. -/
def server : Schema where
  required := [nonBlank "manufacturer", nonBlank "model"]
  optional := [oneOf "form_factor" ["1U", "2U", "4U", "tower"]]

/-- The rules for processors. -/
def cpu : Schema where
  required :=
    [oneOf "manufacturer" ["Intel", "AMD"], oneOf "family" ["Xeon", "EPYC"], nonBlank "model"]
  optional :=
    [between "cores" 1 256,
     ⟨"base_clock_ghz", .within ⟨Bounds.ofRatio 1 2, some (Bounds.ofRatio 6 1)⟩ false⟩,
     between "tdp_watts" 10 500]

/-- The rules for network cards. -/
def nic : Schema where
  required :=
    [oneOf "speed" ["1GbE", "10GbE", "25GbE", "40GbE", "100GbE"], between "port_count" 1 8]
  optional := [oneOf "port_type" ["SFP+", "SFP28", "QSFP+", "QSFP28", "RJ45", "BaseT"]]

/-- The rules of a category beyond the common ones. -/
def ofCategory : Category → Schema
  | .ram => ram
  | .drive => drive
  | .server => server
  | .cpu => cpu
  | .nic => nic
  | .other => ⟨[], []⟩

/-- The checks of a schema in order, each with whether its field is required. -/
def checks (schema : Schema) : List (FieldRule × Bool) :=
  schema.required.map (·, true) ++ schema.optional.map (·, false)

end Schema

/-- The checks of a category in the order in which they are made. -/
def Category.checks (category : Category) : List (FieldRule × Bool) :=
  Schema.common.checks ++ (Schema.ofCategory category).checks

end ListingAttributes
