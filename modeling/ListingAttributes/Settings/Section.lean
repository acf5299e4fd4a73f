import ListingAttributes.Fields
import ListingAttributes.Text.Quoted
import ListingAttributes.Toml.Reading
import ListingAttributes.Toml.Writing

/-!
# Sections of settings

Settings are kept as TOML.  A section is a table; an array with the settings in order stands for
one too, and what it has beyond them is passed over, like a key that is no setting.

Reading decides only whether every setting is there and of its type.  Whether a setting makes
sense is decided later, and a setting that does not is a `SettingsProblem`.
-/

namespace ListingAttributes.Settings

open Numeric

/-! ## Failures -/

/-- Why settings cannot be loaded or stored. -/
inductive SettingsError where
  /-- The file cannot be read. -/
  | unreadable (path : String)
  /-- The text is no TOML, or states no such settings. -/
  | malformed
  /-- A setting has no written form. -/
  | unwritable
  deriving DecidableEq, Repr

/-- The message of an error.  What is wrong with a text or a file is not said. -/
def SettingsError.message : SettingsError → String
  | unreadable path => "Failed to read " ++ path ++ ": "
  | malformed => "Failed to parse TOML: "
  | unwritable => "Failed to serialize to TOML: "

/-- Why settings make no sense. -/
inductive SettingsProblem where
  | blankModel
  /-- A number that must be positive is zero. -/
  | zero (setting : String)
  /-- An address with another scheme than those of the web. -/
  | notWebAddress (url : String)
  /-- A temperature outside its range. -/
  | temperature (setting : String) (value : Extended binary32)
  /-- A problem in a section. -/
  | inSection (name : String) (problem : SettingsProblem)
  deriving DecidableEq

/-- The message of a problem. -/
def SettingsProblem.message : SettingsProblem → String
  | blankModel => "model must not be empty"
  | zero setting => setting ++ " must be greater than 0"
  | notWebAddress url => "base_url must be an http(s) URL, got " ++ Text.quoted url
  | temperature setting value =>
    setting ++ " must be within [0.0, 2.0], got " ++ String.ofList value.plainText
  | inSection name problem => name ++ ": " ++ problem.message

/-! ## Reading -/

/-- The settings of a section, by name. -/
def fieldsOf? (names : List String) : Toml → Option Toml.Table
  | .table entries => some entries
  | .array items => some (names.zip items)
  | _ => none

/-- A text. -/
def text? : Toml → Option String
  | .string text => some text
  | _ => none

/-- A count of 32 bits. -/
def count32? : Toml → Option UInt32
  | .integer i => if 0 ≤ i ∧ i.toNat < UInt32.size then some (UInt32.ofNat i.toNat) else none
  | _ => none

/-- A count of 64 bits. -/
def count64? : Toml → Option UInt64
  | .integer i => if 0 ≤ i ∧ i.toNat < UInt64.size then some (UInt64.ofNat i.toNat) else none
  | _ => none

/-- A temperature, rounded to single precision. -/
def temperature? : Toml → Option (Extended binary32)
  | .float x => some x.narrow
  | .integer i => (Binary.ofInt? i).map .finite
  | _ => none

/-- The table of a text. -/
def table? (text : List Char) : Except SettingsError Toml :=
  match Toml.parse? text with
  | some table => .ok (.table table)
  | none => .error .malformed

/-- What is read from a text. -/
def ofText {α : Type} (read? : Toml → Option α) (text : List Char) : Except SettingsError α := do
  match read? (← table? text) with
  | some settings => .ok settings
  | none => .error .malformed

/-- The text of settings, if all of them have one. -/
def toText (text? : Option (List Char)) : Except SettingsError (List Char) :=
  match text? with
  | some text => .ok text
  | none => .error .unwritable

/-! ## Times -/

/-- A number of seconds in milliseconds. -/
def milliseconds (seconds : UInt64) : Nat := seconds.toNat * 1000

end ListingAttributes.Settings
