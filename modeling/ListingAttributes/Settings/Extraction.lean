import ListingAttributes.Settings.Section

/-!
# Settings of an extraction

How the two kinds of calls are made, and how long a single call may take.
-/

namespace ListingAttributes.Settings

open Numeric

/-- Settings of an extraction. -/
structure ExtractionSettings where
  classifyMaxTokens : UInt32
  classifyTemperature : Extended binary32
  extractMaxTokens : UInt32
  extractTemperature : Extended binary32
  /-- How long a single call may take, in seconds. -/
  callTimeout : UInt64
  /-- The system message of extractions; the standard one if there is none. -/
  systemMessage : Option String
  deriving DecidableEq

namespace ExtractionSettings

/-- A fraction in single precision. -/
def ratio (num den : Nat) : Extended binary32 :=
  match Binary.ofUnits? false (num * powTwo binary32.fractionBits) den with
  | some x => .finite x
  | none => .infinite false

/-- Balanced settings. -/
def default : ExtractionSettings := ⟨10, ratio 1 10, 1024, ratio 1 10, 120, none⟩

/-- Settings for answers that vary as little as possible, with smaller budgets. -/
def strict : ExtractionSettings := ⟨5, ratio 0 1, 512, ratio 0 1, 30, none⟩

/-! ## TOML -/

/-- The names of the settings, in order. -/
def names : List String :=
  ["classify_max_tokens", "classify_temperature", "extract_max_tokens", "extract_temperature",
   "call_timeout_secs", "extract_system_prompt"]

/-- The settings that a section states. -/
def ofToml? (stated : Toml) : Option ExtractionSettings := do
  let fields ← fieldsOf? names stated
  let classifyMaxTokens ← Fields.required count32? "classify_max_tokens" fields
  let classifyTemperature ← Fields.required temperature? "classify_temperature" fields
  let extractMaxTokens ← Fields.required count32? "extract_max_tokens" fields
  let extractTemperature ← Fields.required temperature? "extract_temperature" fields
  let callTimeout ← Fields.required count64? "call_timeout_secs" fields
  let systemMessage ← Fields.optional text? "extract_system_prompt" fields
  return ⟨classifyMaxTokens, classifyTemperature, extractMaxTokens, extractTemperature,
    callTimeout, systemMessage⟩

/-- The settings that a text states. -/
def ofText (text : List Char) : Except SettingsError ExtractionSettings :=
  Settings.ofText ofToml? text

/-- The settings as a section lists them. -/
def settings (extraction : ExtractionSettings) : List (String × Toml.Setting) :=
  [("classify_max_tokens", .count extraction.classifyMaxTokens.toNat),
   ("classify_temperature", .temperature extraction.classifyTemperature),
   ("extract_max_tokens", .count extraction.extractMaxTokens.toNat),
   ("extract_temperature", .temperature extraction.extractTemperature),
   ("call_timeout_secs", .count extraction.callTimeout.toNat)]
    ++ (match extraction.systemMessage with
        | some text => [("extract_system_prompt", .text text)]
        | none => [])

/-- The text of the settings. -/
def text (extraction : ExtractionSettings) : Except SettingsError (List Char) :=
  toText (Toml.linesText? extraction.settings)

/-! ## Validity -/

/-- Whether a temperature lies between zero and two. -/
def isTemperature : Extended binary32 → Bool
  | .finite x => 0 ≤ x.signedUnits && x.signedUnits ≤ 2 * (powTwo binary32.fractionBits : Int)
  | _ => false

/-- The first thing that is wrong with the settings. -/
def problem? (extraction : ExtractionSettings) : Option SettingsProblem :=
  if extraction.classifyMaxTokens = 0 then some (.zero "classify_max_tokens")
  else if extraction.extractMaxTokens = 0 then some (.zero "extract_max_tokens")
  else if !isTemperature extraction.classifyTemperature then
    some (.temperature "classify_temperature" extraction.classifyTemperature)
  else if !isTemperature extraction.extractTemperature then
    some (.temperature "extract_temperature" extraction.extractTemperature)
  else if extraction.callTimeout = 0 then some (.zero "call_timeout_secs")
  else none

end ExtractionSettings

end ListingAttributes.Settings
