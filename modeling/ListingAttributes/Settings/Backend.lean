import ListingAttributes.Generation.Adapter
import ListingAttributes.Settings.Section
import ListingAttributes.Text.Blank

/-!
# Settings of a backend

Which provider is asked, where it is and how the caller identifies itself.  The key is never
shown.
-/

namespace ListingAttributes.Settings

open Generation

/-- Settings of a backend. -/
structure BackendSettings where
  provider : Provider
  model : String
  /-- The address of the provider; its own if there is none. -/
  baseUrl : Option String
  /-- The key; the one from the environment if there is none. -/
  key : Option String
  /-- How long a request may take, in seconds. -/
  timeout : UInt64
  /-- The version of the messages protocol. -/
  version : Option String
  deriving DecidableEq, Repr

namespace BackendSettings

/-- How long a request may take unless the settings say otherwise. -/
def defaultTimeout : UInt64 := 60

/-- A local generation server with a small model. -/
def default : BackendSettings := ⟨.ollama, "llama3.1:8b", none, none, defaultTimeout, none⟩

/-! ## TOML -/

/-- The names of the settings, in order. -/
def names : List String :=
  ["kind", "model", "base_url", "api_key", "timeout_secs", "anthropic_version"]

/-- A provider: its name, or a table whose one key is its name and whose value is empty. -/
def provider? : Toml → Option Provider
  | .string name => Provider.ofName? name
  | .table [(name, .table [])] => Provider.ofName? name
  | .table [(name, .array [])] => Provider.ofName? name
  | _ => none

/-- The settings that a section states. -/
def ofToml? (stated : Toml) : Option BackendSettings := do
  let fields ← fieldsOf? names stated
  let provider ← Fields.withDefault provider? .ollama "kind" fields
  let model ← Fields.required text? "model" fields
  let baseUrl ← Fields.optional text? "base_url" fields
  let key ← Fields.optional text? "api_key" fields
  let timeout ← Fields.withDefault count64? defaultTimeout "timeout_secs" fields
  let version ← Fields.optional text? "anthropic_version" fields
  return ⟨provider, model, baseUrl, key, timeout, version⟩

/-- The settings that a text states. -/
def ofText (text : List Char) : Except SettingsError BackendSettings := Settings.ofText ofToml? text

/-- A setting that is written if it has a value. -/
def optionalText (name : String) (value : Option String) : List (String × Toml.Setting) :=
  match value with
  | some text => [(name, .text text)]
  | none => []

/-- The settings as a section lists them. -/
def settings (backend : BackendSettings) : List (String × Toml.Setting) :=
  [("kind", .text backend.provider.name), ("model", .text backend.model)]
    ++ optionalText "base_url" backend.baseUrl
    ++ optionalText "api_key" backend.key
    ++ [("timeout_secs", .count backend.timeout.toNat)]
    ++ optionalText "anthropic_version" backend.version

/-- The text of the settings. -/
def text (backend : BackendSettings) : Except SettingsError (List Char) :=
  toText (Toml.linesText? backend.settings)

/-! ## Validity -/

/-- Whether a text starts like an address of the web. -/
def isWebAddress (url : String) : Bool :=
  "http://".toList.isPrefixOf url.toList || "https://".toList.isPrefixOf url.toList

/-- The first thing that is wrong with the settings. -/
def problem? (backend : BackendSettings) : Option SettingsProblem :=
  if Text.trim backend.model.toList = [] then some .blankModel
  else if backend.timeout = 0 then some (.zero "timeout_secs")
  else
    match backend.baseUrl with
    | some url => if isWebAddress url then none else some (.notWebAddress url)
    | none => none

/-! ## Adapters -/

/-- The key that is in use, given the variables of the environment. -/
def resolvedKey (backend : BackendSettings) (environment : String → Option String) : String :=
  (backend.key <|> backend.provider.keyVariable?.bind environment).getD ""

/-- The adapter that settings without a problem stand for. -/
def adapter (backend : BackendSettings) (environment : String → Option String) : Adapter :=
  let adapter := Adapter.atUrl backend.provider
    (backend.baseUrl.getD backend.provider.defaultUrl) backend.model
  (adapter.withKey (backend.resolvedKey environment)).withVersion
    (backend.version.getD defaultMessagesVersion)

/-- The adapter of the settings, if nothing is wrong with them. -/
def build (backend : BackendSettings) (environment : String → Option String) :
    Except GenerationError Adapter :=
  match backend.problem? with
  | some problem => .error (.config problem.message)
  | none => .ok (backend.adapter environment)

/-! ## Display -/

/-- A value that may be missing. -/
def shownOption (value : Option String) : String :=
  match value with
  | some text => "Some(" ++ Text.quoted text ++ ")"
  | none => "None"

/-- The name that a provider is shown by. -/
def shownProvider : Provider → String
  | .ollama => "Ollama"
  | .anthropic => "Anthropic"
  | .openAi => "OpenAi"

/-- The settings on one line, with a mark in place of the key. -/
def shown (backend : BackendSettings) : String :=
  "BackendConfig \x7b kind: " ++ shownProvider backend.provider
    ++ ", model: " ++ Text.quoted backend.model
    ++ ", base_url: " ++ shownOption backend.baseUrl
    ++ ", api_key: " ++ shownOption (backend.key.map fun _ => "[REDACTED]")
    ++ ", timeout_secs: " ++ String.ofList (Nat.toDigits 10 backend.timeout.toNat)
    ++ ", anthropic_version: " ++ shownOption backend.version ++ " \x7d"

end BackendSettings

end ListingAttributes.Settings
