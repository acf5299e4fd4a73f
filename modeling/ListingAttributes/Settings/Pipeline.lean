import ListingAttributes.Settings.Backend
import ListingAttributes.Settings.Extraction

/-!
# Settings of a pipeline

A backend and an extraction, each in a section of its own.  A section that is missing has its
default settings; one that is there must be complete.
-/

namespace ListingAttributes.Settings

/-- Settings of a pipeline. -/
structure PipelineSettings where
  backend : BackendSettings
  extraction : ExtractionSettings
  deriving DecidableEq

namespace PipelineSettings

/-- The name of the section of the backend. -/
def backendSection : String := "backend"

/-- The name of the section of the extraction. -/
def extractionSection : String := "extractor"

/-- The settings that a table states. -/
def ofToml? (table : Toml) : Option PipelineSettings := do
  let fields ← fieldsOf? [backendSection, extractionSection] table
  let backend ← Fields.withDefault BackendSettings.ofToml? .default backendSection fields
  let extraction ←
    Fields.withDefault ExtractionSettings.ofToml? .default extractionSection fields
  return ⟨backend, extraction⟩

/-- The settings that a text states. -/
def ofText (text : List Char) : Except SettingsError PipelineSettings :=
  Settings.ofText ofToml? text

/-- The settings of a file, given what it contains if it can be read. -/
def load (path : String) (contents : Option (List Char)) :
    Except SettingsError PipelineSettings :=
  match contents with
  | some text => ofText text
  | none => .error (.unreadable path)

/-- The text of the settings, with a blank line between the sections. -/
def text (pipeline : PipelineSettings) : Except SettingsError (List Char) :=
  toText do
    let backend ← Toml.linesText? pipeline.backend.settings
    let extraction ← Toml.linesText? pipeline.extraction.settings
    return Toml.headerText backendSection ++ backend ++ '\n' :: Toml.headerText extractionSection
      ++ extraction

/-- The first thing that is wrong with the settings. -/
def problem? (pipeline : PipelineSettings) : Option SettingsProblem :=
  match pipeline.backend.problem? with
  | some problem => some (.inSection backendSection problem)
  | none => pipeline.extraction.problem?.map (.inSection extractionSection)

end PipelineSettings

end ListingAttributes.Settings
