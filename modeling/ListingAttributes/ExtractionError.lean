import ListingAttributes.Generation.Request
import ListingAttributes.Reply
import ListingAttributes.Validation

/-!
# Failures of an extraction

A failure is a cause inside any number of stages: rendering a prompt, classifying, extracting.
The message of a failure names the stages from the outermost to the innermost and then the cause.
-/

namespace ListingAttributes

open Generation

/-- Why a listing was not classified or extracted. -/
inductive ExtractionError where
  /-- The category has no template. -/
  | unsupportedCategory (category : Category)
  /-- The classification is none of the categories. -/
  | invalidCategory (answer : String)
  /-- The reply holds no record. -/
  | parse (reason : String)
  /-- The backend failed. -/
  | generation (error : GenerationError)
  /-- A call took longer than the given number of seconds. -/
  | timeout (seconds : UInt64)
  /-- The prompt of a category could not be rendered. -/
  | rendering (category : Category) (source : ExtractionError)
  /-- The record does not fit its category. -/
  | validating (error : ValidationError)
  /-- The classification of a combined run failed. -/
  | classifying (source : ExtractionError)
  /-- The extraction of a combined run failed, with the category that it was for. -/
  | extracting (category : Category) (source : ExtractionError)
  /-- The configuration is invalid. -/
  | config (reason : String)
  deriving DecidableEq

namespace ExtractionError

/-- The message of an error. -/
def message : ExtractionError → String
  | unsupportedCategory category => "unsupported category: " ++ category.name
  | invalidCategory answer => "invalid category from classifier: " ++ Text.quoted answer
  | parse reason => "parsing extraction response: " ++ reason
  | generation error => error.message
  | timeout seconds =>
    "backend call timed out after " ++ String.ofList (Nat.toDigits 10 seconds.toNat) ++ "s"
  | rendering category source => "rendering " ++ category.name ++ " prompt: " ++ source.message
  | validating error => "validating extraction: " ++ error.message
  | classifying source => "classifying: " ++ source.message
  | extracting _ source => "extracting: " ++ source.message
  | config reason => "Configuration error: " ++ reason

/-- The cause inside all stages. -/
def root : ExtractionError → ExtractionError
  | rendering _ source => source.root
  | classifying source => source.root
  | extracting _ source => source.root
  | error => error

/-- The category that a combined run had found before it failed. -/
def category? : ExtractionError → Option Category
  | extracting category _ => some category
  | _ => none

/-- Whether the caller gave up the run. -/
def isCancelled (error : ExtractionError) : Bool :=
  match error.root with
  | generation .cancelled => true
  | _ => false

end ExtractionError

end ListingAttributes
