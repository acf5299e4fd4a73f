import ListingAttributes.Extraction.Dialogue
import ListingAttributes.ExtractionError
import ListingAttributes.MemorySpeed
import ListingAttributes.Prompt
import ListingAttributes.Settings.Extraction

/-!
# Classifying and extracting

The operations on a listing.  Classifying asks for the category of a title; extracting asks for the
attributes of a listing of a known category, reads the reply, validates the record and fills in the
speed of a memory module from the title.  The combined run does one after the other.
-/

namespace ListingAttributes.Extraction

open Generation Settings

/-! ## Requests -/

/-- The request that classifies a title. -/
def classificationRequest (settings : ExtractionSettings) (title : String) : Request :=
  ⟨String.ofList (Prompt.classification title.toList), none, .text,
    settings.classifyTemperature, settings.classifyMaxTokens⟩

/-- The request that a rendered prompt is extracted with. -/
def extractionRequest (settings : ExtractionSettings) (prompt : List Char) : Request :=
  ⟨String.ofList prompt, some (settings.systemMessage.getD Prompt.systemMessage), .json,
    settings.extractTemperature, settings.extractMaxTokens⟩

/-! ## Replies -/

/-- The category that an answer names. -/
def categoryOfAnswer (answer : String) : Except ExtractionError Category :=
  match Category.parse? answer with
  | some category => .ok category
  | none => .error (.invalidCategory answer)

/-- The record that a reply holds, validated; of a memory module, with the speed that the title
states if the reply states none. -/
def recordOfReply (category : Category) (title reply : String) : Except ExtractionError Record :=
  match Reply.parse reply.toList with
  | .error error => .error (.parse error.message)
  | .ok record =>
    match category.validate record with
    | .error error => .error (.validating error)
    | .ok record =>
      .ok (if category = .ram then MemorySpeed.recover title.toList record else record)

/-! ## Operations -/

/-- Asks for content and goes on with it.  A call without content ends the operation. -/
def ask {α : Type} (settings : ExtractionSettings) (request : Request)
    (use : String → Except ExtractionError α) : Dialogue (Except ExtractionError α) :=
  .ask request fun outcome =>
    match outcome with
    | .answered content => .done (use content)
    | .failed error => .done (.error (.generation error))
    | .overran => .done (.error (.timeout settings.callTimeout))

/-- Asks for the category of a title. -/
def classify (settings : ExtractionSettings) (title : String) :
    Dialogue (Except ExtractionError Category) :=
  ask settings (classificationRequest settings title) categoryOfAnswer

/-- Asks for the attributes of a listing of a category with a rendered prompt.  Nothing is asked if
there is none. -/
def askAttributes (settings : ExtractionSettings) (category : Category) (title : String)
    (prompt? : Option (List Char)) : Dialogue (Except ExtractionError Record) :=
  match prompt? with
  | none => .done (.error (.rendering category (.unsupportedCategory category)))
  | some prompt => ask settings (extractionRequest settings prompt) (recordOfReply category title)

/-- Asks for the attributes of a listing of a category. -/
def extract (settings : ExtractionSettings) (category : Category) (title : String)
    (specifics : Specifics) : Dialogue (Except ExtractionError Record) :=
  askAttributes settings category title
    (Prompt.extraction? category title.toList specifics "".toList)

/-- Asks for the attributes of a listing of a category, with its description.  Only servers have
theirs extracted with it. -/
def extractWithDescription (settings : ExtractionSettings) (category : Category) (title : String)
    (specifics : Specifics) (description : String) : Dialogue (Except ExtractionError Record) :=
  askAttributes settings category title <|
    match category with
    | .server => Prompt.extraction? .server title.toList specifics description.toList
    | category => Prompt.extraction? category title.toList specifics "".toList

/-- The extraction that follows a classification. -/
def extractClassified (settings : ExtractionSettings) (title : String) (specifics : Specifics)
    (classified : Except ExtractionError Category) :
    Dialogue (Except ExtractionError (Category × Record)) :=
  match classified with
  | .error error => .done (.error (.classifying error))
  | .ok category =>
    (extract settings category title specifics).map fun extracted =>
      match extracted with
      | .ok record => .ok (category, record)
      | .error error => .error (.extracting category error)

/-- Asks for the category of a listing and then for its attributes. -/
def classifyAndExtract (settings : ExtractionSettings) (title : String) (specifics : Specifics) :
    Dialogue (Except ExtractionError (Category × Record)) :=
  (classify settings title).bind (extractClassified settings title specifics)

end ListingAttributes.Extraction
