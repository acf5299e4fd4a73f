import ListingAttributes.Fields
import ListingAttributes.Generation.Provider
import ListingAttributes.Generation.Request
import ListingAttributes.Json.Reading

/-!
# Response envelopes

What a provider wraps a generated text in.  A structure is an object, whose unknown members are
passed over whatever they hold, or an array with the known fields in order.  A known field occurs
at most once and must be of its type; null counts only where a value may be missing.

An error body has a structure of its own; a body without it is its own error text.
-/

namespace ListingAttributes.Generation

open Json

/-! ## Structures -/

/-- The known members of an object, by name.  Every key must be a text, known or not. -/
def knownMembers? (names : List String) :
    List (List Piece × Document) → Option (List (String × Document))
  | [] => some []
  | (key, value) :: members => do
    let key ← textOf? key
    let fields ← knownMembers? names members
    if names.contains key then
      match lookup key fields with
      | some _ => none
      | none => some ((key, value) :: fields)
    else some fields

/-- The fields of a structure, by name in an object and by place in an array. -/
def fieldsOf? (names : List String) : Document → Option (List (String × Document))
  | .object members => knownMembers? names members
  | .array items => if items.length ≤ names.length then some (names.zip items) else none
  | _ => none

/-- A text. -/
def text? : Document → Option String
  | .string pieces => textOf? pieces
  | _ => none

/-- A count of 32 bits. -/
def count? : Document → Option UInt32
  | .number literal =>
    (integerOf? literal).bind fun i =>
      if 0 ≤ i.value ∧ i.value.toNat < UInt32.size then some (UInt32.ofNat i.value.toNat) else none
  | _ => none

/-- A value that may be null. -/
def nullable? {α : Type} (read? : Document → Option α) : Document → Option (Option α)
  | .null => some none
  | document => (read? document).map some

/-- The items of an array. -/
def items? {α : Type} (read? : Document → Option α) : Document → Option (List α)
  | .array items => items.mapM read?
  | _ => none

/-! ## Envelopes -/

/-- What is taken from a response: the generated text, unless the provider sent no items to take
it from, the model and the usage. -/
structure Envelope where
  content : Option String
  model : String
  usage : Usage
  deriving DecidableEq

namespace Envelope

open Fields

/-- The envelope of a local generation server. -/
def ollama? (document : Document) : Option Envelope := do
  let fields ← fieldsOf? ["model", "response", "prompt_eval_count", "eval_count"] document
  let model ← withDefault text? "" "model" fields
  let content ← required text? "response" fields
  let promptTokens ← withDefault count? 0 "prompt_eval_count" fields
  let completionTokens ← withDefault count? 0 "eval_count" fields
  return ⟨some content, model, Usage.ofCounts promptTokens completionTokens⟩

/-- A block of a messages service: its type and its text. -/
def block? (document : Document) : Option (String × String) := do
  let fields ← fieldsOf? ["type", "text"] document
  let kind ← required text? "type" fields
  let text ← withDefault text? "" "text" fields
  return (kind, text)

/-- The usage that a messages service reports. -/
def messagesUsage? (document : Document) : Option Usage := do
  let fields ← fieldsOf? ["input_tokens", "output_tokens"] document
  let promptTokens ← withDefault count? 0 "input_tokens" fields
  let completionTokens ← withDefault count? 0 "output_tokens" fields
  return Usage.ofCounts promptTokens completionTokens

/-- The texts of the blocks of type text, one after the other. -/
def textOfBlocks : List (String × String) → String
  | [] => ""
  | (kind, text) :: blocks =>
    if kind = "text" then text ++ textOfBlocks blocks else textOfBlocks blocks

/-- The envelope of a messages service. -/
def anthropic? (document : Document) : Option Envelope := do
  let fields ← fieldsOf? ["content", "model", "usage"] document
  let blocks ← withDefault (items? block?) [] "content" fields
  let model ← withDefault text? "" "model" fields
  let usage ← withDefault (nullable? messagesUsage?) none "usage" fields
  let content := if blocks = [] then none else some (textOfBlocks blocks)
  return ⟨content, model, usage.getD Usage.zero⟩

/-- A message of a chat-completions service; null stands for an empty one. -/
def chatMessage? (document : Document) : Option String := do
  let fields ← fieldsOf? ["content"] document
  let content ← withDefault (nullable? text?) none "content" fields
  return content.getD ""

/-- A choice of a chat-completions service. -/
def choice? (document : Document) : Option String := do
  let fields ← fieldsOf? ["message"] document
  required chatMessage? "message" fields

/-- The usage that a chat-completions service reports, its total included. -/
def chatUsage? (document : Document) : Option Usage := do
  let fields ← fieldsOf? ["prompt_tokens", "completion_tokens", "total_tokens"] document
  let promptTokens ← withDefault count? 0 "prompt_tokens" fields
  let completionTokens ← withDefault count? 0 "completion_tokens" fields
  let totalTokens ← withDefault count? 0 "total_tokens" fields
  return ⟨promptTokens, completionTokens, totalTokens⟩

/-- The envelope of a chat-completions service, of which the first choice counts. -/
def openAi? (document : Document) : Option Envelope := do
  let fields ← fieldsOf? ["choices", "model", "usage"] document
  let choices ← withDefault (items? choice?) [] "choices" fields
  let model ← withDefault text? "" "model" fields
  let usage ← withDefault (nullable? chatUsage?) none "usage" fields
  return ⟨choices.head?, model, usage.getD Usage.zero⟩

/-- The envelope of a provider. -/
def ofDocument? : Provider → Document → Option Envelope
  | .ollama => ollama?
  | .anthropic => anthropic?
  | .openAi => openAi?

/-- The response to a call that an envelope holds. -/
def response (envelope : Envelope) : Except GenerationError Response :=
  match envelope.content with
  | some content => .ok ⟨content, envelope.model, envelope.usage⟩
  | none => .error .emptyResponse

end Envelope

/-- The response that the body of a success holds. -/
def decodeBody (provider : Provider) (body : String) : Except GenerationError Response :=
  match (Document.parse? body.toList).bind (Envelope.ofDocument? provider) with
  | some envelope => envelope.response
  | none => .error (.parse (provider.name ++ " response: "))

/-! ## Errors -/

/-- The type and the message of a structured error; an array must have both. -/
def errorDetail? (document : Document) : Option (Option String × Option String) := do
  let fields ← fieldsOf? ["type", "message"] document
  let complete :=
    match document with
    | .array items => items.length == 2
    | _ => true
  if complete then
    let kind ← Fields.withDefault (nullable? text?) none "type" fields
    let message ← Fields.withDefault (nullable? text?) none "message" fields
    return (kind, message)
  else none

/-- The detail of an error body, if it has the structure of one. -/
def errorBody? (body : String) : Option (Option String × Option String) := do
  let document ← Document.parse? body.toList
  let fields ← fieldsOf? ["error"] document
  Fields.required errorDetail? "error" fields

/-- The text of an error body: its type and its message, as far as it states them, or all of it. -/
def errorText (body : String) : String :=
  match errorBody? body with
  | some (some kind, some message) => kind ++ ": " ++ message
  | some (none, some message) => message
  | some (some kind, none) => kind
  | _ => body

end ListingAttributes.Generation
