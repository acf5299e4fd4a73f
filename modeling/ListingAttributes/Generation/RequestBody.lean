import ListingAttributes.Generation.Provider
import ListingAttributes.Generation.Request
import ListingAttributes.Json.Writing

/-!
# Request bodies

What an adapter sends to its provider.  A body has a member for everything that a request states
and none for what it leaves to the provider; only the messages protocol insists on a token budget.

A temperature is written with the fewest digits that identify it in single precision.
-/

namespace ListingAttributes.Generation

open Numeric

/-- A number in a request body. -/
inductive BodyNumber where
  | count (n : UInt32)
  | single (x : Binary binary32)
  deriving DecidableEq

/-- The JSON text of a number. -/
def BodyNumber.text : BodyNumber → List Char
  | count n => digitsOf n.toNat
  | single x => x.text jsonStyle

/-- A request body. -/
abbrev Body := Json BodyNumber

/-- The JSON text of a body. -/
def Body.text (body : Body) : List Char := Json.textWith BodyNumber.text body

namespace Body

/-- A member that is there if its value is. -/
def member (key : String) (value : Option Body) : List (String × Body) :=
  match value with
  | some value => [(key, value)]
  | none => []

/-- A temperature; what is no finite number has no JSON form but null. -/
def temperature : Extended binary32 → Body
  | .finite x => .number (.single x)
  | _ => .null

/-- A token budget. -/
def count (n : UInt32) : Body := .number (.count n)

/-- A message of a conversation. -/
def message (role content : String) : Body :=
  .object [("role", .string role), ("content", .string content)]

/-- The token budget of the messages protocol for a request that states none. -/
def defaultMaxTokens : UInt32 := 1024

/-- The sampling options of a generation server; there is no object without members. -/
def options (request : Request) : Option Body :=
  match
    member "temperature" (request.statedTemperature?.map temperature)
      ++ member "num_predict" (request.statedMaxTokens?.map count)
  with
  | [] => none
  | members => some (.object members)

/-- The body for a local generation server, which is told not to stream. -/
def ollama (model : String) (request : Request) : Body :=
  .object <|
    [("model", .string model), ("prompt", .string request.prompt)]
      ++ member "system" (request.system.map .string)
      ++ member "format" (if request.wantsJson then some (.string "json") else none)
      ++ [("stream", .bool false)]
      ++ member "options" (options request)

/-- The body for a messages service, which has no JSON mode. -/
def anthropic (model : String) (request : Request) : Body :=
  .object <|
    [("model", .string model),
     ("max_tokens", count (request.statedMaxTokens?.getD defaultMaxTokens))]
      ++ member "system" (request.system.map .string)
      ++ [("messages", .array [message "user" request.prompt])]
      ++ member "temperature" (request.statedTemperature?.map temperature)

/-- The messages of a chat: the system message first, if there is one. -/
def chat (request : Request) : List Body :=
  match request.system with
  | some system => [message "system" system, message "user" request.prompt]
  | none => [message "user" request.prompt]

/-- The body for a chat-completions service. -/
def openAi (model : String) (request : Request) : Body :=
  .object <|
    [("model", .string model), ("messages", .array (chat request))]
      ++ member "temperature" (request.statedTemperature?.map temperature)
      ++ member "max_tokens" (request.statedMaxTokens?.map count)
      ++ member "response_format"
        (if request.wantsJson then some (.object [("type", .string "json_object")]) else none)

/-- The body for a provider. -/
def ofRequest : Provider → String → Request → Body
  | .ollama => ollama
  | .anthropic => anthropic
  | .openAi => openAi

end Body

end ListingAttributes.Generation
