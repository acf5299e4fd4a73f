import ListingAttributes.Generation.Envelope
import ListingAttributes.Generation.RequestBody

/-!
# Adapters

An adapter asks a provider over HTTP.  A call is one exchange: a request is sent once, and what
comes back decides the result.  The caller may give a call up at any time.  Whenever a call is
looked at, that is asked first: a call given up before it was sent is never sent, and one given up
while it was under way ends as cancelled even if the answer has just arrived.
-/

namespace ListingAttributes.Generation

/-! ## Requests -/

/-- An HTTP request with a JSON body. -/
structure HttpRequest where
  url : String
  /-- The headers besides the type of the body. -/
  headers : List (String × String)
  body : Body

/-- What an exchange ends with. -/
inductive Exchange where
  | answered (status : Nat) (body : String)
  | timedOut
  | failed (reason : String)

/-- An adapter for a provider.  An empty key is no key. -/
structure Adapter where
  provider : Provider
  baseUrl : String
  model : String
  key : String
  version : String
  deriving DecidableEq, Repr

namespace Adapter

/-- A text without the characters of one kind that it ends with. -/
def dropTrailing (c : Char) (text : String) : String :=
  String.ofList (text.toList.reverse.dropWhile (· == c)).reverse

/-- The adapter for a provider at an address; slashes at its end do not count. -/
def atUrl (provider : Provider) (url model : String) : Adapter :=
  ⟨provider, dropTrailing '/' url, model, "", defaultMessagesVersion⟩

/-- The adapter for a provider at its own address. -/
def standard (provider : Provider) (model : String) : Adapter :=
  atUrl provider provider.defaultUrl model

/-- The same adapter at another address. -/
def withUrl (adapter : Adapter) (url : String) : Adapter :=
  { adapter with baseUrl := dropTrailing '/' url }

/-- The same adapter with a key. -/
def withKey (adapter : Adapter) (key : String) : Adapter := { adapter with key }

/-- The same adapter with another version of the messages protocol. -/
def withVersion (adapter : Adapter) (version : String) : Adapter := { adapter with version }

/-- The address that requests go to. -/
def url (adapter : Adapter) : String := adapter.baseUrl ++ adapter.provider.path

/-- The headers that identify the caller, as far as the provider asks for them. -/
def headers (adapter : Adapter) : List (String × String) :=
  match adapter.provider with
  | .ollama => []
  | .anthropic => [("x-api-key", adapter.key), ("anthropic-version", adapter.version)]
  | .openAi => if adapter.key = "" then [] else [("authorization", "Bearer " ++ adapter.key)]

/-- The HTTP request for a generation call. -/
def httpRequest (adapter : Adapter) (request : Request) : HttpRequest :=
  ⟨adapter.url, adapter.headers, Body.ofRequest adapter.provider adapter.model request⟩

/-- Why an adapter can send nothing: a messages service needs a key. -/
def obstacle? (adapter : Adapter) : Option GenerationError :=
  if adapter.provider = .anthropic ∧ adapter.key = "" then
    some (.config "anthropic API key is not set (pass one or export ANTHROPIC_API_KEY)")
  else none

/-- The result that an exchange leads to. -/
def conclude (adapter : Adapter) : Exchange → Except GenerationError Response
  | .timedOut => .error .timeout
  | .failed reason => .error (.communication ("Request failed: " ++ reason))
  | .answered status body =>
    if 200 ≤ status ∧ status < 300 then decodeBody adapter.provider body
    else .error (.provider status (errorText body))

end Adapter

/-! ## Calls -/

/-- How far a call has come. -/
inductive Call where
  | notStarted
  | inFlight (sent : HttpRequest)
  | finished (result : Except GenerationError Response)

/-- What can be seen when a call is looked at: whether it was given up, and the end of the
exchange if it has ended. -/
structure Sighting where
  cancelled : Bool
  arrived : Option Exchange

namespace Call

/-- A call after it was looked at. -/
def step (adapter : Adapter) (request : Request) : Call → Sighting → Call
  | notStarted, sighting =>
    match adapter.obstacle? with
    | some error => finished (.error error)
    | none =>
      if sighting.cancelled then finished (.error .cancelled)
      else inFlight (adapter.httpRequest request)
  | inFlight sent, sighting =>
    if sighting.cancelled then finished (.error .cancelled)
    else
      match sighting.arrived with
      | some exchange => finished (adapter.conclude exchange)
      | none => inFlight sent
  | finished result, _ => finished result

/-- A call after it was looked at a number of times. -/
def run (adapter : Adapter) (request : Request) (call : Call) (sightings : List Sighting) : Call :=
  sightings.foldl (step adapter request) call

/-- The request that a call has under way. -/
def sent? : Call → Option HttpRequest
  | inFlight sent => some sent
  | _ => none

/-- The result of a call that has ended. -/
def result? : Call → Option (Except GenerationError Response)
  | finished result => some result
  | _ => none

end Call

end ListingAttributes.Generation
