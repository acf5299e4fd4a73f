import ListingAttributes.Numeric.Binary

/-!
# Generation calls

What a backend is asked, what it answers and how a call can fail.  The types are the same for
every backend; what goes over the wire is the business of each adapter.

A temperature or a token budget of zero leaves the choice to the provider.
-/

namespace ListingAttributes.Generation

open Numeric

/-! ## Requests -/

/-- What a backend is to answer with. -/
inductive OutputFormat where
  | text
  | json
  deriving DecidableEq, Repr

/-- The name of a format. -/
def OutputFormat.name : OutputFormat → String
  | text => "text"
  | json => "json"

/-- A single generation call. -/
structure Request where
  /-- The text that the backend continues. -/
  prompt : String
  /-- A message that sets the role of the backend. -/
  system : Option String
  format : OutputFormat
  /-- The sampling temperature. -/
  temperature : Extended binary32
  /-- The greatest number of tokens to answer with. -/
  maxTokens : UInt32
  deriving DecidableEq

/-- Whether a value is a number greater than zero. -/
def isPositive : Extended binary32 → Bool
  | .finite x => !x.negative && !x.isZero
  | .infinite negative => !negative
  | .notANumber => false

namespace Request

/-- Whether the answer must be a JSON object. -/
def wantsJson (request : Request) : Bool := request.format == .json

/-- The temperature that a request states, if it states one. -/
def statedTemperature? (request : Request) : Option (Extended binary32) :=
  if isPositive request.temperature then some request.temperature else none

/-- The token budget that a request states, if it states one. -/
def statedMaxTokens? (request : Request) : Option UInt32 :=
  if 0 < request.maxTokens then some request.maxTokens else none

end Request

/-! ## Responses -/

/-- The sum of two counts, or the greatest count where the sum exceeds it. -/
def saturatingAdd (a b : UInt32) : UInt32 :=
  if a.toNat + b.toNat < UInt32.size then a + b else UInt32.ofNat (UInt32.size - 1)

theorem toNat_saturatingAdd (a b : UInt32) :
    (saturatingAdd a b).toNat = min (a.toNat + b.toNat) (UInt32.size - 1) := by
  unfold saturatingAdd
  split
  · next h =>
    rw [UInt32.toNat_add, Nat.mod_eq_of_lt h]
    omega
  · next h =>
    rw [UInt32.toNat_ofNat_of_lt' (by decide)]
    omega

/-- How many tokens a call took; zero where the provider does not say. -/
structure Usage where
  promptTokens : UInt32
  completionTokens : UInt32
  totalTokens : UInt32
  deriving DecidableEq, Repr

namespace Usage

/-- No tokens. -/
def zero : Usage := ⟨0, 0, 0⟩

/-- The usage of a call with these counts. -/
def ofCounts (promptTokens completionTokens : UInt32) : Usage :=
  ⟨promptTokens, completionTokens, saturatingAdd promptTokens completionTokens⟩

end Usage

/-- The answer to a call. -/
structure Response where
  content : String
  /-- The model that answered, as the provider names it. -/
  model : String
  usage : Usage
  deriving DecidableEq, Repr

/-! ## Failures -/

/-- Why a call has no answer. -/
inductive GenerationError where
  /-- The backend is not configured well enough to ask anything. -/
  | config (reason : String)
  /-- The exchange with the provider failed. -/
  | communication (reason : String)
  /-- The provider refused, with a status and a text of its own. -/
  | provider (status : Nat) (text : String)
  /-- The provider answered in an unexpected form. -/
  | parse (reason : String)
  /-- The provider answered without content. -/
  | emptyResponse
  /-- The caller gave up the call. -/
  | cancelled
  /-- The provider took too long. -/
  | timeout
  deriving DecidableEq, Repr

/-- The message of an error. -/
def GenerationError.message : GenerationError → String
  | config reason => "Configuration error: " ++ reason
  | communication reason => "Communication error: " ++ reason
  | provider status text =>
    "Provider error (HTTP " ++ String.ofList (Nat.toDigits 10 status) ++ "): " ++ text
  | parse reason => "Parse error: " ++ reason
  | emptyResponse => "Empty response from provider"
  | cancelled => "Request cancelled"
  | timeout => "Request timed out"

end ListingAttributes.Generation
