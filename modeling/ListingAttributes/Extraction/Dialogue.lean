import ListingAttributes.Generation.Request

/-!
# Dialogues with a backend

An operation that asks a backend is a dialogue: it is done, or it asks one thing and goes on
depending on what the call comes to.  A dialogue says nothing about who answers, so that one
operation can be run over any backend, and several can take turns on one.
-/

namespace ListingAttributes.Extraction

open Generation

/-- What a call comes to within the time allowed for it. -/
inductive CallOutcome where
  | answered (content : String)
  | failed (error : GenerationError)
  /-- The time was up before the call was over. -/
  | overran
  deriving DecidableEq, Repr

namespace CallOutcome

/-- The outcome of a call that was over in time. -/
def ofResult : Except GenerationError Response → CallOutcome
  | .ok response => answered response.content
  | .error error => failed error

/-- The outcome of a call that would take a number of milliseconds and may take another.  A call
that takes all of its time is still over in time. -/
def within (allowed duration : Nat) (result : Except GenerationError Response) : CallOutcome :=
  if duration ≤ allowed then ofResult result else overran

end CallOutcome

/-- An operation that asks a backend. -/
inductive Dialogue (α : Type) where
  | done (result : α)
  | ask (request : Request) (next : CallOutcome → Dialogue α)

/-- A backend, as a dialogue sees it: what a call comes to, and the state after it. -/
abbrev Backend (σ : Type) := Request → σ → CallOutcome × σ

namespace Dialogue

variable {α β σ : Type}

/-- A dialogue whose result is changed. -/
def map (f : α → β) : Dialogue α → Dialogue β
  | done result => done (f result)
  | ask request next => ask request fun outcome => (next outcome).map f

/-- A dialogue that is followed by another one, which depends on its result. -/
def bind (first : Dialogue α) (second : α → Dialogue β) : Dialogue β :=
  match first with
  | done result => second result
  | ask request next => ask request fun outcome => (next outcome).bind second

/-- The result of a dialogue over a backend, and the state after it. -/
def run (backend : Backend σ) : Dialogue α → σ → α × σ
  | done result, state => (result, state)
  | ask request next, state =>
    let (outcome, state) := backend request state
    (next outcome).run backend state

/-- The requests of a dialogue over a backend, in order. -/
def requests (backend : Backend σ) : Dialogue α → σ → List Request
  | done _, _ => []
  | ask request next, state =>
    let (outcome, state) := backend request state
    request :: (next outcome).requests backend state

end Dialogue

end ListingAttributes.Extraction
