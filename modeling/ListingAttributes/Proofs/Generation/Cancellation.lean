import ListingAttributes.Proofs.Generation.Calls

/-!
# Giving up a call

A caller may give a call up at any moment, and the call is looked at from time
to time; an `Attempt` is a call together with whether it was given up, and it
goes on event by event.  Where the call stands when it is given up decides.

* `Attempt.call_run_of_cancelled`: a call that has not ended ends as cancelled
  at the next look, and until then nothing happens to it;
* `Attempt.call_run_of_finished`: a call that has ended keeps its result;
* `Attempt.exists_arrival_of_run`: and that is what its exchange led to, if it
  was not given up before.
-/

namespace ListingAttributes.Generation

/-- What can happen to a call: its caller gives it up, or it is looked at, when its exchange may
have ended. -/
inductive Event where
  | cancel
  | look (arrived : Option Exchange)

namespace Event

/-- Whether the call is looked at. -/
def isLook : Event → Bool
  | cancel => false
  | look _ => true

end Event

/-- A call, and whether its caller has given it up. -/
structure Attempt where
  cancelled : Bool
  call : Call

namespace Attempt

variable {adapter : Adapter} {request : Request}

/-- A call that was not started, by a caller who has not given it up. -/
def start : Attempt := ⟨false, .notStarted⟩

/-- An attempt after an event.  Once given up, a call stays given up. -/
def step (adapter : Adapter) (request : Request) (attempt : Attempt) : Event → Attempt
  | .cancel => { attempt with cancelled := true }
  | .look arrived =>
    { attempt with call := attempt.call.step adapter request ⟨attempt.cancelled, arrived⟩ }

/-- An attempt after a number of events. -/
def run (adapter : Adapter) (request : Request) (attempt : Attempt) (events : List Event) :
    Attempt :=
  events.foldl (step adapter request) attempt

@[simp] theorem run_nil (attempt : Attempt) : attempt.run adapter request [] = attempt := rfl

@[simp] theorem run_cons (attempt : Attempt) (event : Event) (events : List Event) :
    attempt.run adapter request (event :: events) =
      (attempt.step adapter request event).run adapter request events := rfl

theorem run_append (attempt : Attempt) (early late : List Event) :
    attempt.run adapter request (early ++ late) =
      (attempt.run adapter request early).run adapter request late :=
  List.foldl_append

/-! ### Calls that have ended -/

theorem call_run_of_finished {attempt : Attempt} {result : Except GenerationError Response}
    (hcall : attempt.call = .finished result) (events : List Event) :
    (attempt.run adapter request events).call = .finished result := by
  induction events generalizing attempt with
  | nil => exact hcall
  | cons event events ih =>
      apply ih
      cases event with
      | cancel => exact hcall
      | look arrived => simp only [step, hcall, Call.step_finished]

/-! ### Calls that were given up -/

/-- **A call that was given up before it ended** stays as it is until it is looked at, and then it
ends as cancelled: nothing is sent any more, and nothing that arrives counts. -/
theorem call_run_of_cancelled (husable : adapter.Usable) {attempt : Attempt}
    (hcancelled : attempt.cancelled = true) (hcall : attempt.call.result? = none)
    (events : List Event) :
    (attempt.run adapter request events).call =
      if events.any Event.isLook then .finished (.error .cancelled) else attempt.call := by
  induction events generalizing attempt with
  | nil => rfl
  | cons event events ih =>
      cases event with
      | cancel => exact ih rfl hcall
      | look arrived =>
          have hended : (attempt.step adapter request (.look arrived)).call =
              .finished (.error .cancelled) := by
            rw [step, hcancelled]
            exact Call.step_of_cancelled husable hcall arrived
          rw [run_cons, call_run_of_finished hended]
          rfl

/-! ### Calls that were not given up -/

/-- A call under way that ends without being given up has found its exchange ended. -/
theorem exists_arrival_of_inFlight {sent : HttpRequest} {events : List Event}
    {result : Except GenerationError Response} (hkept : .cancel ∉ events)
    (hresult : (run adapter request ⟨false, .inFlight sent⟩ events).call = .finished result) :
    ∃ early exchange late, events = early ++ .look (some exchange) :: late ∧
      (run adapter request ⟨false, .inFlight sent⟩ early).call = .inFlight sent ∧
      result = adapter.conclude exchange := by
  induction events with
  | nil => cases hresult
  | cons event events ih =>
      rw [List.mem_cons, not_or] at hkept
      cases event with
      | cancel => exact absurd rfl hkept.1
      | look arrived =>
          cases arrived with
          | none =>
              -- nothing was seen, so the end of the exchange lies among the later events
              obtain ⟨early, exchange, late, rfl, hcall, hconclude⟩ := ih hkept.2 hresult
              exact ⟨.look none :: early, exchange, late, rfl, hcall, hconclude⟩
          | some exchange =>
              have hended : (run adapter request ⟨false, .inFlight sent⟩
                  (.look (some exchange) :: events)).call =
                    .finished (adapter.conclude exchange) :=
                call_run_of_finished rfl events
              rw [hended, Call.finished.injEq] at hresult
              exact ⟨[], exchange, events, rfl, rfl, hresult.symm⟩

/-- **A call that ends without being given up** has sent its request, and its result is what the
exchange led to. -/
theorem exists_arrival_of_run (husable : adapter.Usable) {events : List Event}
    {result : Except GenerationError Response} (hkept : .cancel ∉ events)
    (hresult : (start.run adapter request events).call = .finished result) :
    ∃ early exchange late, events = early ++ .look (some exchange) :: late ∧
      (start.run adapter request early).call = .inFlight (adapter.httpRequest request) ∧
      result = adapter.conclude exchange := by
  cases events with
  | nil => cases hresult
  | cons event events =>
      rw [List.mem_cons, not_or] at hkept
      cases event with
      | cancel => exact absurd rfl hkept.1
      | look arrived =>
          have hstart : start.step adapter request (.look arrived) =
              ⟨false, .inFlight (adapter.httpRequest request)⟩ := by
            rw [step, start, Call.step_notStarted husable]
          rw [run_cons, hstart] at hresult
          obtain ⟨early, exchange, late, rfl, hcall, hconclude⟩ :=
            exists_arrival_of_inFlight hkept.2 hresult
          refine ⟨.look arrived :: early, exchange, late, rfl, ?_, hconclude⟩
          rw [run_cons, hstart, hcall]

end Attempt

end ListingAttributes.Generation
