import ListingAttributes.Extraction.Backends
import ListingAttributes.Proofs.Extraction.Exchanges
import ListingAttributes.Proofs.Generation.Cancellation

/-!
# Runs event by event

A run over an adapter as its caller sees it: the dialogue that is left, and the
attempt at its next request (`Progress`).  Whatever happens goes to that
attempt, and when the call has ended the dialogue goes on with what it came to.

* `Progress.run_ask`: a run either waits for a call or has gone on from it;
* `Progress.run_cancel`: a run that is given up while it waits goes on with a
  call that was cancelled;
* `Progress.exists_events_of_run`: every run over an adapter whose calls end in
  time goes on in this way, if its caller does not take giving up back.
-/

namespace ListingAttributes.Extraction

open Generation

/-- What is left of a dialogue, and how far its next request has come. -/
structure Progress (α : Type) where
  dialogue : Dialogue α
  attempt : Attempt

namespace Progress

variable {α : Type} {adapter : Adapter}

/-- A dialogue of which nothing was asked yet. -/
def start (dialogue : Dialogue α) : Progress α := ⟨dialogue, .start⟩

/-- The result of a dialogue that is done. -/
def result? (progress : Progress α) : Option α :=
  match progress.dialogue with
  | .done result => some result
  | .ask _ _ => none

/-- A run after an event.  The next call is given up already if the last one was. -/
def step (adapter : Adapter) (progress : Progress α) (event : Event) : Progress α :=
  match progress.dialogue with
  | .done _ => progress
  | .ask request next =>
    let attempt := progress.attempt.step adapter request event
    match attempt.call.result? with
    | none => { progress with attempt }
    | some result => ⟨next (.ofResult result), ⟨attempt.cancelled, .notStarted⟩⟩

/-- A run after a number of events. -/
def run (adapter : Adapter) (progress : Progress α) (events : List Event) : Progress α :=
  events.foldl (step adapter) progress

theorem run_append (progress : Progress α) (early late : List Event) :
    progress.run adapter (early ++ late) = (progress.run adapter early).run adapter late :=
  List.foldl_append

theorem run_done (result : α) (attempt : Attempt) (events : List Event) :
    run adapter ⟨.done result, attempt⟩ events = ⟨.done result, attempt⟩ := by
  induction events with
  | nil => rfl
  | cons event events ih => exact ih

section Asking

variable {progress : Progress α} {request : Request} {next : CallOutcome → Dialogue α}

theorem step_of_result?_eq_none (hdialogue : progress.dialogue = .ask request next)
    {event : Event} (hcall : (progress.attempt.step adapter request event).call.result? = none) :
    progress.step adapter event =
      ⟨progress.dialogue, progress.attempt.step adapter request event⟩ := by
  rw [step, hdialogue]
  simp only [hcall]

theorem step_of_result?_eq_some (hdialogue : progress.dialogue = .ask request next)
    {event : Event} {result : Except GenerationError Response}
    (hcall : (progress.attempt.step adapter request event).call.result? = some result) :
    progress.step adapter event =
      ⟨next (.ofResult result),
        ⟨(progress.attempt.step adapter request event).cancelled, .notStarted⟩⟩ := by
  rw [step, hdialogue]
  simp only [hcall]

/-- **A run that asks** either still waits for its call, or the call ended at some moment and the
run went on from there. -/
theorem run_ask (adapter : Adapter) (hdialogue : progress.dialogue = .ask request next)
    (hcall : progress.attempt.call.result? = none) (events : List Event) :
    ((progress.attempt.run adapter request events).call.result? = none ∧
        progress.run adapter events =
          ⟨progress.dialogue, progress.attempt.run adapter request events⟩) ∨
      ∃ early late result, events = early ++ late ∧
        (progress.attempt.run adapter request early).call = .finished result ∧
        progress.run adapter events =
          run adapter ⟨next (.ofResult result),
            ⟨(progress.attempt.run adapter request early).cancelled, .notStarted⟩⟩ late := by
  induction events generalizing progress with
  | nil => exact .inl ⟨hcall, rfl⟩
  | cons event events ih =>
      have hcons : progress.run adapter (event :: events) =
          (progress.step adapter event).run adapter events := rfl
      cases hstep : (progress.attempt.step adapter request event).call.result? with
      | some result =>
          right
          refine ⟨[event], events, result, rfl, Call.eq_finished_of_result? hstep, ?_⟩
          rw [hcons, step_of_result?_eq_some hdialogue hstep]
          rfl
      | none =>
          have hstay : (Progress.mk progress.dialogue
              (progress.attempt.step adapter request event)).dialogue = .ask request next :=
            hdialogue
          rw [hcons, step_of_result?_eq_none hdialogue hstep]
          rcases ih hstay hstep with hwaiting | ⟨early, late, result, rfl, hended, hrest⟩
          · exact .inl hwaiting
          · exact .inr ⟨event :: early, late, result, rfl, hended, hrest⟩

/-- A run that asks for the last time and is not done waits for its call. -/
theorem run_of_last (hdialogue : progress.dialogue = .ask request next)
    (hcall : progress.attempt.call.result? = none)
    (hlast : ∀ outcome, ∃ result, next outcome = .done result) {events : List Event}
    (hundone : (progress.run adapter events).result? = none) :
    (progress.attempt.run adapter request events).call.result? = none ∧
      progress.run adapter events =
        ⟨progress.dialogue, progress.attempt.run adapter request events⟩ := by
  rcases run_ask adapter hdialogue hcall events with
    hwaiting | ⟨early, late, result, rfl, -, hrest⟩
  · exact hwaiting
  · obtain ⟨value, hvalue⟩ := hlast (.ofResult result)
    rw [hrest, hvalue, run_done] at hundone
    cases hundone

/-- **A run that is given up while it waits** goes on, once it is looked at, with a call that was
cancelled. -/
theorem run_cancel (husable : adapter.Usable) (hdialogue : progress.dialogue = .ask request next)
    (hcall : progress.attempt.call.result? = none) {events : List Event}
    (hlook : events.any Event.isLook = true) {result : α}
    (hnext : next (.failed .cancelled) = .done result) :
    (progress.run adapter (.cancel :: events)).result? = some result := by
  have hended : (progress.attempt.run adapter request (.cancel :: events)).call =
      .finished (.error .cancelled) := by
    have hcancelled : (progress.attempt.step adapter request .cancel).cancelled = true := rfl
    rw [Attempt.run_cons, Attempt.call_run_of_cancelled husable hcancelled hcall, if_pos hlook]
  rcases run_ask adapter hdialogue hcall (.cancel :: events) with
    ⟨hwaiting, -⟩ | ⟨early, late, found, hsplit, hearly, hrest⟩
  · rw [hended] at hwaiting
    cases hwaiting
  · -- a call keeps its result, so the one it ended with is the one that it has in the end
    rw [hsplit, Attempt.run_append, Attempt.call_run_of_finished hearly,
      Call.finished.injEq] at hended
    rw [hrest, hended, CallOutcome.ofResult, hnext, run_done]
    rfl

end Asking

/-! ### Runs over an adapter -/

section Networked

variable {σ : Type} {allowed : Nat} {cancelled : σ → Bool}
  {peer : HttpRequest → σ → Encounter × σ}

/-- From one moment over the sightings to another, a call that was given up stays given up. -/
def Lasts : Bool → List Sighting → Bool → Prop
  | first, [], last => first = true → last = true
  | first, sighting :: sightings, last =>
    (first = true → sighting.cancelled = true) ∧ Lasts sighting.cancelled sightings last

theorem Lasts.imp {first last : Bool} {sightings : List Sighting}
    (hlasts : Lasts first sightings last) (hfirst : first = true) : last = true := by
  induction sightings generalizing first with
  | nil => exact hlasts hfirst
  | cons sighting sightings ih => exact ih hlasts.2 (hlasts.1 hfirst)

/-- The event after which a call is seen as given up, if it is. -/
def raising (seen : Bool) : List Event := if seen then [.cancel] else []

variable {request : Request} {next : CallOutcome → Dialogue α}

theorem run_raising {first seen : Bool} (hfirst : first = true → seen = true) {call : Call}
    (hcall : call.result? = none) :
    run adapter ⟨.ask request next, ⟨first, call⟩⟩ (raising seen) =
      ⟨.ask request next, ⟨seen, call⟩⟩ := by
  cases seen with
  | true =>
      show step adapter ⟨.ask request next, ⟨first, call⟩⟩ .cancel = _
      exact step_of_result?_eq_none rfl hcall
  | false =>
      cases first with
      | false => rfl
      | true => cases hfirst rfl

/-- The events of a call that ends: between the looks it may be given up, and after the last one
that matters the dialogue goes on. -/
theorem exists_events_of_call (next : CallOutcome → Dialogue α) {first last : Bool}
    {sightings : List Sighting} (hlasts : Lasts first sightings last) {call : Call}
    (hcall : call.result? = none)
    {result : Except GenerationError Response}
    (hresult : (call.run adapter request sightings).result? = some result) :
    ∃ events later, (later = true → last = true) ∧
      run adapter ⟨.ask request next, ⟨first, call⟩⟩ events =
        ⟨next (.ofResult result), ⟨later, .notStarted⟩⟩ := by
  induction sightings generalizing first call with
  | nil =>
      rw [show call.run adapter request [] = call from rfl, hcall] at hresult
      cases hresult
  | cons sighting sightings ih =>
      obtain ⟨seen, arrived⟩ := sighting
      obtain ⟨hfirst, hrest⟩ := hlasts
      have hlook : run adapter ⟨.ask request next, ⟨first, call⟩⟩
          (raising seen ++ [.look arrived]) =
            step adapter ⟨.ask request next, ⟨seen, call⟩⟩ (.look arrived) := by
        calc run adapter ⟨.ask request next, ⟨first, call⟩⟩ (raising seen ++ [.look arrived])
            = (run adapter ⟨.ask request next, ⟨first, call⟩⟩ (raising seen)).step adapter
                (.look arrived) := run_append _ (raising seen) [.look arrived]
          _ = step adapter ⟨.ask request next, ⟨seen, call⟩⟩ (.look arrived) := by
              rw [run_raising hfirst hcall]
      cases hstep : (call.step adapter request ⟨seen, arrived⟩).result? with
      | some found =>
          have hfound : found = result := by
            have hrun : call.run adapter request (⟨seen, arrived⟩ :: sightings) =
                .finished found := by
              calc call.run adapter request (⟨seen, arrived⟩ :: sightings)
                  = (call.step adapter request ⟨seen, arrived⟩).run adapter request sightings := rfl
                _ = (Call.finished found).run adapter request sightings := by
                    rw [Call.eq_finished_of_result? hstep]
                _ = .finished found := Call.run_finished found sightings
            rw [hrun] at hresult
            exact Option.some.inj hresult
          have hended : step adapter ⟨.ask request next, ⟨seen, call⟩⟩ (.look arrived) =
              ⟨next (.ofResult found), ⟨seen, .notStarted⟩⟩ := step_of_result?_eq_some rfl hstep
          refine ⟨raising seen ++ [.look arrived], seen, hrest.imp, ?_⟩
          rw [hlook, hended, hfound]
      | none =>
          obtain ⟨events, later, hlater, hrun⟩ := ih hrest hstep hresult
          have hwaiting : step adapter ⟨.ask request next, ⟨seen, call⟩⟩ (.look arrived) =
              ⟨.ask request next, ⟨seen, call.step adapter request ⟨seen, arrived⟩⟩⟩ :=
            step_of_result?_eq_none rfl hstep
          refine ⟨(raising seen ++ [.look arrived]) ++ events, later, hlater, ?_⟩
          rw [run_append, hlook, hwaiting, hrun]

/-- What is seen of a call over an adapter from its first look to the end. -/
theorem exists_sightings_of_networked {state : σ}
    (hpeer : ∀ sent, Lasts (cancelled state) (peer sent state).1.sightings
      (cancelled (peer sent state).2))
    (hintime : (networked adapter allowed cancelled peer request state).1 ≠ .overran) :
    ∃ sightings result,
      Lasts (cancelled state) sightings
        (cancelled (networked adapter allowed cancelled peer request state).2) ∧
      (Call.notStarted.run adapter request (⟨cancelled state, none⟩ :: sightings)).result? =
        some result ∧
      (networked adapter allowed cancelled peer request state).1 = .ofResult result := by
  have hrun : ∀ sightings, Call.notStarted.run adapter request
      (⟨cancelled state, none⟩ :: sightings) =
        (Call.notStarted.step adapter request ⟨cancelled state, none⟩).run adapter request
          sightings := fun _ => rfl
  unfold networked at hintime ⊢
  cases hstart : Call.notStarted.step adapter request ⟨cancelled state, none⟩ with
  | notStarted =>
      rw [hstart] at hintime
      exact absurd rfl hintime
  | finished result =>
      refine ⟨[], result, id, ?_, rfl⟩
      rw [hrun, hstart]
      rfl
  | inFlight sent =>
      rw [hstart] at hintime
      dsimp only [Call.sent?] at hintime ⊢
      cases hresult : ((Call.inFlight sent).run adapter request
          (peer sent state).1.sightings).result? with
      | none =>
          rw [hresult] at hintime
          exact absurd rfl hintime
      | some result =>
          rw [hresult] at hintime
          dsimp only [CallOutcome.within] at hintime ⊢
          split at hintime
          · next hduration =>
            refine ⟨(peer sent state).1.sightings, result, hpeer sent, ?_, ?_⟩
            · rw [hrun, hstart, hresult]
            · rw [if_pos hduration]
          · exact absurd rfl hintime

/-- **Every run over an adapter** whose calls end in time is a run event by event, if a caller
who has given up never takes it back. -/
theorem exists_events_of_run
    (hpeer : ∀ sent state, Lasts (cancelled state) (peer sent state).1.sightings
      (cancelled (peer sent state).2))
    {dialogue : Dialogue α} {state : σ}
    (hintime : ∀ exchange ∈ dialogue.exchanges (networked adapter allowed cancelled peer) state,
      exchange.2 ≠ .overran) :
    ∃ events, ((start dialogue).run adapter events).result? =
      some (dialogue.run (networked adapter allowed cancelled peer) state).1 := by
  have hfrom : ∀ first, (first = true → cancelled state = true) →
      ∃ events, (run adapter ⟨dialogue, ⟨first, .notStarted⟩⟩ events).result? =
        some (dialogue.run (networked adapter allowed cancelled peer) state).1 := by
    induction dialogue generalizing state with
    | done result => exact fun _ _ => ⟨[], rfl⟩
    | ask request next ih =>
        intro first hfirst
        rw [Dialogue.exchanges_ask, List.forall_mem_cons] at hintime
        obtain ⟨hcall, hrest⟩ := hintime
        obtain ⟨sightings, result, hlasts, hresult, houtcome⟩ :=
          exists_sightings_of_networked (fun sent => hpeer sent state) hcall
        have hstart : Lasts first (⟨cancelled state, none⟩ :: sightings) _ := ⟨hfirst, hlasts⟩
        obtain ⟨events, later, hlater, hevents⟩ := exists_events_of_call next hstart rfl hresult
        obtain ⟨rest, hrun⟩ := ih _ hrest later hlater
        refine ⟨events ++ rest, ?_⟩
        rw [run_append, hevents, ← houtcome, hrun, Dialogue.run_ask]
  apply hfrom false
  intro h
  cases h

end Networked

end Progress

end ListingAttributes.Extraction
