import ListingAttributes.Generation.Adapter
import ListingAttributes.Proofs.Generation.Envelopes

/-!
# Calls

How a call of an adapter goes on when it is looked at.

* `Call.run_finished`: a call that has ended stays as it is;
* `Call.step_of_cancelled`: a call that was given up ends as cancelled, however
  far it has come and whatever has arrived;
* `Call.run_of_endsWith`: a call under way ends with what its exchange leads to;
* `Call.result?_of_delivers`: a call whose exchange delivers a text returns it;
* `Adapter.returns_iff`: what all calls with one end of their exchange return.
-/

namespace ListingAttributes.Generation

variable {adapter : Adapter} {request : Request}

/-- The adapter has a key if its provider asks for one. -/
def Adapter.Usable (adapter : Adapter) : Prop :=
  adapter.provider = .anthropic → adapter.key ≠ ""

theorem Adapter.obstacle?_eq_none_iff : adapter.obstacle? = none ↔ adapter.Usable := by
  unfold obstacle? Usable
  split
  · next h => simp [h]
  · next h => simpa using h

/-! ### Steps -/

namespace Call

@[simp] theorem step_finished (result : Except GenerationError Response) (sighting : Sighting) :
    (finished result).step adapter request sighting = finished result := rfl

theorem step_notStarted (husable : adapter.Usable) (arrived : Option Exchange) :
    notStarted.step adapter request ⟨false, arrived⟩ = inFlight (adapter.httpRequest request) := by
  rw [step, Adapter.obstacle?_eq_none_iff.2 husable]
  rfl

@[simp] theorem step_arrived (sent : HttpRequest) (exchange : Exchange) :
    (inFlight sent).step adapter request ⟨false, some exchange⟩ =
      finished (adapter.conclude exchange) := rfl

/-- **A call that was given up** ends as cancelled, even if its answer has arrived. -/
theorem step_of_cancelled (husable : adapter.Usable) {call : Call} (hcall : call.result? = none)
    (arrived : Option Exchange) :
    call.step adapter request ⟨true, arrived⟩ = finished (.error .cancelled) := by
  cases call with
  | notStarted =>
      rw [step, Adapter.obstacle?_eq_none_iff.2 husable]
      rfl
  | inFlight sent => rfl
  | finished result => cases hcall

theorem eq_finished_of_result? {call : Call} {result : Except GenerationError Response}
    (hresult : call.result? = some result) : call = finished result := by
  cases call with
  | finished found => rw [Option.some.inj hresult]
  | _ => cases hresult

/-! ### Runs -/

theorem run_append (call : Call) (early late : List Sighting) :
    call.run adapter request (early ++ late) =
      (call.run adapter request early).run adapter request late :=
  List.foldl_append

@[simp] theorem run_finished (result : Except GenerationError Response)
    (sightings : List Sighting) :
    (finished result).run adapter request sightings = finished result := by
  induction sightings with
  | nil => rfl
  | cons sighting sightings ih => exact ih

theorem run_waiting (sent : HttpRequest) (waits : Nat) :
    (inFlight sent).run adapter request (List.replicate waits ⟨false, none⟩) = inFlight sent := by
  induction waits with
  | zero => rfl
  | succ waits ih => exact ih

end Call

/-! ### Deliveries -/

/-- The exchange of a call comes to an end: for a while nothing is seen, and then that it has
ended.  Nothing that happens later counts. -/
def EndsWith (exchange : Exchange) (sightings : List Sighting) : Prop :=
  ∃ waits later,
    sightings = List.replicate waits ⟨false, none⟩ ++ ⟨false, some exchange⟩ :: later

/-- The exchange of a call ends with a success whose body carries the text. -/
def Delivers (provider : Provider) (text : String) (sightings : List Sighting) : Prop :=
  ∃ status body, (200 ≤ status ∧ status < 300) ∧ Carries provider body text ∧
    EndsWith (.answered status body) sightings

theorem Call.run_of_endsWith {exchange : Exchange} {sightings : List Sighting}
    (hends : EndsWith exchange sightings) (sent : HttpRequest) :
    (inFlight sent).run adapter request sightings = finished (adapter.conclude exchange) := by
  obtain ⟨waits, later, rfl⟩ := hends
  rw [run_append, run_waiting]
  exact run_finished (adapter.conclude exchange) later

/-- What a success leads to has the text as its content exactly if its body carries the text. -/
theorem Adapter.conclude_content_iff {status : Nat} {body text : String}
    (hstatus : 200 ≤ status ∧ status < 300) :
    (∃ response, adapter.conclude (.answered status body) = .ok response ∧
        response.content = text) ↔ Carries adapter.provider body text := by
  rw [conclude, if_pos hstatus, decodeBody_content_iff]

/-- **A call whose exchange delivers a text** returns it. -/
theorem Call.result?_of_delivers (request : Request) {text : String} {sightings : List Sighting}
    (hdelivers : Delivers adapter.provider text sightings) (sent : HttpRequest) :
    ∃ response, ((inFlight sent).run adapter request sightings).result? = some (.ok response) ∧
      response.content = text := by
  obtain ⟨status, body, hstatus, hcarries, hends⟩ := hdelivers
  obtain ⟨response, hresponse, hcontent⟩ := (Adapter.conclude_content_iff hstatus).2 hcarries
  refine ⟨response, ?_, hcontent⟩
  rw [run_of_endsWith hends, hresponse]
  rfl

/-! ### What an exchange comes to -/

namespace Adapter

/-- Every call that nobody gives up before its exchange ends this way returns the result. -/
def Returns (adapter : Adapter) (request : Request) (exchange : Exchange)
    (result : Except GenerationError Response) : Prop :=
  ∀ start later, start.cancelled = false → EndsWith exchange later →
    (Call.notStarted.run adapter request (start :: later)).result? = some result

theorem returns_iff (husable : adapter.Usable) {exchange : Exchange}
    {result : Except GenerationError Response} :
    adapter.Returns request exchange result ↔ adapter.conclude exchange = result := by
  have hrun : ∀ start later, start.cancelled = false → EndsWith exchange later →
      (Call.notStarted.run adapter request (start :: later)).result? =
        some (adapter.conclude exchange) := by
    rintro ⟨cancelled, arrived⟩ later rfl hends
    rw [Call.run, List.foldl_cons, Call.step_notStarted husable]
    exact congrArg Call.result? (Call.run_of_endsWith hends _)
  constructor
  · intro h
    have hends : EndsWith exchange [⟨false, some exchange⟩] := ⟨0, [], rfl⟩
    exact Option.some.inj ((hrun ⟨false, none⟩ _ rfl hends).symm.trans (h _ _ rfl hends))
  · rintro rfl
    exact hrun

/-- What is returned for a success is what its body is decoded to. -/
theorem returns_success_iff (husable : adapter.Usable) {status : Nat} {body : String}
    (hstatus : 200 ≤ status ∧ status < 300) {result : Except GenerationError Response} :
    adapter.Returns request (.answered status body) result ↔
      decodeBody adapter.provider body = result := by
  rw [returns_iff husable, conclude, if_pos hstatus]

/-- An adapter that returns anything to take a text from can be used. -/
theorem usable_of_returns {exchange : Exchange} {response : Response}
    (h : adapter.Returns request exchange (.ok response)) : adapter.Usable := by
  rw [← obstacle?_eq_none_iff]
  cases hobstacle : adapter.obstacle? with
  | none => rfl
  | some error =>
      have hends : EndsWith exchange [⟨false, some exchange⟩] := ⟨0, [], rfl⟩
      have hresult := h ⟨false, none⟩ _ rfl hends
      rw [Call.run, List.foldl_cons, Call.step, hobstacle] at hresult
      cases hresult

end Adapter

end ListingAttributes.Generation
