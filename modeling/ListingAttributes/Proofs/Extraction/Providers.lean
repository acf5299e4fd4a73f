import ListingAttributes.Extraction.Backends
import ListingAttributes.Proofs.Extraction.Exchanges
import ListingAttributes.Proofs.Generation.Calls

/-!
# Providers make no difference

A peer serves a list of exchanges if it delivers, over the protocol of the
provider, the texts that the exchanges were answered with (`Serves`).  An
adapter whose peer serves them gives them (`gives_of_serves`); so what is
classified and extracted over the adapter is what is classified and extracted
over the script that the exchanges come from (`run_provider_independent`).
-/

namespace ListingAttributes.Extraction

open Generation Settings

variable {σ : Type} {adapter : Adapter} {allowed : Nat} {cancelled : σ → Bool}
  {peer : HttpRequest → σ → Encounter × σ}

/-- The peer delivers the texts that the requests of the exchanges were answered with, one after
the other and each in the time allowed, and no call is given up. -/
def Serves (adapter : Adapter) (allowed : Nat) (cancelled : σ → Bool)
    (peer : HttpRequest → σ → Encounter × σ) : σ → List (Request × CallOutcome) → Prop
  | _, [] => True
  | state, (request, outcome) :: exchanges =>
    let (encounter, after) := peer (adapter.httpRequest request) state
    (∃ text, outcome = .answered text ∧ Delivers adapter.provider text encounter.sightings) ∧
      encounter.duration ≤ allowed ∧ cancelled state = false ∧
      Serves adapter allowed cancelled peer after exchanges

/-- A call over an adapter comes to the text that the peer delivers. -/
theorem networked_of_delivers (husable : adapter.Usable) {request : Request} {state : σ}
    {text : String}
    (hdelivers : Delivers adapter.provider text
      (peer (adapter.httpRequest request) state).1.sightings)
    (hduration : (peer (adapter.httpRequest request) state).1.duration ≤ allowed)
    (hcancelled : cancelled state = false) :
    networked adapter allowed cancelled peer request state =
      (.answered text, (peer (adapter.httpRequest request) state).2) := by
  have hstart : Call.notStarted.step adapter request ⟨cancelled state, none⟩ =
      .inFlight (adapter.httpRequest request) := by
    rw [hcancelled, Call.step_notStarted husable]
  obtain ⟨response, hresult, hcontent⟩ :=
    Call.result?_of_delivers request hdelivers (adapter.httpRequest request)
  unfold networked
  rw [hstart]
  dsimp only [Call.sent?]
  rw [hresult]
  dsimp only
  rw [CallOutcome.within, if_pos hduration, CallOutcome.ofResult, hcontent]

/-- **An adapter whose peer serves exchanges** gives them. -/
theorem gives_of_serves (husable : adapter.Usable) {state : σ}
    {exchanges : List (Request × CallOutcome)}
    (hserves : Serves adapter allowed cancelled peer state exchanges) :
    Gives (networked adapter allowed cancelled peer) state exchanges := by
  induction exchanges generalizing state with
  | nil => trivial
  | cons exchange exchanges ih =>
      obtain ⟨request, outcome⟩ := exchange
      obtain ⟨⟨text, rfl, hdelivers⟩, hduration, hcancelled, hrest⟩ := hserves
      have hcall := networked_of_delivers husable hdelivers hduration hcancelled
      refine ⟨?_, ?_⟩
      · rw [hcall]
      · rw [hcall]
        exact ih hrest

/-- **Providers make no difference.**  Over every adapter that can be used, a call whose exchange
ends with a success that carries a text returns that text.  Classifying, extracting and the
combined run over the adapter therefore come to what they come to over a scripted backend, record
or error, if the peer serves the texts of the script. -/
theorem run_provider_independent (husable : adapter.Usable) :
    (∀ request text sightings, Delivers adapter.provider text sightings →
      ∃ response,
        (Call.notStarted.run adapter request (⟨false, none⟩ :: sightings)).result? =
            some (.ok response) ∧
          response.content = text) ∧
    ∀ (settings : ExtractionSettings) (title : String) (specifics : Specifics)
      (category : Category) (defaultReply : String) (delay : Nat) (script : Script) (state : σ),
      let network := networked adapter allowed cancelled peer
      let mock := scripted defaultReply false allowed delay
      (Serves adapter allowed cancelled peer state
          ((classify settings title).exchanges mock script) →
        ((classify settings title).run network state).1 =
          ((classify settings title).run mock script).1) ∧
      (Serves adapter allowed cancelled peer state
          ((extract settings category title specifics).exchanges mock script) →
        ((extract settings category title specifics).run network state).1 =
          ((extract settings category title specifics).run mock script).1) ∧
      (Serves adapter allowed cancelled peer state
          ((classifyAndExtract settings title specifics).exchanges mock script) →
        ((classifyAndExtract settings title specifics).run network state).1 =
          ((classifyAndExtract settings title specifics).run mock script).1) := by
  refine ⟨?_, ?_⟩
  · intro request text sightings hdelivers
    have hstart : Call.notStarted.run adapter request (⟨false, none⟩ :: sightings) =
        (Call.inFlight (adapter.httpRequest request)).run adapter request sightings := by
      calc Call.notStarted.run adapter request (⟨false, none⟩ :: sightings)
          = (Call.notStarted.step adapter request ⟨false, none⟩).run adapter request sightings :=
            rfl
        _ = (Call.inFlight (adapter.httpRequest request)).run adapter request sightings := by
            rw [Call.step_notStarted husable]
    rw [hstart]
    exact Call.result?_of_delivers request hdelivers (adapter.httpRequest request)
  · intro settings title specifics category defaultReply delay script state network mock
    refine ⟨?_, ?_, ?_⟩
    · intro hserves
      exact Dialogue.run_eq_of_gives (gives_of_serves husable hserves)
    · intro hserves
      exact Dialogue.run_eq_of_gives (gives_of_serves husable hserves)
    · intro hserves
      exact Dialogue.run_eq_of_gives (gives_of_serves husable hserves)

/-- A peer that always answers with the same body, at the second look and in a moment. -/
def sendingBack (body : String) : HttpRequest → Unit → Encounter × Unit :=
  fun _ state => (⟨[⟨false, none⟩, ⟨false, some (.answered 200 body)⟩], 5⟩, state)

/-- A body of a messages service with its text in two blocks, a block of another type between them
and members that are not known. -/
def splitBody : String :=
  "\x7b\"id\":\"msg_1\",\"content\":[\x7b\"type\":\"text\",\"text\":\"r\"\x7d," ++
    "\x7b\"type\":\"thinking\",\"thinking\":\"hm\"\x7d," ++
    "\x7b\"text\":\"am\",\"citations\":null,\"type\":\"text\"\x7d]," ++
    "\"model\":\"m\",\"stop_reason\":[1e999]\x7d"

theorem carries_splitBody : Carries .anthropic splitBody "ram" :=
  decodeBody_content_iff.1 ⟨⟨"ram", "m", .zero⟩, by decide +kernel, rfl⟩

theorem run_provider_independent_blocks :
    let adapter := (Adapter.standard .anthropic "m").withKey "k"
    adapter.Usable ∧
      ((classify .default "32GB DDR4").run
        (networked adapter 10 (fun _ => false) (sendingBack splitBody)) ()).1 = .ok .ram := by
  intro adapter
  have husable : adapter.Usable := fun _ => by decide
  refine ⟨husable, ?_⟩
  have hserves : Serves adapter 10 (fun _ => false) (sendingBack splitBody) ()
      ((classify .default "32GB DDR4").exchanges (scripted "ram" false 10 0) Script.empty) :=
    ⟨⟨"ram", rfl, 200, splitBody, ⟨by decide, by decide⟩, carries_splitBody, 1, [], rfl⟩,
      by decide, rfl, trivial⟩
  rw [((run_provider_independent husable).2 .default "32GB DDR4" (.ofEntries []) .ram "ram" 0
    Script.empty ()).1 hserves]
  decide +kernel

end ListingAttributes.Extraction
