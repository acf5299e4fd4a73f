import ListingAttributes.Proofs.Extraction.Progress
import ListingAttributes.Proofs.Extraction.TwoStage

/-!
# Giving up a combined run

`Underway` says where a combined run that is not over can stand: it waits for
its first call, or that call has ended with an answer that names a category
with a prompt, and it waits for the second one.  Given up there, it fails as
cancelled, and the stage that it had reached decides whether the error names a
category (`cancellation_wins`).
-/

namespace ListingAttributes.Extraction

open Generation Settings

/-! ### The combined run -/

section Combined

variable {settings : ExtractionSettings} {title : String} {specifics : Specifics}
  {adapter : Adapter}

theorem classifyAndExtract_eq_ask :
    classifyAndExtract settings title specifics =
      .ask (classificationRequest settings title) fun outcome =>
        extractClassified settings title specifics
          (concluded settings categoryOfAnswer outcome) := by
  rw [classifyAndExtract, classify, ask_eq]
  rfl

theorem extractClassified_eq_ask {category : Category} {prompt : List Char}
    (hprompt : Prompt.extraction? category title.toList specifics "".toList = some prompt) :
    extractClassified settings title specifics (.ok category) =
      .ask (extractionRequest settings prompt) fun outcome =>
        .done (match concluded settings (recordOfReply category title) outcome with
          | .ok record => .ok (category, record)
          | .error error => .error (.extracting category error)) := by
  have hextract : extract settings category title specifics =
      ask settings (extractionRequest settings prompt) (recordOfReply category title) := by
    simp only [extract, askAttributes, hprompt]
  rw [extractClassified, hextract, ask_eq]
  rfl

theorem extractClassified_eq_done {category : Category}
    (hprompt : Prompt.extraction? category title.toList specifics "".toList = none) :
    extractClassified settings title specifics (.ok category) =
      .done (.error
        (.extracting category (.rendering category (.unsupportedCategory category)))) := by
  have hextract : extract settings category title specifics =
      .done (.error (.rendering category (.unsupportedCategory category))) := by
    simp only [extract, askAttributes, hprompt]
  rw [extractClassified, hextract]
  rfl

/-- A combined run that is not over: its first call has not ended, or it has ended with an answer
that names a category with a prompt, and the second call has not. -/
inductive Underway (adapter : Adapter) (settings : ExtractionSettings) (title : String)
    (specifics : Specifics) (events : List Event) :
    Progress (Except ExtractionError (Category × Record)) → Prop where
  | classifying {attempt : Attempt}
      (hfirst : (Attempt.start.run adapter (classificationRequest settings title)
        events).call.result? = none)
      (hcall : attempt.call.result? = none) :
      Underway adapter settings title specifics events
        ⟨classifyAndExtract settings title specifics, attempt⟩
  | extracting {attempt : Attempt} {response : Response} {category : Category}
      {prompt : List Char}
      (hfirst : (Attempt.start.run adapter (classificationRequest settings title)
        events).call = .finished (.ok response))
      (hanswer : Category.parse? response.content = some category)
      (hprompt : Prompt.extraction? category title.toList specifics "".toList = some prompt)
      (hcall : attempt.call.result? = none) :
      Underway adapter settings title specifics events
        ⟨extractClassified settings title specifics (.ok category), attempt⟩

/-- **A combined run is under way until it is done.** -/
theorem underway_of_result?_eq_none {events : List Event}
    (hundone : ((Progress.start (classifyAndExtract settings title specifics)).run adapter
      events).result? = none) :
    Underway adapter settings title specifics events
      ((Progress.start (classifyAndExtract settings title specifics)).run adapter events) := by
  have hdialogue : (Progress.start (classifyAndExtract settings title specifics)).dialogue = _ :=
    classifyAndExtract_eq_ask
  rcases Progress.run_ask adapter hdialogue rfl events with
    ⟨hwaiting, hrun⟩ | ⟨early, late, result, rfl, hended, hrun⟩
  · rw [hrun]
    exact .classifying hwaiting hwaiting
  · have hfirst : (Attempt.start.run adapter (classificationRequest settings title)
        (early ++ late)).call = .finished result := by
      rw [Attempt.run_append]
      exact Attempt.call_run_of_finished hended late
    rw [hrun] at hundone ⊢
    -- the first call has ended, and only an answer that names a category leads any further
    cases result with
    | error error =>
        rw [CallOutcome.ofResult, concluded, extractClassified, Progress.run_done] at hundone
        cases hundone
    | ok response =>
        rw [CallOutcome.ofResult, concluded] at hundone ⊢
        cases hanswer : categoryOfAnswer response.content with
        | error error =>
            rw [hanswer, extractClassified, Progress.run_done] at hundone
            cases hundone
        | ok category =>
            rw [hanswer] at hundone
            cases hprompt : Prompt.extraction? category title.toList specifics "".toList with
            | none =>
                rw [extractClassified_eq_done hprompt, Progress.run_done] at hundone
                cases hundone
            | some prompt =>
                obtain ⟨hwaiting, hrest⟩ := Progress.run_of_last
                  (extractClassified_eq_ask hprompt) rfl (fun _ => ⟨_, rfl⟩) hundone
                rw [hrest]
                exact .extracting hfirst (categoryOfAnswer_eq_ok_iff.1 hanswer) hprompt hwaiting

/-- A combined run that is given up while it is under way fails as cancelled at the next look, in
the stage that it had reached. -/
theorem exists_error_of_underway (husable : adapter.Usable) {events later : List Event}
    {progress : Progress (Except ExtractionError (Category × Record))}
    (hunderway : Underway adapter settings title specifics events progress)
    (hlook : later.any Event.isLook = true) :
    ∃ error, (progress.run adapter (.cancel :: later)).result? = some (.error error) ∧
      error.isCancelled = true ∧
      ∀ category, error.category? = some category ↔
        category.isExtractable = true ∧ ∃ response,
          (Attempt.start.run adapter (classificationRequest settings title) events).call =
              .finished (.ok response) ∧
            Category.parse? response.content = some category := by
  cases hunderway with
  | classifying hfirst hcall =>
      refine ⟨.classifying (.generation .cancelled),
        Progress.run_cancel husable classifyAndExtract_eq_ask hcall hlook rfl, rfl, ?_⟩
      intro category
      constructor
      · intro h
        cases h
      · rintro ⟨-, response, hended, -⟩
        rw [hended] at hfirst
        cases hfirst
  | @extracting attempt response found prompt hfirst hanswer hprompt hcall =>
      refine ⟨.extracting found (.generation .cancelled),
        Progress.run_cancel husable (extractClassified_eq_ask hprompt) hcall hlook rfl, rfl, ?_⟩
      have hextractable : found.isExtractable = true := by
        unfold Category.isExtractable
        rw [bne_iff_ne]
        intro hother
        rw [extraction?_eq_none_iff.2 hother] at hprompt
        cases hprompt
      intro category
      constructor
      · intro h
        cases h
        exact ⟨hextractable, response, hfirst, hanswer⟩
      · rintro ⟨-, other, hother, hcategory⟩
        rw [hfirst, Call.finished.injEq, Except.ok.injEq] at hother
        rw [hother, hcategory, Option.some.injEq] at hanswer
        rw [hanswer]
        rfl

end Combined

/-- **Cancellation always wins**, over every adapter that can be used and however giving up, looks
and the end of an exchange follow each other.  A call that is given up before it was started is
never sent, and one that is given up under way drops its answer; both end as cancelled at the next
look.  A call that has ended keeps its result, which is what its exchange led to.  A combined run
that is given up before it is over fails as cancelled, and its error names a category exactly if
the first call had already returned an answer that names it and it can be extracted.  And this is
what happens over every peer: if no call runs out of time and giving up is not taken back, a
combined run over an adapter is one of these runs. -/
theorem cancellation_wins {adapter : Adapter} (husable : adapter.Usable) :
    (∀ request before later,
      let attempt := Attempt.start.run adapter request before
      let ended := Attempt.start.run adapter request (before ++ .cancel :: later)
      (attempt.call = .notStarted →
        ended.call =
          if later.any Event.isLook then .finished (.error .cancelled) else .notStarted) ∧
      (∀ sent, attempt.call = .inFlight sent →
        ended.call =
          if later.any Event.isLook then .finished (.error .cancelled) else .inFlight sent) ∧
      ∀ result, attempt.call = .finished result →
        ended.call = .finished result ∧
          (.cancel ∉ before →
            ∃ early exchange late, before = early ++ .look (some exchange) :: late ∧
              (Attempt.start.run adapter request early).call =
                .inFlight (adapter.httpRequest request) ∧
              result = adapter.conclude exchange)) ∧
    ∀ settings title specifics,
      let dialogue := classifyAndExtract settings title specifics
      (∀ before later, ((Progress.start dialogue).run adapter before).result? = none →
        later.any Event.isLook = true →
          ∃ error, ((Progress.start dialogue).run adapter (before ++ .cancel :: later)).result? =
              some (.error error) ∧
            error.isCancelled = true ∧
            ∀ category, error.category? = some category ↔
              category.isExtractable = true ∧ ∃ response,
                (Attempt.start.run adapter (classificationRequest settings title) before).call =
                    .finished (.ok response) ∧
                  Category.parse? response.content = some category) ∧
      ∀ (σ : Type) (allowed : Nat) (cancelled : σ → Bool)
        (peer : HttpRequest → σ → Encounter × σ) (state : σ),
        (∀ sent state, Progress.Lasts (cancelled state) (peer sent state).1.sightings
          (cancelled (peer sent state).2)) →
        (∀ exchange ∈ dialogue.exchanges (networked adapter allowed cancelled peer) state,
          exchange.2 ≠ .overran) →
        ∃ events, ((Progress.start dialogue).run adapter events).result? =
          some (dialogue.run (networked adapter allowed cancelled peer) state).1 := by
  refine ⟨?_, ?_⟩
  · intro request before later attempt ended
    have hended : ended = (attempt.step adapter request .cancel).run adapter request later :=
      Attempt.run_append Attempt.start before (.cancel :: later)
    have hcancelled : (attempt.step adapter request .cancel).cancelled = true := rfl
    have hgiven (hcall : attempt.call.result? = none) : ended.call =
        if later.any Event.isLook then .finished (.error .cancelled) else attempt.call := by
      rw [hended]
      exact Attempt.call_run_of_cancelled husable hcancelled hcall later
    refine ⟨?_, ?_, ?_⟩
    · intro hcall
      rw [hgiven (by rw [hcall]; rfl), hcall]
    · intro sent hcall
      rw [hgiven (by rw [hcall]; rfl), hcall]
    · intro result hcall
      refine ⟨?_, fun hkept => Attempt.exists_arrival_of_run husable hkept hcall⟩
      have hstays : (attempt.step adapter request .cancel).call = .finished result := hcall
      rw [hended, Attempt.call_run_of_finished hstays]
  · intro settings title specifics dialogue
    refine ⟨?_, ?_⟩
    · intro before later hundone hlook
      rw [Progress.run_append]
      exact exists_error_of_underway husable (underway_of_result?_eq_none hundone) hlook
    · intro σ allowed cancelled peer state hpeer hintime
      exact Progress.exists_events_of_run hpeer hintime

/-- A body of a messages service that answers with a category. -/
def categoryBody : String :=
  "\x7b\"content\":[\x7b\"type\":\"text\",\"text\":\" RAM\"\x7d]\x7d"

theorem cancellation_wins_tie :
    let adapter := (Adapter.standard .anthropic "m").withKey "k"
    let before := [.look none, .look (some (.answered 200 categoryBody)), .look none]
    let later := [.look (some (.answered 200 categoryBody))]
    adapter.Usable ∧
      ∃ error, ((Progress.start (classifyAndExtract .default "32GB DDR4" (.ofEntries []))).run
          adapter (before ++ .cancel :: later)).result? = some (.error error) ∧
        error.isCancelled = true ∧ error.category? = some .ram := by
  intro adapter before later
  have husable : adapter.Usable := fun _ => by decide
  have hconclude : adapter.conclude (.answered 200 categoryBody) =
      .ok ⟨" RAM", "", .zero⟩ := by
    decide +kernel
  have hfirst : (Attempt.start.run adapter (classificationRequest .default "32GB DDR4")
      before).call = .finished (.ok ⟨" RAM", "", .zero⟩) := by
    simp only [before, Attempt.run_cons, Attempt.run_nil, Attempt.start, Attempt.step,
      Call.step_notStarted husable, Call.step_arrived, Call.step_finished, hconclude]
  have hundone : ((Progress.start (classifyAndExtract .default "32GB DDR4"
      (.ofEntries []))).run adapter before).result? = none := by
    decide +kernel
  obtain ⟨error, hresult, hcancelled, hcategory⟩ := ((cancellation_wins husable).2 .default
    "32GB DDR4" (.ofEntries [])).1 before later hundone rfl
  exact ⟨husable, error, hresult, hcancelled,
    (hcategory .ram).2 ⟨rfl, ⟨" RAM", "", .zero⟩, hfirst, by decide +kernel⟩⟩

end ListingAttributes.Extraction
