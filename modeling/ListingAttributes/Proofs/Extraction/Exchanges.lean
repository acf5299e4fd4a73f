import ListingAttributes.Extraction.Operations

/-!
# The exchanges of a dialogue

An exchange is a request together with what its call came to.  A dialogue
follows a list of exchanges to a result, whoever answers (`Follows`), and a
backend gives the outcomes of a list of exchanges from a state on (`Gives`).
A run is both at once (`run_iff`): what a dialogue does over a backend can be
shown for the dialogue alone, and the backend enters through `Gives` only.

* `run_eq_of_gives`: a backend that gives the exchanges of a run over another
  one leads to the same result;
* `follows_map_iff`, `follows_bind_iff`: dialogues made from dialogues;
* `follows_ask_iff`: a single question;
* `follows_extract_iff`: the extraction from a listing of a known category.
-/

namespace ListingAttributes.Extraction

open Generation Settings

/-- A request and what its call came to. -/
abbrev Exchange := Request × CallOutcome

/-- The backend answers the requests of the exchanges with their outcomes, in order. -/
def Gives {σ : Type} (backend : Backend σ) : σ → List Exchange → Prop
  | _, [] => True
  | state, (request, outcome) :: exchanges =>
    (backend request state).1 = outcome ∧ Gives backend (backend request state).2 exchanges

namespace Dialogue

variable {α β σ : Type}

/-- The dialogue has the exchanges, in order, and then the result. -/
inductive Follows : Dialogue α → List Exchange → α → Prop where
  | done (result : α) : Follows (.done result) [] result
  | ask {request : Request} {next : CallOutcome → Dialogue α} {outcome : CallOutcome}
      {exchanges : List Exchange} {result : α} (rest : Follows (next outcome) exchanges result) :
      Follows (.ask request next) ((request, outcome) :: exchanges) result

/-! ### Runs -/

theorem run_ask (backend : Backend σ) (request : Request) (next : CallOutcome → Dialogue α)
    (state : σ) :
    (ask request next).run backend state =
      (next (backend request state).1).run backend (backend request state).2 := rfl

/-- **A run follows the exchanges that the backend gives.**  The requests of a run and its result
are those of the one list of exchanges that both agree on. -/
theorem run_iff {dialogue : Dialogue α} {backend : Backend σ} {state : σ}
    {requests : List Request} {result : α} :
    dialogue.requests backend state = requests ∧ (dialogue.run backend state).1 = result ↔
      ∃ exchanges, exchanges.map Prod.fst = requests ∧ Gives backend state exchanges ∧
        dialogue.Follows exchanges result := by
  induction dialogue generalizing state requests with
  | done found =>
      constructor
      · rintro ⟨rfl, rfl⟩
        exact ⟨[], rfl, trivial, .done found⟩
      · rintro ⟨exchanges, rfl, -, hfollows⟩
        cases hfollows
        exact ⟨rfl, rfl⟩
  | ask request next ih =>
      constructor
      · rintro ⟨rfl, hresult⟩
        -- the exchanges of the rest, and before them the answer to the first request
        obtain ⟨exchanges, hrequests, hgives, hfollows⟩ :=
          (ih (backend request state).1).1 ⟨rfl, hresult⟩
        refine ⟨(request, (backend request state).1) :: exchanges, ?_, ⟨rfl, hgives⟩,
          .ask hfollows⟩
        rw [List.map_cons, hrequests]
        rfl
      · rintro ⟨exchanges, rfl, hgives, hfollows⟩
        cases hfollows with
        | @ask _ _ outcome rest _ hrest =>
            obtain ⟨rfl, hgives⟩ := hgives
            obtain ⟨hrequests, hresult⟩ := (ih _).2 ⟨rest, rfl, hgives, hrest⟩
            refine ⟨?_, hresult⟩
            rw [List.map_cons, ← hrequests]
            rfl

theorem run_eq_iff {dialogue : Dialogue α} {backend : Backend σ} {state : σ} {result : α} :
    (dialogue.run backend state).1 = result ↔
      ∃ exchanges, Gives backend state exchanges ∧ dialogue.Follows exchanges result := by
  constructor
  · intro h
    obtain ⟨exchanges, _, hgives, hfollows⟩ := run_iff.1 ⟨rfl, h⟩
    exact ⟨exchanges, hgives, hfollows⟩
  · rintro ⟨exchanges, hgives, hfollows⟩
    exact (run_iff.2 ⟨exchanges, rfl, hgives, hfollows⟩).2

/-- The exchanges of a dialogue over a backend, in order. -/
def exchanges (backend : Backend σ) : Dialogue α → σ → List Exchange
  | done _, _ => []
  | ask request next, state =>
    let (outcome, state) := backend request state
    (request, outcome) :: (next outcome).exchanges backend state

theorem exchanges_ask (backend : Backend σ) (request : Request)
    (next : CallOutcome → Dialogue α) (state : σ) :
    (ask request next).exchanges backend state =
      (request, (backend request state).1) ::
        (next (backend request state).1).exchanges backend (backend request state).2 := rfl

theorem follows_exchanges (dialogue : Dialogue α) (backend : Backend σ) (state : σ) :
    dialogue.Follows (dialogue.exchanges backend state) (dialogue.run backend state).1 := by
  induction dialogue generalizing state with
  | done result => exact .done result
  | ask request next ih => exact .ask (ih _ _)

/-- **A backend that gives the exchanges of a run** leads to the same result. -/
theorem run_eq_of_gives {τ : Type} {dialogue : Dialogue α} {backend : Backend σ} {state : σ}
    {other : Backend τ} {start : τ}
    (hgives : Gives backend state (dialogue.exchanges other start)) :
    (dialogue.run backend state).1 = (dialogue.run other start).1 :=
  run_eq_iff.2 ⟨_, hgives, dialogue.follows_exchanges other start⟩

/-! ### Dialogues made from dialogues -/

theorem follows_done_iff {found result : α} {exchanges : List Exchange} :
    (done found).Follows exchanges result ↔ exchanges = [] ∧ result = found := by
  constructor
  · intro h
    cases h
    exact ⟨rfl, rfl⟩
  · rintro ⟨rfl, rfl⟩
    exact .done result

theorem follows_map_iff {dialogue : Dialogue α} {f : α → β} {exchanges : List Exchange}
    {result : β} :
    (dialogue.map f).Follows exchanges result ↔
      ∃ found, dialogue.Follows exchanges found ∧ result = f found := by
  induction dialogue generalizing exchanges with
  | done found =>
      rw [map, follows_done_iff]
      constructor
      · rintro ⟨rfl, rfl⟩
        exact ⟨found, .done found, rfl⟩
      · rintro ⟨found, hfollows, rfl⟩
        cases hfollows
        exact ⟨rfl, rfl⟩
  | ask request next ih =>
      constructor
      · intro h
        cases h with
        | ask rest =>
            obtain ⟨found, hfollows, hresult⟩ := (ih _).1 rest
            exact ⟨found, .ask hfollows, hresult⟩
      · rintro ⟨found, hfollows, rfl⟩
        cases hfollows with
        | ask rest => exact .ask ((ih _).2 ⟨found, rest, rfl⟩)

theorem follows_bind_iff {first : Dialogue α} {second : α → Dialogue β}
    {exchanges : List Exchange} {result : β} :
    (first.bind second).Follows exchanges result ↔
      ∃ before after found, exchanges = before ++ after ∧ first.Follows before found ∧
        (second found).Follows after result := by
  induction first generalizing exchanges with
  | done found =>
      constructor
      · intro h
        exact ⟨[], exchanges, found, rfl, .done found, h⟩
      · rintro ⟨before, after, other, rfl, hfirst, hsecond⟩
        cases hfirst
        exact hsecond
  | ask request next ih =>
      constructor
      · intro h
        cases h with
        | ask rest =>
            obtain ⟨before, after, found, rfl, hfirst, hsecond⟩ := (ih _).1 rest
            exact ⟨_, after, found, rfl, .ask hfirst, hsecond⟩
      · rintro ⟨before, after, found, rfl, hfirst, hsecond⟩
        cases hfirst with
        | ask rest => exact .ask ((ih _).2 ⟨_, after, found, rfl, rest, hsecond⟩)

end Dialogue

/-! ### Questions -/

/-- What a question comes to, by what its call came to. -/
def concluded {α : Type} (settings : ExtractionSettings)
    (use : String → Except ExtractionError α) : CallOutcome → Except ExtractionError α
  | .answered content => use content
  | .failed error => .error (.generation error)
  | .overran => .error (.timeout settings.callTimeout)

theorem ask_eq {α : Type} (settings : ExtractionSettings) (request : Request)
    (use : String → Except ExtractionError α) :
    ask settings request use =
      .ask request fun outcome => .done (concluded settings use outcome) := by
  unfold ask
  congr 1
  funext outcome
  cases outcome <;> rfl

theorem requests_ask {α σ : Type} (settings : ExtractionSettings) (request : Request)
    (use : String → Except ExtractionError α) (backend : Backend σ) (state : σ) :
    (ask settings request use).requests backend state = [request] := by
  rw [ask_eq]
  rfl

theorem result_ask {α σ : Type} (settings : ExtractionSettings) (request : Request)
    (use : String → Except ExtractionError α) (backend : Backend σ) (state : σ) :
    ((ask settings request use).run backend state).1 =
      concluded settings use (backend request state).1 := by
  rw [ask_eq]
  rfl

theorem follows_ask_iff {α : Type} {settings : ExtractionSettings} {request : Request}
    {use : String → Except ExtractionError α} {exchanges : List Exchange}
    {result : Except ExtractionError α} :
    (ask settings request use).Follows exchanges result ↔
      ∃ outcome, exchanges = [(request, outcome)] ∧ result = concluded settings use outcome := by
  rw [ask_eq]
  constructor
  · intro h
    cases h with
    | @ask _ _ outcome rest _ hrest =>
        obtain ⟨rfl, rfl⟩ := Dialogue.follows_done_iff.1 hrest
        exact ⟨outcome, rfl, rfl⟩
  · rintro ⟨outcome, rfl, rfl⟩
    exact .ask (.done _)

/-! ### Extractions -/

theorem extraction?_eq_none_iff {category : Category} {title : List Char}
    {specifics : Specifics} {description : List Char} :
    Prompt.extraction? category title specifics description = none ↔ category = .other := by
  cases category <;> simp [Prompt.extraction?, Prompt.template?]

/-- **An extraction** asks nothing and fails for the category without a template; for every other
category it asks once, with the prompt of the category. -/
theorem follows_extract_iff {settings : ExtractionSettings} {category : Category} {title : String}
    {specifics : Specifics} {exchanges : List Exchange}
    {result : Except ExtractionError Record} :
    (extract settings category title specifics).Follows exchanges result ↔
      (category = .other ∧ exchanges = [] ∧
          result = .error (.rendering category (.unsupportedCategory category))) ∨
        ∃ prompt outcome,
          Prompt.extraction? category title.toList specifics "".toList = some prompt ∧
            exchanges = [(extractionRequest settings prompt, outcome)] ∧
            result = concluded settings (recordOfReply category title) outcome := by
  unfold extract askAttributes
  cases hprompt : Prompt.extraction? category title.toList specifics "".toList with
  | none =>
      have hother := extraction?_eq_none_iff.1 hprompt
      dsimp only
      rw [Dialogue.follows_done_iff]
      simp [hother]
  | some prompt =>
      have hother : category ≠ .other := by
        intro h
        rw [extraction?_eq_none_iff.2 h] at hprompt
        cases hprompt
      dsimp only
      rw [follows_ask_iff]
      simp [hother]

end ListingAttributes.Extraction
