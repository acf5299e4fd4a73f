import ListingAttributes.Proofs.Extraction.Exchanges

/-!
# The two stages of a combined run

`SecondStage` says what the extraction of a combined run comes to, and
`TwoStage` which exchanges the whole run has and with what result; both are
written without the operations, request by request and cause by cause.

* `follows_classify_ok_iff`, `follows_classify_error_iff`: the first stage;
* `follows_extractClassified_ok_iff`: the second stage;
* `classifyAndExtract_run_iff`: a combined run is a two-stage machine over
  every backend, and the category that its error names is the one that the
  first answer named.
-/

namespace ListingAttributes.Extraction

open Generation Settings

/-! ### The machine -/

/-- What the extraction from a listing comes to, by what its one call came to.  A reply is parsed
and the record is validated; of a memory module the speed is then filled in from the title. -/
inductive SecondStage (settings : ExtractionSettings) (category : Category) (title : String) :
    CallOutcome → Except ExtractionError Record → Prop where
  | failed (error : GenerationError) :
      SecondStage settings category title (.failed error) (.error (.generation error))
  | overran :
      SecondStage settings category title .overran (.error (.timeout settings.callTimeout))
  | unparsed {reply : String} {error : Reply.ReplyError}
      (hparse : Reply.parse reply.toList = .error error) :
      SecondStage settings category title (.answered reply) (.error (.parse error.message))
  | invalid {reply : String} {record : Record} {error : ValidationError}
      (hparse : Reply.parse reply.toList = .ok record)
      (hvalidate : category.validate record = .error error) :
      SecondStage settings category title (.answered reply) (.error (.validating error))
  | valid {reply : String} {record validated : Record}
      (hparse : Reply.parse reply.toList = .ok record)
      (hvalidate : category.validate record = .ok validated) :
      SecondStage settings category title (.answered reply)
        (.ok (if category = .ram then MemorySpeed.recover title.toList validated else validated))

/-- The request of the first stage. -/
def firstRequest (settings : ExtractionSettings) (title : String) : Request where
  prompt := String.ofList (Prompt.classification title.toList)
  system := none
  format := .text
  temperature := settings.classifyTemperature
  maxTokens := settings.classifyMaxTokens

/-- The request of the second stage, with the prompt of the category. -/
def secondRequest (settings : ExtractionSettings) (prompt : List Char) : Request where
  prompt := String.ofList prompt
  system := some (settings.systemMessage.getD Prompt.systemMessage)
  format := .json
  temperature := settings.extractTemperature
  maxTokens := settings.extractMaxTokens

/-- The exchanges of a combined run and its result: one exchange if there is no category to
extract, two otherwise. -/
inductive TwoStage (settings : ExtractionSettings) (title : String) (specifics : Specifics) :
    List Exchange → Except ExtractionError (Category × Record) → Prop where
  | classificationFailed (error : GenerationError) :
      TwoStage settings title specifics [(firstRequest settings title, .failed error)]
        (.error (.classifying (.generation error)))
  | classificationOverran :
      TwoStage settings title specifics [(firstRequest settings title, .overran)]
        (.error (.classifying (.timeout settings.callTimeout)))
  | unclassified {answer : String} (hanswer : Category.parse? answer = none) :
      TwoStage settings title specifics [(firstRequest settings title, .answered answer)]
        (.error (.classifying (.invalidCategory answer)))
  | unextractable {answer : String} (hanswer : Category.parse? answer = some .other) :
      TwoStage settings title specifics [(firstRequest settings title, .answered answer)]
        (.error (.extracting .other (.rendering .other (.unsupportedCategory .other))))
  | extractionFailed {answer : String} {category : Category} {prompt : List Char}
      {outcome : CallOutcome} {error : ExtractionError}
      (hanswer : Category.parse? answer = some category)
      (hprompt : Prompt.extraction? category title.toList specifics "".toList = some prompt)
      (hsecond : SecondStage settings category title outcome (.error error)) :
      TwoStage settings title specifics
        [(firstRequest settings title, .answered answer), (secondRequest settings prompt, outcome)]
        (.error (.extracting category error))
  | extracted {answer : String} {category : Category} {prompt : List Char}
      {outcome : CallOutcome} {record : Record}
      (hanswer : Category.parse? answer = some category)
      (hprompt : Prompt.extraction? category title.toList specifics "".toList = some prompt)
      (hsecond : SecondStage settings category title outcome (.ok record)) :
      TwoStage settings title specifics
        [(firstRequest settings title, .answered answer), (secondRequest settings prompt, outcome)]
        (.ok (category, record))

variable {settings : ExtractionSettings} {title : String} {specifics : Specifics}

/-! ### One stage after the other -/

theorem categoryOfAnswer_eq_ok_iff {answer : String} {category : Category} :
    categoryOfAnswer answer = .ok category ↔ Category.parse? answer = some category := by
  unfold categoryOfAnswer
  cases Category.parse? answer <;> simp

theorem categoryOfAnswer_eq_error_iff {answer : String} {error : ExtractionError} :
    categoryOfAnswer answer = .error error ↔
      Category.parse? answer = none ∧ error = .invalidCategory answer := by
  unfold categoryOfAnswer
  cases Category.parse? answer <;> simp [eq_comm]

/-- The first stage finds a category if the answer names it. -/
theorem follows_classify_ok_iff {exchanges : List Exchange} {category : Category} :
    (classify settings title).Follows exchanges (.ok category) ↔
      ∃ answer, exchanges = [(firstRequest settings title, .answered answer)] ∧
        Category.parse? answer = some category := by
  unfold classify
  rw [follows_ask_iff]
  constructor
  · rintro ⟨outcome, rfl, hresult⟩
    cases outcome with
    | failed _ => cases hresult
    | overran => cases hresult
    | answered answer => exact ⟨answer, rfl, categoryOfAnswer_eq_ok_iff.1 hresult.symm⟩
  · rintro ⟨answer, rfl, hanswer⟩
    exact ⟨.answered answer, rfl, (categoryOfAnswer_eq_ok_iff.2 hanswer).symm⟩

/-- The first stage fails if the call does, or if its answer names no category. -/
theorem follows_classify_error_iff {exchanges : List Exchange} {error : ExtractionError} :
    (classify settings title).Follows exchanges (.error error) ↔
      ∃ outcome, exchanges = [(firstRequest settings title, outcome)] ∧
        ((∃ cause, outcome = .failed cause ∧ error = .generation cause) ∨
          (outcome = .overran ∧ error = .timeout settings.callTimeout) ∨
          ∃ answer, outcome = .answered answer ∧ Category.parse? answer = none ∧
            error = .invalidCategory answer) := by
  unfold classify
  rw [follows_ask_iff]
  refine exists_congr fun outcome => and_congr_right fun _ => ?_
  cases outcome with
  | failed cause => simp [concluded]
  | overran => simp [concluded]
  | answered answer =>
      simp only [concluded, reduceCtorEq, false_and, exists_false, false_or,
        CallOutcome.answered.injEq, exists_eq_left']
      rw [eq_comm, categoryOfAnswer_eq_error_iff]

/-- The second stage is what becomes of the one question of an extraction. -/
theorem concluded_recordOfReply_iff {category : Category} {outcome : CallOutcome}
    {result : Except ExtractionError Record} :
    result = concluded settings (recordOfReply category title) outcome ↔
      SecondStage settings category title outcome result := by
  constructor
  · rintro rfl
    cases outcome with
    | failed error => exact .failed error
    | overran => exact .overran
    | answered reply =>
        show SecondStage settings category title _ (recordOfReply category title reply)
        unfold recordOfReply
        cases hparse : Reply.parse reply.toList with
        | error error => exact .unparsed hparse
        | ok record =>
            dsimp only
            cases hvalidate : category.validate record with
            | error error => exact .invalid hparse hvalidate
            | ok validated => exact .valid hparse hvalidate
  · intro h
    cases h with
    | failed error => rfl
    | overran => rfl
    | unparsed hparse => simp only [concluded, recordOfReply, hparse]
    | invalid hparse hvalidate => simp only [concluded, recordOfReply, hparse, hvalidate]
    | valid hparse hvalidate => simp only [concluded, recordOfReply, hparse, hvalidate]

/-- What follows a classification, for each of its results. -/
theorem follows_extractClassified_error_iff {error : ExtractionError} {exchanges : List Exchange}
    {result : Except ExtractionError (Category × Record)} :
    (extractClassified settings title specifics (.error error)).Follows exchanges result ↔
      exchanges = [] ∧ result = .error (.classifying error) :=
  Dialogue.follows_done_iff

theorem follows_extractClassified_ok_iff {category : Category} {exchanges : List Exchange}
    {result : Except ExtractionError (Category × Record)} :
    (extractClassified settings title specifics (.ok category)).Follows exchanges result ↔
      (category = .other ∧ exchanges = [] ∧ result =
          .error (.extracting .other (.rendering .other (.unsupportedCategory .other)))) ∨
        ∃ prompt outcome,
          Prompt.extraction? category title.toList specifics "".toList = some prompt ∧
            exchanges = [(secondRequest settings prompt, outcome)] ∧
            ((∃ record, SecondStage settings category title outcome (.ok record) ∧
                result = .ok (category, record)) ∨
              ∃ error, SecondStage settings category title outcome (.error error) ∧
                result = .error (.extracting category error)) := by
  unfold extractClassified
  rw [Dialogue.follows_map_iff]
  constructor
  · rintro ⟨found, hextract, rfl⟩
    rcases follows_extract_iff.1 hextract with
      ⟨rfl, rfl, rfl⟩ | ⟨prompt, outcome, hprompt, rfl, hfound⟩
    · exact Or.inl ⟨rfl, rfl, rfl⟩
    · refine Or.inr ⟨prompt, outcome, hprompt, rfl, ?_⟩
      have hsecond := concluded_recordOfReply_iff.1 hfound
      -- a failure is reported with the category that was to be extracted
      cases found with
      | ok record => exact Or.inl ⟨record, hsecond, rfl⟩
      | error error => exact Or.inr ⟨error, hsecond, rfl⟩
  · rintro (⟨rfl, rfl, rfl⟩ | ⟨prompt, outcome, hprompt, rfl, hresult⟩)
    · exact ⟨_, follows_extract_iff.2 (Or.inl ⟨rfl, rfl, rfl⟩), rfl⟩
    · rcases hresult with ⟨record, hsecond, rfl⟩ | ⟨error, hsecond, rfl⟩
      · exact ⟨.ok record, follows_extract_iff.2 (Or.inr ⟨prompt, outcome, hprompt, rfl,
          concluded_recordOfReply_iff.2 hsecond⟩), rfl⟩
      · exact ⟨.error error, follows_extract_iff.2 (Or.inr ⟨prompt, outcome, hprompt, rfl,
          concluded_recordOfReply_iff.2 hsecond⟩), rfl⟩

/-- **The combined operation is the two-stage machine**, whoever answers. -/
theorem follows_classifyAndExtract_iff {exchanges : List Exchange}
    {result : Except ExtractionError (Category × Record)} :
    (classifyAndExtract settings title specifics).Follows exchanges result ↔
      TwoStage settings title specifics exchanges result := by
  unfold classifyAndExtract
  rw [Dialogue.follows_bind_iff]
  constructor
  · rintro ⟨before, after, classified, rfl, hclassify, hextract⟩
    -- an error of the first stage leaves no exchange to the second
    cases classified with
    | error error =>
        obtain ⟨rfl, rfl⟩ := follows_extractClassified_error_iff.1 hextract
        obtain ⟨outcome, rfl, hcause⟩ := follows_classify_error_iff.1 hclassify
        rcases hcause with ⟨cause, rfl, rfl⟩ | ⟨rfl, rfl⟩ | ⟨answer, rfl, hanswer, rfl⟩
        · exact .classificationFailed cause
        · exact .classificationOverran
        · exact .unclassified hanswer
    | ok category =>
        obtain ⟨answer, rfl, hanswer⟩ := follows_classify_ok_iff.1 hclassify
        rcases follows_extractClassified_ok_iff.1 hextract with
          ⟨rfl, rfl, rfl⟩ | ⟨prompt, outcome, hprompt, rfl, hresult⟩
        · exact .unextractable hanswer
        · rcases hresult with ⟨record, hsecond, rfl⟩ | ⟨error, hsecond, rfl⟩
          · exact .extracted hanswer hprompt hsecond
          · exact .extractionFailed hanswer hprompt hsecond
  · intro h
    cases h with
    | classificationFailed cause =>
        exact ⟨_, [], .error _, rfl,
          follows_classify_error_iff.2 ⟨_, rfl, Or.inl ⟨cause, rfl, rfl⟩⟩,
          follows_extractClassified_error_iff.2 ⟨rfl, rfl⟩⟩
    | classificationOverran =>
        exact ⟨_, [], .error _, rfl,
          follows_classify_error_iff.2 ⟨_, rfl, Or.inr (Or.inl ⟨rfl, rfl⟩)⟩,
          follows_extractClassified_error_iff.2 ⟨rfl, rfl⟩⟩
    | @unclassified answer hanswer =>
        exact ⟨_, [], .error _, rfl,
          follows_classify_error_iff.2 ⟨_, rfl, Or.inr (Or.inr ⟨answer, rfl, hanswer, rfl⟩)⟩,
          follows_extractClassified_error_iff.2 ⟨rfl, rfl⟩⟩
    | @unextractable answer hanswer =>
        exact ⟨_, [], .ok .other, rfl, follows_classify_ok_iff.2 ⟨answer, rfl, hanswer⟩,
          follows_extractClassified_ok_iff.2 (Or.inl ⟨rfl, rfl, rfl⟩)⟩
    | @extractionFailed answer category prompt outcome error hanswer hprompt hsecond =>
        exact ⟨[_], [_], .ok category, rfl, follows_classify_ok_iff.2 ⟨answer, rfl, hanswer⟩,
          follows_extractClassified_ok_iff.2
            (Or.inr ⟨prompt, outcome, hprompt, rfl, Or.inr ⟨error, hsecond, rfl⟩⟩)⟩
    | @extracted answer category prompt outcome record hanswer hprompt hsecond =>
        exact ⟨[_], [_], .ok category, rfl, follows_classify_ok_iff.2 ⟨answer, rfl, hanswer⟩,
          follows_extractClassified_ok_iff.2
            (Or.inr ⟨prompt, outcome, hprompt, rfl, Or.inl ⟨record, hsecond, rfl⟩⟩)⟩

/-! ### Runs -/

/-- The category that an error of a combined run names is the one that the first answer named. -/
theorem category?_of_twoStage {σ : Type} {backend : Backend σ} {state : σ}
    {exchanges : List Exchange} {error : ExtractionError} (hgives : Gives backend state exchanges)
    (h : TwoStage settings title specifics exchanges (.error error)) (category : Category) :
    error.category? = some category ↔
      ∃ answer, (backend (firstRequest settings title) state).1 = .answered answer ∧
        Category.parse? answer = some category := by
  cases h with
  | classificationFailed _ => simp [ExtractionError.category?, hgives.1]
  | classificationOverran => simp [ExtractionError.category?, hgives.1]
  | unclassified hanswer => simp [ExtractionError.category?, hgives.1, hanswer]
  | unextractable hanswer => simp [ExtractionError.category?, hgives.1, hanswer]
  | extractionFailed hanswer _ _ => simp [ExtractionError.category?, hgives.1, hanswer]

/-- **A combined run is a two-stage machine** over every backend: its requests and its result are
those of the machine for the outcomes that the backend gives, and an error names a category exactly
if the first answer did. -/
theorem classifyAndExtract_run_iff {σ : Type} (settings : ExtractionSettings) (title : String)
    (specifics : Specifics) (backend : Backend σ) (state : σ) :
    (∀ requests result,
      (classifyAndExtract settings title specifics).requests backend state = requests ∧
          ((classifyAndExtract settings title specifics).run backend state).1 = result ↔
        ∃ exchanges, exchanges.map Prod.fst = requests ∧ Gives backend state exchanges ∧
          TwoStage settings title specifics exchanges result) ∧
    ∀ error, ((classifyAndExtract settings title specifics).run backend state).1 = .error error →
      ∀ category, error.category? = some category ↔
        ∃ answer, (backend (firstRequest settings title) state).1 = .answered answer ∧
          Category.parse? answer = some category := by
  constructor
  · intro requests result
    rw [Dialogue.run_iff]
    exact exists_congr fun exchanges => and_congr_right fun _ => and_congr_right fun _ =>
      follows_classifyAndExtract_iff
  · intro error herror
    obtain ⟨exchanges, hgives, hfollows⟩ := Dialogue.run_eq_iff.1 herror
    exact category?_of_twoStage hgives (follows_classifyAndExtract_iff.1 hfollows)

/-- A backend that gives one answer and overruns ever after. -/
def answeringOnce (answer : String) : Backend Bool :=
  fun _ answered => if answered then (.overran, true) else (.answered answer, true)

theorem classifyAndExtract_run_overrun :
    ∃ error, ((classifyAndExtract .default "32GB DDR4" (.ofEntries [])).run
        (answeringOnce " RAM\n") false).1 = .error error ∧
      error = .extracting .ram (.timeout ExtractionSettings.default.callTimeout) ∧
      error.category? = some .ram := by
  have hanswer : Category.parse? " RAM\n" = some .ram := by decide +kernel
  obtain ⟨prompt, hprompt⟩ : ∃ prompt, Prompt.extraction? .ram "32GB DDR4".toList (.ofEntries [])
    "".toList = some prompt := ⟨_, rfl⟩
  have hrun : ((classifyAndExtract .default "32GB DDR4" (.ofEntries [])).run
      (answeringOnce " RAM\n") false).1 =
        .error (.extracting .ram (.timeout ExtractionSettings.default.callTimeout)) :=
    Dialogue.run_eq_iff.2
      ⟨[(firstRequest .default "32GB DDR4", .answered " RAM\n"),
          (secondRequest .default prompt, .overran)], ⟨rfl, rfl, trivial⟩,
        follows_classifyAndExtract_iff.2 (.extractionFailed hanswer hprompt .overran)⟩
  refine ⟨_, hrun, rfl, ?_⟩
  exact ((classifyAndExtract_run_iff .default "32GB DDR4" (.ofEntries []) (answeringOnce " RAM\n")
    false).2 _ hrun .ram).2 ⟨" RAM\n", rfl, hanswer⟩

end ListingAttributes.Extraction
