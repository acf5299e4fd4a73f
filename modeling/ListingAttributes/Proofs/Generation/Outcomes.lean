import ListingAttributes.Proofs.Generation.Calls

/-!
# What a call comes to

`Classified` says for each provider what the end of an exchange counts as: the
transport first, then the status, then whether the body is an envelope, and
last whether the envelope holds anything to take a text from.  Every exchange
counts as exactly one thing (`classified_iff`), and a call that nobody gives up
ends with what its exchange counts as, as soon as that has ended
(`result?_run_iff`).
-/

namespace ListingAttributes.Generation

open Json

variable {provider : Provider} {document : Document} {model text : String} {usage : Usage}

/-! ### Envelopes by what they are made of -/

/-- An envelope of a local server with this text, model and usage. -/
def IsGenerated (document : Document) (text model : String) (usage : Usage) : Prop :=
  ∃ entries promptTokens completionTokens,
    Structured ["model", "response", "prompt_eval_count", "eval_count"] document entries ∧
      StatesOr IsText "" "model" entries model ∧ States IsText "response" entries text ∧
      StatesOr IsCount 0 "prompt_eval_count" entries promptTokens ∧
      StatesOr IsCount 0 "eval_count" entries completionTokens ∧
      usage = Usage.ofCounts promptTokens completionTokens

/-- An envelope of a messages service with these blocks, model and usage. -/
def IsMessages (document : Document) (blocks : List (String × String)) (model : String)
    (usage : Usage) : Prop :=
  ∃ entries reported, Structured ["content", "model", "usage"] document entries ∧
    StatesOr (IsArray IsBlock) [] "content" entries blocks ∧
    StatesOr IsText "" "model" entries model ∧
    StatesOr (IsNullable IsMessagesUsage) none "usage" entries reported ∧
    usage = reported.getD Usage.zero

/-- An envelope of a chat-completions service with these choices, model and usage. -/
def IsChat (document : Document) (choices : List String) (model : String) (usage : Usage) : Prop :=
  ∃ entries reported, Structured ["choices", "model", "usage"] document entries ∧
    StatesOr (IsArray IsChoice) [] "choices" entries choices ∧
    StatesOr IsText "" "model" entries model ∧
    StatesOr (IsNullable IsChatUsage) none "usage" entries reported ∧
    usage = reported.getD Usage.zero

theorem isEnvelope_ollama_iff {envelope : Envelope} : IsEnvelope .ollama document envelope ↔
    ∃ text, IsGenerated document text envelope.model envelope.usage ∧
      envelope.content = some text := by
  constructor
  · rintro ⟨hfields, hmodel, hcontent, hprompt, hcompletion⟩
    exact ⟨_, ⟨_, _, _, hfields, hmodel, hcontent, hprompt, hcompletion, rfl⟩, rfl⟩
  · obtain ⟨content, model, usage⟩ := envelope
    rintro ⟨text, ⟨entries, _, _, hfields, hmodel, hcontent, hprompt, hcompletion, husage⟩, htext⟩
    dsimp only at hmodel husage htext
    subst husage htext
    exact .ollama hfields hmodel hcontent hprompt hcompletion

theorem isEnvelope_anthropic_iff {envelope : Envelope} : IsEnvelope .anthropic document envelope ↔
    ∃ blocks, IsMessages document blocks envelope.model envelope.usage ∧
      envelope.content = if blocks = [] then none else some (joinedText blocks) := by
  constructor
  · rintro (_ | ⟨hfields, hcontent, hmodel, husage⟩ | _)
    exact ⟨_, ⟨_, _, hfields, hcontent, hmodel, husage, rfl⟩, rfl⟩
  · obtain ⟨content, model, usage⟩ := envelope
    rintro ⟨blocks, ⟨entries, reported, hfields, hcontent, hmodel, hreported, husage⟩, htext⟩
    dsimp only at hmodel husage htext
    subst husage htext
    exact .anthropic hfields hcontent hmodel hreported

/-- The blocks, the model and the usage are what is read from the fields. -/
theorem isMessages_iff {document : Document} {blocks : List (String × String)} {model : String}
    {usage : Usage} : IsMessages document blocks model usage ↔
      ∃ fields, fieldsOf? ["content", "model", "usage"] document = some fields ∧
        Fields.withDefault (items? Envelope.block?) [] "content" fields = some blocks ∧
        Fields.withDefault text? "" "model" fields = some model ∧
        ∃ reported, Fields.withDefault (nullable? Envelope.messagesUsage?) none "usage" fields =
          some reported ∧ usage = reported.getD Usage.zero := by
  have hblocks := items?_eq_some_iff block?_eq_some_iff
  have husages := nullable?_eq_some_iff messagesUsage?_eq_some_iff not_isMessagesUsage_null
  unfold IsMessages
  simp only [exists_fieldsOf?_iff, withDefault_eq_some_iff hblocks,
    withDefault_eq_some_iff text?_eq_some_iff, withDefault_eq_some_iff husages, List.mem_cons,
    true_or, or_true]
  simp only [exists_and_left]

theorem isEnvelope_openAi_iff {envelope : Envelope} : IsEnvelope .openAi document envelope ↔
    ∃ choices, IsChat document choices envelope.model envelope.usage ∧
      envelope.content = choices.head? := by
  constructor
  · rintro (_ | _ | ⟨hfields, hcontent, hmodel, husage⟩)
    exact ⟨_, ⟨_, _, hfields, hcontent, hmodel, husage, rfl⟩, rfl⟩
  · obtain ⟨content, model, usage⟩ := envelope
    rintro ⟨choices, ⟨entries, reported, hfields, hcontent, hmodel, hreported, husage⟩, htext⟩
    dsimp only at hmodel husage htext
    subst husage htext
    exact .openAi hfields hcontent hmodel hreported

/-! ### Successes -/

/-- What the envelope in the body of a success counts as. -/
inductive Decoded : Provider → Document → Except GenerationError Response → Prop where
  | generated {document : Document} {text model : String} {usage : Usage}
      (h : IsGenerated document text model usage) :
      Decoded .ollama document (.ok ⟨text, model, usage⟩)
  | noBlocks {document : Document} {model : String} {usage : Usage}
      (h : IsMessages document [] model usage) :
      Decoded .anthropic document (.error .emptyResponse)
  /-- Blocks of other types than text add nothing to the content, but they are blocks. -/
  | blocks {document : Document} {blocks : List (String × String)} {model : String}
      {usage : Usage} (h : IsMessages document blocks model usage) (hblocks : blocks ≠ []) :
      Decoded .anthropic document (.ok ⟨joinedText blocks, model, usage⟩)
  | noChoices {document : Document} {model : String} {usage : Usage}
      (h : IsChat document [] model usage) : Decoded .openAi document (.error .emptyResponse)
  | choice {document : Document} {text : String} {choices : List String} {model : String}
      {usage : Usage} (h : IsChat document (text :: choices) model usage) :
      Decoded .openAi document (.ok ⟨text, model, usage⟩)

theorem decoded_iff {result : Except GenerationError Response} :
    Decoded provider document result ↔
      ∃ envelope, IsEnvelope provider document envelope ∧ envelope.response = result := by
  constructor
  · rintro (h | h | ⟨h, hblocks⟩ | h | h)
    · exact ⟨⟨some _, _, _⟩, isEnvelope_ollama_iff.2 ⟨_, h, rfl⟩, rfl⟩
    · exact ⟨⟨none, _, _⟩, isEnvelope_anthropic_iff.2 ⟨_, h, rfl⟩, rfl⟩
    · exact ⟨⟨some _, _, _⟩, isEnvelope_anthropic_iff.2 ⟨_, h, (if_neg hblocks).symm⟩, rfl⟩
    · exact ⟨⟨none, _, _⟩, isEnvelope_openAi_iff.2 ⟨_, h, rfl⟩, rfl⟩
    · exact ⟨⟨some _, _, _⟩, isEnvelope_openAi_iff.2 ⟨_, h, rfl⟩, rfl⟩
  · rintro ⟨envelope, henvelope, rfl⟩
    cases provider with
    | ollama =>
        obtain ⟨text, h, hcontent⟩ := isEnvelope_ollama_iff.1 henvelope
        rw [Envelope.response, hcontent]
        exact .generated h
    | anthropic =>
        obtain ⟨blocks, h, hcontent⟩ := isEnvelope_anthropic_iff.1 henvelope
        by_cases hblocks : blocks = []
        · subst hblocks
          rw [Envelope.response, hcontent]
          exact .noBlocks h
        · rw [if_neg hblocks] at hcontent
          rw [Envelope.response, hcontent]
          exact .blocks h hblocks
    | openAi =>
        obtain ⟨choices, h, hcontent⟩ := isEnvelope_openAi_iff.1 henvelope
        rw [Envelope.response, hcontent]
        cases choices with
        | nil => exact .noChoices h
        | cons text choices => exact .choice h

/-! ### Exchanges -/

/-- The body of a success is an envelope that counts as the result. -/
def DecodesTo (provider : Provider) (body : String) (result : Except GenerationError Response) :
    Prop :=
  ∃ document, Document.parse? body.toList = some document ∧ Decoded provider document result

/-- What the end of an exchange with a provider counts as. -/
inductive Classified (provider : Provider) : Exchange → Except GenerationError Response → Prop where
  | timedOut : Classified provider .timedOut (.error .timeout)
  | failed (reason : String) :
      Classified provider (.failed reason) (.error (.communication ("Request failed: " ++ reason)))
  | refused {status : Nat} (hstatus : status < 200 ∨ 299 < status) (body : String) :
      Classified provider (.answered status body) (.error (.provider status (errorText body)))
  | malformed {status : Nat} {body : String} (hstatus : 200 ≤ status ∧ status ≤ 299)
      (hbody : ∀ result, ¬ DecodesTo provider body result) :
      Classified provider (.answered status body)
        (.error (.parse (provider.name ++ " response: ")))
  | decoded {status : Nat} {body : String} {result : Except GenerationError Response}
      (hstatus : 200 ≤ status ∧ status ≤ 299) (hbody : DecodesTo provider body result) :
      Classified provider (.answered status body) result

theorem decodesTo_iff {body : String} {result : Except GenerationError Response} :
    DecodesTo provider body result ↔ ∃ envelope,
      (Document.parse? body.toList).bind (Envelope.ofDocument? provider) = some envelope ∧
        envelope.response = result := by
  unfold DecodesTo
  simp only [decoded_iff, ← ofDocument?_eq_some_iff, Option.bind_eq_some_iff]
  constructor
  · rintro ⟨document, hparse, envelope, henvelope, hresult⟩
    exact ⟨envelope, ⟨document, hparse, henvelope⟩, hresult⟩
  · rintro ⟨envelope, ⟨document, hparse, henvelope⟩, hresult⟩
    exact ⟨document, hparse, envelope, henvelope, hresult⟩

theorem decodeBody_eq_iff {body : String} {result : Except GenerationError Response} :
    decodeBody provider body = result ↔ DecodesTo provider body result ∨
      (∀ other, ¬ DecodesTo provider body other) ∧
        result = .error (.parse (provider.name ++ " response: ")) := by
  simp only [decodesTo_iff]
  unfold decodeBody
  cases (Document.parse? body.toList).bind (Envelope.ofDocument? provider) with
  | none => simp [eq_comm]
  | some envelope => simp

/-- **Every exchange counts as exactly one thing**: what the adapter concludes from it. -/
theorem classified_iff {adapter : Adapter} {exchange : Exchange}
    {result : Except GenerationError Response} :
    Classified adapter.provider exchange result ↔ adapter.conclude exchange = result := by
  constructor
  · rintro (_ | _ | ⟨hstatus⟩ | ⟨hstatus, hbody⟩ | ⟨hstatus, hbody⟩)
    · rfl
    · rfl
    · rw [Adapter.conclude, if_neg (by omega)]
    · rw [Adapter.conclude, if_pos (by omega), decodeBody_eq_iff]
      exact Or.inr ⟨hbody, rfl⟩
    · rw [Adapter.conclude, if_pos (by omega), decodeBody_eq_iff]
      exact Or.inl hbody
  · rintro rfl
    cases exchange with
    | timedOut => exact .timedOut
    | failed reason => exact .failed reason
    | answered status body =>
        rw [Adapter.conclude]
        split
        · next hstatus =>
          rcases decodeBody_eq_iff.1 (rfl : decodeBody adapter.provider body = _) with
            hbody | ⟨hbody, hresult⟩
          · exact .decoded (by omega) hbody
          · rw [hresult]
            exact .malformed (by omega) hbody
        · exact .refused (by omega) body

/-- A success is never taken for a refusal, whatever its body holds. -/
theorem Classified.ne_provider {status code : Nat} {body : String}
    (h : Classified provider (.answered status body) (.error (.provider code text))) :
    status < 200 ∨ 299 < status := by
  rcases h with _ | _ | ⟨hstatus⟩ | _ | ⟨-, document, -, hdecoded⟩
  · exact hstatus
  · cases hdecoded

/-- A local server sends a text or no envelope at all. -/
theorem not_classified_emptyResponse (exchange : Exchange) :
    ¬ Classified .ollama exchange (.error .emptyResponse) := by
  rintro (_ | _ | _ | _ | ⟨-, document, -, hdecoded⟩)
  cases hdecoded

theorem joinedText_of_no_text {blocks : List (String × String)}
    (h : ∀ block ∈ blocks, block.1 ≠ "text") : joinedText blocks = "" := by
  have hnone : blocks.filter (fun block => block.1 = "text") = [] :=
    List.filter_eq_nil_iff.2 fun block hblock => by simpa using h block hblock
  rw [joinedText, hnone]
  rfl

/-! ### Calls that nobody gives up -/

section Calls

variable {adapter : Adapter} {request : Request} {sightings : List Sighting}

/-- Unless a call is given up, its exchange ends or is waited for. -/
theorem endsWith_or_waiting (h : ∀ sighting ∈ sightings, sighting.cancelled = false) :
    (∃ exchange, EndsWith exchange sightings) ∨
      sightings = List.replicate sightings.length ⟨false, none⟩ := by
  induction sightings with
  | nil => exact Or.inr rfl
  | cons sighting sightings ih =>
      obtain ⟨hfirst, hrest⟩ := List.forall_mem_cons.1 h
      obtain ⟨cancelled, arrived⟩ := sighting
      obtain rfl : cancelled = false := hfirst
      cases arrived with
      | some exchange => exact Or.inl ⟨exchange, 0, sightings, rfl⟩
      | none =>
          rcases ih hrest with ⟨exchange, waits, later, hsightings⟩ | hwaiting
          · refine Or.inl ⟨exchange, waits + 1, later, ?_⟩
            rw [hsightings, List.replicate_succ, List.cons_append]
          · exact Or.inr (congrArg (⟨false, none⟩ :: ·) hwaiting)

/-- **A call under way that nobody gives up** ends with what its exchange counts as. -/
theorem Call.result?_run_iff (h : ∀ sighting ∈ sightings, sighting.cancelled = false)
    (sent : HttpRequest) {result : Except GenerationError Response} :
    ((inFlight sent).run adapter request sightings).result? = some result ↔
      ∃ exchange, EndsWith exchange sightings ∧ Classified adapter.provider exchange result := by
  constructor
  · intro hresult
    rcases endsWith_or_waiting h with ⟨exchange, hends⟩ | hwaiting
    · rw [run_of_endsWith hends] at hresult
      exact ⟨exchange, hends, classified_iff.2 (Option.some.inj hresult)⟩
    · rw [hwaiting, run_waiting] at hresult
      cases hresult
  · rintro ⟨exchange, hends, hclassified⟩
    rw [run_of_endsWith hends, classified_iff.1 hclassified]
    rfl

/-- A messages service without a key is never asked. -/
theorem Call.run_of_no_key (hprovider : adapter.provider = .anthropic) (hkey : adapter.key = "")
    (start : Sighting) (later : List Sighting) :
    notStarted.run adapter request (start :: later) = finished (.error
      (.config "anthropic API key is not set (pass one or export ANTHROPIC_API_KEY)")) := by
  have hobstacle : adapter.obstacle? = some
      (.config "anthropic API key is not set (pass one or export ANTHROPIC_API_KEY)") :=
    if_pos ⟨hprovider, hkey⟩
  rw [run, List.foldl_cons, step, hobstacle]
  exact run_finished _ later

/-- **What a call comes to.**  Without the key that it needs, an adapter sends nothing and the call
fails as not configured.  Otherwise a call that nobody gives up ends as soon as its exchange has
ended, with the one thing that the exchange counts as.  A success never counts as a refusal, a local
server never as one that has sent nothing, and blocks without a text among them are an empty
content. -/
theorem Adapter.outcomes (adapter : Adapter) (request : Request) :
    (adapter.provider = .anthropic → adapter.key = "" → ∀ sightings,
      (Call.notStarted.run adapter request sightings).sent? = none ∧
      (sightings ≠ [] → (Call.notStarted.run adapter request sightings).result? = some (.error
        (.config "anthropic API key is not set (pass one or export ANTHROPIC_API_KEY)")))) ∧
    (adapter.Usable → ∀ (start : Sighting) (later : List Sighting),
      (∀ sighting ∈ start :: later, sighting.cancelled = false) → ∀ result,
        ((Call.notStarted.run adapter request (start :: later)).result? = some result ↔
          ∃ exchange, EndsWith exchange later ∧ Classified adapter.provider exchange result)) ∧
    (∀ provider exchange, ∃ result, Classified provider exchange result ∧
      ∀ other, Classified provider exchange other → other = result) ∧
    (∀ provider status body code text, 200 ≤ status ∧ status ≤ 299 →
      ¬ Classified provider (.answered status body) (.error (.provider code text))) ∧
    (∀ exchange, ¬ Classified .ollama exchange (.error .emptyResponse)) ∧
    ∀ status body document blocks model usage, 200 ≤ status ∧ status ≤ 299 →
      Document.parse? body.toList = some document → IsMessages document blocks model usage →
        blocks ≠ [] → (∀ block ∈ blocks, block.1 ≠ "text") →
          Classified .anthropic (.answered status body) (.ok ⟨"", model, usage⟩) := by
  refine ⟨?_, ?_, ?_, ?_, not_classified_emptyResponse, ?_⟩
  · intro hprovider hkey sightings
    cases sightings with
    | nil => exact ⟨rfl, fun h => absurd rfl h⟩
    | cons start later =>
        rw [Call.run_of_no_key hprovider hkey]
        exact ⟨rfl, fun _ => rfl⟩
  · intro husable start later huncancelled result
    obtain ⟨hfirst, hrest⟩ := List.forall_mem_cons.1 huncancelled
    obtain ⟨cancelled, arrived⟩ := start
    obtain rfl : cancelled = false := hfirst
    rw [Call.run, List.foldl_cons, Call.step_notStarted husable]
    exact Call.result?_run_iff hrest (adapter.httpRequest request)
  · intro provider exchange
    have hclassified := @classified_iff ⟨provider, "", "", "", ""⟩ exchange
    exact ⟨_, hclassified.2 rfl, fun other hother => (hclassified.1 hother).symm⟩
  · intro provider status body code text hstatus hclassified
    have := hclassified.ne_provider
    omega
  · intro status body document blocks model usage hstatus hparse hmessages hblocks htext
    rw [← joinedText_of_no_text htext]
    exact .decoded hstatus ⟨document, hparse, .blocks hmessages hblocks⟩

/-- The body of a messages service that thought and wrote nothing. -/
def thoughtBody : String :=
  "\x7b\"content\":[\x7b\"type\":\"thinking\"\x7d],\"model\":\"m\"\x7d"

theorem isMessages_thoughtBody : ∃ document, Document.parse? thoughtBody.toList = some document ∧
    IsMessages document [("thinking", "")] "m" .zero := by
  have hread : ((Document.parse? thoughtBody.toList).bind fun document =>
      (fieldsOf? ["content", "model", "usage"] document).bind fun fields =>
        (Fields.withDefault (items? Envelope.block?) [] "content" fields).bind fun blocks =>
          (Fields.withDefault text? "" "model" fields).bind fun model =>
            (Fields.withDefault (nullable? Envelope.messagesUsage?) none "usage" fields).map
              fun reported => (blocks, model, reported)) =
      some ([("thinking", "")], "m", none) := by decide +kernel
  simp only [Option.bind_eq_some_iff, Option.map_eq_some_iff, Prod.mk.injEq] at hread
  obtain ⟨document, hparse, fields, hfields, blocks, hblocks, model, hmodel, reported, husage,
    rfl, rfl, rfl⟩ := hread
  exact ⟨document, hparse, isMessages_iff.2 ⟨fields, hfields, hblocks, hmodel, none, husage, rfl⟩⟩

/-- An adapter without its key, a refusal that looks like a success, and thoughts without a text. -/
theorem Adapter.outcomes_thought :
    let keyless := Adapter.standard .anthropic "m"
    let adapter := Adapter.standard .openAi "m"
    let request : Request := ⟨"2 x 8GB", none, .text, .finite (.zero false), 0⟩
    let waiting : Sighting := ⟨false, none⟩
    let refusal : Exchange := .answered 503 "\x7b\"choices\":[]\x7d"
    (keyless.provider = .anthropic ∧ keyless.key = "" ∧ [waiting] ≠ [] ∧
      (Call.notStarted.run keyless request [waiting]).result? = some (.error
        (.config "anthropic API key is not set (pass one or export ANTHROPIC_API_KEY)"))) ∧
    (adapter.Usable ∧
      (Call.notStarted.run adapter request [waiting, waiting, ⟨false, some refusal⟩]).result? =
        some (.error (.provider 503 "\x7b\"choices\":[]\x7d"))) ∧
    Classified .anthropic (.answered 200 thoughtBody) (.ok ⟨"", "m", .zero⟩) := by
  intro keyless adapter request waiting refusal
  have husable : adapter.Usable := fun h => by cases h
  have htext : errorText "\x7b\"choices\":[]\x7d" = "\x7b\"choices\":[]\x7d" := by
    decide +kernel
  have hrefused : Classified adapter.provider refusal
      (.error (.provider 503 "\x7b\"choices\":[]\x7d")) := by
    rw [← htext]
    exact .refused (Or.inr (by decide)) _
  have hends : EndsWith refusal [waiting, ⟨false, some refusal⟩] := ⟨1, [], rfl⟩
  have huncancelled : ∀ sighting ∈ [waiting, waiting, ⟨false, some refusal⟩],
      sighting.cancelled = false := by simp [waiting]
  obtain ⟨document, hparse, hmessages⟩ := isMessages_thoughtBody
  refine ⟨⟨rfl, rfl, List.cons_ne_nil _ _, ?_⟩, ⟨husable, ?_⟩, ?_⟩
  · exact ((keyless.outcomes request).1 rfl rfl [waiting]).2 (List.cons_ne_nil _ _)
  · exact ((adapter.outcomes request).2.1 husable _ _ huncancelled _).2
      ⟨refusal, hends, hrefused⟩
  · exact (adapter.outcomes request).2.2.2.2.2 200 thoughtBody document _ _ _ (by decide)
      hparse hmessages (List.cons_ne_nil _ _) (by simp)

end Calls

end ListingAttributes.Generation
