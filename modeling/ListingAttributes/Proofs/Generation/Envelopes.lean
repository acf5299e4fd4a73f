import ListingAttributes.Proofs.Generation.Structures

/-!
# What an envelope carries

`IsEnvelope` says for each provider which documents are envelopes and what is
taken from them, in terms of what structures state; nothing in it depends on
the order of members or on members that are not known.  An envelope is exactly
what is read as one (`ofDocument?_eq_some_iff`), and a body is decoded to a
response with a text exactly if it carries the text (`decodeBody_content_iff`).
-/

namespace ListingAttributes.Generation

open Json

/-! ### Parts of envelopes -/

/-- A block with its type and its text, which is empty unless it is stated. -/
def IsBlock (document : Document) (block : String × String) : Prop :=
  ∃ entries, Structured ["type", "text"] document entries ∧
    States IsText "type" entries block.1 ∧ StatesOr IsText "" "text" entries block.2

/-- A message with its content, which is empty if it is null or not stated. -/
def IsMessage (document : Document) (text : String) : Prop :=
  ∃ entries content, Structured ["content"] document entries ∧
    StatesOr (IsNullable IsText) none "content" entries content ∧ text = content.getD ""

/-- A choice with the content of its message. -/
def IsChoice (document : Document) (text : String) : Prop :=
  ∃ entries, Structured ["message"] document entries ∧ States IsMessage "message" entries text

/-- The usage of a messages service. -/
def IsMessagesUsage (document : Document) (usage : Usage) : Prop :=
  ∃ entries promptTokens completionTokens,
    Structured ["input_tokens", "output_tokens"] document entries ∧
      StatesOr IsCount 0 "input_tokens" entries promptTokens ∧
      StatesOr IsCount 0 "output_tokens" entries completionTokens ∧
      usage = Usage.ofCounts promptTokens completionTokens

/-- The usage of a chat-completions service. -/
def IsChatUsage (document : Document) (usage : Usage) : Prop :=
  ∃ entries, Structured ["prompt_tokens", "completion_tokens", "total_tokens"] document entries ∧
    StatesOr IsCount 0 "prompt_tokens" entries usage.promptTokens ∧
    StatesOr IsCount 0 "completion_tokens" entries usage.completionTokens ∧
    StatesOr IsCount 0 "total_tokens" entries usage.totalTokens

/-- The texts of the blocks of type text, joined in order. -/
def joinedText (blocks : List (String × String)) : String :=
  String.join ((blocks.filter fun block => block.1 = "text").map Prod.snd)

theorem block?_eq_some_iff (document : Document) (block : String × String) :
    Envelope.block? document = some block ↔ IsBlock document block := by
  unfold Envelope.block? IsBlock
  simp only [Option.bind_eq_bind, Option.bind_eq_some_iff, Option.pure_def, exists_fieldsOf?_iff,
    required_eq_some_iff text?_eq_some_iff, withDefault_eq_some_iff text?_eq_some_iff,
    List.mem_cons, true_or, or_true]
  constructor
  · rintro ⟨entries, hfields, kind, hkind, text, htext, hblock⟩
    cases hblock
    exact ⟨entries, hfields, hkind, htext⟩
  · rintro ⟨entries, hfields, hkind, htext⟩
    exact ⟨entries, hfields, block.1, hkind, block.2, htext, rfl⟩

theorem not_isText_null (text : String) : ¬ IsText .null text := by
  rintro ⟨pieces, hpieces, -⟩
  cases hpieces

theorem chatMessage?_eq_some_iff (document : Document) (text : String) :
    Envelope.chatMessage? document = some text ↔ IsMessage document text := by
  have hread := nullable?_eq_some_iff text?_eq_some_iff not_isText_null
  unfold Envelope.chatMessage? IsMessage
  simp only [Option.bind_eq_bind, Option.bind_eq_some_iff, Option.pure_def, exists_fieldsOf?_iff,
    withDefault_eq_some_iff hread, List.mem_cons, true_or]
  constructor
  · rintro ⟨entries, hfields, content, hcontent, htext⟩
    exact ⟨entries, content, hfields, hcontent, (Option.some.inj htext).symm⟩
  · rintro ⟨entries, content, hfields, hcontent, rfl⟩
    exact ⟨entries, hfields, content, hcontent, rfl⟩

theorem choice?_eq_some_iff (document : Document) (text : String) :
    Envelope.choice? document = some text ↔ IsChoice document text := by
  unfold Envelope.choice? IsChoice
  simp only [Option.bind_eq_bind, Option.bind_eq_some_iff, exists_fieldsOf?_iff,
    required_eq_some_iff chatMessage?_eq_some_iff, List.mem_cons, true_or]

theorem messagesUsage?_eq_some_iff (document : Document) (usage : Usage) :
    Envelope.messagesUsage? document = some usage ↔ IsMessagesUsage document usage := by
  unfold Envelope.messagesUsage? IsMessagesUsage
  simp only [Option.bind_eq_bind, Option.bind_eq_some_iff, Option.pure_def, exists_fieldsOf?_iff,
    withDefault_eq_some_iff count?_eq_some_iff, List.mem_cons, true_or, or_true]
  constructor
  · rintro ⟨entries, hfields, prompt, hprompt, completion, hcompletion, husage⟩
    exact ⟨entries, prompt, completion, hfields, hprompt, hcompletion,
      (Option.some.inj husage).symm⟩
  · rintro ⟨entries, prompt, completion, hfields, hprompt, hcompletion, rfl⟩
    exact ⟨entries, hfields, prompt, hprompt, completion, hcompletion, rfl⟩

theorem chatUsage?_eq_some_iff (document : Document) (usage : Usage) :
    Envelope.chatUsage? document = some usage ↔ IsChatUsage document usage := by
  unfold Envelope.chatUsage? IsChatUsage
  simp only [Option.bind_eq_bind, Option.bind_eq_some_iff, Option.pure_def, exists_fieldsOf?_iff,
    withDefault_eq_some_iff count?_eq_some_iff, List.mem_cons, true_or, or_true]
  constructor
  · rintro ⟨entries, hfields, prompt, hprompt, completion, hcompletion, total, htotal, husage⟩
    cases husage
    exact ⟨entries, hfields, hprompt, hcompletion, htotal⟩
  · rintro ⟨entries, hfields, hprompt, hcompletion, htotal⟩
    exact ⟨entries, hfields, _, hprompt, _, hcompletion, _, htotal, rfl⟩

theorem textOfBlocks_eq (blocks : List (String × String)) :
    Envelope.textOfBlocks blocks = joinedText blocks := by
  induction blocks with
  | nil => rfl
  | cons block blocks ih =>
      obtain ⟨kind, text⟩ := block
      unfold joinedText at ih ⊢
      rw [Envelope.textOfBlocks, List.filter_cons]
      by_cases hkind : kind = "text"
      · simp [hkind, ih]
      · simp [hkind, ih]

/-! ### Envelopes -/

/-- The envelopes of each provider, and what is taken from them. -/
inductive IsEnvelope : Provider → Document → Envelope → Prop where
  | ollama {document : Document} {entries : List (String × Document)} {model text : String}
      {promptTokens completionTokens : UInt32}
      (hfields : Structured ["model", "response", "prompt_eval_count", "eval_count"]
        document entries)
      (hmodel : StatesOr IsText "" "model" entries model)
      (hcontent : States IsText "response" entries text)
      (hprompt : StatesOr IsCount 0 "prompt_eval_count" entries promptTokens)
      (hcompletion : StatesOr IsCount 0 "eval_count" entries completionTokens) :
      IsEnvelope .ollama document
        ⟨some text, model, Usage.ofCounts promptTokens completionTokens⟩
  | anthropic {document : Document} {entries : List (String × Document)}
      {blocks : List (String × String)} {model : String} {usage : Option Usage}
      (hfields : Structured ["content", "model", "usage"] document entries)
      (hcontent : StatesOr (IsArray IsBlock) [] "content" entries blocks)
      (hmodel : StatesOr IsText "" "model" entries model)
      (husage : StatesOr (IsNullable IsMessagesUsage) none "usage" entries usage) :
      IsEnvelope .anthropic document
        ⟨if blocks = [] then none else some (joinedText blocks), model, usage.getD Usage.zero⟩
  | openAi {document : Document} {entries : List (String × Document)} {choices : List String}
      {model : String} {usage : Option Usage}
      (hfields : Structured ["choices", "model", "usage"] document entries)
      (hcontent : StatesOr (IsArray IsChoice) [] "choices" entries choices)
      (hmodel : StatesOr IsText "" "model" entries model)
      (husage : StatesOr (IsNullable IsChatUsage) none "usage" entries usage) :
      IsEnvelope .openAi document ⟨choices.head?, model, usage.getD Usage.zero⟩

theorem not_isMessagesUsage_null (usage : Usage) : ¬ IsMessagesUsage .null usage := by
  rintro ⟨entries, _, _, hfields, -⟩
  cases hfields

theorem not_isChatUsage_null (usage : Usage) : ¬ IsChatUsage .null usage := by
  rintro ⟨entries, hfields, -⟩
  cases hfields

theorem ollama?_eq_some_iff {document : Document} {envelope : Envelope} :
    Envelope.ollama? document = some envelope ↔ IsEnvelope .ollama document envelope := by
  unfold Envelope.ollama?
  simp only [Option.bind_eq_bind, Option.bind_eq_some_iff, Option.pure_def, exists_fieldsOf?_iff,
    required_eq_some_iff text?_eq_some_iff, withDefault_eq_some_iff text?_eq_some_iff,
    withDefault_eq_some_iff count?_eq_some_iff, List.mem_cons, true_or, or_true]
  constructor
  · rintro ⟨entries, hfields, model, hmodel, text, htext, prompt, hprompt, completion,
      hcompletion, henvelope⟩
    cases henvelope
    exact .ollama hfields hmodel htext hprompt hcompletion
  · intro h
    cases h with
    | ollama hfields hmodel hcontent hprompt hcompletion =>
        exact ⟨_, hfields, _, hmodel, _, hcontent, _, hprompt, _, hcompletion, rfl⟩

theorem anthropic?_eq_some_iff {document : Document} {envelope : Envelope} :
    Envelope.anthropic? document = some envelope ↔ IsEnvelope .anthropic document envelope := by
  have hblocks := items?_eq_some_iff block?_eq_some_iff
  have husages := nullable?_eq_some_iff messagesUsage?_eq_some_iff not_isMessagesUsage_null
  unfold Envelope.anthropic?
  simp only [Option.bind_eq_bind, Option.bind_eq_some_iff, Option.pure_def, exists_fieldsOf?_iff,
    withDefault_eq_some_iff hblocks, withDefault_eq_some_iff text?_eq_some_iff,
    withDefault_eq_some_iff husages, textOfBlocks_eq, List.mem_cons, true_or, or_true]
  constructor
  · rintro ⟨entries, hfields, blocks, hcontent, model, hmodel, usage, husage, henvelope⟩
    cases henvelope
    exact .anthropic hfields hcontent hmodel husage
  · intro h
    cases h with
    | anthropic hfields hcontent hmodel husage =>
        exact ⟨_, hfields, _, hcontent, _, hmodel, _, husage, rfl⟩

theorem openAi?_eq_some_iff {document : Document} {envelope : Envelope} :
    Envelope.openAi? document = some envelope ↔ IsEnvelope .openAi document envelope := by
  have hchoices := items?_eq_some_iff choice?_eq_some_iff
  have husages := nullable?_eq_some_iff chatUsage?_eq_some_iff not_isChatUsage_null
  unfold Envelope.openAi?
  simp only [Option.bind_eq_bind, Option.bind_eq_some_iff, Option.pure_def, exists_fieldsOf?_iff,
    withDefault_eq_some_iff hchoices, withDefault_eq_some_iff text?_eq_some_iff,
    withDefault_eq_some_iff husages, List.mem_cons, true_or, or_true]
  constructor
  · rintro ⟨entries, hfields, choices, hcontent, model, hmodel, usage, husage, henvelope⟩
    cases henvelope
    exact .openAi hfields hcontent hmodel husage
  · intro h
    cases h with
    | openAi hfields hcontent hmodel husage =>
        exact ⟨_, hfields, _, hcontent, _, hmodel, _, husage, rfl⟩

/-- **An envelope is what is read as one**, for every provider. -/
theorem ofDocument?_eq_some_iff {provider : Provider} {document : Document}
    {envelope : Envelope} :
    Envelope.ofDocument? provider document = some envelope ↔
      IsEnvelope provider document envelope := by
  cases provider with
  | ollama => exact ollama?_eq_some_iff
  | anthropic => exact anthropic?_eq_some_iff
  | openAi => exact openAi?_eq_some_iff

/-! ### Bodies -/

theorem response_eq_ok_iff {envelope : Envelope} {response : Response} :
    envelope.response = .ok response ↔
      envelope = ⟨some response.content, response.model, response.usage⟩ := by
  obtain ⟨content, model, usage⟩ := envelope
  obtain ⟨text, responseModel, responseUsage⟩ := response
  cases content <;> simp [Envelope.response]

/-- A body that is an envelope is decoded to what the envelope holds. -/
theorem decodeBody_of_isEnvelope {provider : Provider} {body : String} {document : Document}
    {envelope : Envelope} (hparse : Document.parse? body.toList = some document)
    (henvelope : IsEnvelope provider document envelope) :
    decodeBody provider body = envelope.response := by
  rw [decodeBody, hparse, Option.bind_some, ofDocument?_eq_some_iff.2 henvelope]

/-- A body that is no envelope is malformed. -/
theorem decodeBody_of_not_isEnvelope {provider : Provider} {body : String}
    (h : ∀ document envelope, Document.parse? body.toList = some document →
      ¬ IsEnvelope provider document envelope) :
    decodeBody provider body = .error (.parse (provider.name ++ " response: ")) := by
  have hnone : (Document.parse? body.toList).bind (Envelope.ofDocument? provider) = none := by
    rw [Option.bind_eq_none_iff]
    intro document hparse
    rw [Option.eq_none_iff_forall_ne_some]
    intro envelope henvelope
    exact h document envelope hparse (ofDocument?_eq_some_iff.1 henvelope)
  rw [decodeBody, hnone]

/-- **A body is decoded to a response** if it is an envelope that holds it. -/
theorem decodeBody_eq_ok_iff {provider : Provider} {body : String} {response : Response} :
    decodeBody provider body = .ok response ↔
      ∃ document, Document.parse? body.toList = some document ∧ IsEnvelope provider document
        ⟨some response.content, response.model, response.usage⟩ := by
  constructor
  · intro h
    by_cases hsome : ∃ document envelope, Document.parse? body.toList = some document ∧
        IsEnvelope provider document envelope
    · obtain ⟨document, envelope, hparse, henvelope⟩ := hsome
      rw [decodeBody_of_isEnvelope hparse henvelope, response_eq_ok_iff] at h
      exact ⟨document, hparse, h ▸ henvelope⟩
    · rw [decodeBody_of_not_isEnvelope fun document envelope hparse henvelope =>
        hsome ⟨document, envelope, hparse, henvelope⟩] at h
      cases h
  · rintro ⟨document, hparse, henvelope⟩
    rw [decodeBody_of_isEnvelope hparse henvelope]
    rfl

/-- The body is an envelope of the provider with the text as its content. -/
def Carries (provider : Provider) (body text : String) : Prop :=
  ∃ document envelope, Document.parse? body.toList = some document ∧
    IsEnvelope provider document envelope ∧ envelope.content = some text

/-- **A body is decoded to a response with a text** exactly if it carries the text. -/
theorem decodeBody_content_iff {provider : Provider} {body text : String} :
    (∃ response, decodeBody provider body = .ok response ∧ response.content = text) ↔
      Carries provider body text := by
  unfold decodeBody Carries
  constructor
  · rintro ⟨response, hresponse, rfl⟩
    split at hresponse
    · next envelope henvelope =>
      obtain ⟨document, hparse, hdocument⟩ := Option.bind_eq_some_iff.1 henvelope
      refine ⟨document, envelope, hparse, ofDocument?_eq_some_iff.1 hdocument, ?_⟩
      unfold Envelope.response at hresponse
      split at hresponse
      · next content hcontent =>
        rw [hcontent, ← Except.ok.inj hresponse]
      · cases hresponse
    · cases hresponse
  · rintro ⟨document, envelope, hparse, henvelope, hcontent⟩
    refine ⟨⟨text, envelope.model, envelope.usage⟩, ?_, rfl⟩
    rw [hparse, Option.bind_some, ofDocument?_eq_some_iff.2 henvelope]
    dsimp only
    rw [Envelope.response, hcontent]

end ListingAttributes.Generation
