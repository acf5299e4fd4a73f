import Mathlib.Data.List.Permutation
import ListingAttributes.Proofs.Generation.Calls

/-!
# What usage reports do to an answer

The members of an envelope fall into those that hold the text and the model and
those that report usage (`isEnvelope_iff`), and the reader takes both in one
pass.

* `Rewritten`: a document with the same text in which something else stands
  under the members that report usage, or nothing;
* `exists_statesUsage_iff`: the usage can be taken if every such member that is
  stated holds what its provider may report;
* `Adapter.text_of_rewritten`: whatever the usage members of an answer are
  rewritten to, the text is returned as it was if they can still be taken, and
  otherwise lost with them;
* `Adapter.total_of_returned`: the total of a returned usage is the sum of both
  counts for all providers but one, which reports its total itself.
-/

namespace ListingAttributes.Generation

open Json

variable {provider : Provider} {document other : Document}
  {entries others : List (String × Document)}

/-! ### The members of an envelope -/

namespace Provider

/-- The members that hold the text and the model, in order. -/
def textNames : Provider → List String
  | ollama => ["model", "response"]
  | anthropic => ["content", "model"]
  | openAi => ["choices", "model"]

/-- The members that report usage, in order. -/
def usageNames : Provider → List String
  | ollama => ["prompt_eval_count", "eval_count"]
  | anthropic => ["usage"]
  | openAi => ["usage"]

/-- The members of an envelope that are known, in order. -/
def names (provider : Provider) : List String := provider.textNames ++ provider.usageNames

/-- What a provider may report under a usage member: a local server a count, a service null or a
structure of counts. -/
def Reports : Provider → Document → Prop
  | ollama, written => ∃ count, IsCount written count
  | anthropic, written => ∃ usage, IsNullable IsMessagesUsage written usage
  | openAi, written => ∃ usage, IsNullable IsChatUsage written usage

theorem not_mem_usageNames {name : String} (h : name ∈ provider.textNames) :
    name ∉ provider.usageNames := by
  cases provider <;> revert name <;> decide

end Provider

/-- The entries state the content and the model. -/
def StatesText : Provider → List (String × Document) → Option String → String → Prop
  | .ollama, entries, content, model =>
    (∃ text, States IsText "response" entries text ∧ content = some text) ∧
      StatesOr IsText "" "model" entries model
  | .anthropic, entries, content, model =>
    (∃ blocks, StatesOr (IsArray IsBlock) [] "content" entries blocks ∧
      content = if blocks = [] then none else some (joinedText blocks)) ∧
      StatesOr IsText "" "model" entries model
  | .openAi, entries, content, model =>
    (∃ choices, StatesOr (IsArray IsChoice) [] "choices" entries choices ∧
      content = choices.head?) ∧
      StatesOr IsText "" "model" entries model

/-- The entries state the usage. -/
def StatesUsage : Provider → List (String × Document) → Usage → Prop
  | .ollama, entries, usage => ∃ promptTokens completionTokens,
      StatesOr IsCount 0 "prompt_eval_count" entries promptTokens ∧
      StatesOr IsCount 0 "eval_count" entries completionTokens ∧
      usage = Usage.ofCounts promptTokens completionTokens
  | .anthropic, entries, usage => ∃ reported,
      StatesOr (IsNullable IsMessagesUsage) none "usage" entries reported ∧
      usage = reported.getD Usage.zero
  | .openAi, entries, usage => ∃ reported,
      StatesOr (IsNullable IsChatUsage) none "usage" entries reported ∧
      usage = reported.getD Usage.zero

/-- **An envelope states a text and a usage**, each in members of its own. -/
theorem isEnvelope_iff {envelope : Envelope} : IsEnvelope provider document envelope ↔
    ∃ entries, Structured provider.names document entries ∧
      StatesText provider entries envelope.content envelope.model ∧
      StatesUsage provider entries envelope.usage := by
  obtain ⟨content, model, usage⟩ := envelope
  constructor
  · intro h
    cases h with
    | ollama hfields hmodel hcontent hprompt hcompletion =>
        exact ⟨_, hfields, ⟨⟨_, hcontent, rfl⟩, hmodel⟩, _, _, hprompt, hcompletion, rfl⟩
    | anthropic hfields hcontent hmodel husage =>
        exact ⟨_, hfields, ⟨⟨_, hcontent, rfl⟩, hmodel⟩, _, husage, rfl⟩
    | openAi hfields hcontent hmodel husage =>
        exact ⟨_, hfields, ⟨⟨_, hcontent, rfl⟩, hmodel⟩, _, husage, rfl⟩
  · rintro ⟨entries, hfields, htext, husage⟩
    cases provider with
    | ollama =>
        obtain ⟨⟨text, hcontent, rfl⟩, hmodel⟩ := htext
        obtain ⟨promptTokens, completionTokens, hprompt, hcompletion, rfl⟩ := husage
        exact .ollama hfields hmodel hcontent hprompt hcompletion
    | anthropic =>
        obtain ⟨⟨blocks, hcontent, rfl⟩, hmodel⟩ := htext
        obtain ⟨reported, hreported, rfl⟩ := husage
        exact .anthropic hfields hcontent hmodel hreported
    | openAi =>
        obtain ⟨⟨choices, hcontent, rfl⟩, hmodel⟩ := htext
        obtain ⟨reported, hreported, rfl⟩ := husage
        exact .openAi hfields hcontent hmodel hreported

/-- The text is stated in its own members alone. -/
theorem statesText_congr {content : Option String} {model : String}
    (h : ∀ name ∈ provider.textNames, lookup name others = lookup name entries) :
    StatesText provider others content model ↔ StatesText provider entries content model := by
  cases provider with
  | ollama =>
      have hmodel := h "model" (by decide)
      have hresponse := h "response" (by decide)
      simp only [StatesText, States, statesOr_congr hmodel, hresponse]
  | anthropic =>
      have hcontent := h "content" (by decide)
      have hmodel := h "model" (by decide)
      simp only [StatesText, statesOr_congr hcontent, statesOr_congr hmodel]
  | openAi =>
      have hchoices := h "choices" (by decide)
      have hmodel := h "model" (by decide)
      simp only [StatesText, statesOr_congr hchoices, statesOr_congr hmodel]

theorem exists_reported_iff {HasValue : Document → Option Usage → Prop} :
    (∃ usage reported, StatesOr HasValue none "usage" entries reported ∧
        usage = reported.getD Usage.zero) ↔
      ∀ written, lookup "usage" entries = some written → ∃ reported, HasValue written reported :=
  calc (∃ usage reported, StatesOr HasValue none "usage" entries reported ∧
        usage = reported.getD Usage.zero)
      ↔ ∃ reported, StatesOr HasValue none "usage" entries reported :=
        ⟨fun ⟨_, reported, h, _⟩ => ⟨reported, h⟩, fun ⟨reported, h⟩ => ⟨_, reported, h, rfl⟩⟩
    _ ↔ _ := exists_statesOr_iff

/-- **The usage can be taken** if every usage member that is stated holds what the provider may
report. -/
theorem exists_statesUsage_iff : (∃ usage, StatesUsage provider entries usage) ↔
    ∀ name ∈ provider.usageNames, ∀ written, lookup name entries = some written →
      provider.Reports written := by
  cases provider with
  | ollama =>
      have hcount : ∀ name, (∃ count, StatesOr IsCount 0 name entries count) ↔
          ∀ written, lookup name entries = some written → ∃ count, IsCount written count :=
        fun _ => exists_statesOr_iff
      constructor
      · rintro ⟨_, promptTokens, completionTokens, hprompt, hcompletion, -⟩ name hname
        rcases List.mem_cons.1 hname with rfl | hname
        · exact (hcount _).1 ⟨promptTokens, hprompt⟩
        · rw [List.mem_singleton.1 hname]
          exact (hcount _).1 ⟨completionTokens, hcompletion⟩
      · intro h
        obtain ⟨promptTokens, hprompt⟩ := (hcount _).2 (h "prompt_eval_count" (by decide))
        obtain ⟨completionTokens, hcompletion⟩ := (hcount _).2 (h "eval_count" (by decide))
        exact ⟨_, promptTokens, completionTokens, hprompt, hcompletion, rfl⟩
  | anthropic =>
      rw [Provider.usageNames, List.forall_mem_singleton]
      exact exists_reported_iff
  | openAi =>
      rw [Provider.usageNames, List.forall_mem_singleton]
      exact exists_reported_iff

/-! ### Rewriting what is reported -/

/-- The first members with something else under the keys of usage members, or without them. -/
inductive RewrittenMembers (provider : Provider) :
    List (List Piece × Document) → List (List Piece × Document) → Prop where
  | nil : RewrittenMembers provider [] []
  | kept (member : List Piece × Document) {members others : List (List Piece × Document)}
      (hrest : RewrittenMembers provider members others) :
      RewrittenMembers provider (member :: members) (member :: others)
  | replaced {key : List Piece} {name : String} (hkey : textOf? key = some name)
      (hname : name ∈ provider.usageNames) (value other : Document)
      {members others : List (List Piece × Document)}
      (hrest : RewrittenMembers provider members others) :
      RewrittenMembers provider ((key, value) :: members) ((key, other) :: others)
  | omitted {key : List Piece} {name : String} (hkey : textOf? key = some name)
      (hname : name ∈ provider.usageNames) (value : Document)
      {members others : List (List Piece × Document)}
      (hrest : RewrittenMembers provider members others) :
      RewrittenMembers provider ((key, value) :: members) others

/-- The first document with something else under the usage members, or without them.  In an array
they come behind the others. -/
inductive Rewritten (provider : Provider) : Document → Document → Prop where
  | object {members others : List (List Piece × Document)}
      (h : RewrittenMembers provider members others) :
      Rewritten provider (.object members) (.object others)
  | array {front items others : List Document} (hfront : front.length = provider.textNames.length)
      (hfew : others.length ≤ items.length) :
      Rewritten provider (.array (front ++ items)) (.array (front ++ others))

/-- What is rewritten states the same under all other keys, and no key that was not there. -/
theorem RewrittenMembers.keyed {members others : List (List Piece × Document)}
    (h : RewrittenMembers provider members others)
    (hkeys : List.Forall₂ Keyed members entries) :
    ∃ after, List.Forall₂ Keyed others after ∧
      (after.map Prod.fst).Sublist (entries.map Prod.fst) ∧
      ∀ name ∉ provider.usageNames, lookup name after = lookup name entries := by
  induction h generalizing entries with
  | nil =>
      cases hkeys
      exact ⟨[], .nil, List.Sublist.refl _, fun _ _ => rfl⟩
  | kept member _ ih =>
      obtain ⟨entry, rest, hentry, hrest, rfl⟩ := List.forall₂_cons_left_iff.1 hkeys
      obtain ⟨after, hafter, hsublist, hlookup⟩ := ih hrest
      refine ⟨entry :: after, .cons hentry hafter, hsublist.cons_cons _, ?_⟩
      intro name hname
      rw [lookup, lookup, hlookup name hname]
  | replaced hkey husage value other _ ih =>
      obtain ⟨⟨text, _⟩, rest, ⟨htext, rfl⟩, hrest, rfl⟩ := List.forall₂_cons_left_iff.1 hkeys
      obtain ⟨after, hafter, hsublist, hlookup⟩ := ih hrest
      refine ⟨(text, other) :: after, .cons ⟨htext, rfl⟩ hafter, hsublist.cons_cons _, ?_⟩
      obtain rfl : _ = text := Option.some.inj (hkey.symm.trans htext)
      intro name hname
      have hne := ne_of_mem_of_not_mem husage hname
      rw [lookup, lookup, if_neg hne, if_neg hne, hlookup name hname]
  | omitted hkey husage value _ ih =>
      obtain ⟨⟨text, _⟩, rest, ⟨htext, rfl⟩, hrest, rfl⟩ := List.forall₂_cons_left_iff.1 hkeys
      obtain ⟨after, hafter, hsublist, hlookup⟩ := ih hrest
      refine ⟨after, hafter, hsublist.cons _, ?_⟩
      obtain rfl : _ = text := Option.some.inj (hkey.symm.trans htext)
      intro name hname
      have hne := ne_of_mem_of_not_mem husage hname
      rw [lookup, if_neg hne, hlookup name hname]

/-- The items of an array that hold the text come first. -/
theorem lookup_zip_append {front items : List Document}
    (hfront : front.length = provider.textNames.length) {name : String}
    (hname : name ∈ provider.textNames) :
    lookup name (provider.names.zip (front ++ items)) =
      lookup name (provider.textNames.zip front) := by
  have husage : lookup name (provider.usageNames.zip items) = none := by
    rw [lookup_eq_none_iff]
    intro hmem
    obtain ⟨entry, hentry, rfl⟩ := List.mem_map.1 hmem
    exact provider.not_mem_usageNames hname (List.of_mem_zip hentry).1
  rw [Provider.names, List.zip_append hfront.symm, lookup_append, husage, Option.or_none]

/-- **What is rewritten is a structure** again, and it states the same text. -/
theorem Structured.rewritten (h : Rewritten provider document other)
    (hentries : Structured provider.names document entries) :
    ∃ after, Structured provider.names other after ∧
      ∀ name ∈ provider.textNames, lookup name after = lookup name entries := by
  cases h with
  | object hmembers =>
      cases hentries with
      | object hkeys honce =>
          obtain ⟨after, hafter, hsublist, hlookup⟩ := hmembers.keyed hkeys
          refine ⟨after, .object hafter (honce.sublist (hsublist.filter _)), ?_⟩
          intro name hname
          exact hlookup name (provider.not_mem_usageNames hname)
  | array hfront hfew =>
      cases hentries with
      | array hnames =>
          refine ⟨_, .array ?_, ?_⟩
          · rw [List.length_append] at hnames ⊢
            omega
          · intro name hname
            rw [lookup_zip_append hfront hname, lookup_zip_append hfront hname]

/-! ### What rewriting costs -/

/-- Every usage member that is stated holds what the provider may report. -/
def UsageReadable (provider : Provider) (document : Document) : Prop :=
  ∀ entries, Structured provider.names document entries →
    ∀ name ∈ provider.usageNames, ∀ written, lookup name entries = some written →
      provider.Reports written

theorem usageReadable_iff (hentries : Structured provider.names document entries) :
    UsageReadable provider document ↔ ∃ usage, StatesUsage provider entries usage := by
  rw [exists_statesUsage_iff]
  constructor
  · intro h
    exact h entries hentries
  · intro h others hothers
    rw [← hentries.unique hothers]
    exact h

/-- A body that is rewritten under its usage members is decoded to the same text, or malformed. -/
theorem decodeBody_rewritten {body otherBody : String} {response : Response}
    (hbody : Document.parse? body.toList = some document)
    (hother : Document.parse? otherBody.toList = some other)
    (hrewritten : Rewritten provider document other)
    (hresponse : decodeBody provider body = .ok response) :
    (UsageReadable provider other → ∃ usage,
      decodeBody provider otherBody = .ok ⟨response.content, response.model, usage⟩) ∧
    (¬ UsageReadable provider other →
      decodeBody provider otherBody = .error (.parse (provider.name ++ " response: "))) := by
  obtain ⟨found, hfound, henvelope⟩ := decodeBody_eq_ok_iff.1 hresponse
  obtain rfl : document = found := Option.some.inj (hbody.symm.trans hfound)
  obtain ⟨entries, hentries, htext, -⟩ := isEnvelope_iff.1 henvelope
  obtain ⟨after, hafter, hlookup⟩ := hentries.rewritten hrewritten
  constructor
  · intro hreadable
    obtain ⟨usage, husage⟩ := (usageReadable_iff hafter).1 hreadable
    refine ⟨usage, decodeBody_eq_ok_iff.2 ⟨other, hother, ?_⟩⟩
    exact isEnvelope_iff.2 ⟨after, hafter, (statesText_congr hlookup).2 htext, husage⟩
  · intro hunreadable
    apply decodeBody_of_not_isEnvelope
    intro rewritten envelope hparse hrewrittenEnvelope
    obtain rfl : other = rewritten := Option.some.inj (hother.symm.trans hparse)
    obtain ⟨taken, htaken, -, husage⟩ := isEnvelope_iff.1 hrewrittenEnvelope
    exact hunreadable ((usageReadable_iff htaken).2 ⟨_, husage⟩)

namespace Adapter

variable {adapter : Adapter} {request : Request} {status : Nat} {body otherBody : String}
  {response : Response}

/-- A response that is returned is what the body of a success is decoded to. -/
theorem returns_ok_iff (husable : adapter.Usable) :
    adapter.Returns request (.answered status body) (.ok response) ↔
      (200 ≤ status ∧ status < 300) ∧ decodeBody adapter.provider body = .ok response := by
  rw [returns_iff husable, conclude]
  constructor
  · intro h
    split at h
    · next hstatus => exact ⟨hstatus, h⟩
    · cases h
  · rintro ⟨hstatus, hbody⟩
    rw [if_pos hstatus, hbody]

/-- **What usage reports can cost.**  Let the body of an answer be rewritten under its usage
members, to other values or to none.  If all that is stated there can still be taken, the same text
is returned with the same model; if anything cannot, the body is malformed and the text is lost. -/
theorem text_of_rewritten (hbody : Document.parse? body.toList = some document)
    (hother : Document.parse? otherBody.toList = some other)
    (hrewritten : Rewritten adapter.provider document other)
    (hreturns : adapter.Returns request (.answered status body) (.ok response)) :
    (UsageReadable adapter.provider other → ∃ usage,
      adapter.Returns request (.answered status otherBody)
        (.ok ⟨response.content, response.model, usage⟩)) ∧
    (¬ UsageReadable adapter.provider other →
      adapter.Returns request (.answered status otherBody)
        (.error (.parse (adapter.provider.name ++ " response: ")))) := by
  have husable := usable_of_returns hreturns
  obtain ⟨hstatus, hresponse⟩ := (returns_ok_iff husable).1 hreturns
  obtain ⟨hkept, hlost⟩ := decodeBody_rewritten hbody hother hrewritten hresponse
  constructor
  · intro hreadable
    obtain ⟨usage, hdecoded⟩ := hkept hreadable
    exact ⟨usage, (returns_ok_iff husable).2 ⟨hstatus, hdecoded⟩⟩
  · intro hunreadable
    rw [returns_success_iff husable hstatus, hlost hunreadable]

/-- The answer of a local server that reports something for the tokens it generated. -/
def answerOf (count : Document) : Document :=
  objectOf [("response", .string (piecesOf "ram")), ("eval_count", count)]

theorem rewritten_answerOf (count other : Document) :
    Rewritten .ollama (answerOf count) (answerOf other) :=
  .object (.kept _ (.replaced (textOf?_piecesOf "eval_count") (by decide) count other .nil))

theorem structured_answerOf (count : Document) : Structured Provider.ollama.names (answerOf count)
    [("response", .string (piecesOf "ram")), ("eval_count", count)] := by
  have honce : (["response", "eval_count"].filter Provider.ollama.names.contains).Nodup := by
    decide
  exact structured_objectOf honce

/-- A body that says how many tokens were generated. -/
def countedBody : String := "\x7b\"response\":\"ram\",\"eval_count\":2\x7d"

/-- The same body with null in place of the count. -/
def nullBody : String := "\x7b\"response\":\"ram\",\"eval_count\":null\x7d"

theorem parse?_countedBody :
    Document.parse? countedBody.toList = some (answerOf (.number ⟨false, ['2'], [], none⟩)) := by
  cbv

theorem parse?_nullBody : Document.parse? nullBody.toList = some (answerOf .null) := by
  cbv

theorem decodeBody_countedBody :
    decodeBody .ollama countedBody = .ok ⟨"ram", "", ⟨0, 2, 2⟩⟩ := by
  decide +kernel

theorem not_usageReadable_null : ¬ UsageReadable .ollama (answerOf .null) := by
  intro h
  obtain ⟨count, literal, i, hnull, -⟩ :=
    h _ (structured_answerOf .null) "eval_count" (by decide) .null rfl
  cases hnull

theorem text_of_rewritten_null :
    let adapter := standard .ollama "m"
    let request : Request := ⟨"2 x 8GB", none, .text, .finite (.zero false), 0⟩
    let counted := answerOf (.number ⟨false, ['2'], [], none⟩)
    Document.parse? countedBody.toList = some counted ∧
      Document.parse? nullBody.toList = some (answerOf .null) ∧
      Rewritten adapter.provider counted (answerOf .null) ∧
      adapter.Returns request (.answered 200 countedBody) (.ok ⟨"ram", "", ⟨0, 2, 2⟩⟩) ∧
      ¬ UsageReadable adapter.provider (answerOf .null) ∧
      adapter.Returns request (.answered 200 nullBody) (.error (.parse "ollama response: ")) := by
  intro adapter request counted
  have husable : adapter.Usable := fun h => by cases h
  have hreturns : adapter.Returns request (.answered 200 countedBody)
      (.ok ⟨"ram", "", ⟨0, 2, 2⟩⟩) :=
    (returns_ok_iff husable).2 ⟨by decide, decodeBody_countedBody⟩
  have hrewritten : Rewritten adapter.provider counted (answerOf .null) := rewritten_answerOf _ _
  have hlost := (text_of_rewritten parse?_countedBody parse?_nullBody hrewritten hreturns).2
  exact ⟨parse?_countedBody, parse?_nullBody, hrewritten, hreturns, not_usageReadable_null,
    hlost not_usageReadable_null⟩

/-- The body of a chat-completions service that reports this usage. -/
def chatBody (usage : String) : String :=
  "\x7b\"choices\":[\x7b\"message\":\x7b\"content\":\"ram\"\x7d\x7d],\"usage\":" ++ usage
    ++ "\x7d"

/-- A text is lost with null in place of a count, although a service may report null for all. -/
theorem text_lost_with_null_count :
    let server := standard .ollama "m"
    let service := standard .openAi "m"
    let request : Request := ⟨"2 x 8GB", none, .text, .finite (.zero false), 0⟩
    let counted := answerOf (.number ⟨false, ['2'], [], none⟩)
    (Document.parse? countedBody.toList = some counted ∧
      Document.parse? nullBody.toList = some (answerOf .null) ∧
      Rewritten .ollama counted (answerOf .null) ∧
      server.Returns request (.answered 200 countedBody) (.ok ⟨"ram", "", ⟨0, 2, 2⟩⟩) ∧
      server.Returns request (.answered 200 nullBody) (.error (.parse "ollama response: "))) ∧
    service.Returns request (.answered 200 (chatBody "null")) (.ok ⟨"ram", "", .zero⟩) ∧
    service.Returns request (.answered 200 (chatBody "\x7b\"total_tokens\":null\x7d"))
      (.error (.parse "openai response: ")) := by
  intro server service request counted
  have hserver : server.Usable := fun h => by cases h
  have hservice : service.Usable := fun h => by cases h
  refine ⟨⟨parse?_countedBody, parse?_nullBody, rewritten_answerOf _ _, ?_, ?_⟩, ?_, ?_⟩
  · exact (returns_ok_iff hserver).2 ⟨by decide, decodeBody_countedBody⟩
  · rw [returns_iff hserver]
    decide +kernel
  · exact (returns_ok_iff hservice).2 ⟨by decide, by decide +kernel⟩
  · rw [returns_iff hservice]
    decide +kernel

end Adapter

/-! ### Totals -/

namespace Usage

/-- The total is the sum of both counts, or the greatest count where the sum exceeds it. -/
def Totalled (usage : Usage) : Prop :=
  usage.totalTokens.toNat =
    min (usage.promptTokens.toNat + usage.completionTokens.toNat) (UInt32.size - 1)

theorem totalled_ofCounts (promptTokens completionTokens : UInt32) :
    (ofCounts promptTokens completionTokens).Totalled :=
  toNat_saturatingAdd promptTokens completionTokens

theorem totalled_zero : zero.Totalled := by
  rfl

/-- A total of zero is the sum of no tokens only. -/
theorem totalled_iff_of_zero {usage : Usage} (h : usage.totalTokens = 0) :
    usage.Totalled ↔ usage.promptTokens = 0 ∧ usage.completionTokens = 0 := by
  have hsize : 0 < UInt32.size - 1 := by decide
  rw [Totalled, h, UInt32.toNat_zero, ← UInt32.toNat_inj, ← UInt32.toNat_inj, UInt32.toNat_zero]
  omega

end Usage

/-- The usage of a local server and of a messages service is summed up when it is taken. -/
theorem totalled_of_statesUsage {usage : Usage} (hprovider : provider ≠ .openAi)
    (h : StatesUsage provider entries usage) : usage.Totalled := by
  cases provider with
  | ollama =>
      obtain ⟨promptTokens, completionTokens, -, -, rfl⟩ := h
      exact Usage.totalled_ofCounts promptTokens completionTokens
  | anthropic =>
      obtain ⟨reported, hreported, rfl⟩ := h
      rcases hreported with ⟨-, rfl⟩ | ⟨written, -, hwritten⟩
      · exact Usage.totalled_zero
      · rcases hwritten with ⟨-, rfl⟩ | ⟨usage, husage, rfl⟩
        · exact Usage.totalled_zero
        · obtain ⟨_, promptTokens, completionTokens, -, -, -, rfl⟩ := husage
          exact Usage.totalled_ofCounts promptTokens completionTokens
  | openAi => exact absurd rfl hprovider

/-- The counters in the usage of a chat-completions body. -/
def ChatCounters (body : String) (counters : List (String × Document)) : Prop :=
  ∃ document entries written, Document.parse? body.toList = some document ∧
    Structured Provider.openAi.names document entries ∧ lookup "usage" entries = some written ∧
    Structured ["prompt_tokens", "completion_tokens", "total_tokens"] written counters

/-- The usage of a chat-completions service is zero without counters; otherwise it is the counters,
each zero unless it is stated. -/
theorem copied_of_statesUsage {body : String} {usage : Usage}
    (hparse : Document.parse? body.toList = some document)
    (hentries : Structured Provider.openAi.names document entries)
    (h : StatesUsage .openAi entries usage) :
    ((∀ counters, ¬ ChatCounters body counters) → usage = Usage.zero) ∧
    ∀ counters, ChatCounters body counters →
      StatesOr IsCount 0 "prompt_tokens" counters usage.promptTokens ∧
      StatesOr IsCount 0 "completion_tokens" counters usage.completionTokens ∧
      StatesOr IsCount 0 "total_tokens" counters usage.totalTokens := by
  obtain ⟨reported, hreported, rfl⟩ := h
  constructor
  · intro hnone
    rcases hreported with ⟨-, rfl⟩ | ⟨written, hwritten, hvalue⟩
    · rfl
    · rcases hvalue with ⟨-, rfl⟩ | ⟨usage, ⟨counters, hcounters, -⟩, rfl⟩
      · rfl
      · exact absurd ⟨document, entries, written, hparse, hentries, hwritten, hcounters⟩
          (hnone counters)
  · rintro counters ⟨document', entries', written, hparse', hentries', hwritten, hcounters⟩
    obtain rfl : document = document' := Option.some.inj (hparse.symm.trans hparse')
    obtain rfl := hentries.unique hentries'
    rcases hreported with ⟨hmissing, -⟩ | ⟨found, hfound, hvalue⟩
    · rw [hmissing] at hwritten
      cases hwritten
    · obtain rfl : found = written := Option.some.inj (hfound.symm.trans hwritten)
      rcases hvalue with ⟨rfl, -⟩ | ⟨usage, ⟨taken, htaken, hstated⟩, rfl⟩
      · cases hcounters
      · rw [hcounters.unique htaken]
        exact hstated

namespace Adapter

variable {adapter : Adapter} {request : Request} {status : Nat} {body : String}
  {response : Response}

/-- **What the total of a usage is.**  A local server and a messages service do not report one, and
the total of the usage that is returned is the sum of both counts.  For a chat-completions service
it is the total of the body, whatever the counts are, and zero if the body states none: then it is
the sum only if no tokens are stated at all. -/
theorem total_of_returned
    (hreturns : adapter.Returns request (.answered status body) (.ok response)) :
    (adapter.provider ≠ .openAi → response.usage.Totalled) ∧
    (adapter.provider = .openAi →
      ((∀ counters, ¬ ChatCounters body counters) → response.usage = Usage.zero) ∧
      ∀ counters, ChatCounters body counters →
        (StatesOr IsCount 0 "prompt_tokens" counters response.usage.promptTokens ∧
          StatesOr IsCount 0 "completion_tokens" counters response.usage.completionTokens ∧
          StatesOr IsCount 0 "total_tokens" counters response.usage.totalTokens) ∧
        (lookup "total_tokens" counters = none → (response.usage.Totalled ↔
          response.usage.promptTokens = 0 ∧ response.usage.completionTokens = 0))) := by
  obtain ⟨-, hresponse⟩ := (returns_ok_iff (usable_of_returns hreturns)).1 hreturns
  obtain ⟨document, hparse, henvelope⟩ := decodeBody_eq_ok_iff.1 hresponse
  obtain ⟨entries, hentries, -, husage⟩ := isEnvelope_iff.1 henvelope
  constructor
  · intro hprovider
    exact totalled_of_statesUsage hprovider husage
  · intro hprovider
    rw [hprovider] at hentries husage
    obtain ⟨hzero, hcopied⟩ := copied_of_statesUsage hparse hentries husage
    refine ⟨hzero, ?_⟩
    intro counters hcounters
    have hstated := hcopied counters hcounters
    refine ⟨hstated, ?_⟩
    intro hmissing
    rcases hstated.2.2 with ⟨-, htotal⟩ | ⟨written, hwritten, -⟩
    · exact Usage.totalled_iff_of_zero htotal
    · rw [hmissing] at hwritten
      cases hwritten

/-- A body of a chat-completions service that reports both counts and no total. -/
def untotalledBody : String :=
  "\x7b\"choices\":[\x7b\"message\":\x7b\"content\":\"ram\"\x7d\x7d],"
    ++ "\"usage\":\x7b\"prompt_tokens\":5,\"completion_tokens\":6\x7d\x7d"

/-- The counters of that body. -/
def countersOfUntotalled : List (String × Document) :=
  [("prompt_tokens", .number ⟨false, ['5'], [], none⟩),
   ("completion_tokens", .number ⟨false, ['6'], [], none⟩)]

theorem parse?_untotalledBody : Document.parse? untotalledBody.toList = some (objectOf
    [("choices", .array [objectOf [("message", objectOf
        [("content", .string (piecesOf "ram"))])]]),
     ("usage", objectOf countersOfUntotalled)]) := by
  cbv

theorem decodeBody_untotalledBody :
    decodeBody .openAi untotalledBody = .ok ⟨"ram", "", ⟨5, 6, 0⟩⟩ := by
  decide +kernel

theorem chatCounters_untotalledBody : ChatCounters untotalledBody countersOfUntotalled := by
  refine ⟨_, _, _, parse?_untotalledBody, structured_objectOf ?_, rfl, structured_objectOf ?_⟩
  · have honce : (["choices", "usage"].filter Provider.openAi.names.contains).Nodup := by decide
    exact honce
  · have honce : (["prompt_tokens", "completion_tokens"].filter
        ["prompt_tokens", "completion_tokens", "total_tokens"].contains).Nodup := by decide
    exact honce

theorem total_of_returned_unstated :
    let adapter := standard .openAi "m"
    let request : Request := ⟨"2 x 8GB", none, .text, .finite (.zero false), 0⟩
    adapter.Returns request (.answered 200 untotalledBody) (.ok ⟨"ram", "", ⟨5, 6, 0⟩⟩) ∧
      adapter.provider = .openAi ∧ ChatCounters untotalledBody countersOfUntotalled ∧
      lookup "total_tokens" countersOfUntotalled = none ∧ ¬ Usage.Totalled ⟨5, 6, 0⟩ := by
  intro adapter request
  have husable : adapter.Usable := fun h => by cases h
  have hreturns : adapter.Returns request (.answered 200 untotalledBody)
      (.ok ⟨"ram", "", ⟨5, 6, 0⟩⟩) :=
    (returns_ok_iff husable).2 ⟨by decide, decodeBody_untotalledBody⟩
  have hcounters := chatCounters_untotalledBody
  have hmissing : lookup "total_tokens" countersOfUntotalled = none := by rfl
  have htotalled := (((total_of_returned hreturns).2 rfl).2 _ hcounters).2 hmissing
  refine ⟨hreturns, rfl, hcounters, hmissing, ?_⟩
  rw [htotalled]
  decide

/-- A total that is left out counts as zero, and one that is wrong is returned as it is. -/
theorem total_differs_from_sum :
    let adapter := standard .openAi "m"
    let request : Request := ⟨"2 x 8GB", none, .text, .finite (.zero false), 0⟩
    (adapter.Returns request (.answered 200 untotalledBody) (.ok ⟨"ram", "", ⟨5, 6, 0⟩⟩) ∧
      ¬ Usage.Totalled ⟨5, 6, 0⟩) ∧
    adapter.Returns request
        (.answered 200 (chatBody "\x7b\"prompt_tokens\":5,\"total_tokens\":7\x7d"))
        (.ok ⟨"ram", "", ⟨5, 0, 7⟩⟩) ∧
      ¬ Usage.Totalled ⟨5, 0, 7⟩ := by
  intro adapter request
  have husable : adapter.Usable := fun h => by cases h
  refine ⟨⟨?_, ?_⟩, ?_, ?_⟩
  · exact (returns_ok_iff husable).2 ⟨by decide, decodeBody_untotalledBody⟩
  · unfold Usage.Totalled
    decide
  · exact (returns_ok_iff husable).2 ⟨by decide, by decide +kernel⟩
  · unfold Usage.Totalled
    decide

end Adapter

end ListingAttributes.Generation
