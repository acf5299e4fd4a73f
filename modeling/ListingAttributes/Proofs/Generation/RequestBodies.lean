import ListingAttributes.Generation.RequestBody
import ListingAttributes.Proofs.Json.Parts
import ListingAttributes.Proofs.Json.Unambiguous
import ListingAttributes.Proofs.Numeric.ReadingBack
import ListingAttributes.Proofs.Numeric.SameValue
import ListingAttributes.Settings.Extraction

/-!
# What a request body says

Every provider has its own place for the parts of a request.  Reading them from
there gives the parts of the request that a body was made for (`prompt?_ofRequest`,
`system?_ofRequest`, `temperature?_ofRequest`, `budget?_ofRequest`,
`jsonMode?_ofRequest`), so a body tells requests apart that are not the
`SameCall`, and a member is missing exactly if the request leaves it to the
provider (`StatesOnly`).  The text of a body tells as much as the body itself
(`text_inj`).
-/

namespace ListingAttributes.Generation

open Json Numeric Settings

variable {provider : Provider} {r s : Request}

/-! ### Requests that ask for the same -/

/-- The value of a temperature in units, zero for what is no number. -/
def temperatureUnits : Extended binary32 → Int
  | .finite x => x.signedUnits
  | _ => 0

/-- The token budget that a provider is held to; the messages protocol does not know zero. -/
def effectiveBudget (provider : Provider) (maxTokens : UInt32) : UInt32 :=
  if provider = .anthropic ∧ maxTokens = 0 then 1024 else maxTokens

/-- Two requests ask a provider for the same.  The messages protocol has one format only. -/
structure SameCall (provider : Provider) (r s : Request) : Prop where
  prompt : r.prompt = s.prompt
  system : r.system = s.system
  temperature : temperatureUnits r.temperature = temperatureUnits s.temperature
  budget : effectiveBudget provider r.maxTokens = effectiveBudget provider s.maxTokens
  format : provider ≠ .anthropic → r.format = s.format

/-! ### Temperatures -/

theorem exists_finite_of_isTemperature {t : Extended binary32}
    (h : ExtractionSettings.isTemperature t = true) : ∃ x, t = .finite x ∧ 0 ≤ x.signedUnits := by
  cases t with
  | finite x =>
      rw [ExtractionSettings.isTemperature, Bool.and_eq_true, decide_eq_true_eq] at h
      exact ⟨x, rfl, h.1⟩
  | infinite negative => cases h
  | notANumber => cases h

theorem isPositive_finite_iff {x : Binary binary32} :
    isPositive (.finite x) = true ↔ 0 < x.signedUnits := by
  cases hnegative : x.negative <;>
    simp [isPositive, Binary.isZero, Binary.signedUnits, hnegative, Nat.pos_iff_ne_zero]

theorem statedTemperature?_eq (h : ExtractionSettings.isTemperature r.temperature = true) :
    ∃ x, r.temperature = .finite x ∧ 0 ≤ x.signedUnits ∧
      r.statedTemperature? = if 0 < x.signedUnits then some (.finite x) else none := by
  obtain ⟨x, hx, hle⟩ := exists_finite_of_isTemperature h
  refine ⟨x, hx, hle, ?_⟩
  rw [Request.statedTemperature?, hx]
  simp only [isPositive_finite_iff]

theorem isSome_statedTemperature? (h : ExtractionSettings.isTemperature r.temperature = true) :
    r.statedTemperature?.isSome ↔ 0 < temperatureUnits r.temperature := by
  obtain ⟨x, hx, -, hstated⟩ := statedTemperature?_eq h
  rw [hstated, hx, temperatureUnits]
  split <;> simp_all

/-- A temperature is stated if it is greater than zero, and is then the only one of its value. -/
theorem statedTemperature?_eq_iff (hr : ExtractionSettings.isTemperature r.temperature = true)
    (hs : ExtractionSettings.isTemperature s.temperature = true) :
    r.statedTemperature?.map Body.temperature = s.statedTemperature?.map Body.temperature ↔
      temperatureUnits r.temperature = temperatureUnits s.temperature := by
  obtain ⟨x, hx, hx0, hrstated⟩ := statedTemperature?_eq hr
  obtain ⟨y, hy, hy0, hsstated⟩ := statedTemperature?_eq hs
  rw [hrstated, hsstated, hx, hy, temperatureUnits, temperatureUnits]
  by_cases hxpos : 0 < x.signedUnits <;> by_cases hypos : 0 < y.signedUnits
  · rw [if_pos hxpos, if_pos hypos]
    constructor
    · intro h
      simp only [Option.map_some, Body.temperature, Option.some.injEq, Json.number.injEq,
        BodyNumber.single.injEq] at h
      rw [h]
    · intro h
      have hunits : 0 < x.units := by
        rw [← Json.natAbs_signedUnits x]
        omega
      rw [Binary.eq_of_signedUnits_eq h hunits]
  · rw [if_pos hxpos, if_neg hypos]
    simp only [Option.map_some, Option.map_none, reduceCtorEq, false_iff]
    omega
  · rw [if_neg hxpos, if_pos hypos]
    simp only [Option.map_some, Option.map_none, reduceCtorEq, false_iff]
    omega
  · rw [if_neg hxpos, if_neg hypos]
    simp only [Option.map_none, true_iff]
    omega

/-! ### Token budgets -/

/-- The token budget that a body states. -/
def statedBudget? (provider : Provider) (request : Request) : Option UInt32 :=
  if provider = .anthropic then some (request.statedMaxTokens?.getD Body.defaultMaxTokens)
  else request.statedMaxTokens?

theorem statedMaxTokens?_eq (request : Request) :
    request.statedMaxTokens? = if request.maxTokens = 0 then none else some request.maxTokens := by
  rw [Request.statedMaxTokens?]
  by_cases hzero : request.maxTokens = 0
  · rw [if_pos hzero, hzero]
    rfl
  · rw [if_neg hzero, if_pos (UInt32.pos_iff_ne_zero.2 hzero)]

theorem statedBudget?_eq (provider : Provider) (request : Request) :
    statedBudget? provider request =
      if provider ≠ .anthropic ∧ request.maxTokens = 0 then none
      else some (effectiveBudget provider request.maxTokens) := by
  rw [statedBudget?, statedMaxTokens?_eq, effectiveBudget]
  by_cases hzero : request.maxTokens = 0 <;> by_cases hprovider : provider = .anthropic <;>
    simp [hzero, hprovider, Body.defaultMaxTokens]

theorem isSome_statedBudget? (provider : Provider) (request : Request) :
    (statedBudget? provider request).isSome ↔ provider = .anthropic ∨ 0 < request.maxTokens := by
  rw [statedBudget?_eq, UInt32.pos_iff_ne_zero]
  by_cases hzero : request.maxTokens = 0 <;> by_cases hprovider : provider = .anthropic <;>
    simp [hzero, hprovider]

theorem statedBudget?_eq_iff : statedBudget? provider r = statedBudget? provider s ↔
    effectiveBudget provider r.maxTokens = effectiveBudget provider s.maxTokens := by
  rw [statedBudget?_eq, statedBudget?_eq]
  by_cases hprovider : provider = .anthropic
  · simp [hprovider]
  · simp only [effectiveBudget, hprovider, false_and, if_false, ne_eq, not_false_eq_true, true_and]
    by_cases hr : r.maxTokens = 0 <;> by_cases hs : s.maxTokens = 0 <;> simp_all [eq_comm]

namespace Body

/-! ### Places in a body -/

/-- The content of a message, if the message is of a role. -/
def contentOf? (role : String) (message : Body) : Option Body :=
  if message.at? ["role"] = some (.string role) then message.at? ["content"] else none

/-- What the first message of a role says. -/
def said? (role : String) (body : Body) : Option Body :=
  match Json.at? ["messages"] body with
  | some (.array messages) => messages.findSome? (contentOf? role)
  | _ => none

/-- The prompt that a body holds. -/
def prompt? : Provider → Body → Option Body
  | .ollama => Json.at? ["prompt"]
  | .anthropic | .openAi => said? "user"

/-- The system message that a body holds. -/
def system? : Provider → Body → Option Body
  | .ollama | .anthropic => Json.at? ["system"]
  | .openAi => said? "system"

/-- The temperature that a body holds. -/
def temperature? : Provider → Body → Option Body
  | .ollama => Json.at? ["options", "temperature"]
  | .anthropic | .openAi => Json.at? ["temperature"]

/-- The token budget that a body holds. -/
def budget? : Provider → Body → Option Body
  | .ollama => Json.at? ["options", "num_predict"]
  | .anthropic | .openAi => Json.at? ["max_tokens"]

/-- What switches JSON mode on, wherever it stands in a body. -/
def jsonMode? (body : Body) : Option Body :=
  (Json.at? ["format"] body).or (Json.at? ["response_format"] body)

/-- What switches the JSON mode of a provider on. -/
def jsonMode : Provider → Option Body
  | .ollama => some (.string "json")
  | .anthropic => none
  | .openAi => some (.object [("type", .string "json_object")])

/-! ### Reading a body -/

@[simp] theorem lookup_member (key name : String) (value : Option Body) :
    lookup key (member name value) = if name = key then value else none := by
  cases value <;> simp [member, lookup]

theorem contentOf?_message (role name content : String) :
    contentOf? role (message name content) =
      if name = role then some (.string content) else none := by
  simp [contentOf?, message, lookup]

/-- Options that are left out hold as much as an object without members. -/
theorem at?_options (name : String) (request : Request) :
    (options request).bind (Json.at? [name]) =
      lookup name (member "temperature" (request.statedTemperature?.map temperature)
        ++ member "num_predict" (request.statedMaxTokens?.map count)) := by
  unfold options
  generalize member "temperature" _ ++ member "num_predict" _ = members
  cases members <;> simp [lookup]

theorem prompt?_ofRequest (provider : Provider) (model : String) (request : Request) :
    prompt? provider (ofRequest provider model request) = some (.string request.prompt) := by
  cases provider with
  | ollama => simp [ofRequest, ollama, prompt?, lookup]
  | anthropic => simp [ofRequest, anthropic, prompt?, said?, contentOf?_message, lookup]
  | openAi =>
      cases hsystem : request.system <;>
        simp [ofRequest, openAi, chat, hsystem, prompt?, said?, contentOf?_message, lookup]

theorem system?_ofRequest (provider : Provider) (model : String) (request : Request) :
    system? provider (ofRequest provider model request) = request.system.map .string := by
  cases provider with
  | ollama => simp [ofRequest, ollama, system?, lookup]
  | anthropic => simp [ofRequest, anthropic, system?, lookup]
  | openAi =>
      cases hsystem : request.system <;>
        simp [ofRequest, openAi, chat, hsystem, system?, said?, contentOf?_message, lookup]

theorem temperature?_ofRequest (provider : Provider) (model : String) (request : Request) :
    temperature? provider (ofRequest provider model request) =
      request.statedTemperature?.map temperature := by
  cases provider with
  | ollama => simp [ofRequest, ollama, temperature?, at?_options, lookup]
  | anthropic => simp [ofRequest, anthropic, temperature?, lookup]
  | openAi => simp [ofRequest, openAi, temperature?, lookup]

theorem budget?_ofRequest (provider : Provider) (model : String) (request : Request) :
    budget? provider (ofRequest provider model request) =
      (statedBudget? provider request).map count := by
  cases provider with
  | ollama => simp [ofRequest, ollama, budget?, statedBudget?, at?_options, lookup]
  | anthropic => simp [ofRequest, anthropic, budget?, statedBudget?, lookup]
  | openAi => simp [ofRequest, openAi, budget?, statedBudget?, lookup]

theorem jsonMode?_ofRequest (provider : Provider) (model : String) (request : Request) :
    jsonMode? (ofRequest provider model request) =
      if request.wantsJson then jsonMode provider else none := by
  cases provider with
  | ollama => simp [ofRequest, ollama, jsonMode?, jsonMode, lookup]
  | anthropic => simp [ofRequest, anthropic, jsonMode?, jsonMode, lookup]
  | openAi =>
      cases hjson : request.wantsJson <;>
        simp [ofRequest, openAi, hjson, jsonMode?, jsonMode, lookup]

theorem at?_ofRequest_options (provider : Provider) (model : String) (request : Request) :
    (ofRequest provider model request).at? ["options"] =
      if provider = .ollama then options request else none := by
  cases provider with
  | ollama => simp [ofRequest, ollama, lookup]
  | anthropic => simp [ofRequest, anthropic, lookup]
  | openAi => simp [ofRequest, openAi, lookup]

/-! ### Bodies and requests -/

theorem wantsJson_eq (h : SameCall provider r s) (hprovider : provider ≠ .anthropic) :
    r.wantsJson = s.wantsJson := by
  rw [Request.wantsJson, Request.wantsJson, h.format hprovider]

theorem statedMaxTokens?_congr (h : SameCall provider r s) (hprovider : provider ≠ .anthropic) :
    r.statedMaxTokens? = s.statedMaxTokens? := by
  have hbudget := statedBudget?_eq_iff.2 h.budget
  rwa [statedBudget?, statedBudget?, if_neg hprovider, if_neg hprovider] at hbudget

theorem ofRequest_congr (hr : ExtractionSettings.isTemperature r.temperature = true)
    (hs : ExtractionSettings.isTemperature s.temperature = true) (h : SameCall provider r s)
    (model : String) : ofRequest provider model r = ofRequest provider model s := by
  have htemperature := (statedTemperature?_eq_iff hr hs).2 h.temperature
  cases provider with
  | ollama =>
      have hjson := wantsJson_eq h (by decide)
      have hbudget := statedMaxTokens?_congr h (by decide)
      simp only [ofRequest, ollama, options, h.prompt, h.system, htemperature, hbudget, hjson]
  | anthropic =>
      have hbudget := statedBudget?_eq_iff.2 h.budget
      rw [statedBudget?, statedBudget?, if_pos rfl, if_pos rfl, Option.some.injEq] at hbudget
      simp only [ofRequest, anthropic, h.prompt, h.system, htemperature, hbudget]
  | openAi =>
      have hjson := wantsJson_eq h (by decide)
      have hbudget := statedMaxTokens?_congr h (by decide)
      simp only [ofRequest, openAi, chat, h.prompt, h.system, htemperature, hbudget, hjson]

theorem format_eq_of_jsonMode (hprovider : provider ≠ .anthropic)
    (h : (if r.wantsJson then jsonMode provider else none) =
      if s.wantsJson then jsonMode provider else none) : r.format = s.format := by
  cases provider with
  | anthropic => exact absurd rfl hprovider
  | _ =>
      cases hr : r.format <;> cases hs : s.format <;>
        simp_all [Request.wantsJson, jsonMode]

/-- **Equal bodies** come from requests that ask for the same. -/
theorem ofRequest_eq_iff (hr : ExtractionSettings.isTemperature r.temperature = true)
    (hs : ExtractionSettings.isTemperature s.temperature = true) (model : String) :
    ofRequest provider model r = ofRequest provider model s ↔ SameCall provider r s := by
  refine ⟨fun h => ?_, fun h => ofRequest_congr hr hs h model⟩
  have hprompt := congrArg (prompt? provider) h
  have hsystem := congrArg (system? provider) h
  have htemperature := congrArg (temperature? provider) h
  have hbudget := congrArg (budget? provider) h
  have hjson := congrArg jsonMode? h
  rw [prompt?_ofRequest, prompt?_ofRequest] at hprompt
  rw [system?_ofRequest, system?_ofRequest] at hsystem
  rw [temperature?_ofRequest, temperature?_ofRequest] at htemperature
  rw [budget?_ofRequest, budget?_ofRequest] at hbudget
  rw [jsonMode?_ofRequest, jsonMode?_ofRequest] at hjson
  have hcount : Function.Injective count := fun m n heq => by
    rw [count, count, Json.number.injEq, BodyNumber.count.injEq] at heq
    exact heq
  exact
    { prompt := Json.string.inj (Option.some.inj hprompt)
      system := Option.map_injective (fun _ _ => Json.string.inj) hsystem
      temperature := (statedTemperature?_eq_iff hr hs).1 htemperature
      budget := statedBudget?_eq_iff.1 (Option.map_injective hcount hbudget)
      format := fun hprovider => format_eq_of_jsonMode hprovider hjson }

/-! ### Members that are left out -/

/-- A body leaves out what a request leaves to the provider and nothing else, and holds no null. -/
structure StatesOnly (provider : Provider) (request : Request) (body : Body) : Prop where
  temperature : (temperature? provider body).isSome ↔ 0 < temperatureUnits request.temperature
  budget : (budget? provider body).isSome ↔ provider = .anthropic ∨ 0 < request.maxTokens
  system : (system? provider body).isSome ↔ request.system.isSome
  jsonMode : (jsonMode? body).isSome ↔ request.format = .json ∧ provider ≠ .anthropic
  options : (body.at? ["options"]).isSome ↔ provider = .ollama ∧
    (0 < temperatureUnits request.temperature ∨ 0 < request.maxTokens)
  options_ne : body.at? ["options"] ≠ some (.object [])
  nullFree : NullFree body

theorem isSome_options (request : Request) : (options request).isSome ↔
    request.statedTemperature?.isSome ∨ request.statedMaxTokens?.isSome := by
  unfold options
  cases request.statedTemperature? <;> cases request.statedMaxTokens? <;> simp [member]

theorem options_ne_empty (request : Request) : options request ≠ some (.object []) := by
  unfold options
  generalize member "temperature" _ ++ member "num_predict" _ = members
  cases members <;> simp

theorem forall_member_iff {P : Body → Prop} {key : String} {value : Option Body} :
    (∀ m ∈ member key value, P m.2) ↔ ∀ v ∈ value, P v := by
  cases value <;> simp [member]

theorem nullFree_temperature (hr : ExtractionSettings.isTemperature r.temperature = true) :
    ∀ value ∈ r.statedTemperature?.map temperature, NullFree value := by
  obtain ⟨x, -, -, hstated⟩ := statedTemperature?_eq hr
  intro value hvalue
  rw [hstated] at hvalue
  split at hvalue
  · obtain rfl : temperature (.finite x) = value := by simpa using hvalue
    exact nullFree_number _
  · cases hvalue

theorem nullFree_options (hr : ExtractionSettings.isTemperature r.temperature = true) :
    ∀ value ∈ options r, NullFree value := by
  have htemperature := nullFree_temperature hr
  intro value hvalue
  unfold options at hvalue
  split at hvalue
  · cases hvalue
  · next members hmembers =>
    obtain rfl := Option.some.inj hvalue
    rw [nullFree_object, List.forall_mem_append, forall_member_iff, forall_member_iff]
    exact ⟨htemperature, by simp [count]⟩

theorem nullFree_chat (request : Request) : ∀ item ∈ chat request, NullFree item := by
  unfold chat
  split <;> simp [message]

theorem nullFree_ofRequest (hr : ExtractionSettings.isTemperature r.temperature = true)
    (provider : Provider) (model : String) : NullFree (ofRequest provider model r) := by
  have htemperature := nullFree_temperature hr
  cases provider with
  | ollama =>
      simp only [ofRequest, ollama, nullFree_object, List.forall_mem_append,
        List.forall_mem_cons, forall_member_iff]
      simpa using nullFree_options hr
  | anthropic =>
      simp only [ofRequest, anthropic, nullFree_object, List.forall_mem_append,
        List.forall_mem_cons, forall_member_iff]
      simpa [count, message] using htemperature
  | openAi =>
      have hchat : NullFree (.array (chat r)) := nullFree_array.2 (nullFree_chat r)
      simp only [ofRequest, openAi, nullFree_object, List.forall_mem_append,
        List.forall_mem_cons, forall_member_iff]
      simpa [count, hchat] using htemperature

theorem statesOnly_ofRequest (hr : ExtractionSettings.isTemperature r.temperature = true)
    (provider : Provider) (model : String) :
    StatesOnly provider r (ofRequest provider model r) where
  temperature := by
    rw [temperature?_ofRequest, Option.isSome_map, isSome_statedTemperature? hr]
  budget := by rw [budget?_ofRequest, Option.isSome_map, isSome_statedBudget?]
  system := by rw [system?_ofRequest, Option.isSome_map]
  jsonMode := by
    rw [jsonMode?_ofRequest]
    cases hformat : r.format <;> cases provider <;>
      simp [Request.wantsJson, hformat, Body.jsonMode]
  options := by
    rw [at?_ofRequest_options]
    by_cases hprovider : provider = .ollama
    · have hbudget := isSome_statedBudget? .ollama r
      rw [statedBudget?, if_neg (by decide)] at hbudget
      rw [if_pos hprovider, isSome_options, isSome_statedTemperature? hr, hbudget]
      simp [hprovider]
    · simp [hprovider]
  options_ne := by
    rw [at?_ofRequest_options]
    split
    · exact options_ne_empty r
    · nofun
  nullFree := nullFree_ofRequest hr provider model

/-! ### Bodies and their texts -/

theorem exists_not_digit (d : Decimal) :
    ∃ c ∈ jsonStyle.decimalText d, Text.isAsciiDigit c = false := by
  unfold Style.decimalText
  dsimp only [jsonStyle]
  split
  · refine ⟨'.', ?_, by decide⟩
    unfold positionalText
    dsimp only
    split
    · simp
    · split <;> simp
  · refine ⟨'e', ?_, by decide⟩
    unfold scientificText
    simp

theorem text_count_ne_single (n : UInt32) (x : Binary binary32) :
    (BodyNumber.count n).text ≠ (BodyNumber.single x).text := by
  intro h
  obtain ⟨c, hc, hdigit⟩ := exists_not_digit (x.shortest jsonStyle.tie)
  have hmem : c ∈ digitsOf n.toNat := by
    have : c ∈ (BodyNumber.single x).text := List.mem_append_right _ hc
    rwa [← h] at this
  rw [isAsciiDigit_of_mem_digitsOf hmem] at hdigit
  cases hdigit

/-- Numbers in bodies have texts of their own. -/
theorem faithful_bodyNumber : Faithful BodyNumber.text where
  injective := by
    intro a b h
    cases a with
    | count m =>
        cases b with
        | count n =>
            have hvalue := congrArg Text.decimalValue h
            rw [BodyNumber.text, BodyNumber.text, decimalValue_digitsOf, decimalValue_digitsOf]
              at hvalue
            rw [UInt32.toNat_inj.1 hvalue]
        | single y => exact absurd h (text_count_ne_single m y)
    | single x =>
        cases b with
        | count n => exact absurd h.symm (text_count_ne_single n x)
        | single y => rw [Numeric.text_injective h]
  ne_nil := by
    rintro (n | x)
    · exact digitsOf_ne_nil n.toNat
    · exact text_ne_nil jsonStyle x
  plain := by
    rintro (n | x) c hc
    · exact isNumberChar_of_mem_digitsOf hc
    · exact isNumberChar_of_mem_text hc

/-- **Different bodies have different texts.** -/
theorem text_inj {a b : Body} : a.text = b.text ↔ a = b :=
  ⟨fun h => textWith_injective faithful_bodyNumber h, fun h => by rw [h]⟩

/-- **Bodies are faithful to requests.**  Of requests with temperatures between zero and two, those
and only those that ask a provider for the same have the same body, and the same text of a body.  A
body has a member for what the request states, none for what it leaves to the provider, and no
null. -/
theorem ofRequest_faithful (provider : Provider) (model : String) :
    (∀ r s : Request, ExtractionSettings.isTemperature r.temperature = true →
      ExtractionSettings.isTemperature s.temperature = true →
        (ofRequest provider model r = ofRequest provider model s ↔ SameCall provider r s) ∧
        (Body.text (ofRequest provider model r) = Body.text (ofRequest provider model s) ↔
          SameCall provider r s)) ∧
    ∀ r : Request, ExtractionSettings.isTemperature r.temperature = true →
      StatesOnly provider r (ofRequest provider model r) := by
  refine ⟨fun r s hr hs => ?_, fun r hr => statesOnly_ofRequest hr provider model⟩
  exact ⟨ofRequest_eq_iff hr hs model, text_inj.trans (ofRequest_eq_iff hr hs model)⟩

/-- For a messages service the standard budget, a zero with a sign and another format make no
difference; for a local server an empty system message does. -/
theorem ofRequest_faithful_zero :
    let r : Request := ⟨"2 x 8GB", none, .json, .finite (.zero true), 0⟩
    let s : Request := ⟨"2 x 8GB", none, .text, .finite (.zero false), 1024⟩
    let t : Request := ⟨"2 x 8GB", some "", .json, .finite (.zero false), 0⟩
    ExtractionSettings.isTemperature r.temperature = true ∧
      ExtractionSettings.isTemperature s.temperature = true ∧
      ExtractionSettings.isTemperature t.temperature = true ∧
      Body.text (ofRequest .anthropic "m" r) = Body.text (ofRequest .anthropic "m" s) ∧
      Body.text (ofRequest .ollama "m" r) ≠ Body.text (ofRequest .ollama "m" t) ∧
      (Json.at? ["options"] (ofRequest .ollama "m" r)).isSome = false := by
  intro r s t
  have hr : ExtractionSettings.isTemperature r.temperature = true := by decide +kernel
  have hs : ExtractionSettings.isTemperature s.temperature = true := by decide +kernel
  have ht : ExtractionSettings.isTemperature t.temperature = true := by decide +kernel
  refine ⟨hr, hs, ht, ?_, ?_, ?_⟩
  · exact (((ofRequest_faithful .anthropic "m").1 r s hr hs).2).2
      ⟨rfl, rfl, rfl, by decide, fun h => absurd rfl h⟩
  · intro heq
    exact absurd ((((ofRequest_faithful .ollama "m").1 r t hr ht).2).1 heq).system (by decide)
  · rw [← Bool.not_eq_true, ((ofRequest_faithful .ollama "m").2 r hr).options]
    decide +kernel

end Body

end ListingAttributes.Generation
