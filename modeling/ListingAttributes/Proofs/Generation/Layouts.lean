import ListingAttributes.Proofs.Generation.UsageReports

/-!
# The layouts that are read

A structure has two layouts: an object, where its members are named, and an
array, where they stand in the order of their names.

* `structured_array_iff`: an array states what the object with its items under
  the names states, and a longer array is no structure;
* `resultOf_array`: so the body of a success may be an array, which counts as
  that object;
* `errorBody?_eq_some_iff`: the same holds for an error and for its detail, but
  here no item may be missing;
* `errorText_eq_iff`: the text of an error is the one it states, and the whole
  body if there is none.
-/

namespace ListingAttributes.Generation

open Json

variable {provider : Provider} {document other : Document} {body : String}

/-! ### Arrays -/

/-- A document that is made of no others. -/
def IsScalar : Document → Prop
  | .array _ => False
  | .object _ => False
  | _ => True

theorem not_structured_of_isScalar (h : IsScalar document) {names : List String}
    {entries : List (String × Document)} : ¬ Structured names document entries := by
  intro hentries
  cases hentries <;> exact h

/-- **An array states what the object** with its items under the names in order states. -/
theorem structured_array_iff {names : List String} {items : List Document}
    {entries : List (String × Document)} (hnames : names.Nodup)
    (hfew : items.length ≤ names.length) :
    Structured names (.array items) entries ↔
      Structured names (objectOf (names.zip items)) entries := by
  have honce : ((names.zip items).map Prod.fst).Nodup := by
    rw [List.zip_eq_zip_take_min, List.map_fst_zip (by simp)]
    exact hnames.sublist (List.take_sublist _ _)
  have hobject : Structured names (objectOf (names.zip items)) (names.zip items) :=
    structured_objectOf (honce.sublist List.filter_sublist)
  constructor
  · intro hentries
    rwa [hentries.unique (.array hfew)]
  · intro hentries
    rw [hentries.unique hobject]
    exact .array hfew

/-! ### Successes -/

theorem Provider.nodup_names (provider : Provider) : provider.names.Nodup := by
  cases provider <;> decide

/-- What a document in the body of a success counts as. -/
def resultOf (provider : Provider) (document : Document) : Except GenerationError Response :=
  match Envelope.ofDocument? provider document with
  | some envelope => envelope.response
  | none => .error (.parse (provider.name ++ " response: "))

theorem decodeBody_of_parse? (h : Document.parse? body.toList = some document) :
    decodeBody provider body = resultOf provider document := by
  unfold decodeBody
  rw [h]
  rfl

/-- A document counts as what it states. -/
theorem resultOf_congr (h : ∀ entries, Structured provider.names other entries ↔
    Structured provider.names document entries) :
    resultOf provider other = resultOf provider document := by
  have hread : Envelope.ofDocument? provider other = Envelope.ofDocument? provider document := by
    ext envelope
    rw [ofDocument?_eq_some_iff, ofDocument?_eq_some_iff, isEnvelope_iff, isEnvelope_iff]
    simp only [h]
  rw [resultOf, resultOf, hread]

/-- An array counts as the object with its items under the names of the members in order. -/
theorem resultOf_array {items : List Document} (hfew : items.length ≤ provider.names.length) :
    resultOf provider (.array items) =
      resultOf provider (objectOf (provider.names.zip items)) :=
  resultOf_congr fun _ => structured_array_iff provider.nodup_names hfew

/-- What states nothing is no envelope. -/
theorem decodeBody_of_not_structured (h : ∀ document, Document.parse? body.toList = some document →
    ∀ entries, ¬ Structured provider.names document entries) :
    decodeBody provider body = .error (.parse (provider.name ++ " response: ")) := by
  apply decodeBody_of_not_isEnvelope
  intro document envelope hparse henvelope
  obtain ⟨entries, hentries, -⟩ := isEnvelope_iff.1 henvelope
  exact h document hparse entries hentries

/-! ### Errors -/

/-- The type and the message of an error.  An object may leave out either; an array has both. -/
inductive IsDetail : Document → Option String × Option String → Prop where
  | object {members : List (List Piece × Document)} {entries : List (String × Document)}
      {detail : Option String × Option String}
      (hentries : Structured ["type", "message"] (.object members) entries)
      (hkind : StatesOr (IsNullable IsText) none "type" entries detail.1)
      (hmessage : StatesOr (IsNullable IsText) none "message" entries detail.2) :
      IsDetail (.object members) detail
  | array {first second : Document} {detail : Option String × Option String}
      (hkind : IsNullable IsText first detail.1) (hmessage : IsNullable IsText second detail.2) :
      IsDetail (.array [first, second]) detail

/-- The type and the message that an error body holds: as the error of an object, or as the only
item of an array. -/
inductive IsErrorBody : Document → Option String × Option String → Prop where
  | object {members : List (List Piece × Document)} {entries : List (String × Document)}
      {detail : Option String × Option String}
      (hentries : Structured ["error"] (.object members) entries)
      (herror : States IsDetail "error" entries detail) : IsErrorBody (.object members) detail
  | array {item : Document} {detail : Option String × Option String}
      (hdetail : IsDetail item detail) : IsErrorBody (.array [item]) detail

/-- A member of an error is null, a text or left out. -/
theorem withDefault_nullable_iff {names : List String} {name : String} (hname : name ∈ names)
    {entries : List (String × Document)} {value : Option String} :
    Fields.withDefault (nullable? text?) none name (known names entries) = some value ↔
      StatesOr (IsNullable IsText) none name entries value :=
  withDefault_eq_some_iff (nullable?_eq_some_iff text?_eq_some_iff not_isText_null) hname

theorem errorDetail?_object_iff {members : List (List Piece × Document)}
    {detail : Option String × Option String} :
    errorDetail? (.object members) = some detail ↔ IsDetail (.object members) detail := by
  unfold errorDetail?
  simp only [if_true, Option.bind_eq_bind, Option.bind_eq_some_iff, Option.pure_def,
    exists_fieldsOf?_iff, withDefault_nullable_iff, List.mem_cons, true_or, or_true]
  constructor
  · rintro ⟨entries, hentries, kind, hkind, message, hmessage, hdetail⟩
    cases hdetail
    exact .object hentries hkind hmessage
  · rintro ⟨hentries, hkind, hmessage⟩
    exact ⟨_, hentries, _, hkind, _, hmessage, rfl⟩

/-- An array that is a detail has both its items. -/
theorem errorDetail?_array_iff {items : List Document} {detail : Option String × Option String} :
    errorDetail? (.array items) = some detail ↔ IsDetail (.array items) detail := by
  rcases items with _ | ⟨first, _ | ⟨second, _ | ⟨third, rest⟩⟩⟩
  case cons.cons.nil =>
    have hfields : fieldsOf? ["type", "message"] (.array [first, second]) =
        some (known ["type", "message"] [("type", first), ("message", second)]) := by rfl
    have hfirst : lookup "type" [("type", first), ("message", second)] = some first := by rfl
    have hsecond : lookup "message" [("type", first), ("message", second)] = some second := by rfl
    unfold errorDetail?
    rw [hfields]
    simp only [List.length_cons, List.length_nil, Nat.zero_add, Nat.reduceAdd, beq_self_eq_true,
      if_true, Option.bind_eq_bind, Option.bind_some, Option.bind_eq_some_iff, Option.pure_def,
      withDefault_nullable_iff, List.mem_cons, true_or, or_true, statesOr_of_lookup hfirst,
      statesOr_of_lookup hsecond]
    constructor
    · rintro ⟨kind, hkind, message, hmessage, hdetail⟩
      cases hdetail
      exact .array hkind hmessage
    · intro h
      cases h with
      | array hkind hmessage => exact ⟨_, hkind, _, hmessage, rfl⟩
  -- an array with fewer or more items is no detail
  all_goals
    constructor
    · intro h
      simp [errorDetail?, fieldsOf?] at h
    · intro h
      cases h

theorem errorDetail?_eq_some_iff (document : Document) (detail : Option String × Option String) :
    errorDetail? document = some detail ↔ IsDetail document detail := by
  cases document with
  | object members => exact errorDetail?_object_iff
  | array items => exact errorDetail?_array_iff
  | _ =>
      constructor
      · intro h
        cases h
      · intro h
        cases h

/-- **The detail of an error body** is what it holds. -/
theorem errorBody?_eq_some_iff {detail : Option String × Option String} :
    errorBody? body = some detail ↔
      ∃ document, Document.parse? body.toList = some document ∧ IsErrorBody document detail := by
  unfold errorBody?
  simp only [Option.bind_eq_bind, Option.bind_eq_some_iff, exists_fieldsOf?_iff,
    required_eq_some_iff errorDetail?_eq_some_iff, List.mem_cons, true_or]
  refine exists_congr fun document => and_congr_right fun _ => ?_
  constructor
  · rintro ⟨entries, hentries, herror⟩
    cases hentries with
    | object hkeys honce => exact .object (.object hkeys honce) herror
    | @array items hfew =>
        obtain ⟨item, hitem, hdetail⟩ := herror
        rcases items with _ | ⟨first, _ | ⟨second, rest⟩⟩
        · cases hitem
        · obtain rfl : first = item := Option.some.inj hitem
          exact .array hdetail
        · simp at hfew
  · intro h
    cases h with
    | object hentries herror => exact ⟨_, hentries, herror⟩
    | array hdetail =>
        exact ⟨_, .array (Nat.le_refl 1), _, rfl, hdetail⟩

/-- The text of an error with this type and message, if it has either. -/
def statedText? : Option String × Option String → Option String
  | (some kind, some message) => some (kind ++ ": " ++ message)
  | (none, some message) => some message
  | (some kind, none) => some kind
  | (none, none) => none

/-- The body is one of an error with this text. -/
def StatesError (body text : String) : Prop :=
  ∃ document detail, Document.parse? body.toList = some document ∧ IsErrorBody document detail ∧
    statedText? detail = some text

theorem statesError_iff {text : String} :
    StatesError body text ↔ (errorBody? body).bind statedText? = some text := by
  simp only [StatesError, Option.bind_eq_some_iff, errorBody?_eq_some_iff]
  constructor
  · rintro ⟨document, detail, hparse, hdetail, htext⟩
    exact ⟨detail, ⟨document, hparse, hdetail⟩, htext⟩
  · rintro ⟨detail, ⟨document, hparse, hdetail⟩, htext⟩
    exact ⟨document, detail, hparse, hdetail, htext⟩

theorem errorText_eq (body : String) :
    errorText body = ((errorBody? body).bind statedText?).getD body := by
  unfold errorText
  rcases errorBody? body with _ | ⟨_ | kind, _ | message⟩ <;> rfl

/-- **The text of an error** is the one that its body states, or the whole body. -/
theorem errorText_eq_iff {text : String} : errorText body = text ↔
    StatesError body text ∨ (∀ other, ¬ StatesError body other) ∧ text = body := by
  simp only [statesError_iff, errorText_eq]
  cases (errorBody? body).bind statedText? with
  | none => simp [eq_comm]
  | some stated => simp

/-! ### What an adapter reads -/

namespace Adapter

variable {adapter : Adapter} {request : Request} {status : Nat}

/-- **Two layouts are read.**  A success fails to parse if its body is no JSON text or the text of
something that is neither an array nor an object.  So does an array that is longer than the members
of an envelope; any other array counts as the object with its items under the names of the members
in order.  The text of an error is the one that its body states, be the body an object or an array
of one item and the detail an object or an array of two; a body that states none is its own text.
-/
theorem layouts_read (husable : adapter.Usable) (request : Request)
    (hstatus : 200 ≤ status ∧ status < 300) :
    (∀ body, (∀ document, Document.parse? body.toList = some document → IsScalar document) →
      adapter.Returns request (.answered status body)
        (.error (.parse (adapter.provider.name ++ " response: ")))) ∧
    (∀ body items, Document.parse? body.toList = some (.array items) →
      (adapter.provider.names.length < items.length →
        adapter.Returns request (.answered status body)
          (.error (.parse (adapter.provider.name ++ " response: ")))) ∧
      (items.length ≤ adapter.provider.names.length →
        adapter.Returns request (.answered status body)
          (resultOf adapter.provider (objectOf (adapter.provider.names.zip items))))) ∧
    ∀ body text, errorText body = text ↔
      StatesError body text ∨ (∀ other, ¬ StatesError body other) ∧ text = body := by
  refine ⟨?_, ?_, fun _ _ => errorText_eq_iff⟩
  · intro body hscalar
    rw [returns_success_iff husable hstatus]
    apply decodeBody_of_not_structured
    intro document hparse entries
    exact not_structured_of_isScalar (hscalar document hparse)
  · intro body items hparse
    constructor
    · intro hmany
      rw [returns_success_iff husable hstatus]
      apply decodeBody_of_not_structured
      intro document hother entries hentries
      obtain rfl : Document.array items = document := Option.some.inj (hparse.symm.trans hother)
      cases hentries with
      | array hfew => omega
    · intro hfew
      rw [returns_success_iff husable hstatus, decodeBody_of_parse? hparse, resultOf_array hfew]

/-- A body with a model and a text and no names for them. -/
def unnamedBody : String := "[\"m\",\"ram\"]"

/-- The items of that body. -/
def unnamedItems : List Document := [.string (piecesOf "m"), .string (piecesOf "ram")]

theorem parse?_unnamedBody :
    Document.parse? unnamedBody.toList = some (.array unnamedItems) := by
  cbv

/-- An error of which nothing has a name. -/
def unnamedError : String := "[[\"overloaded\",\"slow\"]]"

theorem statesError_unnamedError : StatesError unnamedError "overloaded: slow" := by
  rw [statesError_iff]
  decide +kernel

theorem layouts_read_unnamed :
    let adapter := standard .ollama "m"
    let request : Request := ⟨"2 x 8GB", none, .text, .finite (.zero false), 0⟩
    adapter.Usable ∧ (200 ≤ 200 ∧ 200 < 300) ∧
      Document.parse? unnamedBody.toList = some (.array unnamedItems) ∧
      unnamedItems.length ≤ adapter.provider.names.length ∧
      adapter.Returns request (.answered 200 unnamedBody) (.ok ⟨"ram", "m", .zero⟩) ∧
      errorText unnamedError = "overloaded: slow" := by
  intro adapter request
  have husable : adapter.Usable := fun h => by cases h
  have hstatus : 200 ≤ 200 ∧ 200 < 300 := by decide
  have hfew : unnamedItems.length ≤ adapter.provider.names.length := by decide
  have hresult : resultOf adapter.provider (objectOf (adapter.provider.names.zip unnamedItems)) =
      .ok ⟨"ram", "m", .zero⟩ := by
    decide +kernel
  obtain ⟨-, harrays, herrors⟩ := layouts_read husable request hstatus
  have hreturns := (harrays unnamedBody unnamedItems parse?_unnamedBody).2 hfew
  rw [hresult] at hreturns
  exact ⟨husable, hstatus, parse?_unnamedBody, hfew, hreturns,
    (herrors _ _).2 (Or.inl statesError_unnamedError)⟩

/-- Arrays are read where only objects are described: as an envelope, as an error and as the detail
of one. -/
theorem arrays_are_read :
    let server := standard .ollama "m"
    let service := standard .openAi "m"
    let request : Request := ⟨"2 x 8GB", none, .text, .finite (.zero false), 0⟩
    (Document.parse? unnamedBody.toList = some (.array unnamedItems) ∧
      server.Returns request (.answered 200 unnamedBody) (.ok ⟨"ram", "m", .zero⟩)) ∧
    service.Returns request (.answered 200 "[]") (.error .emptyResponse) ∧
    errorText unnamedError = "overloaded: slow" ∧
    errorText "\x7b\"error\":[\"overloaded\",null]\x7d" = "overloaded" := by
  intro server service request
  have hserver : server.Usable := fun h => by cases h
  have hservice : service.Usable := fun h => by cases h
  refine ⟨⟨parse?_unnamedBody, ?_⟩, ?_, ?_, ?_⟩
  · rw [returns_iff hserver]
    decide +kernel
  · rw [returns_iff hservice]
    decide +kernel
  · decide +kernel
  · decide +kernel

end Adapter

end ListingAttributes.Generation
