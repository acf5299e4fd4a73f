import Mathlib.Data.List.Forall2
import ListingAttributes.Generation.Envelope
import ListingAttributes.Proofs.Json.Lookup

/-!
# What a structure states

`Structured` says what a structure states: an object whatever the order of its
members and whatever else it has, or an array.  The readers of fields and of
values are each a relation between documents and values.

* `fieldsOf?_eq_some_iff`, `exists_fieldsOf?_iff`: the fields of a structure are
  what it states under the known names;
* `required_eq_some_iff`, `withDefault_eq_some_iff`: what is read from them;
* `text?_eq_some_iff`, `count?_eq_some_iff`, `nullable?_eq_some_iff`,
  `items?_eq_some_iff`: what a value is read as.
-/

namespace ListingAttributes.Generation

open Json

variable {α : Type}

/-! ### Keys -/

/-- The pieces of a text that is written without escapes. -/
def piecesOf (text : String) : List Piece := text.toList.map .char

@[simp] theorem textOf?_piecesOf (text : String) : textOf? (piecesOf text) = some text := by
  have hchars : ∀ chars : List Char, charsOf? (chars.map .char) = some chars := by
    intro chars
    induction chars with
    | nil => rfl
    | cons c chars ih => rw [List.map_cons, charsOf?, ih, Option.map_some]
  rw [textOf?, piecesOf, hchars, Option.map_some, String.ofList_toList]

/-! ### Structures -/

/-- An entry has the key of a member, as a text, and its value. -/
def Keyed (member : List Piece × Document) (entry : String × Document) : Prop :=
  textOf? member.1 = some entry.1 ∧ member.2 = entry.2

/-- What a structure states: the entries of an object, whose keys are all texts and in which each
of the names occurs at most once; or those of an array, in the order of the names. -/
inductive Structured (names : List String) : Document → List (String × Document) → Prop where
  | object {members : List (List Piece × Document)} {entries : List (String × Document)}
      (hkeys : List.Forall₂ Keyed members entries)
      (honce : ((entries.map Prod.fst).filter names.contains).Nodup) :
      Structured names (.object members) entries
  | array {items : List Document} (hfew : items.length ≤ names.length) :
      Structured names (.array items) (names.zip items)

/-- The object with these entries, its keys written without escapes. -/
def objectOf (entries : List (String × Document)) : Document :=
  .object (entries.map fun entry => (piecesOf entry.1, entry.2))

/-- An object states its entries if no known key among them is repeated. -/
theorem structured_objectOf {names : List String} {entries : List (String × Document)}
    (honce : ((entries.map Prod.fst).filter names.contains).Nodup) :
    Structured names (objectOf entries) entries := by
  refine .object ?_ honce
  rw [List.forall₂_map_left_iff, List.forall₂_same]
  intro entry _
  exact ⟨textOf?_piecesOf entry.1, rfl⟩

theorem forall₂_keyed_unique {members : List (List Piece × Document)}
    {entries others : List (String × Document)} (hentries : List.Forall₂ Keyed members entries)
    (hothers : List.Forall₂ Keyed members others) : entries = others := by
  induction hentries generalizing others with
  | nil =>
      cases hothers
      rfl
  | cons hentry _ ih =>
      obtain ⟨other, rest, hother, hrest, rfl⟩ := List.forall₂_cons_left_iff.1 hothers
      have hkey := Option.some.inj (hentry.1.symm.trans hother.1)
      have hvalue := hentry.2.symm.trans hother.2
      rw [ih hrest, Prod.ext hkey hvalue]

/-- A structure states one list of entries. -/
theorem Structured.unique {names : List String} {document : Document}
    {entries others : List (String × Document)} (hentries : Structured names document entries)
    (hothers : Structured names document others) : entries = others := by
  cases hentries with
  | object hkeys _ =>
      cases hothers with
      | object hkeys' _ => exact forall₂_keyed_unique hkeys hkeys'
  | array _ =>
      cases hothers with
      | array _ => rfl

/-- The entries under known names. -/
def known (names : List String) (entries : List (String × Document)) : List (String × Document) :=
  entries.filter fun entry => names.contains entry.1

theorem map_fst_known (names : List String) (entries : List (String × Document)) :
    (known names entries).map Prod.fst = (entries.map Prod.fst).filter names.contains := by
  rw [List.filter_map]
  rfl

theorem knownMembers?_eq_some_iff {names : List String}
    {members : List (List Piece × Document)} {fields : List (String × Document)} :
    knownMembers? names members = some fields ↔
      ∃ entries, List.Forall₂ Keyed members entries ∧
        ((entries.map Prod.fst).filter names.contains).Nodup ∧ fields = known names entries := by
  induction members generalizing fields with
  | nil =>
      constructor
      · intro h
        exact ⟨[], .nil, List.nodup_nil, (Option.some.inj h).symm⟩
      · rintro ⟨entries, hkeys, -, rfl⟩
        cases hkeys
        rfl
  | cons member members ih =>
      obtain ⟨key, value⟩ := member
      constructor
      · intro h
        simp only [knownMembers?, Option.bind_eq_bind, Option.bind_eq_some_iff] at h
        obtain ⟨text, htext, rest, hrest, h⟩ := h
        obtain ⟨entries, hkeys, honce, rfl⟩ := ih.1 hrest
        refine ⟨(text, value) :: entries, .cons ⟨htext, rfl⟩ hkeys, ?_⟩
        rw [List.map_cons, List.filter_cons, known, List.filter_cons]
        split at h
        · next hname =>
          -- a known name may not have occurred before
          split at h
          · cases h
          · next hfresh =>
            rw [lookup_eq_none_iff, map_fst_known] at hfresh
            rw [if_pos hname, if_pos hname]
            exact ⟨List.nodup_cons.2 ⟨hfresh, honce⟩, (Option.some.inj h).symm⟩
        · next hname =>
          rw [if_neg hname, if_neg hname]
          exact ⟨honce, (Option.some.inj h).symm⟩
      · rintro ⟨entries, hkeys, honce, rfl⟩
        obtain ⟨⟨text, value⟩, entries, ⟨htext, rfl⟩, hrest, rfl⟩ :=
          List.forall₂_cons_left_iff.1 hkeys
        simp only [knownMembers?, Option.bind_eq_bind, Option.bind_eq_some_iff]
        rw [List.map_cons, List.filter_cons] at honce
        refine ⟨text, htext, known names entries, ?_⟩
        by_cases hname : names.contains text = true
        · rw [if_pos hname, List.nodup_cons] at honce
          have hfresh : lookup text (known names entries) = none := by
            rw [lookup_eq_none_iff, map_fst_known]
            exact honce.1
          refine ⟨ih.2 ⟨entries, hrest, honce.2, rfl⟩, ?_⟩
          rw [if_pos hname, hfresh, known, known, List.filter_cons, if_pos hname]
        · rw [if_neg hname] at honce
          refine ⟨ih.2 ⟨entries, hrest, honce, rfl⟩, ?_⟩
          rw [if_neg hname, known, known, List.filter_cons, if_neg hname]

/-- **The fields of a structure** are what it states under the known names. -/
theorem fieldsOf?_eq_some_iff {names : List String} {document : Document}
    {fields : List (String × Document)} :
    fieldsOf? names document = some fields ↔
      ∃ entries, Structured names document entries ∧ fields = known names entries := by
  constructor
  · intro h
    cases document with
    | object members =>
        obtain ⟨entries, hkeys, honce, rfl⟩ := knownMembers?_eq_some_iff.1 h
        exact ⟨entries, .object hkeys honce, rfl⟩
    | array items =>
        simp only [fieldsOf?] at h
        split at h
        · next hfew =>
          refine ⟨names.zip items, .array hfew, ?_⟩
          rw [← Option.some.inj h, known, List.filter_eq_self.2]
          intro entry hentry
          exact List.contains_iff_mem.2 (List.of_mem_zip hentry).1
        · cases h
    | _ => cases h
  · rintro ⟨entries, hstructured, rfl⟩
    cases hstructured with
    | object hkeys honce => exact knownMembers?_eq_some_iff.2 ⟨entries, hkeys, honce, rfl⟩
    | array hfew =>
        rw [fieldsOf?, if_pos hfew, known, List.filter_eq_self.2]
        intro entry hentry
        exact List.contains_iff_mem.2 (List.of_mem_zip hentry).1

/-- What holds of the fields of a structure holds of what it states under the known names. -/
theorem exists_fieldsOf?_iff {names : List String} {document : Document}
    {P : List (String × Document) → Prop} :
    (∃ fields, fieldsOf? names document = some fields ∧ P fields) ↔
      ∃ entries, Structured names document entries ∧ P (known names entries) := by
  constructor
  · rintro ⟨_, hfields, h⟩
    obtain ⟨entries, hentries, rfl⟩ := fieldsOf?_eq_some_iff.1 hfields
    exact ⟨entries, hentries, h⟩
  · rintro ⟨entries, hentries, h⟩
    exact ⟨_, fieldsOf?_eq_some_iff.2 ⟨entries, hentries, rfl⟩, h⟩

/-! ### Fields -/

/-- The field is there and has the value. -/
def States (HasValue : Document → α → Prop) (name : String) (entries : List (String × Document))
    (value : α) : Prop :=
  ∃ written, lookup name entries = some written ∧ HasValue written value

/-- The field is missing and the value is the default, or the field has the value. -/
def StatesOr (HasValue : Document → α → Prop) (default : α) (name : String)
    (entries : List (String × Document)) (value : α) : Prop :=
  lookup name entries = none ∧ value = default ∨ States HasValue name entries value

/-- A field is there or not whatever its entries hold otherwise. -/
theorem statesOr_congr {HasValue : Document → α → Prop} {name : String} {default value : α}
    {entries others : List (String × Document)} (h : lookup name others = lookup name entries) :
    StatesOr HasValue default name others value ↔ StatesOr HasValue default name entries value := by
  unfold StatesOr States
  rw [h]

/-- A field that is there has the value of what is written. -/
theorem statesOr_of_lookup {HasValue : Document → α → Prop} {name : String} {default value : α}
    {entries : List (String × Document)} {written : Document}
    (h : lookup name entries = some written) :
    StatesOr HasValue default name entries value ↔ HasValue written value := by
  simp [StatesOr, States, h]

/-- A field that may be missing has a value unless what is written there has none. -/
theorem exists_statesOr_iff {HasValue : Document → α → Prop} {name : String} {default : α}
    {entries : List (String × Document)} :
    (∃ value, StatesOr HasValue default name entries value) ↔
      ∀ written, lookup name entries = some written → ∃ value, HasValue written value := by
  constructor
  · rintro ⟨value, ⟨hmissing, -⟩ | ⟨found, hfound, hvalue⟩⟩ written hwritten
    · rw [hmissing] at hwritten
      cases hwritten
    · rw [hfound] at hwritten
      exact ⟨value, Option.some.inj hwritten ▸ hvalue⟩
  · intro h
    cases hlookup : lookup name entries with
    | none => exact ⟨default, Or.inl ⟨hlookup, rfl⟩⟩
    | some written =>
        obtain ⟨value, hvalue⟩ := h written hlookup
        exact ⟨value, Or.inr ⟨written, hlookup, hvalue⟩⟩

section Reading

variable {read? : Document → Option α} {HasValue : Document → α → Prop} {names : List String}
  {name : String} {entries : List (String × Document)} {value default : α}

theorem required_eq_some_iff (hread : ∀ document value, read? document = some value ↔
    HasValue document value) (hname : name ∈ names) :
    Fields.required read? name (known names entries) = some value ↔
      States HasValue name entries value := by
  unfold Fields.required known States
  rw [lookup_filter (List.contains_iff_mem.2 hname), Option.bind_eq_some_iff]
  simp only [hread]

theorem withDefault_eq_some_iff (hread : ∀ document value, read? document = some value ↔
    HasValue document value) (hname : name ∈ names) :
    Fields.withDefault read? default name (known names entries) = some value ↔
      StatesOr HasValue default name entries value := by
  unfold Fields.withDefault Fields.optional known StatesOr States
  rw [lookup_filter (List.contains_iff_mem.2 hname)]
  cases lookup name entries with
  | none => simp [eq_comm]
  | some written => simp [hread]

end Reading

/-! ### Values -/

/-- A text. -/
def IsText (document : Document) (text : String) : Prop :=
  ∃ pieces, document = .string pieces ∧ textOf? pieces = some text

/-- A count of 32 bits. -/
def IsCount (document : Document) (count : UInt32) : Prop :=
  ∃ literal i, document = .number literal ∧ integerOf? literal = some i ∧ i.value = count.toNat

/-- Null, or what has a value. -/
def IsNullable (HasValue : Document → α → Prop) (document : Document) (value : Option α) : Prop :=
  document = .null ∧ value = none ∨ ∃ found, HasValue document found ∧ value = some found

/-- An array of what has values. -/
def IsArray (HasValue : Document → α → Prop) (document : Document) (values : List α) : Prop :=
  ∃ items, document = .array items ∧ List.Forall₂ HasValue items values

theorem text?_eq_some_iff (document : Document) (text : String) :
    text? document = some text ↔ IsText document text := by
  unfold IsText
  cases document <;> simp [text?]

theorem count?_eq_some_iff (document : Document) (count : UInt32) :
    count? document = some count ↔ IsCount document count := by
  unfold IsCount
  cases document with
  | number literal =>
      simp only [count?, Option.bind_eq_some_iff, Document.number.injEq]
      constructor
      · rintro ⟨i, hi, hcount⟩
        split at hcount
        · next hrange =>
          refine ⟨literal, i, rfl, hi, ?_⟩
          rw [← Option.some.inj hcount, UInt32.toNat_ofNat_of_lt' hrange.2]
          omega
        · cases hcount
      · rintro ⟨_, i, rfl, hi, hcount⟩
        refine ⟨i, hi, ?_⟩
        have hrange := count.toNat_lt_size
        rw [if_pos ⟨by omega, by omega⟩, hcount, Int.toNat_natCast, UInt32.ofNat_toNat]
  | _ => simp [count?]

theorem nullable?_eq_some_iff {read? : Document → Option α} {HasValue : Document → α → Prop}
    (hread : ∀ document value, read? document = some value ↔ HasValue document value)
    (hnull : ∀ value, ¬ HasValue .null value) (document : Document) (value : Option α) :
    nullable? read? document = some value ↔ IsNullable HasValue document value := by
  unfold IsNullable
  cases document with
  | null => simp [nullable?, hnull, eq_comm]
  | _ => simp [nullable?, Option.map_eq_some_iff, hread, @eq_comm _ value]

theorem mapM_eq_some_iff {read? : Document → Option α} {HasValue : Document → α → Prop}
    (hread : ∀ document value, read? document = some value ↔ HasValue document value)
    {items : List Document} {values : List α} :
    items.mapM read? = some values ↔ List.Forall₂ HasValue items values := by
  induction items generalizing values with
  | nil => simp [eq_comm]
  | cons item items ih =>
      rw [List.mapM_cons, List.forall₂_cons_left_iff]
      simp only [Option.bind_eq_bind, Option.bind_eq_some_iff, Option.pure_def, hread, ih,
        Option.some.injEq]
      constructor
      · rintro ⟨value, hvalue, rest, hrest, rfl⟩
        exact ⟨value, rest, hvalue, hrest, rfl⟩
      · rintro ⟨value, rest, hvalue, hrest, rfl⟩
        exact ⟨value, hvalue, rest, hrest, rfl⟩

theorem items?_eq_some_iff {read? : Document → Option α} {HasValue : Document → α → Prop}
    (hread : ∀ document value, read? document = some value ↔ HasValue document value)
    (document : Document) (values : List α) :
    items? read? document = some values ↔ IsArray HasValue document values := by
  unfold IsArray
  cases document with
  | array items => simp [items?, mapM_eq_some_iff hread]
  | _ => simp [items?]

end ListingAttributes.Generation
