import ListingAttributes.Proofs.Json.RoundTrip
import ListingAttributes.Record

/-!
# Fields of a record

What a record says about a field after another one, or the same, was written,
and which records a text makes.

* `get?_insert`, `get?_insertText`: writing a field changes that field only;
* `insertText_of_get?`: writing the text that a field holds changes nothing;
* `get?_erase`: removing a field changes that field only;
* `ofText_eq_ok_iff`: the record of a text holds the value that the text is
  parsed to, with its whole numbers as integers;
* `ofText_text`: a record is the record of its own text.
-/

namespace ListingAttributes

/-! ### Outcomes -/

theorem exists_ok_of_any {ε α : Type} {result : Except ε α} {p : α → Bool}
    (h : result.toOption.any p = true) : ∃ value, result = .ok value ∧ p value = true := by
  cases result with
  | error _ => cases h
  | ok value => exact ⟨value, rfl, h⟩

theorem exists_ok_of_isSome {ε α : Type} (result : Except ε α)
    (h : result.toOption.isSome = true) : ∃ value, result = .ok value := by
  cases result with
  | error _ => cases h
  | ok value => exact ⟨value, rfl⟩

end ListingAttributes

namespace ListingAttributes.Record

open Json

/-! ### Writing -/

theorem lookup_insert (record : Record) (written : String) (value : OrderedValue)
    (field : String) :
    lookup field (record.insert written value).members =
      if written = field then some value.1 else lookup field record.members :=
  Json.lookup_insert field written value.1 record.members

theorem get?_insert (record : Record) (written : String) (value : OrderedValue) (field : String) :
    (record.insert written value).get? field =
      if written = field then (some value.1).filter fun value => !value.isNull
      else record.get? field := by
  unfold get?
  rw [lookup_insert]
  split <;> rfl

theorem get?_insertText (record : Record) (written text : String) (field : String) :
    (record.insertText written text).get? field =
      if written = field then some (.string text) else record.get? field :=
  get?_insert record written ⟨.string text, trivial⟩ field

theorem get?_insertText_self (record : Record) (field text : String) :
    (record.insertText field text).get? field = some (.string text) := by
  rw [get?_insertText, if_pos rfl]

theorem get?_insertText_of_ne {record : Record} {written text field : String}
    (h : written ≠ field) : (record.insertText written text).get? field = record.get? field := by
  rw [get?_insertText, if_neg h]

theorem get?_insertInteger (record : Record) (written : String) (i : Integer) (field : String) :
    (record.insertInteger written i).get? field =
      if written = field then some (.number (.integer i)) else record.get? field :=
  get?_insert record written ⟨.number (.integer i), trivial⟩ field

theorem get?_eq_some_iff {record : Record} {field : String} {value : Value} :
    record.get? field = some value ↔
      lookup field record.members = some value ∧ value.isNull = false := by
  rw [get?, Option.filter_eq_some_iff, Bool.not_eq_true']

theorem lookup_of_get? {record : Record} {field : String} {value : Value}
    (h : record.get? field = some value) : lookup field record.members = some value :=
  (get?_eq_some_iff.1 h).1

theorem str?_eq_some_iff {record : Record} {field text : String} :
    record.str? field = some text ↔ record.get? field = some (.string text) := by
  unfold str?
  split
  · next found hfound => simp [hfound]
  · next hother =>
    simp only [reduceCtorEq, false_iff]
    exact hother text

/-- A field reads as a number if it holds one, which is not null. -/
theorem number?_eq_some_iff {record : Record} {field : String}
    {d : Numeric.Binary Numeric.binary64} :
    record.number? field = some d ↔
      ∃ x, lookup field record.members = some (.number x) ∧ x.toDouble = d := by
  have hget : ∀ x, record.get? field = some (.number x) ↔
      lookup field record.members = some (.number x) :=
    fun x => get?_eq_some_iff.trans (and_iff_left rfl)
  simp only [← hget]
  unfold number?
  split
  · next x hfound => simp [hfound]
  · next hother =>
    simp only [reduceCtorEq, false_iff]
    rintro ⟨x, hx, _⟩
    exact hother x hx

/-- Writing the text that a field holds changes nothing. -/
theorem insertText_of_get? {record : Record} {field text : String}
    (h : record.get? field = some (.string text)) : record.insertText field text = record :=
  ext_members (insert_of_lookup record.ascending (lookup_of_get? h))

theorem get?_erase (record : Record) (erased field : String) :
    (record.erase erased).get? field = if erased = field then none else record.get? field := by
  unfold get? erase
  rw [Json.lookup_erase]
  split <;> rfl

theorem get?_erase_self (record : Record) (field : String) :
    (record.erase field).get? field = none := by
  rw [get?_erase, if_pos rfl]

theorem get?_erase_of_ne {record : Record} {erased field : String} (h : erased ≠ field) :
    (record.erase erased).get? field = record.get? field := by
  rw [get?_erase, if_neg h]

/-- The record that states full confidence and nothing else. -/
def certain : Record := empty.insertInteger "confidence" (.ofNat 1)

/-! ### Numbers and depth -/

theorem mem_numbers_insert {x : Number} {record : Record} {field : String} {value : OrderedValue}
    (h : x ∈ (record.insert field value).toValue.numbers) :
    x ∈ value.1.numbers ∨ x ∈ record.toValue.numbers :=
  mem_numbersOfMembers_insert h

theorem depth_insert_le {record : Record} {field : String} {value : OrderedValue}
    (hvalue : value.1.depth = 0) (h : record.toValue.depth ≤ deepestNesting) :
    (record.insert field value).toValue.depth ≤ deepestNesting := by
  have hmembers : depthOfMembers record.members ≤ deepestNesting - 1 := Nat.le_sub_one_of_lt h
  have hwritten : value.1.depth ≤ deepestNesting - 1 := by
    rw [hvalue]
    exact Nat.zero_le _
  have hinsert := depthOfMembers_insert_le field hwritten hmembers
  -- the record itself is one object
  have hpos : 0 < deepestNesting := by decide
  show depthOfMembers (Json.insert field value.1 record.members) + 1 ≤ deepestNesting
  omega

/-- Every number of the record, at any depth, is in its one form: no double is equal to an
integer of a magnitude below `wholeLimit`. -/
def Settled (record : Record) : Prop := ∀ x ∈ record.toValue.numbers, x.Settled

/-- Every number of the record, at any depth, is read back from the text written for it. -/
def ReadsBack (record : Record) : Prop := ∀ x ∈ record.toValue.numbers, x.ReadsBack

instance (record : Record) : Decidable record.ReadsBack :=
  inferInstanceAs (Decidable (∀ x ∈ record.toValue.numbers, x.ReadsBack))

/-! ### Records of texts -/

theorem toValue_injective {first second : Record} (h : first.toValue = second.toValue) :
    first = second := by
  simp only [toValue, Json.object.injEq] at h
  exact ext_members h

theorem parseOrdered?_eq_some_iff {text : List Char} {value : OrderedValue} :
    parseOrdered? text = some value ↔ parse? text = some value.1 := by
  unfold parseOrdered?
  split
  · next parsed hparsed =>
    simp only [hparsed, Option.some.injEq, Subtype.ext_iff]
  · next hparsed => simp [hparsed]

theorem ofObject?_eq_some_iff {value : OrderedValue} {record : Record} :
    ofObject? value = some record ↔ value.1 = record.toValue := by
  obtain ⟨value, hvalue⟩ := value
  cases value with
  | object members =>
      rw [ofObject?, Option.some.injEq]
      exact ⟨fun h => by rw [← h]; rfl, fun h => toValue_injective h⟩
  | _ => simp [ofObject?, toValue]

theorem ofValue_eq_ok_iff {value : OrderedValue} {record : Record} :
    ofValue value = .ok record ↔ wholeNumbers value.1 = record.toValue := by
  unfold ofValue
  split
  · next found hfound =>
    have hvalue : wholeNumbers value.1 = found.toValue := ofObject?_eq_some_iff.1 hfound
    rw [Except.ok.injEq, hvalue]
    exact ⟨fun h => by rw [h], toValue_injective⟩
  · next hnone =>
    constructor
    · intro h
      cases h
    · intro h
      rw [ofObject?_eq_some_iff.2 h] at hnone
      cases hnone

/-- **The record of a text** holds what the text is parsed to, with whole numbers as integers. -/
theorem ofText_eq_ok_iff {text : List Char} {record : Record} :
    ofText text = .ok record ↔
      ∃ value, parse? text = some value ∧ wholeNumbers value = record.toValue := by
  unfold ofText
  split
  · next value hvalue =>
    rw [parseOrdered?_eq_some_iff] at hvalue
    simp [ofValue_eq_ok_iff, hvalue]
  · next hnone =>
    constructor
    · intro h
      cases h
    · rintro ⟨value, hvalue, -⟩
      have hsome : parseOrdered? text = some ⟨value, ordered_of_parse? hvalue⟩ :=
        parseOrdered?_eq_some_iff.2 hvalue
      rw [hnone] at hsome
      cases hsome

theorem settled_of_ofText {text : List Char} {record : Record} (h : ofText text = .ok record) :
    record.Settled := by
  obtain ⟨value, _, hvalue⟩ := ofText_eq_ok_iff.1 h
  intro x hx
  rw [← hvalue] at hx
  exact settled_of_mem_wholeNumbers hx

theorem depth_of_ofText {text : List Char} {record : Record} (h : ofText text = .ok record) :
    record.toValue.depth ≤ deepestNesting := by
  obtain ⟨value, hparsed, hvalue⟩ := ofText_eq_ok_iff.1 h
  rw [← hvalue, depth_wholeNumbers]
  exact depth_of_parse? hparsed

/-- **A record is the record of its own text.** -/
theorem ofText_text {record : Record} (hdepth : record.toValue.depth ≤ deepestNesting)
    (hsettled : record.Settled) (hnumbers : record.ReadsBack) :
    ofText record.text = .ok record := by
  rw [ofText_eq_ok_iff]
  exact ⟨record.toValue, parse?_text ⟨record.ascending, record.ordered⟩ hdepth hnumbers,
    wholeNumbers_eq_self _ hsettled⟩

end ListingAttributes.Record
