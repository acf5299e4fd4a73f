import ListingAttributes.Proofs.Records.Replies

/-!
# Records stored as text

A record is made by its own text exactly if its whole numbers are integers and
it is not nested too deeply, whether the text is read as JSON or as a reply
(`stored_iff`).  Every record that some text makes is such a record.  The
integers of a record are read back from what is written for them, and so are
its strings and keys; only of its doubles this has to be known.
-/

namespace ListingAttributes.Record

open Json Numeric

/-- Each double of the record, at any depth, is read back from the text written for it. -/
def DoublesReadBack (record : Record) : Prop :=
  ∀ x : Binary binary64, .double x ∈ record.toValue.numbers → (Number.double x).ReadsBack

theorem readsBack_of_doubles {record : Record} (h : record.DoublesReadBack) :
    record.ReadsBack := by
  intro x hx
  cases x with
  | integer i => exact readsBack_integer i
  | double x => exact h x hx

theorem ofText_text_iff {record : Record} (h : record.DoublesReadBack) :
    ofText record.text = .ok record ↔
      record.Settled ∧ record.toValue.depth ≤ deepestNesting := by
  constructor
  · intro htext
    exact ⟨settled_of_ofText htext, depth_of_ofText htext⟩
  · rintro ⟨hsettled, hdepth⟩
    exact ofText_text hdepth hsettled (readsBack_of_doubles h)

theorem parse_text_iff (record : Record) :
    Reply.parse record.text = .ok record ↔ ofText record.text = .ok record := by
  rw [Reply.parse_eq_ok_iff, Reply.payload?_carried (Or.inl rfl)]
  simp

/-- **Records survive storage as text**, exactly if their whole numbers are integers and they are
not nested too deeply; in particular if a text made them. -/
theorem stored_iff (record : Record) (hdoubles : record.DoublesReadBack) :
    (ofText record.text = .ok record ↔
        record.Settled ∧ record.toValue.depth ≤ deepestNesting) ∧
      (Reply.parse record.text = .ok record ↔
        record.Settled ∧ record.toValue.depth ≤ deepestNesting) ∧
      ∀ text, ofText text = .ok record →
        ofText record.text = .ok record ∧ Reply.parse record.text = .ok record := by
  have htext := ofText_text_iff hdoubles
  refine ⟨htext, (parse_text_iff record).trans htext, ?_⟩
  intro text hmade
  have hshape := And.intro (settled_of_ofText hmade) (depth_of_ofText hmade)
  exact ⟨htext.2 hshape, (parse_text_iff record).2 (htext.2 hshape)⟩

/-- A text with a repeated key, an escape, whole numbers with a fraction, and blanks. -/
def repeatedText : List Char :=
  "\x7b \"b\": [2.0, \x7b\"x\": -0.5\x7d], \"a\": 1, \"a\": \"\\u00e9\\n\"\x7d".toList

theorem stored_iff_repeated :
    ∃ record : Record, ofText repeatedText = .ok record ∧ record.DoublesReadBack ∧
      record.text = "\x7b\"a\":\"é\\n\",\"b\":[2,\x7b\"x\":-0.5\x7d]\x7d".toList ∧
      ofText record.text = .ok record ∧ Reply.parse record.text = .ok record := by
  have hcomputed : (ofText repeatedText).toOption.any (fun record =>
      decide (record.ReadsBack ∧ record.text =
        "\x7b\"a\":\"é\\n\",\"b\":[2,\x7b\"x\":-0.5\x7d]\x7d".toList)) = true := by
    decide +kernel
  obtain ⟨record, hmade, hread⟩ := exists_ok_of_any hcomputed
  obtain ⟨hnumbers, htext⟩ := of_decide_eq_true hread
  have hdoubles : record.DoublesReadBack := fun x hx => hnumbers _ hx
  obtain ⟨-, -, hagain⟩ := stored_iff record hdoubles
  obtain ⟨hof, hparse⟩ := hagain repeatedText hmade
  exact ⟨record, hmade, hdoubles, htext, hof, hparse⟩

end ListingAttributes.Record
