import ListingAttributes.Proofs.Json.Lookup
import ListingAttributes.Proofs.Json.Numbers
import ListingAttributes.Proofs.Json.Tokens
import ListingAttributes.Json.Ordering

/-!
# Written values are read back

A value is `Legible` if its text, whatever follows it, is read as a document
of the same depth that stands for the value.  Leaves are legible by the laws
of tokens; an array or object is legible if its items or members are
(`legible_array`, `legible_object`), for each comma and bracket is one
character, which pays for the two levels of recursion that it costs.

`parse?_text` is the result: an ordered value that is not nested too deeply is
what its text is parsed to, provided that its numbers are read back.
-/

namespace ListingAttributes.Json

open Numeric

/-- The text of a value is read as a document that stands for it, whatever
follows; twice the length of the text is enough as a bound. -/
def Legible (value : Value) : Prop :=
  ∀ (bound : Nat) (rest : List Char), 2 * value.text.length ≤ bound → StartsNoNumber rest →
    ∃ document, readValue bound (value.text ++ rest) = some (document, rest) ∧
      document.value? = some value ∧ document.nesting = value.depth

/-! ### What is written -/

theorem stringText_append (text : String) (rest : List Char) :
    stringText text ++ rest = '"' :: (text.toList.flatMap literalChar ++ '"' :: rest) := by
  rw [stringText, List.append_assoc, List.cons_append, List.singleton_append]

theorem text_array (item : Value) (items : List Value) :
    Value.text (.array (item :: items)) = '[' :: (item.text ++ itemsText Number.text items) := by
  rw [Value.text, textWith]
  rfl

theorem itemsText_cons (item : Value) (items : List Value) :
    itemsText Number.text (item :: items) = ',' :: (item.text ++ itemsText Number.text items) := by
  rw [itemsText]
  rfl

theorem text_object (key : String) (value : Value) (members : List (String × Value)) :
    Value.text (.object ((key, value) :: members)) =
      '\x7b' :: (stringText key ++ ':' :: (value.text ++ membersText Number.text members)) := by
  rw [Value.text, textWith]
  simp [Value.text]

theorem membersText_cons (key : String) (value : Value) (members : List (String × Value)) :
    membersText Number.text ((key, value) :: members) =
      ',' :: (stringText key ++ ':' :: (value.text ++ membersText Number.text members)) := by
  rw [membersText]
  simp [Value.text]

/-! ### First characters -/

theorem skipSpace_cons {c : Char} (h : isSpace c = false) (text : List Char) :
    skipSpace (c :: text) = c :: text := by
  rw [skipSpace, List.dropWhile_cons, h, if_neg Bool.false_ne_true]

/-- A character of a number is none that stands between tokens or starts another token. -/
theorem ne_of_isNumberChar {c d : Char} (hc : isNumberChar c = true)
    (hd : isNumberChar d = false) : c ≠ d := by
  rintro rfl
  rw [hc] at hd
  exact Bool.noConfusion hd

theorem isSpace_of_isNumberChar {c : Char} (h : isNumberChar c = true) : isSpace c = false := by
  simp [isSpace, ne_of_isNumberChar h (d := ' ') (by decide),
    ne_of_isNumberChar h (d := '\t') (by decide), ne_of_isNumberChar h (d := '\n') (by decide),
    ne_of_isNumberChar h (d := '\r') (by decide)]

theorem isNumberChar_of_mem_intText {c : Char} {i : Int} (h : c ∈ intText i) :
    isNumberChar c = true := by
  unfold intText at h
  split at h
  · rcases List.mem_cons.1 h with rfl | h
    · decide
    · exact isNumberChar_of_mem_digitsOf h
  · exact isNumberChar_of_mem_digitsOf h

theorem isNumberChar_of_mem_numberText {c : Char} {x : Number} (h : c ∈ x.text) :
    isNumberChar c = true := by
  cases x with
  | integer i => exact isNumberChar_of_mem_intText h
  | double x => exact isNumberChar_of_mem_text h

theorem numberText_ne_nil (x : Number) : x.text ≠ [] := by
  cases x with
  | integer i =>
      simp only [Number.text, intText]
      split
      · exact List.cons_ne_nil _ _
      · exact digitsOf_ne_nil _
  | double x => exact text_ne_nil jsonStyle x

/-- The text of a value starts with a character that is no space and closes no array. -/
theorem text_eq_cons (value : Value) :
    ∃ c tail, value.text = c :: tail ∧ isSpace c = false ∧ c ≠ ']' := by
  match value with
  | .null => exact ⟨_, _, by rw [Value.text, textWith], by decide, by decide⟩
  | .bool true => exact ⟨_, _, by rw [Value.text, textWith], by decide, by decide⟩
  | .bool false => exact ⟨_, _, by rw [Value.text, textWith], by decide, by decide⟩
  | .number x =>
      obtain ⟨c, tail, htext⟩ := List.exists_cons_of_ne_nil (numberText_ne_nil x)
      have hc : isNumberChar c = true :=
        isNumberChar_of_mem_numberText (by rw [htext]; exact List.mem_cons_self)
      exact ⟨c, tail, by rw [Value.text, textWith, htext], isSpace_of_isNumberChar hc,
        ne_of_isNumberChar hc (by decide)⟩
  | .string text =>
      exact ⟨'"', _, by rw [Value.text, textWith, stringText]; rfl, by decide, by decide⟩
  | .array [] => exact ⟨_, _, by rw [Value.text, textWith], by decide, by decide⟩
  | .array (item :: items) => exact ⟨_, _, text_array item items, by decide, by decide⟩
  | .object [] => exact ⟨_, _, by rw [Value.text, textWith], by decide, by decide⟩
  | .object ((key, value) :: members) =>
      exact ⟨_, _, text_object key value members, by decide, by decide⟩

theorem one_le_length_text (value : Value) : 1 ≤ value.text.length := by
  obtain ⟨c, tail, htext, -, -⟩ := text_eq_cons value
  rw [htext]
  exact Nat.le_add_left 1 _

/-! ### One step of reading -/

section Steps

variable {bound : Nat} {c : Char} {text tail rest : List Char}

theorem readValue_string : readValue (bound + 1) ('"' :: rest) =
    (readString rest).map fun read => (.string read.1, read.2) := rfl

theorem readValue_array (hspace : isSpace c = false) (hclose : c ≠ ']') :
    readValue (bound + 1) ('[' :: c :: tail) =
      (readItems bound (c :: tail)).map fun read => (.array read.1, read.2) := by
  have hopen : isSpace '[' = false := by decide
  simp only [readValue, skipSpace_cons hopen, skipSpace_cons hspace]
  split
  · next heq => exact absurd (List.cons.inj heq).1 hclose
  · rfl

theorem readValue_object : readValue (bound + 1) ('\x7b' :: '"' :: tail) =
    (readMembers bound ('"' :: tail)).map fun read => (.object read.1, read.2) := rfl

theorem readValue_number (h : isNumberChar c = true) : readValue (bound + 1) (c :: tail) =
    (readNumber (c :: tail)).map fun read => (.number read.1, read.2) := by
  rw [readValue, skipSpace_cons (isSpace_of_isNumberChar h)]
  -- no other token starts with a character of a number
  split
  · next heq => exact absurd (List.cons.inj heq).1 (ne_of_isNumberChar h (by decide))
  · next heq => exact absurd (List.cons.inj heq).1 (ne_of_isNumberChar h (by decide))
  · next heq => exact absurd (List.cons.inj heq).1 (ne_of_isNumberChar h (by decide))
  · next heq => exact absurd (List.cons.inj heq).1 (ne_of_isNumberChar h (by decide))
  · next heq => exact absurd (List.cons.inj heq).1 (ne_of_isNumberChar h (by decide))
  · next heq => exact absurd (List.cons.inj heq).1 (ne_of_isNumberChar h (by decide))
  · rfl

theorem readItems_last {item : Document} (h : readValue bound text = some (item, ']' :: rest)) :
    readItems (bound + 1) text = some ([item], rest) := by
  rw [readItems, h]
  rfl

theorem readItems_next {item : Document} {items : List Document}
    (h : readValue bound text = some (item, ',' :: tail))
    (hitems : readItems bound tail = some (items, rest)) :
    readItems (bound + 1) text = some (item :: items, rest) := by
  have hstep : readItems (bound + 1) text =
      (readItems bound tail).bind fun read => some (item :: read.1, read.2) := by
    rw [readItems, h]
    rfl
  rw [hstep, hitems]
  rfl

/-- Reading a member goes on with its value once the key is read. -/
theorem readMembers_of_key {pieces : List Piece}
    (hkey : readString text = some (pieces, ':' :: tail)) :
    readMembers (bound + 1) ('"' :: text) = (readValue bound tail).bind fun (value, rest) =>
      match skipSpace rest with
      | ',' :: rest => (readMembers bound rest).bind fun (members, rest) =>
        some ((pieces, value) :: members, rest)
      | '\x7d' :: rest => some ([(pieces, value)], rest)
      | _ => none := by
  rw [readMembers]
  show (readString text).bind _ = _
  rw [hkey]
  rfl

theorem readMembers_last {pieces : List Piece} {value : Document}
    (hkey : readString text = some (pieces, ':' :: tail))
    (h : readValue bound tail = some (value, '\x7d' :: rest)) :
    readMembers (bound + 1) ('"' :: text) = some ([(pieces, value)], rest) := by
  rw [readMembers_of_key hkey, h]
  rfl

theorem readMembers_next {pieces : List Piece} {value : Document} {after : List Char}
    {members : List (List Piece × Document)}
    (hkey : readString text = some (pieces, ':' :: tail))
    (h : readValue bound tail = some (value, ',' :: after))
    (hmembers : readMembers bound after = some (members, rest)) :
    readMembers (bound + 1) ('"' :: text) = some ((pieces, value) :: members, rest) := by
  have hstep : readMembers (bound + 1) ('"' :: text) =
      (readMembers bound after).bind fun (members, rest) =>
        some ((pieces, value) :: members, rest) := by
    rw [readMembers_of_key hkey, h]
    rfl
  rw [hstep, hmembers]
  rfl

end Steps

/-! ### Leaves -/

theorem legible_null : Legible .null := by
  intro bound rest hbound _
  cases bound with
  | zero => simp [Value.text, textWith] at hbound
  | succ bound => exact ⟨.null, rfl, rfl, rfl⟩

theorem legible_bool (b : Bool) : Legible (.bool b) := by
  intro bound rest hbound _
  cases bound with
  | zero => cases b <;> simp [Value.text, textWith] at hbound
  | succ bound => cases b <;> exact ⟨_, rfl, rfl, rfl⟩

theorem legible_string (text : String) : Legible (.string text) := by
  intro bound rest hbound _
  obtain ⟨pieces, hread, htext⟩ := readString_literal text rest
  cases bound with
  | zero => simp [Value.text, textWith, stringText] at hbound
  | succ bound =>
      refine ⟨.string pieces, ?_, by rw [Document.value?, htext]; rfl, rfl⟩
      rw [Value.text, textWith, stringText_append, readValue_string, hread]
      rfl

theorem legible_number {x : Number} (h : x.ReadsBack) : Legible (.number x) := by
  intro bound rest hbound hrest
  obtain ⟨literal, hread, hvalue⟩ := h
  obtain ⟨c, tail, htext⟩ := List.exists_cons_of_ne_nil (numberText_ne_nil x)
  have hc : isNumberChar c = true :=
    isNumberChar_of_mem_numberText (by rw [htext]; exact List.mem_cons_self)
  have hreads := readNumber_append hrest hread
  cases bound with
  | zero => simp [Value.text, textWith, htext] at hbound
  | succ bound =>
      refine ⟨.number literal, ?_, by rw [Document.value?, hvalue]; rfl, rfl⟩
      rw [htext, List.cons_append, List.nil_append] at hreads
      rw [Value.text, textWith, htext, List.cons_append, readValue_number hc, hreads]
      rfl

/-! ### Arrays -/

theorem startsNoNumber_itemsText {ν : Type} {numberText : ν → List Char} (items : List (Json ν))
    (rest : List Char) : StartsNoNumber (itemsText numberText items ++ rest) := by
  cases items with
  | nil => exact startsNoNumber_cons (by decide) (by decide)
  | cons item items => exact startsNoNumber_cons (by decide) (by decide)

/-- Items are read back, the first of them having been written without a comma. -/
theorem readItems_text {first : Value} {items : List Value} (hfirst : Legible first)
    (hitems : ∀ item ∈ items, Legible item) (bound : Nat) (rest : List Char)
    (hbound : 2 * (first.text ++ itemsText Number.text items).length ≤ bound) :
    ∃ documents,
      readItems bound (first.text ++ (itemsText Number.text items ++ rest)) =
          some (documents, rest) ∧
        valuesOf? documents = some (first :: items) ∧
        nestingOfItems documents = depthOfItems (first :: items) := by
  induction items generalizing first bound with
  | nil =>
      cases bound with
      | zero => simp [itemsText] at hbound
      | succ bound =>
          obtain ⟨document, hread, hvalue, hdepth⟩ :=
            hfirst bound (itemsText Number.text [] ++ rest)
              (by simp [itemsText] at hbound; omega) (startsNoNumber_itemsText [] rest)
          refine ⟨[document], readItems_last hread, ?_, ?_⟩
          · simp [valuesOf?, hvalue]
          · simp [nestingOfItems, depthOfItems, hdepth]
  | cons item items ih =>
      cases bound with
      | zero => simp [itemsText] at hbound
      | succ bound =>
          -- the comma pays for the two steps that lead from one item to the next
          rw [itemsText_cons, List.length_append, List.length_cons] at hbound
          obtain ⟨document, hread, hvalue, hdepth⟩ :=
            hfirst bound (itemsText Number.text (item :: items) ++ rest) (by omega)
              (startsNoNumber_itemsText (item :: items) rest)
          obtain ⟨documents, hreads, hvalues, hdepths⟩ :=
            ih (hitems item List.mem_cons_self)
              (fun other hother => hitems other (List.mem_cons_of_mem _ hother)) bound (by omega)
          rw [itemsText_cons, List.cons_append, List.append_assoc] at hread ⊢
          refine ⟨document :: documents, readItems_next hread hreads, ?_, ?_⟩
          · simp [valuesOf?, hvalue, hvalues]
          · simp only [nestingOfItems, hdepth, hdepths, depthOfItems]

theorem legible_array {items : List Value} (h : ∀ item ∈ items, Legible item) :
    Legible (.array items) := by
  intro bound rest hbound _
  cases bound with
  | zero =>
      have := one_le_length_text (.array items)
      omega
  | succ bound =>
      cases items with
      | nil => exact ⟨.array [], rfl, rfl, rfl⟩
      | cons item items =>
          rw [text_array, List.length_cons] at hbound
          obtain ⟨documents, hreads, hvalues, hdepths⟩ :=
            readItems_text (h item List.mem_cons_self)
              (fun other hother => h other (List.mem_cons_of_mem _ hother)) bound rest (by omega)
          refine ⟨.array documents, ?_, ?_, ?_⟩
          · obtain ⟨c, tail, hc, hspace, hclose⟩ := text_eq_cons item
            rw [hc, List.cons_append] at hreads
            rw [text_array, hc, List.cons_append, List.cons_append, List.cons_append,
              List.append_assoc, readValue_array hspace hclose, hreads]
            rfl
          · rw [Document.value?, hvalues]
            rfl
          · rw [Document.nesting, hdepths, depth]

/-! ### Objects -/

theorem startsNoNumber_membersText {ν : Type} {numberText : ν → List Char}
    (members : List (String × Json ν)) (rest : List Char) :
    StartsNoNumber (membersText numberText members ++ rest) := by
  cases members with
  | nil => exact startsNoNumber_cons (by decide) (by decide)
  | cons member members => exact startsNoNumber_cons (by decide) (by decide)

/-- Members are read back, the first of them having been written without a comma. -/
theorem readMembers_text (key : String) {first : Value} {members : List (String × Value)}
    (hfirst : Legible first) (hmembers : ∀ member ∈ members, Legible member.2) (bound : Nat)
    (rest : List Char)
    (hbound : 2 * (stringText key ++ ':' :: (first.text ++ membersText Number.text members)).length
      ≤ bound) :
    ∃ documents,
      readMembers bound
          (stringText key ++ ':' :: (first.text ++ (membersText Number.text members ++ rest))) =
          some (documents, rest) ∧
        entriesOf? documents = some ((key, first) :: members) ∧
        nestingOfMembers documents = depthOfMembers ((key, first) :: members) := by
  induction members generalizing key first bound with
  | nil =>
      cases bound with
      | zero => simp [stringText] at hbound
      | succ bound =>
          obtain ⟨document, hread, hvalue, hdepth⟩ :=
            hfirst bound (membersText Number.text [] ++ rest)
              (by simp [membersText, stringText] at hbound; omega)
              (startsNoNumber_membersText [] rest)
          obtain ⟨pieces, hkey, htext⟩ := readString_literal key
            (':' :: (first.text ++ (membersText Number.text [] ++ rest)))
          refine ⟨[(pieces, document)], ?_, ?_, ?_⟩
          · rw [stringText_append]
            exact readMembers_last hkey hread
          · simp [entriesOf?, htext, hvalue]
          · simp [nestingOfMembers, depthOfMembers, hdepth]
  | cons member members ih =>
      obtain ⟨nextKey, next⟩ := member
      cases bound with
      | zero => simp [stringText] at hbound
      | succ bound =>
          -- as for items, the comma pays for the two steps to the next member
          rw [membersText_cons, List.length_append, List.length_cons, List.length_append,
            List.length_cons] at hbound
          obtain ⟨document, hread, hvalue, hdepth⟩ :=
            hfirst bound (membersText Number.text ((nextKey, next) :: members) ++ rest) (by omega)
              (startsNoNumber_membersText ((nextKey, next) :: members) rest)
          have hnext : Legible next := hmembers (nextKey, next) List.mem_cons_self
          obtain ⟨documents, hreads, hvalues, hdepths⟩ :=
            ih nextKey hnext
              (fun other hother => hmembers other (List.mem_cons_of_mem _ hother)) bound (by omega)
          rw [membersText_cons, List.cons_append, List.append_assoc, List.cons_append,
            List.append_assoc] at hread ⊢
          obtain ⟨pieces, hkey, htext⟩ := readString_literal key
            (':' :: (first.text ++ ',' :: (stringText nextKey ++
              ':' :: (next.text ++ (membersText Number.text members ++ rest)))))
          refine ⟨(pieces, document) :: documents, ?_, ?_, ?_⟩
          · rw [stringText_append]
            exact readMembers_next hkey hread hreads
          · simp [entriesOf?, htext, hvalue, hvalues]
          · simp only [nestingOfMembers, hdepth, hdepths, depthOfMembers]

theorem legible_object {members : List (String × Value)} (hascending : Ascending members)
    (h : ∀ member ∈ members, Legible member.2) : Legible (.object members) := by
  intro bound rest hbound _
  cases bound with
  | zero =>
      have := one_le_length_text (.object members)
      omega
  | succ bound =>
      cases members with
      | nil => exact ⟨.object [], rfl, rfl, rfl⟩
      | cons member members =>
          obtain ⟨key, value⟩ := member
          rw [text_object, List.length_cons] at hbound
          have hvalue : Legible value := h (key, value) List.mem_cons_self
          obtain ⟨documents, hreads, hvalues, hdepths⟩ :=
            readMembers_text key hvalue
              (fun other hother => h other (List.mem_cons_of_mem _ hother)) bound rest (by omega)
          refine ⟨.object documents, ?_, ?_, ?_⟩
          · rw [text_object, List.cons_append, List.append_assoc, List.cons_append,
              List.append_assoc, stringText_append, readValue_object, ← stringText_append, hreads]
            rfl
          · -- the keys were ascending, so that no member replaces another
            rw [Document.value?, hvalues, Option.map_some, ofEntries_of_ascending hascending]
          · rw [Document.nesting, hdepths, depth]

/-! ### Values -/

mutual

/-- **Every ordered value whose numbers are read back is legible.** -/
theorem legible_of_readsBack :
    (value : Value) → value.Ordered → (∀ x ∈ value.numbers, x.ReadsBack) → Legible value
  | .null, _, _ => legible_null
  | .bool b, _, _ => legible_bool b
  | .string text, _, _ => legible_string text
  | .number x, _, h => legible_number (h x (by simp [numbers]))
  | .array items, hordered, h => legible_array (legible_items items hordered h)
  | .object members, hordered, h =>
      legible_object hordered.1 (legible_members members hordered.2 h)

theorem legible_items :
    (items : List Value) → OrderedItems items → (∀ x ∈ numbersOfItems items, x.ReadsBack) →
      ∀ item ∈ items, Legible item
  | [], _, _ => by simp
  | item :: items, hordered, h => by
      simp only [numbersOfItems, List.mem_append] at h
      have hitem := legible_of_readsBack item hordered.1 fun x hx => h x (Or.inl hx)
      intro other hother
      rcases List.mem_cons.1 hother with heq | hother
      · rw [heq]
        exact hitem
      · exact legible_items items hordered.2 (fun x hx => h x (Or.inr hx)) other hother

theorem legible_members :
    (members : List (String × Value)) → OrderedMembers members →
      (∀ x ∈ numbersOfMembers members, x.ReadsBack) → ∀ member ∈ members, Legible member.2
  | [], _, _ => by simp
  | (key, value) :: members, hordered, h => by
      simp only [numbersOfMembers, List.mem_append] at h
      have hvalue := legible_of_readsBack value hordered.1 fun x hx => h x (Or.inl hx)
      intro other hother
      rcases List.mem_cons.1 hother with heq | hother
      · rw [heq]
        exact hvalue
      · exact legible_members members hordered.2 (fun x hx => h x (Or.inr hx)) other hother

end

/-- **Round trip.**  The text of an ordered value is parsed to that value, if
the value is not nested too deeply and its numbers are read back. -/
theorem parse?_text {value : Value} (hordered : value.Ordered)
    (hdepth : value.depth ≤ deepestNesting) (hnumbers : ∀ x ∈ value.numbers, x.ReadsBack) :
    parse? value.text = some value := by
  obtain ⟨document, hread, hvalue, hnesting⟩ :=
    legible_of_readsBack value hordered hnumbers (2 * value.text.length + 2) [] (by omega)
      startsNoNumber_nil
  rw [List.append_nil] at hread
  have hdocument : Document.parse? value.text = some document := by
    rw [Document.parse?, hread]
    rfl
  rw [parse?, hdocument, Option.bind_eq_bind, Option.bind_some, if_pos (hnesting ▸ hdepth), hvalue]

/-! ### How deep a value that was read can be -/

mutual

theorem depth_le_nesting : (document : Document) → {value : Value} →
    document.value? = some value → value.depth ≤ document.nesting
  | .null, _, h => by
      simp only [Document.value?, Option.some.injEq] at h
      subst h
      exact Nat.le_refl 0
  | .bool b, _, h => by
      simp only [Document.value?, Option.some.injEq] at h
      subst h
      exact Nat.le_refl 0
  | .number _, _, h => by
      simp only [Document.value?, Option.map_eq_some_iff] at h
      obtain ⟨_, _, rfl⟩ := h
      exact Nat.le_refl 0
  | .string _, _, h => by
      simp only [Document.value?, Option.map_eq_some_iff] at h
      obtain ⟨_, _, rfl⟩ := h
      exact Nat.le_refl 0
  | .array items, _, h => by
      simp only [Document.value?, Option.map_eq_some_iff] at h
      obtain ⟨values, hvalues, rfl⟩ := h
      exact Nat.succ_le_succ (depthOfItems_le_nesting items hvalues)
  | .object members, _, h => by
      simp only [Document.value?, Option.map_eq_some_iff] at h
      obtain ⟨entries, hentries, rfl⟩ := h
      have hmembers : depthOfMembers (ofEntries entries) ≤ nestingOfMembers members :=
        calc depthOfMembers (ofEntries entries)
            ≤ depthOfMembers entries := depthOfMembers_ofEntries_le entries
          _ ≤ nestingOfMembers members := depthOfMembers_le_nesting members hentries
      exact Nat.succ_le_succ hmembers

theorem depthOfItems_le_nesting : (items : List Document) → {values : List Value} →
    valuesOf? items = some values → depthOfItems values ≤ nestingOfItems items
  | [], _, h => by
      simp only [valuesOf?, Option.some.injEq] at h
      subst h
      exact Nat.le_refl 0
  | item :: items, _, h => by
      simp only [valuesOf?, Option.bind_eq_bind, Option.bind_eq_some_iff, Option.pure_def,
        Option.some.injEq] at h
      obtain ⟨value, hvalue, values, hvalues, rfl⟩ := h
      have hitem := depth_le_nesting item hvalue
      have hitems := depthOfItems_le_nesting items hvalues
      simp only [depthOfItems, nestingOfItems]
      omega

theorem depthOfMembers_le_nesting : (members : List (List Piece × Document)) →
    {entries : List (String × Value)} → entriesOf? members = some entries →
    depthOfMembers entries ≤ nestingOfMembers members
  | [], _, h => by
      simp only [entriesOf?, Option.some.injEq] at h
      subst h
      exact Nat.le_refl 0
  | (key, item) :: members, _, h => by
      simp only [entriesOf?, Option.bind_eq_bind, Option.bind_eq_some_iff, Option.pure_def,
        Option.some.injEq] at h
      obtain ⟨_, _, value, hvalue, entries, hentries, rfl⟩ := h
      have hitem := depth_le_nesting item hvalue
      have hitems := depthOfMembers_le_nesting members hentries
      simp only [depthOfMembers, nestingOfMembers]
      omega

end

/-- A parsed value is not nested too deeply. -/
theorem depth_of_parse? {text : List Char} {value : Value} (h : parse? text = some value) :
    value.depth ≤ deepestNesting := by
  simp only [parse?, Option.bind_eq_bind, Option.bind_eq_some_iff] at h
  obtain ⟨document, _, h⟩ := h
  split at h
  · next hnesting => exact Nat.le_trans (depth_le_nesting document h) hnesting
  · simp at h

end ListingAttributes.Json
