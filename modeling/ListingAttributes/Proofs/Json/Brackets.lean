import ListingAttributes.Json.Reading
import ListingAttributes.Proofs.Json.RoundTrip
import ListingAttributes.Proofs.Text.Trimming

/-!
# Brackets of a JSON text

A scan of a JSON text that knows strings but no grammar keeps count of the
brackets that are open.  A text is `Closed` if the scan comes back to where it
started, however many brackets are open around the text; every part of a text
that the reader takes for a value is closed (`takes_of_readValue`).

A line end stands in no string.  So the text behind a line end of an object
closes a bracket that it does not open, unless it is empty, and is no JSON
text itself (`parse?_behind_line`).
-/

namespace ListingAttributes.Json

open Numeric Text

/-! ### Scanning -/

/-- Where a scan has got to: between the tokens of a text, in a string, behind a backslash in a
string, each with the number of open brackets; or where no text goes on. -/
inductive Place where
  | between (depth : Nat)
  | within (depth : Nat)
  | escaped (depth : Nat)
  | nowhere
  deriving DecidableEq

/-- A character that opens and closes nothing. -/
def isPlain (c : Char) : Bool :=
  !(c == '"' || c == '[' || c == '\x7b' || c == ']' || c == '\x7d')

/-- The place behind one more character. -/
def Place.next : Place → Char → Place
  | between depth, c =>
    if c = '"' then within depth
    else if c = '[' ∨ c = '\x7b' then between (depth + 1)
    else if c = ']' ∨ c = '\x7d' then
      match depth with
      | 0 => nowhere
      | depth + 1 => between depth
    else between depth
  | within depth, c =>
    if c = '"' then between depth
    else if c = '\\' then escaped depth
    else if c.toNat < 0x20 then nowhere
    else within depth
  | escaped depth, c => if c.toNat < 0x20 then nowhere else within depth
  | nowhere, _ => nowhere

/-- The place behind a text. -/
def scan (place : Place) (text : List Char) : Place := text.foldl Place.next place

@[simp] theorem scan_nil (place : Place) : scan place [] = place := rfl

@[simp] theorem scan_cons (place : Place) (c : Char) (text : List Char) :
    scan place (c :: text) = scan (place.next c) text := rfl

theorem scan_append (place : Place) (front rest : List Char) :
    scan place (front ++ rest) = scan (scan place front) rest :=
  List.foldl_append

@[simp] theorem scan_nowhere (text : List Char) : scan .nowhere text = .nowhere := by
  induction text with
  | nil => rfl
  | cons c text ih => exact ih

theorem next_plain {c : Char} (h : isPlain c = true) (depth : Nat) :
    (Place.between depth).next c = .between depth := by
  simp only [isPlain, Bool.not_eq_true', Bool.or_eq_false_iff, beq_eq_false_iff_ne] at h
  obtain ⟨⟨⟨⟨hquote, hsquare⟩, hbrace⟩, hcloseSquare⟩, hcloseBrace⟩ := h
  simp only [Place.next, hquote, hsquare, hbrace, hcloseSquare, hcloseBrace, or_self, if_false]

/-- A line end is passed between tokens only. -/
theorem between_of_line {place : Place} (h : place.next '\n' ≠ .nowhere) :
    ∃ depth, place = .between depth := by
  cases place with
  | between depth => exact ⟨depth, rfl⟩
  | within depth => exact absurd rfl h
  | escaped depth => exact absurd rfl h
  | nowhere => exact absurd rfl h

/-! ### Closed texts -/

/-- A text behind which the same brackets are open as before it. -/
def Closed (text : List Char) : Prop := ∀ depth, scan (.between depth) text = .between depth

theorem closed_nil : Closed [] := fun _ => rfl

theorem Closed.append {front rest : List Char} (hfront : Closed front) (hrest : Closed rest) :
    Closed (front ++ rest) := by
  intro depth
  rw [scan_append, hfront, hrest]

theorem closed_of_plain {text : List Char} (h : ∀ c ∈ text, isPlain c = true) : Closed text := by
  induction text with
  | nil => exact closed_nil
  | cons c text ih =>
      intro depth
      rw [scan_cons, next_plain (h c List.mem_cons_self),
        ih fun d hd => h d (List.mem_cons_of_mem _ hd)]

theorem isPlain_of_isSpace {c : Char} (h : isSpace c = true) : isPlain c = true := by
  simp only [isSpace, Bool.or_eq_true, beq_iff_eq] at h
  rcases h with ((rfl | rfl) | rfl) | rfl <;> decide

theorem isPlain_of_isBlank {c : Char} (h : isBlank c = true) : isPlain c = true := by
  refine of_isBlank (P := fun c => isPlain c = true) ?_ h
  decide +kernel

/-! ### What the reader takes -/

/-- The rest is left when a closed text is taken off a text. -/
def Takes (text rest : List Char) : Prop := ∃ front, text = front ++ rest ∧ Closed front

theorem Takes.refl (text : List Char) : Takes text text := ⟨[], rfl, closed_nil⟩

theorem Takes.trans {text middle rest : List Char} (h : Takes text middle)
    (hrest : Takes middle rest) : Takes text rest := by
  obtain ⟨front, rfl, hfront⟩ := h
  obtain ⟨back, rfl, hback⟩ := hrest
  exact ⟨front ++ back, (List.append_assoc _ _ _).symm, hfront.append hback⟩

theorem takes_append_of_plain {front : List Char} (h : ∀ c ∈ front, isPlain c = true)
    (rest : List Char) : Takes (front ++ rest) rest :=
  ⟨front, rfl, closed_of_plain h⟩

theorem takes_plain {c : Char} (h : isPlain c = true) (rest : List Char) :
    Takes (c :: rest) rest :=
  takes_append_of_plain (List.forall_mem_singleton.2 h) rest

theorem takes_dropWhile {p : Char → Bool} (h : ∀ c, p c = true → isPlain c = true)
    (text : List Char) : Takes text (text.dropWhile p) := by
  refine ⟨text.takeWhile p, List.takeWhile_append_dropWhile.symm, closed_of_plain ?_⟩
  intro c hc
  exact h c (List.all_eq_true.1 List.all_takeWhile c hc)

theorem takes_skipSpace (text : List Char) : Takes text (skipSpace text) :=
  takes_dropWhile (fun _ => isPlain_of_isSpace) text

/-- What stands between brackets is taken with them. -/
theorem takes_of_brackets {opening closing : Char} {text rest : List Char}
    (hopening : opening = '[' ∨ opening = '\x7b') (hclosing : closing = ']' ∨ closing = '\x7d')
    (h : Takes text (closing :: rest)) : Takes (opening :: text) rest := by
  obtain ⟨front, rfl, hfront⟩ := h
  refine ⟨opening :: (front ++ [closing]), by simp, ?_⟩
  intro depth
  have hopen : (Place.between depth).next opening = .between (depth + 1) := by
    rcases hopening with rfl | rfl <;> rfl
  have hclose : (Place.between (depth + 1)).next closing = .between depth := by
    rcases hclosing with rfl | rfl <;> rfl
  rw [scan_cons, hopen, scan_append, hfront, scan_cons, hclose, scan_nil]

/-! ### Strings -/

theorem next_within {c : Char} (hquote : c ≠ '"') (hbackslash : c ≠ '\\')
    (hcontrol : ¬ c.toNat < 0x20) (depth : Nat) :
    (Place.within depth).next c = .within depth := by
  simp only [Place.next, hquote, hbackslash, hcontrol, if_false]

theorem next_escaped {c : Char} (hcontrol : ¬ c.toNat < 0x20) (depth : Nat) :
    (Place.escaped depth).next c = .within depth := by
  simp only [Place.next, hcontrol, if_false]

theorem next_hex {c : Char} {n : Nat} (h : hexValue? c = some n) (depth : Nat) :
    (Place.within depth).next c = .within depth := by
  have hcontrol : ¬ c.toNat < 0x20 := by
    unfold hexValue? at h
    split at h
    · next hdigit =>
      have hlow : 48 ≤ c.toNat := hdigit.1
      omega
    · split at h
      · next hsmall =>
        have hlow : 97 ≤ c.toNat := hsmall.1
        omega
      · split at h
        · next hcapital =>
          have hlow : 65 ≤ c.toNat := hcapital.1
          omega
        · cases h
  refine next_within ?_ ?_ hcontrol depth
  · rintro rfl
    exact absurd (Option.isSome_of_eq_some h) (by decide)
  · rintro rfl
    exact absurd (Option.isSome_of_eq_some h) (by decide)

theorem not_control_of_escapedChar? {letter c : Char} (h : escapedChar? letter = some c) :
    ¬ letter.toNat < 0x20 := by
  unfold escapedChar? at h
  split at h
  all_goals first | decide | cases h

theorem scan_unit {a b c d : Char} {code : Nat} (h : unitOfHex? a b c d = some code)
    (depth : Nat) : scan (.within depth) ['\\', 'u', a, b, c, d] = .within depth := by
  simp only [unitOfHex?, Option.bind_eq_bind, Option.bind_eq_some_iff] at h
  obtain ⟨_, ha, _, hb, _, hc, _, hd, _⟩ := h
  calc scan (.within depth) ['\\', 'u', a, b, c, d]
      = scan (.within depth) [a, b, c, d] := rfl
    _ = .within depth := by
        rw [scan_cons, next_hex ha, scan_cons, next_hex hb, scan_cons, next_hex hc, scan_cons,
          next_hex hd, scan_nil]

/-- What is left of a text when a string has been taken off it, from behind its opening quote. -/
def Ends (text rest : List Char) : Prop :=
  ∃ front, text = front ++ rest ∧ ∀ depth, scan (.within depth) front = .between depth

theorem Ends.append {front text rest : List Char}
    (hfront : ∀ depth, scan (.within depth) front = .within depth) (h : Ends text rest) :
    Ends (front ++ text) rest := by
  obtain ⟨back, rfl, hback⟩ := h
  refine ⟨front ++ back, (List.append_assoc _ _ _).symm, ?_⟩
  intro depth
  rw [scan_append, hfront, hback]

theorem ends_of_readString {text rest : List Char} {pieces : List Piece}
    (h : readString text = some (pieces, rest)) : Ends text rest := by
  fun_induction readString text generalizing pieces with
  | case1 => cases h
  | case2 tail =>
      obtain ⟨rfl, rfl⟩ : [] = pieces ∧ tail = rest := by simpa using h
      exact ⟨['"'], rfl, fun _ => rfl⟩
  | case3 a b c d tail ih =>
      simp only [Option.bind_eq_bind, Option.bind_eq_some_iff, Option.pure_def,
        Option.some.injEq, Prod.mk.injEq, Prod.exists] at h
      obtain ⟨code, hcode, read, left, hread, rfl, rfl⟩ := h
      exact (ih hread).append (scan_unit hcode)
  | case4 letter tail _ ih =>
      simp only [Option.bind_eq_bind, Option.bind_eq_some_iff, Option.pure_def,
        Option.some.injEq, Prod.mk.injEq, Prod.exists] at h
      obtain ⟨c, hc, read, left, hread, rfl, rfl⟩ := h
      have hletter : ∀ depth, scan (.within depth) ['\\', letter] = .within depth :=
        fun depth => next_escaped (not_control_of_escapedChar? hc) depth
      exact (ih hread).append hletter
  | case5 => cases h
  | case6 c tail hquote _ _ hplain ih =>
      simp only [Option.bind_eq_bind, Option.bind_eq_some_iff, Option.pure_def,
        Option.some.injEq, Prod.mk.injEq, Prod.exists] at h
      obtain ⟨read, left, hread, rfl, rfl⟩ := h
      rw [not_or] at hplain
      have hc : ∀ depth, scan (.within depth) [c] = .within depth :=
        fun depth => next_within hquote hplain.2 hplain.1 depth
      exact (ih hread).append hc

theorem takes_of_readString {text rest : List Char} {pieces : List Piece}
    (h : readString text = some (pieces, rest)) : Takes ('"' :: text) rest := by
  obtain ⟨front, rfl, hfront⟩ := ends_of_readString h
  exact ⟨'"' :: front, rfl, hfront⟩

/-! ### Numbers -/

theorem isPlain_of_isNumberChar {c : Char} (h : isNumberChar c = true) : isPlain c = true := by
  simp [isPlain, ne_of_isNumberChar h (d := '"') (by decide),
    ne_of_isNumberChar h (d := '[') (by decide), ne_of_isNumberChar h (d := '\x7b') (by decide),
    ne_of_isNumberChar h (d := ']') (by decide), ne_of_isNumberChar h (d := '\x7d') (by decide)]

theorem takes_spanDigits (text : List Char) : Takes text (spanDigits text).2 :=
  takes_dropWhile (fun _ hc => isPlain_of_isNumberChar (isNumberChar_of_isAsciiDigit hc)) text

section Numbers

variable {text rest : List Char}

theorem takes_of_readWhole {digits : List Char} (h : readWhole text = some (digits, rest)) :
    Takes text rest := by
  have hspan := takes_spanDigits text
  unfold readWhole at h
  split at h
  · cases h
  · cases h
  · rw [Option.some.inj h] at hspan
    exact hspan

theorem takes_of_readFraction {digits : List Char}
    (h : readFraction text = some (digits, rest)) : Takes text rest := by
  unfold readFraction at h
  split at h
  · next tail =>
    have hspan := takes_spanDigits tail
    have hpoint : Takes ('.' :: tail) tail := takes_plain (by decide) tail
    split at h
    · cases h
    · rw [Option.some.inj h] at hspan
      exact hpoint.trans hspan
  · obtain ⟨rfl, rfl⟩ : [] = digits ∧ text = rest := by simpa using h
    exact Takes.refl _

theorem takes_of_readExponentDigits {negative : Bool} {exponent : Option (Bool × List Char)}
    (h : readExponentDigits negative text = some (exponent, rest)) : Takes text rest := by
  have hspan := takes_spanDigits text
  unfold readExponentDigits at h
  split at h
  · cases h
  · next digits left _ heq =>
    obtain ⟨rfl, rfl⟩ : some (negative, digits) = exponent ∧ left = rest := by simpa using h
    rw [heq] at hspan
    exact hspan

theorem takes_of_readExponent {exponent : Option (Bool × List Char)}
    (h : readExponent text = some (exponent, rest)) : Takes text rest := by
  unfold readExponent at h
  split at h
  · next c tail =>
    split at h
    · next hletter =>
      have hc : isPlain c = true := by
        rcases hletter with rfl | rfl <;> decide
      refine (takes_plain hc tail).trans ?_
      split at h
      · exact (takes_plain (by decide) _).trans (takes_of_readExponentDigits h)
      · exact (takes_plain (by decide) _).trans (takes_of_readExponentDigits h)
      · exact takes_of_readExponentDigits h
    · obtain ⟨rfl, rfl⟩ : none = exponent ∧ c :: tail = rest := by simpa using h
      exact Takes.refl _
  · obtain ⟨rfl, rfl⟩ : none = exponent ∧ [] = rest := by simpa using h
    exact Takes.refl _

theorem takes_of_readUnsigned {negative : Bool} {literal : NumberLiteral}
    (h : readUnsigned negative text = some (literal, rest)) : Takes text rest := by
  simp only [readUnsigned, Option.bind_eq_bind, Option.bind_eq_some_iff, Option.pure_def,
    Option.some.injEq, Prod.mk.injEq, Prod.exists] at h
  obtain ⟨whole, afterWhole, hwhole, fraction, afterFraction, hfraction, exponent, afterExponent,
    hexponent, rfl, rfl⟩ := h
  exact (takes_of_readWhole hwhole).trans
    ((takes_of_readFraction hfraction).trans (takes_of_readExponent hexponent))

theorem takes_of_readNumber {literal : NumberLiteral}
    (h : readNumber text = some (literal, rest)) : Takes text rest := by
  unfold readNumber at h
  split at h
  · exact (takes_plain (by decide) _).trans (takes_of_readUnsigned h)
  · exact takes_of_readUnsigned h

end Numbers

/-! ### Values -/

/-- The reader takes closed texts, at a bound of its depth. -/
structure ReadsClosed (bound : Nat) : Prop where
  value : ∀ {text rest : List Char} {document : Document},
    readValue bound text = some (document, rest) → Takes text rest
  items : ∀ {text rest : List Char} {items : List Document},
    readItems bound text = some (items, rest) → Takes text (']' :: rest)
  members : ∀ {text rest : List Char} {members : List (List Piece × Document)},
    readMembers bound text = some (members, rest) → Takes text ('\x7d' :: rest)

theorem takes_of_skipSpace {text rest : List Char} (h : Takes (skipSpace text) rest) :
    Takes text rest :=
  (takes_skipSpace text).trans h

section Steps

variable {bound : Nat} {text rest : List Char}

theorem takes_of_readItems (hbound : ReadsClosed bound) {items : List Document}
    (h : readItems (bound + 1) text = some (items, rest)) : Takes text (']' :: rest) := by
  simp only [readItems, Option.bind_eq_bind, Option.bind_eq_some_iff, Prod.exists] at h
  obtain ⟨item, left, hitem, h⟩ := h
  refine (hbound.value hitem).trans (takes_of_skipSpace ?_)
  split at h
  · next tail heq =>
    simp only [Option.bind_eq_some_iff, Option.pure_def, Option.some.injEq, Prod.mk.injEq,
      Prod.exists] at h
    obtain ⟨others, left, hitems, rfl, rfl⟩ := h
    rw [heq]
    exact (takes_plain (by decide) tail).trans (hbound.items hitems)
  · next tail heq =>
    obtain ⟨rfl, rfl⟩ : [item] = items ∧ tail = rest := by simpa using h
    rw [heq]
    exact Takes.refl _
  · cases h

theorem takes_of_readMembers (hbound : ReadsClosed bound)
    {members : List (List Piece × Document)}
    (h : readMembers (bound + 1) text = some (members, rest)) : Takes text ('\x7d' :: rest) := by
  rw [readMembers] at h
  refine takes_of_skipSpace ?_
  split at h
  · next tail heq =>
    rw [heq]
    simp only [Option.bind_eq_bind, Option.bind_eq_some_iff, Prod.exists] at h
    obtain ⟨key, afterKey, hkey, h⟩ := h
    refine (takes_of_readString hkey).trans (takes_of_skipSpace ?_)
    split at h
    · next tail heq =>
      rw [heq]
      simp only [Option.bind_eq_some_iff, Prod.exists] at h
      obtain ⟨value, afterValue, hvalue, h⟩ := h
      refine (takes_plain (by decide) tail).trans
        ((hbound.value hvalue).trans (takes_of_skipSpace ?_))
      split at h
      · next tail heq =>
        simp only [Option.bind_eq_some_iff, Option.pure_def, Option.some.injEq, Prod.mk.injEq,
          Prod.exists] at h
        obtain ⟨others, left, hmembers, rfl, rfl⟩ := h
        rw [heq]
        exact (takes_plain (by decide) tail).trans (hbound.members hmembers)
      · next tail heq =>
        obtain ⟨rfl, rfl⟩ : [(key, value)] = members ∧ tail = rest := by simpa using h
        rw [heq]
        exact Takes.refl _
      · cases h
    · cases h
  · cases h

/-- An object is taken from its opening to its closing brace. -/
theorem takes_of_readObject (hbound : ReadsClosed bound) {tail : List Char} {document : Document}
    (h : (match skipSpace tail with
      | '\x7d' :: rest => some (Document.object [], rest)
      | rest => (readMembers bound rest).map fun (members, rest) => (.object members, rest)) =
        some (document, rest)) : Takes tail ('\x7d' :: rest) := by
  refine takes_of_skipSpace ?_
  split at h
  · next left heq =>
    obtain ⟨rfl, rfl⟩ : Document.object [] = document ∧ left = rest := by simpa using h
    rw [heq]
    exact Takes.refl _
  · simp only [Option.map_eq_some_iff, Prod.mk.injEq, Prod.exists] at h
    obtain ⟨members, left, hread, rfl, rfl⟩ := h
    exact hbound.members hread

theorem takes_of_readArray (hbound : ReadsClosed bound) {tail : List Char} {document : Document}
    (h : (match skipSpace tail with
      | ']' :: rest => some (Document.array [], rest)
      | rest => (readItems bound rest).map fun (items, rest) => (.array items, rest)) =
        some (document, rest)) : Takes tail (']' :: rest) := by
  refine takes_of_skipSpace ?_
  split at h
  · next left heq =>
    obtain ⟨rfl, rfl⟩ : Document.array [] = document ∧ left = rest := by simpa using h
    rw [heq]
    exact Takes.refl _
  · simp only [Option.map_eq_some_iff, Prod.mk.injEq, Prod.exists] at h
    obtain ⟨items, left, hread, rfl, rfl⟩ := h
    exact hbound.items hread

theorem takes_of_readValue (hbound : ReadsClosed bound) {document : Document}
    (h : readValue (bound + 1) text = some (document, rest)) : Takes text rest := by
  rw [readValue] at h
  refine takes_of_skipSpace ?_
  split at h
  · next tail heq =>
    simp only [Option.map_eq_some_iff, Prod.mk.injEq, Prod.exists] at h
    obtain ⟨pieces, left, hread, -, rfl⟩ := h
    rw [heq]
    exact takes_of_readString hread
  · next tail heq =>
    rw [heq]
    exact takes_of_brackets (Or.inl rfl) (Or.inl rfl) (takes_of_readArray hbound h)
  · next tail heq =>
    rw [heq]
    exact takes_of_brackets (Or.inr rfl) (Or.inr rfl) (takes_of_readObject hbound h)
  · next tail heq =>
    obtain ⟨rfl, rfl⟩ : Document.null = document ∧ tail = rest := by simpa using h
    rw [heq]
    have hplain : ∀ c ∈ ['n', 'u', 'l', 'l'], isPlain c = true := List.all_eq_true.1 rfl
    exact takes_append_of_plain hplain tail
  · next tail heq =>
    obtain ⟨rfl, rfl⟩ : Document.bool true = document ∧ tail = rest := by simpa using h
    rw [heq]
    have hplain : ∀ c ∈ ['t', 'r', 'u', 'e'], isPlain c = true := List.all_eq_true.1 rfl
    exact takes_append_of_plain hplain tail
  · next tail heq =>
    obtain ⟨rfl, rfl⟩ : Document.bool false = document ∧ tail = rest := by simpa using h
    rw [heq]
    have hplain : ∀ c ∈ ['f', 'a', 'l', 's', 'e'], isPlain c = true := List.all_eq_true.1 rfl
    exact takes_append_of_plain hplain tail
  · simp only [Option.map_eq_some_iff, Prod.mk.injEq, Prod.exists] at h
    obtain ⟨literal, left, hread, -, rfl⟩ := h
    exact takes_of_readNumber hread

end Steps

/-- **The reader takes closed texts.** -/
theorem readsClosed (bound : Nat) : ReadsClosed bound := by
  induction bound with
  | zero =>
      refine ⟨?_, ?_, ?_⟩
      all_goals intros; simp_all [readValue, readItems, readMembers]
  | succ bound ih =>
      exact ⟨takes_of_readValue ih, takes_of_readItems ih, takes_of_readMembers ih⟩

/-! ### Whole texts -/

theorem exists_readValue_of_parse? {text : List Char} {value : Value}
    (h : parse? text = some value) :
    ∃ bound document rest, readValue (bound + 1) text = some (document, rest) ∧
      ∀ c ∈ rest, isSpace c = true := by
  simp only [parse?, Option.bind_eq_bind, Option.bind_eq_some_iff] at h
  obtain ⟨document, hdocument, _⟩ := h
  unfold Document.parse? at hdocument
  split at hdocument
  · next found rest hread =>
    split at hdocument
    · next hrest =>
      refine ⟨_, found, rest, hread, ?_⟩
      intro c hc
      rw [← List.takeWhile_append_dropWhile (p := isSpace) (l := rest)] at hc
      rw [show rest.dropWhile isSpace = [] from hrest, List.append_nil] at hc
      exact List.all_eq_true.1 List.all_takeWhile c hc
    · cases hdocument
  · cases hdocument

/-- **A JSON text is closed.** -/
theorem closed_of_parse? {text : List Char} {value : Value} (h : parse? text = some value) :
    Closed text := by
  obtain ⟨bound, document, rest, hread, hrest⟩ := exists_readValue_of_parse? h
  obtain ⟨front, rfl, hfront⟩ := (readsClosed (bound + 1)).value hread
  exact hfront.append (closed_of_plain fun c hc => isPlain_of_isSpace (hrest c hc))

theorem parse?_of_spaces {text : List Char} (h : ∀ c ∈ text, isSpace c = true) :
    parse? text = none := by
  rw [Option.eq_none_iff_forall_ne_some]
  intro value hvalue
  obtain ⟨bound, document, rest, hread, _⟩ := exists_readValue_of_parse? hvalue
  have hskip : skipSpace text = [] := by
    have hspaces : (text ++ []).dropWhile isSpace = [] := List.dropWhile_append_of_pos h
    rwa [List.append_nil] at hspaces
  rw [readValue, hskip] at hread
  cases hread

/-- The closing brace of an object is the last character that is no space. -/
theorem exists_of_parse?_object {tail : List Char} {value : Value}
    (h : parse? ('\x7b' :: tail) = some value) :
    ∃ inner after, tail = inner ++ '\x7d' :: after ∧ Closed inner ∧
      ∀ c ∈ after, isSpace c = true := by
  obtain ⟨bound, document, rest, hread, hrest⟩ := exists_readValue_of_parse? h
  obtain ⟨inner, htail, hinner⟩ := takes_of_readObject (readsClosed bound) hread
  exact ⟨inner, rest, htail, hinner, hrest⟩

/-- **What stands behind a line end of an object is no JSON text.**  Blanks at its start make no
difference. -/
theorem parse?_behind_line {front lead rest : List Char} {value : Value}
    (h : parse? ('\x7b' :: (front ++ '\n' :: (lead ++ rest))) = some value)
    (hlead : ∀ c ∈ lead, isPlain c = true) : parse? rest = none := by
  obtain ⟨inner, after, hsplit, hinner, hafter⟩ := exists_of_parse?_object h
  rcases List.append_eq_append_iff.1 hsplit with ⟨middle, hmiddle, hbehind⟩ | ⟨middle, _, hbehind⟩
  · cases middle with
    | nil => simp at hbehind
    | cons c middle =>
        obtain ⟨rfl, hrest⟩ : '\n' = c ∧ lead ++ rest = middle ++ '\x7d' :: after := by
          simpa using hbehind
        have hscan := hinner 0
        rw [hmiddle, scan_append, scan_cons] at hscan
        -- the scan of the object is between tokens at the line end
        obtain ⟨depth, hdepth⟩ : ∃ depth, scan (.between 0) front = .between depth := by
          apply between_of_line
          intro hnowhere
          rw [hnowhere, scan_nowhere] at hscan
          cases hscan
        have hline : (Place.between depth).next '\n' = .between depth := rfl
        rw [hdepth, hline] at hscan
        rw [Option.eq_none_iff_forall_ne_some]
        intro other hother
        -- behind it a bracket is closed that was open, so the rest would not be closed
        have hclosed := (closed_of_plain hlead).append (closed_of_parse? hother)
        have hlost : scan (.between depth) (lead ++ rest) = .nowhere :=
          calc scan (.between depth) (lead ++ rest)
              = scan (.between 0) ('\x7d' :: after) := by rw [hrest, scan_append, hscan]
            _ = scan .nowhere after := rfl
            _ = .nowhere := scan_nowhere after
        rw [hclosed depth] at hlost
        cases hlost
  · -- the line end stands behind the object
    apply parse?_of_spaces
    cases middle with
    | nil => simp at hbehind
    | cons c middle =>
        obtain ⟨-, hspaces⟩ : '\x7d' = c ∧ after = middle ++ '\n' :: (lead ++ rest) := by
          simpa using hbehind
        intro d hd
        apply hafter
        rw [hspaces]
        simp [hd]

end ListingAttributes.Json
