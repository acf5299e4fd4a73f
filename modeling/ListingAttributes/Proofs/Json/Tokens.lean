import ListingAttributes.Json.Reading
import ListingAttributes.Json.Writing
import ListingAttributes.Proofs.Numeric.Digits

/-!
# Tokens that are read back

A string token is read back whatever the text is (`readString_literal`): what
is written for one character is read as one piece, and that piece stands for
the character again.

A number token is read back if reading its text gives the number
(`Number.ReadsBack`).  Every integer is (`readsBack_integer`); a double is or
is not, because its digits are scaled by one rounded power of ten.  What
follows a number in a text does not matter as long as it cannot belong to the
number (`readNumber_append`).
-/

namespace ListingAttributes.Json

open Numeric Text

/-! ### Strings -/

theorem hexValue?_hexDigit : ∀ n < 16, hexValue? (hexDigit n) = some n := by
  decide

/-- A control character is written as the unit of its own number. -/
theorem unitOfHex?_control {n : Nat} (h : n < 0x20) :
    unitOfHex? '0' '0' (hexDigit (n / 16)) (hexDigit (n % 16)) = some n := by
  have hzero : hexValue? '0' = some 0 := by decide
  simp only [unitOfHex?, hzero, hexValue?_hexDigit (n / 16) (by omega),
    hexValue?_hexDigit (n % 16) (by omega), Option.bind_eq_bind, Option.bind_some,
    Option.pure_def, Option.some.injEq]
  omega

theorem charsOf?_unit_control {n : Nat} (h : n < 0x20) (pieces : List Piece) :
    charsOf? (.unit n :: pieces) = (charsOf? pieces).map (Char.ofNat n :: ·) := by
  have hlow : n < 0xD800 ∨ 0xE000 ≤ n := Or.inl (by omega)
  rw [charsOf?.eq_def]
  simp only [hlow, if_true]

theorem readString_escape {letter : Char} (h : letter ≠ 'u') (tail : List Char) :
    readString ('\\' :: letter :: tail) =
      (escapedChar? letter).bind fun c =>
        (readString tail).map fun read => (.char c :: read.1, read.2) := by
  rw [readString]
  · cases escapedChar? letter <;> cases readString tail <;> rfl
  · intro a b c d rest hletter
    exact absurd hletter h

theorem readString_plain {c : Char} (hquote : c ≠ '"') (hbackslash : c ≠ '\\')
    (hcontrol : ¬ c.toNat < 0x20) (tail : List Char) :
    readString (c :: tail) = (readString tail).map fun read => (.char c :: read.1, read.2) := by
  rw [readString]
  · rw [if_neg (not_or.2 ⟨hcontrol, hbackslash⟩)]
    cases readString tail <;> rfl
  · exact hquote
  · intro a b c d rest hc
    exact absurd hc hbackslash
  · intro letter rest hc
    exact absurd hc hbackslash

/-- What is written for one character is read as one piece, which stands for
the character again. -/
theorem readString_literalChar (c : Char) :
    ∃ piece, (∀ tail, readString (literalChar c ++ tail) =
        (readString tail).map fun read => (piece :: read.1, read.2)) ∧
      ∀ pieces, charsOf? (piece :: pieces) = (charsOf? pieces).map (c :: ·) := by
  have hchar : ∀ pieces, charsOf? (.char c :: pieces) = (charsOf? pieces).map (c :: ·) :=
    fun pieces => by rw [charsOf?]
  have hescaped : ∀ letter, letter ≠ 'u' → escapedChar? letter = some c →
      ∀ tail, readString (['\\', letter] ++ tail) =
        (readString tail).map fun read => (.char c :: read.1, read.2) := by
    intro letter hletter hc tail
    rw [List.cons_append, List.singleton_append, readString_escape hletter, hc, Option.bind_some]
  unfold literalChar
  split
  · exact ⟨.char '"', hescaped '"' (by decide) rfl, hchar⟩
  · exact ⟨.char '\\', hescaped '\\' (by decide) rfl, hchar⟩
  · exact ⟨.char '\x08', hescaped 'b' (by decide) rfl, hchar⟩
  · exact ⟨.char '\x0c', hescaped 'f' (by decide) rfl, hchar⟩
  · exact ⟨.char '\n', hescaped 'n' (by decide) rfl, hchar⟩
  · exact ⟨.char '\r', hescaped 'r' (by decide) rfl, hchar⟩
  · exact ⟨.char '\t', hescaped 't' (by decide) rfl, hchar⟩
  · next hquote hbackslash _ _ _ _ _ =>
    split
    · next hcontrol =>
      -- the two hexadecimal digits behind the zeros give the number of the character back
      refine ⟨.unit c.toNat, fun tail => ?_, fun pieces => ?_⟩
      · simp only [List.cons_append, List.nil_append, readString, unitOfHex?_control hcontrol]
        cases readString tail <;> rfl
      · rw [charsOf?_unit_control hcontrol, Char.ofNat_toNat]
    · next hplain =>
      exact ⟨.char c, readString_plain hquote hbackslash hplain, hchar⟩

/-- **Strings are read back.** -/
theorem readString_literal (text : String) (rest : List Char) :
    ∃ pieces, readString (text.toList.flatMap literalChar ++ '"' :: rest) = some (pieces, rest) ∧
      textOf? pieces = some text := by
  have hchars : ∀ cs : List Char, ∃ pieces,
      readString (cs.flatMap literalChar ++ '"' :: rest) = some (pieces, rest) ∧
        charsOf? pieces = some cs := by
    intro cs
    induction cs with
    | nil => exact ⟨[], by simp [readString], rfl⟩
    | cons c cs ih =>
        obtain ⟨pieces, hread, hof⟩ := ih
        obtain ⟨piece, hpiece, hpieces⟩ := readString_literalChar c
        refine ⟨piece :: pieces, ?_, ?_⟩
        · rw [List.flatMap_cons, List.append_assoc, hpiece, hread]
          rfl
        · rw [hpieces, hof]
          rfl
  obtain ⟨pieces, hread, hof⟩ := hchars text.toList
  refine ⟨pieces, hread, ?_⟩
  rw [textOf?, hof, Option.map_some, String.ofList_toList]

/-! ### Numbers -/

/-- The text that is written for a number is read to its end, as that number. -/
def Number.ReadsBack (x : Number) : Prop :=
  ∃ literal, readNumber x.text = some (literal, []) ∧ numberOf? literal = some x

theorem Number.readsBack_iff {x : Number} :
    x.ReadsBack ↔ (match readNumber x.text with
      | some (literal, []) => numberOf? literal = some x
      | _ => False) := by
  unfold ReadsBack
  split
  · next literal hread =>
    rw [hread]
    simp
  · next hother =>
    simp only [iff_false, not_exists, not_and]
    intro literal hread
    exact absurd hread (hother literal)

instance (x : Number) : Decidable x.ReadsBack :=
  @decidable_of_iff' _ _ Number.readsBack_iff (by split <;> infer_instance)

/-- A text that does not start with a character that could go on a number. -/
def StartsNoNumber (text : List Char) : Prop :=
  ∀ c ∈ text.head?, isNumberChar c = false ∧ c ≠ 'E'

theorem startsNoNumber_nil : StartsNoNumber [] := by
  intro c hc
  simp at hc

theorem startsNoNumber_cons {c : Char} {rest : List Char} (hnumber : isNumberChar c = false)
    (hletter : c ≠ 'E') : StartsNoNumber (c :: rest) := by
  intro d hd
  obtain rfl : c = d := by simpa using hd
  exact ⟨hnumber, hletter⟩

theorem StartsNoNumber.startsNoDigit {text : List Char} (h : StartsNoNumber text) :
    StartsNoDigit text := by
  intro c hc
  have hnumber := (h c hc).1
  simp only [isNumberChar, Bool.or_eq_false_iff] at hnumber
  exact hnumber.1.1.1.1

section Followed

variable {text rest left : List Char}

theorem spanDigits_append (hrest : StartsNoDigit rest) :
    spanDigits (text ++ rest) = ((spanDigits text).1, (spanDigits text).2 ++ rest) := by
  have hfront : ∀ c ∈ text.takeWhile isAsciiDigit, isAsciiDigit c = true :=
    List.all_eq_true.1 List.all_takeWhile
  have hback : StartsNoDigit (text.dropWhile isAsciiDigit ++ rest) := by
    have hstop := head?_dropWhile isAsciiDigit text
    cases hdrop : text.dropWhile isAsciiDigit with
    | nil => exact hrest
    | cons c tail =>
        rw [hdrop] at hstop
        exact hstop
  have hsplit : text ++ rest =
      text.takeWhile isAsciiDigit ++ (text.dropWhile isAsciiDigit ++ rest) := by
    rw [← List.append_assoc, List.takeWhile_append_dropWhile]
  unfold spanDigits
  rw [hsplit, takeWhile_append_of_stop hfront hback, dropWhile_append_of_stop hfront hback]

theorem readWhole_append {digits : List Char} (hrest : StartsNoNumber rest)
    (h : readWhole text = some (digits, left)) :
    readWhole (text ++ rest) = some (digits, left ++ rest) := by
  unfold readWhole at h ⊢
  rw [spanDigits_append hrest.startsNoDigit]
  rcases hspan : spanDigits text with ⟨front, back⟩
  rw [hspan] at h
  dsimp only at h ⊢
  split at h <;> simp_all

theorem readFraction_of_no_point (h : ∀ c ∈ text.head?, c ≠ '.') :
    readFraction text = some ([], text) := by
  unfold readFraction
  split
  · exact absurd rfl (h '.' rfl)
  · rfl

theorem readFraction_append {digits : List Char} (hrest : StartsNoNumber rest)
    (h : readFraction text = some (digits, left)) :
    readFraction (text ++ rest) = some (digits, left ++ rest) := by
  by_cases hpoint : ∃ tail, text = '.' :: tail
  · -- the digits behind the point end where the text or the digits do
    obtain ⟨tail, rfl⟩ := hpoint
    simp only [readFraction, List.cons_append, spanDigits_append hrest.startsNoDigit] at h ⊢
    rcases hspan : spanDigits tail with ⟨front, back⟩
    rw [hspan] at h
    dsimp only at h ⊢
    split at h <;> simp_all
  · -- nothing is read, and a text that was empty is not followed by a point
    have htext : ∀ c ∈ text.head?, c ≠ '.' := by
      rintro c hc rfl
      obtain ⟨tail, htail⟩ := List.head?_eq_some_iff.1 hc
      exact hpoint ⟨tail, htail⟩
    rw [readFraction_of_no_point htext] at h
    obtain ⟨rfl, rfl⟩ : [] = digits ∧ text = left := by simpa using h
    apply readFraction_of_no_point
    rw [List.head?_append]
    intro c hc
    cases text with
    | nil =>
        rintro rfl
        exact absurd (hrest '.' (by simpa using hc)).1 (by decide)
    | cons d tail => exact htext c (by simpa using hc)

theorem readExponentDigits_append {negative : Bool} {exponent : Option (Bool × List Char)}
    (hrest : StartsNoNumber rest) (h : readExponentDigits negative text = some (exponent, left)) :
    readExponentDigits negative (text ++ rest) = some (exponent, left ++ rest) := by
  unfold readExponentDigits at h ⊢
  rw [spanDigits_append hrest.startsNoDigit]
  rcases hspan : spanDigits text with ⟨front, back⟩
  rw [hspan] at h
  dsimp only at h ⊢
  split at h <;> simp_all

theorem readExponent_append {exponent : Option (Bool × List Char)} (hrest : StartsNoNumber rest)
    (h : readExponent text = some (exponent, left)) :
    readExponent (text ++ rest) = some (exponent, left ++ rest) := by
  cases text with
  | nil =>
      obtain ⟨rfl, rfl⟩ : none = exponent ∧ [] = left := by simpa [readExponent] using h
      cases rest with
      | nil => rfl
      | cons c rest =>
          have hletter : ¬ (c = 'e' ∨ c = 'E') := by
            rintro (rfl | rfl)
            · exact absurd (hrest 'e' rfl).1 (by decide)
            · exact (hrest 'E' rfl).2 rfl
          simp [readExponent, hletter]
  | cons c tail =>
      simp only [readExponent, List.cons_append] at h ⊢
      split
      · next hletter =>
        rw [if_pos hletter] at h
        split at h
        · exact readExponentDigits_append hrest h
        · exact readExponentDigits_append hrest h
        · next hplus hminus =>
          -- a sign cannot come from what follows: there is a digit before it
          cases tail with
          | nil => simp [readExponentDigits, spanDigits] at h
          | cons d tail =>
              rw [List.cons_append]
              split
              · next heq => exact (hplus tail (by rw [(List.cons.inj heq).1])).elim
              · next heq => exact (hminus tail (by rw [(List.cons.inj heq).1])).elim
              · exact readExponentDigits_append hrest h
      · next hletter =>
        rw [if_neg hletter, Option.some.injEq, Prod.mk.injEq] at h
        rw [← h.1, ← h.2, List.cons_append]

theorem readUnsigned_append {negative : Bool} {literal : NumberLiteral}
    (hrest : StartsNoNumber rest) (h : readUnsigned negative text = some (literal, left)) :
    readUnsigned negative (text ++ rest) = some (literal, left ++ rest) := by
  simp only [readUnsigned, Option.bind_eq_bind, Option.bind_eq_some_iff, Option.pure_def,
    Option.some.injEq, Prod.mk.injEq, Prod.exists] at h
  obtain ⟨whole, afterWhole, hwhole, fraction, afterFraction, hfraction, exponent, afterExponent,
    hexponent, rfl, rfl⟩ := h
  simp only [readUnsigned, readWhole_append hrest hwhole, readFraction_append hrest hfraction,
    readExponent_append hrest hexponent, Option.bind_eq_bind, Option.bind_some, Option.pure_def]

/-- **What follows a number does not matter** if it cannot belong to the number. -/
theorem readNumber_append {literal : NumberLiteral} (hrest : StartsNoNumber rest)
    (h : readNumber text = some (literal, left)) :
    readNumber (text ++ rest) = some (literal, left ++ rest) := by
  cases text with
  | nil => simp [readNumber, readUnsigned, readWhole, spanDigits] at h
  | cons c tail =>
      rw [List.cons_append]
      by_cases hc : c = '-'
      · subst hc
        exact readUnsigned_append hrest h
      · have hplain : ∀ tail, readNumber (c :: tail) = readUnsigned false (c :: tail) := by
          intro tail
          unfold readNumber
          split
          · next heq => exact absurd (List.cons.inj heq).1 hc
          · rfl
        rw [hplain] at h ⊢
        exact readUnsigned_append hrest h

end Followed

/-! ### Integers -/

theorem spanDigits_digitsOf (n : Nat) : spanDigits (digitsOf n) = (digitsOf n, []) := by
  have hdigits : ∀ c ∈ digitsOf n, isAsciiDigit c = true :=
    fun _ hc => isAsciiDigit_of_mem_digitsOf hc
  have htake := takeWhile_append_of_stop hdigits startsNoDigit_nil
  have hdrop := dropWhile_append_of_stop hdigits startsNoDigit_nil
  rw [List.append_nil] at htake hdrop
  rw [spanDigits, htake, hdrop]

theorem readUnsigned_digitsOf (negative : Bool) (n : Nat) :
    readUnsigned negative (digitsOf n) = some (⟨negative, digitsOf n, [], none⟩, []) := by
  have hwhole : readWhole (digitsOf n) = some (digitsOf n, []) := by
    unfold readWhole
    rw [spanDigits_digitsOf]
    split
    · next heq => exact absurd (Prod.mk.inj heq).1 (digitsOf_ne_nil n)
    · next second rest _ heq =>
      have hdigits := (Prod.mk.inj heq).1
      -- two digits or more belong to a positive number, which starts with no zero
      rcases Nat.eq_zero_or_pos n with rfl | hpos
      · have hzero : digitsOf 0 = ['0'] := rfl
        rw [hzero] at hdigits
        simp at hdigits
      · exact absurd (by rw [hdigits]; rfl) (head_digitsOf_ne_zero hpos)
    · rfl
  simp [readUnsigned, hwhole, readFraction, readExponent]

theorem readNumber_digitsOf (n : Nat) :
    readNumber (digitsOf n) = some (⟨false, digitsOf n, [], none⟩, []) := by
  rw [← readUnsigned_digitsOf]
  unfold readNumber
  split
  · next heq =>
    have hminus : '-' ∈ digitsOf n := by rw [heq]; exact List.mem_cons_self
    exact absurd (isAsciiDigit_of_mem_digitsOf hminus) (by decide)
  · rfl

theorem ofInt?_value (i : Integer) : Integer.ofInt? i.value = some i := by
  unfold Integer.ofInt?
  rw [dif_pos ⟨i.lower, i.upper⟩]

theorem integerOf?_digitsOf (negative : Bool) (n : Nat) :
    integerOf? ⟨negative, digitsOf n, [], none⟩ =
      if negative then if n = 0 then none else Integer.ofInt? (-(n : Int))
      else Integer.ofInt? n := by
  unfold integerOf?
  rw [if_pos ⟨rfl, rfl⟩]
  dsimp only
  rw [decimalValue_digitsOf]

/-- **Integers are read back.** -/
theorem readsBack_integer (i : Integer) : (Number.integer i).ReadsBack := by
  unfold Number.ReadsBack Number.text
  dsimp only
  by_cases hneg : i.value < 0
  · have htext : intText i.value = '-' :: digitsOf i.value.natAbs := if_pos hneg
    have hzero : i.value.natAbs ≠ 0 := by omega
    have hvalue : -(i.value.natAbs : Int) = i.value := by omega
    refine ⟨⟨true, digitsOf i.value.natAbs, [], none⟩, ?_, ?_⟩
    · rw [htext]
      exact readUnsigned_digitsOf true _
    · rw [numberOf?, integerOf?_digitsOf, if_pos rfl, if_neg hzero, hvalue, ofInt?_value]
  · have htext : intText i.value = digitsOf i.value.natAbs := if_neg hneg
    have hvalue : (i.value.natAbs : Int) = i.value := by omega
    refine ⟨⟨false, digitsOf i.value.natAbs, [], none⟩, ?_, ?_⟩
    · rw [htext]
      exact readNumber_digitsOf _
    · rw [numberOf?, integerOf?_digitsOf, if_neg Bool.false_ne_true, hvalue, ofInt?_value]

end ListingAttributes.Json
