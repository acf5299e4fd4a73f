import ListingAttributes.Numeric.Notation
import ListingAttributes.Proofs.Text.Runs
import ListingAttributes.Text.DecimalDigit

/-!
# Digits and the characters of written numbers

The digits of a natural number are ASCII digits that denote it again and do
not start with a zero (`decimalValue_digitsOf`, `head_digitsOf_ne_zero`).  A reader
that takes digits from the front of a text takes exactly them if the text that
follows starts with no digit (`StartsNoDigit`).  The text of a decimal starts
with such a digit (`head_decimalText`).

`isNumberChar_of_mem_text` bounds the characters that any written number is
made of: digits, a sign, a point and the letter of an exponent.  That no blank
and no colon is among them is all that most readers need to know.
-/

namespace ListingAttributes.Numeric

open Text

/-! ### Digits -/

theorem isAsciiDigit_of_mem_digitsOf {c : Char} {n : Nat} (h : c ∈ digitsOf n) :
    isAsciiDigit c = true := by
  have hdigit : c.isDigit = true := Nat.isDigit_of_mem_toDigits (by decide) (by decide) h
  simp only [Char.isDigit, Bool.and_eq_true, decide_eq_true_eq] at hdigit
  simp only [isAsciiDigit, Bool.and_eq_true, decide_eq_true_eq]
  exact hdigit

theorem digitsOf_ne_nil (n : Nat) : digitsOf n ≠ [] := Nat.toDigits_ne_nil

/-- The digits of a number denote it. -/
theorem decimalValue_digitsOf (n : Nat) : decimalValue (digitsOf n) = n :=
  Nat.ofDigitChars_ten_toDigits

theorem decimalValue_append (front back : List Char) :
    decimalValue (front ++ back) =
      decimalValue front * powTen back.length + decimalValue back := by
  show Nat.ofDigitChars 10 (front ++ back) 0 = _
  rw [Nat.ofDigitChars_append, Nat.ofDigitChars_eq_ofDigitChars_zero, Nat.mul_comm]
  rfl

theorem decimalValue_replicate_zero (n : Nat) : decimalValue (List.replicate n '0') = 0 := by
  show Nat.ofDigitChars 10 (List.replicate n '0') 0 = 0
  rw [Nat.ofDigitChars_replicate_zero, Nat.mul_zero]

/-- The digits of a positive number do not start with a zero. -/
theorem head_digitsOf_ne_zero {n : Nat} (hn : 0 < n) : (digitsOf n).head? ≠ some '0' := by
  induction n using Nat.strongRecOn with
  | _ n ih =>
      rcases Nat.lt_or_ge n 10 with hlt | hge
      · have hdigits : digitsOf n = [n.digitChar] := Nat.toDigits_of_lt_base hlt
        rw [hdigits, List.head?_cons]
        intro hzero
        have : n.digitChar.toNat - 48 = n := Nat.toNat_digitChar_sub_48_of_lt_ten hlt
        rw [Option.some.inj hzero] at this
        exact absurd this.symm (Nat.ne_of_gt hn)
      · -- the first digit is that of a tenth, which is positive as well
        have hdigits : digitsOf n = digitsOf (n / 10) ++ [(n % 10).digitChar] :=
          Nat.toDigits_of_base_le (by decide) hge
        obtain ⟨first, rest, hfirst⟩ := List.exists_cons_of_ne_nil (digitsOf_ne_nil (n / 10))
        have hne := ih (n / 10) (by omega) (by omega)
        rw [hfirst] at hne
        rw [hdigits, hfirst]
        exact hne

/-! ### Texts that follow digits -/

/-- A text that starts with no digit. -/
def StartsNoDigit (text : List Char) : Prop := ∀ c ∈ text.head?, isAsciiDigit c = false

theorem startsNoDigit_nil : StartsNoDigit [] := by
  intro c hc
  cases hc

theorem startsNoDigit_cons {c : Char} {text : List Char} (h : isAsciiDigit c = false) :
    StartsNoDigit (c :: text) := by
  intro first hfirst
  obtain rfl := Option.some.inj hfirst
  exact h

/-! ### The characters of written numbers -/

/-- The characters that numbers are written with. -/
def isNumberChar (c : Char) : Bool :=
  isAsciiDigit c || c == '-' || c == '+' || c == '.' || c == 'e'

theorem isNumberChar_of_isAsciiDigit {c : Char} (h : isAsciiDigit c = true) :
    isNumberChar c = true := by
  simp [isNumberChar, h]

theorem isNumberChar_of_mem_digitsOf {c : Char} {n : Nat} (h : c ∈ digitsOf n) :
    isNumberChar c = true :=
  isNumberChar_of_isAsciiDigit (isAsciiDigit_of_mem_digitsOf h)

theorem isNumberChar_of_mem_positionalText {c : Char} {pointZero : Bool} {d : Decimal}
    (h : c ∈ positionalText pointZero d) : isNumberChar c = true := by
  unfold positionalText at h
  dsimp only at h
  split at h
  · -- a whole number: digits, zeros, and perhaps a point with a zero
    simp only [List.mem_append, List.mem_replicate] at h
    rcases h with (h | ⟨_, rfl⟩) | h
    · exact isNumberChar_of_mem_digitsOf h
    · decide
    · cases pointZero
      · simp at h
      · simp only [if_true, List.mem_cons, List.not_mem_nil, or_false] at h
        rcases h with rfl | rfl <;> decide
  · split at h
    · -- a point among the digits
      simp only [List.mem_append, List.mem_cons] at h
      rcases h with h | rfl | h
      · exact isNumberChar_of_mem_digitsOf (List.mem_of_mem_take h)
      · decide
      · exact isNumberChar_of_mem_digitsOf (List.mem_of_mem_drop h)
    · -- a point before all digits
      simp only [List.mem_append, List.mem_cons, List.mem_replicate] at h
      rcases h with (rfl | rfl | ⟨_, rfl⟩) | h
      · decide
      · decide
      · decide
      · exact isNumberChar_of_mem_digitsOf h

theorem isNumberChar_of_mem_scientificText {c : Char} {d : Decimal} (h : c ∈ scientificText d) :
    isNumberChar c = true := by
  unfold scientificText at h
  dsimp only at h
  have hdigits : ∀ c ∈ digitsOf d.digits, isNumberChar c = true :=
    fun c hc => isNumberChar_of_mem_digitsOf hc
  rcases List.mem_append.1 h with h | h
  · split at h
    · next first second rest heq =>
      -- the point stands behind the first digit
      rw [heq] at hdigits
      rcases List.mem_cons.1 h with rfl | h
      · exact hdigits _ List.mem_cons_self
      · rcases List.mem_cons.1 h with rfl | h
        · decide
        · exact hdigits c (List.mem_cons_of_mem _ h)
    · exact hdigits c h
  · -- the letter, the sign and the exponent
    simp only [List.mem_cons] at h
    rcases h with rfl | rfl | h
    · decide
    · split <;> decide
    · exact isNumberChar_of_mem_digitsOf h

theorem isNumberChar_of_mem_decimalText {c : Char} {style : Style} {d : Decimal}
    (h : c ∈ style.decimalText d) : isNumberChar c = true := by
  unfold Style.decimalText at h
  dsimp only at h
  split at h
  · split at h
    · exact isNumberChar_of_mem_positionalText h
    · exact isNumberChar_of_mem_scientificText h
  · exact isNumberChar_of_mem_positionalText h

/-- **The alphabet of written numbers**, in every style. -/
theorem isNumberChar_of_mem_text {F : Format} {c : Char} {style : Style} {x : Binary F}
    (h : c ∈ x.text style) : isNumberChar c = true := by
  unfold Binary.text at h
  rcases List.mem_append.1 h with h | h
  · cases hneg : x.negative
    · simp [hneg] at h
    · simp only [hneg, if_true, List.mem_singleton] at h
      rw [h]
      decide
  · exact isNumberChar_of_mem_decimalText h

/-! ### The first character -/

theorem head_digitsOf (n : Nat) : ∃ c rest, digitsOf n = c :: rest ∧ isAsciiDigit c = true := by
  obtain ⟨c, rest, hcons⟩ := List.exists_cons_of_ne_nil (digitsOf_ne_nil n)
  refine ⟨c, rest, hcons, isAsciiDigit_of_mem_digitsOf (n := n) ?_⟩
  rw [hcons]
  exact List.mem_cons_self

theorem head_positionalText (pointZero : Bool) (d : Decimal) :
    ∃ c rest, positionalText pointZero d = c :: rest ∧ isAsciiDigit c = true := by
  obtain ⟨c, rest, hcons, hdigit⟩ := head_digitsOf d.digits
  unfold positionalText
  dsimp only
  split
  · rw [hcons]
    exact ⟨c, _, rfl, hdigit⟩
  · split
    · next hplaces =>
      have htake : (digitsOf d.digits).length - (-d.exponent).toNat ≠ 0 := by omega
      obtain ⟨k, hk⟩ := Nat.exists_eq_succ_of_ne_zero htake
      rw [hk, hcons]
      exact ⟨c, _, rfl, hdigit⟩
    · exact ⟨'0', _, rfl, by decide⟩

theorem head_scientificText (d : Decimal) :
    ∃ c rest, scientificText d = c :: rest ∧ isAsciiDigit c = true := by
  obtain ⟨c, rest, hcons, hdigit⟩ := head_digitsOf d.digits
  unfold scientificText
  dsimp only
  rw [hcons]
  cases rest with
  | nil => exact ⟨c, _, rfl, hdigit⟩
  | cons second rest => exact ⟨c, _, rfl, hdigit⟩

/-- The text of a decimal starts with a digit. -/
theorem head_decimalText (style : Style) (d : Decimal) :
    ∃ c rest, style.decimalText d = c :: rest ∧ isAsciiDigit c = true := by
  unfold Style.decimalText
  dsimp only
  split
  · split
    · exact head_positionalText _ d
    · exact head_scientificText d
  · exact head_positionalText _ d

theorem text_ne_nil {F : Format} (style : Style) (x : Binary F) : x.text style ≠ [] := by
  obtain ⟨c, rest, hcons, _⟩ := head_decimalText style (x.shortest style.tie)
  unfold Binary.text
  rw [hcons]
  exact List.append_ne_nil_of_right_ne_nil _ (List.cons_ne_nil c rest)

end ListingAttributes.Numeric
