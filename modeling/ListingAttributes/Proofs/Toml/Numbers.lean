import ListingAttributes.Proofs.Numeric.ReadingBack
import ListingAttributes.Toml.Scalar

/-!
# Written numbers are TOML numbers

Decimal notation is wider than the notation of TOML, which wants digits on both
sides of a point and no needless zero before it.  In the TOML style a number is
written as a sign, whole digits, a point and further digits
(`text_tomlStyle`), so its text is read to the end of the line, and as the
number it was written for (`readScalar_tomlText`).  An integer that fits 64
bits with a sign is read back as well (`readScalar_digitsOf`).

A number and a date can start with the same digits; it is what follows the
digits that tells them apart (`startsDate_digits`, `startsTime_digits`).
-/

namespace ListingAttributes.Toml

open Numeric Text

variable {digits whole fraction rest : List Char} {c : Char}

/-! ### Digits -/

theorem readDigits_of_not_digit (h : StartsNoDigit rest) : readDigits isAsciiDigit rest = none := by
  cases rest with
  | nil => rfl
  | cons c tail =>
      have hc : isAsciiDigit c = false := h c rfl
      cases tail with
      | nil => simp [readDigits, hc]
      | cons d tail =>
          by_cases hd : d = '_'
          · subst hd
            simp [readDigits, hc]
          · rw [readDigits, hc]
            · rfl
            · exact fun h => nomatch h
            · exact fun _ h => hd (List.cons.inj h).1

theorem readDigits_cons (hc : isAsciiDigit c = true) (hrest : rest.head? ≠ some '_') :
    readDigits isAsciiDigit (c :: rest) =
      some (match readDigits isAsciiDigit rest with
        | some (digits, rest) => (c :: digits, rest)
        | none => ([c], rest)) := by
  cases rest with
  | nil => simp [readDigits, hc]
  | cons d tail =>
      have hd : d ≠ '_' := fun h => hrest (by rw [h]; rfl)
      rw [readDigits, if_pos hc]
      · cases readDigits isAsciiDigit (d :: tail) <;> rfl
      · exact fun h => nomatch h
      · exact fun _ h => hd (List.cons.inj h).1

/-- Digits are read up to what follows them. -/
theorem readDigits_append (hdigits : ∀ c ∈ digits, isAsciiDigit c = true) (hne : digits ≠ [])
    (hrest : StartsNoDigit rest) (hunderscore : rest.head? ≠ some '_') :
    readDigits isAsciiDigit (digits ++ rest) = some (digits, rest) := by
  induction digits with
  | nil => exact absurd rfl hne
  | cons c digits ih =>
      have hc := hdigits c List.mem_cons_self
      have hmore : ∀ d ∈ digits, isAsciiDigit d = true :=
        fun d hd => hdigits d (List.mem_cons_of_mem c hd)
      cases digits with
      | nil =>
          rw [List.singleton_append, readDigits_cons hc hunderscore, readDigits_of_not_digit hrest]
      | cons d digits =>
          have hd : d ≠ '_' := by
            rintro rfl
            exact absurd (hmore '_' List.mem_cons_self) (by decide)
          rw [List.cons_append, readDigits_cons hc (by simpa using hd),
            ih hmore (List.cons_ne_nil d digits)]

/-- The digits before the point of a number: a zero, or digits that start with none. -/
structure WholeDigits (digits : List Char) : Prop where
  ascii : ∀ c ∈ digits, isAsciiDigit c = true
  ne_nil : digits ≠ []
  zero : digits.head? = some '0' → digits = ['0']

theorem wholeDigits_digitsOf (n : Nat) : WholeDigits (digitsOf n) where
  ascii := fun _ hc => isAsciiDigit_of_mem_digitsOf hc
  ne_nil := digitsOf_ne_nil n
  zero := by
    intro hzero
    rcases Nat.eq_zero_or_pos n with rfl | hpos
    · rfl
    · exact absurd hzero (head_digitsOf_ne_zero hpos)

/-- Whole digits that start with a zero are that zero. -/
theorem WholeDigits.of_zero {tail : List Char} (hwhole : WholeDigits whole)
    (h : whole ++ rest = '0' :: tail) : whole = ['0'] ∧ rest = tail := by
  have hzero : whole = ['0'] := by
    have hhead : (whole ++ rest).head? = whole.head? :=
      List.head?_append_of_ne_nil whole hwhole.ne_nil
    rw [h, List.head?_cons] at hhead
    exact hwhole.zero hhead.symm
  rw [hzero, List.singleton_append] at h
  exact ⟨hzero, (List.cons.inj h).2⟩

theorem readWhole_append (hwhole : WholeDigits whole) (hrest : StartsNoDigit rest)
    (hunderscore : rest.head? ≠ some '_') : readWhole (whole ++ rest) = some (whole, rest) := by
  unfold readWhole
  split
  · next tail heq =>
    obtain ⟨hzero, htail⟩ := hwhole.of_zero heq
    rw [hzero, htail]
  · exact readDigits_append hwhole.ascii hwhole.ne_nil hrest hunderscore

/-! ### Numbers and dates -/

/-- The digits at the start of a text end at one place only. -/
theorem eq_of_digits_append {front tail : List Char} {d : Char}
    (hdigits : ∀ c ∈ digits, isAsciiDigit c = true) (hc : isAsciiDigit c = false)
    (hfront : ∀ c ∈ front, isAsciiDigit c = true) (hd : isAsciiDigit d = false)
    (h : digits ++ c :: rest = front ++ d :: tail) : c = d := by
  have hdrop : (digits ++ c :: rest).dropWhile isAsciiDigit = c :: rest :=
    dropWhile_append_of_stop hdigits (startsNoDigit_cons hc)
  rw [h, dropWhile_append_of_stop hfront (startsNoDigit_cons hd)] at hdrop
  exact (List.cons.inj hdrop).1.symm

theorem startsDate_of_not_digit (hc : isAsciiDigit c = false) : startsDate (c :: rest) = false := by
  unfold startsDate
  split
  · next heq =>
    rw [← (List.cons.inj heq).1, hc, Bool.false_and, Bool.false_and, Bool.false_and]
  · rfl

theorem startsTime_of_not_digit (hc : isAsciiDigit c = false) : startsTime (c :: rest) = false := by
  unfold startsTime
  split
  · next heq => rw [← (List.cons.inj heq).1, hc, Bool.false_and]
  · rfl

/-- Digits before something that is no hyphen start no date. -/
theorem startsDate_digits (hdigits : ∀ c ∈ digits, isAsciiDigit c = true)
    (hc : isAsciiDigit c = false) (hhyphen : c ≠ '-') :
    startsDate (digits ++ c :: rest) = false := by
  unfold startsDate
  split
  · next year₁ year₂ year₃ year₄ tail heq =>
    apply Bool.eq_false_of_not_eq_true
    intro hyear
    have hfront : ∀ c ∈ [year₁, year₂, year₃, year₄], isAsciiDigit c = true := by
      simpa [and_assoc] using hyear
    exact hhyphen (eq_of_digits_append hdigits hc hfront (by decide) heq)
  · rfl

/-- Digits before something that is no colon start no time. -/
theorem startsTime_digits (hdigits : ∀ c ∈ digits, isAsciiDigit c = true)
    (hc : isAsciiDigit c = false) (hcolon : c ≠ ':') :
    startsTime (digits ++ c :: rest) = false := by
  unfold startsTime
  split
  · next hour₁ hour₂ tail heq =>
    apply Bool.eq_false_of_not_eq_true
    intro hhour
    have hfront : ∀ c ∈ [hour₁, hour₂], isAsciiDigit c = true := by simpa using hhour
    exact hcolon (eq_of_digits_append hdigits hc hfront (by decide) heq)
  · rfl

/-- A text that starts with digits or a sign is read as a decimal number unless it is a date, a
time or a number to another base. -/
theorem readNumeric_of_readDecimal {text : List Char} {number : Toml × List Char}
    (hdate : startsDate text = false) (htime : startsTime text = false)
    (hbase : ∀ c tail, text = '0' :: c :: tail → c ≠ 'x' ∧ c ≠ 'o' ∧ c ≠ 'b')
    (h : readDecimal text = some number) : readNumeric text = some number := by
  unfold readNumeric
  rw [hdate, htime, if_neg Bool.false_ne_true, if_neg Bool.false_ne_true]
  split
  · next tail => exact absurd rfl (hbase 'x' tail rfl).1
  · next tail => exact absurd rfl (hbase 'o' tail rfl).2.1
  · next tail => exact absurd rfl (hbase 'b' tail rfl).2.2
  · rw [h]

/-- The number that digits start is read as a decimal number. -/
theorem readNumeric_digits {number : Toml × List Char} (hwhole : WholeDigits whole)
    (hc : c = '.' ∨ c = '\n') (h : readDecimal (whole ++ c :: rest) = some number) :
    readNumeric (whole ++ c :: rest) = some number := by
  have hstop : isAsciiDigit c = false ∧ c ≠ '-' ∧ c ≠ ':' ∧ c ≠ 'x' ∧ c ≠ 'o' ∧ c ≠ 'b' := by
    rcases hc with rfl | rfl <;> decide
  obtain ⟨hdigit, hhyphen, hcolon, hletters⟩ := hstop
  refine readNumeric_of_readDecimal (startsDate_digits hwhole.ascii hdigit hhyphen)
    (startsTime_digits hwhole.ascii hdigit hcolon) ?_ h
  intro d tail heq
  have hd : c = d := (List.cons.inj (hwhole.of_zero heq).2).1
  rw [← hd]
  exact hletters

/-! ### The text of a number -/

/-- The text of a decimal in the TOML style: whole digits, a point and further digits. -/
theorem decimalText_tomlStyle {d : Decimal} (hd : 0 < d.digits ∨ d.exponent = 0) :
    ∃ whole fraction, tomlStyle.decimalText d = whole ++ '.' :: fraction ∧ WholeDigits whole ∧
      (∀ c ∈ fraction, isAsciiDigit c = true) ∧ fraction ≠ [] := by
  have hdigits : ∀ c ∈ digitsOf d.digits, isAsciiDigit c = true :=
    fun c hc => isAsciiDigit_of_mem_digitsOf hc
  show ∃ whole fraction, positionalText true d = _ ∧ _
  unfold positionalText
  dsimp only
  split
  · next hexponent =>
    -- a whole number, with a zero behind the point
    refine ⟨digitsOf d.digits ++ List.replicate d.exponent.toNat '0', ['0'], ?_, ⟨?_, ?_, ?_⟩,
      fun c hc => digit_of_mem_zero hc, List.cons_ne_nil _ _⟩
    · simp
    · intro c hc
      rcases List.mem_append.1 hc with hc | hc
      · exact hdigits c hc
      · exact digit_of_mem_replicate hc
    · exact List.append_ne_nil_of_left_ne_nil (digitsOf_ne_nil _) _
    · intro hzero
      rw [List.head?_append_of_ne_nil _ (digitsOf_ne_nil _)] at hzero
      rcases hd with hpos | hnone
      · exact absurd hzero (head_digitsOf_ne_zero hpos)
      · rw [hnone]
        simpa using (wholeDigits_digitsOf d.digits).zero hzero
  · next hexponent =>
    have hpos : 0 < d.digits := hd.resolve_right (by omega)
    have hplaces : 0 < (-d.exponent).toNat := by omega
    split
    · next hinside =>
      -- the point stands among the digits
      have htake : (digitsOf d.digits).length - (-d.exponent).toNat ≠ 0 := by omega
      refine ⟨_, _, rfl, ⟨fun c hc => hdigits c (List.mem_of_mem_take hc), ?_, ?_⟩,
        fun c hc => hdigits c (List.mem_of_mem_drop hc), ?_⟩
      · simp [htake, digitsOf_ne_nil]
      · intro hzero
        rw [List.head?_take, if_neg htake] at hzero
        exact absurd hzero (head_digitsOf_ne_zero hpos)
      · intro hnil
        have := List.drop_eq_nil_iff.1 hnil
        omega
    · -- the point stands before all digits
      refine ⟨['0'], _, rfl, ⟨fun c hc => digit_of_mem_zero hc, List.cons_ne_nil _ _,
        fun _ => rfl⟩, ?_, List.append_ne_nil_of_right_ne_nil _ (digitsOf_ne_nil _)⟩
      intro c hc
      rcases List.mem_append.1 hc with hc | hc
      · exact digit_of_mem_replicate hc
      · exact hdigits c hc

/-- The shortest decimal of a number has no exponent if it is zero. -/
theorem shortest_digits_pos_or {F : Format} (tie : TieRule) (x : Binary F) :
    0 < (x.shortest tie).digits ∨ (x.shortest tie).exponent = 0 := by
  rcases Nat.eq_zero_or_pos x.units with hzero | hpos
  · right
    rw [Binary.shortest, if_pos hzero]
  · exact Or.inl (Binary.digits_pos_of_contains hpos (Binary.contains_shortest tie hpos))

/-- The sign of a number, as it is written. -/
def signText (negative : Bool) : List Char := if negative then ['-'] else []

/-- The text of a number in the TOML style: a sign, whole digits, a point and further digits. -/
theorem text_tomlStyle {F : Format} (x : Binary F) :
    ∃ whole fraction, x.text tomlStyle = signText x.negative ++ (whole ++ '.' :: fraction) ∧
      WholeDigits whole ∧ (∀ c ∈ fraction, isAsciiDigit c = true) ∧ fraction ≠ [] := by
  obtain ⟨whole, fraction, htext, hwhole, hfraction⟩ :=
    decimalText_tomlStyle (shortest_digits_pos_or tomlStyle.tie x)
  exact ⟨whole, fraction, by rw [Binary.text, htext, signText], hwhole, hfraction⟩

/-! ### Reading it back -/

theorem readSign_signText (negative : Bool) (hwhole : WholeDigits whole) :
    readSign (signText negative ++ (whole ++ rest)) = (negative, whole ++ rest) := by
  obtain ⟨c, tail, hcons⟩ := List.exists_cons_of_ne_nil hwhole.ne_nil
  have hc : isAsciiDigit c = true := hwhole.ascii c (by rw [hcons]; exact List.mem_cons_self)
  cases negative with
  | true => rfl
  | false =>
      rw [signText, if_neg Bool.false_ne_true, List.nil_append, hcons, List.cons_append]
      unfold readSign
      split
      · next heq =>
        rw [(List.cons.inj heq).1] at hc
        exact absurd hc (by decide)
      · next heq =>
        rw [(List.cons.inj heq).1] at hc
        exact absurd hc (by decide)
      · rfl

/-- At the end of a line there is neither a point nor the letter of an exponent. -/
theorem readDecimal_whole (negative : Bool) (hwhole : WholeDigits whole) (rest : List Char) :
    readDecimal (signText negative ++ (whole ++ '\n' :: rest)) =
      (integer? (if negative then -(decimalValue whole : Int) else decimalValue whole)).map
        (·, '\n' :: rest) := by
  have hread : readWhole (whole ++ '\n' :: rest) = some (whole, '\n' :: rest) :=
    readWhole_append hwhole (startsNoDigit_cons (by decide)) (by simp)
  unfold readDecimal
  rw [readSign_signText negative hwhole]
  simp only [hread, readFraction, Option.bind_eq_bind, Option.bind_some]
  cases integer? (if negative then -(decimalValue whole : Int) else decimalValue whole) <;> rfl

/-- A number with a point is read as decimal notation has it. -/
theorem readDecimal_point (negative : Bool) (hwhole : WholeDigits whole)
    (hfraction : ∀ c ∈ fraction, isAsciiDigit c = true) (hne : fraction ≠ [])
    (rest : List Char) :
    readDecimal (signText negative ++ (whole ++ '.' :: (fraction ++ '\n' :: rest))) =
      (float? (signText negative ++ (whole ++ '.' :: fraction))).map (·, '\n' :: rest) := by
  have hwhole' : readWhole (whole ++ '.' :: (fraction ++ '\n' :: rest)) =
      some (whole, '.' :: (fraction ++ '\n' :: rest)) :=
    readWhole_append hwhole (startsNoDigit_cons (by decide)) (by simp)
  have hfraction' : readDigits isAsciiDigit (fraction ++ '\n' :: rest) =
      some (fraction, '\n' :: rest) :=
    readDigits_append hfraction hne (startsNoDigit_cons (by decide)) (by simp)
  have hexponent : readExponent ('\n' :: rest) = some ([], '\n' :: rest) := by
    simp [readExponent]
  have htext : (if negative then '-' :: (whole ++ '.' :: fraction) else whole ++ '.' :: fraction) =
      signText negative ++ (whole ++ '.' :: fraction) := by
    cases negative <;> rfl
  unfold readDecimal
  rw [readSign_signText negative hwhole]
  simp only [hwhole', readFraction, hfraction', hexponent, Option.bind_eq_bind, Option.bind_some,
    Option.map_some, List.append_nil, reduceCtorEq, false_and, if_false, htext]
  cases float? (signText negative ++ (whole ++ '.' :: fraction)) <;> rfl

/-- What starts with a digit or a hyphen is read as a number or a date. -/
theorem readScalar_numeric (hc : isAsciiDigit c = true ∨ c = '-') :
    readScalar (c :: rest) = readNumeric (c :: rest) := by
  have hletters : c ≠ 't' ∧ c ≠ 'f' := by
    rcases hc with hc | rfl
    · constructor <;> rintro rfl <;> exact absurd hc (by decide)
    · decide
  rw [readScalar]
  · rw [if_pos (by rcases hc with hc | hc <;> simp [hc])]
  · exact fun tail h _ => hletters.1 h
  · exact fun tail h _ => hletters.2 h

/-- A number without a sign starts with a digit. -/
theorem readScalar_whole (hwhole : WholeDigits whole) :
    readScalar (whole ++ rest) = readNumeric (whole ++ rest) := by
  obtain ⟨c, tail, hcons⟩ := List.exists_cons_of_ne_nil hwhole.ne_nil
  have hc : isAsciiDigit c = true := hwhole.ascii c (by rw [hcons]; exact List.mem_cons_self)
  rw [hcons, List.cons_append]
  exact readScalar_numeric (Or.inl hc)

/-- **Integers are read back** if they fit 64 bits with a sign. -/
theorem readScalar_digitsOf {n : Nat} (hn : n < 9223372036854775808) (rest : List Char) :
    readScalar (digitsOf n ++ '\n' :: rest) = some (.integer n, '\n' :: rest) := by
  have hwhole := wholeDigits_digitsOf n
  rw [readScalar_whole hwhole]
  apply readNumeric_digits hwhole (Or.inr rfl)
  have hinteger : integer? (decimalValue (digitsOf n)) = some (.integer n) := by
    rw [decimalValue_digitsOf, integer?, if_pos (by omega)]
  have hdecimal := readDecimal_whole false hwhole rest
  rwa [if_neg Bool.false_ne_true, hinteger] at hdecimal

theorem float?_text (x : Binary binary64) :
    float? (x.text tomlStyle) = some (.float (.finite x)) := by
  rw [float?, ofText?_text]

theorem readScalar_text (x : Binary binary64) (rest : List Char) :
    readScalar (x.text tomlStyle ++ '\n' :: rest) = some (.float (.finite x), '\n' :: rest) := by
  obtain ⟨whole, fraction, htext, hwhole, hfraction, hne⟩ := text_tomlStyle x
  have hdecimal := readDecimal_point x.negative hwhole hfraction hne rest
  rw [← htext, float?_text, Option.map_some] at hdecimal
  have hline : x.text tomlStyle ++ '\n' :: rest =
      signText x.negative ++ (whole ++ '.' :: (fraction ++ '\n' :: rest)) := by
    rw [htext]
    simp
  rw [hline]
  cases hnegative : x.negative with
  | false =>
      rw [hnegative] at hdecimal
      exact (readScalar_whole hwhole).trans (readNumeric_digits hwhole (Or.inl rfl) hdecimal)
  | true =>
      rw [hnegative] at hdecimal
      refine (readScalar_numeric (Or.inr rfl)).trans (readNumeric_of_readDecimal ?_ ?_ ?_ hdecimal)
      · exact startsDate_of_not_digit (by decide)
      · exact startsTime_of_not_digit (by decide)
      · exact fun c tail h => nomatch (List.cons.inj h).1

/-- **Floats are read back**, those that are no finite numbers included. -/
theorem readScalar_tomlText (x : Extended binary64) (rest : List Char) :
    readScalar (x.tomlText ++ '\n' :: rest) = some (.float x, '\n' :: rest) := by
  cases x with
  | finite x => exact readScalar_text x rest
  | infinite negative => cases negative <;> rfl
  | notANumber => rfl

end ListingAttributes.Toml
