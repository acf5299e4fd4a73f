import ListingAttributes.Numeric.Reading
import ListingAttributes.Proofs.Numeric.Digits
import ListingAttributes.Proofs.Numeric.Shortest

/-!
# Written numbers are read back

However a decimal is laid out, its text is read as a decimal of the same value
(`value_decimalText`).  Since a decimal in the interval of a number is read as
that number, the text of a number is read as the number again, in every style
and with its sign (`ofText?_text`), and different numbers have different texts
(`text_injective`).
-/

namespace ListingAttributes.Numeric

open Text

/-! ### Parts of a written number -/

theorem leadingDigits_append (digits rest : List Char)
    (hdigits : ∀ c ∈ digits, isAsciiDigit c = true) (hrest : StartsNoDigit rest) :
    leadingDigits (digits ++ rest) = (digits, rest) := by
  unfold leadingDigits
  rw [takeWhile_append_of_stop hdigits hrest, dropWhile_append_of_stop hdigits hrest]

/-- A number without a point. -/
theorem ofText?_whole (whole tail : List Char) (hwhole : ∀ c ∈ whole, isAsciiDigit c = true)
    (hne : whole ≠ []) (htail : StartsNoDigit tail) (hpoint : fractionOfText tail = ([], tail)) :
    Decimal.ofText? (whole ++ tail) =
      (exponentOfText? tail).map fun exponent => ⟨decimalValue whole, exponent⟩ := by
  unfold Decimal.ofText?
  rw [leadingDigits_append _ _ hwhole htail]
  dsimp only
  rw [hpoint]
  dsimp only
  rw [if_neg (fun h => hne h.1), List.append_nil]
  congr 1
  funext exponent
  simp

/-- A number with a point. -/
theorem ofText?_point (whole fraction tail : List Char)
    (hwhole : ∀ c ∈ whole, isAsciiDigit c = true) (hne : whole ≠ [])
    (hfraction : ∀ c ∈ fraction, isAsciiDigit c = true) (htail : StartsNoDigit tail) :
    Decimal.ofText? (whole ++ '.' :: (fraction ++ tail)) =
      (exponentOfText? tail).map fun exponent =>
        ⟨decimalValue (whole ++ fraction), exponent - fraction.length⟩ := by
  have hpoint : fractionOfText ('.' :: (fraction ++ tail)) = (fraction, tail) :=
    leadingDigits_append _ _ hfraction htail
  unfold Decimal.ofText?
  rw [leadingDigits_append _ _ hwhole (startsNoDigit_cons (by decide))]
  dsimp only
  rw [hpoint]
  dsimp only
  rw [if_neg (fun h => hne h.1)]

/-- What is behind the letter of an exponent: a sign and digits. -/
theorem exponentOfText?_sign (negative : Bool) (text : List Char) :
    exponentOfText? ('e' :: (if negative then '-' else '+') :: text) =
      match leadingDigits text with
      | ([], _) => none
      | (digits, []) =>
        some (if negative then -(decimalValue digits : Int) else decimalValue digits)
      | _ => none := by
  cases negative <;> rfl

theorem exponentOfText?_digitsOf (exponent : Int) :
    exponentOfText? ('e' :: (if exponent < 0 then '-' else '+') :: digitsOf exponent.natAbs) =
      some exponent := by
  have hdigits := leadingDigits_append (digitsOf exponent.natAbs) []
    (fun c hc => isAsciiDigit_of_mem_digitsOf hc) startsNoDigit_nil
  obtain ⟨first, rest, hcons⟩ := List.exists_cons_of_ne_nil (digitsOf_ne_nil exponent.natAbs)
  have hsign := exponentOfText?_sign (decide (exponent < 0)) (digitsOf exponent.natAbs)
  simp only [decide_eq_true_eq] at hsign
  rw [List.append_nil] at hdigits
  rw [hsign, hdigits, hcons]
  dsimp only
  rw [← hcons, decimalValue_digitsOf]
  congr 1
  split <;> omega

/-! ### Decimals -/

theorem digit_of_mem_zero {c : Char} (h : c ∈ ['0']) : isAsciiDigit c = true := by
  rw [List.mem_singleton.1 h]
  decide

theorem digit_of_mem_replicate {c : Char} {n : Nat} (h : c ∈ List.replicate n '0') :
    isAsciiDigit c = true := by
  rw [(List.mem_replicate.1 h).2]
  decide

/-- A decimal with places behind the point is read as it is. -/
theorem ofText?_positionalText (pointZero : Bool) {d : Decimal} (hexponent : ¬0 ≤ d.exponent) :
    Decimal.ofText? (positionalText pointZero d) = some d := by
  have hdrop : ∀ n, ∀ c ∈ (digitsOf d.digits).drop n, isAsciiDigit c = true :=
    fun n c hc => isAsciiDigit_of_mem_digitsOf (List.mem_of_mem_drop hc)
  unfold positionalText
  dsimp only
  rw [if_neg hexponent]
  split
  · next hplaces =>
    -- the point stands among the digits
    have hread := ofText?_point
      ((digitsOf d.digits).take ((digitsOf d.digits).length - (-d.exponent).toNat))
      ((digitsOf d.digits).drop ((digitsOf d.digits).length - (-d.exponent).toNat)) []
      (fun c hc => isAsciiDigit_of_mem_digitsOf (List.mem_of_mem_take hc))
      (by
        intro h
        have hlength := congrArg List.length h
        rw [List.length_take, List.length_nil] at hlength
        omega)
      (hdrop ((digitsOf d.digits).length - (-d.exponent).toNat)) startsNoDigit_nil
    rw [List.append_nil] at hread
    rw [hread, List.take_append_drop, decimalValue_digitsOf, List.length_drop]
    have hplace : (0 : Int) - ((digitsOf d.digits).length -
        ((digitsOf d.digits).length - (-d.exponent).toNat) : Nat) = d.exponent := by omega
    show some (⟨d.digits, _⟩ : Decimal) = some d
    rw [hplace]
  · next hplaces =>
    -- the point stands before all digits
    have hread := ofText?_point ['0']
      (List.replicate ((-d.exponent).toNat - (digitsOf d.digits).length) '0' ++
        digitsOf d.digits) [] (fun _ hc => digit_of_mem_zero hc) (List.cons_ne_nil _ _) (by
        intro c hc
        rcases List.mem_append.1 hc with hc | hc
        · exact digit_of_mem_replicate hc
        · exact isAsciiDigit_of_mem_digitsOf hc) startsNoDigit_nil
    have hvalue : decimalValue (['0'] ++
        (List.replicate ((-d.exponent).toNat - (digitsOf d.digits).length) '0' ++
          digitsOf d.digits)) = d.digits := by
      have hzero : decimalValue ['0'] = 0 := rfl
      rw [decimalValue_append, decimalValue_append, decimalValue_digitsOf,
        decimalValue_replicate_zero, hzero]
      simp
    have hplace : (0 : Int) - ((-d.exponent).toNat - (digitsOf d.digits).length +
        (digitsOf d.digits).length : Nat) = d.exponent := by omega
    rw [List.append_nil, hvalue, List.length_append, List.length_replicate] at hread
    refine hread.trans ?_
    show some (⟨d.digits, _⟩ : Decimal) = some d
    rw [hplace]

/-- A decimal in positional notation is read as one of the same value. -/
theorem value_positionalText (pointZero : Bool) (d : Decimal) :
    ∃ e, Decimal.ofText? (positionalText pointZero d) = some e ∧ e.value = d.value := by
  by_cases hexponent : 0 ≤ d.exponent
  · -- zeros stand for the exponent, which the reader does not know about
    obtain ⟨k, hk⟩ := Int.eq_ofNat_of_zero_le hexponent
    have hdigits : ∀ c ∈ digitsOf d.digits ++ List.replicate k '0', isAsciiDigit c = true := by
      intro c hc
      rcases List.mem_append.1 hc with hc | hc
      · exact isAsciiDigit_of_mem_digitsOf hc
      · exact digit_of_mem_replicate hc
    have hne : digitsOf d.digits ++ List.replicate k '0' ≠ [] := by
      simp [digitsOf_ne_nil]
    have hvalue : decimalValue (digitsOf d.digits ++ List.replicate k '0') =
        d.digits * powTen k := by
      rw [decimalValue_append, decimalValue_digitsOf, decimalValue_replicate_zero,
        List.length_replicate, Nat.add_zero]
    unfold positionalText
    dsimp only
    rw [if_pos hexponent, hk, Int.toNat_natCast]
    cases pointZero with
    | false =>
        have hread := ofText?_whole _ [] hdigits hne startsNoDigit_nil rfl
        refine ⟨_, hread, ?_⟩
        unfold Decimal.value
        dsimp only
        rw [hvalue, hk]
        push_cast
        simp [powTen_cast]
    | true =>
        have hread := ofText?_point _ ['0'] [] hdigits hne (fun _ hc => digit_of_mem_zero hc)
          startsNoDigit_nil
        refine ⟨_, hread, ?_⟩
        unfold Decimal.value
        dsimp only
        rw [decimalValue_append, hvalue, hk]
        have hzero : decimalValue ['0'] = 0 := rfl
        have hone : powTen ['0'].length = 10 := rfl
        rw [hzero, hone]
        push_cast
        simp [powTen_cast]
  · exact ⟨d, ofText?_positionalText pointZero hexponent, rfl⟩

/-- A decimal in scientific notation is read as it is. -/
theorem ofText?_scientificText (d : Decimal) : Decimal.ofText? (scientificText d) = some d := by
  unfold scientificText
  dsimp only
  generalize hleading : d.exponent + (digitsOf d.digits).length - 1 = leading
  have hletter : StartsNoDigit ('e' :: (if leading < 0 then '-' else '+') ::
      digitsOf leading.natAbs) := startsNoDigit_cons (by decide)
  have hdigits : ∀ c ∈ digitsOf d.digits, isAsciiDigit c = true :=
    fun c hc => isAsciiDigit_of_mem_digitsOf hc
  have hvalue := decimalValue_digitsOf d.digits
  obtain ⟨first, rest, hcons⟩ := List.exists_cons_of_ne_nil (digitsOf_ne_nil d.digits)
  rw [hcons] at hdigits hvalue hleading
  rw [hcons]
  have hfirst : ∀ c ∈ [first], isAsciiDigit c = true := by
    intro c hc
    exact hdigits c (List.mem_cons.2 (Or.inl (List.mem_singleton.1 hc)))
  cases rest with
  | nil =>
      have hread := ofText?_whole _ _ hfirst (List.cons_ne_nil _ _) hletter rfl
      rw [exponentOfText?_digitsOf, hvalue] at hread
      have hexponent : leading = d.exponent := by
        rw [List.length_singleton] at hleading
        omega
      rw [hexponent] at hread hletter ⊢
      exact hread
  | cons second rest =>
      have hread := ofText?_point _ _ _ hfirst (List.cons_ne_nil _ _)
        (fun c hc => hdigits c (List.mem_cons_of_mem _ hc)) hletter
      have hvalue' : decimalValue ([first] ++ second :: rest) = d.digits := hvalue
      rw [exponentOfText?_digitsOf, hvalue', Option.map_some] at hread
      have hexponent : leading - (second :: rest).length = d.exponent := by
        rw [List.length_cons] at hleading
        omega
      rw [hexponent] at hread
      exact hread

theorem value_decimalText (style : Style) (d : Decimal) :
    ∃ e, Decimal.ofText? (style.decimalText d) = some e ∧ e.value = d.value := by
  unfold Style.decimalText
  dsimp only
  split
  · split
    · exact value_positionalText _ d
    · exact ⟨d, ofText?_scientificText d, rfl⟩
  · exact value_positionalText _ d

/-! ### Numbers -/

/-- Zero is written as zero, and what is zero is read as zero. -/
theorem value_shortest_zero {F : Format} {tie : TieRule} {x : Binary F} (hzero : x.units = 0) :
    (x.shortest tie).value = 0 := by
  unfold Binary.shortest Decimal.value
  rw [if_pos hzero]
  norm_num

theorem ofDecimal?_zero {F : Format} {x : Binary F} {d : Decimal} (hzero : x.units = 0)
    (hvalue : d.value = 0) : Binary.ofDecimal? x.negative d = some x := by
  have hdigits : d.digits = 0 := by
    unfold Decimal.value at hvalue
    rcases mul_eq_zero.1 hvalue with h | h
    · exact_mod_cast h
    · exact absurd h (zpow_ne_zero _ (by norm_num))
  unfold Binary.ofDecimal?
  dsimp only
  rw [if_pos (Or.inl hdigits)]
  cases x
  subst hzero
  rfl

theorem toLower_of_isAsciiDigit {c : Char} (hdigit : isAsciiDigit c = true) : c.toLower = c := by
  unfold isAsciiDigit at hdigit
  simp only [Bool.and_eq_true, decide_eq_true_eq] at hdigit
  refine dif_neg ?_
  intro hupper
  exact absurd (UInt32.le_trans hupper.1 hdigit.2) (by decide)

/-- A text that starts with a digit is none of the words for what is no finite number. -/
theorem ofUnsignedText?_digit {F : Format} (negative : Bool) {c : Char} {rest : List Char}
    (hdigit : isAsciiDigit c = true) :
    (Extended.ofUnsignedText? negative (c :: rest) : Option (Extended F)) =
      (Decimal.ofText? (c :: rest)).map fun d =>
        match Binary.ofDecimal? negative d with
        | some x => .finite x
        | none => .infinite negative := by
  have hlower := toLower_of_isAsciiDigit hdigit
  have hword : ∀ first word, isAsciiDigit first = false →
      String.ofList ((c :: rest).map Char.toLower) ≠ String.ofList (first :: word) := by
    intro first word hfirst h
    rw [String.ofList_inj, List.map_cons, hlower, List.cons.injEq] at h
    rw [← h.1, hdigit] at hfirst
    cases hfirst
  have hinfinite := not_or.2 ⟨hword 'i' ['n', 'f'] (by decide),
    hword 'i' ['n', 'f', 'i', 'n', 'i', 't', 'y'] (by decide)⟩
  unfold Extended.ofUnsignedText?
  dsimp only
  refine (if_neg hinfinite).trans ?_
  refine (if_neg (hword 'n' ['a', 'n'] (by decide))).trans ?_
  rfl

/-- A text that starts with a digit has no sign. -/
theorem ofText?_digit {F : Format} {c : Char} {rest : List Char} (hdigit : isAsciiDigit c = true) :
    (Extended.ofText? (c :: rest) : Option (Extended F)) =
      Extended.ofUnsignedText? false (c :: rest) := by
  unfold Extended.ofText?
  split
  · next text heq =>
    rw [(List.cons.inj heq).1] at hdigit
    exact absurd hdigit (by decide)
  · next text heq =>
    rw [(List.cons.inj heq).1] at hdigit
    exact absurd hdigit (by decide)
  · rfl

/-- **The text of a number is read as the number**, in every style. -/
theorem ofText?_text {F : Format} (style : Style) (x : Binary F) :
    Extended.ofText? (x.text style) = some (.finite x) := by
  obtain ⟨d, hread, hvalue⟩ := value_decimalText style (x.shortest style.tie)
  obtain ⟨c, rest, hcons, hdigit⟩ := head_decimalText style (x.shortest style.tie)
  have hnumber : Binary.ofDecimal? x.negative d = some x := by
    by_cases hpos : 0 < x.units
    · refine Binary.ofDecimal?_of_contains hpos ?_
      rw [hvalue]
      exact Binary.contains_shortest style.tie hpos
    · exact ofDecimal?_zero (by omega) (by rw [hvalue]; exact value_shortest_zero (by omega))
  have hunsigned : Extended.ofUnsignedText? x.negative (style.decimalText (x.shortest style.tie)) =
      some (.finite x) := by
    rw [hcons, ofUnsignedText?_digit _ hdigit, ← hcons, hread, Option.map_some, hnumber]
  unfold Binary.text
  cases hnegative : x.negative with
  | true =>
      rw [hnegative] at hunsigned
      exact hunsigned
  | false =>
      rw [hnegative] at hunsigned
      rw [if_neg Bool.false_ne_true, List.nil_append, hcons, ofText?_digit hdigit, ← hcons]
      exact hunsigned

/-- **Different numbers have different texts.** -/
theorem text_injective {F : Format} {style : Style} {x y : Binary F}
    (h : x.text style = y.text style) : x = y := by
  have hread := ofText?_text style x
  rw [h, ofText?_text, Option.some.injEq, Extended.finite.injEq] at hread
  exact hread.symm

end ListingAttributes.Numeric
