import ListingAttributes.Toml.StringLiteral

/-!
# Strings that are read back

There are four forms of strings, and a text is read back from each form that
can hold it (`readString_text`).  The form that is selected for a text can, so
that every text is read back (`readString_stringText`).

* In a basic string every character is read back from what is written for it,
  whether that is an escape or the character itself.  The reader of one line
  and the reader of several lines agree on this (`ReadsChars`).
* A literal string has no escapes, so its characters must all be ones that a
  string may hold.
* Over several lines, quotes stand for themselves where they do not end the
  string, and up to two of them may stand right before the end.  What has been
  passed over is kept as a number of quotes, which stays below three because
  the writer escapes every third quote or avoids the form.
-/

namespace ListingAttributes.Toml

variable {read : List Char → Option (List Char × List Char)} {text tail rest : List Char}
  {c : Char}

/-! ### Characters -/

theorem isTextChar_iff :
    isTextChar c = true ↔ c = '\t' ∨ (0x20 ≤ c.toNat ∧ c.toNat ≠ 0x7F) := by
  simp [isTextChar]

/-- A character that a string need not escape. -/
theorem isTextChar_of_not_isControl (h : isControl c = false) (hline : c ≠ '\n') :
    isTextChar c = true := by
  simp only [isControl, Bool.or_eq_false_iff, Bool.and_eq_false_iff, bne_eq_false_iff_eq,
    decide_eq_false_iff_not, beq_eq_false_iff_ne] at h
  rw [isTextChar_iff]
  obtain ⟨(hlow | htab) | hfeed, hdelete⟩ := h
  · exact Or.inr ⟨by omega, hdelete⟩
  · exact Or.inl htab
  · exact absurd hfeed hline

theorem isTextChar_ne_lineFeed (h : isTextChar c = true) : c ≠ '\n' ∧ c ≠ '\r' := by
  constructor <;> rintro rfl <;> exact absurd h (by decide)

/-- The two digits that are written for the number of a control character name it. -/
theorem charOfHex?_control : ∀ n < 128,
    charOfHex? ['0', '0', hexDigit (n / 16), hexDigit (n % 16)] = some (Char.ofNat n) := by
  decide

theorem toNat_lt_of_isControl (h : isControl c = true) : c.toNat < 128 := by
  simp only [isControl, Bool.or_eq_true, Bool.and_eq_true, decide_eq_true_eq, beq_iff_eq] at h
  omega

/-! ### Basic strings -/

/-- A reader that reads what basic strings consist of. -/
structure ReadsChars (read : List Char → Option (List Char × List Char)) : Prop where
  escape : ∀ {letter c tail}, escapedChar? letter = some c →
    read ('\\' :: letter :: tail) = consText c (read tail)
  number : ∀ {a b d e c tail}, charOfHex? [a, b, d, e] = some c →
    read ('\\' :: 'u' :: a :: b :: d :: e :: tail) = consText c (read tail)
  plain : ∀ {c tail}, isTextChar c = true → c ≠ '"' → c ≠ '\\' →
    read (c :: tail) = consText c (read tail)

/-- The letters of escapes are none of those that numbers follow, and separate nothing. -/
theorem escapedChar?_letter {letter : Char} (h : escapedChar? letter = some c)
    (tail : List Char) :
    letter ≠ 'u' ∧ letter ≠ 'U' ∧ afterLineEnd? (skipGap (letter :: tail)) = none := by
  unfold escapedChar? at h
  split at h <;> first | exact ⟨by decide, by decide, rfl⟩ | cases h

theorem readsChars_readBasic : ReadsChars readBasic where
  escape := by
    intro letter c tail h
    obtain ⟨hu, hU, -⟩ := escapedChar?_letter h tail
    rw [readBasic, h]
    · rfl
    · exact fun _ _ _ _ _ hletter => absurd hletter hu
    · exact fun _ _ _ _ _ _ _ _ _ hletter => absurd hletter hU
  number := by
    intro a b d e c tail h
    rw [readBasic, h]
    rfl
  plain := by
    intro c tail htext hquote hbackslash
    rw [readBasic, if_pos ⟨htext, hbackslash⟩]
    · exact hquote
    · exact fun _ _ _ _ _ h => absurd h hbackslash
    · exact fun _ _ _ _ _ _ _ _ _ h => absurd h hbackslash
    · exact fun _ _ h => absurd h hbackslash

/-- A character other than a quote that ends a string stands for itself. -/
theorem readMultiBasic_plain (htext : isTextChar c = true) (hbackslash : c ≠ '\\')
    (hquote : c = '"' → ∀ rest, tail ≠ '"' :: '"' :: rest) :
    readMultiBasic false (c :: tail) = consText c (readMultiBasic false tail) := by
  obtain ⟨hfeed, hreturn⟩ := isTextChar_ne_lineFeed htext
  rw [readMultiBasic, if_pos ⟨htext, hbackslash⟩]
  · exact fun _ h htail => hquote h _ htail
  · exact fun _ h htail => hquote h _ htail
  · exact fun _ h htail => hquote h _ htail
  · exact fun _ h => absurd h hreturn
  · exact hfeed
  · exact fun _ _ _ _ _ h => absurd h hbackslash
  · exact fun _ _ _ _ _ _ _ _ _ h => absurd h hbackslash
  · exact fun _ _ h => absurd h hbackslash
  all_goals exact nofun

theorem readsChars_readMultiBasic : ReadsChars (readMultiBasic false) where
  escape := by
    intro letter c tail h
    obtain ⟨hu, hU, hline⟩ := escapedChar?_letter h tail
    rw [readMultiBasic, hline, if_neg (by decide), h]
    · rfl
    · exact fun _ _ _ _ _ hletter => absurd hletter hu
    · exact fun _ _ _ _ _ _ _ _ _ hletter => absurd hletter hU
  number := by
    intro a b d e c tail h
    rw [readMultiBasic, h]
    rfl
  plain := fun htext hquote hbackslash =>
    readMultiBasic_plain htext hbackslash fun h => absurd h hquote

/-- What is written for a character in a basic string is read as the character. -/
theorem ReadsChars.basicChar (h : ReadsChars read) (hquote : c ≠ '"') (hline : c ≠ '\n') :
    read (basicChar c ++ tail) = consText c (read tail) := by
  unfold Toml.basicChar
  split
  · exact h.escape rfl
  · exact h.escape rfl
  · exact h.escape rfl
  · exact h.escape rfl
  · exact h.escape rfl
  · next hbackslash =>
    split
    · next hcontrol =>
      apply h.number
      rw [charOfHex?_control c.toNat (toNat_lt_of_isControl hcontrol), Char.ofNat_toNat]
    · next hcontrol =>
      exact h.plain (isTextChar_of_not_isControl (by simpa using hcontrol) hline) hquote hbackslash

/-- **Basic strings of one line are read back.** -/
theorem readBasic_basicText (text rest : List Char) (quotes : Nat) :
    readBasic (basicText false 0 quotes text ++ '"' :: rest) = some (text, rest) := by
  induction text generalizing quotes with
  | nil => rw [basicText, List.nil_append, readBasic]
  | cons c text ih =>
      by_cases hquote : c = '"'
      · subst hquote
        rw [basicText, if_neg (Nat.not_lt_zero quotes), List.cons_append, List.cons_append,
          readsChars_readBasic.escape rfl, ih]
        rfl
      · by_cases hline : c = '\n'
        · subst hline
          rw [basicText, if_neg Bool.false_ne_true, List.cons_append, List.cons_append,
            readsChars_readBasic.escape rfl, ih]
          rfl
        · rw [basicText, List.append_assoc, readsChars_readBasic.basicChar hquote hline, ih]
          · rfl
          · exact hquote
          · exact hline

/-! ### Literal strings of one line -/

theorem readLiteral_append (hchars : ∀ c ∈ text, isTextChar c = true ∧ c ≠ '\'')
    (rest : List Char) :
    readLiteral (text ++ '\'' :: rest) = some (text, rest) := by
  induction text with
  | nil => rw [List.nil_append, readLiteral]
  | cons c text ih =>
      obtain ⟨htext, hquote⟩ := hchars c List.mem_cons_self
      rw [List.cons_append, readLiteral, if_pos htext,
        ih fun d hd => hchars d (List.mem_cons_of_mem c hd)]
      · rfl
      · exact hquote

/-! ### Quotes in strings of several lines -/

/-- A reader of strings of several lines: two quotes and what does not follow them as a third one
are text, and up to two quotes right before the closing ones are text as well. -/
structure ReadsQuotes (quote : Char) (read : List Char → Option (List Char × List Char)) :
    Prop where
  close : ∀ quotes ≤ 2, ∀ rest,
    read (List.replicate quotes quote ++ quote :: quote :: quote :: '\n' :: rest) =
      some (List.replicate quotes quote, '\n' :: rest)
  single : ∀ {tail}, (∀ rest, tail ≠ quote :: quote :: rest) →
    read (quote :: tail) = consText quote (read tail)
  lineFeed : ∀ tail, read ('\n' :: tail) = consText '\n' (read tail)

/-- Quotes that something else follows are text. -/
theorem ReadsQuotes.inside {quote : Char} (h : ReadsQuotes quote read) {quotes : Nat}
    (hquotes : quotes ≤ 2) (hc : c ≠ quote) (hread : read (c :: tail) = some (text, rest)) :
    read (List.replicate quotes quote ++ c :: tail) =
      some (List.replicate quotes quote ++ text, rest) := by
  have hone : read (quote :: c :: tail) = some (quote :: text, rest) := by
    rw [h.single fun _ heq => hc (List.cons.inj heq).1, hread]
    rfl
  have htwo : read (quote :: quote :: c :: tail) = some (quote :: quote :: text, rest) := by
    rw [h.single fun _ heq => hc (List.cons.inj (List.cons.inj heq).2).1, hone]
    rfl
  obtain rfl | rfl | rfl : quotes = 0 ∨ quotes = 1 ∨ quotes = 2 := by omega
  · exact hread
  · exact hone
  · exact htwo

theorem readsQuotes_readMultiBasic : ReadsQuotes '"' (readMultiBasic false) where
  close := by
    intro quotes hquotes rest
    obtain rfl | rfl | rfl : quotes = 0 ∨ quotes = 1 ∨ quotes = 2 := by omega
    all_goals rfl
  single := fun htail => readMultiBasic_plain (by decide) (by decide) fun _ => htail
  lineFeed := by
    intro tail
    rw [readMultiBasic]
    exact nofun

/-- In a literal string every character stands for itself, but for a quote that ends it. -/
theorem readMultiLiteral_plain (htext : isTextChar c = true)
    (hquote : c = '\'' → ∀ rest, tail ≠ '\'' :: '\'' :: rest) :
    readMultiLiteral (c :: tail) = consText c (readMultiLiteral tail) := by
  obtain ⟨hfeed, hreturn⟩ := isTextChar_ne_lineFeed htext
  rw [readMultiLiteral, if_pos htext]
  · exact fun _ h htail => hquote h _ htail
  · exact fun _ h htail => hquote h _ htail
  · exact fun _ h htail => hquote h _ htail
  · exact fun _ h => absurd h hreturn
  · exact hfeed

theorem readsQuotes_readMultiLiteral : ReadsQuotes '\'' readMultiLiteral where
  close := by
    intro quotes hquotes rest
    obtain rfl | rfl | rfl : quotes = 0 ∨ quotes = 1 ∨ quotes = 2 := by omega
    all_goals rfl
  single := fun htail => readMultiLiteral_plain (by decide) fun _ => htail
  lineFeed := fun tail => by rw [readMultiLiteral]

/-! ### Strings of several lines -/

theorem replicate_append_cons (n : Nat) (c : Char) (text : List Char) :
    List.replicate n c ++ c :: text = List.replicate (n + 1) c ++ text := by
  rw [List.replicate_succ', List.append_assoc, List.singleton_append]

/-- What is written for a character in a basic string does not start with a quote. -/
theorem basicChar_eq_cons (hquote : c ≠ '"') : ∃ d tail, basicChar c = d :: tail ∧ d ≠ '"' := by
  unfold basicChar
  split
  · exact ⟨_, _, rfl, by decide⟩
  · exact ⟨_, _, rfl, by decide⟩
  · exact ⟨_, _, rfl, by decide⟩
  · exact ⟨_, _, rfl, by decide⟩
  · exact ⟨_, _, rfl, by decide⟩
  · split
    · exact ⟨_, _, rfl, by decide⟩
    · exact ⟨_, _, rfl, hquote⟩

/-- **Basic strings of several lines are read back.**  The quotes that stand directly before the
text have been written as they are, and there are no more than two of them. -/
theorem readMultiBasic_basicText (text rest : List Char) {quotes : Nat} (hquotes : quotes ≤ 2) :
    readMultiBasic false (List.replicate quotes '"' ++
        (basicText true 2 quotes text ++ '"' :: '"' :: '"' :: '\n' :: rest)) =
      some (List.replicate quotes '"' ++ text, '\n' :: rest) := by
  have hreads := readsQuotes_readMultiBasic
  induction text generalizing quotes with
  | nil =>
      rw [basicText, List.nil_append, List.append_nil]
      exact hreads.close quotes hquotes rest
  | cons c text ih =>
      have hnext : readMultiBasic false
          (basicText true 2 0 text ++ '"' :: '"' :: '"' :: '\n' :: rest) =
            some (text, '\n' :: rest) := ih (Nat.zero_le 2)
      by_cases hquote : c = '"'
      · subst hquote
        rw [basicText]
        split
        · next hfree =>
          -- a quote that stands for itself is one more that is passed over
          rw [List.cons_append, replicate_append_cons, replicate_append_cons]
          exact ih hfree
        · apply hreads.inside hquotes (by decide)
          exact (readsChars_readMultiBasic.escape rfl).trans (congrArg (consText '"') hnext)
      · by_cases hline : c = '\n'
        · subst hline
          rw [basicText, if_pos rfl]
          apply hreads.inside hquotes (by decide)
          exact (hreads.lineFeed _).trans (congrArg (consText '\n') hnext)
        · have hread : readMultiBasic false
              (basicChar c ++ (basicText true 2 0 text ++ '"' :: '"' :: '"' :: '\n' :: rest)) =
                some (c :: text, '\n' :: rest) := by
            rw [readsChars_readMultiBasic.basicChar hquote hline, hnext]
            rfl
          obtain ⟨d, tail, hcons, hd⟩ := basicChar_eq_cons hquote
          rw [hcons, List.cons_append] at hread
          rw [basicText]
          · rw [List.append_assoc, hcons, List.cons_append]
            exact hreads.inside hquotes hd hread
          · exact hquote
          · exact hline

theorem le_longestRun (quote : Char) (run : Nat) (text : List Char) :
    run ≤ longestRun quote run text := by
  induction text generalizing run with
  | nil => exact Nat.le_refl run
  | cons c text ih =>
      rw [longestRun]
      split
      · exact Nat.le_of_succ_le (ih (run + 1))
      · exact Nat.le_max_left run _

/-- **Literal strings of several lines are read back.** -/
theorem readMultiLiteral_append (rest : List Char) {quotes : Nat}
    (hchars : ∀ c ∈ text, isControl c = false) (hrun : longestRun '\'' quotes text ≤ 2) :
    readMultiLiteral (List.replicate quotes '\'' ++
        (text ++ '\'' :: '\'' :: '\'' :: '\n' :: rest)) =
      some (List.replicate quotes '\'' ++ text, '\n' :: rest) := by
  have hreads := readsQuotes_readMultiLiteral
  have hquotes : quotes ≤ 2 := Nat.le_trans (le_longestRun '\'' quotes text) hrun
  induction text generalizing quotes with
  | nil =>
      rw [List.nil_append, List.append_nil]
      exact hreads.close quotes hquotes rest
  | cons c text ih =>
      have hmore : ∀ d ∈ text, isControl d = false :=
        fun d hd => hchars d (List.mem_cons_of_mem c hd)
      rw [longestRun] at hrun
      split at hrun
      · next hquote =>
        subst hquote
        rw [List.cons_append, replicate_append_cons, replicate_append_cons]
        exact ih hmore hrun (Nat.le_trans (le_longestRun '\'' (quotes + 1) text) hrun)
      · next hquote =>
        have hrun' : longestRun '\'' 0 text ≤ 2 := Nat.le_trans (Nat.le_max_right quotes _) hrun
        have hnext : readMultiLiteral (text ++ '\'' :: '\'' :: '\'' :: '\n' :: rest) =
            some (text, '\n' :: rest) := ih hmore hrun' (Nat.zero_le 2)
        apply hreads.inside hquotes hquote
        by_cases hline : c = '\n'
        · subst hline
          exact (hreads.lineFeed _).trans (congrArg (consText '\n') hnext)
        · have htext := isTextChar_of_not_isControl (hchars c List.mem_cons_self) hline
          exact (readMultiLiteral_plain htext fun h => absurd h hquote).trans
            (congrArg (consText c) hnext)

/-! ### The form of a text -/

theorem not_mem_of_longestRun {quote : Char} (h : longestRun quote 0 text = 0) :
    quote ∉ text := by
  induction text with
  | nil => exact List.not_mem_nil
  | cons c text ih =>
      rw [longestRun] at h
      split at h
      · have := le_longestRun quote (0 + 1) text
        omega
      · next hquote =>
        rw [Nat.max_eq_zero_iff] at h
        rw [List.mem_cons, not_or]
        exact ⟨fun heq => hquote heq.symm, ih h.2⟩

/-- What a form asks of a text.  A basic string can hold any text; a literal one has no escapes, and
on one line no quotes, over several lines no more than two in a row. -/
def Form.Holds (text : List Char) : Form → Prop
  | basic => True
  | literal => ∀ c ∈ text, isTextChar c = true ∧ c ≠ '\''
  | multiBasic => True
  | multiLiteral => (∀ c ∈ text, isControl c = false) ∧ longestRun '\'' 0 text ≤ 2

theorem holds_literal (hcontrols : ∀ c ∈ text, isControl c = false) (hline : '\n' ∉ text)
    (hquotes : longestRun '\'' 0 text = 0) : Form.literal.Holds text := by
  intro c hc
  refine ⟨isTextChar_of_not_isControl (hcontrols c hc) ?_, ?_⟩
  · rintro rfl
    exact hline hc
  · rintro rfl
    exact not_mem_of_longestRun hquotes hc

/-- The form that is selected for a text can hold it. -/
theorem holds_formOf (text : List Char) : (formOf text).Holds text := by
  unfold formOf
  dsimp only
  split
  · trivial
  · split
    · next hform =>
      simp only [Bool.and_eq_true, Bool.not_eq_true', List.any_eq_false, beq_iff_eq,
        List.contains_eq_mem, decide_eq_false_iff_not, Bool.not_eq_true] at hform
      obtain ⟨⟨hcontrols, hquotes⟩, hline⟩ := hform
      exact holds_literal hcontrols hline hquotes
    · split
      · trivial
      · split
        · next hform =>
          show (∀ c ∈ text, isControl c = false) ∧ longestRun '\'' 0 text ≤ 2
          simpa using hform
        · split <;> trivial

/-! ### Strings -/

theorem readString_quote (htail : ∀ rest, tail ≠ '"' :: '"' :: rest) :
    readString ('"' :: tail) = readBasic tail := by
  rw [readString]
  · rfl
  · exact fun rest h => htail rest (List.cons.inj h).2
  · exact nofun

theorem readString_apostrophe (htail : ∀ rest, tail ≠ '\'' :: '\'' :: rest) :
    readString ('\'' :: tail) = readLiteral tail := by
  rw [readString]
  · rfl
  · exact nofun
  · exact fun rest h => htail rest (List.cons.inj h).2

/-- On one line every quote is escaped. -/
theorem basicText_eq_cons (c : Char) (text : List Char) :
    ∃ d tail, basicText false 0 0 (c :: text) = d :: tail ∧ d ≠ '"' := by
  by_cases hquote : c = '"'
  · subst hquote
    exact ⟨'\\', _, rfl, by decide⟩
  · by_cases hline : c = '\n'
    · subst hline
      exact ⟨'\\', _, rfl, by decide⟩
    · obtain ⟨d, tail, hcons, hd⟩ := basicChar_eq_cons hquote
      refine ⟨d, tail ++ basicText false 0 0 text, ?_, hd⟩
      rw [basicText, hcons, List.cons_append]
      · exact hquote
      · exact hline

theorem readString_basic (text rest : List Char) :
    readString (Form.basic.text text ++ '\n' :: rest) = some (text, '\n' :: rest) := by
  have hstart : ∀ tail, basicText false 0 0 text ++ '"' :: '\n' :: rest ≠ '"' :: '"' :: tail := by
    intro tail
    cases text with
    | nil => simp [basicText]
    | cons c text =>
        obtain ⟨d, tail, hcons, hd⟩ := basicText_eq_cons c text
        simp [hcons, hd]
  have hread := readBasic_basicText text ('\n' :: rest) 0
  rw [Form.text, List.append_assoc, List.cons_append, List.singleton_append,
    readString_quote hstart, hread]

theorem readString_literal (h : Form.literal.Holds text) (rest : List Char) :
    readString (Form.literal.text text ++ '\n' :: rest) = some (text, '\n' :: rest) := by
  have hstart : ∀ tail, text ++ '\'' :: '\n' :: rest ≠ '\'' :: '\'' :: tail := by
    intro tail
    cases text with
    | nil => simp
    | cons c text => simp [(h c List.mem_cons_self).2]
  have hread := readLiteral_append h ('\n' :: rest)
  rw [Form.text, List.append_assoc, List.cons_append, List.singleton_append,
    readString_apostrophe hstart, hread]

/-- **A text is read back from every form that can hold it.** -/
theorem readString_text {form : Form} (h : form.Holds text) (rest : List Char) :
    readString (form.text text ++ '\n' :: rest) = some (text, '\n' :: rest) := by
  cases form with
  | basic => exact readString_basic text rest
  | literal => exact readString_literal h rest
  | multiBasic =>
      have hread := readMultiBasic_basicText text rest (Nat.zero_le 2)
      simpa [Form.text, readString, dropLineEnd, afterLineEnd?] using hread
  | multiLiteral =>
      have hread := readMultiLiteral_append rest h.1 h.2
      simpa [Form.text, readString, dropLineEnd, afterLineEnd?] using hread

/-- **Strings are read back**, whatever the text is. -/
theorem readString_stringText (text rest : List Char) :
    readString (stringText text ++ '\n' :: rest) = some (text, '\n' :: rest) :=
  readString_text (holds_formOf text) rest

/-- A text is written without escapes where it can be. -/
example : stringText "say \"hi\"".toList = "'say \"hi\"'".toList := by decide

/-- A string starts with a quote. -/
theorem stringText_eq_cons (text : List Char) :
    ∃ tail, stringText text = '"' :: tail ∨ stringText text = '\'' :: tail := by
  unfold stringText
  cases formOf text with
  | basic => exact ⟨_, Or.inl rfl⟩
  | literal => exact ⟨_, Or.inr rfl⟩
  | multiBasic => exact ⟨_, Or.inl rfl⟩
  | multiLiteral => exact ⟨_, Or.inr rfl⟩

end ListingAttributes.Toml
