import ListingAttributes.Proofs.Json.Lookup
import ListingAttributes.Proofs.Toml.Numbers
import ListingAttributes.Proofs.Toml.Strings
import ListingAttributes.Toml.Reading
import ListingAttributes.Toml.Writing

/-!
# Written lines are read as statements

A line that is written for a setting is read as one statement
(`readStatement_line`), and so is the line of a header (`readStatement_header`).
A text is read line by line: `ReadsAs` says which statements a text consists
of, and grows by a line at a time, from the last line to the first.
-/

namespace ListingAttributes.Toml

open Numeric Text

/-! ### Values -/

/-- The value that is read for a setting. -/
def Setting.toToml : Setting → Toml
  | .text value => .string value
  | .count n => .integer n
  | .temperature value => .float value.widen

/-- A character that a number may start with. -/
def startsNumber (c : Char) : Bool := isAsciiDigit c || c == '-' || c == 'i' || c == 'n'

/-- A character that the value of a setting may start with. -/
def startsValue (c : Char) : Bool := startsNumber c || c == '"' || c == '\''

theorem startsNumber_of_isAsciiDigit {c : Char} (h : isAsciiDigit c = true) :
    startsNumber c = true := by
  simp [startsNumber, h]

theorem startsValue_of_startsNumber {c : Char} (h : startsNumber c = true) :
    startsValue c = true := by
  simp [startsValue, h]

/-- A class of characters holds none of the characters outside it. -/
theorem ne_of_class {p : Char → Bool} {c d : Char} (hc : p c = true) (hd : p d = false) :
    c ≠ d := by
  rintro rfl
  rw [hc] at hd
  cases hd

/-- A class without the two blanks holds nothing that separates tokens. -/
theorem isGap_of_class {p : Char → Bool} {c : Char} (hc : p c = true) (hblank : p ' ' = false)
    (htab : p '\t' = false) : isGap c = false := by
  simp [isGap, ne_of_class hc hblank, ne_of_class hc htab]

theorem digitsOf_eq_cons (n : Nat) :
    ∃ c tail, digitsOf n = c :: tail ∧ startsNumber c = true := by
  obtain ⟨c, tail, hcons, hc⟩ := head_digitsOf n
  exact ⟨c, tail, hcons, startsNumber_of_isAsciiDigit hc⟩

theorem tomlText_eq_cons (x : Extended binary64) :
    ∃ c tail, x.tomlText = c :: tail ∧ startsNumber c = true := by
  cases x with
  | finite x =>
      obtain ⟨c, tail, hcons, hc⟩ := head_decimalText tomlStyle (x.shortest tomlStyle.tie)
      rw [Extended.tomlText, Binary.text, hcons]
      cases x.negative with
      | false => exact ⟨c, tail, rfl, startsNumber_of_isAsciiDigit hc⟩
      | true => exact ⟨'-', c :: tail, rfl, by decide⟩
  | infinite negative =>
      cases negative with
      | false => exact ⟨'i', _, rfl, by decide⟩
      | true => exact ⟨'-', _, rfl, by decide⟩
  | notANumber => exact ⟨'n', _, rfl, by decide⟩

/-- What the text of a setting starts with. -/
theorem Setting.text?_eq_cons {setting : Setting} {value : List Char}
    (h : setting.text? = some value) : ∃ c tail, value = c :: tail ∧ startsValue c = true := by
  cases setting with
  | text text =>
      obtain rfl := Option.some.inj h
      obtain ⟨tail, hcons | hcons⟩ := stringText_eq_cons text.toList
      · exact ⟨'"', tail, hcons, by decide⟩
      · exact ⟨'\'', tail, hcons, by decide⟩
  | count n =>
      obtain ⟨c, tail, hcons, hc⟩ := digitsOf_eq_cons n
      simp only [text?] at h
      split at h
      · obtain rfl := Option.some.inj h
        exact ⟨c, tail, hcons, startsValue_of_startsNumber hc⟩
      · cases h
  | temperature x =>
      obtain rfl := Option.some.inj h
      obtain ⟨c, tail, hcons, hc⟩ := tomlText_eq_cons x.widen
      exact ⟨c, tail, hcons, startsValue_of_startsNumber hc⟩

section Values

variable {c : Char} {tail : List Char}

/-- A value that is neither an array nor an inline table is a string or a scalar. -/
theorem readValue_single (bound depth : Nat) (hc : startsValue c = true) :
    readValue (bound + 1) depth (c :: tail) =
      (readString (c :: tail)).elim (readScalar (c :: tail))
        fun read => some (.string (String.ofList read.1), read.2) := by
  have hbracket : c ≠ '[' := ne_of_class hc (by decide)
  have hbrace : c ≠ '\x7b' := ne_of_class hc (by decide)
  unfold readValue
  split
  · next heq => exact absurd (List.cons.inj heq).1 hbracket
  · next heq => exact absurd (List.cons.inj heq).1 hbrace
  · cases readString (c :: tail) <;> rfl

/-- What starts with no quote is no string. -/
theorem readString_of_startsNumber (hc : startsNumber c = true) :
    readString (c :: tail) = none := by
  have hquote : c ≠ '"' := ne_of_class hc (by decide)
  have happostrophe : c ≠ '\'' := ne_of_class hc (by decide)
  rw [readString, readLineString]
  · exact fun _ h => hquote (List.cons.inj h).1
  · exact fun _ h => happostrophe (List.cons.inj h).1
  · exact fun _ h => hquote (List.cons.inj h).1
  · exact fun _ h => happostrophe (List.cons.inj h).1

theorem readValue_number (bound depth : Nat) (hc : startsNumber c = true) :
    readValue (bound + 1) depth (c :: tail) = readScalar (c :: tail) := by
  rw [readValue_single bound depth (startsValue_of_startsNumber hc),
    readString_of_startsNumber hc, Option.elim_none]

end Values

/-- **Settings are read back** from their text, up to the end of the line. -/
theorem Setting.readValue_text? {setting : Setting} {value : List Char}
    (h : setting.text? = some value) (bound depth : Nat) (rest : List Char) :
    readValue (bound + 1) depth (value ++ '\n' :: rest) =
      some (setting.toToml, '\n' :: rest) := by
  cases setting with
  | text text =>
      obtain rfl := Option.some.inj h
      obtain ⟨c, tail, hcons, hc⟩ := text?_eq_cons h
      have hread := readString_stringText text.toList rest
      rw [hcons, List.cons_append] at hread ⊢
      rw [readValue_single bound depth hc, hread, Option.elim_some, String.ofList_toList, toToml]
  | count n =>
      simp only [text?] at h
      split at h
      · next hn =>
        obtain rfl := Option.some.inj h
        obtain ⟨c, tail, hcons, hc⟩ := digitsOf_eq_cons n
        have hread := readScalar_digitsOf hn rest
        rw [hcons, List.cons_append] at hread ⊢
        exact (readValue_number bound depth hc).trans hread
      · cases h
  | temperature x =>
      obtain rfl := Option.some.inj h
      obtain ⟨c, tail, hcons, hc⟩ := tomlText_eq_cons x.widen
      have hread := readScalar_tomlText x.widen rest
      rw [hcons, List.cons_append] at hread ⊢
      exact (readValue_number bound depth hc).trans hread

/-! ### Keys -/

/-- A key that is written without quotes. -/
structure IsBare (key : String) : Prop where
  ne_nil : key.toList ≠ []
  bare : key.toList.all isBareChar = true

instance (key : String) : Decidable (IsBare key) :=
  decidable_of_iff (key.toList ≠ [] ∧ key.toList.all isBareChar = true)
    ⟨fun h => ⟨h.1, h.2⟩, fun h => ⟨h.ne_nil, h.bare⟩⟩

variable {key : String} {text rest : List Char} {statement : Statement}
  {statements : List Statement}

theorem IsBare.eq_cons (h : IsBare key) :
    ∃ c tail, key.toList = c :: tail ∧ isBareChar c = true := by
  obtain ⟨c, tail, hcons⟩ := List.exists_cons_of_ne_nil h.ne_nil
  exact ⟨c, tail, hcons, List.all_eq_true.1 h.bare c (by rw [hcons]; exact List.mem_cons_self)⟩

theorem skipGap_cons {c : Char} (hc : isGap c = false) : skipGap (c :: rest) = c :: rest := by
  simp [skipGap, hc]

/-- A bare key is read up to what follows it and the blanks there. -/
theorem readPath_bare (hkey : IsBare key) (hstop : ∀ c ∈ rest.head?, isBareChar c = false)
    (hdot : (skipGap rest).head? ≠ some '.') :
    readPath (key.toList ++ rest) = some ([key], skipGap rest) := by
  have hbare : ∀ c ∈ key.toList, isBareChar c = true := List.all_eq_true.1 hkey.bare
  obtain ⟨c, tail, hcons, hc⟩ := hkey.eq_cons
  have hgap : skipGap (key.toList ++ rest) = key.toList ++ rest := by
    rw [hcons, List.cons_append, skipGap_cons (isGap_of_class hc (by decide) (by decide))]
  have hpart : readKeyPart (key.toList ++ rest) = some (key, rest) := by
    unfold readKeyPart
    rw [takeWhile_append_of_stop hbare hstop, dropWhile_append_of_stop hbare hstop, hcons]
    dsimp only
    rw [← hcons, String.ofList_toList]
  show readKey (78 + 1) _ = _
  rw [readKey, hgap, hpart]
  simp only [Option.bind_eq_bind, Option.bind_some]
  split
  · next tail heq =>
    rw [heq] at hdot
    exact absurd rfl hdot
  · rfl

/-! ### Lines -/

/-- The line of a key and the text of its value. -/
def lineText (key : String) (value : List Char) : List Char :=
  key.toList ++ ' ' :: '=' :: ' ' :: value

theorem linesText?_cons {setting : Setting} {settings : List (String × Setting)}
    {lines : List Char} (h : linesText? ((key, setting) :: settings) = some lines) :
    ∃ value more, setting.text? = some value ∧ linesText? settings = some more ∧
      lines = lineText key value ++ '\n' :: more := by
  simp only [linesText?, Option.bind_eq_bind, Option.bind_eq_some_iff, Option.pure_def,
    Option.some.injEq] at h
  obtain ⟨value, hvalue, more, hmore, rfl⟩ := h
  exact ⟨value, more, hvalue, hmore, rfl⟩

/-- The statement of a key and its value. -/
def settingStatement (entry : String × Setting) : Statement := .keyValue [entry.1] entry.2.toToml

/-- A character that a line starts with if it states something. -/
def startsStatement (c : Char) : Bool := isBareChar c || c == '['

theorem lineText_eq_cons (hkey : IsBare key) (value : List Char) :
    ∃ c tail, lineText key value = c :: tail ∧ startsStatement c = true := by
  obtain ⟨c, tail, hcons, hc⟩ := hkey.eq_cons
  exact ⟨c, _, by rw [lineText, hcons, List.cons_append], by simp [startsStatement, hc]⟩

/-- The line of a setting is read as one statement. -/
theorem readStatement_line {setting : Setting} {value : List Char} (hkey : IsBare key)
    (hvalue : setting.text? = some value) (rest : List Char) :
    readStatement (lineText key value ++ '\n' :: rest) =
      some (settingStatement (key, setting), '\n' :: rest) := by
  have hpath : readPath (lineText key value ++ '\n' :: rest) =
      some ([key], '=' :: ' ' :: (value ++ '\n' :: rest)) := by
    rw [lineText, List.append_assoc]
    exact readPath_bare hkey (by simp [isBareChar]) (by simp [skipGap, isGap])
  have hgap : skipGap (' ' :: (value ++ '\n' :: rest)) = value ++ '\n' :: rest := by
    obtain ⟨c, tail, hcons, hc⟩ := Setting.text?_eq_cons hvalue
    rw [hcons, List.cons_append]
    exact skipGap_cons (isGap_of_class hc (by decide) (by decide))
  obtain ⟨c, tail, hcons, hc⟩ := hkey.eq_cons
  have hbracket : c ≠ '[' := ne_of_class hc (by decide)
  unfold readStatement
  split
  · next heq =>
    rw [lineText, hcons] at heq
    exact absurd (List.cons.inj heq).1 hbracket
  · next heq =>
    rw [lineText, hcons] at heq
    exact absurd (List.cons.inj heq).1 hbracket
  · simp only [hpath, Option.bind_eq_bind, Option.bind_some, hgap,
      setting.readValue_text? hvalue _ 0 rest]
    rfl

/-- The line of a header, without its end. -/
theorem readStatement_header (hname : IsBare key) :
    readStatement (headerText key ++ rest) = some (.header [key], '\n' :: rest) := by
  obtain ⟨c, tail, hcons, hc⟩ := hname.eq_cons
  have hbracket : c ≠ '[' := ne_of_class hc (by decide)
  have hpath : readPath (key.toList ++ ']' :: '\n' :: rest) = some ([key], ']' :: '\n' :: rest) :=
    readPath_bare hname (by simp [isBareChar]) (by simp [skipGap, isGap])
  have hline : headerText key ++ rest = '[' :: (key.toList ++ ']' :: '\n' :: rest) := by
    simp [headerText]
  rw [hline, readStatement]
  · simp only [hpath, Option.bind_eq_bind, Option.bind_some]
    rfl
  · intro rest' heq
    rw [hcons] at heq
    exact hbracket (List.cons.inj heq).1

/-! ### Texts of several lines -/

/-- The statements that a text consists of, one a line. -/
def ReadsAs (text : List Char) (statements : List Statement) : Prop :=
  ∀ bound, text.length < bound → readStatements bound text = some statements

theorem readsAs_nil : ReadsAs [] [] := by
  intro bound hbound
  obtain ⟨bound, rfl⟩ := Nat.exists_eq_succ_of_ne_zero (Nat.ne_of_gt hbound)
  rfl

/-- A line that states something is not passed over. -/
theorem skipLines_of_startsStatement {c : Char} {tail : List Char} (bound : Nat)
    (hc : startsStatement c = true) : skipLines bound (c :: tail) = c :: tail := by
  have hgap : isGap c = false := isGap_of_class hc (by decide) (by decide)
  have hcomment : c ≠ '#' := ne_of_class hc (by decide)
  have hfeed : c ≠ '\n' := ne_of_class hc (by decide)
  have hreturn : c ≠ '\r' := ne_of_class hc (by decide)
  cases bound with
  | zero => rfl
  | succ bound =>
      simp [skipLines, skipGap_cons hgap, skipComment, afterLineEnd?, hcomment, hfeed, hreturn]

/-- A line that is read as a statement comes before the statements of the further lines. -/
theorem ReadsAs.line {c : Char} {tail : List Char} (hrest : ReadsAs rest statements)
    (hc : startsStatement c = true) (hlength : rest.length ≤ tail.length)
    (hread : readStatement (c :: tail) = some (statement, '\n' :: rest)) :
    ReadsAs (c :: tail) (statement :: statements) := by
  intro bound hbound
  rw [List.length_cons] at hbound
  obtain ⟨bound, rfl⟩ := Nat.exists_eq_succ_of_ne_zero (Nat.ne_zero_of_lt hbound)
  have hcomment : c ≠ '#' := ne_of_class hc (by decide)
  have hafter : afterLine? ('\n' :: rest) = some rest := rfl
  rw [readStatements, skipLines_of_startsStatement _ hc]
  split
  · next heq => cases heq
  · next heq => exact absurd (List.cons.inj heq).1 hcomment
  · simp only [hread, hafter, hrest bound (by omega), Option.bind_eq_bind, Option.bind_some,
      Option.pure_def]

/-- A blank line states nothing. -/
theorem ReadsAs.blank (hrest : ReadsAs rest statements) : ReadsAs ('\n' :: rest) statements := by
  intro bound hbound
  rw [List.length_cons] at hbound
  obtain ⟨bound, rfl⟩ := Nat.exists_eq_succ_of_ne_zero (Nat.ne_zero_of_lt hbound)
  have hskip : skipLines ('\n' :: rest).length ('\n' :: rest) = skipLines rest.length rest := rfl
  have hsame := hrest (bound + 1) (by omega)
  rw [readStatements] at hsame ⊢
  rw [hskip]
  exact hsame

/-- The lines of settings are read as their statements. -/
theorem ReadsAs.lines {settings : List (String × Setting)} {lines : List Char}
    (hrest : ReadsAs rest statements) (hkeys : ∀ entry ∈ settings, IsBare entry.1)
    (hlines : linesText? settings = some lines) :
    ReadsAs (lines ++ rest) (settings.map settingStatement ++ statements) := by
  induction settings generalizing lines with
  | nil =>
      obtain rfl := Option.some.inj hlines
      exact hrest
  | cons entry settings ih =>
      obtain ⟨key, setting⟩ := entry
      have hkey : IsBare key := hkeys (key, setting) List.mem_cons_self
      obtain ⟨value, more, hvalue, hmore, rfl⟩ := linesText?_cons hlines
      have hread := readStatement_line hkey hvalue (more ++ rest)
      obtain ⟨c, tail, hcons, hc⟩ := lineText_eq_cons hkey value
      have hmore := ih (fun entry hentry => hkeys entry (List.mem_cons_of_mem _ hentry)) hmore
      rw [List.append_assoc, List.cons_append, List.map_cons, List.cons_append]
      rw [hcons, List.cons_append] at hread ⊢
      refine hmore.line hc ?_ hread
      simp only [List.length_append, List.length_cons]
      omega

/-- A section is read as its header and the statements of its lines. -/
theorem ReadsAs.header (hrest : ReadsAs rest statements) (hname : IsBare key) :
    ReadsAs (headerText key ++ rest) (.header [key] :: statements) := by
  have hlength : rest.length ≤ (key.toList ++ [']', '\n'] ++ rest).length := by
    rw [List.length_append]
    exact Nat.le_add_left _ _
  exact hrest.line (by decide) hlength (readStatement_header hname)

theorem ReadsAs.statements? (h : ReadsAs text statements) (hmark : text.head? ≠ some '\uFEFF') :
    statements? text = some statements := by
  have hdrop : dropByteOrderMark text = text := by
    unfold dropByteOrderMark
    split
    · exact absurd rfl hmark
    · rfl
  rw [Toml.statements?, hdrop]
  exact h _ (Nat.lt_succ_self _)

end ListingAttributes.Toml
