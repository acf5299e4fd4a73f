import Mathlib.Data.List.Nodup
import ListingAttributes.MemorySpeed
import ListingAttributes.Proofs.Text.AsciiCase
import ListingAttributes.Proofs.Text.Runs

/-!
# Speed codes in titles

A code is a word in any case, the number of a memory generation, a hyphen that
one of the two kinds may leave out, and a run of decimal digits of any script
(`CodeKind.Starts`).  A title is read at the leftmost position where a code of
a kind starts (`CodeKind.LeftmostAt`), and there only the first digits of the
run are read.

* `moduleCode?_eq_some_iff`, `dataRateCode?_eq_some_iff`: the readers find
  exactly these codes;
* `leftmost?_eq_some_iff`: the search stops at the leftmost position;
* `starts_of_sameButAsciiCase`: the case of letters makes no difference;
* `ofTitle?_leftmost`: which speed a title states.
-/

namespace ListingAttributes.MemorySpeed

open Text

/-! ### Codes -/

/-- A kind of code: its word in capitals, whether the hyphen may be left out, how many digits
there are at least, and how many are read at most. -/
structure CodeKind where
  word : List Char
  bare : Bool
  least : Nat
  most : Nat

/-- The codes of modules, which state a bandwidth. -/
def bandwidth : CodeKind := ⟨['P', 'C'], true, 5, 6⟩

/-- The codes that state a data rate. -/
def dataRate : CodeKind := ⟨['D', 'D', 'R'], false, 4, 4⟩

/-- The numbers of the memory generations. -/
def generations : List Char := ['3', '4', '5']

namespace CodeKind

/-- The digits of a code, perhaps behind a hyphen: a run that is long enough, and goes on as far as
it can. -/
inductive Digits (kind : CodeKind) (run behind : List Char) : List Char → Prop where
  | intro {joint : List Char} (hjoint : joint = ['-'] ∨ kind.bare = true ∧ joint = [])
      (hdigits : ∀ c ∈ run, isDecimalDigit c = true) (hleast : kind.least ≤ run.length)
      (hbehind : ∀ c ∈ behind.head?, isDecimalDigit c = false) :
      Digits kind run behind (joint ++ (run ++ behind))

/-- A text starts with a code: the word in any case, the number of a generation, and digits. -/
inductive Starts (kind : CodeKind) (run behind : List Char) : List Char → Prop where
  | intro {word numbered : List Char} {generation : Char}
      (hword : sameButAsciiCase word kind.word = true) (hgeneration : generation ∈ generations)
      (hnumbered : kind.Digits run behind numbered) :
      Starts kind run behind (word ++ generation :: numbered)

/-- The digits of a run that are read. -/
def read (kind : CodeKind) (run : List Char) : List Char := run.take kind.most

/-- The leftmost code of a text, and the position where it starts. -/
structure LeftmostAt (kind : CodeKind) (text : List Char) (i : Nat) (run behind : List Char) :
    Prop where
  /-- A code starts at the position. -/
  starts : kind.Starts run behind (text.drop i)
  /-- No code starts before it. -/
  first : ∀ j < i, ∀ run behind, ¬ kind.Starts run behind (text.drop j)

end CodeKind

/-! ### Reading a code -/

theorem afterWord?_eq_some_iff {word text rest : List Char} :
    afterWord? word text = some rest ↔
      ∃ spelled, spelled.map Char.toUpper = word ∧ text = spelled ++ rest := by
  induction word generalizing text with
  | nil => simp [afterWord?, eq_comm]
  | cons letter word ih =>
      cases text with
      | nil =>
          simp only [afterWord?, reduceCtorEq, false_iff]
          rintro ⟨spelled, hspelled, hnil⟩
          simp [(List.append_eq_nil_iff.1 hnil.symm).1] at hspelled
      | cons c text =>
          simp only [afterWord?, List.map_eq_cons_iff]
          split
          · next hletter =>
            rw [ih]
            constructor
            · rintro ⟨spelled, hspelled, rfl⟩
              exact ⟨c :: spelled, ⟨c, spelled, rfl, hletter, hspelled⟩, rfl⟩
            · rintro ⟨_, ⟨d, spelled, rfl, _, hspelled⟩, htext⟩
              exact ⟨spelled, hspelled, (List.cons.inj htext).2⟩
          · next hletter =>
            simp only [reduceCtorEq, false_iff]
            rintro ⟨_, ⟨d, spelled, rfl, hd, _⟩, htext⟩
            exact hletter ((List.cons.inj htext).1 ▸ hd)

theorem afterGeneration?_eq_some_iff {text rest : List Char} :
    afterGeneration? text = some rest ↔ ∃ generation ∈ generations, text = generation :: rest := by
  cases text with
  | nil => simp [afterGeneration?]
  | cons c text => simp [afterGeneration?, generations, and_comm]

/-- A hyphen is taken off or there is none. -/
theorem dropHyphen_cases (text : List Char) :
    text = '-' :: dropHyphen text ∨ text = dropHyphen text := by
  unfold dropHyphen
  split
  · exact Or.inl rfl
  · exact Or.inr rfl

namespace CodeKind

variable {kind : CodeKind} {run behind text other : List Char}

/-- The word, the generation and the digits of a code are found one behind the other. -/
theorem starts_iff (kind : CodeKind) (hcapitals : kind.word.map Char.toUpper = kind.word) :
    kind.Starts run behind text ↔ ∃ named numbered, afterWord? kind.word text = some named ∧
      afterGeneration? named = some numbered ∧ kind.Digits run behind numbered := by
  have hspelled : ∀ word : List Char,
      sameButAsciiCase word kind.word = true ↔ word.map Char.toUpper = kind.word := by
    intro word
    rw [sameButAsciiCase_iff, ← map_toUpper_eq_iff, hcapitals]
  constructor
  · rintro ⟨hword, hgeneration, hnumbered⟩
    exact ⟨_, _, afterWord?_eq_some_iff.2 ⟨_, (hspelled _).1 hword, rfl⟩,
      afterGeneration?_eq_some_iff.2 ⟨_, hgeneration, rfl⟩, hnumbered⟩
  · rintro ⟨named, numbered, hnamed, hnumbered, hdigits⟩
    obtain ⟨word, hword, rfl⟩ := afterWord?_eq_some_iff.1 hnamed
    obtain ⟨generation, hgeneration, rfl⟩ := afterGeneration?_eq_some_iff.1 hnumbered
    exact ⟨(hspelled word).2 hword, hgeneration, hdigits⟩

/-- The run of a bandwidth stands behind a hyphen or at once. -/
theorem digits_bandwidth_iff : (∃ behind, bandwidth.Digits run behind text) ↔
    (dropHyphen text).takeWhile isDecimalDigit = run ∧ 5 ≤ run.length := by
  constructor
  · rintro ⟨behind, hjoint, hdigits, hleast, hbehind⟩
    refine ⟨?_, hleast⟩
    rcases hjoint with rfl | ⟨_, rfl⟩
    · exact takeWhile_append_of_stop hdigits hbehind
    · -- a digit is no hyphen
      have hsame : dropHyphen (run ++ behind) = run ++ behind := by
        rcases dropHyphen_cases (run ++ behind) with hhyphen | hsame
        · cases run with
          | nil => cases hleast
          | cons c run =>
              obtain rfl : c = '-' := (List.cons.inj hhyphen).1
              exact absurd (hdigits '-' List.mem_cons_self) (by decide)
        · exact hsame.symm
      rw [List.nil_append, hsame]
      exact takeWhile_append_of_stop hdigits hbehind
  · rintro ⟨hrun, hleast⟩
    obtain ⟨behind, hrest, hdigits, hbehind⟩ := takeWhile_eq_iff.1 hrun
    rcases dropHyphen_cases text with hhyphen | hsame
    · have hjoined : bandwidth.Digits run behind (['-'] ++ (run ++ behind)) :=
        .intro (Or.inl rfl) hdigits hleast hbehind
      rw [hhyphen, hrest]
      exact ⟨behind, hjoined⟩
    · have hbare : bandwidth.Digits run behind ([] ++ (run ++ behind)) :=
        .intro (Or.inr ⟨rfl, rfl⟩) hdigits hleast hbehind
      rw [hsame, hrest]
      exact ⟨behind, hbare⟩

/-- The run of a data rate stands behind a hyphen. -/
theorem digits_dataRate_iff : (∃ behind, dataRate.Digits run behind text) ↔
    ∃ rest, text = '-' :: rest ∧ rest.takeWhile isDecimalDigit = run ∧ 4 ≤ run.length := by
  constructor
  · rintro ⟨behind, hjoint, hdigits, hleast, hbehind⟩
    rcases hjoint with rfl | ⟨hbare, _⟩
    · exact ⟨run ++ behind, rfl, takeWhile_append_of_stop hdigits hbehind, hleast⟩
    · cases hbare
  · rintro ⟨rest, rfl, hrun, hleast⟩
    obtain ⟨behind, rfl, hdigits, hbehind⟩ := takeWhile_eq_iff.1 hrun
    have hjoined : dataRate.Digits run behind (['-'] ++ (run ++ behind)) :=
      .intro (Or.inl rfl) hdigits hleast hbehind
    exact ⟨behind, hjoined⟩

end CodeKind

/-- **The codes of modules** are what the reader of a bandwidth finds. -/
theorem moduleCode?_eq_some_iff {text digits : List Char} :
    moduleCode? text = some digits ↔
      ∃ run behind, bandwidth.Starts run behind text ∧ bandwidth.read run = digits := by
  unfold moduleCode?
  simp only [Option.bind_eq_bind, Option.bind_eq_some_iff,
    CodeKind.starts_iff bandwidth rfl]
  constructor
  · rintro ⟨named, hnamed, numbered, hnumbered, hread⟩
    split at hread
    · next hleast =>
      obtain ⟨behind, hdigits⟩ := CodeKind.digits_bandwidth_iff.2 ⟨rfl, hleast⟩
      exact ⟨_, behind, ⟨named, numbered, hnamed, hnumbered, hdigits⟩, Option.some.inj hread⟩
    · cases hread
  · rintro ⟨run, behind, ⟨named, numbered, hnamed, hnumbered, hdigits⟩, rfl⟩
    obtain ⟨rfl, hleast⟩ := CodeKind.digits_bandwidth_iff.1 ⟨behind, hdigits⟩
    exact ⟨named, hnamed, numbered, hnumbered, if_pos hleast⟩

/-- **The codes of data rates** are what the reader of a data rate finds. -/
theorem dataRateCode?_eq_some_iff {text digits : List Char} :
    dataRateCode? text = some digits ↔
      ∃ run behind, dataRate.Starts run behind text ∧ dataRate.read run = digits := by
  unfold dataRateCode?
  simp only [Option.bind_eq_bind, Option.bind_eq_some_iff,
    CodeKind.starts_iff dataRate rfl]
  constructor
  · rintro ⟨named, hnamed, numbered, hnumbered, hread⟩
    split at hread
    · next rest =>
      split at hread
      · next hleast =>
        obtain ⟨behind, hdigits⟩ := CodeKind.digits_dataRate_iff.2 ⟨rest, rfl, rfl, hleast⟩
        exact ⟨_, behind, ⟨named, _, hnamed, hnumbered, hdigits⟩, Option.some.inj hread⟩
      · cases hread
    · cases hread
  · rintro ⟨run, behind, ⟨named, numbered, hnamed, hnumbered, hdigits⟩, rfl⟩
    obtain ⟨rest, rfl, rfl, hleast⟩ := CodeKind.digits_dataRate_iff.1 ⟨behind, hdigits⟩
    exact ⟨named, hnamed, _, hnumbered, if_pos hleast⟩

/-! ### The leftmost code -/

/-- The first position where something is found is the start, or lies behind a start where nothing
is. -/
theorem exists_first_iff {P Q : Nat → Prop} :
    (∃ i, P i ∧ ∀ j < i, Q j) ↔ P 0 ∨ Q 0 ∧ ∃ i, P (i + 1) ∧ ∀ j < i, Q (j + 1) := by
  rw [← Nat.or_exists_add_one]
  simp only [Nat.forall_lt_succ_left, Nat.not_lt_zero, false_implies, implies_true, and_true,
    and_left_comm, exists_and_left]

/-- **The search stops at the leftmost position** where something is found. -/
theorem leftmost?_eq_some_iff {α : Type} {read? : List Char → Option α} {text : List Char}
    {found : α} :
    leftmost? read? text = some found ↔
      ∃ i, read? (text.drop i) = some found ∧ ∀ j < i, read? (text.drop j) = none := by
  induction text with
  | nil =>
      simp only [leftmost?, List.drop_nil]
      constructor
      · intro hfound
        exact ⟨0, hfound, fun j hj => absurd hj (Nat.not_lt_zero j)⟩
      · rintro ⟨_, hfound, _⟩
        exact hfound
  | cons c text ih =>
      rw [exists_first_iff, leftmost?, List.drop_zero]
      simp only [List.drop_succ_cons, ← ih]
      cases read? (c :: text) with
      | none => simp
      | some first => simp

/-- A reader that finds the codes of a kind is taken to the leftmost of them. -/
theorem leftmost?_codes_iff {kind : CodeKind} {read? : List Char → Option (List Char)}
    {text digits : List Char} (hread : ∀ {text digits : List Char}, read? text = some digits ↔
      ∃ run behind, kind.Starts run behind text ∧ kind.read run = digits) :
    leftmost? read? text = some digits ↔
      ∃ i run behind, kind.LeftmostAt text i run behind ∧ kind.read run = digits := by
  have hnone : ∀ text, read? text = none ↔ ∀ run behind, ¬ kind.Starts run behind text := by
    intro text
    rw [Option.eq_none_iff_forall_ne_some]
    constructor
    · intro h run behind hstarts
      exact h _ (hread.2 ⟨run, behind, hstarts, rfl⟩)
    · intro h digits hdigits
      obtain ⟨run, behind, hstarts, _⟩ := hread.1 hdigits
      exact h run behind hstarts
  rw [leftmost?_eq_some_iff]
  constructor
  · rintro ⟨i, hfound, hbefore⟩
    obtain ⟨run, behind, hstarts, hdigits⟩ := hread.1 hfound
    exact ⟨i, run, behind, ⟨hstarts, fun j hj => (hnone _).1 (hbefore j hj)⟩, hdigits⟩
  · rintro ⟨i, run, behind, hleftmost, hdigits⟩
    exact ⟨i, hread.2 ⟨run, behind, hleftmost.starts, hdigits⟩,
      fun j hj => (hnone _).2 (hleftmost.first j hj)⟩

/-! ### The speed of a title -/

theorem numberOf?_eq_some_iff {digits : List Char} {n : Nat} :
    numberOf? digits = some n ↔
      (∀ c ∈ digits, isAsciiDigit c = true) ∧ decimalValue digits = n := by
  simp [numberOf?]

/-- A rating is found by its bandwidth, since no two ratings share one. -/
theorem find?_rating_iff {number rate : Nat} :
    (∃ rating, ratings.find? (fun rating => rating.1 == number) = some rating ∧
      rating.2 = rate) ↔ (number, rate) ∈ ratings := by
  constructor
  · rintro ⟨rating, hfind, rfl⟩
    obtain rfl : rating.1 = number := by simpa using List.find?_some hfind
    exact List.mem_of_find?_eq_some hfind
  · intro hmem
    cases hfind : ratings.find? (fun rating => rating.1 == number) with
    | none =>
        have hother := List.find?_eq_none.1 hfind (number, rate) hmem
        simp at hother
    | some rating =>
        have hsame : rating.1 = number := by simpa using List.find?_some hfind
        have hnodup : (ratings.map Prod.fst).Nodup := by decide
        have hrating := List.inj_on_of_nodup_map hnodup (List.mem_of_find?_eq_some hfind) hmem hsame
        exact ⟨rating, rfl, congrArg Prod.snd hrating⟩

variable {title : List Char} {rate : Nat}

/-- **The speed of the leftmost module code** is that of its bandwidth. -/
theorem ofModuleCode?_eq_some_iff :
    ofModuleCode? title = some rate ↔
      ∃ i run behind, bandwidth.LeftmostAt title i run behind ∧
        (∀ c ∈ bandwidth.read run, isAsciiDigit c = true) ∧
          (decimalValue (bandwidth.read run), rate) ∈ ratings := by
  simp only [ofModuleCode?, Option.bind_eq_bind, Option.bind_eq_some_iff, Option.pure_def,
    Option.some.injEq, numberOf?_eq_some_iff, leftmost?_codes_iff moduleCode?_eq_some_iff]
  constructor
  · rintro ⟨_, ⟨i, run, behind, hleftmost, rfl⟩, _, ⟨hascii, rfl⟩, hrating⟩
    exact ⟨i, run, behind, hleftmost, hascii, find?_rating_iff.1 hrating⟩
  · rintro ⟨i, run, behind, hleftmost, hascii, hrating⟩
    exact ⟨_, ⟨i, run, behind, hleftmost, rfl⟩, _, ⟨hascii, rfl⟩, find?_rating_iff.2 hrating⟩

/-- **The speed of the leftmost data rate** is its number, if that is plausible. -/
theorem ofDataRateCode?_eq_some_iff :
    ofDataRateCode? title = some rate ↔
      ∃ i run behind, dataRate.LeftmostAt title i run behind ∧
        (∀ c ∈ dataRate.read run, isAsciiDigit c = true) ∧
          decimalValue (dataRate.read run) = rate ∧ slowest ≤ rate ∧ rate ≤ fastest := by
  simp only [ofDataRateCode?, Option.bind_eq_bind, Option.bind_eq_some_iff,
    numberOf?_eq_some_iff, leftmost?_codes_iff dataRateCode?_eq_some_iff]
  constructor
  · rintro ⟨_, ⟨i, run, behind, hleftmost, rfl⟩, _, ⟨hascii, rfl⟩, hrate⟩
    split at hrate
    · next hwithin =>
      obtain rfl := Option.some.inj hrate
      exact ⟨i, run, behind, hleftmost, hascii, rfl, hwithin⟩
    · cases hrate
  · rintro ⟨i, run, behind, hleftmost, hascii, rfl, hwithin⟩
    exact ⟨_, ⟨i, run, behind, hleftmost, rfl⟩, _, ⟨hascii, rfl⟩, if_pos hwithin⟩

theorem ofTitle?_eq_some_iff :
    ofTitle? title = some rate ↔
      ofModuleCode? title = some rate ∨
        ofModuleCode? title = none ∧ ofDataRateCode? title = some rate := by
  unfold ofTitle?
  cases ofModuleCode? title <;> simp

/-! ### Case -/

/-- What follows digits in one case of a text follows them in the other. -/
theorem head?_of_map_toLower {behind after : List Char}
    (h : after.map Char.toLower = behind.map Char.toLower)
    (hbehind : ∀ c ∈ behind.head?, isDecimalDigit c = false) :
    ∀ c ∈ after.head?, isDecimalDigit c = false := by
  intro c hc
  obtain ⟨rest, rfl⟩ := List.head?_eq_some_iff.1 hc
  obtain ⟨d, rest, rfl, hd, _⟩ := List.map_eq_cons_iff.1 h.symm
  rw [← Bool.not_eq_true]
  intro hdigit
  obtain rfl := eq_of_toLower_eq (isAlpha_of_isDecimalDigit hdigit) hd
  rw [hbehind d rfl] at hdigit
  cases hdigit

/-- **A code is one in any case**, with the same digits. -/
theorem starts_of_sameButAsciiCase {kind : CodeKind} {run behind text other : List Char}
    (hcase : sameButAsciiCase other text = true) (h : kind.Starts run behind text) :
    ∃ after, kind.Starts run after other := by
  rw [sameButAsciiCase_iff] at hcase
  obtain @⟨word, _, generation, hword, hgeneration, @⟨joint, hjoint, hdigits, hleast, hbehind⟩⟩ := h
  -- the other text has the same parts, and letters only in its word and behind the digits
  simp only [List.map_append, List.map_cons] at hcase
  obtain ⟨word', _, rfl, hword', hcase⟩ := List.map_eq_append_iff.1 hcase
  obtain ⟨generation', _, rfl, hgeneration', hcase⟩ := List.map_eq_cons_iff.1 hcase
  obtain ⟨joint', _, rfl, hjoint', hcase⟩ := List.map_eq_append_iff.1 hcase
  obtain ⟨run', after, rfl, hrun', hafter⟩ := List.map_eq_append_iff.1 hcase
  have hplain : ∀ c ∈ generations, c.isAlpha = false := by simp [generations]
  have hhyphen : ∀ c ∈ joint, c.isAlpha = false := by
    rcases hjoint with rfl | ⟨_, rfl⟩
    · simp
    · simp
  obtain rfl := eq_of_toLower_eq (hplain generation hgeneration) hgeneration'
  obtain rfl := eq_of_map_toLower hhyphen hjoint'
  obtain rfl := eq_of_map_toLower (fun c hc => isAlpha_of_isDecimalDigit (hdigits c hc)) hrun'
  refine ⟨after, .intro ?_ hgeneration (.intro hjoint hdigits hleast ?_)⟩
  · rwa [sameButAsciiCase_iff, hword', ← sameButAsciiCase_iff]
  · exact head?_of_map_toLower hafter hbehind

/-- A reader that finds the codes of a kind finds the same digits in any case of a text. -/
theorem codes_congr {kind : CodeKind} {read? : List Char → Option (List Char)}
    (hread : ∀ {text digits : List Char}, read? text = some digits ↔
      ∃ run behind, kind.Starts run behind text ∧ kind.read run = digits)
    {text other : List Char} (hcase : sameButAsciiCase text other = true) :
    leftmost? read? text = leftmost? read? other := by
  have hfinds : ∀ {text other : List Char}, sameButAsciiCase other text = true →
      ∀ digits, read? text = some digits → read? other = some digits := by
    intro text other hcase digits hdigits
    obtain ⟨run, behind, hstarts, hread'⟩ := hread.1 hdigits
    obtain ⟨after, hother⟩ := starts_of_sameButAsciiCase hcase hstarts
    exact hread.2 ⟨run, after, hother, hread'⟩
  have hposition : ∀ i, sameButAsciiCase (text.drop i) (other.drop i) = true := by
    intro i
    rw [sameButAsciiCase_iff, List.map_drop, List.map_drop, sameButAsciiCase_iff.1 hcase]
  have hsame : ∀ i, read? (text.drop i) = read? (other.drop i) := by
    intro i
    have hback : sameButAsciiCase (other.drop i) (text.drop i) = true :=
      sameButAsciiCase_iff.2 (sameButAsciiCase_iff.1 (hposition i)).symm
    exact Option.ext fun digits => ⟨hfinds hback digits, hfinds (hposition i) digits⟩
  apply Option.ext
  intro digits
  simp only [leftmost?_eq_some_iff, hsame]

/-- **The leftmost codes decide.**  A module code states a speed exactly if at the leftmost
position where such a code starts the first six digits of its run, or the five that there are, are
ASCII and a known bandwidth.  A title without such a speed states one exactly if at the leftmost
position of a data rate the four digits are ASCII and plausible.  The case of ASCII letters makes
no difference to either. -/
theorem ofTitle?_leftmost (title : List Char) :
    (∀ rate, ofModuleCode? title = some rate ↔
        ∃ i run behind, bandwidth.LeftmostAt title i run behind ∧
          (∀ c ∈ bandwidth.read run, isAsciiDigit c = true) ∧
            (decimalValue (bandwidth.read run), rate) ∈ ratings) ∧
      (∀ rate, ofTitle? title = some rate ↔
        ofModuleCode? title = some rate ∨
          ofModuleCode? title = none ∧
            ∃ i run behind, dataRate.LeftmostAt title i run behind ∧
              (∀ c ∈ dataRate.read run, isAsciiDigit c = true) ∧
                decimalValue (dataRate.read run) = rate ∧ 800 ≤ rate ∧ rate ≤ 8400) ∧
      ∀ other, sameButAsciiCase title other = true →
        ofModuleCode? title = ofModuleCode? other ∧ ofTitle? title = ofTitle? other := by
  refine ⟨fun rate => ofModuleCode?_eq_some_iff, fun rate => ?_, fun other hcase => ?_⟩
  · rw [ofTitle?_eq_some_iff, ofDataRateCode?_eq_some_iff]
    rfl
  · have hmodule : ofModuleCode? title = ofModuleCode? other := by
      rw [ofModuleCode?, ofModuleCode?, codes_congr moduleCode?_eq_some_iff hcase]
    have hrate : ofDataRateCode? title = ofDataRateCode? other := by
      rw [ofDataRateCode?, ofDataRateCode?, codes_congr dataRateCode?_eq_some_iff hcase]
    refine ⟨hmodule, ?_⟩
    rw [ofTitle?, ofTitle?, hmodule, hrate]

/-- A bandwidth without a rating hides the one behind it, but not the data rate. -/
theorem ofTitle?_leftmost_unrated :
    sameButAsciiCase "pc4-99999 PC4-21300 ddr4-3200".toList
        "PC4-99999 pc4-21300 DDR4-3200".toList = true ∧
      ofModuleCode? "pc4-99999 PC4-21300 ddr4-3200".toList = none ∧
      ofTitle? "pc4-99999 PC4-21300 ddr4-3200".toList = some 3200 ∧
      ofTitle? "PC4-99999 pc4-21300 DDR4-3200".toList = some 3200 := by
  have hcase : sameButAsciiCase "pc4-99999 PC4-21300 ddr4-3200".toList
      "PC4-99999 pc4-21300 DDR4-3200".toList = true := by decide +kernel
  have hspeed : ofTitle? "pc4-99999 PC4-21300 ddr4-3200".toList = some 3200 := by decide +kernel
  obtain ⟨-, -, hother⟩ := ofTitle?_leftmost "pc4-99999 PC4-21300 ddr4-3200".toList
  obtain ⟨-, hsame⟩ := hother _ hcase
  exact ⟨hcase, by decide +kernel, hspeed, hsame.symm.trans hspeed⟩

end ListingAttributes.MemorySpeed
