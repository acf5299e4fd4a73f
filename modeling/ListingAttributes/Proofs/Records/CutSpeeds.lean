import ListingAttributes.Proofs.Numeric.Digits
import ListingAttributes.Proofs.Records.SpeedCodes

/-!
# Speeds that are cut

Of the run of digits in a code only the first ones are read, and nothing is
asked of those that follow.  So a run may be cut: the speed is then that of its
first digits and not that of the number which the run denotes
(`readsAll_iff_states`).  A bandwidth is cut only if it starts with a zero,
because a known one has five digits (`head?_of_cut_bandwidth`); a data rate is
cut whenever a fifth digit follows.
-/

namespace ListingAttributes.MemorySpeed

open Text Numeric

/-! ### Where a speed is read -/

/-- What a number in a code of a kind states: a known bandwidth the rate it is paired with, and a
plausible data rate itself. -/
inductive States : CodeKind → Nat → Nat → Prop where
  | bandwidth {number rate : Nat} (hrating : (number, rate) ∈ ratings) :
      States bandwidth number rate
  | dataRate {rate : Nat} (hwithin : slowest ≤ rate ∧ rate ≤ fastest) :
      States dataRate rate rate

/-- A code in a title that gives a speed: the leftmost of its kind, and its digits state the
speed. -/
structure CodeKind.Gives (kind : CodeKind) (title : List Char) (rate : Nat)
    (run behind : List Char) : Prop where
  /-- It is the leftmost code of the kind. -/
  leftmost : ∃ i, kind.LeftmostAt title i run behind
  /-- The digits that are read have values. -/
  ascii : ∀ c ∈ kind.read run, isAsciiDigit c = true
  /-- The number that they denote states the speed. -/
  states : States kind (decimalValue (kind.read run)) rate

/-- The code that the speed of a title comes from. -/
inductive Source (title : List Char) (rate : Nat) : CodeKind → List Char → List Char → Prop where
  /-- A module code that gives a speed. -/
  | bandwidth {run behind : List Char} (hgives : bandwidth.Gives title rate run behind) :
      Source title rate bandwidth run behind
  /-- A data rate, if no module code gives a speed. -/
  | dataRate {run behind : List Char} (hmodule : ofModuleCode? title = none)
      (hgives : dataRate.Gives title rate run behind) : Source title rate dataRate run behind

variable {title : List Char} {rate : Nat} {kind : CodeKind} {run behind text : List Char}

theorem states_bandwidth_iff {number : Nat} :
    States bandwidth number rate ↔ (number, rate) ∈ ratings := by
  constructor
  · intro h
    generalize hkind : bandwidth = kind at h
    cases h with
    | bandwidth hrating => exact hrating
    | dataRate _ => cases hkind
  · exact .bandwidth

theorem states_dataRate_iff {number : Nat} :
    States dataRate number rate ↔ number = rate ∧ slowest ≤ rate ∧ rate ≤ fastest := by
  constructor
  · intro h
    generalize hkind : dataRate = kind at h
    cases h with
    | bandwidth _ => cases hkind
    | dataRate hwithin => exact ⟨rfl, hwithin⟩
  · rintro ⟨rfl, hwithin⟩
    exact .dataRate hwithin

/-- **Every speed has its code.** -/
theorem exists_source_iff :
    (∃ kind run behind, Source title rate kind run behind) ↔ ofTitle? title = some rate := by
  rw [ofTitle?_eq_some_iff, ofModuleCode?_eq_some_iff, ofDataRateCode?_eq_some_iff]
  constructor
  · rintro ⟨_, run, behind, ⟨⟨i, hleftmost⟩, hascii, hstates⟩ |
      ⟨hmodule, ⟨i, hleftmost⟩, hascii, hstates⟩⟩
    · exact Or.inl ⟨i, run, behind, hleftmost, hascii, states_bandwidth_iff.1 hstates⟩
    · exact Or.inr ⟨hmodule, i, run, behind, hleftmost, hascii, states_dataRate_iff.1 hstates⟩
  · rintro (⟨i, run, behind, hleftmost, hascii, hrating⟩ |
      ⟨hmodule, i, run, behind, hleftmost, hascii, hstates⟩)
    · exact ⟨_, run, behind, .bandwidth ⟨⟨i, hleftmost⟩, hascii, .bandwidth hrating⟩⟩
    · exact ⟨_, run, behind,
        .dataRate hmodule ⟨⟨i, hleftmost⟩, hascii, states_dataRate_iff.2 hstates⟩⟩

/-! ### Digits that are not read -/

theorem CodeKind.LeftmostAt.exists_digits {i : Nat} (h : kind.LeftmostAt title i run behind) :
    ∃ numbered, kind.Digits run behind numbered := by
  have hstarts := h.starts
  generalize title.drop i = text at hstarts
  obtain ⟨_, _, hnumbered⟩ := hstarts
  exact ⟨_, hnumbered⟩

/-- No digit follows those that are read of a run. -/
def CodeKind.ReadsAll (kind : CodeKind) (run behind : List Char) : Prop :=
  ∀ c ∈ (run.drop kind.most ++ behind).head?, isDecimalDigit c = false

theorem readsAll_iff (h : kind.Digits run behind text) :
    kind.ReadsAll run behind ↔ run.length ≤ kind.most := by
  obtain ⟨_, hdigits, _, hbehind⟩ := h
  unfold CodeKind.ReadsAll
  constructor
  · intro hall
    apply Nat.le_of_not_lt
    intro hlonger
    obtain ⟨c, rest, hrest⟩ :=
      List.exists_cons_of_ne_nil (mt List.drop_eq_nil_iff.1 (Nat.not_le.2 hlonger))
    have hmem : c ∈ run := by
      apply List.mem_of_mem_drop (i := kind.most)
      simp [hrest]
    have hnone := hall c (by simp [hrest])
    rw [hdigits c hmem] at hnone
    cases hnone
  · intro hshort
    rwa [List.drop_eq_nil_of_le hshort, List.nil_append]

/-- Digits that follow make a number at least ten times as large. -/
theorem ten_mul_decimalValue_le (digits : List Char) {more : List Char} (hmore : more ≠ []) :
    10 * decimalValue digits ≤ decimalValue (digits ++ more) := by
  rw [decimalValue_append]
  obtain ⟨n, hn⟩ := Nat.exists_eq_succ_of_ne_zero (mt List.length_eq_zero_iff.1 hmore)
  have hten : 10 ≤ powTen more.length := by
    rw [hn]
    exact Nat.le_mul_of_pos_left 10 (Nat.pow_pos (by decide))
  calc 10 * decimalValue digits = decimalValue digits * 10 := Nat.mul_comm _ _
    _ ≤ decimalValue digits * powTen more.length := Nat.mul_le_mul_left _ hten
    _ ≤ _ := Nat.le_add_right _ _

/-- A number ten times as large states something else, or nothing. -/
theorem not_states_of_ten_mul_le {number larger : Nat} (h : States kind number rate)
    (hlarger : 10 * number ≤ larger) : ¬ States kind larger rate := by
  have hrange : ∀ rating ∈ ratings, 8500 ≤ rating.1 ∧ rating.1 ≤ 44800 := by decide
  cases h with
  | bandwidth hrating =>
      rw [states_bandwidth_iff]
      intro hother
      have hlow := (hrange _ hrating).1
      have hhigh := (hrange _ hother).2
      omega
  | dataRate hwithin =>
      rw [states_dataRate_iff]
      rintro ⟨rfl, hlow, _⟩
      have hslowest : slowest = 800 := rfl
      omega

/-- **A speed is that of the whole run** exactly if the run is read to its end. -/
theorem readsAll_iff_states (hgives : kind.Gives title rate run behind) :
    kind.ReadsAll run behind ↔ States kind (decimalValue run) rate := by
  obtain ⟨⟨i, hleftmost⟩, _, hstates⟩ := hgives
  obtain ⟨_, hdigits⟩ := hleftmost.exists_digits
  rw [readsAll_iff hdigits]
  constructor
  · intro hshort
    rwa [CodeKind.read, List.take_of_length_le hshort] at hstates
  · intro hwhole
    apply Nat.le_of_not_lt
    intro hlonger
    have hmore : run.drop kind.most ≠ [] := mt List.drop_eq_nil_iff.1 (Nat.not_le.2 hlonger)
    have hlarger := ten_mul_decimalValue_le (kind.read run) hmore
    rw [CodeKind.read, List.take_append_drop] at hlarger
    exact not_states_of_ten_mul_le hstates hlarger hwhole

/-- The only digit without a value is the zero. -/
theorem eq_zero_of_digitValue {c : Char} (hdigit : isAsciiDigit c = true)
    (hzero : digitValue c = 0) : c = '0' := by
  simp only [isAsciiDigit, Bool.and_eq_true, decide_eq_true_eq] at hdigit
  have hlow : 48 ≤ c.toNat := hdigit.1
  have hcode : c.toNat = 48 := by
    unfold digitValue at hzero
    omega
  rw [← Char.ofNat_toNat c, hcode]

/-- **A bandwidth that is cut starts with a zero.**  Six digits without one denote more than any
known bandwidth. -/
theorem head?_of_cut_bandwidth (hgives : bandwidth.Gives title rate run behind)
    (hcut : ¬ bandwidth.ReadsAll run behind) : run.head? = some '0' := by
  obtain ⟨⟨i, hleftmost⟩, hascii, hstates⟩ := hgives
  obtain ⟨_, hdigits⟩ := hleftmost.exists_digits
  rw [readsAll_iff hdigits, Nat.not_le] at hcut
  have hhigh : ∀ rating ∈ ratings, rating.1 ≤ 44800 := by decide
  have hsmall := hhigh _ (states_bandwidth_iff.1 hstates)
  cases run with
  | nil => cases hcut
  | cons c run =>
      have hread : bandwidth.read (c :: run) = [c] ++ run.take 5 := rfl
      have hlength : (run.take 5).length = 5 := by
        rw [List.length_take, Nat.min_eq_left]
        exact Nat.le_of_lt_succ (Nat.lt_of_succ_lt_succ (Nat.lt_succ_of_lt hcut))
      rw [hread] at hascii
      have hfirst : decimalValue [c] = digitValue c := Nat.zero_add _
      have hten : powTen 5 = 100000 := rfl
      rw [hread, decimalValue_append, hlength, hfirst, hten] at hsmall
      rw [eq_zero_of_digitValue (hascii c (by simp)) (by omega), List.head?_cons]

/-- A title that is nothing but a code, with its hyphen. -/
theorem CodeKind.leftmostAt_code {word : List Char} {generation : Char}
    (hword : sameButAsciiCase word kind.word = true) (hgeneration : generation ∈ generations)
    (hdigits : run.all isDecimalDigit = true) (hleast : kind.least ≤ run.length) :
    kind.LeftmostAt (word ++ generation :: '-' :: run) 0 run [] := by
  have hnumbered : kind.Digits run [] (['-'] ++ (run ++ [])) :=
    .intro (Or.inl rfl) (List.all_eq_true.1 hdigits) hleast (by simp)
  rw [List.append_nil] at hnumbered
  exact ⟨.intro hword hgeneration hnumbered, fun j hj => absurd hj (Nat.not_lt_zero j)⟩

/-- **What is read of a run.**  The speed of a title comes from a code, and of its run of digits
either all are read or the first ones only.  The speed is that of the number that the run denotes
exactly in the first case, that is for runs of at most six digits in a module code and of four
digits in a data rate.  In the second case a module code has a run that starts with a zero. -/
theorem speed_of_run (title : List Char) (rate : Nat) :
    (ofTitle? title = some rate ↔ ∃ kind run behind, Source title rate kind run behind) ∧
      ∀ kind run behind, Source title rate kind run behind →
        (kind.ReadsAll run behind ↔ run.length ≤ kind.most) ∧
          (kind.ReadsAll run behind ↔ States kind (decimalValue run) rate) ∧
            (kind = bandwidth → ¬ kind.ReadsAll run behind → run.head? = some '0') := by
  refine ⟨exists_source_iff.symm, ?_⟩
  intro kind run behind hsource
  have hgives : kind.Gives title rate run behind := by
    cases hsource with
    | bandwidth hgives => exact hgives
    | dataRate _ hgives => exact hgives
  obtain ⟨i, hleftmost⟩ := hgives.leftmost
  obtain ⟨_, hdigits⟩ := hleftmost.exists_digits
  refine ⟨readsAll_iff hdigits, readsAll_iff_states hgives, ?_⟩
  rintro rfl hcut
  exact head?_of_cut_bandwidth hgives hcut

/-- The first six digits of seven are a bandwidth with a zero in front. -/
theorem speed_of_run_zero :
    Source "PC4-0213007".toList 2666 bandwidth "0213007".toList [] ∧
      ¬ bandwidth.ReadsAll "0213007".toList [] ∧ "0213007".toList.head? = some '0' := by
  have htitle : "PC4-0213007".toList = ['P', 'C'] ++ '4' :: '-' :: "0213007".toList := by
    decide +kernel
  have hleftmost : bandwidth.LeftmostAt "PC4-0213007".toList 0 "0213007".toList [] := by
    rw [htitle]
    exact CodeKind.leftmostAt_code rfl (by decide) (by decide +kernel) (by decide +kernel)
  have hsource : Source "PC4-0213007".toList 2666 bandwidth "0213007".toList [] :=
    .bandwidth ⟨⟨0, hleftmost⟩, List.all_eq_true.1 (by decide +kernel),
      .bandwidth (by decide +kernel)⟩
  obtain ⟨-, hall⟩ := speed_of_run "PC4-0213007".toList 2666
  obtain ⟨hlength, -, hzero⟩ := hall _ _ _ hsource
  have hcut : ¬ bandwidth.ReadsAll "0213007".toList [] := by
    rw [hlength]
    decide +kernel
  exact ⟨hsource, hcut, hzero rfl hcut⟩

/-- A bandwidth behind the word of a data rate is cut to a speed that is within the bounds. -/
theorem bandwidth_cut_to_data_rate :
    ofTitle? "DDR4-21300".toList = some 2130 ∧
      Source "DDR4-21300".toList 2130 dataRate "21300".toList [] ∧
        ¬ dataRate.ReadsAll "21300".toList [] := by
  have htitle : "DDR4-21300".toList = ['D', 'D', 'R'] ++ '4' :: '-' :: "21300".toList := by
    decide +kernel
  have hleftmost : dataRate.LeftmostAt "DDR4-21300".toList 0 "21300".toList [] := by
    rw [htitle]
    exact CodeKind.leftmostAt_code rfl (by decide) (by decide +kernel) (by decide +kernel)
  have hsource : Source "DDR4-21300".toList 2130 dataRate "21300".toList [] :=
    .dataRate (by decide +kernel) ⟨⟨0, hleftmost⟩,
      List.all_eq_true.1 (by decide +kernel), .dataRate ⟨by decide, by decide⟩⟩
  refine ⟨exists_source_iff.1 ⟨_, _, _, hsource⟩, hsource, ?_⟩
  intro hall
  have hfifth := hall '0' (by decide +kernel)
  cases hfifth

end ListingAttributes.MemorySpeed
