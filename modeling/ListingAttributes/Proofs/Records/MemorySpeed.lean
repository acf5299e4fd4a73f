import ListingAttributes.MemorySpeed
import ListingAttributes.Proofs.Numeric.Integers
import ListingAttributes.Proofs.Records.Validation

/-!
# Recovered memory speeds

The speed that a title states lies between `slowest` and `fastest`
(`ofTitle?_range`), which are the bounds that the schema of memory modules
sets.  Filling it in therefore keeps a record valid although no check is made
afterwards (`passed_recover`), and what was filled in is a stated speed, so
that a second attempt has nothing to do (`recovered?_recover`).
-/

namespace ListingAttributes.MemorySpeed

open Numeric Validation

/-! ### Speeds of titles -/

theorem ratings_range : ∀ rating ∈ ratings, slowest ≤ rating.2 ∧ rating.2 ≤ fastest := by
  decide

/-- **A title states a plausible speed or none.** -/
theorem ofTitle?_range {title : List Char} {rate : Nat} (h : ofTitle? title = some rate) :
    slowest ≤ rate ∧ rate ≤ fastest := by
  unfold ofTitle? at h
  cases hmodule : ofModuleCode? title with
  | some found =>
      -- a module code states one of the known ratings
      rw [hmodule, Option.orElse_some, Option.some.injEq] at h
      subst h
      simp only [ofModuleCode?, Option.bind_eq_bind, Option.bind_eq_some_iff, Option.pure_def,
        Option.some.injEq] at hmodule
      obtain ⟨_, _, _, _, rating, hrating, rfl⟩ := hmodule
      exact ratings_range rating (List.mem_of_find?_eq_some hrating)
  | none =>
      -- a data rate is stated as it is, and compared with the bounds
      rw [hmodule, Option.orElse_none] at h
      simp only [ofDataRateCode?, Option.bind_eq_bind, Option.bind_eq_some_iff] at h
      obtain ⟨_, _, found, _, h⟩ := h
      split at h
      · next hrange =>
        obtain rfl := Option.some.inj h
        exact hrange
      · cases h

theorem value_integerOfRate {rate : Nat} (h : rate ≤ fastest) :
    (integerOfRate rate).value = rate := by
  have hrange : -9223372036854775808 ≤ (rate : Int) ∧ (rate : Int) < 18446744073709551616 := by
    simp only [fastest] at h
    omega
  unfold integerOfRate Json.Integer.ofInt?
  rw [dif_pos hrange, Option.getD_some]

/-- A plausible speed is exact as a double. -/
theorem signedUnits_rate {rate : Nat} (h : rate ≤ fastest) :
    (Json.Number.integer (integerOfRate rate)).toDouble.signedUnits =
      rate * powTwo binary64.fractionBits := by
  have hvalue := value_integerOfRate h
  have hbits : rate < powTwo binary64.precision := Nat.lt_of_le_of_lt h (by decide)
  rw [signedUnits_toDouble (by rw [hvalue]; exact hbits), hvalue]

/-! ### Filling in a speed -/

variable {title : List Char} {record : Record}

theorem recover_of_recovered?_eq_none (h : recovered? title record = none) :
    recover title record = record := by
  rw [recover, h, Option.getD_none]

/-- The record itself, or the record with the speed of the title. -/
theorem recover_cases (title : List Char) (record : Record) :
    recovered? title record = none ∧ recover title record = record ∨
      isStated record = false ∧ ∃ rate, ofTitle? title = some rate ∧
        recover title record = record.insertInteger field (integerOfRate rate) := by
  unfold recover
  cases hrecovered : recovered? title record with
  | none => exact Or.inl ⟨rfl, rfl⟩
  | some after =>
      refine Or.inr ?_
      unfold recovered? at hrecovered
      split at hrecovered
      · cases hrecovered
      · next hstated =>
        obtain ⟨rate, hrate, rfl⟩ := Option.map_eq_some_iff.1 hrecovered
        exact ⟨Bool.eq_false_iff.2 hstated, rate, hrate, rfl⟩

theorem number?_insertInteger (record : Record) (i : Json.Integer) :
    (record.insertInteger field i).number? field = some (Json.Number.integer i).toDouble := by
  unfold Record.number?
  rw [Record.get?_insertInteger, if_pos rfl]

/-- Whatever filling in a speed keeps, recovering one keeps. -/
theorem recover_preserves {P : Record → Prop}
    (hinsert : ∀ i, P record → P (record.insertInteger field i)) (h : P record) :
    P (recover title record) := by
  rcases recover_cases title record with ⟨_, hsame⟩ | ⟨_, rate, _, hfilled⟩
  · rw [hsame]
    exact h
  · rw [hfilled]
    exact hinsert _ h

/-- A speed that was filled in is stated. -/
theorem isStated_insertInteger {rate : Nat} (hlow : slowest ≤ rate) (hhigh : rate ≤ fastest) :
    isStated (record.insertInteger field (integerOfRate rate)) = true := by
  unfold isStated
  rw [number?_insertInteger]
  have hunits := signedUnits_rate hhigh
  simp only [Binary.isZero, Bool.not_eq_true', beq_eq_false_iff_ne]
  intro hzero
  have hnat := Json.natAbs_signedUnits (Json.Number.integer (integerOfRate rate)).toDouble
  rw [hunits, Int.natAbs_mul, Int.natAbs_natCast, Int.natAbs_natCast] at hnat
  have hpos := Nat.mul_pos (Nat.lt_of_lt_of_le (by decide) hlow)
    (powTwo_pos binary64.fractionBits)
  omega

/-- **A second attempt fills in nothing.** -/
theorem recovered?_recover (title : List Char) (record : Record) :
    recovered? title (recover title record) = none := by
  rcases recover_cases title record with ⟨hnone, hsame⟩ | ⟨_, rate, hrate, hfilled⟩
  · rw [hsame, hnone]
  · obtain ⟨hlow, hhigh⟩ := ofTitle?_range hrate
    rw [hfilled, recovered?, if_pos (isStated_insertInteger hlow hhigh)]

theorem recover_recover (title : List Char) (record : Record) :
    recover title (recover title record) = recover title record :=
  recover_of_recovered?_eq_none (recovered?_recover title record)

/-! ### The filled record is valid -/

/-- The one check of memory modules that is about the speed. -/
theorem mem_checks_ram {entry : FieldRule × Bool} (hmem : entry ∈ Category.ram.checks)
    (hfield : entry.1.field = field) :
    entry = (⟨field, .within (.between slowest fastest) true⟩, false) := by
  have hall : ∀ entry ∈ Category.ram.checks, entry.1.field = field →
      entry = (⟨field, .within (.between slowest fastest) true⟩, false) := by
    decide +kernel
  exact hall entry hmem hfield

/-- A plausible speed passes its check. -/
theorem check_speed {rate : Nat} (hlow : slowest ≤ rate) (hhigh : rate ≤ fastest)
    (record : Record) :
    check ⟨field, .within (.between slowest fastest) true⟩ false
        (record.insertInteger field (integerOfRate rate)) =
      .ok (record.insertInteger field (integerOfRate rate)) := by
  have hcovers : (Bounds.between slowest fastest).covers
      (Json.Number.integer (integerOfRate rate)).toDouble = true := by
    rw [Bounds.covers_between_iff (by decide) (by decide), signedUnits_rate hhigh]
    have hpos := powTwo_pos binary64.fractionBits
    constructor
    · exact_mod_cast Nat.mul_le_mul_right _ hlow
    · exact_mod_cast Nat.mul_le_mul_right _ hhigh
  -- the check of a number writes nothing
  rw [check_eq_ok_iff]
  refine ⟨none, ?_, rfl⟩
  rw [Record.get?_insertInteger, if_pos rfl]
  simp only [ruling, hcovers, Bool.or_true, if_true]

/-- **Filling in a speed keeps a record of a memory module valid.** -/
theorem passed_recover (title : List Char) (h : Passed .ram record) :
    Passed .ram (recover title record) := by
  rcases recover_cases title record with ⟨_, hsame⟩ | ⟨_, rate, hrate, hfilled⟩
  · rw [hsame]
    exact h
  · obtain ⟨hlow, hhigh⟩ := ofTitle?_range hrate
    rw [hfilled]
    constructor
    · obtain ⟨condition, hname⟩ := canonicalCondition_eq_self_iff.1 h.1
      refine canonicalCondition_eq_self_iff.2 ⟨condition, ?_⟩
      rw [Record.get?_insertInteger, if_neg (by decide)]
      exact hname
    · -- of the checks only one is about the speed, and the others see what they saw
      intro entry hentry
      by_cases hfield : entry.1.field = field
      · rw [mem_checks_ram hentry hfield]
        exact check_speed hlow hhigh record
      · refine check_of_get?_eq (h.2 entry hentry) ?_
        rw [Record.get?_insertInteger, if_neg (Ne.symm hfield)]

end ListingAttributes.MemorySpeed
