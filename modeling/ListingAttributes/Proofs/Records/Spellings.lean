import Mathlib.Data.List.Find
import ListingAttributes.Proofs.Json.RoundTrip
import ListingAttributes.Proofs.Numeric.Integers
import ListingAttributes.Proofs.Numeric.ReadingBack
import ListingAttributes.Proofs.Numeric.SameValue
import ListingAttributes.Proofs.Records.Validation
import ListingAttributes.Proofs.Text.Trimming

/-!
# Numbers where a spelling is expected

Where one of a set of spellings is expected, a number counts as its text, and
numbers of the same value may have different texts: an integer has no point,
and a double has one.  No spelling of a schema is the text of a whole number
(`hasNoWhole_checks`), and a number that is not whole has one text only, so
two numbers of the same value match the same spellings
(`find?_numberText`).  The text of a number is never blank, so only a blank
string states nothing (`unstated_of_ruling_none`).
-/

namespace ListingAttributes

open Json Numeric Text

/-- A text that no whole number is written with: it has a character that is in no number, or it
has a point and is read as a number with a fraction. -/
def noWholeText (text : List Char) : Bool :=
  text.any (fun c => !isNumberChar c) ||
    text.contains '.' &&
      match (Extended.ofText? text : Option (Extended binary64)) with
      | some (.finite x) => !x.isWhole
      | _ => false

/-- No spelling of a rule is the text of a whole number, case aside. -/
def Validation.Rule.HasNoWhole : Rule → Prop
  | .oneOf allowed =>
    ∀ spelling ∈ allowed, noWholeText (spelling.toList.map Char.toLower) = true
  | _ => True

instance : (rule : Rule) → Decidable (Validation.Rule.HasNoWhole rule)
  | .oneOf allowed => inferInstanceAs (Decidable (∀ spelling ∈ allowed, _))
  | .nonBlank => isTrue trivial
  | .within _ _ => isTrue trivial

theorem Category.hasNoWhole_checks (category : Category) :
    ∀ entry ∈ category.checks, Validation.Rule.HasNoWhole entry.1.rule := by
  cases category <;> decide +kernel

/-! ### The text of a number -/

theorem toLower_of_isNumberChar {c : Char} (h : isNumberChar c = true) : c.toLower = c := by
  simp only [isNumberChar, Bool.or_eq_true, beq_iff_eq] at h
  rcases h with (((h | rfl) | rfl) | rfl) | rfl
  · exact toLower_of_isAsciiDigit h
  · rfl
  · rfl
  · rfl
  · rfl

theorem map_toLower_numberText (x : Number) : x.text.map Char.toLower = x.text := by
  refine (List.map_congr_left fun c hc => ?_).trans (List.map_id _)
  exact toLower_of_isNumberChar (isNumberChar_of_mem_numberText hc)

theorem isBlank_of_isNumberChar {c : Char} (h : isNumberChar c = true) : isBlank c = false := by
  simp only [isNumberChar, Bool.or_eq_true, beq_iff_eq] at h
  rcases h with (((h | rfl) | rfl) | rfl) | rfl
  · simp only [isAsciiDigit, Bool.and_eq_true, decide_eq_true_eq] at h
    have hlow : 48 ≤ c.toNat := h.1
    have hhigh : c.toNat ≤ 57 := h.2
    rw [← Bool.not_eq_true]
    simp only [isBlank, CodeRanges.covers, blankRanges, List.any_cons, List.any_nil,
      Bool.or_eq_true, Bool.and_eq_true, decide_eq_true_eq, Bool.false_eq_true, or_false]
    omega
  · decide
  · decide
  · decide
  · decide

theorem trim_numberText (x : Number) : trim x.text = x.text :=
  trim_of_no_blank fun _ hc => isBlank_of_isNumberChar (isNumberChar_of_mem_numberText hc)

theorem point_not_mem_intText (i : Int) : '.' ∉ intText i := by
  have hdigits : ∀ n, '.' ∉ digitsOf n := by
    intro n h
    exact absurd (isAsciiDigit_of_mem_digitsOf h) (by decide)
  unfold intText
  split
  · intro h
    rcases List.mem_cons.1 h with h | h
    · cases h
    · exact hdigits _ h
  · exact hdigits _

/-- **A number whose text is that of no whole number** has the same text as every number of its
value: both are the one double that the text is read as. -/
theorem text_eq_of_sameValue {x y : Number} (hno : noWholeText x.text = true)
    (h : x.toDouble.signedUnits = y.toDouble.signedUnits) : y.text = x.text := by
  unfold noWholeText at hno
  rw [Bool.or_eq_true, List.any_eq_true] at hno
  rcases hno with ⟨c, hc, hchar⟩ | hno
  · -- no number is written with such a character
    rw [isNumberChar_of_mem_numberText hc] at hchar
    cases hchar
  · rw [Bool.and_eq_true, List.contains_iff_mem] at hno
    obtain ⟨hpoint, hread⟩ := hno
    cases x with
    | integer i => exact absurd hpoint (point_not_mem_intText i.value)
    | double x =>
        have hfraction : x.isWhole = false := by
          have htext := ofText?_text jsonStyle x
          rw [show (Number.double x).text = x.text jsonStyle from rfl, htext] at hread
          exact Bool.not_eq_true' _ ▸ hread
        cases y with
        | integer j =>
            -- every integer is whole as a double, also where it was rounded
            have hwhole := isWhole_toDouble j
            rw [← Binary.isWhole_congr h] at hwhole
            rw [show (Number.double x).toDouble = x from rfl, hfraction] at hwhole
            cases hwhole
        | double y =>
            -- a number with a fraction is not zero, the only value of two doubles
            have hpos : 0 < x.units := by
              apply Nat.pos_of_ne_zero
              intro hzero
              unfold Binary.isWhole at hfraction
              rw [hzero, Nat.zero_mod] at hfraction
              cases hfraction
            rw [Binary.eq_of_signedUnits_eq (x := x) (y := y) h hpos]

/-! ### Matching spellings -/

/-- **Numbers of the same value match the same spellings.** -/
theorem find?_numberText {x y : Number} {allowed : List String}
    (hno : Validation.Rule.HasNoWhole (.oneOf allowed))
    (h : x.toDouble.signedUnits = y.toDouble.signedUnits) :
    (allowed.find? fun spelling => sameButAsciiCase spelling.toList (trim x.text)) =
      allowed.find? fun spelling => sameButAsciiCase spelling.toList (trim y.text) := by
  apply List.find?_congr
  intro spelling hspelling
  have hmatch : ∀ {u v : Number}, u.toDouble.signedUnits = v.toDouble.signedUnits →
      sameButAsciiCase spelling.toList (trim u.text) = true →
      sameButAsciiCase spelling.toList (trim v.text) = true := by
    intro u v huv hu
    -- a number is written in lower case, so it is the spelling in lower case
    unfold sameButAsciiCase at hu ⊢
    rw [beq_iff_eq, trim_numberText, map_toLower_numberText] at hu ⊢
    rw [hu]
    refine (text_eq_of_sameValue ?_ huv).symm
    rw [← hu]
    exact hno spelling hspelling
  exact Bool.eq_iff_iff.2 ⟨hmatch h, hmatch h.symm⟩

/-! ### Fields that state nothing -/

/-- **Where a spelling is expected, nothing is written only if nothing is stated**: the field is
optional, and it is absent or blank. -/
theorem Validation.unstated_of_ruling_none {rule : FieldRule} {allowed : List String}
    {required : Bool} {value : Option Json.Value} (hrule : rule.rule = .oneOf allowed)
    (h : Validation.ruling rule required value = .ok none) :
    required = false ∧
      (value = none ∨ ∃ text, value = some (.string text) ∧ trim text.toList = []) := by
  obtain ⟨hrequired, hblank⟩ := Validation.blank_of_ruling_none hrule h
  refine ⟨hrequired, ?_⟩
  cases value with
  | none => exact Or.inl rfl
  | some value =>
      right
      unfold Validation.ruling at h
      rw [hrule] at h
      cases value with
      | string text => exact ⟨text, rfl, hblank text rfl⟩
      | number x =>
          -- the text of a number is never blank
          simp only [Validation.spelling?, trim_numberText, if_neg (numberText_ne_nil x)] at h
          split at h <;> cases h
      | _ => cases h

end ListingAttributes
