import ListingAttributes.Proofs.Keys.NumberText
import ListingAttributes.Proofs.Records.Validation
import ListingAttributes.Proofs.Text.LowerCase
import ListingAttributes.Proofs.Text.Trimming

/-!
# Components of a key

The components of a key are joined with colons that are not escaped.  Numbers
and subtypes have no colon, and a text has one in its component only if it has
one itself (`colon_not_mem_folded`).  What a schema requires to be one of a
set of spellings therefore has none in a valid record
(`colon_not_mem_token_of_check`), and keys are taken apart at the colons that
are next to such components (`joined_cons_inj`, `joined_pair_inj`).
-/

namespace ListingAttributes.ProductKey

open Numeric

/-! ### Components without a colon -/

/-- A character of a subtype. -/
def isSubtypeChar (c : Char) : Bool := c.isAlphanum || c == '_'

theorem isNumberChar_of_mem_number {record : Record} {field : String} {c : Char}
    (h : c ∈ number record field) : isNumberChar c = true := by
  unfold number at h
  split at h
  · unfold numberText at h
    split at h
    · exact Json.isNumberChar_of_mem_intText h
    · exact isNumberChar_of_mem_text h
  · rw [List.mem_singleton] at h
    rw [h]
    decide

theorem isSubtypeChar_of_mem_ramSubtype {record : Record} {c : Char}
    (h : c ∈ ramSubtype record) : isSubtypeChar c = true := by
  have hall : (ramSubtype record).all isSubtypeChar = true := by
    unfold ramSubtype
    split <;> decide +kernel
  exact List.all_eq_true.1 hall c h

theorem isSubtypeChar_of_mem_driveSubtype {record : Record} {c : Char}
    (h : c ∈ driveSubtype record) : isSubtypeChar c = true := by
  have hall : (driveSubtype record).all isSubtypeChar = true := by
    unfold driveSubtype
    split
    · decide +kernel
    · split
      · decide +kernel
      · split <;> decide +kernel
  exact List.all_eq_true.1 hall c h

theorem colon_not_mem_number (record : Record) (field : String) : ':' ∉ number record field :=
  fun h => absurd (isNumberChar_of_mem_number h) (by decide)

theorem colon_not_mem_ramSubtype (record : Record) : ':' ∉ ramSubtype record :=
  fun h => absurd (isSubtypeChar_of_mem_ramSubtype h) (by decide)

theorem colon_not_mem_driveSubtype (record : Record) : ':' ∉ driveSubtype record :=
  fun h => absurd (isSubtypeChar_of_mem_driveSubtype h) (by decide)

theorem colon_not_mem_folded {text : List Char} (h : ':' ∉ text) : ':' ∉ folded text := by
  intro hmem
  obtain ⟨c, hc, hcolon⟩ := List.mem_map.1 hmem
  split at hcolon
  · cases hcolon
  · rw [hcolon] at hc
    exact h (Text.mem_of_mem_lower (by decide) hc)

theorem colon_not_mem_token {record : Record} {field : String}
    (h : ∀ text, record.str? field = some text → ':' ∉ text.toList) :
    ':' ∉ token record field := by
  unfold token
  split
  · next text htext =>
    split
    · decide
    · exact colon_not_mem_folded (h text htext)
  · decide

/-- **A field of fixed spellings has no colon in its component** once it passed its check. -/
theorem colon_not_mem_token_of_check {rule : FieldRule} {allowed : List String} {required : Bool}
    {record : Record} (hrule : rule.rule = .oneOf allowed)
    (h : Validation.check rule required record = .ok record)
    (hallowed : ∀ text ∈ allowed, ':' ∉ text.toList) : ':' ∉ token record rule.field := by
  apply colon_not_mem_token
  intro text htext hcolon
  rcases Validation.spelled_or_blank hrule h with ⟨spelled, hmem, hspelled⟩ | ⟨_, hblank⟩
  · rw [hspelled, Option.some.injEq] at htext
    rw [← htext] at hcolon
    exact hallowed spelled hmem hcolon
  · have hisBlank := Text.isBlank_of_trim_eq_nil (hblank text htext) ':' hcolon
    exact absurd hisBlank (by decide)

/-! ### Joined components -/

/-- A colon that ends two texts with equally many colons is the same one. -/
theorem append_colon_inj_of_count {left right front back : List Char}
    (hcount : left.count ':' = right.count ':') (h : left ++ ':' :: front = right ++ ':' :: back) :
    left = right ∧ front = back := by
  induction left generalizing right with
  | nil =>
      cases right with
      | nil => exact ⟨rfl, (List.cons.inj h).2⟩
      | cons c right =>
          -- the longer text starts with the colon that ends the other
          rw [← (List.cons.inj h).1] at hcount
          simp at hcount
  | cons c left ih =>
      cases right with
      | nil =>
          rw [(List.cons.inj h).1] at hcount
          simp at hcount
      | cons d right =>
          obtain ⟨rfl, hrest⟩ := List.cons.inj h
          rw [List.count_cons, List.count_cons, Nat.add_right_cancel_iff] at hcount
          obtain ⟨rfl, hback⟩ := ih hcount hrest
          exact ⟨rfl, hback⟩

/-- The first colon ends a text without colons. -/
theorem append_colon_inj {left right front back : List Char} (hleft : ':' ∉ left)
    (hright : ':' ∉ right) (h : left ++ ':' :: front = right ++ ':' :: back) :
    left = right ∧ front = back := by
  apply append_colon_inj_of_count _ h
  rw [List.count_eq_zero.2 hleft, List.count_eq_zero.2 hright]

/-- A first component without colons is what stands before the first colon. -/
theorem joined_cons_inj {first second third fourth : List Char} {rest others : List (List Char)}
    (hfirst : ':' ∉ first) (hsecond : ':' ∉ second)
    (h : joined (first :: third :: rest) = joined (second :: fourth :: others)) :
    first = second ∧ joined (third :: rest) = joined (fourth :: others) :=
  append_colon_inj hfirst hsecond h

/-- A last component without colons is what stands behind the last colon. -/
theorem joined_pair_inj {first second third fourth : List Char} (hsecond : ':' ∉ second)
    (hfourth : ':' ∉ fourth) (h : joined [first, second] = joined [third, fourth]) :
    first = third ∧ second = fourth := by
  -- the last colon is the first one from behind
  have hreversed := congrArg List.reverse h
  simp only [joined, List.reverse_append, List.reverse_cons, List.append_assoc,
    List.singleton_append] at hreversed
  obtain ⟨hlast, hfront⟩ := append_colon_inj (by simpa using hsecond) (by simpa using hfourth)
    hreversed
  exact ⟨List.reverse_injective hfront, List.reverse_injective hlast⟩

end ListingAttributes.ProductKey
