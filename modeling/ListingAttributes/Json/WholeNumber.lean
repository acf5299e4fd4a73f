import ListingAttributes.Json.Ordering

/-!
# Whole numbers

A provider may write a whole number with a fraction of zero.  `wholeNumbers` replaces every double
without fractional part and of magnitude below nine times ten to the fifteenth by the integer of
the same value, at every depth, so that whole numbers have one representation.
-/

namespace ListingAttributes.Json

open Numeric

/-- The magnitude below which a whole double becomes an integer. -/
def wholeLimit : Nat := 9000000000000000

/-- Whether a double is whole and of a magnitude below the limit. -/
def isSmallWhole (x : Binary binary64) : Bool :=
  x.isWhole && x.units < wholeLimit * powTwo binary64.fractionBits

theorem natAbs_truncate (x : Binary binary64) :
    x.truncate.natAbs = x.units / powTwo binary64.fractionBits := by
  unfold Binary.truncate
  split
  · rw [Int.natAbs_neg, Int.natAbs_natCast]
  · rw [Int.natAbs_natCast]

/-- The integer part of a small whole double is in range. -/
theorem truncate_inRange {x : Binary binary64} (h : isSmallWhole x = true) :
    -9223372036854775808 ≤ x.truncate ∧ x.truncate < 18446744073709551616 := by
  simp only [isSmallWhole, Bool.and_eq_true, decide_eq_true_eq] at h
  have habs := natAbs_truncate x
  have hlt : x.units / powTwo binary64.fractionBits < wholeLimit :=
    (Nat.div_lt_iff_lt_mul (powTwo_pos _)).2 h.2
  rw [← habs] at hlt
  simp only [wholeLimit] at hlt
  omega

/-- A number with a whole double written as an integer. -/
def Number.whole : Number → Number
  | .integer i => .integer i
  | .double x =>
    if h : isSmallWhole x then .integer ⟨x.truncate, (truncate_inRange h).1, (truncate_inRange h).2⟩
    else .double x

mutual

/-- A value with every small whole double written as an integer. -/
def wholeNumbers : Value → Value
  | .number x => .number x.whole
  | .array items => .array (wholeItems items)
  | .object members => .object (wholeMembers members)
  | .null => .null
  | .bool b => .bool b
  | .string text => .string text

/-- `wholeNumbers` on the items of an array. -/
def wholeItems : List Value → List Value
  | [] => []
  | item :: items => wholeNumbers item :: wholeItems items

/-- `wholeNumbers` on the values of an object. -/
def wholeMembers : List (String × Value) → List (String × Value)
  | [] => []
  | (key, value) :: members => (key, wholeNumbers value) :: wholeMembers members

end

/-! ## Order is kept -/

theorem map_fst_wholeMembers (members : List (String × Value)) :
    (wholeMembers members).map Prod.fst = members.map Prod.fst := by
  induction members with
  | nil => rfl
  | cons head rest ih =>
    obtain ⟨key, value⟩ := head
    simp [wholeMembers, ih]

theorem ascending_iff_map {α : Type} (members : List (String × α)) :
    Ascending members ↔ (members.map Prod.fst).Pairwise (· < ·) :=
  List.pairwise_map.symm

theorem ascending_wholeMembers {members : List (String × Value)} (h : Ascending members) :
    Ascending (wholeMembers members) := by
  rw [ascending_iff_map, map_fst_wholeMembers, ← ascending_iff_map]
  exact h

mutual

theorem ordered_wholeNumbers : (value : Value) → value.Ordered → (wholeNumbers value).Ordered
  | .null, _ => trivial
  | .bool _, _ => trivial
  | .string _, _ => trivial
  | .number _, _ => trivial
  | .array items, h => orderedItems_wholeItems items h
  | .object members, h => ⟨ascending_wholeMembers h.1, orderedMembers_wholeMembers members h.2⟩

theorem orderedItems_wholeItems :
    (items : List Value) → OrderedItems items → OrderedItems (wholeItems items)
  | [], _ => trivial
  | item :: items, h => ⟨ordered_wholeNumbers item h.1, orderedItems_wholeItems items h.2⟩

theorem orderedMembers_wholeMembers :
    (members : List (String × Value)) → OrderedMembers members →
    OrderedMembers (wholeMembers members)
  | [], _ => trivial
  | (_, value) :: members, h =>
    ⟨ordered_wholeNumbers value h.1, orderedMembers_wholeMembers members h.2⟩

end

end ListingAttributes.Json
