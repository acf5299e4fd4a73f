import ListingAttributes.Json.WholeNumber

/-!
# Numbers inside a value

`numbers` lists the numbers of a value at every depth, and `depth` says how
deep its arrays and objects lie inside one another.  A number is `Settled` if
it is an integer, or a double that no integer below `wholeLimit` is equal to.

* `settled_of_mem_wholeNumbers`: after `wholeNumbers` every number is settled;
* `wholeNumbers_eq_self`: a value whose numbers are all settled stays as it is;
* `depth_wholeNumbers`: the shape of a value does not change.
-/

namespace ListingAttributes.Json

open Numeric

variable {ν : Type}

/-! ### Traversals -/

mutual

/-- The numbers of a value, at every depth, in the order in which they are written. -/
def numbers : Json ν → List ν
  | .number x => [x]
  | .array items => numbersOfItems items
  | .object members => numbersOfMembers members
  | .null => []
  | .bool _ => []
  | .string _ => []

/-- The numbers of the items of an array. -/
def numbersOfItems : List (Json ν) → List ν
  | [] => []
  | item :: items => item.numbers ++ numbersOfItems items

/-- The numbers of the values of an object. -/
def numbersOfMembers : List (String × Json ν) → List ν
  | [] => []
  | (_, value) :: members => value.numbers ++ numbersOfMembers members

end

mutual

/-- How many arrays and objects of a value lie inside one another. -/
def depth : Json ν → Nat
  | .array items => depthOfItems items + 1
  | .object members => depthOfMembers members + 1
  | .null => 0
  | .bool _ => 0
  | .number _ => 0
  | .string _ => 0

/-- The greatest depth of an item. -/
def depthOfItems : List (Json ν) → Nat
  | [] => 0
  | item :: items => max item.depth (depthOfItems items)

/-- The greatest depth of the value of a member. -/
def depthOfMembers : List (String × Json ν) → Nat
  | [] => 0
  | (_, value) :: members => max value.depth (depthOfMembers members)

end

theorem mem_numbersOfMembers {x : ν} {members : List (String × Json ν)} :
    x ∈ numbersOfMembers members ↔ ∃ member ∈ members, x ∈ member.2.numbers := by
  induction members with
  | nil => simp [numbersOfMembers]
  | cons head rest ih =>
      obtain ⟨key, value⟩ := head
      simp [numbersOfMembers, ih]

theorem depthOfMembers_le {bound : Nat} {members : List (String × Json ν)} :
    depthOfMembers members ≤ bound ↔ ∀ member ∈ members, member.2.depth ≤ bound := by
  induction members with
  | nil => simp [depthOfMembers]
  | cons head rest ih =>
      obtain ⟨key, value⟩ := head
      rw [depthOfMembers, Nat.max_le, ih]
      simp

theorem mem_numbersOfMembers_insert {x : ν} {key : String} {value : Json ν}
    {members : List (String × Json ν)} (h : x ∈ numbersOfMembers (insert key value members)) :
    x ∈ value.numbers ∨ x ∈ numbersOfMembers members := by
  obtain ⟨member, hmem, hx⟩ := mem_numbersOfMembers.1 h
  rcases mem_insert hmem with rfl | hmem
  · exact Or.inl hx
  · exact Or.inr (mem_numbersOfMembers.2 ⟨member, hmem, hx⟩)

theorem depthOfMembers_insert_le (key : String) {bound : Nat} {value : Json ν}
    {members : List (String × Json ν)} (hvalue : value.depth ≤ bound)
    (h : depthOfMembers members ≤ bound) :
    depthOfMembers (insert key value members) ≤ bound := by
  rw [depthOfMembers_le] at h ⊢
  intro member hmem
  rcases mem_insert hmem with rfl | hmem
  · exact hvalue
  · exact h member hmem

theorem mem_of_mem_foldl_insert {α : Type} {member : String × α}
    (entries : List (String × α)) {members : List (String × α)}
    (h : member ∈ entries.foldl (fun members entry => insert entry.1 entry.2 members) members) :
    member ∈ entries ∨ member ∈ members := by
  induction entries generalizing members with
  | nil => exact Or.inr h
  | cons entry entries ih =>
      rcases ih h with hmem | hmem
      · exact Or.inl (List.mem_cons_of_mem _ hmem)
      · rcases mem_insert hmem with rfl | hmem
        · exact Or.inl List.mem_cons_self
        · exact Or.inr hmem

/-- A map holds nothing but entries that were written. -/
theorem mem_of_mem_ofEntries {α : Type} {member : String × α} {entries : List (String × α)}
    (h : member ∈ ofEntries entries) : member ∈ entries := by
  rcases mem_of_mem_foldl_insert entries h with hmem | hmem
  · exact hmem
  · simp at hmem

theorem depthOfMembers_ofEntries_le (entries : List (String × Json ν)) :
    depthOfMembers (ofEntries entries) ≤ depthOfMembers entries := by
  rw [depthOfMembers_le]
  intro member hmem
  exact depthOfMembers_le.1 (Nat.le_refl _) member (mem_of_mem_ofEntries hmem)

/-! ### Settled numbers -/

/-- A number in the one form that its value has in a record: an integer, or a
double whose value is no integer of a magnitude below `wholeLimit`. -/
def Number.Settled : Number → Prop
  | .integer _ => True
  | .double x => ∀ i : Int,
      x.signedUnits = i * powTwo binary64.fractionBits → wholeLimit ≤ i.natAbs

theorem natAbs_signedUnits {F : Format} (x : Binary F) : x.signedUnits.natAbs = x.units := by
  unfold Binary.signedUnits
  split <;> omega

/-- The doubles that become integers are those equal to an integer below the limit. -/
theorem isSmallWhole_iff (x : Binary binary64) :
    isSmallWhole x = true ↔
      ∃ i : Int, x.signedUnits = i * powTwo binary64.fractionBits ∧ i.natAbs < wholeLimit := by
  have hpos := powTwo_pos binary64.fractionBits
  simp only [isSmallWhole, Binary.isWhole, Bool.and_eq_true, beq_iff_eq, decide_eq_true_eq]
  constructor
  · rintro ⟨hwhole, hlt⟩
    -- the integer is the number without its fraction, which is zero
    refine ⟨x.truncate, ?_, ?_⟩
    · have hunits : x.units / powTwo binary64.fractionBits * powTwo binary64.fractionBits =
          x.units := Nat.div_mul_cancel (Nat.dvd_of_mod_eq_zero hwhole)
      unfold Binary.signedUnits Binary.truncate
      cases x.negative
      · rw [if_neg Bool.false_ne_true, if_neg Bool.false_ne_true, ← Int.natCast_mul, hunits]
      · rw [if_pos rfl, if_pos rfl, Int.neg_mul, ← Int.natCast_mul, hunits]
    · rw [natAbs_truncate]
      exact (Nat.div_lt_iff_lt_mul hpos).2 hlt
  · rintro ⟨i, hi, hlt⟩
    have hunits : x.units = i.natAbs * powTwo binary64.fractionBits :=
      calc x.units
          = x.signedUnits.natAbs := (natAbs_signedUnits x).symm
        _ = (i * powTwo binary64.fractionBits).natAbs := by rw [hi]
        _ = i.natAbs * powTwo binary64.fractionBits := by rw [Int.natAbs_mul, Int.natAbs_natCast]
    rw [hunits]
    exact ⟨Nat.mul_mod_left _ _, Nat.mul_lt_mul_of_pos_right hlt hpos⟩

theorem settled_double_iff (x : Binary binary64) :
    (Number.double x).Settled ↔ isSmallWhole x = false := by
  rw [← Bool.not_eq_true, isSmallWhole_iff]
  simp only [Number.Settled, not_exists, not_and, Nat.not_lt]

theorem settled_whole (x : Number) : x.whole.Settled := by
  cases x with
  | integer i => trivial
  | double x =>
      simp only [Number.whole]
      split
      · trivial
      · next h => exact (settled_double_iff x).2 (Bool.eq_false_iff.2 h)

theorem whole_eq_self {x : Number} (h : x.Settled) : x.whole = x := by
  cases x with
  | integer i => rfl
  | double x =>
      simp only [Number.whole]
      rw [dif_neg (Bool.eq_false_iff.1 ((settled_double_iff x).1 h))]

/-! ### The numbers of a value with whole numbers as integers -/

mutual

theorem numbers_wholeNumbers :
    (value : Value) → (wholeNumbers value).numbers = value.numbers.map Number.whole
  | .null => rfl
  | .bool _ => rfl
  | .string _ => rfl
  | .number _ => rfl
  | .array items => numbers_wholeItems items
  | .object members => numbers_wholeMembers members

theorem numbers_wholeItems :
    (items : List Value) → numbersOfItems (wholeItems items) =
      (numbersOfItems items).map Number.whole
  | [] => rfl
  | item :: items => by
      simp only [wholeItems, numbersOfItems, List.map_append, numbers_wholeNumbers item,
        numbers_wholeItems items]

theorem numbers_wholeMembers :
    (members : List (String × Value)) → numbersOfMembers (wholeMembers members) =
      (numbersOfMembers members).map Number.whole
  | [] => rfl
  | (_, value) :: members => by
      simp only [wholeMembers, numbersOfMembers, List.map_append, numbers_wholeNumbers value,
        numbers_wholeMembers members]

end

/-- **Whole numbers are integers everywhere.** -/
theorem settled_of_mem_wholeNumbers {x : Number} {value : Value}
    (h : x ∈ (wholeNumbers value).numbers) : x.Settled := by
  rw [numbers_wholeNumbers] at h
  obtain ⟨y, _, rfl⟩ := List.mem_map.1 h
  exact settled_whole y

mutual

/-- A value whose numbers are all settled stays as it is. -/
theorem wholeNumbers_eq_self :
    (value : Value) → (∀ x ∈ value.numbers, x.Settled) → wholeNumbers value = value
  | .null, _ => rfl
  | .bool _, _ => rfl
  | .string _, _ => rfl
  | .number x, h => by
      rw [wholeNumbers, whole_eq_self (h x (by simp [numbers]))]
  | .array items, h => by
      rw [wholeNumbers, wholeItems_eq_self items h]
  | .object members, h => by
      rw [wholeNumbers, wholeMembers_eq_self members h]

theorem wholeItems_eq_self :
    (items : List Value) → (∀ x ∈ numbersOfItems items, x.Settled) → wholeItems items = items
  | [], _ => rfl
  | item :: items, h => by
      simp only [numbersOfItems, List.mem_append] at h
      rw [wholeItems, wholeNumbers_eq_self item fun x hx => h x (Or.inl hx),
        wholeItems_eq_self items fun x hx => h x (Or.inr hx)]

theorem wholeMembers_eq_self :
    (members : List (String × Value)) → (∀ x ∈ numbersOfMembers members, x.Settled) →
      wholeMembers members = members
  | [], _ => rfl
  | (_, value) :: members, h => by
      simp only [numbersOfMembers, List.mem_append] at h
      rw [wholeMembers, wholeNumbers_eq_self value fun x hx => h x (Or.inl hx),
        wholeMembers_eq_self members fun x hx => h x (Or.inr hx)]

end

mutual

theorem depth_wholeNumbers : (value : Value) → (wholeNumbers value).depth = value.depth
  | .null => rfl
  | .bool _ => rfl
  | .string _ => rfl
  | .number _ => rfl
  | .array items => by rw [wholeNumbers, depth, depth, depth_wholeItems items]
  | .object members => by rw [wholeNumbers, depth, depth, depth_wholeMembers members]

theorem depth_wholeItems :
    (items : List Value) → depthOfItems (wholeItems items) = depthOfItems items
  | [] => rfl
  | item :: items => by
      rw [wholeItems, depthOfItems, depthOfItems, depth_wholeNumbers item, depth_wholeItems items]

theorem depth_wholeMembers :
    (members : List (String × Value)) →
      depthOfMembers (wholeMembers members) = depthOfMembers members
  | [] => rfl
  | (_, value) :: members => by
      rw [wholeMembers, depthOfMembers, depthOfMembers, depth_wholeNumbers value,
        depth_wholeMembers members]

end

end ListingAttributes.Json
