import Mathlib.Data.List.Forall2
import ListingAttributes.Proofs.Numeric.ExactValues
import ListingAttributes.Proofs.Numeric.SameValue
import ListingAttributes.Proofs.Records.Fields

/-!
# Whole numbers as integers

A value is its `shape`, which is the value without what its numbers are, and
its numbers in the order in which they are written (`eq_of_shape_eq`).
Writing whole numbers as integers leaves the shape as it is.  A number is
`Kept`: it stays as it is, or it is a double of a magnitude below `wholeLimit`
and becomes the integer that is equal to it.

`eq_wholeNumbers_iff`: no other value of this shape with numbers kept like
this has all its whole numbers below the limit as integers.
-/

namespace ListingAttributes.Json

open Numeric

/-! ### Shapes -/

section Shapes

variable {ν μ : Type}

mutual

/-- A value without what its numbers are. -/
def shape : Json ν → Json Unit
  | .number _ => .number ()
  | .array items => .array (shapeOfItems items)
  | .object members => .object (shapeOfMembers members)
  | .null => .null
  | .bool b => .bool b
  | .string text => .string text

/-- The shapes of the items of an array. -/
def shapeOfItems : List (Json ν) → List (Json Unit)
  | [] => []
  | item :: items => item.shape :: shapeOfItems items

/-- The shapes of the values of an object, under their keys. -/
def shapeOfMembers : List (String × Json ν) → List (String × Json Unit)
  | [] => []
  | (key, value) :: members => (key, value.shape) :: shapeOfMembers members

end

mutual

/-- There are as many numbers in a value as in its shape. -/
theorem length_numbers_shape :
    (value : Json ν) → value.shape.numbers.length = value.numbers.length
  | .null => rfl
  | .bool _ => rfl
  | .string _ => rfl
  | .number _ => rfl
  | .array items => length_numbersOfItems_shape items
  | .object members => length_numbersOfMembers_shape members

theorem length_numbersOfItems_shape : (items : List (Json ν)) →
    (numbersOfItems (shapeOfItems items)).length = (numbersOfItems items).length
  | [] => rfl
  | item :: items => by
      rw [shapeOfItems, numbersOfItems, numbersOfItems, List.length_append, List.length_append,
        length_numbers_shape item, length_numbersOfItems_shape items]

theorem length_numbersOfMembers_shape : (members : List (String × Json ν)) →
    (numbersOfMembers (shapeOfMembers members)).length = (numbersOfMembers members).length
  | [] => rfl
  | (_, value) :: members => by
      rw [shapeOfMembers, numbersOfMembers, numbersOfMembers, List.length_append,
        List.length_append, length_numbers_shape value, length_numbersOfMembers_shape members]

end

/-- Values of one shape have equally many numbers. -/
theorem length_numbers_eq {value : Json ν} {other : Json μ} (h : value.shape = other.shape) :
    value.numbers.length = other.numbers.length := by
  rw [← length_numbers_shape value, h, length_numbers_shape other]

mutual

/-- **A value is its shape and its numbers.** -/
theorem eq_of_shape_eq : (value other : Json ν) → value.shape = other.shape →
    value.numbers = other.numbers → value = other
  | .null, other, hshape, _ => by
      cases other <;> simp_all [shape]
  | .bool _, other, hshape, _ => by
      cases other <;> simp_all [shape]
  | .string _, other, hshape, _ => by
      cases other <;> simp_all [shape]
  | .number _, other, hshape, hnumbers => by
      cases other <;> simp_all [shape, numbers]
  | .array items, other, hshape, hnumbers => by
      cases other with
      | array others =>
          simp only [shape, Json.array.injEq] at hshape
          rw [eq_of_shapeOfItems_eq items others hshape hnumbers]
      | _ => simp [shape] at hshape
  | .object members, other, hshape, hnumbers => by
      cases other with
      | object others =>
          simp only [shape, Json.object.injEq] at hshape
          rw [eq_of_shapeOfMembers_eq members others hshape hnumbers]
      | _ => simp [shape] at hshape

theorem eq_of_shapeOfItems_eq : (items others : List (Json ν)) →
    shapeOfItems items = shapeOfItems others → numbersOfItems items = numbersOfItems others →
    items = others
  | [], others, hshape, _ => by
      cases others with
      | nil => rfl
      | cons other others => simp [shapeOfItems] at hshape
  | item :: items, others, hshape, hnumbers => by
      cases others with
      | nil => simp [shapeOfItems] at hshape
      | cons other others =>
          simp only [shapeOfItems, List.cons.injEq] at hshape
          obtain ⟨hitem, hitems⟩ := List.append_inj hnumbers (length_numbers_eq hshape.1)
          rw [eq_of_shape_eq item other hshape.1 hitem,
            eq_of_shapeOfItems_eq items others hshape.2 hitems]

theorem eq_of_shapeOfMembers_eq : (members others : List (String × Json ν)) →
    shapeOfMembers members = shapeOfMembers others →
    numbersOfMembers members = numbersOfMembers others → members = others
  | [], others, hshape, _ => by
      cases others with
      | nil => rfl
      | cons other others => simp [shapeOfMembers] at hshape
  | (key, value) :: members, others, hshape, hnumbers => by
      cases others with
      | nil => simp [shapeOfMembers] at hshape
      | cons other others =>
          obtain ⟨otherKey, otherValue⟩ := other
          simp only [shapeOfMembers, List.cons.injEq, Prod.mk.injEq] at hshape
          obtain ⟨⟨rfl, hvalue⟩, hmembers⟩ := hshape
          obtain ⟨hnumber, hrest⟩ := List.append_inj hnumbers (length_numbers_eq hvalue)
          rw [eq_of_shape_eq value otherValue hvalue hnumber,
            eq_of_shapeOfMembers_eq members others hmembers hrest]

end

end Shapes

mutual

theorem shape_wholeNumbers : (value : Value) → (wholeNumbers value).shape = value.shape
  | .null => rfl
  | .bool _ => rfl
  | .string _ => rfl
  | .number _ => rfl
  | .array items => by rw [wholeNumbers, shape, shape, shape_wholeItems items]
  | .object members => by rw [wholeNumbers, shape, shape, shape_wholeMembers members]

theorem shape_wholeItems :
    (items : List Value) → shapeOfItems (wholeItems items) = shapeOfItems items
  | [] => rfl
  | item :: items => by
      rw [wholeItems, shapeOfItems, shapeOfItems, shape_wholeNumbers item, shape_wholeItems items]

theorem shape_wholeMembers :
    (members : List (String × Value)) →
      shapeOfMembers (wholeMembers members) = shapeOfMembers members
  | [] => rfl
  | (_, value) :: members => by
      rw [wholeMembers, shapeOfMembers, shapeOfMembers, shape_wholeNumbers value,
        shape_wholeMembers members]

end

/-! ### Numbers -/

/-- What a number may become: itself, or the integer of the same value if it is a double.  Its
exact value is kept, and the double that it is read as, but for the sign of zero. -/
structure Kept (x y : Number) : Prop where
  form : y = x ∨ ∃ (d : Binary binary64) (i : Integer), x = .double d ∧ y = .integer i ∧
    i.value.natAbs < wholeLimit
  value : y.value = x.value
  double : y.toDouble.sameValue x.toDouble = true

theorem kept_self (x : Number) : Kept x x :=
  ⟨Or.inl rfl, rfl, Binary.sameValue_iff.2 rfl⟩

/-- An integer below the limit is equal to a double exactly if it has the same units. -/
theorem value_integer_eq_iff (i : Integer) (d : Binary binary64) :
    (Number.integer i).value = (Number.double d).value ↔
      d.signedUnits = i.value * powTwo binary64.fractionBits := by
  rw [Number.value_eq_div, Number.value_eq_div, div_left_inj' Number.scale_pos.ne', Int.cast_inj]
  exact eq_comm

theorem kept_whole (x : Number) : Kept x x.whole := by
  cases x with
  | integer i => exact kept_self _
  | double d =>
      rw [Number.whole]
      split
      · next hsmall =>
        obtain ⟨hunits, hlt⟩ := Binary.signedUnits_of_isSmallWhole hsmall
        refine ⟨Or.inr ⟨d, _, rfl, rfl, hlt⟩, (value_integer_eq_iff _ d).2 hunits, ?_⟩
        -- an integer below the limit has few enough bits to be exact as a double
        rw [Binary.sameValue_iff, signedUnits_toDouble (Nat.lt_trans hlt (by decide)), ← hunits]
        rfl
      · exact kept_self _

/-- A number in its one form is what it was kept from with a whole double as an integer. -/
theorem eq_whole_of_kept {x y : Number} (h : Kept x y) (hsettled : y.Settled) : y = x.whole := by
  rcases h.form with rfl | ⟨d, i, rfl, rfl, hlt⟩
  · exact (whole_eq_self hsettled).symm
  · have hunits := (value_integer_eq_iff i d).1 h.value
    have hsmall : isSmallWhole d = true := (isSmallWhole_iff d).2 ⟨i.value, hunits, hlt⟩
    have htruncate : d.truncate = i.value := Binary.truncate_of_signedUnits hunits
    rw [Number.whole, dif_pos hsmall]
    simp only [htruncate]

theorem eq_map_whole_of_kept {before after : List Number} (h : List.Forall₂ Kept before after)
    (hsettled : ∀ x ∈ after, x.Settled) : after = before.map Number.whole := by
  induction h with
  | nil => rfl
  | cons hkept _ ih =>
      rw [List.map_cons, ← eq_whole_of_kept hkept (hsettled _ List.mem_cons_self),
        ← ih fun x hx => hsettled x (List.mem_cons_of_mem _ hx)]

/-! ### Values -/

/-- **Writing whole numbers as integers** is the one way to keep the shape of a value and its
numbers and to leave no whole double below the limit. -/
theorem eq_wholeNumbers_iff (value other : Value) :
    other = wholeNumbers value ↔
      other.shape = value.shape ∧ List.Forall₂ Kept value.numbers other.numbers ∧
        ∀ x ∈ other.numbers, x.Settled := by
  constructor
  · rintro rfl
    refine ⟨shape_wholeNumbers value, ?_, fun x => settled_of_mem_wholeNumbers⟩
    rw [numbers_wholeNumbers, List.forall₂_map_right_iff, List.forall₂_same]
    exact fun x _ => kept_whole x
  · rintro ⟨hshape, hkept, hsettled⟩
    apply eq_of_shape_eq
    · rw [hshape, shape_wholeNumbers]
    · rw [numbers_wholeNumbers]
      exact eq_map_whole_of_kept hkept hsettled

end ListingAttributes.Json

namespace ListingAttributes.Record

open Json

/-! ### Records -/

/-- The record of an object is the same with whole numbers as integers, also when it is taken as a
value. -/
theorem ofValue_toValue (record : Record) (hordered : record.toValue.Ordered) :
    ofValue ⟨record.toValue, hordered⟩ = .ok record.whole :=
  ofValue_eq_ok_iff.2 rfl

theorem decode_eq_ok_iff {text : List Char} {record : Record} :
    decode text = .ok record ↔ parse? text = some record.toValue := by
  unfold decode
  split
  · next found hfound =>
    obtain ⟨value, hvalue, hrecord⟩ := Option.bind_eq_some_iff.1 hfound
    rw [parseOrdered?_eq_some_iff.1 hvalue, ofObject?_eq_some_iff.1 hrecord, Except.ok.injEq,
      Option.some.injEq]
    exact ⟨fun h => by rw [h], toValue_injective⟩
  · next hnone =>
    constructor
    · intro h
      cases h
    · intro h
      have hvalue : parseOrdered? text = some ⟨record.toValue, ordered_of_parse? h⟩ :=
        parseOrdered?_eq_some_iff.2 h
      rw [hvalue, Option.bind_some, ofObject?_eq_some_iff.2 rfl] at hnone
      cases hnone

theorem ofText_of_parse? {text : List Char} {record : Record}
    (h : parse? text = some record.toValue) : ofText text = .ok record.whole :=
  ofText_eq_ok_iff.2 ⟨record.toValue, h, rfl⟩

/-- **Nothing is lost when whole numbers become integers.**  The shape of a value stays, each
number keeps its exact value, and the only doubles left are those that are not whole or not below
the limit; this determines the result.  Doing it again changes nothing.  An object makes the same
record as the members it has, as a value, and as any text that is parsed to it. -/
theorem normalization_lossless (value : Value) :
    (∀ other, other = wholeNumbers value ↔
      other.shape = value.shape ∧ List.Forall₂ Kept value.numbers other.numbers ∧
        ∀ x ∈ other.numbers, x.Settled) ∧
      wholeNumbers (wholeNumbers value) = wholeNumbers value ∧
      ∀ record : Record, record.toValue = value →
        record.whole.toValue = wholeNumbers value ∧
          (∀ hordered, ofValue ⟨value, hordered⟩ = .ok record.whole) ∧
          ∀ text, parse? text = some value → ofText text = .ok record.whole := by
  refine ⟨eq_wholeNumbers_iff value, ?_, ?_⟩
  · exact wholeNumbers_eq_self _ fun x hx => settled_of_mem_wholeNumbers hx
  · rintro record rfl
    exact ⟨rfl, ofValue_toValue record, fun text htext => ofText_of_parse? htext⟩

/-- An object with a negative zero, and doubles at the limit and just below it. -/
def limitsText : List Char := "\x7b\"a\":-0.0,\"b\":[9e15,-8.999999999999999e15]\x7d".toList

/-- The text of the record that it makes. -/
def limitsRecordText : List Char :=
  "\x7b\"a\":0,\"b\":[9000000000000000.0,-8999999999999999]\x7d".toList

theorem normalization_lossless_limits :
    ∃ record : Record, parse? limitsText = some record.toValue ∧
      ofText limitsText = .ok record.whole ∧ record.whole.text = limitsRecordText := by
  have hcomputed : (decode limitsText).toOption.any (fun record =>
      decide (record.whole.text = limitsRecordText)) = true := by
    decide +kernel
  obtain ⟨record, hdecode, htext⟩ := exists_ok_of_any hcomputed
  have hparse := decode_eq_ok_iff.1 hdecode
  obtain ⟨-, -, hentries⟩ := normalization_lossless record.toValue
  obtain ⟨-, -, hof⟩ := hentries record rfl
  exact ⟨record, hparse, hof limitsText hparse, of_decide_eq_true htext⟩

end ListingAttributes.Record
