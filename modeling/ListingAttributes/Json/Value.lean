import ListingAttributes.Numeric.Notation

/-!
# JSON values

`Json ν` is a JSON value whose numbers are of type `ν`.  The values of a record hold
`Json.Number`: an integer of the range that signed and unsigned words share, or a finite double.
An integer and a double of the same value are different values.

Objects list their members; `Json.Ordered` says that every object, at every depth, has its keys
in strictly ascending order of code points, which makes equality of values the equality of trees.
-/

namespace ListingAttributes

/-- A JSON value over a type of numbers. -/
inductive Json (ν : Type) where
  | null
  | bool (value : Bool)
  | number (value : ν)
  | string (text : String)
  | array (items : List (Json ν))
  | object (members : List (String × Json ν))

namespace Json

/-! ## Numbers -/

/-- An integer that fits a signed or an unsigned word of 64 bits. -/
structure Integer where
  value : Int
  lower : -9223372036854775808 ≤ value
  upper : value < 18446744073709551616
  deriving DecidableEq

/-- A number of a JSON value. -/
inductive Number where
  | integer (value : Integer)
  | double (value : Numeric.Binary Numeric.binary64)
  deriving DecidableEq

/-- A JSON value with its own numbers. -/
abbrev Value := Json Number

/-- An integer, if it is in range. -/
def Integer.ofInt? (i : Int) : Option Integer :=
  if h : -9223372036854775808 ≤ i ∧ i < 18446744073709551616 then some ⟨i, h.1, h.2⟩ else none

/-- A small natural number as an integer. -/
def Integer.ofNat (n : Nat) (h : n < 18446744073709551616 := by decide) : Integer :=
  ⟨n, by omega, by omega⟩

/-- The double nearest to a number; an integer of the range is never beyond that of a double. -/
def Number.toDouble : Number → Numeric.Binary Numeric.binary64
  | integer i => (Numeric.Binary.ofInt? i.value).getD (Numeric.Binary.zero false)
  | double x => x

/-- The decimal text of an integer. -/
def intText (i : Int) : List Char :=
  if i < 0 then '-' :: Numeric.digitsOf i.natAbs else Numeric.digitsOf i.natAbs

/-- The JSON text of a number. -/
def Number.text : Number → List Char
  | integer i => intText i.value
  | double x => x.text Numeric.jsonStyle

/-! ## Kinds and views -/

variable {ν : Type}

/-- The name of a value's kind. -/
def kind : Json ν → String
  | null => "null"
  | bool _ => "boolean"
  | number _ => "number"
  | string _ => "string"
  | array _ => "array"
  | object _ => "object"

/-- Whether a value is null. -/
def isNull : Json ν → Bool
  | null => true
  | _ => false

/-! ## Equality -/

section Decide

variable [DecidableEq ν]

mutual

/-- Decides equality of two values. -/
def decEq : (a b : Json ν) → Decidable (a = b)
  | null, null => isTrue rfl
  | bool a, bool b => decidable_of_iff (a = b) (by simp)
  | number a, number b => decidable_of_iff (a = b) (by simp)
  | string a, string b => decidable_of_iff (a = b) (by simp)
  | array a, array b =>
    match decEqItems a b with
    | isTrue h => isTrue (by rw [h])
    | isFalse h => isFalse (by simpa using h)
  | object a, object b =>
    match decEqMembers a b with
    | isTrue h => isTrue (by rw [h])
    | isFalse h => isFalse (by simpa using h)
  | null, bool _ | null, number _ | null, string _ | null, array _ | null, object _
  | bool _, null | bool _, number _ | bool _, string _ | bool _, array _ | bool _, object _
  | number _, null | number _, bool _ | number _, string _ | number _, array _
  | number _, object _
  | string _, null | string _, bool _ | string _, number _ | string _, array _
  | string _, object _
  | array _, null | array _, bool _ | array _, number _ | array _, string _ | array _, object _
  | object _, null | object _, bool _ | object _, number _ | object _, string _
  | object _, array _ => isFalse (by simp)

/-- Decides equality of two lists of values. -/
def decEqItems : (a b : List (Json ν)) → Decidable (a = b)
  | [], [] => isTrue rfl
  | [], _ :: _ | _ :: _, [] => isFalse (by simp)
  | a :: as, b :: bs =>
    match decEq a b, decEqItems as bs with
    | isTrue h, isTrue t => isTrue (by rw [h, t])
    | isFalse h, _ => isFalse (by simp [h])
    | _, isFalse t => isFalse (by simp [t])

/-- Decides equality of two lists of members. -/
def decEqMembers : (a b : List (String × Json ν)) → Decidable (a = b)
  | [], [] => isTrue rfl
  | [], _ :: _ | _ :: _, [] => isFalse (by simp)
  | (k, a) :: as, (l, b) :: bs =>
    match decEq a b, decEqMembers as bs with
    | isTrue h, isTrue t =>
      if hk : k = l then isTrue (by rw [hk, h, t]) else isFalse (by simp [hk])
    | isFalse h, _ => isFalse (by simp [h])
    | _, isFalse t => isFalse (by simp [t])

end

instance : DecidableEq (Json ν) := decEq

end Decide

/-! ## Ordered objects -/

/-- Keys in strictly ascending order of code points. -/
def Ascending {α : Type} (members : List (String × α)) : Prop :=
  members.Pairwise fun a b => a.1 < b.1

mutual

/-- Every object of a value lists its keys in ascending order. -/
def Ordered : Json ν → Prop
  | array items => OrderedItems items
  | object members => Ascending members ∧ OrderedMembers members
  | _ => True

/-- Every item is ordered. -/
def OrderedItems : List (Json ν) → Prop
  | [] => True
  | item :: items => item.Ordered ∧ OrderedItems items

/-- Every member's value is ordered. -/
def OrderedMembers : List (String × Json ν) → Prop
  | [] => True
  | (_, value) :: members => value.Ordered ∧ OrderedMembers members

end

end Json

end ListingAttributes
