import ListingAttributes.Json.Value

/-!
# Members of an object

A list of members in ascending order of keys is a finite map.  Writing keeps the order, replaces
the value of a key that is present and puts a new key in its place.
-/

namespace ListingAttributes.Json

variable {α : Type}

/-- The value of a key. -/
def lookup (key : String) : List (String × α) → Option α
  | [] => none
  | (k, value) :: members => if k = key then some value else lookup key members

/-- Writes a value under a key. -/
def insert (key : String) (value : α) : List (String × α) → List (String × α)
  | [] => [(key, value)]
  | (k, v) :: members =>
    if key < k then (key, value) :: (k, v) :: members
    else if key = k then (key, value) :: members
    else (k, v) :: insert key value members

/-- Removes a key. -/
def erase (key : String) (members : List (String × α)) : List (String × α) :=
  members.filter fun member => !(member.1 == key)

/-- The map that holds the last value written under each key. -/
def ofEntries (entries : List (String × α)) : List (String × α) :=
  entries.foldl (fun members entry => insert entry.1 entry.2 members) []

/-! ## Order -/

theorem mem_insert {key : String} {value : α} {members : List (String × α)}
    {member : String × α} (h : member ∈ insert key value members) :
    member = (key, value) ∨ member ∈ members := by
  induction members with
  | nil => simpa [insert] using h
  | cons head rest ih =>
    obtain ⟨k, v⟩ := head
    unfold insert at h
    split at h
    · simpa using h
    · split at h
      · rcases List.mem_cons.1 h with h | h
        · exact Or.inl h
        · exact Or.inr (List.mem_cons_of_mem _ h)
      · rcases List.mem_cons.1 h with h | h
        · exact Or.inr (h ▸ List.mem_cons_self)
        · rcases ih h with h | h
          · exact Or.inl h
          · exact Or.inr (List.mem_cons_of_mem _ h)

theorem key_lt_trans {a b c : String} (hab : a < b) (hbc : b < c) : a < c :=
  String.lt_trans hab hbc

theorem key_lt_of_not {a b : String} (hlt : ¬ a < b) (hne : a ≠ b) : b < a := by
  rcases Decidable.em (b < a) with h | h
  · exact h
  · exact absurd (String.le_antisymm (String.not_lt.1 h) (String.not_lt.1 hlt)) hne

/-- Writing keeps the keys in ascending order. -/
theorem ascending_insert (key : String) (value : α) {members : List (String × α)}
    (h : Ascending members) : Ascending (insert key value members) := by
  induction members with
  | nil => simp [insert, Ascending]
  | cons head rest ih =>
    obtain ⟨k, v⟩ := head
    obtain ⟨hhead, hrest⟩ := List.pairwise_cons.1 h
    unfold insert
    split
    · next hlt =>
      refine List.pairwise_cons.2 ⟨?_, h⟩
      intro member hmem
      rcases List.mem_cons.1 hmem with heq | hmem
      · rw [heq]; exact hlt
      · exact key_lt_trans hlt (hhead member hmem)
    · next hnlt =>
      split
      · next heq =>
        subst heq
        exact List.pairwise_cons.2 ⟨hhead, hrest⟩
      · next hne =>
        refine List.pairwise_cons.2 ⟨?_, ih hrest⟩
        intro member hmem
        rcases mem_insert hmem with heq | hmem
        · rw [heq]; exact key_lt_of_not hnlt hne
        · exact hhead member hmem

theorem ascending_erase (key : String) {members : List (String × α)} (h : Ascending members) :
    Ascending (erase key members) :=
  h.filter _

theorem ascending_foldl_insert (entries : List (String × α)) {members : List (String × α)}
    (h : Ascending members) :
    Ascending (entries.foldl (fun members entry => insert entry.1 entry.2 members) members) := by
  induction entries generalizing members with
  | nil => exact h
  | cons entry entries ih => exact ih (ascending_insert _ _ h)

/-- The map of a list of entries has its keys in ascending order. -/
theorem ascending_ofEntries (entries : List (String × α)) : Ascending (ofEntries entries) :=
  ascending_foldl_insert entries List.Pairwise.nil

end ListingAttributes.Json
