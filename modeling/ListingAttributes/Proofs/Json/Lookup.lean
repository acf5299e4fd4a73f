import ListingAttributes.Json.Members

/-!
# What a list of members says about its keys

A list of members in ascending order of keys is determined by the value of each
key (`eq_of_lookup_eq`), so a law about writing needs only to say what is found
afterwards.

* `lookup_insert`: writing a key changes what is found under that key and
  nothing else;
* `insert_of_lookup`: writing the value that a key has changes nothing;
* `lookup_erase`: removing a key removes what is found under that key and nothing
  else;
* `ofEntries_of_ascending`: a list in ascending order is the map that is made
  by writing its own members one after the other.
-/

namespace ListingAttributes.Json

variable {α : Type}

/-! ### Keys of an ascending list -/

theorem lookup_cons_self (key : String) (value : α) (members : List (String × α)) :
    lookup key ((key, value) :: members) = some value := by
  simp [lookup]

theorem mem_of_lookup {key : String} {value : α} {members : List (String × α)}
    (h : lookup key members = some value) : (key, value) ∈ members := by
  induction members with
  | nil => simp [lookup] at h
  | cons head rest ih =>
      obtain ⟨k, v⟩ := head
      by_cases hk : k = key
      · subst hk
        simp only [lookup, if_true, Option.some.injEq] at h
        rw [h]
        exact List.mem_cons_self
      · simp only [lookup, if_neg hk] at h
        exact List.mem_cons_of_mem _ (ih h)

theorem lookup_eq_none_iff {key : String} {members : List (String × α)} :
    lookup key members = none ↔ key ∉ members.map Prod.fst := by
  induction members with
  | nil => simp [lookup]
  | cons head rest ih =>
      obtain ⟨k, v⟩ := head
      by_cases hk : k = key
      · simp [lookup, hk]
      · simp [lookup, hk, Ne.symm hk, ih]

@[simp] theorem lookup_append (key : String) (front back : List (String × α)) :
    lookup key (front ++ back) = (lookup key front).or (lookup key back) := by
  induction front with
  | nil => rfl
  | cons member front ih =>
      rw [List.cons_append, lookup, lookup, ih]
      split <;> rfl

/-- A map of values is looked up value by value. -/
theorem lookup_map {β : Type} (f : String → α → β) (key : String) (members : List (String × α)) :
    lookup key (members.map fun member => (member.1, f member.1 member.2)) =
      (lookup key members).map (f key) := by
  induction members with
  | nil => rfl
  | cons head rest ih =>
      obtain ⟨k, v⟩ := head
      by_cases hk : k = key
      · subst hk
        simp [lookup]
      · simp [lookup, hk, ih]

/-- A key that is kept is found as before. -/
theorem lookup_filter {key : String} {keep : String → Bool} (h : keep key = true)
    (members : List (String × α)) :
    lookup key (members.filter fun member => keep member.1) = lookup key members := by
  induction members with
  | nil => rfl
  | cons head rest ih =>
      obtain ⟨k, v⟩ := head
      by_cases hk : k = key
      · subst hk
        simp [h, lookup]
      · rw [List.filter_cons]
        split
        · simp [lookup, hk, ih]
        · simp [lookup, hk, ih]

/-- A key below all keys of a list is not found. -/
theorem lookup_eq_none_of_lt {key : String} {members : List (String × α)}
    (h : ∀ member ∈ members, key < member.1) : lookup key members = none := by
  rw [Option.eq_none_iff_forall_not_mem]
  intro value hvalue
  exact String.lt_irrefl key (h _ (mem_of_lookup hvalue))

/-- A key below the first of an ascending list is not found. -/
theorem lookup_eq_none_of_lt_head {key k : String} {v : α} {rest : List (String × α)}
    (h : Ascending ((k, v) :: rest)) (hlt : key < k) : lookup key ((k, v) :: rest) = none := by
  apply lookup_eq_none_of_lt
  intro member hmem
  rcases List.mem_cons.1 hmem with rfl | hmem
  · exact hlt
  · exact key_lt_trans hlt ((List.pairwise_cons.1 h).1 member hmem)

/-- **Ascending lists are maps.**  Two of them with the same value for each key
are the same list. -/
theorem eq_of_lookup_eq {first second : List (String × α)} (hfirst : Ascending first)
    (hsecond : Ascending second) (h : ∀ key, lookup key first = lookup key second) :
    first = second := by
  induction first generalizing second with
  | nil =>
      cases second with
      | nil => rfl
      | cons head rest => simpa [lookup] using h head.1
  | cons head rest ih =>
      obtain ⟨k, v⟩ := head
      obtain ⟨hk, hrest⟩ := List.pairwise_cons.1 hfirst
      cases second with
      | nil => simpa [lookup] using h k
      | cons head' rest' =>
          obtain ⟨l, w⟩ := head'
          obtain ⟨hl, hrest'⟩ := List.pairwise_cons.1 hsecond
          -- the least keys agree: neither may be missing from the other list
          have hkl : k = l := by
            apply Decidable.byContradiction
            intro hne
            rcases Decidable.em (k < l) with hlt | hnlt
            · have hnone := lookup_eq_none_of_lt_head hsecond hlt
              rw [← h k, lookup_cons_self] at hnone
              exact absurd hnone (Option.some_ne_none v)
            · have hnone := lookup_eq_none_of_lt_head hfirst (key_lt_of_not hnlt hne)
              rw [h l, lookup_cons_self] at hnone
              exact absurd hnone (Option.some_ne_none w)
          subst hkl
          have hvw : v = w := by simpa [lookup] using h k
          have htail : rest = rest' := by
            apply ih hrest hrest'
            intro key
            by_cases hkey : k = key
            · subst hkey
              rw [lookup_eq_none_of_lt hk, lookup_eq_none_of_lt hl]
            · simpa [lookup, hkey] using h key
          rw [hvw, htail]

/-! ### Writing -/

/-- Writing a key changes what is found under that key and nothing else. -/
theorem lookup_insert (key written : String) (value : α) (members : List (String × α)) :
    lookup key (insert written value members) =
      if written = key then some value else lookup key members := by
  induction members with
  | nil => simp [insert, lookup]
  | cons head rest ih =>
      obtain ⟨k, v⟩ := head
      unfold insert
      -- the key is written before the first member, in its place or behind it
      split
      · simp [lookup]
      · split
        · next heq =>
          subst heq
          simp only [lookup]
          split <;> rfl
        · next hne =>
          simp only [lookup, ih]
          by_cases hk : k = key
          · subst hk
            simp [hne]
          · simp [hk]

/-- Writing the value that a key has changes nothing. -/
theorem insert_of_lookup {key : String} {value : α} {members : List (String × α)}
    (hascending : Ascending members) (h : lookup key members = some value) :
    insert key value members = members := by
  apply eq_of_lookup_eq (ascending_insert key value hascending) hascending
  intro other
  rw [lookup_insert]
  split
  · next heq => rw [← heq, h]
  · rfl

/-- Removing a key removes what is found under that key and nothing else. -/
theorem lookup_erase (key erased : String) (members : List (String × α)) :
    lookup key (erase erased members) = if erased = key then none else lookup key members := by
  induction members with
  | nil => simp [erase, lookup]
  | cons head rest ih =>
      obtain ⟨k, v⟩ := head
      unfold erase at ih ⊢
      by_cases hk : k = erased
      · subst hk
        rw [List.filter_cons_of_neg (by simp), ih]
        by_cases hkey : k = key
        · simp [hkey]
        · simp [lookup, hkey]
      · rw [List.filter_cons_of_pos (by simpa using hk)]
        simp only [lookup, ih]
        by_cases hkey : k = key
        · subst hkey
          simp [Ne.symm hk]
        · simp [hkey]

/-- A key above all others is written at the end. -/
theorem insert_of_forall_lt {key : String} (value : α) {members : List (String × α)}
    (h : ∀ member ∈ members, member.1 < key) :
    insert key value members = members ++ [(key, value)] := by
  induction members with
  | nil => rfl
  | cons head rest ih =>
      obtain ⟨k, v⟩ := head
      have hlt : k < key := h (k, v) List.mem_cons_self
      have hne : key ≠ k := fun heq => String.lt_irrefl k (heq ▸ hlt)
      rw [insert, if_neg (String.lt_asymm hlt), if_neg hne,
        ih fun member hmem => h member (List.mem_cons_of_mem _ hmem)]
      rfl

theorem foldl_insert_of_ascending (entries : List (String × α)) {members : List (String × α)}
    (h : Ascending (members ++ entries)) :
    entries.foldl (fun members entry => insert entry.1 entry.2 members) members =
      members ++ entries := by
  induction entries generalizing members with
  | nil => simp
  | cons entry entries ih =>
      obtain ⟨key, value⟩ := entry
      have hlast : ∀ member ∈ members, member.1 < key := fun member hmem =>
        (List.pairwise_append.1 h).2.2 member hmem (key, value) List.mem_cons_self
      rw [List.append_cons] at h
      rw [List.foldl_cons, insert_of_forall_lt value hlast, ih h, ← List.append_cons]

/-- An ascending list is the map of its own members. -/
theorem ofEntries_of_ascending {entries : List (String × α)} (h : Ascending entries) :
    ofEntries entries = entries :=
  foldl_insert_of_ascending entries h

end ListingAttributes.Json
