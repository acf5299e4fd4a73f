import ListingAttributes.Json.Reading

/-!
# Values that are read are ordered

An object is built by writing its members one after the other into a map, so the keys of every
object of a value that was read from a text ascend.
-/

namespace ListingAttributes.Json

variable {ν : Type}

theorem orderedMembers_iff (members : List (String × Json ν)) :
    OrderedMembers members ↔ ∀ member ∈ members, member.2.Ordered := by
  induction members with
  | nil => simp [OrderedMembers]
  | cons head rest ih =>
    obtain ⟨key, value⟩ := head
    simp [OrderedMembers, ih]

theorem orderedMembers_insert (key : String) {value : Json ν} {members : List (String × Json ν)}
    (hvalue : value.Ordered) (h : OrderedMembers members) :
    OrderedMembers (insert key value members) := by
  rw [orderedMembers_iff] at h ⊢
  intro member hmem
  rcases mem_insert hmem with heq | hmem
  · rw [heq]; exact hvalue
  · exact h member hmem

theorem orderedMembers_erase (key : String) {members : List (String × Json ν)}
    (h : OrderedMembers members) : OrderedMembers (erase key members) := by
  rw [orderedMembers_iff] at h ⊢
  intro member hmem
  exact h member (List.mem_filter.1 hmem).1

theorem orderedMembers_foldl_insert (entries : List (String × Json ν))
    {members : List (String × Json ν)} (hentries : OrderedMembers entries)
    (h : OrderedMembers members) :
    OrderedMembers
      (entries.foldl (fun members entry => insert entry.1 entry.2 members) members) := by
  induction entries generalizing members with
  | nil => exact h
  | cons entry entries ih =>
    obtain ⟨key, value⟩ := entry
    exact ih hentries.2 (orderedMembers_insert key hentries.1 h)

theorem orderedMembers_ofEntries {entries : List (String × Json ν)}
    (h : OrderedMembers entries) : OrderedMembers (ofEntries entries) :=
  orderedMembers_foldl_insert entries h trivial

mutual

/-- The value of a document is ordered. -/
theorem ordered_of_value? : (document : Document) → {value : Value} →
    document.value? = some value → value.Ordered
  | .null, _, h => by
    simp only [Document.value?, Option.some.injEq] at h
    subst h
    exact trivial
  | .bool _, _, h => by
    simp only [Document.value?, Option.some.injEq] at h
    subst h
    exact trivial
  | .number _, _, h => by
    simp only [Document.value?, Option.map_eq_some_iff] at h
    obtain ⟨_, _, h⟩ := h
    subst h
    exact trivial
  | .string _, _, h => by
    simp only [Document.value?, Option.map_eq_some_iff] at h
    obtain ⟨_, _, h⟩ := h
    subst h
    exact trivial
  | .array items, _, h => by
    simp only [Document.value?, Option.map_eq_some_iff] at h
    obtain ⟨values, hvalues, h⟩ := h
    subst h
    exact orderedItems_of_valuesOf? items hvalues
  | .object members, _, h => by
    simp only [Document.value?, Option.map_eq_some_iff] at h
    obtain ⟨entries, hentries, h⟩ := h
    subst h
    exact ⟨ascending_ofEntries entries,
      orderedMembers_ofEntries (orderedMembers_of_entriesOf? members hentries)⟩

/-- The values of the items of an array are ordered. -/
theorem orderedItems_of_valuesOf? : (items : List Document) → {values : List Value} →
    valuesOf? items = some values → OrderedItems values
  | [], _, h => by
    simp only [valuesOf?, Option.some.injEq] at h
    subst h
    exact trivial
  | item :: items, _, h => by
    simp only [valuesOf?, Option.bind_eq_bind, Option.bind_eq_some_iff, Option.pure_def,
      Option.some.injEq] at h
    obtain ⟨value, hvalue, values, hvalues, h⟩ := h
    subst h
    exact ⟨ordered_of_value? item hvalue, orderedItems_of_valuesOf? items hvalues⟩

/-- The values of the members of an object are ordered. -/
theorem orderedMembers_of_entriesOf? : (members : List (List Piece × Document)) →
    {entries : List (String × Value)} → entriesOf? members = some entries →
    OrderedMembers entries
  | [], _, h => by
    simp only [entriesOf?, Option.some.injEq] at h
    subst h
    exact trivial
  | (key, item) :: members, _, h => by
    simp only [entriesOf?, Option.bind_eq_bind, Option.bind_eq_some_iff, Option.pure_def,
      Option.some.injEq] at h
    obtain ⟨_, _, value, hvalue, entries, hentries, h⟩ := h
    subst h
    exact ⟨ordered_of_value? item hvalue, orderedMembers_of_entriesOf? members hentries⟩

end

/-- The value of a JSON text is ordered. -/
theorem ordered_of_parse? {text : List Char} {value : Value} (h : parse? text = some value) :
    value.Ordered := by
  simp only [parse?, Option.bind_eq_bind, Option.bind_eq_some_iff] at h
  obtain ⟨document, _, h⟩ := h
  split at h
  · exact ordered_of_value? document h
  · exact absurd h (by simp)

/-! ## Ordered values as a type -/

/-- A value all of whose objects list their keys in ascending order. -/
abbrev OrderedValue := { value : Value // value.Ordered }

/-- The ordered value of a JSON text. -/
def parseOrdered? (text : List Char) : Option OrderedValue :=
  match h : parse? text with
  | some value => some ⟨value, ordered_of_parse? h⟩
  | none => none

end ListingAttributes.Json
