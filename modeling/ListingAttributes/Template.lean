/-!
# Templates

A template is a text with placeholders, each a name between double braces.  It is filled in one
pass from left to right: a placeholder opens at the first pair of braces and ends at the first
closing pair after it, and a pair that is never closed belongs to the text.  What is put in for a
placeholder is not looked at again, so that braces inside a value have no effect.
-/

namespace ListingAttributes.Template

/-- The pair of braces that opens a placeholder. -/
def opening : List Char := ['\x7b', '\x7b']

/-- The pair of braces that closes a placeholder. -/
def closing : List Char := ['\x7d', '\x7d']

/-- What stands before and what stands behind the first occurrence of a needle in a text. -/
def around? (needle : List Char) : List Char → Option (List Char × List Char)
  | [] => if needle.isEmpty then some ([], []) else none
  | c :: text =>
    if needle.isPrefixOf (c :: text) then some ([], (c :: text).drop needle.length)
    else (around? needle text).map fun (before, after) => (c :: before, after)

theorem eq_of_around? {needle text before after : List Char}
    (h : around? needle text = some (before, after)) : text = before ++ needle ++ after := by
  induction text generalizing before with
  | nil =>
      rw [around?] at h
      split at h
      · next hempty =>
        cases h
        rw [List.isEmpty_iff.1 hempty]
        rfl
      · cases h
  | cons c text ih =>
      rw [around?] at h
      split at h
      · next hstarts =>
        obtain ⟨rest, hrest⟩ := List.isPrefixOf_iff_prefix.1 hstarts
        cases h
        rw [← hrest, List.drop_left]
        rfl
      · obtain ⟨⟨front, rest⟩, hrest, h⟩ := Option.map_eq_some_iff.1 h
        cases h
        rw [ih hrest]
        rfl

/-- What a placeholder becomes: the first value under its name, or the placeholder as it is if there
is none. -/
def replacement (values : List (List Char × List Char)) (name : List Char) : List Char :=
  match values.find? fun entry => entry.1 == name with
  | some entry => entry.2
  | none => opening ++ name ++ closing

/-- A template with its placeholders replaced. -/
def fill (template : List Char) (values : List (List Char × List Char)) : List Char :=
  match _hopening : around? opening template with
  | none => template
  | some (before, inside) =>
    match _hclosing : around? closing inside with
    | some (name, rest) => before ++ replacement values name ++ fill rest values
    | none => before ++ opening ++ inside
termination_by template.length
decreasing_by
  rw [eq_of_around? _hopening, eq_of_around? _hclosing]
  simp only [List.length_append, opening, closing, List.length_cons]
  omega

end ListingAttributes.Template
