import ListingAttributes.Proofs.Json.RoundTrip

/-!
# The text of a value is the text of no other

Values with the same text are equal, whatever their numbers are, as long as the
texts of the numbers are `Faithful`.  More than that, the text of a value ends
where it ends by itself: two texts that start with values and go on in any way
start with the same value (`unique_value`).  The first character says what kind
of value it is (`sameKind_of_texts`), and the rest is by recursion over the value.
-/

namespace ListingAttributes.Json

open Numeric Text

variable {ν : Type} {numberText : ν → List Char}

/-- Texts of numbers that are different for different numbers and that look like numbers. -/
structure Faithful (numberText : ν → List Char) : Prop where
  injective : ∀ {x y : ν}, numberText x = numberText y → x = y
  ne_nil : ∀ x, numberText x ≠ []
  plain : ∀ x, ∀ c ∈ numberText x, isNumberChar c = true

/-! ### First characters -/

/-- The characters that the text of a value of this kind can start with. -/
def Leads : Json ν → Char → Prop
  | .null, c => c = 'n'
  | .bool true, c => c = 't'
  | .bool false, c => c = 'f'
  | .number _, c => isNumberChar c = true
  | .string _, c => c = '"'
  | .array _, c => c = '['
  | .object _, c => c = '\x7b'

theorem exists_leads (h : Faithful numberText) (value : Json ν) :
    ∃ c tail, textWith numberText value = c :: tail ∧ value.Leads c := by
  match value with
  | .null | .bool true | .bool false | .array [] | .object [] => exact ⟨_, _, rfl, rfl⟩
  | .string text => exact ⟨_, _, rfl, rfl⟩
  | .array (item :: items) => exact ⟨_, _, rfl, rfl⟩
  | .object ((key, value) :: members) => exact ⟨_, _, rfl, rfl⟩
  | .number x =>
      obtain ⟨c, tail, htext⟩ := List.exists_cons_of_ne_nil (h.ne_nil x)
      exact ⟨c, tail, htext, h.plain x c (by rw [htext]; exact List.mem_cons_self)⟩

theorem not_leads_closing (value : Json ν) : ¬ value.Leads ']' := by
  rcases value with _ | (_ | _) | _ | _ | _ | _ <;> simp only [Leads] <;> decide

/-- Two values of one kind; the values without parts are equal. -/
inductive SameKind : Json ν → Json ν → Prop where
  | null : SameKind .null .null
  | bool (b : Bool) : SameKind (.bool b) (.bool b)
  | number (x y : ν) : SameKind (.number x) (.number y)
  | string (a b : String) : SameKind (.string a) (.string b)
  | array (items others : List (Json ν)) : SameKind (.array items) (.array others)
  | object (members others : List (String × Json ν)) : SameKind (.object members) (.object others)

theorem sameKind_of_leads {a b : Json ν} {c : Char} (ha : a.Leads c) (hb : b.Leads c) :
    SameKind a b := by
  rcases a with _ | (_ | _) | _ | _ | _ | _ <;> rcases b with _ | (_ | _) | _ | _ | _ | _
  all_goals first
    | constructor
    | (simp only [Leads] at ha hb
       subst_vars
       exact absurd ‹_› (by decide))

/-- Values whose texts start with the same character are of one kind. -/
theorem sameKind_of_texts (h : Faithful numberText) {a b : Json ν} {rest other : List Char}
    (htexts : textWith numberText a ++ rest = textWith numberText b ++ other) : SameKind a b := by
  obtain ⟨c, front, ha, hleads⟩ := exists_leads h a
  obtain ⟨d, tail, hb, hleads'⟩ := exists_leads h b
  rw [ha, hb, List.cons_append, List.cons_append] at htexts
  rw [← (List.cons.inj htexts).1] at hleads'
  exact sameKind_of_leads hleads hleads'

/-! ### Tokens -/

theorem unique_string {a b : String} {rest other : List Char}
    (htexts : stringText a ++ rest = stringText b ++ other) : a = b ∧ rest = other := by
  rw [stringText_append, stringText_append, List.cons.injEq] at htexts
  obtain ⟨pieces, hread, htext⟩ := readString_literal a rest
  obtain ⟨pieces', hread', htext'⟩ := readString_literal b other
  rw [htexts.2, hread', Option.some.injEq, Prod.mk.injEq] at hread
  rw [← hread.1, htext', Option.some.injEq] at htext
  exact ⟨htext.symm, hread.2.symm⟩

theorem unique_number (h : Faithful numberText) {x y : ν} {rest other : List Char}
    (hrest : StartsNoNumber rest) (hother : StartsNoNumber other)
    (htexts : numberText x ++ rest = numberText y ++ other) : x = y ∧ rest = other := by
  have hrun : numberText x = numberText y := by
    rw [← takeWhile_append_of_stop (h.plain x) fun c hc => (hrest c hc).1,
      ← takeWhile_append_of_stop (h.plain y) fun c hc => (hother c hc).1, htexts]
  rw [hrun] at htexts
  exact ⟨h.injective hrun, List.append_cancel_left htexts⟩

/-! ### Values -/

/-- The items of an array are written as those that follow a first one, up to the first character. -/
theorem itemsText_of_array (h : Faithful numberText) {items others : List (Json ν)}
    {rest other : List Char}
    (htexts : textWith numberText (.array items) ++ rest =
      textWith numberText (.array others) ++ other) :
    itemsText numberText items ++ rest = itemsText numberText others ++ other := by
  -- no item starts with the bracket that closes an array without items
  have hne : ∀ (value : Json ν) (tail front rest : List Char),
      ']' :: rest ≠ textWith numberText value ++ tail ++ front := by
    intro value tail front rest heq
    obtain ⟨c, after, htext, hleads⟩ := exists_leads h value
    rw [htext] at heq
    rw [← (List.cons.inj heq).1] at hleads
    exact not_leads_closing value hleads
  cases items with
  | nil =>
      cases others with
      | nil => exact (List.cons.inj htexts).2
      | cons value others => exact absurd (List.cons.inj htexts).2 (hne value _ _ rest)
  | cons item items =>
      cases others with
      | nil => exact absurd (List.cons.inj htexts).2.symm (hne item _ _ other)
      | cons value others => exact congrArg (',' :: ·) (List.cons.inj htexts).2

/-- The members of an object are written as those that follow a first one, up to the first
character. -/
theorem membersText_of_object {members others : List (String × Json ν)} {rest other : List Char}
    (htexts : textWith numberText (.object members) ++ rest =
      textWith numberText (.object others) ++ other) :
    membersText numberText members ++ rest = membersText numberText others ++ other := by
  rcases members with _ | ⟨⟨key, value⟩, members⟩ <;>
    rcases others with _ | ⟨⟨otherKey, otherValue⟩, others⟩
  · exact (List.cons.inj htexts).2
  · exact absurd (List.cons.inj (List.cons.inj htexts).2).1 (by decide)
  · exact absurd (List.cons.inj (List.cons.inj htexts).2).1 (by decide)
  · exact congrArg (',' :: ·) (List.cons.inj htexts).2

mutual

/-- **The text of a value** is the text of no other, and no text of a value goes on as another. -/
theorem unique_value (h : Faithful numberText) : (a : Json ν) → ∀ {b : Json ν}
    {rest other : List Char}, StartsNoNumber rest → StartsNoNumber other →
    textWith numberText a ++ rest = textWith numberText b ++ other → a = b ∧ rest = other
  | .null, _, _, _, _, _, htexts => by
      cases sameKind_of_texts h htexts
      exact ⟨rfl, List.append_cancel_left htexts⟩
  | .bool _, _, _, _, _, _, htexts => by
      cases sameKind_of_texts h htexts
      exact ⟨rfl, List.append_cancel_left htexts⟩
  | .number x, _, _, _, hrest, hother, htexts => by
      cases sameKind_of_texts h htexts with
      | number _ y =>
          obtain ⟨rfl, rfl⟩ := unique_number h hrest hother htexts
          exact ⟨rfl, rfl⟩
  | .string text, _, _, _, _, _, htexts => by
      cases sameKind_of_texts h htexts with
      | string _ other =>
          obtain ⟨rfl, rfl⟩ := unique_string htexts
          exact ⟨rfl, rfl⟩
  | .array items, _, _, _, _, _, htexts => by
      cases sameKind_of_texts h htexts with
      | array _ others =>
          obtain ⟨rfl, rfl⟩ := unique_items h items (itemsText_of_array h htexts)
          exact ⟨rfl, rfl⟩
  | .object members, _, _, _, _, _, htexts => by
      cases sameKind_of_texts h htexts with
      | object _ others =>
          obtain ⟨rfl, rfl⟩ := unique_members h members (membersText_of_object htexts)
          exact ⟨rfl, rfl⟩

theorem unique_items (h : Faithful numberText) : (items : List (Json ν)) →
    ∀ {others : List (Json ν)} {rest other : List Char},
    itemsText numberText items ++ rest = itemsText numberText others ++ other →
      items = others ∧ rest = other
  | [], [], _, _, htexts => ⟨rfl, List.append_cancel_left htexts⟩
  | [], _ :: _, _, _, htexts => absurd (List.cons.inj htexts).1 (by decide)
  | _ :: _, [], _, _, htexts => absurd (List.cons.inj htexts).1 (by decide)
  | item :: items, value :: others, rest, other, htexts => by
      rw [itemsText, itemsText] at htexts
      simp only [List.cons_append, List.append_assoc, List.cons.injEq, true_and] at htexts
      obtain ⟨rfl, htail⟩ := unique_value h item (startsNoNumber_itemsText items rest)
        (startsNoNumber_itemsText others other) htexts
      obtain ⟨rfl, rfl⟩ := unique_items h items htail
      exact ⟨rfl, rfl⟩

theorem unique_members (h : Faithful numberText) : (members : List (String × Json ν)) →
    ∀ {others : List (String × Json ν)} {rest other : List Char},
    membersText numberText members ++ rest = membersText numberText others ++ other →
      members = others ∧ rest = other
  | [], [], _, _, htexts => ⟨rfl, List.append_cancel_left htexts⟩
  | [], (_, _) :: _, _, _, htexts => absurd (List.cons.inj htexts).1 (by decide)
  | (_, _) :: _, [], _, _, htexts => absurd (List.cons.inj htexts).1 (by decide)
  | (key, value) :: members, (otherKey, otherValue) :: others, rest, other, htexts => by
      rw [membersText, membersText] at htexts
      simp only [List.cons_append, List.append_assoc, List.cons.injEq, true_and] at htexts
      obtain ⟨rfl, hvalue⟩ := unique_string htexts
      obtain ⟨rfl, htail⟩ := unique_value h value (startsNoNumber_membersText members rest)
        (startsNoNumber_membersText others other) (List.cons.inj hvalue).2
      obtain ⟨rfl, rfl⟩ := unique_members h members htail
      exact ⟨rfl, rfl⟩

end

/-- **Different values have different texts.** -/
theorem textWith_injective (h : Faithful numberText) {a b : Json ν}
    (htexts : textWith numberText a = textWith numberText b) : a = b :=
  (unique_value h a startsNoNumber_nil startsNoNumber_nil (congrArg (· ++ []) htexts)).1

end ListingAttributes.Json
