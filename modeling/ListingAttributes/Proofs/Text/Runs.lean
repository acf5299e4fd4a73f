/-!
# Runs of characters

The run of characters of a class that a text starts with ends where the text
ends or where a character of another class stands, and nothing else is known
of what follows (`takeWhile_eq_iff`).
-/

namespace ListingAttributes.Text

variable {p : Char → Bool} {front rest text : List Char}

theorem takeWhile_append_of_stop (hfront : ∀ c ∈ front, p c = true)
    (hrest : ∀ c ∈ rest.head?, p c = false) : (front ++ rest).takeWhile p = front := by
  rw [List.takeWhile_append_of_pos hfront]
  cases rest with
  | nil => simp
  | cons c rest => simp [hrest c rfl]

theorem dropWhile_append_of_stop (hfront : ∀ c ∈ front, p c = true)
    (hrest : ∀ c ∈ rest.head?, p c = false) : (front ++ rest).dropWhile p = rest := by
  rw [List.dropWhile_append_of_pos hfront]
  cases rest with
  | nil => rfl
  | cons c rest => simp [hrest c rfl]

/-- Behind a run stands no character of its class. -/
theorem head?_dropWhile (p : Char → Bool) (text : List Char) :
    ∀ c ∈ (text.dropWhile p).head?, p c = false := by
  intro c hc
  have hstop := List.head?_dropWhile_not p text
  rw [Option.mem_def.1 hc] at hstop
  exact hstop

/-- **The run at the start of a text**, by what it holds and by what may follow it. -/
theorem takeWhile_eq_iff : text.takeWhile p = front ↔
    ∃ rest, text = front ++ rest ∧ (∀ c ∈ front, p c = true) ∧
      ∀ c ∈ rest.head?, p c = false := by
  constructor
  · rintro rfl
    exact ⟨text.dropWhile p, List.takeWhile_append_dropWhile.symm,
      List.all_eq_true.1 List.all_takeWhile, head?_dropWhile p text⟩
  · rintro ⟨rest, rfl, hfront, hrest⟩
    exact takeWhile_append_of_stop hfront hrest

end ListingAttributes.Text
