import ListingAttributes.Proofs.Records.Fields
import ListingAttributes.Proofs.Records.CodeBlocks

/-!
# Replies that carry a record

The text of a record starts and ends with a brace, so trimming leaves it alone
and it is not taken for a code block.  Put into a block whose first line is a
fence with a tag, it is what the block is unwrapped to.
Either way the reply is parsed as the text itself would be (`parse_carried`).
-/

namespace ListingAttributes.Reply

open Text

/-! ### Blocks -/

/-- A text in a code block whose opening fence has a tag. -/
def fenced (tag text : List Char) : List Char :=
  fence ++ tag ++ '\n' :: (text ++ '\n' :: fence)

/-- The tag of a block of JSON. -/
def jsonTag : List Char := ['j', 's', 'o', 'n']

theorem wraps_fenced {tag : List Char} (htag : '\n' ∉ tag) (text : List Char) :
    Wraps text (fenced tag text) := by
  have hmargin : ∀ c ∈ ['\n'], isBlank c = true := List.all_eq_true.1 rfl
  have hblock : Wraps text ([] ++ (fence ++ (tag ++ '\n' :: (text ++ ['\n'] ++ fence))) ++ []) :=
    .block (List.forall_mem_nil _) htag hmargin (List.forall_mem_nil _)
  simpa [fenced] using hblock

/-! ### The text of a record -/

theorem membersText_ends (members : List (String × Json.Value)) :
    ∃ front, Json.membersText Json.Number.text members = front ++ ['\x7d'] := by
  induction members with
  | nil => exact ⟨[], rfl⟩
  | cons member members ih =>
      obtain ⟨key, value⟩ := member
      obtain ⟨front, hfront⟩ := ih
      rw [Json.membersText, hfront]
      exact ⟨_, (List.append_assoc _ _ _).symm⟩

/-- The text of a record stands between braces. -/
theorem text_braces (record : Record) :
    ∃ middle, record.text = '\x7b' :: middle ++ ['\x7d'] := by
  unfold Record.text Record.toValue Json.Value.text
  cases record.members with
  | nil => exact ⟨[], by rw [Json.textWith]; rfl⟩
  | cons member members =>
      obtain ⟨key, value⟩ := member
      obtain ⟨front, hfront⟩ := membersText_ends members
      rw [Json.textWith, hfront]
      exact ⟨Json.stringText key ++ ':' :: (Json.textWith Json.Number.text value ++ front),
        by simp⟩

/-- A reply that carries the text of a record, bare or in a block of JSON. -/
def Carries (reply : List Char) (record : Record) : Prop :=
  reply = record.text ∨ reply = fenced jsonTag record.text

theorem wraps_carried {reply : List Char} {record : Record} (h : Carries reply record) :
    Wraps record.text reply := by
  rcases h with rfl | rfl
  · have hbare : Wraps record.text ([] ++ record.text ++ []) :=
      .bare (List.forall_mem_nil _) (List.forall_mem_nil _)
    simpa using hbare
  · exact wraps_fenced (by decide) record.text

theorem payload?_carried {reply : List Char} {record : Record} (h : Carries reply record) :
    payload? reply = some record.text := by
  obtain ⟨middle, hbraces⟩ := text_braces record
  have htrim : trim record.text = record.text := by
    rw [hbraces]
    exact trim_eq_self (by decide) (by decide)
  have hpresent : trim record.text ≠ [] := by
    rw [htrim, hbraces]
    simp
  have hfence : ¬ fence <+: trim record.text := by
    rw [htrim, hbraces]
    simp [fence]
  rw [payload?_wrapped hpresent hfence (wraps_carried h), htrim]

/-- **A carried record is parsed** as its text is. -/
theorem parse_carried {reply : List Char} {record : Record} (h : Carries reply record)
    (htext : Record.ofText record.text = .ok record) : parse reply = .ok record := by
  exact parse_eq_ok_iff.2 ⟨record.text, payload?_carried h, htext⟩

end ListingAttributes.Reply
