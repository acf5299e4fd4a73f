import ListingAttributes.Proofs.Text.Runs
import ListingAttributes.Proofs.Text.Trimming
import ListingAttributes.Reply

/-!
# Code blocks

What is read of a reply that starts with a fence is decided by its lines:

* `payload?_block`: behind the first line stands what is read, up to the
  closing fence;
* `payload?_openBlock`: the closing fence may be missing;
* `payload?_line`: a block of one line is read behind the tag of its fence.

So a text may be put into a block in any of these ways, with any blanks around
it and around the block (`Wraps`), and is read as it is without the block
(`parse_wrapped`).  The text itself may hold fences and line ends.
-/

namespace ListingAttributes.Reply

open Text

/-! ### Lines and fences -/

theorem afterLine?_append {line : List Char} (h : '\n' ∉ line) (rest : List Char) :
    afterLine? (line ++ '\n' :: rest) = some rest := by
  induction line with
  | nil => rw [List.nil_append, afterLine?, if_pos rfl]
  | cons c line ih =>
      simp only [List.mem_cons, not_or] at h
      rw [List.cons_append, afterLine?, if_neg (Ne.symm h.1), ih h.2]

theorem afterLine?_of_not_mem {text : List Char} (h : '\n' ∉ text) : afterLine? text = none := by
  induction text with
  | nil => rfl
  | cons c text ih =>
      simp only [List.mem_cons, not_or] at h
      rw [afterLine?, if_neg (Ne.symm h.1), ih h.2]

theorem not_mem_fence_append {line : List Char} (h : '\n' ∉ line) : '\n' ∉ fence ++ line := by
  rw [List.mem_append, not_or]
  exact ⟨by decide, h⟩

theorem dropClosingFence_append (text : List Char) : dropClosingFence (text ++ fence) = text := by
  unfold dropClosingFence
  rw [if_pos (List.isSuffixOf_iff_suffix.2 (List.suffix_append _ _)), List.length_append,
    Nat.add_sub_cancel, List.take_left]

theorem dropClosingFence_of_not_suffix {text : List Char} (h : ¬ fence <:+ text) :
    dropClosingFence text = text := by
  unfold dropClosingFence
  rw [if_neg (by rwa [List.isSuffixOf_iff_suffix])]

theorem trimEnd_append_fence (body : List Char) : trimEnd (body ++ fence) = body ++ fence :=
  trimEnd_append_of_ne_nil body (by decide)

/-- Of a text in front of a closing fence the text is left. -/
theorem trim_unfenced (body : List Char) :
    trim (dropClosingFence (trimEnd (body ++ fence))) = trim body := by
  rw [trimEnd_append_fence, dropClosingFence_append]

/-- A fence is at the end of a text exactly if it is at the end of what trimming leaves: it is not
blank itself. -/
theorem suffix_trimEnd_iff (text : List Char) : fence <:+ trimEnd text ↔ fence <:+ trim text := by
  obtain ⟨before, hbefore, hend⟩ := exists_trimEnd_eq text
  rw [hend]
  constructor
  · intro hsuffix
    rcases List.suffix_or_suffix_of_suffix hsuffix (List.suffix_append before (trim text)) with
      h | ⟨front, hfront⟩
    · exact h
    · -- the front of the fence would be blank
      obtain ⟨rest, hrest⟩ := hsuffix
      rw [← hfront, ← List.append_assoc, List.append_cancel_right_eq] at hrest
      cases front with
      | nil =>
          rw [List.nil_append] at hfront
          exact hfront ▸ List.suffix_rfl
      | cons c front =>
          have hmark : ∀ d ∈ fence, ¬ isBlank d = true := List.any_eq_false.1 rfl
          have hc : c ∈ fence := by
            rw [← hfront]
            exact List.mem_append_left _ List.mem_cons_self
          have hblank : isBlank c = true := by
            apply hbefore
            rw [← hrest]
            exact List.mem_append_right _ List.mem_cons_self
          exact absurd hblank (hmark c hc)
  · intro hsuffix
    exact hsuffix.trans (List.suffix_append _ _)

theorem not_mem_tag {tag : List Char} (htag : ∀ c ∈ tag, isTagChar c = true) : '\n' ∉ tag := by
  intro hmem
  exact absurd (htag '\n' hmem) (by decide)

theorem isTagChar_of_isBlank {c : Char} (h : isBlank c = true) : isTagChar c = false := by
  refine of_isBlank (P := fun c => isTagChar c = false) ?_ h
  decide +kernel

/-! ### What is read of a block -/

/-- Blanks around a reply make no difference. -/
theorem payload?_append_of_blank {before after : List Char}
    (hbefore : ∀ c ∈ before, isBlank c = true) (hafter : ∀ c ∈ after, isBlank c = true)
    (reply : List Char) : payload? (before ++ reply ++ after) = payload? reply := by
  unfold payload?
  rw [trim_append_of_blank hbefore hafter]

theorem payload?_of_no_fence {reply : List Char} (h : ¬ fence <+: trim reply) :
    payload? reply = some (trim reply) := by
  unfold payload?
  rw [if_neg (by rwa [List.isPrefixOf_iff_prefix])]

theorem parse_congr {first second : List Char} (h : payload? first = payload? second) :
    parse first = parse second := by
  rw [parse, parse, h]

theorem parse_eq_ok_iff {reply : List Char} {record : Record} :
    parse reply = .ok record ↔
      ∃ payload, payload? reply = some payload ∧ Record.ofText payload = .ok record := by
  unfold parse
  split
  · next hnone => simp [hnone]
  · next payload hpayload =>
    split
    · next found hfound => simp [hpayload, hfound]
    · next error herror => simp [hpayload, herror]

/-- A reply that starts with a fence is read as a block that ends where its blanks start. -/
theorem payload?_fence {rest : List Char} (h : trimEnd rest ≠ []) :
    payload? (fence ++ rest) =
      if blockBody (fence ++ trimEnd rest) = [] then none
      else some (blockBody (fence ++ trimEnd rest)) := by
  have htrim : trim (fence ++ rest) = fence ++ trimEnd rest := by
    have hstart : trimStart (fence ++ rest) = fence ++ rest := trimStart_cons (by decide) _
    rw [trim, hstart, trimEnd_append_of_ne_nil fence h]
  have hprefix : fence.isPrefixOf (fence ++ trimEnd rest) = true :=
    List.isPrefixOf_iff_prefix.2 (List.prefix_append _ _)
  unfold payload?
  dsimp only
  rw [htrim, if_pos hprefix]

theorem blockBody_lines {line : List Char} (hline : '\n' ∉ line) (body : List Char) :
    blockBody (fence ++ (line ++ '\n' :: body)) = trim (dropClosingFence (trimEnd body)) := by
  unfold blockBody
  rw [← List.append_assoc, afterLine?_append (not_mem_fence_append hline)]

theorem blockBody_line {tag body : List Char} (htag : ∀ c ∈ tag, isTagChar c = true)
    (hbody : ∀ c ∈ body.head?, isTagChar c = false) (hline : '\n' ∉ tag ++ body) :
    blockBody (fence ++ (tag ++ body)) = trim (dropClosingFence (trimEnd body)) := by
  unfold blockBody
  rw [afterLine?_of_not_mem (not_mem_fence_append hline)]
  dsimp only
  rw [List.drop_left, dropWhile_append_of_stop htag hbody]

theorem trimEnd_lines (line : List Char) {body : List Char} (h : trimEnd body ≠ []) :
    trimEnd (line ++ '\n' :: body) = line ++ '\n' :: trimEnd body := by
  rw [List.append_cons, trimEnd_append_of_ne_nil _ h, List.append_assoc, List.singleton_append]

/-- **What stands between the first line and the closing fence** is read. -/
theorem payload?_block {line : List Char} (hline : '\n' ∉ line) (body : List Char) :
    payload? (fence ++ (line ++ '\n' :: (body ++ fence))) =
      if trim body = [] then none else some (trim body) := by
  have hend : trimEnd (body ++ fence) ≠ [] := by
    rw [trimEnd_append_fence]
    exact List.append_ne_nil_of_right_ne_nil _ (by decide)
  have hkept := trimEnd_lines line hend
  rw [payload?_fence (by rw [hkept]; simp), hkept, blockBody_lines hline, trimEnd_append_fence,
    trim_unfenced]

/-- **The closing fence may be missing.** -/
theorem payload?_openBlock {line body : List Char} (hline : '\n' ∉ line) (hbody : trim body ≠ [])
    (hend : ¬ fence <:+ trim body) :
    payload? (fence ++ (line ++ '\n' :: body)) = some (trim body) := by
  have hne : trimEnd body ≠ [] := by
    intro hnil
    rw [← trim_trimEnd, hnil] at hbody
    exact hbody rfl
  have hkept := trimEnd_lines line hne
  rw [payload?_fence (by rw [hkept]; simp), hkept, blockBody_lines hline,
    trimEnd_trimEnd, dropClosingFence_of_not_suffix (by rwa [suffix_trimEnd_iff]), trim_trimEnd,
    if_neg hbody]

/-- **A block of one line** is read between the tag of its fence and the closing fence. -/
theorem payload?_line {tag body : List Char} (htag : ∀ c ∈ tag, isTagChar c = true)
    (hbody : ∀ c ∈ (body ++ fence).head?, isTagChar c = false) (hline : '\n' ∉ body) :
    payload? (fence ++ (tag ++ (body ++ fence))) =
      if trim body = [] then none else some (trim body) := by
  have hone : '\n' ∉ tag ++ (body ++ fence) := by
    simp only [List.mem_append, not_or]
    exact ⟨not_mem_tag htag, hline, by decide⟩
  have hkept : trimEnd (tag ++ (body ++ fence)) = tag ++ (body ++ fence) := by
    rw [← List.append_assoc, trimEnd_append_fence]
  rw [payload?_fence (by rw [hkept]; simp [fence]), hkept, blockBody_line htag hbody hone,
    trim_unfenced]

/-! ### Texts in blocks -/

/-- A reply that is a text with nothing more than blanks and a code block around it. -/
inductive Wraps (text : List Char) : List Char → Prop where
  /-- The text between blanks. -/
  | bare {before after : List Char} (hbefore : ∀ c ∈ before, isBlank c = true)
      (hafter : ∀ c ∈ after, isBlank c = true) : Wraps text (before ++ text ++ after)
  /-- A block whose first line is the fence, with anything behind it. -/
  | block {before info margin after : List Char} (hbefore : ∀ c ∈ before, isBlank c = true)
      (hinfo : '\n' ∉ info) (hmargin : ∀ c ∈ margin, isBlank c = true)
      (hafter : ∀ c ∈ after, isBlank c = true) :
      Wraps text (before ++ (fence ++ (info ++ '\n' :: (text ++ margin ++ fence))) ++ after)
  /-- Such a block without a closing fence; what the text ends with must not look like one. -/
  | openBlock {before info after : List Char} (hbefore : ∀ c ∈ before, isBlank c = true)
      (hinfo : '\n' ∉ info) (hafter : ∀ c ∈ after, isBlank c = true)
      (hend : ¬ fence <:+ trim text) :
      Wraps text (before ++ (fence ++ (info ++ '\n' :: text)) ++ after)
  /-- A block of one line, for a text that starts with a brace; the tag consists of letters. -/
  | line {before tag gap margin after : List Char} (hbefore : ∀ c ∈ before, isBlank c = true)
      (htag : ∀ c ∈ tag, isTagChar c = true) (hgap : ∀ c ∈ gap, isBlank c = true ∧ c ≠ '\n')
      (htext : '\n' ∉ text) (hbrace : text.head? = some '\x7b')
      (hmargin : ∀ c ∈ margin, isBlank c = true ∧ c ≠ '\n')
      (hafter : ∀ c ∈ after, isBlank c = true) :
      Wraps text (before ++ (fence ++ (tag ++ (gap ++ text ++ margin ++ fence))) ++ after)

/-- **What is wrapped is read**, and nothing else. -/
theorem payload?_wrapped {text reply : List Char} (hpresent : trim text ≠ [])
    (hfence : ¬ fence <+: trim text) (h : Wraps text reply) :
    payload? reply = some (trim text) := by
  cases h with
  | bare hbefore hafter =>
      rw [payload?_append_of_blank hbefore hafter, payload?_of_no_fence hfence]
  | block hbefore hinfo hmargin hafter =>
      rw [payload?_append_of_blank hbefore hafter, payload?_block hinfo,
        trim_append_margin hmargin, if_neg hpresent]
  | openBlock hbefore hinfo hafter hend =>
      rw [payload?_append_of_blank hbefore hafter, payload?_openBlock hinfo hpresent hend]
  | @line before tag gap margin after hbefore htag hgap htext hbrace hmargin hafter =>
      have hgapBlank : ∀ c ∈ gap, isBlank c = true := fun c hc => (hgap c hc).1
      have hmarginBlank : ∀ c ∈ margin, isBlank c = true := fun c hc => (hmargin c hc).1
      -- neither a blank nor a brace is taken for a letter of the tag
      have hhead : ∀ c ∈ (gap ++ text ++ margin ++ fence).head?, isTagChar c = false := by
        intro c hc
        cases gap with
        | nil =>
            obtain ⟨rest, rfl⟩ := List.head?_eq_some_iff.1 hbrace
            obtain rfl : '\x7b' = c := Option.some.inj hc
            decide
        | cons d gap =>
            obtain rfl : d = c := Option.some.inj hc
            exact isTagChar_of_isBlank (hgapBlank d List.mem_cons_self)
      have hone : '\n' ∉ gap ++ text ++ margin := by
        simp only [List.mem_append, not_or]
        exact ⟨⟨fun hc => (hgap _ hc).2 rfl, htext⟩, fun hc => (hmargin _ hc).2 rfl⟩
      rw [payload?_append_of_blank hbefore hafter, payload?_line htag hhead hone,
        trim_append_of_blank hgapBlank hmarginBlank, if_neg hpresent]

/-- **Blanks and code blocks are transparent.**  A text that is there and does not start with a
fence is what is read of every reply that wraps it, so that the reply holds the same record, or
fails in the same way. -/
theorem parse_wrapped {text reply : List Char} (hpresent : trim text ≠ [])
    (hfence : ¬ fence <+: trim text) (h : Wraps text reply) :
    payload? reply = payload? text ∧ parse reply = parse text := by
  have hpayload : payload? reply = payload? text := by
    rw [payload?_wrapped hpresent hfence h, payload?_of_no_fence hfence]
  exact ⟨hpayload, parse_congr hpayload⟩

/-- An object on two lines, with a fence in a string. -/
def nestedText : List Char := " \x7b\"a\":\n\"\x60\x60\x60\"\x7d".toList

/-- The object in a block, between blanks. -/
def nestedReply : List Char :=
  "\n ".toList ++ (fence ++ ("json x".toList ++ '\n' :: (nestedText ++ "\t\n".toList ++ fence))) ++
    [' ']

theorem parse_wrapped_nested :
    trim nestedText ≠ [] ∧ ¬ fence <+: trim nestedText ∧ Wraps nestedText nestedReply ∧
      payload? nestedReply = payload? nestedText ∧ parse nestedReply = parse nestedText ∧
      (parse nestedReply).toOption.bind (·.str? "a") = some "\x60\x60\x60" := by
  have hpresent : trim nestedText ≠ [] := by decide +kernel
  have hfence : ¬ fence <+: trim nestedText := by decide +kernel
  have hwraps : Wraps nestedText nestedReply :=
    .block (List.all_eq_true.1 (by decide +kernel)) (by decide +kernel)
      (List.all_eq_true.1 (by decide +kernel)) (List.all_eq_true.1 (by decide +kernel))
  obtain ⟨hpayload, hparse⟩ := parse_wrapped hpresent hfence hwraps
  exact ⟨hpresent, hfence, hwraps, hpayload, hparse, by decide +kernel⟩

end ListingAttributes.Reply
