import ListingAttributes.Proofs.Json.Brackets
import ListingAttributes.Proofs.Records.CodeBlocks
import ListingAttributes.Proofs.Records.Fields

/-!
# Objects on the line of a fence

An object may start on the line of the opening fence, behind its tag.  It is
read if the closing fence stands on that line too.  If the block goes on, its
first line is dropped and the start of the object with it: what is left of an
object that goes on is no JSON text (`Json.parse?_behind_line`), and nothing is
left of one that does not.  So the object is read exactly if the block is one
line (`parse_fence_line`).
-/

namespace ListingAttributes.Reply

open Text Json

/-! ### Records between braces -/

theorem ofText_of_parse?_eq_none {text : List Char} (h : parse? text = none) :
    Record.ofText text = .error .malformed := by
  unfold Record.ofText
  split
  · next value hvalue =>
    rw [Record.parseOrdered?_eq_some_iff, h] at hvalue
    cases hvalue
  · rfl

theorem trim_of_brace (tail : List Char) :
    trim ('\x7b' :: tail) = '\x7b' :: trimEnd tail := by
  have hbrace : isBlank '\x7b' = false := by decide
  rw [trim, trimStart_cons hbrace, trimEnd_cons_of_not_blank hbrace]

theorem no_fence_of_brace (tail : List Char) : ¬ fence <+: trim ('\x7b' :: tail) := by
  rw [trim_of_brace]
  simp [fence]

/-- The record of a text that starts with a brace is that of the text without the blanks behind
it. -/
theorem parse_of_brace {tail : List Char} {record : Record}
    (h : parse ('\x7b' :: tail) = .ok record) :
    ∃ value, parse? ('\x7b' :: trimEnd tail) = some value := by
  obtain ⟨payload, hpayload, hrecord⟩ := parse_eq_ok_iff.1 h
  rw [payload?_of_no_fence (no_fence_of_brace tail), trim_of_brace, Option.some.injEq] at hpayload
  obtain ⟨value, hvalue, _⟩ := Record.ofText_eq_ok_iff.1 hrecord
  exact ⟨value, hpayload ▸ hvalue⟩

/-! ### Blocks of more than one line -/

/-- What stands behind the first line end of an object is not blank, and no JSON text. -/
theorem parse?_rest {tail line rest : List Char} {value : Value}
    (hvalue : parse? ('\x7b' :: trimEnd tail) = some value)
    (hsplit : trimEnd tail = line ++ '\n' :: rest) :
    trim rest ≠ [] ∧ parse? (trim rest) = none := by
  have hend : trimEnd ('\n' :: rest) = '\n' :: rest := by
    have hwhole : trimEnd (line ++ '\n' :: rest) = line ++ '\n' :: rest := by
      rw [← hsplit, trimEnd_trimEnd]
    exact trimEnd_of_append hwhole
  have hpresent : trimEnd rest ≠ [] := by
    intro hnil
    rw [trimEnd, hnil] at hend
    cases hend
  rw [trimEnd_cons hpresent, List.cons.injEq] at hend
  obtain ⟨lead, hlead, hrest⟩ := exists_trimEnd_eq rest
  rw [hend.2] at hrest
  constructor
  · intro hnil
    exact hpresent (trimEnd_of_blank (isBlank_of_trim_eq_nil hnil))
  · have hplain : ∀ c ∈ lead, isPlain c = true :=
      fun c hc => isPlain_of_isBlank (hlead c hc)
    rw [hsplit, hrest] at hvalue
    exact parse?_behind_line hvalue hplain

/-- A block whose first line ends within an object, or behind it, holds no record. -/
theorem parse_lines {info tail margin : List Char} {record : Record}
    (hbare : parse ('\x7b' :: tail) = .ok record) (hinfo : '\n' ∉ info)
    (hmargin : ∀ c ∈ margin, isBlank c = true) (hlines : '\n' ∈ tail ++ margin) :
    parse (fence ++ (info ++ ('\x7b' :: tail ++ margin ++ fence))) =
      .error (if '\n' ∈ trimEnd tail then .record .malformed else .emptyBlock) := by
  obtain ⟨value, hvalue⟩ := parse_of_brace hbare
  obtain ⟨after, hafter, htail⟩ := exists_eq_trimEnd tail
  have hblank : ∀ c ∈ after ++ margin, isBlank c = true :=
    List.forall_mem_append.2 ⟨hafter, hmargin⟩
  -- the reply, divided where its first line ends
  have hreply : ∀ line rest : List Char, tail ++ margin = line ++ '\n' :: rest →
      fence ++ (info ++ ('\x7b' :: tail ++ margin ++ fence)) =
        fence ++ ((info ++ '\x7b' :: line) ++ '\n' :: (rest ++ fence)) := by
    intro line rest hsplit
    simp [hsplit]
  have hline : ∀ line : List Char, '\n' ∉ line → '\n' ∉ info ++ '\x7b' :: line := by
    intro line hline
    simp [hinfo, hline]
  by_cases hobject : '\n' ∈ trimEnd tail
  · obtain ⟨line, rest, hsplit, hfirst⟩ := List.eq_append_cons_of_mem hobject
    obtain ⟨hpresent, hnone⟩ := parse?_rest hvalue hsplit
    have hwhole : tail ++ margin = line ++ '\n' :: (rest ++ (after ++ margin)) := by
      conv => lhs; rw [htail, hsplit]
      simp
    rw [hreply _ _ hwhole, parse, payload?_block (hline _ hfirst), trim_append_margin hblank,
      if_neg hpresent, if_pos hobject]
    dsimp only
    rw [ofText_of_parse?_eq_none hnone]
  · have hbehind : '\n' ∈ after ++ margin := by
      rw [htail, List.append_assoc, List.mem_append] at hlines
      exact hlines.resolve_left hobject
    obtain ⟨line, rest, hsplit, hfirst⟩ := List.eq_append_cons_of_mem hbehind
    have hnothing : trim rest = [] := by
      apply trim_of_blank
      intro c hc
      apply hblank
      rw [hsplit]
      exact List.mem_append_right _ (List.mem_cons_of_mem _ hc)
    have hwhole : tail ++ margin = (trimEnd tail ++ line) ++ '\n' :: rest := by
      conv => lhs; rw [htail]
      rw [List.append_assoc, hsplit, List.append_assoc]
    have hone : '\n' ∉ trimEnd tail ++ line := by
      simp [hobject, hfirst]
    rw [hreply _ _ hwhole, parse, payload?_block (hline _ hone), hnothing, if_pos rfl,
      if_neg hobject]

/-- **An object on the line of a fence** is read if the block ends on that line.  If the object
goes on behind the line, what is left is malformed; if only the block does, it is empty. -/
theorem parse_fence_line {text tag gap margin : List Char} {record : Record}
    (hbare : parse text = .ok record) (hbrace : text.head? = some '\x7b')
    (htag : ∀ c ∈ tag, isTagChar c = true) (hgap : ∀ c ∈ gap, c = ' ' ∨ c = '\t')
    (hmargin : ∀ c ∈ margin, isBlank c = true) :
    parse (fence ++ (tag ++ (gap ++ text ++ margin ++ fence))) =
      if '\n' ∈ text ++ margin then
        .error (if '\n' ∈ trim text then .record .malformed else .emptyBlock)
      else .ok record := by
  obtain ⟨tail, rfl⟩ := List.head?_eq_some_iff.1 hbrace
  have hspaces : ∀ c ∈ gap, isBlank c = true ∧ c ≠ '\n' := by
    intro c hc
    rcases hgap c hc with rfl | rfl <;> decide
  by_cases hlines : '\n' ∈ '\x7b' :: tail ++ margin
  · have hinfo : '\n' ∉ tag ++ gap := by
      rw [List.mem_append, not_or]
      exact ⟨not_mem_tag htag, fun hmem => (hspaces _ hmem).2 rfl⟩
    have hrest : '\n' ∈ tail ++ margin := by simpa using hlines
    have hblock := parse_lines hbare hinfo hmargin hrest
    rw [if_pos hlines, trim_of_brace]
    simpa using hblock
  · simp only [List.mem_append, not_or] at hlines
    have hone : ∀ c ∈ margin, isBlank c = true ∧ c ≠ '\n' :=
      fun c hc => ⟨hmargin c hc, fun heq => hlines.2 (heq ▸ hc)⟩
    have hpresent : trim ('\x7b' :: tail) ≠ [] := by
      rw [trim_of_brace]
      exact List.cons_ne_nil _ _
    have hfence := no_fence_of_brace tail
    have hwraps : Wraps ('\x7b' :: tail)
        ([] ++ (fence ++ (tag ++ (gap ++ '\x7b' :: tail ++ margin ++ fence))) ++ []) :=
      .line (List.forall_mem_nil _) htag hspaces hlines.1 rfl hone (List.forall_mem_nil _)
    rw [List.nil_append, List.append_nil] at hwraps
    have hpayload := payload?_wrapped hpresent hfence hwraps
    rw [← payload?_of_no_fence hfence] at hpayload
    rw [parse_congr hpayload, hbare, if_neg (by simpa using hlines)]

/-- An object on two lines. -/
def twoLines : List Char := "\x7b\"a\":\n1\x7d".toList

theorem parse_fence_line_two :
    (∃ record, parse twoLines = .ok record) ∧ twoLines.head? = some '\x7b' ∧
      parse (fence ++ ("json".toList ++ ([' '] ++ twoLines ++ ['\n'] ++ fence))) =
        .error (.record .malformed) := by
  have hsome : (parse twoLines).toOption.isSome = true := by decide +kernel
  obtain ⟨record, hbare⟩ := exists_ok_of_isSome _ hsome
  have hbrace : twoLines.head? = some '\x7b' := by decide +kernel
  have htag : ∀ c ∈ "json".toList, isTagChar c = true := List.all_eq_true.1 (by decide +kernel)
  have hgap : ∀ c ∈ [' '], c = ' ' ∨ c = '\t' := by simp
  have hmargin : ∀ c ∈ ['\n'], isBlank c = true := List.all_eq_true.1 rfl
  have hblock := parse_fence_line hbare hbrace htag hgap hmargin
  rw [if_pos (by decide +kernel), if_pos (by decide +kernel)] at hblock
  exact ⟨⟨record, hbare⟩, hbrace, hblock⟩

/-- An object of one line is lost if the closing fence stands on the next. -/
theorem fence_line_lost :
    (parse "\x7b\"a\":1\x7d".toList).toOption.isSome = true ∧
      parse "\x60\x60\x60json \x7b\"a\":1\x7d\n\x60\x60\x60".toList = .error .emptyBlock := by
  constructor
  · decide +kernel
  · have hpayload : payload? "\x60\x60\x60json \x7b\"a\":1\x7d\n\x60\x60\x60".toList = none := by
      decide +kernel
    rw [parse, hpayload]

end ListingAttributes.Reply
