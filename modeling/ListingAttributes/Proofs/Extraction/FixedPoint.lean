import ListingAttributes.Proofs.Extraction.Exchanges
import ListingAttributes.Proofs.Records.MemorySpeed
import ListingAttributes.Proofs.Records.Replies

/-!
# Extracted records are fixed points

A record that an extraction hands out is `Stable`: it has passed validation,
it is `WellShaped`, which is to say that its whole numbers are integers and it
is not nested too deeply to be read, and the title has no speed to add to it.
Each step of the pipeline leaves such a record as it is, so that a reply which
carries the record is made into the record again (`recordOfReply_of_stable`).

* `stable_of_recordOfReply`: what a reply is made into is stable;
* `extract_fixedPoint`: extracting from the extracted record changes nothing.
-/

namespace ListingAttributes.Extraction

open Generation Settings Json

/-! ### Records that can be written and read again -/

/-- The numbers of the record are settled, and it is not nested too deeply to be read. -/
def WellShaped (record : Record) : Prop :=
  record.Settled ∧ record.toValue.depth ≤ deepestNesting

theorem wellShaped_insertText {record : Record} (field text : String) (h : WellShaped record) :
    WellShaped (record.insertText field text) := by
  refine ⟨?_, Record.depth_insert_le rfl h.2⟩
  intro x hx
  rcases Record.mem_numbers_insert hx with hvalue | hrecord
  · simp [numbers] at hvalue
  · exact h.1 x hrecord

theorem wellShaped_insertInteger {record : Record} (field : String) (i : Integer)
    (h : WellShaped record) : WellShaped (record.insertInteger field i) := by
  refine ⟨?_, Record.depth_insert_le rfl h.2⟩
  intro x hx
  rcases Record.mem_numbers_insert hx with hvalue | hrecord
  · obtain rfl : x = .integer i := by simpa [numbers] using hvalue
    trivial
  · exact h.1 x hrecord

theorem wellShaped_of_ofText {text : List Char} {record : Record}
    (h : Record.ofText text = .ok record) : WellShaped record :=
  ⟨Record.settled_of_ofText h, Record.depth_of_ofText h⟩

theorem wellShaped_of_validate {category : Category} {record validated : Record}
    (hrecord : WellShaped record) (h : category.validate record = .ok validated) :
    WellShaped validated :=
  Category.validate_preserves (fun _ field text h => wellShaped_insertText field text h) hrecord h

theorem wellShaped_recover {record : Record} (title : List Char) (h : WellShaped record) :
    WellShaped (MemorySpeed.recover title record) :=
  MemorySpeed.recover_preserves (fun i h => wellShaped_insertInteger _ i h) h

/-! ### Stable records -/

/-- A record that no step of an extraction under this title changes. -/
structure Stable (category : Category) (title : List Char) (record : Record) : Prop where
  /-- Validation has nothing to change. -/
  passed : Passed category record
  /-- Writing and reading leave it as it is. -/
  shape : WellShaped record
  /-- The title has no speed to add. -/
  recovered : category = .ram → MemorySpeed.recover title record = record

/-- The record that is handed out for a validated one is stable. -/
theorem stable_of_validated {category : Category} {validated : Record} (title : List Char)
    (hpassed : Passed category validated) (hshape : WellShaped validated) :
    Stable category title
      (if category = .ram then MemorySpeed.recover title validated else validated) := by
  by_cases hram : category = .ram
  · subst hram
    rw [if_pos rfl]
    -- no check is made after the recovery, so it must keep what the checks have established
    exact ⟨MemorySpeed.passed_recover title hpassed, wellShaped_recover title hshape,
      fun _ => MemorySpeed.recover_recover title validated⟩
  · rw [if_neg hram]
    exact ⟨hpassed, hshape, fun h => absurd h hram⟩

/-! ### Replies -/

theorem recordOfReply_eq_ok_iff {category : Category} {title reply : String} {record : Record} :
    recordOfReply category title reply = .ok record ↔
      ∃ parsed validated, Reply.parse reply.toList = .ok parsed ∧
        category.validate parsed = .ok validated ∧
        record = if category = .ram then MemorySpeed.recover title.toList validated
          else validated := by
  unfold recordOfReply
  cases Reply.parse reply.toList with
  | error error => simp
  | ok parsed =>
      cases hvalidate : category.validate parsed with
      | error error => simp [hvalidate]
      | ok validated => simp [hvalidate, eq_comm]

/-- **What a reply is made into is stable.** -/
theorem stable_of_recordOfReply {category : Category} {title reply : String} {record : Record}
    (h : recordOfReply category title reply = .ok record) :
    Stable category title.toList record := by
  obtain ⟨parsed, validated, hparse, hvalidate, rfl⟩ := recordOfReply_eq_ok_iff.1 h
  obtain ⟨payload, _, hpayload⟩ := Reply.parse_eq_ok_iff.1 hparse
  exact stable_of_validated title.toList (Category.passed_of_validate hvalidate)
    (wellShaped_of_validate (wellShaped_of_ofText hpayload) hvalidate)

/-- **A reply that carries a stable record is made into that record.** -/
theorem recordOfReply_of_stable {category : Category} {title reply : String} {record : Record}
    (hstable : Stable category title.toList record) (hnumbers : record.ReadsBack)
    (hcarries : Reply.Carries reply.toList record) :
    recordOfReply category title reply = .ok record := by
  rw [recordOfReply_eq_ok_iff]
  have htext : Record.ofText record.text = .ok record :=
    Record.ofText_text hstable.shape.2 hstable.shape.1 hnumbers
  refine ⟨record, record, Reply.parse_carried hcarries htext,
    Category.validate_of_passed hstable.passed, ?_⟩
  by_cases hram : category = .ram
  · rw [if_pos hram, hstable.recovered hram]
  · rw [if_neg hram]

/-! ### Extractions -/

variable {σ τ : Type} {settings : ExtractionSettings} {category : Category} {title : String}
  {specifics : Specifics} {record : Record}

/-- An extraction succeeds exactly if its one question is asked and the answer is made into a
record. -/
theorem run_extract_eq_ok_iff {backend : Backend σ} {state : σ} :
    ((extract settings category title specifics).run backend state).1 = .ok record ↔
      ∃ prompt reply,
        Prompt.extraction? category title.toList specifics "".toList = some prompt ∧
          (backend (extractionRequest settings prompt) state).1 = .answered reply ∧
          recordOfReply category title reply = .ok record := by
  rw [Dialogue.run_eq_iff]
  constructor
  · rintro ⟨exchanges, hgives, hfollows⟩
    rcases follows_extract_iff.1 hfollows with
      ⟨_, _, hresult⟩ | ⟨prompt, outcome, hprompt, rfl, hresult⟩
    · cases hresult
    · cases outcome with
      | failed _ => cases hresult
      | overran => cases hresult
      | answered reply => exact ⟨prompt, reply, hprompt, hgives.1, hresult.symm⟩
  · rintro ⟨prompt, reply, hprompt, hreply, hrecord⟩
    exact ⟨[(extractionRequest settings prompt, .answered reply)], ⟨hreply, trivial⟩,
      follows_extract_iff.2 (Or.inr ⟨prompt, .answered reply, hprompt, rfl, hrecord.symm⟩)⟩

/-- **An extracted record is a fixed point of the extraction.**  Validation returns it as it is,
also after a speed was filled in; its whole numbers are integers at every depth; and if the backend
answers with its text instead, bare or in a block of JSON, then the same extraction gives the same
record, as long as each number is read back from the text that is written for it. -/
theorem extract_fixedPoint {backend : Backend σ} {state : σ}
    (h : ((extract settings category title specifics).run backend state).1 = .ok record) :
    category.validate record = .ok record ∧ record.Settled ∧
      (record.ReadsBack → ∀ (other : Backend τ) (start : τ) (reply : String),
        Reply.Carries reply.toList record →
        (∀ request, (other request start).1 = .answered reply) →
        ((extract settings category title specifics).run other start).1 = .ok record) := by
  obtain ⟨prompt, first, hprompt, _, hrecord⟩ := run_extract_eq_ok_iff.1 h
  have hstable := stable_of_recordOfReply hrecord
  refine ⟨Category.validate_of_passed hstable.passed, hstable.shape.1, ?_⟩
  intro hnumbers other start reply hcarries hother
  exact run_extract_eq_ok_iff.2 ⟨prompt, reply, hprompt, hother _,
    recordOfReply_of_stable hstable hnumbers hcarries⟩

/-- A backend with one answer. -/
def answering (reply : String) : Backend Unit := fun _ _ => (.answered reply, ())

/-- A reply that describes a memory module and leaves its speed to the title. -/
def memoryReply : String :=
  "\x7b\"capacity_gb\": 32.0, \"condition\": \"Used\", " ++
    "\"confidence\": 0.5, \"generation\": \"ddr4\"\x7d"

theorem extract_fixedPoint_memory :
    ∃ record : Record,
      ((extract .default .ram "32GB PC4-21300" (.ofEntries [])).run
          (answering memoryReply) ()).1 = .ok record ∧
        record.number? MemorySpeed.field = some (doubleOfNat 2666) ∧
        Category.ram.validate record = .ok record ∧ record.Settled ∧
        ((extract .default .ram "32GB PC4-21300" (.ofEntries [])).run
          (answering (String.ofList (Reply.fenced Reply.jsonTag record.text))) ()).1 =
            .ok record := by
  have hcomputed : (recordOfReply .ram "32GB PC4-21300" memoryReply).toOption.any (fun record =>
      decide (record.ReadsBack ∧
        record.number? MemorySpeed.field = some (doubleOfNat 2666))) = true := by
    decide +kernel
  cases hrecord : recordOfReply .ram "32GB PC4-21300" memoryReply with
  | error error =>
      rw [hrecord] at hcomputed
      cases hcomputed
  | ok record =>
      rw [hrecord] at hcomputed
      obtain ⟨hnumbers, hspeed⟩ := of_decide_eq_true hcomputed
      have hrun : ((extract .default .ram "32GB PC4-21300" (.ofEntries [])).run
          (answering memoryReply) ()).1 = .ok record :=
        run_extract_eq_ok_iff.2 ⟨_, memoryReply, rfl, rfl, hrecord⟩
      obtain ⟨hvalid, hsettled, hagain⟩ := extract_fixedPoint hrun
      refine ⟨record, hrun, hspeed, hvalid, hsettled, ?_⟩
      exact hagain hnumbers _ () _ (Or.inr String.toList_ofList) fun _ => rfl

end ListingAttributes.Extraction
