import ListingAttributes.Extraction.Backends
import ListingAttributes.Proofs.Extraction.Exchanges
import ListingAttributes.Proofs.Prompts.Layout

/-!
# Extractions with a description

A listing may be extracted with its description or without.  The two differ for
a server with a description that is not blank, and there in one line of the
prompt; otherwise they are one dialogue (`extractWithDescription_eq`), so that
no backend can tell them apart.
-/

namespace ListingAttributes.Extraction

open Generation Settings
open Prompt (Slot descriptionText notAvailable specificsText)

variable {category : Category} {description : List Char}

/-! ### The prompt of a server -/

theorem descriptionText_of_blank (hblank : Text.trim description = []) :
    descriptionText description = notAvailable := if_pos hblank

theorem descriptionText_of_not_blank (hblank : Text.trim description ≠ []) :
    descriptionText description = Text.trim description := if_neg hblank

theorem descriptionText_empty : descriptionText "".toList = notAvailable :=
  descriptionText_of_blank (by decide)

/-- Descriptions with the same text lead to the same prompt. -/
theorem extraction?_congr {title : List Char} {specifics : Specifics} {other : List Char}
    (htext : descriptionText description = descriptionText other) :
    Prompt.extraction? category title specifics description =
      Prompt.extraction? category title specifics other := by
  rw [Prompt.extraction?, Prompt.extraction?, htext]

/-- The description of a server stands on a line of its own behind those of the title and the
specifics. -/
theorem server_layout : ∃ head tail, ∀ title specifics description,
    Prompt.extraction? .server title specifics description =
      some (head ++ Slot.title.showing title ++ Slot.specifics.showing (specificsText specifics) ++
        Slot.description.showing (descriptionText description) ++ tail) := by
  have hserver : Category.server ≠ .other := by decide
  obtain ⟨head, tail, -, hprompt⟩ := Prompt.extraction?_layout hserver
  refine ⟨head, tail, fun title specifics description => ?_⟩
  rw [hprompt, Prompt.listingLines, if_pos rfl]
  simp only [List.append_assoc]

/-! ### The two extractions -/

theorem extractWithDescription_eq_of_ne_server (hcategory : category ≠ .server)
    (settings : ExtractionSettings) (title : String) (specifics : Specifics)
    (description : String) :
    extractWithDescription settings category title specifics description =
      extract settings category title specifics := by
  cases category with
  | server => exact absurd rfl hcategory
  | _ => rfl

/-- **The same dialogue.**  A description that is not for a server, or that is blank, changes
nothing. -/
theorem extractWithDescription_eq {description : String}
    (h : category ≠ .server ∨ Text.trim description.toList = []) (settings : ExtractionSettings)
    (title : String) (specifics : Specifics) :
    extractWithDescription settings category title specifics description =
      extract settings category title specifics := by
  by_cases hcategory : category = .server
  · have hblank := h.resolve_left (not_not_intro hcategory)
    have htext := (descriptionText_of_blank hblank).trans descriptionText_empty.symm
    subst hcategory
    rw [extractWithDescription, extract, extraction?_congr htext]
  · exact extractWithDescription_eq_of_ne_server hcategory settings title specifics description

/-- **Extracting with a description agrees with extracting without.**  Unless the listing is a
server with a description that is not blank, both ask any backend the same and come to the same.  For
such a server both ask once, with requests that differ in one line of the prompt, and treat what the
call comes to in the same way. -/
theorem extractWithDescription_agrees :
    (∀ (category : Category) (description : String),
      category ≠ .server ∨ Text.trim description.toList = [] →
      ∀ (settings : ExtractionSettings) (title : String) (specifics : Specifics) (σ : Type)
        (backend : Backend σ) (state : σ),
        (extractWithDescription settings category title specifics description).requests
            backend state =
          (extract settings category title specifics).requests backend state ∧
        (extractWithDescription settings category title specifics description).run backend state =
          (extract settings category title specifics).run backend state) ∧
    ∃ head tail, ∀ (settings : ExtractionSettings) (title : String) (specifics : Specifics)
      (description : String), Text.trim description.toList ≠ [] → ∃ plain described : Request,
        plain.prompt.toList = head ++ Slot.title.showing title.toList ++
          Slot.specifics.showing (specificsText specifics) ++
          Slot.description.showing "N/A".toList ++ tail ∧
        described.prompt.toList = head ++ Slot.title.showing title.toList ++
          Slot.specifics.showing (specificsText specifics) ++
          Slot.description.showing (Text.trim description.toList) ++ tail ∧
        described = { plain with prompt := described.prompt } ∧
        ∀ (σ : Type) (backend : Backend σ) (state : σ),
          (extract settings .server title specifics).requests backend state = [plain] ∧
          (extractWithDescription settings .server title specifics description).requests
            backend state = [described] ∧
          ((extract settings .server title specifics).run backend state).1 =
            concluded settings (recordOfReply .server title) (backend plain state).1 ∧
          ((extractWithDescription settings .server title specifics description).run
            backend state).1 =
              concluded settings (recordOfReply .server title) (backend described state).1 := by
  constructor
  · intro category description h settings title specifics σ backend state
    rw [extractWithDescription_eq h]
    exact ⟨rfl, rfl⟩
  · obtain ⟨head, tail, hprompt⟩ := server_layout
    refine ⟨head, tail, fun settings title specifics description hblank => ?_⟩
    have hplain := hprompt title.toList specifics "".toList
    have hdescribed := hprompt title.toList specifics description.toList
    rw [descriptionText_empty] at hplain
    rw [descriptionText_of_not_blank hblank] at hdescribed
    refine ⟨extractionRequest settings _, extractionRequest settings _, String.toList_ofList,
      String.toList_ofList, rfl, fun σ backend state => ?_⟩
    rw [extract, extractWithDescription, hplain, hdescribed]
    exact ⟨requests_ask .., requests_ask .., result_ask .., result_ask ..⟩

/-- A memory module with a description, a server with a blank one, and a server whose texts are
placeholders and what stands for a description that is lacking. -/
theorem extractWithDescription_agrees_placeholders :
    let title := "\x7b\x7bdescription\x7d\x7d N/A"
    let backend := scripted "no JSON" false 10 0
    (Category.ram ≠ .server ∧
      (extractWithDescription .default .ram title (.ofEntries []) "2 x 8GB").run
          backend Script.empty =
        (extract .default .ram title (.ofEntries [])).run backend Script.empty) ∧
    (Text.trim "\u00a0\t".toList = [] ∧
      (extractWithDescription .default .server title (.ofEntries []) "\u00a0\t").run
          backend Script.empty =
        (extract .default .server title (.ofEntries [])).run backend Script.empty) ∧
    Text.trim " N/A\n\x7b\x7btitle\x7d\x7d ".toList ≠ [] ∧
    ∃ (plain described : Request) (before after : List Char),
      (extract .default .server title (.ofEntries [])).requests backend Script.empty = [plain] ∧
      (extractWithDescription .default .server title (.ofEntries [])
        " N/A\n\x7b\x7btitle\x7d\x7d ").requests backend Script.empty = [described] ∧
      plain.prompt.toList = before ++ Slot.description.showing "N/A".toList ++ after ∧
      described.prompt.toList =
        before ++ Slot.description.showing "N/A\n\x7b\x7btitle\x7d\x7d".toList ++ after := by
  intro title backend
  have hram : Category.ram ≠ .server := by decide
  have hblank : Text.trim "\u00a0\t".toList = [] := by decide +kernel
  have htext : Text.trim " N/A\n\x7b\x7btitle\x7d\x7d ".toList =
      "N/A\n\x7b\x7btitle\x7d\x7d".toList := by decide +kernel
  have hnot : Text.trim " N/A\n\x7b\x7btitle\x7d\x7d ".toList ≠ [] := by
    rw [htext]
    decide +kernel
  obtain ⟨hsame, head, tail, hserver⟩ := extractWithDescription_agrees
  obtain ⟨plain, described, hplain, hdescribed, -, hrun⟩ :=
    hserver .default title (.ofEntries []) " N/A\n\x7b\x7btitle\x7d\x7d " hnot
  obtain ⟨hfirst, hsecond, -⟩ := hrun _ backend Script.empty
  refine ⟨⟨hram, (hsame .ram _ (Or.inl hram) .default title _ _ backend _).2⟩,
    ⟨hblank, (hsame .server _ (Or.inr hblank) .default title _ _ backend _).2⟩, hnot,
    plain, described, _, tail, hfirst, hsecond, hplain, ?_⟩
  rw [hdescribed, htext]

end ListingAttributes.Extraction
