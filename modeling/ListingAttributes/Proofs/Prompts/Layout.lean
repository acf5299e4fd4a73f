import ListingAttributes.Prompt
import ListingAttributes.Proofs.Prompts.Filling

/-!
# Where a prompt shows the listing

The template of a prompt is laid out in lines: fixed ones, then one line for
each text of the listing, then fixed ones again (`LaidOut`).  A line of the
listing is a `Slot`, a label with a placeholder behind it.  Filling such a
template puts each text behind its label and leaves the rest as it is, whatever
the texts are (`LaidOut.exists_fill`).

* `classification_layout`, `extraction?_layout`: what the prompts look like;
* `shown_verbatim`: one pass over every template, and what it means for the
  prompts;
* `description_not_verbatim`: blanks around a description are not shown.
-/

namespace ListingAttributes.Prompt

open Template Templates

variable {values : List (List Char × List Char)} {lines : List String}

/-! ### Fixed lines -/

theorem joinLines_cons (line : String) (hlines : lines ≠ []) :
    joinLines (line :: lines) = line.toList ++ '\n' :: joinLines lines := by
  rw [joinLines, String.intercalate_cons_of_ne_nil hlines, String.toList_append,
    String.toList_append, List.append_assoc]
  rfl

theorem joinLines_singleton (line : String) : joinLines [line] = line.toList := by
  rw [joinLines, String.intercalate_singleton]

/-- Fixed text of one line: it has no control characters and opens no placeholder. -/
def Fixed (line : String) : Prop := (∀ c ∈ line.toList, ' ' ≤ c) ∧ ¬ opening <:+: line.toList

/-- Whether characters make up fixed text of one line. -/
def isFixed (chars : List Char) : Bool :=
  chars.all (fun c => decide (' ' ≤ c)) && (around? opening chars).isNone

theorem fixed_ofList {chars : List Char} (h : isFixed chars = true) :
    Fixed (String.ofList chars) := by
  rw [isFixed, Bool.and_eq_true, List.all_eq_true, Option.isNone_iff_eq_none] at h
  rw [Fixed, String.toList_ofList]
  exact ⟨fun c hc => of_decide_eq_true (h.1 c hc), around?_eq_none_iff.1 h.2⟩

theorem forall_fixed_cons {chars : List Char} (h : isFixed chars = true)
    (hlines : ∀ line ∈ lines, Fixed line) :
    ∀ line ∈ String.ofList chars :: lines, Fixed line :=
  List.forall_mem_cons.2 ⟨fixed_ofList h, hlines⟩

theorem fill_line {line : String} (hline : Fixed line) (hlines : lines ≠ []) :
    fill (joinLines (line :: lines)) values =
      line.toList ++ '\n' :: fill (joinLines lines) values := by
  rw [joinLines_cons line hlines]
  exact fill_append_cons (by decide) hline.2

/-- Fixed lines are left as they are. -/
theorem fill_joinLines (hlines : ∀ line ∈ lines, Fixed line) :
    fill (joinLines lines) values = joinLines lines := by
  induction lines with
  | nil => exact fill_of_plain (by decide)
  | cons line lines ih =>
      obtain ⟨hline, hlines⟩ := List.forall_mem_cons.1 hlines
      by_cases hnil : lines = []
      · subst hnil
        rw [joinLines_singleton]
        exact fill_of_plain hline.2
      · rw [fill_line hline hnil, ih hlines, joinLines_cons line hnil]

/-- A character of printed lines: the end of a line, or no control character. -/
def Printed (c : Char) : Prop := c = '\n' ∨ ' ' ≤ c

theorem printed_of_mem_joinLines (hlines : ∀ line ∈ lines, Fixed line) :
    ∀ c ∈ joinLines lines, Printed c := by
  intro c hc
  induction lines with
  | nil => simp [joinLines] at hc
  | cons line lines ih =>
      obtain ⟨hline, hlines⟩ := List.forall_mem_cons.1 hlines
      by_cases hnil : lines = []
      · subst hnil
        rw [joinLines_singleton] at hc
        exact Or.inr (hline.1 c hc)
      · rw [joinLines_cons line hnil, List.mem_append, List.mem_cons] at hc
        rcases hc with hc | rfl | hc
        · exact Or.inr (hline.1 c hc)
        · exact Or.inl rfl
        · exact ih hlines hc

/-! ### Lines of the listing -/

/-- A line that puts in a text behind a label. -/
structure Slot where
  label : List Char
  name : List Char
  label_plain : '\x7b' ∉ label
  name_plain : '\x7d' ∉ name

namespace Slot

/-- The line as it stands in a template. -/
def line (slot : Slot) : String :=
  String.ofList (slot.label ++ opening ++ (slot.name ++ closing))

/-- The line with a text put in. -/
def showing (slot : Slot) (text : List Char) : List Char := slot.label ++ text ++ ['\n']

/-- The line of the title. -/
def title : Slot :=
  ⟨"Title: ".toList, "title".toList, by decide +kernel, by decide +kernel⟩

/-- The line of the item specifics. -/
def specifics : Slot :=
  ⟨"Item specifics: ".toList, "specifics".toList, by decide +kernel, by decide +kernel⟩

/-- The line of the description. -/
def description : Slot :=
  ⟨"Description: ".toList, "description".toList, by decide +kernel, by decide +kernel⟩

theorem line_title : title.line = "Title: \x7b\x7btitle\x7d\x7d" := by decide +kernel

theorem line_specifics : specifics.line = "Item specifics: \x7b\x7bspecifics\x7d\x7d" := by
  decide +kernel

theorem line_description : description.line = "Description: \x7b\x7bdescription\x7d\x7d" := by
  decide +kernel

theorem fill_line (slot : Slot) (hlines : lines ≠ []) :
    fill (joinLines (slot.line :: lines)) values =
      slot.showing (replacement values slot.name) ++ fill (joinLines lines) values := by
  have hsplit : joinLines (slot.line :: lines) =
      slot.label ++ opening ++ (slot.name ++ closing ++ '\n' :: joinLines lines) := by
    rw [joinLines_cons _ hlines, line, String.toList_ofList]
    simp
  rw [hsplit, fill_slot slot.label_plain slot.name_plain, fill_cons (by decide), showing]
  simp

end Slot

/-! ### Layouts -/

/-- The lines of a template that shows some texts of a listing: fixed ones, those of the listing and
fixed ones again. -/
inductive LaidOut (slots : List Slot) : List String → Prop where
  | slots {back : List String} (hne : back ≠ []) (hback : ∀ line ∈ back, Fixed line) :
      LaidOut slots (slots.map Slot.line ++ back)
  | cons {chars : List Char} {lines : List String} (hfixed : isFixed chars = true)
      (hlines : LaidOut slots lines) : LaidOut slots (String.ofList chars :: lines)

theorem fill_slots (slots : List Slot) {back : List String} (hne : back ≠ [])
    (hback : ∀ line ∈ back, Fixed line) :
    fill (joinLines (slots.map Slot.line ++ back)) values =
      slots.flatMap (fun slot => slot.showing (replacement values slot.name)) ++
        joinLines back := by
  induction slots with
  | nil => exact fill_joinLines hback
  | cons slot slots ih =>
      rw [List.map_cons, List.cons_append,
        slot.fill_line (List.append_ne_nil_of_right_ne_nil _ hne), ih, List.flatMap_cons,
        List.append_assoc]

namespace LaidOut

variable {slots : List Slot}

theorem ne_nil (h : LaidOut slots lines) : lines ≠ [] := by
  cases h with
  | slots hne _ => exact List.append_ne_nil_of_right_ne_nil _ hne
  | cons _ _ => exact List.cons_ne_nil _ _

/-- **A template laid out in lines** shows each text behind its label, whatever the texts are, and
is the same for all of them everywhere else. -/
theorem exists_fill (h : LaidOut slots lines) :
    ∃ head tail, (∀ c ∈ head ++ tail, Printed c) ∧ ∀ values,
      fill (joinLines lines) values =
        head ++ slots.flatMap (fun slot => slot.showing (replacement values slot.name)) ++ tail := by
  induction h with
  | @slots back hne hback =>
      exact ⟨[], joinLines back, printed_of_mem_joinLines hback,
        fun values => fill_slots slots hne hback⟩
  | @cons chars lines hfixed hlines ih =>
      obtain ⟨head, tail, hprinted, hfill⟩ := ih
      have hline := fixed_ofList hfixed
      refine ⟨(String.ofList chars).toList ++ '\n' :: head, tail, ?_, ?_⟩
      · intro c hc
        rw [List.append_assoc, List.mem_append, List.cons_append, List.mem_cons] at hc
        rcases hc with hc | rfl | hc
        · exact Or.inr (hline.1 c hc)
        · exact Or.inl rfl
        · exact hprinted c hc
      · intro values
        rw [Prompt.fill_line hline hlines.ne_nil, hfill values]
        simp

end LaidOut

/-! ### The templates -/

theorem classification_laidOut :
    ∃ lines, Templates.classification = joinLines lines ∧ LaidOut [.title] lines := by
  refine ⟨_, rfl, ?_⟩
  rw [← Slot.line_title]
  -- the fixed lines are taken one by one, each as the list of its characters
  iterate 10 refine .cons (by decide +kernel) ?_
  refine .slots (List.cons_ne_nil _ _) ?_
  repeat first | exact List.forall_mem_nil _ | refine forall_fixed_cons (by decide +kernel) ?_

/-- The lines of a listing in the template of its category. -/
def slotsOf : Category → List Slot
  | .server => [.title, .specifics, .description]
  | _ => [.title, .specifics]

/-- Every template of an extraction has two fixed lines before those of the listing. -/
theorem template?_laidOut {category : Category} (hcategory : category ≠ .other) :
    ∃ lines, template? category = some (joinLines lines) ∧ LaidOut (slotsOf category) lines := by
  cases category with
  | other => exact absurd rfl hcategory
  | server =>
      refine ⟨_, rfl, ?_⟩
      rw [← Slot.line_title, ← Slot.line_specifics, ← Slot.line_description]
      iterate 2 refine .cons (by decide +kernel) ?_
      refine .slots (List.cons_ne_nil _ _) ?_
      repeat first | exact List.forall_mem_nil _ | refine forall_fixed_cons (by decide +kernel) ?_
  | _ =>
      refine ⟨_, rfl, ?_⟩
      rw [← Slot.line_title, ← Slot.line_specifics]
      iterate 2 refine .cons (by decide +kernel) ?_
      refine .slots (List.cons_ne_nil _ _) ?_
      repeat first | exact List.forall_mem_nil _ | refine forall_fixed_cons (by decide +kernel) ?_

/-! ### The prompts -/

section Values

variable (title specifics description : List Char)

/-- The texts of a listing, by the names of their placeholders. -/
def listingValues : List (List Char × List Char) :=
  [("title".toList, title), ("specifics".toList, specifics), ("description".toList, description)]

theorem replacement_title :
    replacement (listingValues title specifics description) Slot.title.name = title := by
  rw [listingValues, replacement_cons, if_pos (by decide +kernel)]

theorem replacement_specifics :
    replacement (listingValues title specifics description) Slot.specifics.name = specifics := by
  rw [listingValues, replacement_cons, if_neg (by decide +kernel), replacement_cons,
    if_pos (by decide +kernel)]

theorem replacement_description :
    replacement (listingValues title specifics description) Slot.description.name =
      description := by
  rw [listingValues, replacement_cons, if_neg (by decide +kernel), replacement_cons,
    if_neg (by decide +kernel), replacement_cons, if_pos (by decide +kernel)]

/-- The lines of an extraction prompt that show a listing. -/
def listingLines (category : Category) : List Char :=
  Slot.title.showing title ++ Slot.specifics.showing specifics ++
    if category = .server then Slot.description.showing description else []

theorem flatMap_slotsOf (category : Category) :
    (slotsOf category).flatMap (fun slot => slot.showing
      (replacement (listingValues title specifics description) slot.name)) =
        listingLines title specifics description category := by
  cases category <;>
    simp [slotsOf, listingLines, replacement_title, replacement_specifics, replacement_description]

end Values

/-- The prompt of a classification shows the title. -/
theorem classification_layout : ∃ head tail, ∀ title,
    Prompt.classification title = head ++ Slot.title.showing title ++ tail := by
  obtain ⟨lines, htemplate, hlaidOut⟩ := classification_laidOut
  obtain ⟨head, tail, -, hfill⟩ := hlaidOut.exists_fill
  refine ⟨head, tail, fun title => ?_⟩
  have htitle : replacement [("title".toList, title)] Slot.title.name = title := by
    rw [replacement_cons, if_pos (by decide +kernel)]
  rw [Prompt.classification, htemplate, hfill, List.flatMap_singleton, htitle]

/-- **The template of an extraction** shows three texts at one place, whatever they are, and is the
same for all of them everywhere else. -/
theorem template?_layout {category : Category} (hcategory : category ≠ .other) :
    ∃ template head tail, template? category = some template ∧
      (∀ c ∈ head ++ tail, Printed c) ∧ ∀ title specifics description,
        fill template (listingValues title specifics description) =
          head ++ listingLines title specifics description category ++ tail := by
  obtain ⟨lines, htemplate, hlaidOut⟩ := template?_laidOut hcategory
  obtain ⟨head, tail, hprinted, hfill⟩ := hlaidOut.exists_fill
  refine ⟨_, head, tail, htemplate, hprinted, fun title specifics description => ?_⟩
  rw [hfill, flatMap_slotsOf]

theorem extraction?_eq {category : Category} {template : List Char}
    (htemplate : template? category = some template) (title : List Char) (specifics : Specifics)
    (description : List Char) :
    extraction? category title specifics description = some (fill template
      (listingValues title (specificsText specifics) (descriptionText description))) := by
  rw [extraction?, htemplate, Option.map_some]
  rfl

/-- The prompt of an extraction shows the title, the specifics on one line and the description
without the blanks around it. -/
theorem extraction?_layout {category : Category} (hcategory : category ≠ .other) :
    ∃ head tail, (∀ c ∈ head ++ tail, Printed c) ∧ ∀ title specifics description,
      extraction? category title specifics description =
        some (head ++ listingLines title (specificsText specifics) (descriptionText description)
          category ++ tail) := by
  obtain ⟨template, head, tail, htemplate, hprinted, hfill⟩ := template?_layout hcategory
  refine ⟨head, tail, hprinted, fun title specifics description => ?_⟩
  rw [extraction?_eq htemplate, hfill]

/-- **Templates are filled in one pass, and values are shown verbatim.**  The parts of a template do
not depend on the values, and a value stands in the placeholders of its name and nowhere else.  The
prompt of a classification shows the title; that of an extraction shows the title, the specifics on
one line and, for a server, the description without the blanks around it, whatever they hold. -/
theorem shown_verbatim :
    (∀ template, ∃ parts, Decomposition template parts ∧
      (∀ other, Decomposition template other → other = parts) ∧
      4 * parts.countP Part.isPlaceholder ≤ template.length ∧
      (∀ values, fill template values = parts.flatMap (Part.filled values)) ∧
      (∀ name value values, fill template ((name, value) :: values) = parts.flatMap fun part =>
        if part = .placeholder name then value else part.filled values) ∧
      parts.flatMap Part.text = template ∧ fill template [] = template) ∧
    (∃ head tail, ∀ title,
      Prompt.classification title = head ++ Slot.title.showing title ++ tail) ∧
    ∀ category, category ≠ .other → ∃ template head tail, template? category = some template ∧
      (∀ title specifics description, fill template (listingValues title specifics description) =
        head ++ listingLines title specifics description category ++ tail) ∧
      ∀ title specifics description, extraction? category title specifics description =
        some (head ++ listingLines title (specificsText specifics) (descriptionText description)
          category ++ tail) := by
  refine ⟨?_, classification_layout, ?_⟩
  · intro template
    obtain ⟨parts, hparts⟩ := exists_decomposition template
    refine ⟨parts, hparts, fun other hother => hparts.unique hother, hparts.placeholders_le,
      fill_of_decomposition hparts, ?_, hparts.flatMap_text, fill_nil template⟩
    intro name value values
    rw [fill_of_decomposition hparts]
    congr 1
    funext part
    exact filled_cons name value values part
  · intro category hcategory
    obtain ⟨template, head, tail, htemplate, -, hfill⟩ := template?_layout hcategory
    refine ⟨template, head, tail, htemplate, hfill, ?_⟩
    intro title specifics description
    rw [extraction?_eq htemplate, hfill]

/-- Braces that overlap, a value that is a placeholder, and a server whose title and description name
placeholders. -/
theorem shown_verbatim_placeholders :
    Decomposition "\x7b\x7b\x7bx\x7d\x7d\x7d".toList
        [.literal [], .placeholder "\x7bx".toList, .literal ['\x7d']] ∧
      fill "\x7b\x7b\x7bx\x7d\x7d\x7d".toList
          [("\x7bx".toList, "\x7b\x7bx\x7d\x7d".toList)] = "\x7b\x7bx\x7d\x7d\x7d".toList ∧
      Category.server ≠ .other ∧ ∃ head tail,
        extraction? .server "\x7b\x7bspecifics\x7d\x7d".toList (.ofEntries [])
            "\t\x7b\x7btitle\x7d\x7d ".toList =
          some (head ++ (Slot.title.showing "\x7b\x7bspecifics\x7d\x7d".toList ++
            Slot.specifics.showing "N/A".toList ++
            Slot.description.showing "\x7b\x7btitle\x7d\x7d".toList) ++ tail) := by
  have hopening : FirstOccurrence opening "\x7b\x7b\x7bx\x7d\x7d\x7d".toList []
      "\x7bx\x7d\x7d\x7d".toList := around?_eq_some_iff.1 (by decide +kernel)
  have hclosing : FirstOccurrence closing "\x7bx\x7d\x7d\x7d".toList "\x7bx".toList ['\x7d'] :=
    around?_eq_some_iff.1 (by decide +kernel)
  have hparts : Decomposition "\x7b\x7b\x7bx\x7d\x7d\x7d".toList
      [.literal [], .placeholder "\x7bx".toList, .literal ['\x7d']] :=
    .placeholder hopening hclosing (.plain (by decide))
  obtain ⟨htemplates, -, hprompts⟩ := shown_verbatim
  refine ⟨hparts, ?_, by decide, ?_⟩
  · obtain ⟨parts, -, hunique, -, hfill, -⟩ := htemplates "\x7b\x7b\x7bx\x7d\x7d\x7d".toList
    rw [hfill, ← hunique _ hparts]
    decide +kernel
  · obtain ⟨template, head, tail, -, -, hprompt⟩ := hprompts .server (by decide)
    refine ⟨head, tail, ?_⟩
    have hdescription : descriptionText "\t\x7b\x7btitle\x7d\x7d ".toList =
        "\x7b\x7btitle\x7d\x7d".toList := by decide +kernel
    rw [hprompt, hdescription]
    rfl

/-- A description that starts with a blank is not a part of the prompt. -/
theorem description_not_verbatim :
    ∃ prompt, extraction? .server "R740".toList (.ofEntries []) "\tSFF".toList = some prompt ∧
      ¬ "\tSFF".toList <:+: prompt := by
  have hserver : Category.server ≠ .other := by decide
  obtain ⟨head, tail, hprinted, hprompt⟩ := extraction?_layout hserver
  refine ⟨_, hprompt _ _ _, fun hpart => ?_⟩
  have htab := hpart.subset (show '\t' ∈ "\tSFF".toList by decide +kernel)
  have hlines : '\t' ∉ listingLines "R740".toList (specificsText (.ofEntries []))
      (descriptionText "\tSFF".toList) .server := by decide +kernel
  have hfixed : ¬ Printed '\t' := by
    rw [Printed]
    decide
  simp only [List.mem_append, hlines, or_false] at htab
  exact hfixed (hprinted '\t' (List.mem_append.2 htab))

end ListingAttributes.Prompt
