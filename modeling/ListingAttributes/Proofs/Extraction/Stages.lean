import Mathlib.Logic.ExistsUnique
import ListingAttributes.Extraction.Backends
import ListingAttributes.Proofs.Extraction.Exchanges

/-!
# Stages around a cause

An error is a cause inside any number of stages, in one way only
(`exists_within`, `within_injective`).  Root, message, category and
cancellation are read off the stages and the cause (`root_within`,
`message_within`, `category?_within`, `isCancelled_within`).

An operation with a single question fails by its cause, or by the prompt that
could not be rendered, so that none of its errors names a category
(`category?_of_ask`, `category?_of_askAttributes`).
-/

namespace ListingAttributes

open Extraction

namespace ExtractionError

/-! ### Stages -/

/-- A stage that an error was passed on by. -/
inductive Stage where
  | rendering (category : Category)
  | classifying
  | extracting (category : Category)
  deriving DecidableEq

namespace Stage

/-- What a message names a stage by. -/
def label : Stage → String
  | rendering category => "rendering " ++ category.name ++ " prompt: "
  | classifying => "classifying: "
  | extracting _ => "extracting: "

/-- An error that a stage passes on. -/
def wrap : Stage → ExtractionError → ExtractionError
  | rendering category, source => .rendering category source
  | classifying, source => .classifying source
  | extracting category, source => .extracting category source

theorem wrap_inj {stage other : Stage} {source error : ExtractionError} :
    stage.wrap source = other.wrap error ↔ stage = other ∧ source = error := by
  cases stage <;> cases other <;> simp [wrap]

@[simp] theorem root_wrap (stage : Stage) (source : ExtractionError) :
    (stage.wrap source).root = source.root := by
  cases stage <;> rfl

theorem message_wrap (stage : Stage) (source : ExtractionError) :
    (stage.wrap source).message = stage.label ++ source.message := by
  cases stage <;> rfl

theorem category?_wrap_iff {stage : Stage} {source : ExtractionError} {category : Category} :
    (stage.wrap source).category? = some category ↔ stage = .extracting category := by
  cases stage <;> simp [wrap, category?]

end Stage

/-- An error that no stage passed on. -/
def IsCause (error : ExtractionError) : Prop :=
  ∀ (stage : Stage) (source : ExtractionError), error ≠ stage.wrap source

/-- A cause inside stages, the outermost one first. -/
def within (stages : List Stage) (cause : ExtractionError) : ExtractionError :=
  stages.foldr Stage.wrap cause

variable {stages others : List Stage} {cause other : ExtractionError}

theorem root_of_isCause (h : cause.IsCause) : cause.root = cause := by
  cases cause with
  | rendering category source => exact absurd rfl (h (.rendering category) source)
  | classifying source => exact absurd rfl (h .classifying source)
  | extracting category source => exact absurd rfl (h (.extracting category) source)
  | _ => rfl

theorem category?_of_isCause (h : cause.IsCause) : cause.category? = none := by
  cases cause with
  | extracting category source => exact absurd rfl (h (.extracting category) source)
  | _ => rfl

/-! ### Chains -/

/-- Every error is a cause inside stages. -/
theorem exists_within (error : ExtractionError) :
    ∃ stages cause, cause.IsCause ∧ error = within stages cause := by
  induction error with
  | rendering category source ih =>
      obtain ⟨stages, cause, hcause, rfl⟩ := ih
      exact ⟨.rendering category :: stages, cause, hcause, rfl⟩
  | classifying source ih =>
      obtain ⟨stages, cause, hcause, rfl⟩ := ih
      exact ⟨.classifying :: stages, cause, hcause, rfl⟩
  | extracting category source ih =>
      obtain ⟨stages, cause, hcause, rfl⟩ := ih
      exact ⟨.extracting category :: stages, cause, hcause, rfl⟩
  | _ =>
      refine ⟨[], _, ?_, rfl⟩
      intro stage source
      cases stage <;> exact nofun

/-- The stages of an error and its cause are determined. -/
theorem within_injective (hcause : cause.IsCause) (hother : other.IsCause)
    (h : within stages cause = within others other) : stages = others ∧ cause = other := by
  induction stages generalizing others with
  | nil =>
      cases others with
      | nil => exact ⟨rfl, h⟩
      | cons stage others => exact absurd h (hcause stage _)
  | cons stage stages ih =>
      cases others with
      | nil => exact absurd h.symm (hother stage _)
      | cons stage' others =>
          obtain ⟨rfl, hrest⟩ := Stage.wrap_inj.1 h
          obtain ⟨rfl, rfl⟩ := ih hrest
          exact ⟨rfl, rfl⟩

theorem root_within (h : cause.IsCause) : (within stages cause).root = cause := by
  induction stages with
  | nil => exact root_of_isCause h
  | cons stage stages ih => exact (Stage.root_wrap stage _).trans ih

theorem message_within :
    (within stages cause).message = String.join (stages.map Stage.label) ++ cause.message := by
  induction stages with
  | nil => simp [within]
  | cons stage stages ih =>
      calc (within (stage :: stages) cause).message
          = stage.label ++ (within stages cause).message := Stage.message_wrap stage _
        _ = String.join ((stage :: stages).map Stage.label) ++ cause.message := by
            rw [ih, List.map_cons, String.join_cons, String.append_assoc]

/-- The outermost stage decides whether an error names a category. -/
theorem category?_within (h : cause.IsCause) {category : Category} :
    (within stages cause).category? = some category ↔
      stages.head? = some (.extracting category) := by
  cases stages with
  | nil => simp [within, category?_of_isCause h]
  | cons stage stages =>
      rw [List.head?_cons, Option.some.injEq]
      exact Stage.category?_wrap_iff

theorem isCancelled_within (h : cause.IsCause) :
    (within stages cause).isCancelled = true ↔ cause = .generation .cancelled := by
  unfold isCancelled
  rw [root_within h]
  split <;> simp_all

end ExtractionError

/-! ### Operations with one question -/

namespace Extraction

open ExtractionError Settings

variable {α σ : Type} {settings : ExtractionSettings} {backend : Backend σ} {state : σ}
  {error : ExtractionError}

theorem category?_of_ask {request : Generation.Request} {use : String → Except ExtractionError α}
    (huse : ∀ content error, use content = .error error → error.category? = none)
    (h : ((ask settings request use).run backend state).1 = .error error) :
    error.category? = none := by
  rw [result_ask] at h
  cases houtcome : (backend request state).1 with
  | answered content =>
      rw [houtcome] at h
      exact huse content error h
  | failed cause =>
      rw [houtcome] at h
      cases h
      rfl
  | overran =>
      rw [houtcome] at h
      cases h
      rfl

theorem category?_of_categoryOfAnswer {answer : String}
    (h : categoryOfAnswer answer = .error error) : error.category? = none := by
  unfold categoryOfAnswer at h
  split at h
  · cases h
  · cases h
    rfl

theorem category?_of_recordOfReply {category : Category} {title reply : String}
    (h : recordOfReply category title reply = .error error) : error.category? = none := by
  unfold recordOfReply at h
  split at h
  · cases h
    rfl
  · split at h
    · cases h
      rfl
    · cases h

theorem category?_of_askAttributes {category : Category} {title : String}
    {prompt? : Option (List Char)}
    (h : ((askAttributes settings category title prompt?).run backend state).1 = .error error) :
    error.category? = none := by
  unfold askAttributes at h
  split at h
  · cases h
    rfl
  · exact category?_of_ask (fun _ _ => category?_of_recordOfReply) h

end Extraction

/-! ### Errors -/

open ExtractionError Settings

/-- **Errors are unwrapped at any depth.**  Every error is a cause inside stages, in one way; its
root is the cause, its message has the labels of the stages, from the outermost to the innermost,
and then the message of the cause, it is a cancellation exactly if the cause is one, and it names a
category exactly if the outermost stage is an extraction of that category.  The operations with one
question return no error that names a category, whoever answers. -/
theorem errors_unwrapped :
    (∀ error : ExtractionError, ∃! chain : List Stage × ExtractionError,
      chain.2.IsCause ∧ error = within chain.1 chain.2) ∧
    (∀ (stages : List Stage) (cause : ExtractionError), cause.IsCause →
      (within stages cause).root = cause ∧
      (within stages cause).message =
        String.join (stages.map Stage.label) ++ cause.message ∧
      ((within stages cause).isCancelled = true ↔ cause = .generation .cancelled) ∧
      ∀ category, (within stages cause).category? = some category ↔
        stages.head? = some (.extracting category)) ∧
    ∀ (settings : ExtractionSettings) (title : String) (specifics : Specifics)
      (description : String) (category : Category) (σ : Type) (backend : Backend σ) (state : σ)
      (error : ExtractionError),
      ((classify settings title).run backend state).1 = .error error ∨
          ((extract settings category title specifics).run backend state).1 = .error error ∨
          ((extractWithDescription settings category title specifics description).run
            backend state).1 = .error error →
        error.category? = none := by
  refine ⟨?_, ?_, ?_⟩
  · intro error
    obtain ⟨stages, cause, hcause, rfl⟩ := exists_within error
    refine ⟨(stages, cause), ⟨hcause, rfl⟩, ?_⟩
    rintro ⟨others, other⟩ ⟨hother, h⟩
    obtain ⟨rfl, rfl⟩ := within_injective hcause hother h
    rfl
  · intro stages cause hcause
    exact ⟨root_within hcause, message_within, isCancelled_within hcause,
      fun _ => category?_within hcause⟩
  · rintro settings title specifics description category σ backend state error (h | h | h)
    · exact category?_of_ask (fun _ _ => category?_of_categoryOfAnswer) h
    · exact category?_of_askAttributes h
    · exact category?_of_askAttributes h

/-- A cancelled call inside stages in an order that no operation has, and an extraction without a
template. -/
theorem errors_unwrapped_nested :
    let stages : List Stage := [.rendering .cpu, .extracting .ram, .classifying]
    let cause : ExtractionError := .generation .cancelled
    let backend := scripted "ram" false 10 0
    cause.IsCause ∧ (within stages cause).root = cause ∧
    (within stages cause).message =
      "rendering cpu prompt: extracting: classifying: " ++ cause.message ∧
    ∃ error, ((extract .default .other "R740" (.ofEntries [])).run backend .empty).1 =
        .error error ∧
      error.category? = none := by
  intro stages cause backend
  obtain ⟨-, hchain, hnone⟩ := errors_unwrapped
  have hcause : cause.IsCause := by
    intro stage source
    cases stage <;> exact nofun
  obtain ⟨hroot, hmessage, -⟩ := hchain stages cause hcause
  have hrun : ((extract .default .other "R740" (.ofEntries [])).run backend .empty).1 =
      .error (.rendering .other (.unsupportedCategory .other)) := rfl
  refine ⟨hcause, hroot, hmessage, _, hrun, ?_⟩
  exact hnone .default "R740" (.ofEntries []) "" .other _ backend .empty _ (Or.inr (Or.inl hrun))

end ListingAttributes
