import ListingAttributes.Extraction.Backends
import ListingAttributes.Proofs.Extraction.TwoStage
import ListingAttributes.Proofs.Generation.Histories

/-!
# Operations that take turns

Several operations share one extractor over one scripted backend, and in each
turn one of them makes its next call (`Extractor.turn`).  All they have in
common is the script.  While nothing is queued, the answer to a request depends
on the rules and not on what was logged before (`backend_standing`), so an
operation that gets a turn has its next answer wherever the others are.

* `turns_left`: after any turns, what is left of an operation comes to what the
  whole of it comes to alone, and still makes those of its requests that it had
  no turn for;
* `turns_log`: what was logged is a merge of the requests that were made;
* `turns_independent`: both of these about the results and the log.
-/

namespace ListingAttributes.Extraction

open Generation Settings

/-! ### Merges -/

/-- A list is a merge of others: it takes the first element of one of them, over and over, until
nothing is left. -/
inductive Merge {α : Type} : List (List α) → List α → Prop where
  | nil {parts : List (List α)} (hparts : ∀ part ∈ parts, part = []) : Merge parts []
  | cons {parts : List (List α)} {i : Nat} {first : α} {rest whole : List α}
      (hpart : parts[i]? = some (first :: rest)) (hrest : Merge (parts.set i rest) whole) :
      Merge parts (first :: whole)

/-! ### Operations -/

/-- An operation on a listing. -/
inductive Operation where
  | classify (title : String)
  | extract (category : Category) (title : String) (specifics : Specifics)
  | extractWithDescription (category : Category) (title : String) (specifics : Specifics)
      (description : String)
  | classifyAndExtract (title : String) (specifics : Specifics)

/-- What an operation finds out about a listing. -/
inductive Finding where
  | category (category : Category)
  | record (record : Record)
  | classified (category : Category) (record : Record)
  deriving DecidableEq

/-- The dialogue of an operation. -/
def Operation.dialogue (settings : ExtractionSettings) :
    Operation → Dialogue (Except ExtractionError Finding)
  | .classify title => (Extraction.classify settings title).map (·.map .category)
  | .extract category title specifics =>
    (Extraction.extract settings category title specifics).map (·.map .record)
  | .extractWithDescription category title specifics description =>
    (Extraction.extractWithDescription settings category title specifics description).map
      (·.map .record)
  | .classifyAndExtract title specifics =>
    (Extraction.classifyAndExtract settings title specifics).map
      (·.map fun found => .classified found.1 found.2)

/-- What is left of an operation, and whether its caller has given it up. -/
structure Task where
  dialogue : Dialogue (Except ExtractionError Finding)
  cancelled : Bool

/-- What an operation that is over has come to. -/
def Task.result? (task : Task) : Option (Except ExtractionError Finding) :=
  match task.dialogue with
  | .done result => some result
  | .ask _ _ => none

/-- The operations that share a backend, each as far as it has come, and their script. -/
structure Pool where
  tasks : List Task
  script : Script

/-- What the operation at a place has come to. -/
def Pool.result? (pool : Pool) (i : Nat) : Option (Except ExtractionError Finding) :=
  pool.tasks[i]?.bind Task.result?

/-- An extractor over a scripted backend that answers at once. -/
structure Extractor where
  settings : ExtractionSettings
  defaultReply : String

namespace Extractor

variable (extractor : Extractor)

/-- The backend, for a caller who may have given up. -/
def backend (cancelled : Bool) : Backend Script :=
  scripted extractor.defaultReply cancelled (milliseconds extractor.settings.callTimeout) 0

/-- An operation before its first call. -/
def task (operation : Operation) (cancelled : Bool) : Task :=
  ⟨operation.dialogue extractor.settings, cancelled⟩

/-- A turn: the operation at a place makes its next call.  One that is over does nothing. -/
def turn (pool : Pool) (i : Nat) : Pool :=
  match pool.tasks[i]? with
  | some ⟨.ask request next, cancelled⟩ =>
    let (outcome, script) := extractor.backend cancelled request pool.script
    ⟨pool.tasks.set i ⟨next outcome, cancelled⟩, script⟩
  | _ => pool

/-- One turn after the other, each of the operation at the place that is next in the order. -/
def turns (pool : Pool) (order : List Nat) : Pool := order.foldl extractor.turn pool

theorem turns_cons (pool : Pool) (i : Nat) (order : List Nat) :
    extractor.turns pool (i :: order) = extractor.turns (extractor.turn pool i) order := rfl

/-- What an operation comes to if no other one takes turns with it. -/
def alone (script : Script) (task : Task) : Except ExtractionError Finding :=
  (task.dialogue.run (extractor.backend task.cancelled) script).1

/-- The requests of an operation if no other one takes turns with it. -/
def requests (script : Script) (task : Task) : List Request :=
  task.dialogue.requests (extractor.backend task.cancelled) script

/-- The requests that each operation has had turns for, in an order of turns. -/
def shares (script : Script) (tasks : List Task) (order : List Nat) : List (List Request) :=
  tasks.mapIdx fun i task => (extractor.requests script task).take (order.count i)

/-! ### Answers -/

section Answers

variable (rules : List ScriptedRule)

/-- The answer to a request while nothing is queued. -/
def answer (cancelled : Bool) (request : Request) : CallOutcome :=
  (extractor.backend cancelled request ⟨rules, [], []⟩).1

/-- **While nothing is queued**, an answer does not depend on the log, and nothing but the log
changes. -/
theorem backend_standing (cancelled : Bool) (request : Request) (log : List Request) :
    extractor.backend cancelled request ⟨rules, [], log⟩ =
      (extractor.answer rules cancelled request, ⟨rules, [], log ++ [request]⟩) := by
  unfold answer backend scripted
  rw [if_pos (Nat.zero_le _), if_pos (Nat.zero_le _)]
  cases cancelled <;> rfl

/-- What a dialogue comes to, and what it asks, does not depend on the log. -/
theorem run_of_log (cancelled : Bool) (dialogue : Dialogue (Except ExtractionError Finding))
    (log other : List Request) :
    (dialogue.run (extractor.backend cancelled) ⟨rules, [], log⟩).1 =
        (dialogue.run (extractor.backend cancelled) ⟨rules, [], other⟩).1 ∧
      dialogue.requests (extractor.backend cancelled) ⟨rules, [], log⟩ =
        dialogue.requests (extractor.backend cancelled) ⟨rules, [], other⟩ := by
  induction dialogue generalizing log other with
  | done result => exact ⟨rfl, rfl⟩
  | ask request next ih =>
      obtain ⟨hrun, hrequests⟩ := ih (extractor.answer rules cancelled request)
        (log ++ [request]) (other ++ [request])
      simp only [Dialogue.run, Dialogue.requests, backend_standing]
      exact ⟨hrun, congrArg _ hrequests⟩

variable {rules}

theorem alone_ask (request : Request)
    (next : CallOutcome → Dialogue (Except ExtractionError Finding)) (cancelled : Bool)
    (log : List Request) :
    extractor.alone ⟨rules, [], log⟩ ⟨.ask request next, cancelled⟩ =
      extractor.alone ⟨rules, [], log⟩
        ⟨next (extractor.answer rules cancelled request), cancelled⟩ := by
  unfold alone
  rw [Dialogue.run_ask, backend_standing]
  exact (extractor.run_of_log rules cancelled _ _ _).1

theorem requests_ask (request : Request)
    (next : CallOutcome → Dialogue (Except ExtractionError Finding)) (cancelled : Bool)
    (log : List Request) :
    extractor.requests ⟨rules, [], log⟩ ⟨.ask request next, cancelled⟩ =
      request :: extractor.requests ⟨rules, [], log⟩
        ⟨next (extractor.answer rules cancelled request), cancelled⟩ := by
  unfold requests
  simp only [Dialogue.requests, backend_standing]
  exact congrArg _ (extractor.run_of_log rules cancelled _ _ _).2

end Answers

/-! ### Turns -/

section Turns

variable {extractor} {rules : List ScriptedRule}

theorem requests_of_done {task : Task} {result : Except ExtractionError Finding}
    (h : task.dialogue = .done result) (script : Script) : extractor.requests script task = [] := by
  unfold requests
  rw [h]
  rfl

/-- **A turn** answers the next request of an operation and logs it, or the operation at the place
is over, or there is none, and nothing happens. -/
theorem turn_cases (tasks : List Task) (log : List Request) (i : Nat) :
    (∃ request next cancelled, tasks[i]? = some ⟨.ask request next, cancelled⟩ ∧
        extractor.turn ⟨tasks, ⟨rules, [], log⟩⟩ i =
          ⟨tasks.set i ⟨next (extractor.answer rules cancelled request), cancelled⟩,
            ⟨rules, [], log ++ [request]⟩⟩) ∨
      ((∀ task, tasks[i]? = some task → ∃ result, task.dialogue = .done result) ∧
        extractor.turn ⟨tasks, ⟨rules, [], log⟩⟩ i = ⟨tasks, ⟨rules, [], log⟩⟩) := by
  unfold turn
  cases htask : tasks[i]? with
  | none =>
      right
      refine ⟨?_, rfl⟩
      intro task h
      cases h
  | some task =>
      obtain ⟨dialogue, cancelled⟩ := task
      cases dialogue with
      | done result =>
          right
          refine ⟨?_, rfl⟩
          intro task h
          cases h
          exact ⟨result, rfl⟩
      | ask request next =>
          left
          refine ⟨request, next, cancelled, rfl, ?_⟩
          dsimp only
          rw [backend_standing]

/-- **What is left of an operation** after any turns of all of them: alone, it comes to the same,
and it makes the requests that there was no turn for. -/
theorem turns_left {tasks : List Task} {log : List Request} {i : Nat} {task : Task}
    (htask : tasks[i]? = some task) (order : List Nat) (start : List Request) :
    ∃ left, (extractor.turns ⟨tasks, ⟨rules, [], log⟩⟩ order).tasks[i]? = some left ∧
      extractor.alone ⟨rules, [], start⟩ left = extractor.alone ⟨rules, [], start⟩ task ∧
      extractor.requests ⟨rules, [], start⟩ left =
        (extractor.requests ⟨rules, [], start⟩ task).drop (order.count i) := by
  induction order generalizing tasks log task with
  | nil => exact ⟨task, htask, rfl, rfl⟩
  | cons j order ih =>
      rw [turns_cons]
      rcases turn_cases tasks log j with
        ⟨request, next, cancelled, hasks, hturn⟩ | ⟨hover, hturn⟩
      · rw [hturn]
        by_cases hj : j = i
        · subst hj
          -- its own turn: one request fewer is left
          obtain rfl := Option.some.inj (hasks.symm.trans htask)
          have hlt : j < tasks.length := (List.getElem?_eq_some_iff.1 htask).1
          rw [alone_ask, requests_ask, List.count_cons_self, List.drop_succ_cons]
          exact ih (List.getElem?_set_self hlt)
        · rw [List.count_cons_of_ne hj]
          exact ih ((List.getElem?_set_ne hj).trans htask)
      · rw [hturn]
        by_cases hj : j = i
        · subst hj
          obtain ⟨result, hdone⟩ := hover task htask
          have hnil : extractor.requests ⟨rules, [], start⟩ task = [] := requests_of_done hdone _
          have hleft := @ih tasks log task htask
          rw [hnil, List.drop_nil] at hleft ⊢
          exact hleft
        · rw [List.count_cons_of_ne hj]
          exact ih htask

/-- A turn of an operation that asks takes the first request off its share. -/
theorem shares_cons_of_ask {tasks : List Task} {start : List Request} {i : Nat} {request : Request}
    {next : CallOutcome → Dialogue (Except ExtractionError Finding)} {cancelled : Bool}
    (hasks : tasks[i]? = some ⟨.ask request next, cancelled⟩) (order : List Nat) :
    let task := ⟨next (extractor.answer rules cancelled request), cancelled⟩
    (extractor.shares ⟨rules, [], start⟩ tasks (i :: order))[i]? =
        some (request ::
          (extractor.requests ⟨rules, [], start⟩ task).take (order.count i)) ∧
      (extractor.shares ⟨rules, [], start⟩ tasks (i :: order)).set i
          ((extractor.requests ⟨rules, [], start⟩ task).take (order.count i)) =
        extractor.shares ⟨rules, [], start⟩ (tasks.set i task) order := by
  intro task
  unfold shares
  refine ⟨?_, ?_⟩
  · rw [List.getElem?_mapIdx, hasks, Option.map_some, requests_ask, List.count_cons_self,
      List.take_succ_cons]
  · apply List.ext_getElem?
    intro j
    rw [List.getElem?_mapIdx, List.getElem?_set, List.getElem?_set, List.length_mapIdx,
      List.getElem?_mapIdx]
    by_cases hj : i = j
    · subst hj
      have hlt : i < tasks.length := (List.getElem?_eq_some_iff.1 hasks).1
      simp [hlt]
    · simp [hj]

/-- A turn of an operation that is over adds nothing to any share. -/
theorem shares_cons_of_over {tasks : List Task} {i : Nat}
    (hover : ∀ task, tasks[i]? = some task → ∃ result, task.dialogue = .done result)
    (script : Script) (order : List Nat) :
    extractor.shares script tasks (i :: order) = extractor.shares script tasks order := by
  unfold shares
  apply List.ext_getElem?
  intro j
  rw [List.getElem?_mapIdx, List.getElem?_mapIdx]
  by_cases hj : i = j
  · subst hj
    cases htask : tasks[i]? with
    | none => rfl
    | some task =>
        obtain ⟨result, hdone⟩ := hover task htask
        rw [Option.map_some, Option.map_some, requests_of_done hdone, List.take_nil, List.take_nil]
  · rw [List.count_cons_of_ne hj]

/-- With a turn for each of its requests, an operation has all of them as its share. -/
theorem shares_eq_map {script : Script} {tasks : List Task} {order : List Nat}
    (h : ∀ i task, tasks[i]? = some task →
      (extractor.requests script task).length ≤ order.count i) :
    extractor.shares script tasks order = tasks.map (extractor.requests script) := by
  unfold shares
  apply List.ext_getElem?
  intro i
  rw [List.getElem?_mapIdx, List.getElem?_map]
  cases htask : tasks[i]? with
  | none => rfl
  | some task => rw [Option.map_some, Option.map_some, List.take_of_length_le (h i task htask)]

/-- **The log grows by a merge** of the shares of the operations, and nothing else of the script
changes. -/
theorem turns_log (tasks : List Task) (log : List Request) (order : List Nat)
    (start : List Request) :
    ∃ made, (extractor.turns ⟨tasks, ⟨rules, [], log⟩⟩ order).script = ⟨rules, [], log ++ made⟩ ∧
      Merge (extractor.shares ⟨rules, [], start⟩ tasks order) made := by
  induction order generalizing tasks log with
  | nil =>
      refine ⟨[], by rw [List.append_nil]; rfl, .nil ?_⟩
      intro part hpart
      obtain ⟨i, hi, rfl⟩ := List.mem_mapIdx.1 hpart
      rfl
  | cons i order ih =>
      rw [turns_cons]
      rcases turn_cases tasks log i with
        ⟨request, next, cancelled, hasks, hturn⟩ | ⟨hover, hturn⟩
      · obtain ⟨made, hscript, hmerge⟩ :=
          ih (tasks.set i ⟨next (extractor.answer rules cancelled request), cancelled⟩)
            (log ++ [request])
        obtain ⟨hpart, hrest⟩ := shares_cons_of_ask hasks order
        rw [← hrest] at hmerge
        refine ⟨request :: made, ?_, .cons hpart hmerge⟩
        rw [hturn, hscript, List.append_assoc, List.singleton_append]
      · rw [hturn, shares_cons_of_over hover]
        exact ih tasks log

end Turns

/-! ### Independence -/

theorem result?_eq (rules : List ScriptedRule) (log : List Request) (task : Task) :
    task.result? =
      if extractor.requests ⟨rules, [], log⟩ task = [] then
        some (extractor.alone ⟨rules, [], log⟩ task)
      else none := by
  obtain ⟨dialogue, cancelled⟩ := task
  cases dialogue with
  | done result => rfl
  | ask request next =>
      rw [requests_ask, if_neg (List.cons_ne_nil _ _)]
      rfl

/-- **Operations that take turns do not influence each other.**  Over a script with any rules and
nothing queued, and for every order of turns: an operation is over as soon as it has had a turn for
each request that it makes alone, and then it has come to what it comes to alone; the requests that
were logged are a merge of those that each operation makes alone, as far as it has had turns for
them, so that all of them are logged when all operations are over. -/
theorem turns_independent (rules : List ScriptedRule) (log : List Request)
    (operations : List (Operation × Bool)) (order : List Nat) :
    let script : Script := ⟨rules, [], log⟩
    let tasks := operations.map fun entry => extractor.task entry.1 entry.2
    let after := extractor.turns ⟨tasks, script⟩ order
    (∀ i task, tasks[i]? = some task →
        after.result? i =
          if (extractor.requests script task).length ≤ order.count i then
            some (extractor.alone script task)
          else none) ∧
      ∃ made, after.script = ⟨rules, [], log ++ made⟩ ∧
        Merge (extractor.shares script tasks order) made ∧
        ((∀ i < tasks.length, (after.result? i).isSome) →
          Merge (tasks.map (extractor.requests script)) made) := by
  intro script tasks after
  have hresult : ∀ i task, tasks[i]? = some task →
      after.result? i =
        if (extractor.requests script task).length ≤ order.count i then
          some (extractor.alone script task)
        else none := by
    intro i task htask
    obtain ⟨left, hleft, halone, hrequests⟩ := turns_left htask order log
    rw [Pool.result?, hleft, Option.bind_some, extractor.result?_eq rules log, hrequests, halone]
    simp only [List.drop_eq_nil_iff]
    rfl
  obtain ⟨made, hscript, hmerge⟩ : ∃ made, after.script = ⟨rules, [], log ++ made⟩ ∧
      Merge (extractor.shares script tasks order) made := turns_log tasks log order log
  refine ⟨hresult, made, hscript, hmerge, ?_⟩
  intro hover
  -- an operation that is over has had a turn for each of its requests
  have hturns : ∀ i task, tasks[i]? = some task →
      (extractor.requests script task).length ≤ order.count i := by
    intro i task htask
    have hsome := hover i (List.getElem?_eq_some_iff.1 htask).1
    rw [hresult i task htask] at hsome
    split at hsome
    · next hle => exact hle
    · cases hsome
  rw [← shares_eq_map hturns]
  exact hmerge

/-- A rule for every prompt. -/
def always (text : String) : List ScriptedRule := [⟨[], .ok text⟩]

theorem backend_always (text : String) (request : Request) (log : List Request) :
    extractor.backend false request ⟨always text, [], log⟩ =
      (.answered text, ⟨always text, [], log ++ [request]⟩) := by
  rw [backend_standing]
  have hoccurs : occursIn [] request.prompt.toList = true := occursIn_iff.2 List.nil_infix
  simp [answer, backend, scripted, Script.generate, Script.ruleReply, always, hoccurs,
    Except.map, CallOutcome.ofResult, Script.response]

theorem alone_of_follows {script : Script} {task : Task} {exchanges : List Exchange}
    {result : Except ExtractionError Finding}
    (hgives : Gives (extractor.backend task.cancelled) script exchanges)
    (hfollows : task.dialogue.Follows exchanges result) :
    extractor.requests script task = exchanges.map Prod.fst ∧
      extractor.alone script task = result :=
  Dialogue.run_iff.2 ⟨exchanges, rfl, hgives, hfollows⟩

/-- Where the name of a category answers every prompt, a combined run finds the category but no
record. -/
theorem alone_always {text title : String} {specifics : Specifics} {category : Category}
    {prompt : List Char} {error : Reply.ReplyError}
    (hcategory : Category.parse? text = some category)
    (hprompt : Prompt.extraction? category title.toList specifics "".toList = some prompt)
    (hparse : Reply.parse text.toList = .error error) :
    let script : Script := ⟨always text, [], []⟩
    let task := extractor.task (.classifyAndExtract title specifics) false
    extractor.requests script task =
        [firstRequest extractor.settings title, secondRequest extractor.settings prompt] ∧
      extractor.alone script task = .error (.extracting category (.parse error.message)) := by
  intro script task
  have hfollows : task.dialogue.Follows
      [(firstRequest extractor.settings title, .answered text),
        (secondRequest extractor.settings prompt, .answered text)]
      (.error (.extracting category (.parse error.message))) :=
    Dialogue.follows_map_iff.2 ⟨_, follows_classifyAndExtract_iff.2
      (.extractionFailed hcategory hprompt (.unparsed hparse)), rfl⟩
  refine extractor.alone_of_follows ?_ hfollows
  simp only [Gives, script, task, Extractor.task, backend_always, and_self]

/-- A classification whose caller has given it up is cancelled in its one call. -/
theorem alone_cancelled (script : Script) (title : String) :
    let task := extractor.task (.classify title) true
    extractor.requests script task = [classificationRequest extractor.settings title] ∧
      extractor.alone script task = .error (.generation .cancelled) := by
  intro task
  have hfollows : task.dialogue.Follows
      [(classificationRequest extractor.settings title, .failed .cancelled)]
      (.error (.generation .cancelled)) :=
    Dialogue.follows_map_iff.2 ⟨_, follows_ask_iff.2 ⟨.failed .cancelled, rfl, rfl⟩, rfl⟩
  have hgives : Gives (extractor.backend task.cancelled) script
      [(classificationRequest extractor.settings title, .failed .cancelled)] := ⟨rfl, trivial⟩
  exact extractor.alone_of_follows hgives hfollows

theorem turns_independent_pair :
    let extractor : Extractor := ⟨.default, "other"⟩
    let script : Script := ⟨always "RAM", [], []⟩
    let both := extractor.task (.classifyAndExtract "32GB DDR4" (.ofEntries [])) false
    let given := extractor.task (.classify "X520") true
    let after := extractor.turns ⟨[both, given], script⟩ [0, 1, 0]
    (∃ message, after.result? 0 = some (.error (.extracting .ram (.parse message)))) ∧
      after.result? 1 = some (.error (.generation .cancelled)) ∧
      ∃ made, after.script = ⟨always "RAM", [], made⟩ ∧
        Merge [extractor.requests script both, extractor.requests script given] made := by
  intro extractor script both given after
  obtain ⟨hresult, made, hscript, -, hmerge⟩ := extractor.turns_independent (always "RAM") []
    [(.classifyAndExtract "32GB DDR4" (.ofEntries []), false), (.classify "X520", true)] [0, 1, 0]
  obtain ⟨error, hparse⟩ : ∃ error, Reply.parse "RAM".toList = .error error := by
    cases hparse : Reply.parse "RAM".toList with
    | error error => exact ⟨error, rfl⟩
    | ok record =>
        have hnone : (Reply.parse "RAM".toList).toOption = none := by decide +kernel
        rw [hparse] at hnone
        cases hnone
  obtain ⟨prompt, hprompt⟩ : ∃ prompt, Prompt.extraction? .ram "32GB DDR4".toList (.ofEntries [])
    "".toList = some prompt := ⟨_, rfl⟩
  -- the name of the category answers both prompts, but it is no record
  obtain ⟨hasked, hunread⟩ := extractor.alone_always (by decide +kernel) hprompt hparse
  obtain ⟨hgiven, hcancelled⟩ := extractor.alone_cancelled script "X520"
  have hfirst := hresult 0 both rfl
  have hsecond := hresult 1 given rfl
  have hturns : [0, 1, 0].count 0 = 2 ∧ [0, 1, 0].count 1 = 1 := by decide
  rw [hasked, hunread, hturns.1] at hfirst
  rw [hgiven, hcancelled, hturns.2] at hsecond
  simp only [List.length_cons, List.length_nil, Nat.zero_add, Nat.reduceAdd, Nat.le_refl,
    if_true] at hfirst hsecond
  refine ⟨⟨_, hfirst⟩, hsecond, made, hscript, hmerge ?_⟩
  intro i hi
  rcases Nat.le_one_iff_eq_zero_or_eq_one.1 (Nat.le_of_lt_succ hi) with rfl | rfl
  · exact congrArg Option.isSome hfirst
  · exact congrArg Option.isSome hsecond

end Extractor

end ListingAttributes.Extraction
