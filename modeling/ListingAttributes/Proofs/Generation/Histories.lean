import Mathlib.Data.List.DropRight
import ListingAttributes.Generation.Scripted

/-!
# Histories of scripted backends

A family of clones may be used through any of its members: rules and replies
are added, calls are made, the log is cleared and further clones are made
(`Use`).  A history is a list of such uses (`Clones.after`).

What a use does to what the clones share is said once (`script_use`), and a
history is the sum of its uses:

* `rules_after`: the rules are those added, earliest first;
* `queue_after`: no queued reply is lost, given twice or given out of turn;
* `log_after`: the log holds the requests since it was cleared last;
* `defaults_after`: a clone keeps its default reply;
* `after_accounted`: all of these, and what the next call comes to.

The reply to a prompt while nothing is queued is described by `Answers`, without
the search that finds it.
-/

namespace ListingAttributes.Generation

/-! ### Replies -/

theorem occursIn_iff {needle text : List Char} :
    occursIn needle text = true ↔ needle <:+: text := by
  induction text with
  | nil => rw [occursIn, List.isEmpty_iff, List.infix_nil]
  | cons c text ih =>
      rw [occursIn, Bool.or_eq_true, List.isPrefixOf_iff_prefix, ih, List.infix_cons_iff]

/-- The reply to a prompt if nothing is queued: that of the earliest rule whose needle is a part of
the prompt, or the default reply if there is no such rule. -/
inductive Answers (rules : List ScriptedRule) (defaultReply prompt : String) :
    ScriptedReply → Prop where
  | rule {earlier later : List ScriptedRule} {rule : ScriptedRule}
      (hrules : rules = earlier ++ rule :: later)
      (hearlier : ∀ other ∈ earlier, ¬ other.needle <:+: prompt.toList)
      (hoccurs : rule.needle <:+: prompt.toList) : Answers rules defaultReply prompt rule.reply
  | default (hnone : ∀ rule ∈ rules, ¬ rule.needle <:+: prompt.toList) :
      Answers rules defaultReply prompt (.ok defaultReply)

/-- What a call comes to, and what is queued after it: nothing but that if it was given up, else
the reply that is queued next, else the answer to the prompt. -/
inductive Outcome (rules : List ScriptedRule) (defaultReply prompt : String) :
    Bool → List ScriptedReply → Except GenerationError Response → List ScriptedReply → Prop where
  | cancelled {queue : List ScriptedReply} :
      Outcome rules defaultReply prompt true queue (.error .cancelled) queue
  | queued {reply : ScriptedReply} {queue : List ScriptedReply} :
      Outcome rules defaultReply prompt false (reply :: queue) (reply.map Script.response) queue
  | answered {reply : ScriptedReply} (hanswers : Answers rules defaultReply prompt reply) :
      Outcome rules defaultReply prompt false [] (reply.map Script.response) []

namespace Script

theorem answers_ruleReply (script : Script) (defaultReply prompt : String) :
    Answers script.rules defaultReply prompt (script.ruleReply defaultReply prompt) := by
  unfold ruleReply
  split
  · next rule hfind =>
    obtain ⟨hoccurs, earlier, later, hrules, hearlier⟩ :=
      List.find?_eq_some_iff_append.1 hfind
    refine .rule hrules ?_ (occursIn_iff.1 hoccurs)
    intro other hother hpart
    have hnot := hearlier other hother
    rw [occursIn_iff.2 hpart] at hnot
    cases hnot
  · next hfind =>
    refine .default fun rule hrule hpart => ?_
    exact List.find?_eq_none.1 hfind rule hrule (occursIn_iff.2 hpart)

theorem content_response (reply : ScriptedReply) :
    (reply.map response).map Response.content = reply := by
  cases reply <;> rfl

/-! ### Calls -/

variable (script : Script) (defaultReply : String) (request : Request)

/-- **A call** logs its request, and takes the next reply off the queue unless it was given up. -/
theorem generate_script (cancelled : Bool) :
    (script.generate defaultReply cancelled request).2 =
      ⟨script.rules, if cancelled then script.queue else script.queue.tail,
        script.log ++ [request]⟩ := by
  obtain ⟨rules, queue, log⟩ := script
  cases cancelled with
  | true => rfl
  | false => cases queue <;> rfl

theorem generate_of_queued {reply : ScriptedReply} {queue : List ScriptedReply}
    (h : script.queue = reply :: queue) :
    (script.generate defaultReply false request).1 = reply.map response := by
  simp [generate, h]

theorem generate_of_unqueued (h : script.queue = []) :
    (script.generate defaultReply false request).1 =
      (script.ruleReply defaultReply request.prompt).map response := by
  simp [generate, h]

/-- **A call** that was given up comes to nothing else; any other is given the next queued reply,
or is answered if there is none. -/
theorem outcome_generate (cancelled : Bool) :
    Outcome script.rules defaultReply request.prompt cancelled script.queue
      (script.generate defaultReply cancelled request).1
      (script.generate defaultReply cancelled request).2.queue := by
  rw [generate_script]
  cases cancelled with
  | true => exact .cancelled
  | false =>
      cases hqueue : script.queue with
      | nil =>
          rw [generate_of_unqueued _ _ _ hqueue]
          exact .answered (script.answers_ruleReply defaultReply request.prompt)
      | cons reply queue =>
          rw [generate_of_queued _ _ _ hqueue]
          exact .queued

end Script

/-! ### Uses -/

/-- Something that is done with a scripted backend. -/
inductive Act where
  | addRule (needle : String) (reply : ScriptedReply)
  | push (reply : ScriptedReply)
  | generate (cancelled : Bool) (request : Request)
  | clearLog
  | clone

/-- Something that is done through the clone at a place. -/
structure Use where
  place : Nat
  act : Act

namespace Act

/-- The rule that is added. -/
def rule? : Act → Option ScriptedRule
  | addRule needle reply => some ⟨needle.toList, reply⟩
  | _ => none

/-- The reply that is queued. -/
def pushed? : Act → Option ScriptedReply
  | push reply => some reply
  | _ => none

/-- The request that is made, whether its caller has given up or not. -/
def request? : Act → Option Request
  | generate _ request => some request
  | _ => none

/-- Whether the next queued reply is taken. -/
def takes : Act → Bool
  | generate cancelled _ => !cancelled
  | _ => false

/-- Whether the log is cleared. -/
def clears : Act → Bool
  | clearLog => true
  | _ => false

end Act

namespace Clones

/-- The family after a use. -/
def use (clones : Clones) (use : Use) : Clones :=
  match use.act with
  | .addRule needle reply => clones.change fun script => script.addRule needle reply
  | .push reply => clones.change fun script => script.push reply
  | .generate cancelled request => (clones.generate use.place cancelled request).2
  | .clearLog => clones.change Script.clearLog
  | .clone => clones.clone use.place

/-- The family after a number of uses. -/
def after (clones : Clones) (uses : List Use) : Clones := uses.foldl Clones.use clones

/-- What a use gives of the queue: the outcome of a call that is not given up, if something is
queued for it. -/
def given (clones : Clones) (use : Use) : List ScriptedReply :=
  match use.act, clones.script.queue with
  | .generate false request, _ :: _ =>
    [(clones.generate use.place false request).1.map Response.content]
  | _, _ => []

/-- What is given of the queue in a history, in order. -/
def delivered (clones : Clones) : List Use → List ScriptedReply
  | [] => []
  | use :: uses => clones.given use ++ (clones.use use).delivered uses

variable (clones : Clones)

theorem after_append (early late : List Use) :
    clones.after (early ++ late) = (clones.after early).after late :=
  List.foldl_append

/-! ### One use -/

/-- **What a use does** to what is shared. -/
theorem script_use (use : Use) :
    (clones.use use).script =
      { rules := clones.script.rules ++ use.act.rule?.toList
        queue := (if use.act.takes then clones.script.queue.tail else clones.script.queue) ++
          use.act.pushed?.toList
        log := if use.act.clears then [] else clones.script.log ++ use.act.request?.toList } := by
  obtain ⟨place, act⟩ := use
  cases act with
  | addRule needle reply =>
      simp [Clones.use, change, Script.addRule, Act.rule?, Act.takes, Act.pushed?, Act.clears,
        Act.request?]
  | push reply =>
      simp [Clones.use, change, Script.push, Act.rule?, Act.takes, Act.pushed?, Act.clears,
        Act.request?]
  | generate cancelled request =>
      cases cancelled <;>
        simp [Clones.use, generate, Script.generate_script, Act.rule?, Act.takes, Act.pushed?,
          Act.clears, Act.request?]
  | clearLog =>
      simp [Clones.use, change, Script.clearLog, Act.rule?, Act.takes, Act.pushed?, Act.clears]
  | clone =>
      simp [Clones.use, clone, Act.rule?, Act.takes, Act.pushed?, Act.clears, Act.request?]

/-- What is given is what is taken off the queue. -/
theorem given_append (use : Use) :
    clones.given use ++
        (if use.act.takes then clones.script.queue.tail else clones.script.queue) =
      clones.script.queue := by
  obtain ⟨place, act⟩ := use
  cases act with
  | generate cancelled request =>
      cases cancelled with
      | true => rfl
      | false =>
          cases hqueue : clones.script.queue with
          | nil => simp [given, hqueue]
          | cons reply queue =>
              simp [given, hqueue, Act.takes, generate, Script.generate_of_queued _ _ _ hqueue,
                Script.content_response]
  | _ => rfl

/-- A use keeps the default reply of every clone. -/
theorem defaults_use (use : Use) : clones.defaults <+: (clones.use use).defaults := by
  obtain ⟨place, act⟩ := use
  cases act with
  | clone => exact List.prefix_append _ _
  | _ => exact List.prefix_refl _

/-! ### Histories -/

variable (uses : List Use)

theorem rules_after :
    (clones.after uses).script.rules =
      clones.script.rules ++ uses.filterMap fun use => use.act.rule? := by
  induction uses generalizing clones with
  | nil => exact (List.append_nil _).symm
  | cons use uses ih =>
      calc (clones.after (use :: uses)).script.rules
          = (clones.use use).script.rules ++ uses.filterMap fun use => use.act.rule? := ih _
        _ = clones.script.rules ++
              (use.act.rule?.toList ++ uses.filterMap fun use => use.act.rule?) := by
            rw [script_use, List.append_assoc]
        _ = clones.script.rules ++ (use :: uses).filterMap fun use => use.act.rule? := by
            rw [List.filterMap_cons]
            cases use.act.rule? <;> rfl

/-- **No queued reply is lost, given twice or given out of turn.** -/
theorem queue_after :
    clones.delivered uses ++ (clones.after uses).script.queue =
      clones.script.queue ++ uses.filterMap fun use => use.act.pushed? := by
  induction uses generalizing clones with
  | nil => exact (List.append_nil _).symm
  | cons use uses ih =>
      calc clones.delivered (use :: uses) ++ (clones.after (use :: uses)).script.queue
          = clones.given use ++ ((clones.use use).delivered uses ++
              ((clones.use use).after uses).script.queue) := List.append_assoc _ _ _
        _ = (clones.given use ++ (clones.use use).script.queue) ++
              uses.filterMap fun use => use.act.pushed? := by
            rw [ih, List.append_assoc]
        _ = clones.script.queue ++
              (use.act.pushed?.toList ++ uses.filterMap fun use => use.act.pushed?) := by
            rw [script_use, ← List.append_assoc, given_append, List.append_assoc]
        _ = clones.script.queue ++ (use :: uses).filterMap fun use => use.act.pushed? := by
            rw [List.filterMap_cons]
            cases use.act.pushed? <;> rfl

/-- **The log holds the requests since it was cleared last**, whether their callers had given up
or not. -/
theorem log_after :
    (clones.after uses).script.log =
      (if uses.any fun use => use.act.clears then [] else clones.script.log) ++
        (uses.rtakeWhile fun use => !use.act.clears).filterMap fun use => use.act.request? := by
  -- from the last use backwards, since only what follows the last clearing counts
  induction uses using List.reverseRecOn with
  | nil => exact (List.append_nil _).symm
  | append_singleton uses use ih =>
      have hlast : clones.after (uses ++ [use]) = (clones.after uses).use use :=
        clones.after_append uses [use]
      rw [hlast, script_use, List.rtakeWhile_concat, List.any_append]
      cases hclears : use.act.clears with
      | true => simp [hclears]
      | false =>
          rw [ih]
          cases hrequest : use.act.request? <;> simp [hclears, hrequest]

theorem defaults_after : clones.defaults <+: (clones.after uses).defaults := by
  induction uses generalizing clones with
  | nil => exact List.prefix_refl _
  | cons use uses ih => exact (clones.defaults_use use).trans (ih (clones.use use))

theorem defaultOf_clone (i : Nat) :
    (clones.clone i).defaultOf clones.defaults.length = clones.defaultOf i := by
  rw [defaultOf, clone]
  simp

/-- **Nothing is lost or given twice.**  After any uses of a family of clones, through any of them:
the replies that were given of the queue, and then those still queued, are those that were queued,
in order; the log holds the requests since it was cleared last, oldest first; the next call,
through any clone, comes to what the queue, the rules and the default reply of that clone say; and
a clone keeps the default reply that it has from the one it was made of. -/
theorem after_accounted (clones : Clones) (uses : List Use) :
    let now := clones.after uses
    clones.delivered uses ++ now.script.queue =
        clones.script.queue ++ uses.filterMap (fun use => use.act.pushed?) ∧
      now.script.log =
        (if uses.any fun use => use.act.clears then [] else clones.script.log) ++
          (uses.rtakeWhile fun use => !use.act.clears).filterMap (fun use => use.act.request?) ∧
      (∀ i cancelled request,
        let call := now.generate i cancelled request
        Outcome (clones.script.rules ++ uses.filterMap fun use => use.act.rule?)
          (now.defaultOf i) request.prompt cancelled now.script.queue call.1
          call.2.script.queue) ∧
      clones.defaults <+: now.defaults ∧
      ∀ i, (now.use ⟨i, .clone⟩).defaultOf now.defaults.length = now.defaultOf i := by
  intro now
  refine ⟨clones.queue_after uses, clones.log_after uses, ?_, clones.defaults_after uses, ?_⟩
  · intro i cancelled request call
    rw [← rules_after]
    exact now.script.outcome_generate (now.defaultOf i) request cancelled
  · intro i
    exact now.defaultOf_clone i

/-- A reply queued through one clone is given to the first call of another that is not given up. -/
example (request : Request) :
    (single "none" .empty).delivered
        [⟨0, .push (.ok "first")⟩, ⟨0, .push (.error .timeout)⟩, ⟨0, .clone⟩,
          ⟨1, .generate true request⟩, ⟨1, .generate false request⟩] = [.ok "first"] :=
  rfl

end Clones

end ListingAttributes.Generation
