import ListingAttributes.Generation.Request

/-!
# Scripted backends

A backend that answers from a script, for trying out everything above it without a provider.  Its
reply to a call is the next one queued, or else that of the earliest rule whose needle occurs in
the prompt, or else a default reply.

Clones of a scripted backend share its rules, its queue and its log and have a default reply each.
What they share is a `Script`; `Clones` is a script with the default replies of all its users.
-/

namespace ListingAttributes.Generation

/-- A scripted outcome of a call. -/
abbrev ScriptedReply := Except GenerationError String

/-- An answer for prompts that contain a needle. -/
structure ScriptedRule where
  needle : List Char
  reply : ScriptedReply

/-- Whether a text occurs in another; the empty text occurs in every one. -/
def occursIn (needle : List Char) : List Char → Bool
  | [] => needle.isEmpty
  | c :: text => needle.isPrefixOf (c :: text) || occursIn needle text

/-- What the clones of a scripted backend share. -/
structure Script where
  /-- The rules, earliest first. -/
  rules : List ScriptedRule
  /-- The replies that are still to be given once, next one first. -/
  queue : List ScriptedReply
  /-- The requests seen since the log was cleared, oldest first. -/
  log : List Request

namespace Script

/-- What all scripted backends are called, and the model they report. -/
def name : String := "mock"

/-- The reply of a backend that was given none. -/
def standardDefault : String := "Default mock response"

/-- No rules, an empty queue and an empty log. -/
def empty : Script := ⟨[], [], []⟩

/-- Adds a rule behind those there are. -/
def addRule (script : Script) (needle : String) (reply : ScriptedReply) : Script :=
  { script with rules := script.rules ++ [⟨needle.toList, reply⟩] }

/-- Queues a reply behind those there are. -/
def push (script : Script) (reply : ScriptedReply) : Script :=
  { script with queue := script.queue ++ [reply] }

/-- Forgets the requests seen so far. -/
def clearLog (script : Script) : Script := { script with log := [] }

/-- The reply to a prompt when nothing is queued. -/
def ruleReply (script : Script) (defaultReply prompt : String) : ScriptedReply :=
  match script.rules.find? fun rule => occursIn rule.needle prompt.toList with
  | some rule => rule.reply
  | none => .ok defaultReply

/-- The response that carries a text. -/
def response (content : String) : Response := ⟨content, name, Usage.zero⟩

/-- The outcome of a call and the state after it.  The request is logged even if the call was given
up before; such a call takes nothing from the queue. -/
def generate (script : Script) (defaultReply : String) (cancelled : Bool) (request : Request) :
    Except GenerationError Response × Script :=
  let logged := { script with log := script.log ++ [request] }
  if cancelled then (.error .cancelled, logged)
  else
    match script.queue with
    | reply :: queue => (reply.map response, { logged with queue })
    | [] => ((script.ruleReply defaultReply request.prompt).map response, logged)

end Script

/-! ## Clones -/

/-- A family of clones: the default reply of each, oldest clone first, and what they share. -/
structure Clones where
  defaults : List String
  script : Script

namespace Clones

/-- A single backend. -/
def single (defaultReply : String) (script : Script) : Clones := ⟨[defaultReply], script⟩

/-- The default reply of a clone. -/
def defaultOf (clones : Clones) (i : Nat) : String :=
  clones.defaults[i]?.getD Script.standardDefault

/-- A further clone, of the clone at a place. -/
def clone (clones : Clones) (i : Nat) : Clones :=
  { clones with defaults := clones.defaults ++ [clones.defaultOf i] }

/-- A change of what is shared, made through any of the clones. -/
def change (clones : Clones) (f : Script → Script) : Clones :=
  { clones with script := f clones.script }

/-- The outcome of a call of one clone, and the family after it. -/
def generate (clones : Clones) (i : Nat) (cancelled : Bool) (request : Request) :
    Except GenerationError Response × Clones :=
  let (result, script) := clones.script.generate (clones.defaultOf i) cancelled request
  (result, { clones with script })

end Clones

end ListingAttributes.Generation
