import ListingAttributes.Extraction.Dialogue
import ListingAttributes.Generation.Adapter
import ListingAttributes.Generation.Scripted

/-!
# Backends of a dialogue

The two kinds of backends that a dialogue can be run over: a scripted one, and an adapter together
with the peer that its requests go to.
-/

namespace ListingAttributes.Extraction

open Generation

/-- A scripted backend that waits before it answers.  A call whose time is up before the wait is
over never gets to the script.  Times are in milliseconds. -/
def scripted (defaultReply : String) (cancelled : Bool) (allowed delay : Nat) : Backend Script :=
  fun request script =>
    if delay ≤ allowed then
      let (result, script) := script.generate defaultReply cancelled request
      (.ofResult result, script)
    else (.overran, script)

/-- How a request fares with a peer: what is seen of the call, one sighting after the other, and
how long that takes, in milliseconds. -/
structure Encounter where
  sightings : List Sighting
  duration : Nat

/-- An adapter and its peer.  A call that is over before anything is sent leaves the peer as it
is; one that nothing ends is cut off when its time is up. -/
def networked {σ : Type} (adapter : Adapter) (allowed : Nat) (cancelled : σ → Bool)
    (peer : HttpRequest → σ → Encounter × σ) : Backend σ :=
  fun request state =>
    let started := Call.notStarted.step adapter request ⟨cancelled state, none⟩
    match started.sent? with
    | none =>
      (match started.result? with
        | some result => .ofResult result
        | none => .overran, state)
    | some sent =>
      let (encounter, state) := peer sent state
      (match (started.run adapter request encounter.sightings).result? with
        | some result => .within allowed encounter.duration result
        | none => .overran, state)

end ListingAttributes.Extraction
