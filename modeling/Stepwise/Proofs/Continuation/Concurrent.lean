import Stepwise.Engine.Suspension
import Stepwise.Storage.ContinuationMap

/-!
# Suspending and resuming side by side

Calls that suspend or resume share one store of continuations and one signal; each is cut into its
requests, and the requests of different calls come in any order. A request to the store may fail and
then changes nothing, and the store may see any clock.
-/

namespace Stepwise.Continuations

set_option autoImplicit false

/-- A call that saves a continuation or takes one. -/
inductive Call where
  | suspend (s : Settings) (w : Wait) (state : ExecutionState) (stepId resumeToken : String)
  | resume (s : Settings) (key : String) (payload : Json)

inductive Ending where
  | suspended (outcome : Except StepError ContinuationRecord)
  | resumed (outcome : Except ResumeError ContinuationRecord)

namespace Call

def program : Call → Program Ending
  | .suspend s w state stepId resumeToken =>
    Ending.suspended <$> (w.suspend s state stepId resumeToken).run
  | .resume s key payload => Ending.resumed <$> Resume.deliver s key payload

/-- The token that a call brings along. -/
def token? : Call → Option String
  | .suspend _ _ _ _ resumeToken => some resumeToken
  | .resume _ _ _ => none

end Call

/-- What the calls share: the store, and the signals that were accepted. -/
structure World where
  store : ContinuationMap
  accepted : List (String × Json) := []

/-- A reply to a request, and the world after it. -/
def World.Replies (w : World) : (r : Request) → Reply r → World → Prop
  | .saveContinuation key record ttlSeconds, reply, w' =>
    match (reply : Except EngineError Unit) with
    | .ok () => ∃ now m, w.store.save now key record ttlSeconds = .ok m ∧ w' = { w with store := m }
    | .error _ => w' = w
  | .takeContinuation key, reply, w' =>
    match (reply : Except EngineError (Option ContinuationRecord)) with
    | .ok answer => ∃ now, answer = (w.store.take now key).1 ∧
        w' = { w with store := (w.store.take now key).2 }
    | .error _ => w' = w
  | .sendSignal resumeToken payload, reply, w' =>
    match (reply : Except SignalError Unit) with
    | .ok () => w' = { w with accepted := (resumeToken, payload) :: w.accepted }
    | .error _ => w' = w
  | _, _, w' => w' = w

/-- A call under way, and the record that it has taken out of the store. -/
structure Thread where
  program : Program Ending
  taken : Option ContinuationRecord := none

namespace Thread

def isFinished (t : Thread) : Bool :=
  match t.program with
  | .done _ => true
  | .ask _ _ => false

/-- The call has taken a record with the token, and has not finished. -/
def holds (token : String) (t : Thread) : Bool :=
  !t.isFinished && t.taken.any fun r => r.resumeToken = token

def resumed (token : String) (t : Thread) : Bool :=
  match t.program with
  | .done (.resumed (.ok r)) => r.resumeToken = token
  | _ => false

/-- The record that a call has taken after a reply. -/
def takenAfter (taken : Option ContinuationRecord) : (r : Request) → Reply r →
    Option ContinuationRecord
  | .takeContinuation _, reply =>
    match (reply : Except EngineError (Option ContinuationRecord)) with
    | .ok (some r) => some r
    | _ => taken
  | _, _ => taken

end Thread

def count (store : ContinuationMap) (token : String) : Nat :=
  store.entries.countP fun e => e.2.record.resumeToken = token

def World.acceptances (w : World) (token : String) : Nat := w.accepted.countP fun e => e.1 = token

structure System where
  threads : List Thread
  world : World

namespace System

def start (store : ContinuationMap) (calls : List Call) : System :=
  ⟨calls.map fun c => ⟨c.program, none⟩, ⟨store, []⟩⟩

/-- One of the calls gets the reply to its request. -/
inductive Step : System → System → Prop where
  | serve {before after : List Thread} {r : Request} {next : Reply r → Program Ending}
      {taken : Option ContinuationRecord} {w w' : World} (reply : Reply r)
      (h : w.Replies r reply w') :
      Step ⟨before ++ ⟨.ask r next, taken⟩ :: after, w⟩
        ⟨before ++ ⟨next reply, Thread.takenAfter taken r reply⟩ :: after, w'⟩

/-- The systems that some interleaving leads to. -/
inductive Runs (first : System) : System → Prop where
  | refl : Runs first first
  | step {sys sys' : System} (h : Runs first sys) (hLast : Step sys sys') : Runs first sys'

def stored (sys : System) (token : String) : Nat := count sys.world.store token

def held (sys : System) (token : String) : Nat := sys.threads.countP (Thread.holds token)

def resumed (sys : System) (token : String) : Nat := sys.threads.countP (Thread.resumed token)

def accepted (sys : System) (token : String) : Nat := sys.world.acceptances token

end System

def tokens (store : ContinuationMap) : List String :=
  store.entries.map fun e => e.2.record.resumeToken

end Stepwise.Continuations
