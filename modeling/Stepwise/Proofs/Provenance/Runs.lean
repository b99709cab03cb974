import Stepwise.Proofs.Interpreter.BranchTree
import Stepwise.Proofs.Program.Exchanges
import Stepwise.Proofs.Program.Repetition
import Stepwise.Proofs.Provenance.Calls

/-!
# Runs from an empty store

Runs of the engine from an empty object store. Executions are started and called in any order, their
requests are interleaved, and states, branches and messages are gone on with as they were left.
Every object that is read lies at a place where a value was offloaded before, or at one that outside
data may name.
-/

namespace Stepwise

set_option autoImplicit false

open Program

/-- A value was stored at the place, and its pointer was answered. -/
def Offloaded (log : List Exchange) (p : Pointer) : Prop :=
  ∃ content,
    (⟨.putObject p.container p.key content, (.ok () : Except EngineError Unit)⟩ : Exchange) ∈ log

/-- The places that pointers may lead to: those that are vouched for, and those of offloaded values.
-/
def Known (vouched : Pointer → Prop) (log : List Exchange) (p : Pointer) : Prop :=
  vouched p ∨ Offloaded log p

/-- What the surroundings may reply after a log. The store began empty, so it answers only what was
put into it. All else comes from outside: it is honest, and leads to known places. -/
def Served (words : Words) (vouched : Pointer → Prop) (log : List Exchange) : Allowed
  | .getObject container key, reply => ∀ content, reply = .ok content →
      ∃ done, (⟨.putObject container key content, done⟩ : Exchange) ∈ log
  | .putObject _ _ _, _ => True
  | r, reply => (honestTerms words (Known vouched log)).promised r reply

/-- The states that an answer leaves: that of the execution, and one for every branch that it
starts. -/
def statesLeft : Answered → List ExecutionState
  | .ok result => result.state :: result.branches.map fun p => p.initialState result.state
  | .error failure => [failure.state]

def statesStarted : Except EngineError StepResult → List ExecutionState
  | .ok result => [result.state]
  | .error _ => []

/-- Where a run stands: what was asked and replied so far, the states that were left, and the
programs at work, each of which leaves states when it is done. -/
structure Stage where
  log : List Exchange := []
  states : List ExecutionState := []
  working : List (Program (List ExecutionState)) := []

namespace Stage

def starting (m : StartMessage) : Program (List ExecutionState) :=
  statesStarted <$> (Interpreter.start m).run

def calling (s : Settings) (state : ExecutionState) (c : Interpreter.Call) :
    Program (List ExecutionState) :=
  statesLeft <$> c.program s state

/-- How a run goes on. What comes from outside is honest where it arrives. -/
inductive Step (s : Settings) (words : Words) (vouched : Pointer → Prop) : Stage → Stage →
    Prop where
  /-- A message from outside starts an execution. -/
  | start {stage : Stage} {m : StartMessage}
      (hOutside : (Json.obj m.context).Honest words (Known vouched stage.log)) :
      Step s words vouched stage { stage with working := starting m :: stage.working }
  /-- A message that an execution has sent starts another one. -/
  | queued {stage : Stage} {m : StartMessage} {sent : Except EngineError Unit}
      (hSender : (⟨.enqueueStart m, sent⟩ : Exchange) ∈ stage.log) :
      Step s words vouched stage { stage with working := starting m :: stage.working }
  /-- An execution is called with a state that was left, whenever and as often as it may be. -/
  | call {stage : Stage} {state : ExecutionState} {c : Interpreter.Call}
    (hLeft : state ∈ stage.states)
      (hSpoken : state.Spoken words) (hOutside : c.Honest words (Known vouched stage.log)) :
      Step s words vouched stage { stage with working := calling s state c :: stage.working }
  /-- One of the programs is replied to. -/
  | reply {log : List Exchange} {states : List ExecutionState}
      {before after : List (Program (List ExecutionState))} {r : Request}
      {next : Reply r → Program (List ExecutionState)} {reply : Reply r}
      (hServed : Served words vouched log r reply) :
      Step s words vouched ⟨log, states, before ++ .ask r next :: after⟩
        ⟨log ++ [⟨r, reply⟩], states, before ++ next reply :: after⟩
  /-- One of the programs is done. -/
  | rest {log : List Exchange} {states left : List ExecutionState}
      {before after : List (Program (List ExecutionState))} :
      Step s words vouched ⟨log, states, before ++ .done left :: after⟩
        ⟨log, left ++ states, before ++ after⟩

/-- The run comes to the stage, from nothing. -/
def Reached (s : Settings) (words : Words) (vouched : Pointer → Prop) : Stage → Prop :=
  Relation.ReflTransGen (Step s words vouched) {}

section Safety

variable {s : Settings} {words : Words} {vouched : Pointer → Prop} {stage stage' : Stage}
  {log : List Exchange}

theorem known_append {p : Pointer} (h : Known vouched log p) (more : List Exchange) :
    Known vouched (log ++ more) p :=
  h.imp id fun ⟨content, hAmong⟩ => ⟨content, List.mem_append_left _ hAmong⟩

/-- What was asked was in order when it was asked: known places were read, and honest documents were
stored and sent. -/
structure Traced (words : Words) (vouched : Pointer → Prop) (log : List Exchange) : Prop where
  read {before after : List Exchange} {container key : String} {reply : Except EngineError String}
    (h : log = before ++ (⟨.getObject container key, reply⟩ : Exchange) :: after) :
    Known vouched before ⟨container, key⟩
  stored {container key content : String} {done : Except EngineError Unit}
    (hAmong : (⟨.putObject container key content, done⟩ : Exchange) ∈ log) :
    ∃ v : Json, v.Honest words (Known vouched log) ∧ content = v.render
  sent {m : StartMessage} {sent : Except EngineError Unit}
    (hAmong : (⟨.enqueueStart m, sent⟩ : Exchange) ∈ log) :
    (Json.obj m.context).Honest words (Known vouched log)

def StatesHonest (words : Words) (places : Pointer → Prop) (states : List ExecutionState) : Prop :=
  ∀ state ∈ states, state.Honest words places

/-- The invariant of runs. A program at work keeps to its terms whatever becomes known meanwhile. -/
structure Safe (words : Words) (vouched : Pointer → Prop) (stage : Stage) : Prop where
  traced : Traced words vouched stage.log
  states : StatesHonest words (Known vouched stage.log) stage.states
  working {p : Program (List ExecutionState)} (hAmong : p ∈ stage.working) {places : Pointer → Prop}
    (hMore : ∀ q, Known vouched stage.log q → places q) :
    Confined (honestTerms words places) (StatesHonest words places) p

theorem Traced.append (hTraced : Traced words vouched log) {r : Request} {reply : Reply r}
    (hPermitted : (honestTerms words (Known vouched log)).permitted r) :
    Traced words vouched (log ++ [⟨r, reply⟩]) where
  read {before after container key reply'} h := by
    rcases List.eq_nil_or_concat after with rfl | ⟨after, x, rfl⟩
    · obtain ⟨rfl, hLast⟩ := List.append_inj' h rfl
      cases hLast
      exact hPermitted
    · rw [List.concat_eq_append, ← List.cons_append, ← List.append_assoc] at h
      exact hTraced.read (List.append_inj' h rfl).1
  stored {container key content done} hAmong := by
    rcases List.mem_append.mp hAmong with hOld | hNew
    · obtain ⟨v, hHonest, hSame⟩ := hTraced.stored hOld
      exact ⟨v, hHonest.mono fun q hKnown => known_append hKnown _, hSame⟩
    · cases List.mem_singleton.mp hNew
      obtain ⟨v, hHonest, hSame⟩ := hPermitted
      exact ⟨v, Json.Honest.mono hHonest fun q hKnown => known_append hKnown _, hSame⟩
  sent {m sent} hAmong := by
    rcases List.mem_append.mp hAmong with hOld | hNew
    · exact (hTraced.sent hOld).mono fun q hKnown => known_append hKnown _
    · cases List.mem_singleton.mp hNew
      exact Json.Honest.mono hPermitted fun q hKnown => known_append hKnown _

theorem Safe.work (hSafe : Safe words vouched stage) {p : Program (List ExecutionState)}
    (h : ∀ places, (∀ q, Known vouched stage.log q → places q) →
      Confined (honestTerms words places) (StatesHonest words places) p) :
    Safe words vouched { stage with working := p :: stage.working } where
  traced := hSafe.traced
  states := hSafe.states
  working {q} hAmong {places} hMore := by
    rcases List.mem_cons.mp hAmong with rfl | hOld
    · exact h places hMore
    · exact hSafe.working hOld hMore

end Safety

end Stage

end Stepwise
