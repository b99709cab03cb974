import Stepwise.Proofs.Interpreter.Lifecycle
import Stepwise.Proofs.Interpreter.Requests
import Stepwise.Proofs.Program.Exchanges

/-!
# Messages that start flows

The messages that a visit to a step puts on the queue of flow starts. A message leaves before the
output of its step is written, and nothing takes it back: it is the one of a call that completes the
step, or of a call that failed after it.
-/

namespace Stepwise

set_option autoImplicit false

open Interpreter Program

def Exchange.accepting (m : StartMessage) : Exchange :=
  ⟨.enqueueStart m, (.ok () : Except EngineError Unit)⟩

def Exchange.accepted? : Exchange → Option StartMessage
  | ⟨.enqueueStart m, reply⟩ =>
    match (reply : Except EngineError Unit) with
    | .ok () => some m
    | .error _ => none
  | _ => none

/-- The messages that the queue accepted, in order. -/
def accepted (log : List Exchange) : List StartMessage := log.filterMap Exchange.accepted?

namespace Request

def StartsNothing : Request → Prop
  | .enqueueStart _ => False
  | _ => True

theorem startsNothing_of_ofObjects (r : Request) (h : r.OfObjects) : r.StartsNothing := by
  cases r <;> trivial

theorem startsNothing_of_isRead (r : Request) (h : r.IsRead) : r.StartsNothing :=
  startsNothing_of_ofObjects r (ofObjects_of_isRead r h)

end Request

theorem accepted_append (before after : List Exchange) :
    accepted (before ++ after) = accepted before ++ accepted after :=
  List.filterMap_append

theorem accepted_refused (m : StartMessage) (e : EngineError) :
    accepted [⟨.enqueueStart m, (.error e : Except EngineError Unit)⟩] = [] := rfl

theorem accepted_of_only {α : Type} {allowed : Allowed} {p : Program α} {log : List Exchange}
    {a : α} (h : Exchanges allowed p log a) (hOnly : Only Request.StartsNothing p) :
    accepted log = [] := by
  apply List.filterMap_eq_nil_iff.mpr
  intro x hx
  have hNothing := h.only hOnly x hx
  obtain ⟨r, reply⟩ := x
  cases r <;> first | rfl | cases hNothing

/-- The step starts an execution of another flow. -/
def Step.StartsFlow (step : Step) : Prop :=
  ∃ target, step.kind = .startSubFlow target ∨ step.kind = .startFlowExecution target

namespace Interpreter

def startOutput (id : String) : Json := .object [("flowExecutionId", .str id)]

section Calls

variable {allowed : Allowed} {s : Settings} {f : Flow} {step : Step} {state : ExecutionState}
  {log : List Exchange}

theorem writeOutput_ofObjects (output : Json) :
    Only Request.OfObjects (writeOutput s step state output).run :=
  only_run_bind (only_run_adapt (Output.apply_ofObjects s _ _ output _)) fun _ => only_run_pure

theorem complete_ofObjects (output : Json) :
    Only Request.OfObjects (complete s f step state output).run := by
  apply only_run_bind (writeOutput_ofObjects output)
  intro left
  apply only_run_bind
  · exact only_run_adapt (only_mono Request.ofObjects_of_isRead (step.next_reads _).only)
  · intro next
    apply only_run_bind
    · exact only_run_adapt trivial
    · intro action
      cases next with
      | none => exact only_run_pure
      | some id => exact only_run_pure

theorem prepare_startsNothing : Only Request.StartsNothing (prepare state) := by
  unfold prepare
  split
  · exact only_pure
  · apply only_bind (only_request trivial)
    intro reply
    match reply with
    | .ok (some flow) => exact only_pure
    | .ok none => exact only_pure
    | .error e => exact only_pure

theorem accepted_of_complete {output : Json} {x : Except StepError StepResult}
    (h : Exchanges allowed (complete s f step state output).run log x) : accepted log = [] :=
  accepted_of_only h (only_mono Request.startsNothing_of_ofObjects (complete_ofObjects output))

theorem accepted_of_input {x : Except StepError (Dict Json)}
    (h : Exchanges allowed (input s f step state).run log x) : accepted log = [] := by
  refine accepted_of_only h (only_mono Request.startsNothing_of_isRead ?_)
  exact only_run_adapt (Input.ofStep_reads s step _ _).only

/-- The parent that the step names in what it sends for the target. -/
def Names (step : Step) (state : ExecutionState) (target : FlowStart) (parentId : Option String) :
    Prop :=
  (step.kind = .startSubFlow target ∧ parentId = some state.executionId) ∨
    (step.kind = .startFlowExecution target ∧ parentId = none)

/-- The message starts the flow of the step under this id. -/
structure SentBy (step : Step) (state : ExecutionState) (m : StartMessage) (id : String) :
    Prop where
  target : ∃ target, Names step state target m.parentExecutionId ∧ m.flowId = target.flowId ∧
    m.version = target.version ∧ m.triggerSource = target.triggerSource
  executionId : m.executionId = some id

/-- One message was accepted, and completing the step with the id that it carries came to this. -/
structure Sends (allowed : Allowed) (s : Settings) (f : Flow) (step : Step) (state : ExecutionState)
    (log : List Exchange) (m : StartMessage) (x : Except StepError StepResult) : Prop where
  single : accepted log = [m]
  completes : ∃ id before after, SentBy step state m id ∧
    log = before ++ Exchange.accepting m :: after ∧
    Exchanges allowed (complete s f step state (startOutput id)).run after x

theorem Sends.prepend {before : List Exchange} {m : StartMessage} {x : Except StepError StepResult}
    (hQuiet : accepted before = []) (h : Sends allowed s f step state log m x) :
    Sends allowed s f step state (before ++ log) m x := by
  obtain ⟨id, sooner, after, hSent, rfl, hCompletes⟩ := h.completes
  refine ⟨?_, id, before ++ sooner, after, hSent, by simp, hCompletes⟩
  rw [accepted_append, hQuiet, h.single]
  rfl

theorem sends_of_startFlow {target : FlowStart} {parentId : Option String}
    {x : Except StepError StepResult} (hNames : Names step state target parentId)
    (h : Exchanges allowed (startFlow s f step state target parentId).run log x) :
    (accepted log = [] ∧ ∃ e, x = .error e) ∨ ∃ m, Sends allowed s f step state log m x := by
  rcases exchanges_run_bind.mp h with ⟨e, hi, rfl⟩ | ⟨resolved, context, rest, rfl, hi, hAfterInput⟩
  · exact .inl ⟨accepted_of_input hi, e, rfl⟩
  have hNoneResolved := accepted_of_input hi
  rcases exchanges_run_bind.mp hAfterInput with
    ⟨e, hn, rfl⟩ | ⟨named, id, rest, rfl, hn, hAfterName⟩
  · obtain ⟨_, -, hFailed⟩ := exchanges_run_lift.mp hn
    cases hFailed
  obtain ⟨_, hn, -⟩ := exchanges_run_lift.mp hn
  have hNoneNamed := accepted_of_only hn (only_request trivial)
  rcases exchanges_run_bind.mp hAfterName with
    ⟨e, hq, rfl⟩ | ⟨queued, u, after, rfl, hq, hCompletes⟩
  · obtain ⟨reply, hq, hFailed⟩ := exchanges_run_adapt.mp hq
    obtain ⟨-, rfl⟩ := exchanges_request.mp hq
    cases reply with
    | ok u => cases hFailed
    | error refused =>
      refine .inl ⟨?_, e, rfl⟩
      rw [accepted_append, accepted_append, hNoneResolved, hNoneNamed, accepted_refused]
      rfl
  · obtain ⟨reply, hq, hSucceeded⟩ := exchanges_run_adapt.mp hq
    obtain ⟨-, rfl⟩ := exchanges_request.mp hq
    cases reply with
    | error refused => cases hSucceeded
    | ok v =>
      let m : StartMessage := {
        flowId := target.flowId
        version := target.version
        context := context
        executionId := some id
        triggerSource := target.triggerSource
        parentExecutionId := parentId }
      have hSent : SentBy step state m id := ⟨⟨target, hNames, rfl, rfl, rfl⟩, rfl⟩
      refine .inr ⟨m, ?_, id, resolved ++ named, after, hSent, ?_, hCompletes⟩
      · have hNoneLeft := accepted_of_complete hCompletes
        rw [accepted_append, accepted_append, accepted_append, hNoneResolved, hNoneNamed, hNoneLeft]
        rfl
      · rw [List.append_assoc]
        rfl

theorem sends_of_runStep {x : Except StepError StepResult} (hStarts : step.StartsFlow)
    (h : Exchanges allowed (runStep s f step state).run log x) :
    (accepted log = [] ∧ ∃ e, x = .error e) ∨ ∃ m, Sends allowed s f step state log m x := by
  unfold runStep at h
  obtain ⟨target, hKind | hKind⟩ := hStarts
  · rw [hKind] at h
    exact sends_of_startFlow (.inl ⟨hKind, rfl⟩) h
  · rw [hKind] at h
    exact sends_of_startFlow (.inr ⟨hKind, rfl⟩) h

theorem exchanges_apply_of_complete {output : Json} {result : StepResult}
    (h : Exchanges allowed (complete s f step state output).run log (.ok result)) :
    ∃ written, written <+: log ∧ Exchanges allowed
      (Output.apply s state.executionId step.outputMappings output state.context).run written
        (.ok result.state.context) := by
  rcases exchanges_run_bind.mp h with ⟨e, -, hFailed⟩ | ⟨first, left, rest, rfl, hw, hMoves⟩
  · cases hFailed
  rcases exchanges_run_bind.mp hw with ⟨e, -, hFailed⟩ | ⟨written, context, last, rfl, ha, hl⟩
  · cases hFailed
  obtain ⟨rfl, hWrote⟩ := exchanges_pure.mp hl
  have hWrote : left.context = context := congrArg ExecutionState.context (Except.ok.inj hWrote)
  obtain ⟨applied, ha, hSame⟩ := exchanges_run_adapt.mp ha
  cases applied with
  | error e => cases hSame
  | ok applied =>
    cases hSame
    have hKept : result.state.context = left.context := by
      have hMoves := hMoves.reaches
      simp only [reachesUnder_bind_ok] at hMoves
      obtain ⟨next, -, action, -, hMoves⟩ := hMoves
      cases next with
      | none =>
        rw [reachesUnder_pure_ok] at hMoves
        rw [hMoves]
      | some id =>
        rw [reachesUnder_pure_ok] at hMoves
        rw [hMoves]
    exact ⟨written, ⟨rest, by simp⟩, by rwa [hKept, hWrote]⟩

/-- The call did not complete the step. -/
def Fails (answer : Answered) : Prop :=
  ∀ result, answer = .ok result → result.state.errorInfo ≠ none

theorem fails_error (failure : RetryableFailure) : Fails (.error failure) := by
  intro result h
  cases h

theorem errorInfo_failTerminally (state : ExecutionState) (flow : Option Flow)
    (id : Option String) (error : ErrorInfo) :
    (state.failTerminally flow id error).state.errorInfo = some error := by
  unfold ExecutionState.failTerminally
  dsimp only
  split <;> rfl

theorem fails_failTerminally (state : ExecutionState) (flow : Option Flow) (id : Option String)
    (error : ErrorInfo) : Fails (.ok (state.failTerminally flow id error)) := by
  intro result h
  cases h
  rw [errorInfo_failTerminally]
  exact Option.some_ne_none error

theorem fails_settle (r : Ready) (e : StepError) : Fails (settle s r (.error e)) := by
  simp only [settle]
  split
  · split
    · exact fails_error _
    · exact fails_failTerminally _ _ _ _
  · exact fails_failTerminally _ _ _ _

theorem errorInfo_of_leaves {result : StepResult} (h : Leaves allowed s f step state result) :
    result.state.errorInfo = none := by
  cases h <;> rfl

end Calls

/-- An execution of the flow that is under way and whose next call works at the step. -/
structure Awaits (f : Flow) (step : Step) (state : ExecutionState) : Prop where
  owns : f.Owns state
  live : state.isTerminal = false
  stands : f.stepOf? (activate f state) = some step

section Retries

variable {s : Settings} {f : Flow} {step : Step} {state : ExecutionState} {log : List Exchange}
  {answer : Answered}

/-- A call looks up the flow and works at the step, unless the look-up fails. -/
theorem exchanges_execute (hAwaits : Awaits f step state)
    (h : Exchanges (Stores f) (execute s state) log answer) :
    (accepted log = [] ∧ Fails answer ∧ ∀ failure, answer = .error failure →
      failure.state = state) ∨
      ∃ found work outcome, log = found ++ work ∧ accepted found = [] ∧
        Exchanges (Stores f) (runStep s f step (activate f state)).run work outcome ∧
        answer = settle s ⟨f, step, activate f state⟩ outcome := by
  obtain ⟨found, x, log, rfl, hp, h⟩ := exchanges_bind.mp h
  have hQuiet := accepted_of_only hp prepare_startsNothing
  cases prepare_prepares hp.reaches with
  | ended hTerminal =>
    rw [hAwaits.live] at hTerminal
    cases hTerminal
  | missing hLive hReply => cases hReply hAwaits.owns.1 hAwaits.owns.2 _ rfl
  | failed hLive hReply =>
    obtain ⟨rfl, rfl⟩ := exchanges_pure.mp h
    refine .inl ⟨by simpa using hQuiet, ?_⟩
    split
    · refine ⟨fails_error _, ?_⟩
      intro failure hr
      cases hr
      rfl
    · exact ⟨fails_failTerminally _ _ _ _, fun _ hr => nomatch hr⟩
  | found hLive hReply =>
    cases hReply hAwaits.owns.1 hAwaits.owns.2 _ rfl
    obtain ⟨id, hCurrent, hKnown⟩ := Option.bind_eq_some_iff.mp hAwaits.stands
    rw [locate_of_step hCurrent hKnown] at h
    obtain ⟨work, outcome, after, rfl, hw, h⟩ := exchanges_bind.mp h
    obtain ⟨rfl, rfl⟩ := exchanges_pure.mp h
    exact .inr ⟨found, work, outcome, by simp, hQuiet, hw, rfl⟩

theorem Awaits.activated (hAwaits : Awaits f step state) (attempts : Dict UInt32) :
    Awaits f step { activate f state with attempts := attempts } := by
  have hRunning : (activate f state).status ≠ .initializing ∧
    (activate f state).isTerminal = false := by
    by_cases hs : state.status = .initializing
    · rw [activate_of_initializing f hs]
      simp [ExecutionState.isTerminal, Status.isTerminal]
    · rw [activate_of_ne f hs]
      exact ⟨hs, hAwaits.live⟩
  refine ⟨?_, hRunning.2, ?_⟩
  · have hOwns := hAwaits.owns
    unfold activate
    split <;> exact hOwns
  · rw [activate_of_ne]
    · exact hAwaits.stands
    · exact hRunning.1

/-- The state of a failure that is worth a retry awaits the same step. -/
theorem awaits_of_retry (hAwaits : Awaits f step state) {failure : RetryableFailure}
    (h : Exchanges (Stores f) (execute s state) log (.error failure)) :
    Awaits f step failure.state := by
  rcases exchanges_execute hAwaits h with ⟨-, -, hSame⟩ | ⟨_, _, outcome, -, -, -, hSettled⟩
  · rw [hSame failure rfl]
    exact hAwaits
  · cases outcome with
    | ok result => cases hSettled
    | error e =>
      simp only [settle] at hSettled
      split at hSettled
      · split at hSettled
        · cases hSettled
          exact hAwaits.activated _
        · cases hSettled
      · cases hSettled

/-- A call of a visit: the state with which it is made, and what it asks and is replied. -/
structure Attempt where
  state : ExecutionState
  log : List Exchange

/-- The calls of a visit: the step is run with the state of each failure that is worth a retry,
until there is a result. The replies are any, but that the flow is found as it is. -/
inductive Retries (f : Flow) (s : Settings) : ExecutionState → List Attempt → StepResult →
    Prop where
  | last {state : ExecutionState} {log : List Exchange} {result : StepResult}
      (h : Exchanges (Stores f) (execute s state) log (.ok result)) :
      Retries f s state [⟨state, log⟩] result
  | again {state : ExecutionState} {log : List Exchange} {failure : RetryableFailure}
      {attempts : List Attempt} {result : StepResult}
      (h : Exchanges (Stores f) (execute s state) log (.error failure))
      (hRest : Retries f s failure.state attempts result) :
      Retries f s state (⟨state, log⟩ :: attempts) result

/-- The queue accepted a message, and then the output of the step was not written or the next step
was not found. -/
def Attempt.FailsLate (s : Settings) (f : Flow) (step : Step) (a : Attempt) : Prop :=
  ∃ m e, Sends (Stores f) s f step (activate f a.state) a.log m (.error e)

/-- A call fails before a message is accepted, or fails late, or completes the step. -/
theorem execute_cases (hAwaits : Awaits f step state) (hStarts : step.StartsFlow)
    (h : Exchanges (Stores f) (execute s state) log answer) :
    (Fails answer ∧ (accepted log = [] ∨ Attempt.FailsLate s f step ⟨state, log⟩)) ∨
      ∃ m result, answer = .ok result ∧ result.state.errorInfo = none ∧
        Sends (Stores f) s f step (activate f state) log m (.ok result) := by
  rcases exchanges_execute hAwaits h with
    ⟨hNone, hFails, -⟩ | ⟨found, work, outcome, rfl, hQuiet, hw, rfl⟩
  · exact .inl ⟨hFails, .inl hNone⟩
  rcases sends_of_runStep hStarts hw with ⟨hNone, e, rfl⟩ | ⟨m, hSends⟩
  · refine .inl ⟨fails_settle _ e, .inl ?_⟩
    rw [accepted_append, hQuiet, hNone]
    rfl
  · have hSends := hSends.prepend hQuiet
    cases outcome with
    | error e => exact .inl ⟨fails_settle _ e, .inr ⟨m, e, hSends⟩⟩
    | ok result =>
      obtain ⟨_, _, _, -, -, hCompletes⟩ := hSends.completes
      exact .inr ⟨m, result, rfl, errorInfo_of_leaves (complete_leaves hCompletes.reaches), hSends⟩

variable {attempts : List Attempt} {result : StepResult}

theorem retries_cases (hAwaits : Awaits f step state) (hStarts : step.StartsFlow)
    (hVisit : Retries f s state attempts result) :
    (result.state.errorInfo ≠ none ∧
        ∀ a ∈ attempts, accepted a.log = [] ∨ a.FailsLate s f step) ∨
      (result.state.errorInfo = none ∧ ∃ earlier last m, attempts = earlier ++ [last] ∧
        (∀ a ∈ earlier, accepted a.log = [] ∨ a.FailsLate s f step) ∧
        Sends (Stores f) s f step (activate f last.state) last.log m (.ok result)) := by
  induction hVisit with
  | last h =>
    rcases execute_cases hAwaits hStarts h with ⟨hFails, hLate⟩ |
      ⟨m, result, hSame, hCompleted, hSends⟩
    · exact .inl ⟨hFails _ rfl, by simpa using hLate⟩
    · cases hSame
      exact .inr ⟨hCompleted, [], _, m, rfl, by simp, hSends⟩
  | again h hRest ih =>
    rcases execute_cases hAwaits hStarts h with ⟨-, hLate⟩ | ⟨m, result, hSame, -, -⟩
    · rcases ih (awaits_of_retry hAwaits h) with
        ⟨hFailed, hEach⟩ | ⟨hCompleted, earlier, last, m, rfl, hEach, hSends⟩
      · exact .inl ⟨hFailed, List.forall_mem_cons.mpr ⟨hLate, hEach⟩⟩
      · exact .inr ⟨hCompleted, _ :: earlier, last, m, rfl,
          List.forall_mem_cons.mpr ⟨hLate, hEach⟩, hSends⟩
    · cases hSame

/-- The context of the result was written in the call, from the id that the message carries. -/
def Attempt.Folds (s : Settings) (f : Flow) (step : Step) (a : Attempt) (m : StartMessage)
    (result : StepResult) : Prop :=
  ∃ id written, m.executionId = some id ∧ written <:+: a.log ∧ Exchanges (Stores f)
    (Output.apply s (activate f a.state).executionId step.outputMappings (startOutput id)
      (activate f a.state).context).run written (.ok result.state.context)

theorem folds_of_sends {a : Attempt} {m : StartMessage}
    (h : Sends (Stores f) s f step (activate f a.state) a.log m (.ok result)) :
    a.Folds s f step m result := by
  obtain ⟨id, before, after, hSent, hSplit, hCompletes⟩ := h.completes
  obtain ⟨written, ⟨rest, hFirst⟩, hApplies⟩ := exchanges_apply_of_complete hCompletes
  refine ⟨id, written, hSent.executionId, ⟨before ++ [Exchange.accepting m], rest, ?_⟩, hApplies⟩
  rw [hSplit, ← hFirst]
  simp

theorem sent_of_sends {allowed : Allowed} {m : StartMessage} {x : Except StepError StepResult}
    (h : Sends allowed s f step state log m x) :
    (accepted log).length ≤ 1 ∧ ∀ m ∈ accepted log, ∃ id, SentBy step state m id := by
  obtain ⟨id, _, _, hSent, -, -⟩ := h.completes
  rw [h.single]
  exact ⟨Nat.le_refl 1, fun m hm => ⟨id, List.mem_singleton.mp hm ▸ hSent⟩⟩

theorem sent_of_late {a : Attempt} (h : accepted a.log = [] ∨ a.FailsLate s f step) :
    (accepted a.log).length ≤ 1 ∧
      ∀ m ∈ accepted a.log, ∃ id, SentBy step (activate f a.state) m id := by
  rcases h with hNone | ⟨m, e, hSends⟩
  · simp [hNone]
  · exact sent_of_sends hSends

theorem late_of_accepted {a : Attempt} (h : accepted a.log = [] ∨ a.FailsLate s f step)
    (hSent : accepted a.log ≠ []) : a.FailsLate s f step :=
  h.resolve_left hSent

theorem nothing_sent_of_no_late (hEach : ∀ a ∈ attempts, accepted a.log = [] ∨ a.FailsLate s f step)
    (hInTime : ∀ a ∈ attempts, ¬ a.FailsLate s f step) :
    attempts.flatMap (accepted ·.log) = [] :=
  List.flatMap_eq_nil_iff.mpr fun a ha => (hEach a ha).resolve_right (hInTime a ha)

/-- A message of a visit is the one of the call that completes the step, or one of a call that
failed late. Without late failures a visit that completes its step sends one message, whose id comes
into the context, and a visit that ends in a failure sends none. -/
theorem retries_send_once_unless_late (hAwaits : Awaits f step state) (hStarts : step.StartsFlow)
    (hVisit : Retries f s state attempts result) :
    (∀ a ∈ attempts, (accepted a.log).length ≤ 1 ∧
        ∀ m ∈ accepted a.log, ∃ id, SentBy step (activate f a.state) m id) ∧
      (result.state.errorInfo = none → ∃ earlier last m, attempts = earlier ++ [last] ∧
        accepted last.log = [m] ∧ last.Folds s f step m result ∧
        ∀ a ∈ earlier, accepted a.log ≠ [] → a.FailsLate s f step) ∧
      (result.state.errorInfo ≠ none →
        ∀ a ∈ attempts, accepted a.log ≠ [] → a.FailsLate s f step) ∧
      ((∀ a ∈ attempts, ¬ a.FailsLate s f step) →
        (result.state.errorInfo = none → ∃ a ∈ attempts, ∃ m,
          attempts.flatMap (accepted ·.log) = [m] ∧ a.Folds s f step m result) ∧
        (result.state.errorInfo ≠ none → attempts.flatMap (accepted ·.log) = [])) := by
  rcases retries_cases hAwaits hStarts hVisit with
    ⟨hFailed, hEach⟩ | ⟨hCompleted, earlier, last, m, rfl, hEach, hSends⟩
  · refine ⟨fun a ha => sent_of_late (hEach a ha), fun hCompleted => absurd hCompleted hFailed, ?_,
      ?_⟩
    · exact fun _ a ha => late_of_accepted (hEach a ha)
    · intro hInTime
      exact ⟨fun hCompleted => absurd hCompleted hFailed,
        fun _ => nothing_sent_of_no_late hEach hInTime⟩
  · have hFolds := folds_of_sends hSends
    refine ⟨?_, ?_, fun hFailed => absurd hCompleted hFailed, ?_⟩
    · intro a ha
      rcases List.mem_append.mp ha with ha | ha
      · exact sent_of_late (hEach a ha)
      · obtain rfl := List.mem_singleton.mp ha
        exact sent_of_sends hSends
    · exact fun _ => ⟨earlier, last, m, rfl, hSends.single, hFolds,
        fun a ha => late_of_accepted (hEach a ha)⟩
    · intro hInTime
      refine ⟨fun _ => ⟨last, by simp, m, ?_, hFolds⟩, fun hFailed => absurd hCompleted hFailed⟩
      have hNone := nothing_sent_of_no_late hEach fun a ha => hInTime a (List.mem_append_left _ ha)
      rw [List.flatMap_append, hNone]
      simpa using hSends.single

end Retries

section Parcels

def parcels : Flow where
  id := "parcels"
  version := 1
  isPublished := true
  steps := [("send", {
    id := "send"
    kind := .startSubFlow ⟨"deliveries", 1, none⟩
    outputMappings := [("delivery", .str "$.flowExecutionId"), ("label", .str "fragile goods")] })]
  start := "send"
  defaultContext := []
  defaultStepConfig := []
  onCompletionActions := []
  createdAt := none
  updatedAt := none

def sending : Step where
  id := "send"
  kind := .startSubFlow ⟨"deliveries", 1, none⟩
  outputMappings := [("delivery", .str "$.flowExecutionId"), ("label", .str "fragile goods")]

def newParcel : ExecutionState where
  executionId := "parcel 1"
  flowId := "parcels"
  version := 1

def depot (queue store : Bool) : (r : Request) → Unit → Reply r × Unit
  | .enqueueStart _, st =>
    (if queue then Except.ok () else Except.error (.other "the queue is closed"), st)
  | .putObject _ _ _, st =>
    (if store then Except.ok () else Except.error (.objectStore "the store is closed"), st)
  | r, st => calm parcels r st

theorem depot_stores (queue store : Bool) (r : Request) (st : Unit) :
    Stores parcels r (depot queue store r st).1 := by
  cases r with
  | findFlow id version =>
    intro _ _ found h
    exact (Except.ok.inj h).symm
  | _ => trivial

theorem newParcel_awaits : Awaits parcels sending newParcel := ⟨⟨rfl, rfl⟩, rfl, rfl⟩

theorem sending_startsFlow : sending.StartsFlow := ⟨⟨"deliveries", 1, none⟩, .inl rfl⟩

def visitDepot (queue store : Bool) (s : Settings) (state : ExecutionState) : Attempt :=
  ⟨state, exchanged (depot queue store) (execute s state) ()⟩

theorem exchanges_visitDepot (queue store : Bool) (s : Settings) (state : ExecutionState) :
    Exchanges (Stores parcels) (execute s state) (visitDepot queue store s state).log
      (run (depot queue store) (execute s state) ()).1 :=
  exchanges_run (depot_stores queue store) (execute s state) ()

def triedParcel : ExecutionState where
  executionId := "parcel 1"
  flowId := "parcels"
  version := 1
  current := some "send"
  status := .running
  attempts := [("send", 1)]

def sentParcel : StepResult where
  state := {
    executionId := "parcel 1"
    flowId := "parcels"
    version := 1
    status := .completed
    context := [("delivery", .str "execution"), ("label", .str "fragile goods")] }
  action := .finalize

unseal Path.segments? in
/-- The queue refuses the message of the first call and accepts that of the second. -/
theorem refused_parcel_sent_once :
    ∃ attempts, Awaits parcels sending newParcel ∧ sending.StartsFlow ∧
      Retries parcels {} newParcel attempts sentParcel ∧
      ∃ earlier last m, attempts = earlier ++ [last] ∧ accepted last.log = [m] ∧
        last.Folds {} parcels sending m sentParcel := by
  have hRetry : (run (depot false true) (execute {} newParcel) ()).1 =
      .error ⟨triedParcel, (startFailure (.other "the queue is closed")).info⟩ := rfl
  have hSent : (run (depot true true) (execute {} triedParcel) ()).1 = .ok sentParcel := rfl
  have hVisit : Retries parcels {} newParcel
      [visitDepot false true {} newParcel, visitDepot true true {} triedParcel] sentParcel :=
    .again (hRetry ▸ exchanges_visitDepot false true {} newParcel)
      (.last (hSent ▸ exchanges_visitDepot true true {} triedParcel))
  obtain ⟨-, hCompleted, -, -⟩ :=
    retries_send_once_unless_late newParcel_awaits sending_startsFlow hVisit
  obtain ⟨earlier, last, m, hSplit, hSingle, hFolds, -⟩ := hCompleted rfl
  exact ⟨_, newParcel_awaits, sending_startsFlow, hVisit, earlier, last, m, hSplit, hSingle, hFolds⟩

unseal Path.segments? in
/-- The label cannot be stored after the delivery was started: with a retry two deliveries are
started for one parcel, and without one a delivery is left behind by a failed parcel. -/
theorem unstored_label_sent_twice :
    Awaits parcels sending newParcel ∧ sending.StartsFlow ∧
      (∃ attempts result,
        Retries parcels { offloadThresholdBytes := 12 } newParcel attempts result ∧
        result.state.errorInfo = none ∧ (attempts.flatMap (accepted ·.log)).length = 2) ∧
      ∃ attempts result, Retries parcels { offloadThresholdBytes := 12, maxRetryAttempts := 0 }
          newParcel attempts result ∧
        result.state.errorInfo ≠ none ∧ (attempts.flatMap (accepted ·.log)).length = 1 := by
  refine ⟨newParcel_awaits, sending_startsFlow, ?_, ?_⟩
  · let s : Settings := { offloadThresholdBytes := 12 }
    have hRetry : ∃ failure, (run (depot true false) (execute s newParcel) ()).1 =
        .error ⟨triedParcel, failure⟩ := ⟨_, rfl⟩
    have hSent : ∃ result : StepResult, (run (depot true true) (execute s triedParcel) ()).1 =
        .ok result ∧ result.state.errorInfo = none := ⟨_, rfl, rfl⟩
    obtain ⟨failure, hRetry⟩ := hRetry
    obtain ⟨result, hSent, hCompleted⟩ := hSent
    have hVisit : Retries parcels s newParcel
        [visitDepot true false s newParcel, visitDepot true true s triedParcel] result :=
      .again (hRetry ▸ exchanges_visitDepot true false s newParcel)
        (.last (hSent ▸ exchanges_visitDepot true true s triedParcel))
    exact ⟨_, result, hVisit, hCompleted, by decide +kernel⟩
  · let s : Settings := { offloadThresholdBytes := 12, maxRetryAttempts := 0 }
    have hFailed : ∃ result : StepResult, (run (depot true false) (execute s newParcel) ()).1 =
        .ok result ∧ result.state.errorInfo ≠ none := ⟨_, rfl, Option.some_ne_none _⟩
    obtain ⟨result, hFailed, hIncomplete⟩ := hFailed
    have hVisit : Retries parcels s newParcel [visitDepot true false s newParcel] result :=
      .last (hFailed ▸ exchanges_visitDepot true false s newParcel)
    exact ⟨_, result, hVisit, hIncomplete, by decide +kernel⟩

end Parcels

end Interpreter

end Stepwise
