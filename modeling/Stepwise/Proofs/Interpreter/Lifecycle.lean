import Stepwise.Proofs.Flow.Validity
import Stepwise.Proofs.Interpreter.Call

/-!
# The life of an execution

A state that an execution of a valid flow comes to, by any calls with any replies, stands at a step
of the flow until it has ended; a completed one has no failure, a failed one has one. The action
that goes with a state is the one that the state asks for.
-/

namespace Stepwise

set_option autoImplicit false

open Interpreter Program

/-- A flow is found under its id and version whenever the look-up does not fail. -/
def Stores (f : Flow) : Allowed
  | .findFlow id version, reply =>
    id = f.id → version = f.version → ∀ found, reply = .ok found → found = some f
  | _, _ => True

namespace Flow

def stepOf? (f : Flow) (state : ExecutionState) : Option Step := state.current.bind f.step?

def Owns (f : Flow) (state : ExecutionState) : Prop :=
  state.flowId = f.id ∧ state.version = f.version

/-- What every state of an execution of the flow is like. -/
def Fits (f : Flow) (state : ExecutionState) : Prop :=
  match state.status with
  | .initializing | .running => ∃ id, state.current = some id ∧ f.steps.contains id = true
  | .completed => state.current = none ∧ state.errorInfo = none
  | .failed => state.current = none ∧ state.errorInfo ≠ none
  | .timedOut | .cancelled => False

/-- The action is the one that the state asks for. -/
structure Agrees (f : Flow) (result : StepResult) : Prop where
  finalize : result.action = .finalize ↔ result.state.isTerminal = true
  suspend : result.action = .suspend ↔
    ∃ step config, f.stepOf? result.state = some step ∧ step.kind = .wait config
  poll : ∀ config, result.action = .poll config ↔
    ∃ step, f.stepOf? result.state = some step ∧ step.kind = .poll config
  fork : ∀ branches aggregation limit, result.action = .fork branches aggregation limit →
    ∃ step config, f.stepOf? result.state = some step ∧ step.kind = .fork config ∧
      aggregation = config.aggregation ∧ limit = config.maxConcurrency.filter (0 < ·)
  running : result.action ≠ .finalize → result.state.status = .running

/-- The states of executions of the flow, and of those of its branches that begin at a step. -/
inductive Visits (f : Flow) (s : Settings) : ExecutionState → Prop where
  | start {m : StartMessage} {result : StepResult} (hId : m.flowId = f.id)
      (hVersion : m.version = f.version)
      (h : ReachesUnder (Stores f) (Interpreter.start m).run (.ok result)) : Visits f s result.state
  | branch {parent : ExecutionState} {key id : String} {step : Step} {config : Fork} {b : Branch}
      {p : BranchPayload} (hOwns : f.Owns parent) (hMem : (key, step) ∈ f.steps)
      (hKind : step.kind = .fork config) (hBranch : b ∈ config.branches)
      (hTarget : b.target = .step id)
      (hPayload : p.target = b.target) : Visits f s (p.initialState parent)
  | call {state : ExecutionState} {answer : Answered} (c : Call) (hBefore : Visits f s state)
      (h : ReachesUnder (Stores f) (c.program s state) answer) : Visits f s (stateOf answer)

theorem step?_of_contains {f : Flow} {id : String} (h : f.steps.contains id = true) :
    ∃ step, f.step? id = some step := Option.isSome_iff_exists.mp h

theorem contains_of_step? {f : Flow} {id : String} {step : Step} (h : f.step? id = some step) :
    f.steps.contains id = true := Option.isSome_iff_exists.mpr ⟨step, h⟩

theorem fallbackFrom?_eq_some {f : Flow} {failed id : String} {action : NextAction}
    (h : f.fallbackFrom? failed = some (id, action)) :
    ∃ step target, f.step? failed = some step ∧ step.fallback = some id ∧
      f.step? id = some target ∧ action = target.action := by
  simp only [fallbackFrom?, Option.bind_eq_bind, Option.bind_eq_some_iff] at h
  obtain ⟨step, hs, goal, hg, h⟩ := h
  cases ht : f.step? goal with
  | none => simp [actionFor, ht] at h
  | some target =>
    simp only [actionFor, ht, Option.some.injEq, Prod.mk.injEq] at h
    obtain ⟨rfl, rfl⟩ := h
    exact ⟨step, target, hs, hg, ht, rfl⟩

section Agreement

variable {f : Flow} {state : ExecutionState}

theorem agrees_of_step {step : Step} (hRunning : state.status = .running)
    (h : f.stepOf? state = some step) : f.Agrees ⟨state, step.action⟩ := by
  cases hk : step.kind <;>
    constructor <;>
      simp [Step.action, hk, h, hRunning, ExecutionState.isTerminal, Status.isTerminal]

theorem agrees_of_fork {step : Step} {config : Fork} {branches : List BranchPayload}
    (hRunning : state.status = .running) (h : f.stepOf? state = some step)
    (hKind : step.kind = .fork config) :
    f.Agrees ⟨state, .fork branches config.aggregation (config.maxConcurrency.filter (0 < ·))⟩ := by
  constructor <;> simp [hKind, h, hRunning, ExecutionState.isTerminal, Status.isTerminal]

theorem agrees_of_end (hTerminal : state.isTerminal = true) (hNowhere : state.current = none) :
    f.Agrees ⟨state, .finalize⟩ := by
  constructor <;> simp [hTerminal, stepOf?, hNowhere]

end Agreement

/-- An answer about an execution of the flow. -/
structure Sound (f : Flow) (answer : Answered) : Prop where
  owns : f.Owns (stateOf answer)
  fits : f.Fits (stateOf answer)
  agrees : ∀ result, answer = .ok result → f.Agrees result

section Steps

variable {f : Flow} {s : Settings} {state : ExecutionState} {step : Step}

theorem fits_running (hRunning : state.status = .running) (hStands : f.stepOf? state = some step) :
    f.Fits state := by
  obtain ⟨id, hc, hs⟩ := Option.bind_eq_some_iff.mp hStands
  simp only [Fits, hRunning]
  exact ⟨id, hc, contains_of_step? hs⟩

theorem Sound.of_step {result : StepResult} (hOwns : f.Owns result.state)
    (hRunning : result.state.status = .running) (h : f.stepOf? result.state = some step)
    (hAgrees : f.Agrees result) : f.Sound (.ok result) := by
  refine ⟨hOwns, fits_running hRunning h, ?_⟩
  intro _ hr
  cases hr
  exact hAgrees

/-- A terminal failure leads to the fallback, or ends the execution. -/
theorem sound_failTerminally {flow : Option Flow} {failed : Option String} {error : ErrorInfo}
    (hOwns : f.Owns state) (hSame : ∀ g, flow = some g → g = f) :
    f.Sound (.ok (state.failTerminally flow failed error)) := by
  have hKept : (state.resetAttemptsOf failed).flowId = state.flowId ∧
      (state.resetAttemptsOf failed).version = state.version := by
    cases failed <;> exact ⟨rfl, rfl⟩
  have hOwns' : f.Owns (state.resetAttemptsOf failed) :=
    ⟨hKept.1.trans hOwns.1, hKept.2.trans hOwns.2⟩
  unfold ExecutionState.failTerminally
  dsimp only
  split
  · rename_i target action h
    obtain ⟨g, hg, h⟩ := Option.bind_eq_some_iff.mp h
    obtain ⟨id, -, h⟩ := Option.bind_eq_some_iff.mp h
    obtain ⟨_, goal, -, -, hGoal, rfl⟩ := fallbackFrom?_eq_some h
    rw [hSame g hg] at hGoal
    have hStands : f.stepOf? { state.resetAttemptsOf failed with
        errorInfo := some error, status := .running, current := some target } = some goal := hGoal
    exact .of_step hOwns' rfl hStands (agrees_of_step rfl hStands)
  · refine ⟨hOwns', ?_, ?_⟩
    · simp [Fits, stateOf]
    · intro result hr
      cases hr
      exact agrees_of_end rfl rfl

/-- What the work at a step comes to without a failure. -/
theorem sound_of_works {allowed : Allowed} {result : StepResult} (hOwns : f.Owns state)
    (hRunning : state.status = .running) (hStands : f.stepOf? state = some step)
    (h : Works allowed s f step state result) : f.Sound (.ok result) := by
  have hLeaving (left : ExecutionState) (hOwns : f.Owns left) (hRunning : left.status = .running)
      (h : Leaves allowed s f step left result) : f.Sound (.ok result) := by
    cases h with
    | moves hWrites hFound => exact .of_step hOwns hRunning hFound (agrees_of_step hRunning hFound)
    | ends hWrites =>
      refine ⟨hOwns, ?_, ?_⟩
      · exact ⟨rfl, rfl⟩
      · intro result hr
        cases hr
        exact agrees_of_end rfl rfl
  cases h with
  | waits hKind =>
    have hAgrees := agrees_of_step hRunning hStands
    rw [Step.action, hKind] at hAgrees
    exact .of_step hOwns hRunning hStands hAgrees
  | forks hKind => exact .of_step hOwns hRunning hStands (agrees_of_fork hRunning hStands hKind)
  | polls hKind hLeft =>
    have hAgrees : f.Agrees ⟨state.countAttempt (Step.pollCounter step.id), step.action⟩ :=
      agrees_of_step hRunning hStands
    rw [Step.action, hKind] at hAgrees
    exact .of_step hOwns hRunning hStands hAgrees
  | leaves hKind h => exact hLeaving state hOwns hRunning h
  | leavesPoll hKind h =>
    exact hLeaving (state.resetAttempts (Step.pollCounter step.id)) hOwns hRunning h

theorem sound_conclude {allowed : Allowed} {c : Call} {outcome : Except Failure StepResult}
    (hOwns : f.Owns state) (hRunning : state.status = .running)
    (hStands : f.stepOf? state = some step)
    (h : ReachesUnder allowed (c.work s ⟨f, step, state⟩) outcome) :
    f.Sound (conclude s ⟨f, step, state⟩ outcome) := by
  have hFailing (counted : ExecutionState) (info : ErrorInfo) (hOwns : f.Owns counted) :
      f.Sound (.ok (failStep ⟨f, step, counted⟩ info)) := by
    have hCleared : f.Owns (counted.resetAttempts (Step.pollCounter step.id)) := hOwns
    exact sound_failTerminally hCleared fun g hg => (Option.some.inj hg).symm
  match outcome with
  | .ok result => exact sound_of_works hOwns hRunning hStands (Call.work_works h)
  | .error (.refused info) => exact hFailing state info hOwns
  | .error (.run e) =>
    simp only [conclude, settle]
    split
    · split
      · have hFits : f.Fits (state.countAttempt step.id) := fits_running hRunning hStands
        exact ⟨hOwns, hFits, fun _ hr => by cases hr⟩
      · exact hFailing (state.countAttempt step.id) _ hOwns
    · exact hFailing state _ hOwns

end Steps

section Runs

variable {f : Flow} {s : Settings} {state : ExecutionState}

/-- An execution of the flow is under way at a step, or has ended and is at none. -/
theorem fits_cases (hFits : f.Fits state) :
    (state.isTerminal = false ∧ (state.status = .initializing ∨ state.status = .running) ∧
        ∃ id step, state.current = some id ∧ f.step? id = some step) ∨
      (state.isTerminal = true ∧ state.current = none) := by
  unfold Fits at hFits
  cases hs : state.status <;>
    simp only [hs, ExecutionState.isTerminal, Status.isTerminal] at hFits ⊢
  case initializing =>
    obtain ⟨id, hStands, hKnown⟩ := hFits
    obtain ⟨step, hFound⟩ := step?_of_contains hKnown
    exact .inl ⟨trivial, .inl trivial, id, step, hStands, hFound⟩
  case running =>
    obtain ⟨id, hStands, hKnown⟩ := hFits
    obtain ⟨step, hFound⟩ := step?_of_contains hKnown
    exact .inl ⟨trivial, .inr trivial, id, step, hStands, hFound⟩
  case completed => exact .inr ⟨trivial, hFits.1⟩
  case failed => exact .inr ⟨trivial, hFits.1⟩

/-- An execution that has not ended runs, after activation, at the step it stood at. -/
theorem activate_stands (hOwns : f.Owns state) (hFits : f.Fits state)
    (hLive : state.isTerminal = false) :
    f.Owns (activate f state) ∧ (activate f state).status = .running ∧
      ∃ step, f.stepOf? (activate f state) = some step := by
  rcases fits_cases hFits with ⟨-, hBegun, id, step, hStands, hFound⟩ | ⟨hTerminal, -⟩
  · rcases hBegun with hInitializing | hRunning
    · rw [activate_of_initializing f hInitializing]
      refine ⟨hOwns, rfl, step, ?_⟩
      simpa [stepOf?, hStands] using hFound
    · rw [activate_of_ne f (by simp [hRunning])]
      refine ⟨hOwns, hRunning, step, ?_⟩
      simpa [stepOf?, hStands] using hFound
  · rw [hLive] at hTerminal
    cases hTerminal

theorem nowhere_of_fits (hFits : f.Fits state) (hTerminal : state.isTerminal = true) :
    state.current = none := by
  rcases fits_cases hFits with ⟨hLive, -⟩ | ⟨-, hNowhere⟩
  · rw [hTerminal] at hLive
    cases hLive
  · exact hNowhere

/-- Preparing a state of the flow finds its step, unless the execution has ended or the look-up of
the flow fails. -/
theorem sound_of_prepares {x : Except Answered Ready} (hOwns : f.Owns state) (hFits : f.Fits state)
    (h : Prepares (Stores f) state x) :
    (∃ answer, x = .error answer ∧ f.Sound answer) ∨
      ∃ step, x = .ok ⟨f, step, activate f state⟩ ∧ f.Owns (activate f state) ∧
        (activate f state).status = .running ∧ f.stepOf? (activate f state) = some step := by
  cases h with
  | ended hTerminal =>
    refine .inl ⟨_, rfl, hOwns, hFits, fun _ hr => ?_⟩
    cases hr
    exact agrees_of_end hTerminal (nowhere_of_fits hFits hTerminal)
  | missing hLive hReply => cases hReply hOwns.1 hOwns.2 _ rfl
  | failed hLive hReply =>
    refine .inl ⟨_, rfl, ?_⟩
    split
    · exact ⟨hOwns, hFits, fun _ hr => by cases hr⟩
    · exact sound_failTerminally hOwns fun _ hg => by cases hg
  | found hLive hReply =>
    cases hReply hOwns.1 hOwns.2 _ rfl
    obtain ⟨hOwns', hRunning, step, hStands⟩ := activate_stands hOwns hFits hLive
    obtain ⟨id, hc, hs⟩ := Option.bind_eq_some_iff.mp hStands
    rw [locate_of_step hc hs]
    exact .inr ⟨step, rfl, hOwns', hRunning, hStands⟩

/-- One call keeps an execution of the flow what it is, and answers the action that its state asks
for. -/
theorem sound_call {c : Call} {answer : Answered} (hOwns : f.Owns state) (hFits : f.Fits state)
    (h : ReachesUnder (Stores f) (c.program s state) answer) : f.Sound answer := by
  rcases Call.program_reaches h with hp | ⟨r, outcome, hp, hw, rfl⟩
  · rcases sound_of_prepares hOwns hFits hp with ⟨_, he, hSound⟩ | ⟨_, he, _⟩
    · cases he
      exact hSound
    · cases he
  · rcases sound_of_prepares hOwns hFits hp with ⟨_, he, _⟩ | ⟨step, he, hOwns', hRunning, hStands⟩
    · cases he
    · cases he
      exact sound_conclude hOwns' hRunning hStands hw

theorem start_sound (hValid : f.problems = []) {m : StartMessage} {result : StepResult}
    (hId : m.flowId = f.id) (hVersion : m.version = f.version)
    (h : ReachesUnder (Stores f) (Interpreter.start m).run (.ok result)) :
    f.Owns result.state ∧ f.Fits result.state := by
  simp only [Interpreter.start, reachesUnder_bind_ok, EngineProgram.reachesUnder_findFlow] at h
  obtain ⟨found, hReply, h⟩ := h
  cases hReply hId hVersion _ rfl
  have hBegins : ∃ id, some f.start = some id ∧ f.steps.contains id = true :=
    ⟨f.start, rfl, start_mem hValid⟩
  dsimp only at h
  split at h <;> simp only [reachesUnder_bind_ok, reachesUnder_pure_ok] at h
  · obtain ⟨_, -, rfl⟩ := h
    exact ⟨⟨hId, hVersion⟩, hBegins⟩
  · obtain ⟨_, -, rfl⟩ := h
    exact ⟨⟨hId, hVersion⟩, hBegins⟩

theorem visits_fits (hValid : f.problems = []) (h : f.Visits s state) :
    f.Owns state ∧ f.Fits state := by
  induction h with
  | start hId hVersion h => exact start_sound hValid hId hVersion h
  | branch hOwns hMem hKind hBranch hTarget hPayload =>
    rename_i p
    have hFound := branchTarget_mem hValid hMem hKind hBranch hTarget
    simp only [BranchPayload.initialState, hPayload, hTarget]
    exact ⟨hOwns, _, rfl, hFound⟩
  | call c hBefore h ih =>
    have hSound := sound_call ih.1 ih.2 h
    exact ⟨hSound.owns, hSound.fits⟩

/-- Every state of an execution of a valid flow stands at a step of the flow or has ended, completed
without a failure or failed with one, and every result answered on it names the action that its
state asks for. -/
theorem visits_fits_and_agrees (hValid : f.problems = []) (h : f.Visits s state) :
    f.Fits state ∧ ∀ (c : Call) (result : StepResult),
      ReachesUnder (Stores f) (c.program s state) (.ok result) → f.Agrees result := by
  obtain ⟨hOwns, hFits⟩ := visits_fits hValid h
  exact ⟨hFits, fun c result hr => (sound_call hOwns hFits hr).agrees result rfl⟩

end Runs

theorem calm_stores (f : Flow) (r : Request) (st : Unit) : Stores f r (calm f r st).1 := by
  cases r with
  | findFlow id version =>
    intro _ _ found h
    exact (Except.ok.inj h).symm
  | _ => trivial

def ordered : ExecutionState where
  executionId := "order 1"
  flowId := "orders"
  version := 1
  current := some "charge"

def paid : ExecutionState where
  executionId := "order 1"
  flowId := "orders"
  version := 1
  current := some "delivery"
  status := .running
  context := [("currency", .str "EUR"), ("paid", .bool true), ("receipt", .str "no. 4711")]

theorem ordered_visited : orders.Visits {} ordered := by
  let m : StartMessage := { flowId := "orders", version := 1, executionId := some "order 1" }
  have hBegins : ReachesUnder (Stores orders) (Interpreter.start m).run (.ok ⟨ordered, .proceed⟩) :=
    reachesUnder_run (calm_stores orders) (Interpreter.start m).run ()
  exact .start rfl rfl hBegins

theorem ordered_fits_and_agrees :
    orders.Visits {} ordered ∧ orders.Fits ordered ∧ orders.Agrees ⟨paid, .suspend⟩ := by
  obtain ⟨hFits, hAgrees⟩ := visits_fits_and_agrees orders_valid ordered_visited
  refine ⟨ordered_visited, hFits, hAgrees .execute ⟨paid, .suspend⟩ ?_⟩
  exact reachesUnder_run (calm_stores orders) (Call.execute.program {} ordered) ()

end Flow

end Stepwise
