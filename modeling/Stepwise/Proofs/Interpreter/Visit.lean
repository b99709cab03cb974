import Stepwise.Proofs.Interpreter.Failure
import Stepwise.Proofs.Interpreter.Lifecycle

/-!
# Visits to steps

A call comes to no step, or works at the step at which the execution stands, and then the execution
stays there or leaves the step without the counters of it.
-/

namespace Stepwise

set_option autoImplicit false

open Interpreter Program

/-- A flow is found under its id and version, or the look-up fails as a store does. -/
def Finds (f : Flow) : Allowed
  | .findFlow id version, reply =>
    id = f.id → version = f.version →
      reply = .ok (some f) ∨ ∃ e : EngineError, e.isInfrastructure = true ∧ reply = .error e
  | _, _ => True

theorem stores_of_finds (f : Flow) (r : Request) (reply : Reply r) (h : Finds f r reply) :
    Stores f r reply := by
  cases r with
  | findFlow id version =>
    intro hSameId hSameVersion found hAnswered
    rcases h hSameId hSameVersion with hGiven | ⟨e, -, hFailed⟩
    · exact Except.ok.inj (hAnswered.symm.trans hGiven)
    · cases hAnswered.symm.trans hFailed
  | _ => trivial

namespace Step

def callsHandler (step : Step) : Bool :=
  match step.kind with
  | .customLogic | .externalInvoke | .dataLoad | .dataSave | .poll _ => true
  | .dataTransformation => step.moduleId.isSome
  | _ => false

/-- How often a step is polled; one that is not polled is run once. -/
def pollLimit (step : Step) : Nat :=
  match step.kind with
  | .poll config => config.maxAttempts.toNat
  | _ => 1

theorem pollCounter_ne (id : String) : pollCounter id ≠ id := by
  intro hSame
  have hLengths := congrArg String.length hSame
  simp [pollCounter] at hLengths

end Step

namespace Interpreter

/-- The number of runs of the current step that a call makes. -/
def Call.executes : Call → Nat
  | .execute => 1
  | _ => 0

/-- The outcomes of the work at a step with which the execution stays there: a failure that is
handed back, a step that waits, branches to be run, and a poll that is only counted. -/
inductive Stays (s : Settings) (r : Ready) : Call → Except Failure StepResult → Prop where
  | retried {c : Call} {failure : Failure}
      (hAgain : ∃ retry, conclude s r (.error failure) = .error retry) :
      Stays s r c (.error failure)
  | waits {config : Wait} (hKind : r.step.kind = .wait config) :
      Stays s r .execute (.ok ⟨r.state, .suspend⟩)
  | suspended {resumeToken : String} {config : Wait} (hKind : r.step.kind = .wait config) :
      Stays s r (.suspend resumeToken) (.ok ⟨r.state, .suspend⟩)
  | forks {config : Fork} {branches : List BranchPayload} (hKind : r.step.kind = .fork config) :
      Stays s r .execute
        (.ok ⟨r.state, .fork branches config.aggregation (config.maxConcurrency.filter (0 < ·))⟩)
  | polls {config : Polling} (hKind : r.step.kind = .poll config) :
      Stays s r .execute (.ok ⟨r.state.countAttempt (Step.pollCounter r.step.id), .poll config⟩)

/-- The result has none of the counters of the step. -/
def Cleared (r : Ready) (result : StepResult) : Prop :=
  ((∀ config, r.step.kind ≠ .poll config) ∧
      result.state.attempts = r.state.attempts.erase r.step.id) ∨
    result.state.attempts = (r.state.attempts.erase (Step.pollCounter r.step.id)).erase r.step.id

section Outcomes

variable {allowed : Allowed} {s : Settings} {r : Ready} {result : StepResult}

theorem attempts_of_leaves {flow : Flow} {step : Step} {state : ExecutionState}
    (h : Leaves allowed s flow step state result) :
    result.state.attempts = state.attempts.erase step.id := by
  cases h <;> rfl

theorem cleared_of_leaves (hKind : ∀ config, r.step.kind ≠ .poll config)
    (h : Leaves allowed s r.flow r.step r.state result) : Cleared r result :=
  .inl ⟨hKind, attempts_of_leaves h⟩

theorem not_cleared_of_counted {config : Polling} {action : NextAction}
    (hKind : r.step.kind = .poll config) :
    ¬ Cleared r ⟨r.state.countAttempt (Step.pollCounter r.step.id), action⟩ := by
  rintro (⟨hOther, -⟩ | hCleared)
  · exact hOther config hKind
  · have hCounter := congrArg (Dict.get? · (Step.pollCounter r.step.id)) hCleared
    simp [ExecutionState.countAttempt, Dict.erase_comm _ (Step.pollCounter r.step.id)] at hCounter

/-- A run of the step that ends without a failure stays below the limit of polls, or clears. -/
theorem runStep_stays_or_clears
    (h : ReachesUnder allowed (runStep s r.flow r.step r.state).run (.ok result)) :
    (Stays s r .execute (.ok result) ∧ ∀ config, r.step.kind = .poll config →
        (r.state.countAttempt (Step.pollCounter r.step.id)).attemptsOf (Step.pollCounter r.step.id)
          < config.maxAttempts) ∨
      Cleared r result := by
  by_cases hWaiting : ∃ config, r.step.kind = .wait config
  · obtain ⟨config, hKind⟩ := hWaiting
    simp only [runStep, hKind, reachesUnder_pure_ok] at h
    subst h
    exact .inl ⟨.waits hKind, by simp [hKind]⟩
  · cases runStep_works h with
    | waits hKind => exact absurd ⟨_, hKind⟩ hWaiting
    | forks hKind => exact .inl ⟨.forks hKind, by simp [hKind]⟩
    | polls hKind hLeft =>
      refine .inl ⟨.polls hKind, fun config hOther => ?_⟩
      cases hKind.symm.trans hOther
      exact hLeft
    | leaves hKind hLeft => exact .inr (cleared_of_leaves hKind hLeft)
    | leavesPoll _ hLeft => exact .inr (.inr (attempts_of_leaves hLeft))

theorem work_stays_or_clears {c : Call} (h : ReachesUnder allowed (c.work s r) (.ok result)) :
    (Stays s r c (.ok result) ∧ ∀ config, r.step.kind = .poll config →
        (r.state.countAttempt (Step.pollCounter r.step.id)).attemptsOf (Step.pollCounter r.step.id)
          < config.maxAttempts) ∨
      Cleared r result := by
  cases c with
  | execute => exact runStep_stays_or_clears (running_ok.mp h)
  | suspend resumeToken =>
    simp only [Call.work] at h
    split at h
    · rename_i config hKind
      rw [running_ok, ExceptT.run_map, reachesUnder_map] at h
      obtain ⟨outcome, -, h⟩ := h
      cases outcome with
      | error e => cases h
      | ok record =>
        cases h
        exact .inl ⟨.suspended hKind, by simp [hKind]⟩
    · exact absurd h not_refusing_ok
  | resumeWithEvent payload =>
    simp only [Call.work] at h
    split at h
    · rename_i config hKind
      have hLeft := complete_leaves (running_ok.mp h)
      exact .inr (cleared_of_leaves (by simp [hKind]) hLeft)
    · exact absurd h not_refusing_ok
  | aggregate results =>
    simp only [Call.work] at h
    split at h
    · rename_i config hKind
      rw [running_ok] at h
      simp only [mergeAndComplete, reachesUnder_bind_ok] at h
      obtain ⟨output, -, h⟩ := h
      exact .inr (cleared_of_leaves (by simp [hKind]) (complete_leaves h))
    · exact absurd h not_refusing_ok
  | retriesExhausted error => simp [Call.work] at h

end Outcomes

end Interpreter

namespace Flow

/-- What one call does to a visit in which the step was run `n` times: the call comes to no step, or
works at the step and stays there, or leaves it and so ends the visit. -/
inductive Turn (f : Flow) (s : Settings) (c : Call) (state : ExecutionState) (n : Nat) :
    Answered → Nat → Prop where
  | stopped {answer : Answered} (h : ReachesUnder (Finds f) (prepare state) (.error answer)) :
      Turn f s c state n answer n
  | stays {r : Ready} {outcome : Except Failure StepResult}
      (hReady : ReachesUnder (Finds f) (prepare state) (.ok r))
      (hWorks : ReachesUnder (Finds f) (c.work s r) outcome) (h : Stays s r c outcome) :
      Turn f s c state n (conclude s r outcome) (n + c.executes)
  | leaves {r : Ready} {outcome : Except Failure StepResult}
      (hReady : ReachesUnder (Finds f) (prepare state) (.ok r))
      (hWorks : ReachesUnder (Finds f) (c.work s r) outcome) (h : ¬ Stays s r c outcome) :
      Turn f s c state n (conclude s r outcome) 0

/-- The states of executions of the flow, with the number of runs of the current step since the
execution came to it. -/
inductive OnVisit (f : Flow) (s : Settings) : Nat → ExecutionState → Prop where
  | start {m : StartMessage} {result : StepResult} (hId : m.flowId = f.id)
      (hVersion : m.version = f.version)
      (h : ReachesUnder (Finds f) (Interpreter.start m).run (.ok result)) :
      OnVisit f s 0 result.state
  | branch {parent : ExecutionState} {key id : String} {step : Step} {config : Fork} {b : Branch}
      {p : BranchPayload} (hOwns : f.Owns parent) (hMem : (key, step) ∈ f.steps)
      (hKind : step.kind = .fork config) (hBranch : b ∈ config.branches)
      (hTarget : b.target = .step id)
      (hPayload : p.target = b.target) : OnVisit f s 0 (p.initialState parent)
  | call {n m : Nat} {state : ExecutionState} {answer : Answered} (c : Call)
      (hBefore : OnVisit f s n state) (hTurn : Turn f s c state n answer m) :
      OnVisit f s m (stateOf answer)

section Visit

variable {f : Flow} {s : Settings} {c : Call} {state : ExecutionState} {n m : Nat}

/-- Every call is one of the turns of a visit, and has no other answers. -/
theorem turn_iff {answer : Answered} :
    (∃ m, Turn f s c state n answer m) ↔ ReachesUnder (Finds f) (c.program s state) answer := by
  rw [Call.program_eq, withStep, reachesUnder_bind]
  constructor
  · rintro ⟨m, hTurn⟩
    cases hTurn with
    | stopped h => exact ⟨_, h, reachesUnder_pure.mpr rfl⟩
    | stays hReady hWorks _ => exact ⟨_, hReady, reachesUnder_map.mpr ⟨_, hWorks, rfl⟩⟩
    | leaves hReady hWorks _ => exact ⟨_, hReady, reachesUnder_map.mpr ⟨_, hWorks, rfl⟩⟩
  · rintro ⟨prepared, hReady, h⟩
    cases prepared with
    | error early =>
      rw [reachesUnder_pure] at h
      subst h
      exact ⟨n, .stopped hReady⟩
    | ok r =>
      obtain ⟨outcome, hWorks, rfl⟩ := reachesUnder_map.mp h
      by_cases hStays : Stays s r c outcome
      · exact ⟨_, .stays hReady hWorks hStays⟩
      · exact ⟨_, .leaves hReady hWorks hStays⟩

theorem visits_of_onVisit (h : f.OnVisit s n state) : f.Visits s state := by
  induction h with
  | start hId hVersion h => exact .start hId hVersion (h.mono (stores_of_finds f))
  | branch hOwns hMem hKind hBranch hTarget hPayload =>
    exact .branch hOwns hMem hKind hBranch hTarget hPayload
  | call c hBefore hTurn ih => exact .call c ih ((turn_iff.mp ⟨_, hTurn⟩).mono (stores_of_finds f))

/-- An execution of the flow is stopped before its step only as it is; else it comes to the step at
which it stands, with its counters. -/
theorem prepare_onVisit (hValid : f.problems = []) (h : f.OnVisit s n state)
    {prepared : Except Answered Ready} (hReady : ReachesUnder (Finds f) (prepare state) prepared) :
    (∃ answer, prepared = .error answer ∧ stateOf answer = state) ∨
      ∃ id step, state.current = some id ∧ f.step? id = some step ∧ step.id = id ∧
        prepared = .ok ⟨f, step, activate f state⟩ ∧ (activate f state).current = some id ∧
        (activate f state).attempts = state.attempts := by
  obtain ⟨hOwns, hFits⟩ := visits_fits hValid (visits_of_onVisit h)
  cases prepare_prepares hReady with
  | ended hTerminal => exact .inl ⟨_, rfl, rfl⟩
  | missing hLive hReply =>
    rcases hReply hOwns.1 hOwns.2 with hGiven | ⟨e, -, hFailed⟩
    · cases hGiven
    · cases hFailed
  | failed hLive hReply =>
    rename_i failure
    rcases hReply hOwns.1 hOwns.2 with hGiven | ⟨e, hPassing, hFailed⟩
    · cases hGiven
    · cases hFailed
      rw [StepError.isRetryable_ofEngine, if_pos hPassing]
      exact .inl ⟨_, rfl, rfl⟩
  | found hLive hReply =>
    have hGiven := stores_of_finds f _ _ hReply hOwns.1 hOwns.2 _ rfl
    cases hGiven
    rcases fits_cases hFits with ⟨-, hBegun, id, step, hStands, hFound⟩ | ⟨hTerminal, -⟩
    · have hSame := id_eq_of_step? hValid hFound
      have hKept : (activate f state).current = some id ∧
          (activate f state).attempts = state.attempts := by
        rcases hBegun with hInitializing | hRunning
        · rw [activate_of_initializing f hInitializing]
          exact ⟨by simp [hStands], rfl⟩
        · rw [activate_of_ne f (by simp [hRunning])]
          exact ⟨hStands, rfl⟩
      refine .inr ⟨id, step, hStands, hFound, hSame, ?_, hKept.1, hKept.2⟩
      rw [locate_of_step hKept.1 hFound]
    · rw [hLive] at hTerminal
      cases hTerminal

theorem stateOf_of_stopped (hValid : f.problems = []) (h : f.OnVisit s n state) {answer : Answered}
    (hStopped : ReachesUnder (Finds f) (prepare state) (.error answer)) :
    stateOf answer = state := by
  rcases prepare_onVisit hValid h hStopped with ⟨_, hSame, hKept⟩ | ⟨_, _, -, -, -, hOther, -⟩
  · cases hSame
    exact hKept
  · cases hOther

theorem ready_of_onVisit (hValid : f.problems = []) (h : f.OnVisit s n state) {r : Ready}
    (hReady : ReachesUnder (Finds f) (prepare state) (.ok r)) :
    ∃ step, r = ⟨f, step, activate f state⟩ ∧ state.current = some step.id ∧
      f.step? step.id = some step ∧ (activate f state).current = some step.id ∧
      (activate f state).attempts = state.attempts := by
  rcases prepare_onVisit hValid h hReady with
    ⟨_, hOther, -⟩ | ⟨id, step, hStands, hFound, rfl, hSame, hCurrent, hAttempts⟩
  · cases hOther
  · cases hSame
    exact ⟨step, rfl, hStands, hFound, hCurrent, hAttempts⟩

end Visit

theorem calm_finds (f : Flow) (r : Request) (st : Unit) : Finds f r (calm f r st).1 := by
  cases r with
  | findFlow id version => exact fun _ _ => .inl rfl
  | _ => trivial

end Flow

end Stepwise
