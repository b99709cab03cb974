import Stepwise.Engine.Interpreter
import Stepwise.Proofs.Program.Reach

/-!
# Calls as data

The calls of the engine as data. Every call looks up the flow, finds the current step, works on it,
and turns the outcome of that work into its answer. What the work can come to is said once here, by
one inversion lemma for every part.
-/

namespace Stepwise.Interpreter

set_option autoImplicit false

open Program

/-- A call of an entry point, with its arguments beside the state. -/
inductive Call where
  | execute
  | suspend (resumeToken : String)
  | resumeWithEvent (payload : Json)
  | aggregate (results : List BranchResult)
  | retriesExhausted (error : ErrorInfo)

/-- Why a call does not get the result of the current step. -/
inductive Failure where
  /-- The step was run and failed. -/
  | run (error : StepError)
  /-- The step was not run: the call does not fit it, or brings the failure along. -/
  | refused (info : ErrorInfo)

namespace Failure

def info : Failure → ErrorInfo
  | .run e => e.info
  | .refused info => info

end Failure

namespace Call

def program (s : Settings) (state : ExecutionState) : Call → Program Answered
  | .execute => Interpreter.execute s state
  | .suspend resumeToken => Interpreter.suspend s state resumeToken
  | .resumeWithEvent payload => Interpreter.resumeWithEvent s state payload
  | .aggregate results => Interpreter.aggregate s state results
  | .retriesExhausted error => Interpreter.retriesExhausted state error

def running (p : StepProgram StepResult) : Program (Except Failure StepResult) :=
  (ExceptT.adapt Failure.run p).run

def refusing (r : Ready) (expected : String) : Program (Except Failure StepResult) :=
  pure (.error (.refused (wrongKindError r expected).info))

/-- What the call does at the current step. -/
def work (s : Settings) (r : Ready) : Call → Program (Except Failure StepResult)
  | .execute => running (runStep s r.flow r.step r.state)
  | .suspend resumeToken =>
    match r.step.kind with
    | .wait config =>
      running ((fun _ => ⟨r.state, .suspend⟩) <$> config.suspend s r.state r.step.id resumeToken)
    | _ => refusing r "WAIT_FOR_EXTERNAL_EVENT"
  | .resumeWithEvent payload =>
    match r.step.kind with
    | .wait _ => running (complete s r.flow r.step r.state payload)
    | _ => refusing r "WAIT_FOR_EXTERNAL_EVENT"
  | .aggregate results =>
    match r.step.kind with
    | .fork config => running (mergeAndComplete s r config results)
    | _ => refusing r "PARALLEL_FORK_MANAGER"
  | .retriesExhausted error => pure (.error (.refused error))

end Call

def stateOf : Answered → ExecutionState
  | .ok result => result.state
  | .error failure => failure.state

/-- The answer that an outcome of the work leads to. -/
def conclude (s : Settings) (r : Ready) : Except Failure StepResult → Answered
  | .ok result => .ok result
  | .error (.run e) => settle s r (.error e)
  | .error (.refused info) => .ok (failStep r info)

theorem conclude_mapError (s : Settings) (r : Ready) (outcome : Except StepError StepResult) :
    conclude s r (outcome.mapError .run) = settle s r outcome := by
  cases outcome <;> rfl

theorem conclude_running (s : Settings) (r : Ready) (p : StepProgram StepResult) :
    conclude s r <$> Call.running p = settle s r <$> p.run := by
  show conclude s r <$> Except.mapError Failure.run <$> p.run = _
  simp only [Functor.map_map, conclude_mapError]

theorem conclude_refusing (s : Settings) (r : Ready) (expected : String) :
    conclude s r <$> Call.refusing r expected = pure (wrongKind r expected) := rfl

theorem withStep_congr {state : ExecutionState} {f g : Ready → Program Answered}
    (h : ∀ r, f r = g r) : withStep state f = withStep state g :=
  congrArg (withStep state) (funext h)

/-- Every call prepares the execution, works at its step and concludes. -/
theorem Call.program_eq (c : Call) (s : Settings) (state : ExecutionState) :
    c.program s state = withStep state fun r => conclude s r <$> c.work s r := by
  cases c with
  | execute =>
    refine withStep_congr fun r => ?_
    rw [Call.work, conclude_running, map_eq_pure_bind]
  | suspend resumeToken =>
    refine withStep_congr fun r => ?_
    cases hk : r.step.kind with
    | wait config =>
      simp only [Call.work, hk, conclude_running, ExceptT.run_map, Functor.map_map]
      exact (map_eq_pure_bind _ _).symm
    | _ => simp only [Call.work, hk, conclude_refusing]
  | resumeWithEvent payload =>
    refine withStep_congr fun r => ?_
    cases hk : r.step.kind with
    | wait config =>
      simp only [Call.work, hk, conclude_running]
      exact (map_eq_pure_bind _ _).symm
    | _ => simp only [Call.work, hk, conclude_refusing]
  | aggregate results =>
    refine withStep_congr fun r => ?_
    cases hk : r.step.kind with
    | fork config =>
      simp only [Call.work, hk, conclude_running]
      exact (map_eq_pure_bind _ _).symm
    | _ => simp only [Call.work, hk, conclude_refusing]
  | retriesExhausted error => rfl

/-- What preparing an execution can come to: the step to work at, or an answer at once. -/
inductive Prepares (allowed : Allowed) (state : ExecutionState) : Except Answered Ready → Prop where
  | ended (hTerminal : state.isTerminal = true) :
    Prepares allowed state (.error (.ok ⟨state, .finalize⟩))
  | found {flow : Flow} (hLive : state.isTerminal = false)
      (hReply : allowed (.findFlow state.flowId state.version) (.ok (some flow))) :
      Prepares allowed state (match locate flow (activate flow state) with
        | .ok r => .ok r
        | .error result => .error (.ok result))
  | missing (hLive : state.isTerminal = false)
      (hReply : allowed (.findFlow state.flowId state.version) (.ok none)) :
      Prepares allowed state (.error (.ok (state.failTerminally none state.current
        (.terminal "FlowDefinitionNotFound" (flowText state.flowId state.version)))))
  | failed {e : EngineError} (hLive : state.isTerminal = false)
      (hReply : allowed (.findFlow state.flowId state.version) (.error e)) :
      Prepares allowed state (.error (if (StepError.ofEngine e).isRetryable then
          .error ⟨state, (StepError.ofEngine e).info⟩
        else .ok (state.failTerminally none state.current (StepError.ofEngine e).info)))

theorem prepare_prepares {allowed : Allowed} {state : ExecutionState} {x : Except Answered Ready}
    (h : ReachesUnder allowed (prepare state) x) : Prepares allowed state x := by
  unfold prepare at h
  split at h
  · rename_i hTerminal
    rw [reachesUnder_pure] at h
    subst h
    exact .ended hTerminal
  · rename_i hLive
    rw [Bool.not_eq_true] at hLive
    rw [reachesUnder_bind] at h
    obtain ⟨reply, hr, h⟩ := h
    rw [EngineProgram.reachesUnder_findFlow] at hr
    match reply with
    | .ok (some flow) =>
      rw [reachesUnder_pure] at h
      subst h
      exact .found hLive hr
    | .ok none =>
      rw [reachesUnder_pure] at h
      subst h
      exact .missing hLive hr
    | .error e =>
      rw [reachesUnder_pure] at h
      subst h
      exact .failed hLive hr

theorem activate_of_initializing (flow : Flow) {state : ExecutionState}
    (h : state.status = .initializing) : activate flow state = { state with
      context := state.context.withDefaults flow.defaultContext
      status := .running
      current := some (state.current.getD flow.start) } := by
  simp only [activate, h, if_true]

theorem activate_of_ne (flow : Flow) {state : ExecutionState} (h : state.status ≠ .initializing) :
    activate flow state = state := by
  simp only [activate, h, if_false]

theorem locate_of_step {flow : Flow} {state : ExecutionState} {id : String} {step : Step}
    (hc : state.current = some id) (hs : flow.step? id = some step) :
    locate flow state = .ok ⟨flow, step, state⟩ := by
  simp [locate, hc, hs]

/-- A call answers while it prepares, or concludes what its work comes to. -/
theorem Call.program_reaches {allowed : Allowed} {c : Call} {s : Settings} {state : ExecutionState}
    {answer : Answered} (h : ReachesUnder allowed (c.program s state) answer) :
    Prepares allowed state (.error answer) ∨
      ∃ r outcome, Prepares allowed state (.ok r) ∧ ReachesUnder allowed (c.work s r) outcome ∧
        answer = conclude s r outcome := by
  rw [Call.program_eq, withStep, reachesUnder_bind] at h
  obtain ⟨x, hx, h⟩ := h
  have hp := prepare_prepares hx
  cases x with
  | error early =>
    rw [reachesUnder_pure] at h
    subst h
    exact .inl hp
  | ok r =>
    rw [reachesUnder_map] at h
    obtain ⟨outcome, ho, rfl⟩ := h
    exact .inr ⟨r, outcome, hp, ho, rfl⟩

section Outcomes

variable (allowed : Allowed) (s : Settings) (flow : Flow) (step : Step) (state : ExecutionState)

/-- The contexts that writing some output of the step can lead to. -/
def WritesContext (context : Dict Json) : Prop :=
  ∃ output, ReachesUnder allowed
    (Output.apply s state.executionId step.outputMappings output state.context).run (.ok context)

def written (context : Dict Json) : ExecutionState :=
  { state with context := context, attempts := state.attempts.erase step.id, errorInfo := none }

/-- The results with which an execution leaves its step: it moves to a step of the flow, or ends. -/
inductive Leaves : StepResult → Prop where
  | moves {context : Dict Json} {id : String} {target : Step}
      (hWrites : WritesContext allowed s step state context)
      (hFound : flow.step? id = some target) :
      Leaves ⟨{ written step state context with current := some id }, target.action⟩
  | ends {context : Dict Json} (hWrites : WritesContext allowed s step state context) :
      Leaves ⟨{ written step state context with status := .completed, current := none }, .finalize⟩

/-- The results of working at a step without a failure. -/
inductive Works : StepResult → Prop where
  | waits {config : Wait} (hKind : step.kind = .wait config) : Works ⟨state, .suspend⟩
  | forks {config : Fork} {branches : List BranchPayload} (hKind : step.kind = .fork config) :
      Works ⟨state, .fork branches config.aggregation (config.maxConcurrency.filter (0 < ·))⟩
  | polls {config : Polling} (hKind : step.kind = .poll config)
      (hLeft : (state.countAttempt (Step.pollCounter step.id)).attemptsOf (Step.pollCounter step.id)
        < config.maxAttempts) :
      Works ⟨state.countAttempt (Step.pollCounter step.id), .poll config⟩
  | leaves {result : StepResult} (hKind : ∀ config, step.kind ≠ .poll config)
      (h : Leaves allowed s flow step state result) : Works result
  | leavesPoll {config : Polling} {result : StepResult} (hKind : step.kind = .poll config)
      (h : Leaves allowed s flow step (state.resetAttempts (Step.pollCounter step.id)) result) :
      Works result

variable {allowed s flow step state} {result : StepResult}

theorem writeOutput_cases {output : Json} {state' : ExecutionState}
    (h : ReachesUnder allowed (writeOutput s step state output).run (.ok state')) :
    ∃ context, WritesContext allowed s step state context ∧
    state' = written step state context := by
  simp only [writeOutput, reachesUnder_bind_ok, EngineProgram.reachesUnder_asStep_ok,
    reachesUnder_pure_ok] at h
  obtain ⟨context, hw, rfl⟩ := h
  exact ⟨context, ⟨output, hw⟩, rfl⟩

theorem complete_leaves {output : Json}
    (h : ReachesUnder allowed (complete s flow step state output).run (.ok result)) :
    Leaves allowed s flow step state result := by
  simp only [complete, reachesUnder_bind_ok, EngineProgram.reachesUnder_asStep_ok,
    EngineProgram.reachesUnder_ofExcept] at h
  obtain ⟨state', hw, next, -, action, ha, h⟩ := h
  obtain ⟨context, hWrites, rfl⟩ := writeOutput_cases hw
  cases next with
  | none =>
    simp only [Flow.actionFor, Except.ok.injEq] at ha
    rw [reachesUnder_pure_ok] at h
    subst ha h
    exact .ends hWrites
  | some id =>
    rw [reachesUnder_pure_ok] at h
    cases hf : flow.step? id with
    | none => simp [Flow.actionFor, hf] at ha
    | some target =>
      simp only [Flow.actionFor, hf, Except.ok.injEq] at ha
      subst ha h
      exact .moves hWrites hf

theorem finish_leaves (h : ReachesUnder allowed (finish s flow step state).run (.ok result)) :
    Leaves allowed s flow step state result := by
  simp only [finish, reachesUnder_bind_ok, reachesUnder_pure_ok] at h
  obtain ⟨output, -, state', hw, rfl⟩ := h
  obtain ⟨context, hWrites, rfl⟩ := writeOutput_cases hw
  exact .ends hWrites

theorem passThrough_leaves
    (h : ReachesUnder allowed (passThrough s flow step state).run (.ok result)) :
    Leaves allowed s flow step state result := by
  simp only [passThrough, reachesUnder_bind_ok] at h
  obtain ⟨output, -, h⟩ := h
  exact complete_leaves h

theorem callHandler_leaves
    (h : ReachesUnder allowed (callHandler s flow step state).run (.ok result)) :
    Leaves allowed s flow step state result := by
  simp only [callHandler, reachesUnder_bind_ok] at h
  obtain ⟨input, -, output, -, h⟩ := h
  exact complete_leaves h

theorem startFlow_leaves {target : FlowStart} {parentId : Option String}
    (h : ReachesUnder allowed (startFlow s flow step state target parentId).run (.ok result)) :
    Leaves allowed s flow step state result := by
  simp only [startFlow, reachesUnder_bind_ok] at h
  obtain ⟨context, -, id, -, u, -, h⟩ := h
  exact complete_leaves h

theorem fork_works {config : Fork} (hKind : step.kind = .fork config)
    (h : ReachesUnder allowed (fork s flow step state config).run (.ok result)) :
    Works allowed s flow step state result := by
  simp only [fork, reachesUnder_bind_ok] at h
  obtain ⟨branches, -, h⟩ := h
  split at h
  · rw [reachesUnder_bind_ok] at h
    obtain ⟨output, -, h⟩ := h
    exact .leaves (by simp [hKind]) (complete_leaves h)
  · rw [reachesUnder_pure_ok] at h
    subst h
    exact .forks hKind

theorem poll_works {config : Polling} (hKind : step.kind = .poll config)
    (h : ReachesUnder allowed (poll s flow step state config).run (.ok result)) :
    Works allowed s flow step state result := by
  simp only [poll, reachesUnder_bind_ok] at h
  obtain ⟨input, -, output, -, isComplete, -, h⟩ := h
  split at h
  · exact .leavesPoll hKind (complete_leaves h)
  · split at h
    · exact absurd h reachesUnder_throw_ok
    · rename_i hLeft
      rw [reachesUnder_pure_ok] at h
      subst h
      exact .polls hKind (UInt32.not_le.mp hLeft)

theorem runStep_works (h : ReachesUnder allowed (runStep s flow step state).run (.ok result)) :
    Works allowed s flow step state result := by
  unfold runStep at h
  cases hKind : step.kind with
  | wait config =>
    simp only [hKind, reachesUnder_pure_ok] at h
    subst h
    exact .waits hKind
  | fork config => exact fork_works hKind (by simpa only [hKind] using h)
  | poll config => exact poll_works hKind (by simpa only [hKind] using h)
  | endFlow => exact .leaves (by simp [hKind]) (finish_leaves (by simpa only [hKind] using h))
  | startSubFlow target =>
    exact .leaves (by simp [hKind]) (startFlow_leaves (by simpa only [hKind] using h))
  | startFlowExecution target =>
    exact .leaves (by simp [hKind]) (startFlow_leaves (by simpa only [hKind] using h))
  | noOp => exact .leaves (by simp [hKind]) (passThrough_leaves (by simpa only [hKind] using h))
  | scheduleStartPoint =>
    exact .leaves (by simp [hKind]) (passThrough_leaves (by simpa only [hKind] using h))
  | dataTransformation =>
    simp only [hKind] at h
    split at h
    · exact .leaves (by simp [hKind]) (passThrough_leaves h)
    · exact .leaves (by simp [hKind]) (callHandler_leaves h)
  | customLogic =>
    exact .leaves (by simp [hKind]) (callHandler_leaves (by simpa only [hKind] using h))
  | externalInvoke =>
    exact .leaves (by simp [hKind]) (callHandler_leaves (by simpa only [hKind] using h))
  | dataLoad => exact .leaves (by simp [hKind]) (callHandler_leaves (by simpa only [hKind] using h))
  | dataSave => exact .leaves (by simp [hKind]) (callHandler_leaves (by simpa only [hKind] using h))

theorem running_ok {p : StepProgram StepResult} :
    ReachesUnder allowed (Call.running p) (.ok result) ↔ ReachesUnder allowed p.run (.ok result) :=
  reachesUnder_adapt_ok

theorem not_refusing_ok {r : Ready} {expected : String} :
    ¬ ReachesUnder allowed (Call.refusing r expected) (.ok result) := by
  simp [Call.refusing]

/-- Whatever the call, its work without a failure waits, forks, polls or leaves the step. -/
theorem Call.work_works {c : Call} {r : Ready}
    (h : ReachesUnder allowed (c.work s r) (.ok result)) :
    Works allowed s r.flow r.step r.state result := by
  cases c with
  | execute => exact runStep_works (running_ok.mp h)
  | suspend resumeToken =>
    simp only [Call.work] at h
    split at h
    · rename_i config hKind
      rw [running_ok, ExceptT.run_map, reachesUnder_map] at h
      obtain ⟨outcome, -, h⟩ := h
      cases outcome with
      | error e => cases h
      | ok record =>
        cases h
        exact .waits hKind
    · exact absurd h not_refusing_ok
  | resumeWithEvent payload =>
    simp only [Call.work] at h
    split at h
    · rename_i config hKind
      exact .leaves (by simp [hKind]) (complete_leaves (running_ok.mp h))
    · exact absurd h not_refusing_ok
  | aggregate results =>
    simp only [Call.work] at h
    split at h
    · rename_i config hKind
      rw [running_ok] at h
      simp only [mergeAndComplete, reachesUnder_bind_ok] at h
      obtain ⟨output, -, h⟩ := h
      exact .leaves (by simp [hKind]) (complete_leaves h)
    · exact absurd h not_refusing_ok
  | retriesExhausted error => simp [Call.work] at h

end Outcomes

end Stepwise.Interpreter
