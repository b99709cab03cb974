import Stepwise.Proofs.Interpreter.Visit
import Stepwise.Proofs.Output.Footprint

/-!
# What a call leaves as it was

An answer tells of the same execution at the same place among the executions, and its context is the
one in which the step began, unless the call completed the step: then the output of the step was
written into it, through the output mappings of the step.
-/

namespace Stepwise.Interpreter

set_option autoImplicit false

open Program

/-- Two states of one execution: it has kept its name, its flow and its place below its parent. -/
structure SameExecution (a b : ExecutionState) : Prop where
  executionId : b.executionId = a.executionId
  flowId : b.flowId = a.flowId
  version : b.version = a.version
  branchId : b.branchId = a.branchId
  branchExecutionId : b.branchExecutionId = a.branchExecutionId
  parentExecutionId : b.parentExecutionId = a.parentExecutionId

namespace SameExecution

theorem refl (a : ExecutionState) : SameExecution a a := ⟨rfl, rfl, rfl, rfl, rfl, rfl⟩

theorem trans {a b c : ExecutionState} (hFirst : SameExecution a b) (hSecond : SameExecution b c) :
    SameExecution a c :=
  ⟨hSecond.1.trans hFirst.1, hSecond.2.trans hFirst.2, hSecond.3.trans hFirst.3,
    hSecond.4.trans hFirst.4, hSecond.5.trans hFirst.5, hSecond.6.trans hFirst.6⟩

theorem resetAttempts (a : ExecutionState) (name : String) :
    SameExecution a (a.resetAttempts name) :=
  ⟨rfl, rfl, rfl, rfl, rfl, rfl⟩

theorem countAttempt (a : ExecutionState) (name : String) : SameExecution a (a.countAttempt name) :=
  ⟨rfl, rfl, rfl, rfl, rfl, rfl⟩

end SameExecution

/-- The state in which the step of a call begins. A flow is looked up for an execution that has not
ended, and if it is found, the execution is activated. -/
inductive Begins (allowed : Allowed) (state : ExecutionState) : ExecutionState → Prop where
  | ended (hTerminal : state.isTerminal = true) : Begins allowed state state
  | missing {reply : Except EngineError (Option Flow)}
      (hReplied : allowed (.findFlow state.flowId state.version) reply)
      (hMissing : ∀ flow, reply ≠ .ok (some flow)) : Begins allowed state state
  | activated {flow : Flow} (hLive : state.isTerminal = false)
      (hFound : allowed (.findFlow state.flowId state.version) (.ok (some flow))) :
      Begins allowed state (activate flow state)

/-- The outputs with which a call completes its step. -/
inductive Outputs (allowed : Allowed) (s : Settings) (r : Ready) : Call → Json → Prop where
  | input {bag : Dict Json} (hKind : r.step.kind = .endFlow ∨ r.step.kind = .noOp ∨
        r.step.kind =
          .scheduleStartPoint ∨ (r.step.kind = .dataTransformation ∧ r.step.moduleId = none))
      (hMapped : ReachesUnder allowed (Interpreter.input s r.flow r.step r.state).run (.ok bag)) :
      Outputs allowed s r .execute (.obj bag)
  | handler {bag : Dict Json} {output : Json} (hKind : r.step.callsHandler = true)
      (hMapped : ReachesUnder allowed (Interpreter.input s r.flow r.step r.state).run (.ok bag))
      (hCalled : ReachesUnder allowed (Dispatch.call r.step bag r.state).run (.ok output))
      (hComplete : ∀ config, r.step.kind = .poll config →
        ReachesUnder allowed (pollIsComplete config r.state output).run (.ok true)) :
      Outputs allowed s r .execute output
  | started {target : FlowStart} {id : String}
      (hKind : r.step.kind = .startSubFlow target ∨ r.step.kind = .startFlowExecution target)
      (hFresh : allowed .freshId id) :
      Outputs allowed s r .execute (.object [("flowExecutionId", .str id)])
  | unbranched {config : Fork} {output : Json} (hKind : r.step.kind = .fork config)
      (hBranches : ReachesUnder allowed (config.payloads s r.state).run (.ok []))
      (hMerged :
        ReachesUnder allowed (config.aggregation.merge [] r.step r.state).run (.ok output)) :
      Outputs allowed s r .execute output
  | resumed {config : Wait} {payload : Json} (hKind : r.step.kind = .wait config) :
      Outputs allowed s r (.resumeWithEvent payload) payload
  | merged {config : Fork} {results : List BranchResult} {output : Json}
      (hKind : r.step.kind = .fork config)
      (hMerged : ReachesUnder allowed (config.aggregation.merge results r.step r.state).run
        (.ok output)) :
      Outputs allowed s r (.aggregate results) output

/-- The call completes its step with the output, and the result holds what was written of it. -/
structure Completes (allowed : Allowed) (s : Settings) (r : Ready) (c : Call) (output : Json)
    (result : StepResult) : Prop where
  outputs : Outputs allowed s r c output
  left : ∃ written, Leaves allowed s r.flow r.step written result ∧
    (written = r.state ∨ written = r.state.resetAttempts (Step.pollCounter r.step.id))
  wrote : ReachesUnder allowed
    (Output.apply s r.state.executionId r.step.outputMappings output r.state.context).run
    (.ok result.state.context)

/-- What is left of a state by a result: all but the position, the counters and the failure, or all
but those and what the output of the completed step was written under. -/
def Changes (allowed : Allowed) (s : Settings) (r : Ready) (c : Call) (result : StepResult) :
    Prop :=
  SameExecution r.state result.state ∧
    (result.state.context = r.state.context ∨ ∃ output, Completes allowed s r c output result)

section Outcomes

variable {allowed : Allowed} {s : Settings} {flow : Flow} {step : Step} {state : ExecutionState}
  {r : Ready} {c : Call} {output : Json} {result : StepResult}

theorem writeOutput_applies {state' : ExecutionState}
    (h : ReachesUnder allowed (writeOutput s step state output).run (.ok state')) :
    SameExecution state state' ∧ ReachesUnder allowed
      (Output.apply s state.executionId step.outputMappings output state.context).run
      (.ok state'.context) := by
  simp only [writeOutput, reachesUnder_bind_ok, EngineProgram.reachesUnder_asStep_ok,
    reachesUnder_pure_ok] at h
  obtain ⟨context, hWrote, rfl⟩ := h
  exact ⟨⟨rfl, rfl, rfl, rfl, rfl, rfl⟩, hWrote⟩

theorem complete_applies
    (h : ReachesUnder allowed (complete s flow step state output).run (.ok result)) :
    SameExecution state result.state ∧ ReachesUnder allowed
      (Output.apply s state.executionId step.outputMappings output state.context).run
      (.ok result.state.context) := by
  simp only [complete, reachesUnder_bind_ok] at h
  obtain ⟨state', hWrote, next, -, action, -, h⟩ := h
  obtain ⟨hSame, hApplied⟩ := writeOutput_applies hWrote
  cases next <;> rw [reachesUnder_pure_ok] at h <;> subst h <;>
    exact ⟨hSame.trans ⟨rfl, rfl, rfl, rfl, rfl, rfl⟩, hApplied⟩

theorem complete_changes (hOutputs : Outputs allowed s r c output)
    (h : ReachesUnder allowed (complete s r.flow r.step r.state output).run (.ok result)) :
    Changes allowed s r c result := by
  obtain ⟨hSame, hApplied⟩ := complete_applies h
  exact ⟨hSame, .inr ⟨output, hOutputs, ⟨_, complete_leaves h, .inl rfl⟩, hApplied⟩⟩

theorem finish_changes (hKind : r.step.kind = .endFlow)
    (h : ReachesUnder allowed (finish s r.flow r.step r.state).run (.ok result)) :
    Changes allowed s r .execute result := by
  have hLeft := finish_leaves h
  simp only [finish, reachesUnder_bind_ok, reachesUnder_pure_ok] at h
  obtain ⟨bag, hMapped, state', hWrote, rfl⟩ := h
  obtain ⟨hSame, hApplied⟩ := writeOutput_applies hWrote
  exact ⟨hSame.trans ⟨rfl, rfl, rfl, rfl, rfl, rfl⟩,
    .inr ⟨.obj bag, .input (.inl hKind) hMapped, ⟨_, hLeft, .inl rfl⟩, hApplied⟩⟩

theorem passThrough_changes (hKind : r.step.kind = .endFlow ∨ r.step.kind = .noOp ∨
      r.step.kind =
        .scheduleStartPoint ∨ (r.step.kind = .dataTransformation ∧ r.step.moduleId = none))
    (h : ReachesUnder allowed (passThrough s r.flow r.step r.state).run (.ok result)) :
    Changes allowed s r .execute result := by
  simp only [passThrough, reachesUnder_bind_ok] at h
  obtain ⟨bag, hMapped, h⟩ := h
  exact complete_changes (.input hKind hMapped) h

theorem callHandler_changes (hKind : r.step.callsHandler = true)
    (hOnce : ∀ config, r.step.kind ≠ .poll config)
    (h : ReachesUnder allowed (callHandler s r.flow r.step r.state).run (.ok result)) :
    Changes allowed s r .execute result := by
  simp only [callHandler, reachesUnder_bind_ok] at h
  obtain ⟨bag, hMapped, output, hCalled, h⟩ := h
  exact complete_changes
    (.handler hKind hMapped hCalled fun config hPoll => absurd hPoll (hOnce config)) h

theorem startFlow_changes {target : FlowStart} {parentId : Option String}
    (hKind : r.step.kind = .startSubFlow target ∨ r.step.kind = .startFlowExecution target)
    (h : ReachesUnder allowed (startFlow s r.flow r.step r.state target parentId).run
      (.ok result)) :
    Changes allowed s r .execute result := by
  simp only [startFlow, reachesUnder_bind_ok] at h
  obtain ⟨bag, -, id, hAsked, started, -, h⟩ := h
  have hFresh : allowed .freshId id :=
    reachesUnder_request.mp (reachesUnder_lift_ok.mp hAsked)
  exact complete_changes (.started hKind hFresh) h

theorem fork_changes {config : Fork} (hKind : r.step.kind = .fork config)
    (h : ReachesUnder allowed (fork s r.flow r.step r.state config).run (.ok result)) :
    Changes allowed s r .execute result := by
  simp only [fork, reachesUnder_bind_ok, EngineProgram.reachesUnder_asStep_ok] at h
  obtain ⟨branches, hListed, h⟩ := h
  split at h
  · next hNone =>
    rw [List.isEmpty_iff.mp hNone] at hListed
    rw [reachesUnder_bind_ok] at h
    obtain ⟨output, hMerged, h⟩ := h
    exact complete_changes (.unbranched hKind hListed hMerged) h
  · rw [reachesUnder_pure_ok] at h
    subst h
    exact ⟨.refl _, .inl rfl⟩

theorem poll_changes {config : Polling} (hKind : r.step.kind = .poll config)
    (h : ReachesUnder allowed (poll s r.flow r.step r.state config).run (.ok result)) :
    Changes allowed s r .execute result := by
  simp only [poll, reachesUnder_bind_ok, EngineProgram.reachesUnder_asStep_ok] at h
  obtain ⟨bag, hMapped, output, hCalled, isComplete, hChecked, h⟩ := h
  split at h
  · next hFound =>
    rw [hFound] at hChecked
    obtain ⟨hSame, hApplied⟩ := complete_applies h
    refine ⟨(SameExecution.resetAttempts _ _).trans hSame,
      .inr ⟨output, ?_, ⟨_, complete_leaves h, .inr rfl⟩, hApplied⟩⟩
    refine .handler (by simp [Step.callsHandler, hKind]) hMapped hCalled fun other hPoll => ?_
    cases hKind.symm.trans hPoll
    exact hChecked
  · split at h
    · exact absurd h reachesUnder_throw_ok
    · rw [reachesUnder_pure_ok] at h
      subst h
      exact ⟨.countAttempt _ _, .inl rfl⟩

theorem runStep_changes
    (h : ReachesUnder allowed (runStep s r.flow r.step r.state).run (.ok result)) :
    Changes allowed s r .execute result := by
  unfold runStep at h
  cases hKind : r.step.kind with
  | wait config =>
    simp only [hKind, reachesUnder_pure_ok] at h
    subst h
    exact ⟨.refl _, .inl rfl⟩
  | fork config => exact fork_changes hKind (by simpa only [hKind] using h)
  | poll config => exact poll_changes hKind (by simpa only [hKind] using h)
  | endFlow => exact finish_changes hKind (by simpa only [hKind] using h)
  | startSubFlow target => exact startFlow_changes (.inl hKind) (by simpa only [hKind] using h)
  | startFlowExecution target =>
    exact startFlow_changes (.inr hKind) (by simpa only [hKind] using h)
  | noOp => exact passThrough_changes (.inr (.inl hKind)) (by simpa only [hKind] using h)
  | scheduleStartPoint =>
    exact passThrough_changes (.inr (.inr (.inl hKind))) (by simpa only [hKind] using h)
  | dataTransformation =>
    simp only [hKind] at h
    split at h
    · next hNone =>
      exact passThrough_changes (.inr (.inr (.inr ⟨hKind, Option.isNone_iff_eq_none.mp hNone⟩))) h
    · next hNamed =>
      rw [← Option.not_isSome, Bool.not_eq_true', Bool.not_eq_false] at hNamed
      exact callHandler_changes (by simp [Step.callsHandler, hKind, hNamed]) (by simp [hKind]) h
  | customLogic | externalInvoke | dataLoad | dataSave =>
    exact callHandler_changes (by simp [Step.callsHandler, hKind]) (by simp [hKind])
      (by simpa only [hKind] using h)

/-- The work of a call without a failure leaves the context, or completes the step. -/
theorem work_changes (h : ReachesUnder allowed (c.work s r) (.ok result)) :
    Changes allowed s r c result := by
  cases c with
  | execute => exact runStep_changes (running_ok.mp h)
  | suspend resumeToken =>
    simp only [Call.work] at h
    split at h
    · rw [running_ok, ExceptT.run_map, reachesUnder_map] at h
      obtain ⟨outcome, -, h⟩ := h
      cases outcome with
      | error e => cases h
      | ok record =>
        cases h
        exact ⟨.refl _, .inl rfl⟩
    · exact absurd h not_refusing_ok
  | resumeWithEvent payload =>
    simp only [Call.work] at h
    split at h
    · next config hKind => exact complete_changes (.resumed hKind) (running_ok.mp h)
    · exact absurd h not_refusing_ok
  | aggregate results =>
    simp only [Call.work] at h
    split at h
    · next config hKind =>
      rw [running_ok] at h
      simp only [mergeAndComplete, reachesUnder_bind_ok] at h
      obtain ⟨output, hMerged, h⟩ := h
      exact complete_changes (.merged hKind hMerged) h
    · exact absurd h not_refusing_ok
  | retriesExhausted error => simp [Call.work] at h

/-- Of a failure that ends a step, the context learns nothing. -/
theorem failTerminally_keeps (state : ExecutionState) (flow : Option Flow) (failed : Option String)
    (error : ErrorInfo) :
    SameExecution state (state.failTerminally flow failed error).state ∧
      (state.failTerminally flow failed error).state.context = state.context := by
  unfold ExecutionState.failTerminally ExecutionState.resetAttemptsOf
  split <;> split <;> exact ⟨⟨rfl, rfl, rfl, rfl, rfl, rfl⟩, rfl⟩

theorem failStep_keeps (r : Ready) (error : ErrorInfo) :
    SameExecution r.state (failStep r error).state ∧
    (failStep r error).state.context = r.state.context := by
  obtain ⟨hSame, hKept⟩ := failTerminally_keeps (r.state.resetAttempts (Step.pollCounter r.step.id))
    (some r.flow) (some r.step.id) error
  exact ⟨(SameExecution.resetAttempts _ _).trans hSame, hKept⟩

theorem conclude_error_keeps (s : Settings) (r : Ready) (failure : Failure) :
    SameExecution r.state (stateOf (conclude s r (.error failure))) ∧
      (stateOf (conclude s r (.error failure))).context = r.state.context := by
  cases failure with
  | refused info => exact failStep_keeps r info
  | run e =>
    simp only [conclude, settle]
    split
    · split
      · exact ⟨⟨rfl, rfl, rfl, rfl, rfl, rfl⟩, rfl⟩
      · obtain ⟨hSame, hKept⟩ := failStep_keeps { r with
        state := r.state.countAttempt r.step.id } e.info
        exact ⟨(SameExecution.countAttempt _ _).trans hSame, hKept⟩
    · exact failStep_keeps r e.info

theorem activate_same (flow : Flow) (state : ExecutionState) :
    SameExecution state (activate flow state) := by
  unfold activate
  split <;> exact ⟨rfl, rfl, rfl, rfl, rfl, rfl⟩

theorem Begins.same {begun : ExecutionState} (h : Begins allowed state begun) :
    SameExecution state begun := by
  cases h with
  | ended | missing => exact .refl state
  | activated => exact activate_same _ state

theorem locate_error_keeps (hLocated : locate flow state = .error result) :
    SameExecution state result.state ∧ result.state.context = state.context := by
  unfold locate at hLocated
  split at hLocated
  · cases hLocated
    exact ⟨⟨rfl, rfl, rfl, rfl, rfl, rfl⟩, rfl⟩
  · split at hLocated
    · cases hLocated
    · cases hLocated
      exact failTerminally_keeps state _ _ _

/-- Where a call ends while it prepares, its state has the context in which a step would begin. -/
theorem begins_of_stopped {answer : Answered} (h : Prepares allowed state (.error answer)) :
    ∃ begun, Begins allowed state begun ∧ SameExecution begun (stateOf answer) ∧
      (stateOf answer).context = begun.context := by
  generalize hPrepared : Except.error answer = x at h
  cases h with
  | ended hTerminal =>
    cases hPrepared
    exact ⟨state, .ended hTerminal, .refl _, rfl⟩
  | missing hLive hReply =>
    cases hPrepared
    exact ⟨state, .missing hReply (by simp), failTerminally_keeps state none _ _⟩
  | failed hLive hReply =>
    cases hPrepared
    refine ⟨state, .missing hReply (by simp), ?_⟩
    split
    · exact ⟨.refl _, rfl⟩
    · exact failTerminally_keeps state none _ _
  | @found flow hLive hReply =>
    refine ⟨activate flow state, .activated hLive hReply, ?_⟩
    split at hPrepared
    · cases hPrepared
    · next hLocated =>
      cases hPrepared
      exact locate_error_keeps hLocated

theorem begins_of_ready (h : Prepares allowed state (.ok r)) : Begins allowed state r.state := by
  generalize hPrepared : Except.ok r = x at h
  cases h with
  | ended | missing | failed => cases hPrepared
  | @found flow hLive hReply =>
    split at hPrepared
    · next hLocated =>
      cases hPrepared
      unfold locate at hLocated
      split at hLocated
      · cases hLocated
      · split at hLocated
        · cases hLocated
          exact .activated hLive hReply
        · cases hLocated
    · cases hPrepared

/-- Activation only fills in variables of the flow that a new execution lacks. -/
theorem Begins.context {begun : ExecutionState} (h : Begins allowed state begun) :
    begun = state ∨ state.status = .initializing ∧ ∃ flow : Flow,
      allowed (.findFlow state.flowId state.version) (.ok (some flow)) ∧
        ∀ key, begun.context.get? key =
          (state.context.get? key).or (flow.defaultContext.get? key) := by
  cases h with
  | ended | missing => exact .inl rfl
  | @activated flow hLive hFound =>
    by_cases hNew : state.status = .initializing
    · refine .inr ⟨hNew, flow, hFound, fun key => ?_⟩
      rw [activate_of_initializing flow hNew, Dict.get?_withDefaults]
    · exact .inl (activate_of_ne flow hNew)

/-- The answer belongs to the execution that was given, whose step begins in the given state: the
same but for variables of the flow that a new execution lacks. The context is the one in which the
step begins; only where the call completes the step, the keys that the output mappings of the step
touch may hold something else. -/
structure Frame (allowed : Allowed) (s : Settings) (c : Call) (state begun : ExecutionState)
    (answer : Answered) : Prop where
  same : SameExecution state (stateOf answer)
  begins : Begins allowed state begun
  activation : begun = state ∨ state.status = .initializing ∧ ∃ flow : Flow,
    allowed (.findFlow state.flowId state.version) (.ok (some flow)) ∧
      ∀ key, begun.context.get? key = (state.context.get? key).or (flow.defaultContext.get? key)
  context : (stateOf answer).context = begun.context ∨
    ∃ r output result, ReachesUnder allowed (prepare state) (.ok r) ∧ r.state = begun ∧
      answer = .ok result ∧ Completes allowed s r c output result ∧
      ∀ key, ¬ Output.Touches r.step.outputMappings output key →
        result.state.context.get? key = begun.context.get? key

/-- Whatever a call answers, the context has changed only where the output of a completed step was
written, and the execution is the same one. -/
theorem context_changes_only_by_outputs (c : Call) (s : Settings) (state : ExecutionState)
    {answer : Answered} (h : ReachesUnder allowed (c.program s state) answer) :
    ∃ begun, Frame allowed s c state begun answer := by
  rw [Call.program_eq, withStep, reachesUnder_bind] at h
  obtain ⟨prepared, hReady, h⟩ := h
  cases prepared with
  | error early =>
    rw [reachesUnder_pure] at h
    subst h
    obtain ⟨begun, hBegins, hSame, hKept⟩ := begins_of_stopped (prepare_prepares hReady)
    exact ⟨begun, hBegins.same.trans hSame, hBegins, hBegins.context, .inl hKept⟩
  | ok r =>
    have hBegins := begins_of_ready (prepare_prepares hReady)
    obtain ⟨outcome, hWorked, rfl⟩ := reachesUnder_map.mp h
    cases outcome with
    | error failure =>
      obtain ⟨hSame, hKept⟩ := conclude_error_keeps s r failure
      exact ⟨r.state, hBegins.same.trans hSame, hBegins, hBegins.context, .inl hKept⟩
    | ok result =>
      obtain ⟨hSame, hChanges⟩ := work_changes hWorked
      refine ⟨r.state, hBegins.same.trans hSame, hBegins, hBegins.context, ?_⟩
      rcases hChanges with hKept | ⟨output, hCompletes⟩
      · exact .inl hKept
      · exact .inr ⟨r, output, result, hReady, rfl, rfl, hCompletes, fun key hApart =>
          Output.apply_keeps hApart hCompletes.wrote⟩

end Outcomes

def packing : Flow where
  id := "packing"
  version := 1
  isPublished := true
  steps := [("pack", {
    id := "pack"
    kind := .noOp
    customConfig := [("box", .obj [("height", .num (.int 3)), ("width", .num (.int 2))]),
      ("label", .str "fragile")]
    outputMappings := [("$", .str "$.box"), ("parcel.label", .str "$.label")] })]
  start := "pack"
  defaultContext := [("currency", .str "EUR")]
  defaultStepConfig := []
  onCompletionActions := []
  createdAt := none
  updatedAt := none

def boxedParcel : ExecutionState where
  executionId := "parcel 1"
  flowId := "packing"
  version := 1
  context := [("buyer", .num (.int 7)), ("parcel", .num (.int 12))]

/-- The packed parcel has its measures and its label; the buyer stays, and the currency is filled
in. -/
theorem packed_parcel_framed :
    ∃ answer begun, (stateOf answer).context =
        [("buyer", .num (.int 7)), ("currency", .str "EUR"), ("height", .num (.int 3)),
          ("parcel", .obj [("label", .str "fragile")]), ("width", .num (.int 2))] ∧
      Frame (Calmly packing) {} .execute boxedParcel begun answer := by
  obtain ⟨begun, hFrame⟩ := context_changes_only_by_outputs .execute {} boxedParcel
    (reachesUnder_calm packing (Call.execute.program {} boxedParcel))
  exact ⟨_, begun, by decide +kernel, hFrame⟩

end Stepwise.Interpreter
