import Stepwise.Proofs.Interpreter.Call
import Stepwise.Proofs.Interpreter.Documents

/-!
# Storing answers

Every answer of the engine can be stored as a document. Its context, its counts and its last failure
are in order from the start, and every call leaves them in order; so what is read from the document
is the answer itself.
-/

namespace Stepwise

set_option autoImplicit false

open Program

section States

variable {state : ExecutionState} {flow : Flow} {error : ErrorInfo}

namespace ExecutionState

theorem Orderly.countAttempt (h : state.Orderly) (name : String) :
    (state.countAttempt name).Orderly :=
  ⟨h.context, Dict.sorted_insert h.attempts name _, h.error⟩

theorem Orderly.resetAttempts (h : state.Orderly) (name : String) :
    (state.resetAttempts name).Orderly :=
  ⟨h.context, Dict.sorted_erase h.attempts name, h.error⟩

theorem Orderly.resetAttemptsOf (h : state.Orderly) (step : Option String) :
    (state.resetAttemptsOf step).Orderly := by
  cases step with
  | none => exact h
  | some id => exact h.resetAttempts id

end ExecutionState

/-- Standing at a step never means to start branches at once. -/
theorem Step.orderly_action (step : Step) : step.action.Orderly := by
  unfold action
  split <;> trivial

theorem Flow.orderly_actionFor {next : Option String} {action : NextAction}
    (h : flow.actionFor next = .ok action) : action.Orderly := by
  unfold actionFor at h
  split at h
  · cases h
    trivial
  · split at h
    · next step _ =>
      cases h
      exact step.orderly_action
    · cases h

theorem Flow.orderly_fallbackFrom? {id target : String} {action : NextAction}
    (h : flow.fallbackFrom? id = some (target, action)) : action.Orderly := by
  simp only [fallbackFrom?, Option.bind_eq_bind, Option.bind_eq_some_iff] at h
  obtain ⟨step, -, target', -, h⟩ := h
  split at h
  · next hFound =>
    cases h
    exact orderly_actionFor hFound
  · cases h

theorem ExecutionState.Orderly.failTerminally (h : state.Orderly) (he : error.Orderly)
    (flow : Option Flow) (failed : Option String) :
    StepResult.Orderly (state.failTerminally flow failed error) := by
  have hReset := h.resetAttemptsOf failed
  have hRecorded : ∀ e ∈ some error, e.Orderly := by
    rintro e ⟨⟩
    exact he
  unfold ExecutionState.failTerminally
  dsimp only
  split
  · next hFound =>
    obtain ⟨f, -, hFound⟩ := Option.bind_eq_some_iff.mp hFound
    obtain ⟨id, -, hFound⟩ := Option.bind_eq_some_iff.mp hFound
    exact ⟨⟨hReset.context, hReset.attempts, hRecorded⟩, Flow.orderly_fallbackFrom? hFound⟩
  · exact ⟨⟨hReset.context, hReset.attempts, hRecorded⟩, trivial⟩

end States

namespace Interpreter

structure Ready.Orderly (r : Ready) : Prop where
  flow : r.flow.Orderly
  step : r.step.Orderly
  state : r.state.Orderly

def OrderlyAnswer (answer : Answered) : Prop :=
  Meets StepResult.Orderly RetryableFailure.Orderly answer

section Steps

variable {s : Settings} {flow : Flow} {step : Step} {state : ExecutionState} {output : Json}
  {r : Ready}

theorem activate_orderly (hFlow : flow.Orderly) (h : state.Orderly) :
    (activate flow state).Orderly := by
  unfold activate
  split
  · exact ⟨h.context.withDefaults hFlow.defaultContext.values, h.attempts, h.error⟩
  · exact h

theorem locate_orderly (hFlow : flow.Orderly) (h : state.Orderly) :
    Meets Ready.Orderly StepResult.Orderly (locate flow state) := by
  unfold locate
  split
  · exact ⟨⟨h.context, h.attempts, h.error⟩, trivial⟩
  · split
    · next step hFound => exact ⟨hFlow, hFlow.step hFound, h⟩
    · exact h.failTerminally (ErrorInfo.orderly_terminal _ _) _ _

theorem prepares_orderly (h : state.Orderly) {prepared : Except Answered Ready}
    (hPrepares : Prepares Legible state prepared) : Meets Ready.Orderly OrderlyAnswer prepared := by
  cases hPrepares with
  | ended hTerminal => exact ⟨h, trivial⟩
  | @found flow hLive hReply =>
    have hFlow : flow.Orderly := Flow.orderly_of_readFrom (hReply flow rfl)
    have hLocated := locate_orderly hFlow (activate_orderly hFlow h)
    cases hFound : locate flow (activate flow state) <;> rw [hFound] at hLocated <;> exact hLocated
  | missing hLive hReply => exact h.failTerminally (ErrorInfo.orderly_terminal _ _) _ _
  | @failed e hLive hReply =>
    have hInfo := (StepError.orderly_ofEngine e).info
    split
    · exact ⟨h, hInfo⟩
    · exact h.failTerminally hInfo _ _

theorem writeOutput_gives (hStep : step.Orderly) (h : state.Orderly) (ho : output.Normal) :
    StepProgram.Gives ExecutionState.Orderly (writeOutput s step state output) := by
  refine Ensures.bind (gives_asStep (Output.apply_normal ho hStep.outputMappings h.context))
    fun context hContext => ensures_pure ⟨hContext, Dict.sorted_erase h.attempts _, ?_⟩
  rintro e ⟨⟩

theorem complete_gives (hStep : step.Orderly) (h : state.Orderly) (ho : output.Normal) :
    StepProgram.Gives StepResult.Orderly (complete s flow step state output) := by
  refine (writeOutput_gives hStep h ho).bind fun state hState => ?_
  refine Ensures.bind gives_any fun next _ => ?_
  have hChosen : EngineProgram.Gives Legible NextAction.Orderly
      (EngineProgram.ofExcept (flow.actionFor next)) := by
    refine ensures_done ?_
    cases hFound : flow.actionFor next with
    | ok action => exact Flow.orderly_actionFor hFound
    | error e => trivial
  refine (gives_asStep hChosen).bind fun action hAction => ?_
  cases next with
  | none => exact ensures_pure ⟨⟨hState.context, hState.attempts, hState.error⟩, hAction⟩
  | some id => exact ensures_pure ⟨⟨hState.context, hState.attempts, hState.error⟩, hAction⟩

section Kinds

variable (hr : r.Orderly)

include hr

theorem input_gives : StepProgram.Gives Dict.Normal (input s r.flow r.step r.state) :=
  gives_asStep (Input.ofStep_normal (ExecutionState.normal_scope hr.state) hr.step
    hr.flow.defaultStepConfig)

theorem finish_gives : StepProgram.Gives StepResult.Orderly (finish s r.flow r.step r.state) := by
  refine (input_gives hr).bind fun output ho => ?_
  refine (writeOutput_gives hr.step hr.state (Json.normal_obj_iff.mpr ho)).bind fun state hState =>
    ?_
  exact ensures_pure ⟨⟨hState.context, hState.attempts, hState.error⟩, trivial⟩

theorem passThrough_gives :
    StepProgram.Gives StepResult.Orderly (passThrough s r.flow r.step r.state) :=
  (input_gives hr).bind fun _ ho => complete_gives hr.step hr.state (Json.normal_obj_iff.mpr ho)

theorem callHandler_completes :
    StepProgram.Gives StepResult.Orderly (callHandler s r.flow r.step r.state) :=
  (input_gives hr).bind fun _ _ => (Dispatch.call_gives _ _ _).bind fun _ ho =>
    complete_gives hr.step hr.state ho

theorem startFlow_gives (target : FlowStart) (parentId : Option String) :
    StepProgram.Gives StepResult.Orderly (startFlow s r.flow r.step r.state target parentId) := by
  have hRefused (e : EngineError) : (startFailure e).Orderly := by
    unfold startFailure
    split
    · exact StepError.orderly_ofEngine _
    · exact StepError.orderly_ofEngine _
    · exact orderlyDetails_none
  refine (input_gives hr).bind fun context _ => ?_
  refine Ensures.bind (ensures_lift (P := fun _ => True) fun _ _ => trivial) fun id _ => ?_
  refine Ensures.bind
    (Ensures.adapt (ensures_true fun _ => trivial) fun e _ => hRefused e) fun _ _ => ?_
  exact complete_gives hr.step hr.state (Json.normal_object (by simp))

theorem poll_gives (polling : Polling) :
    StepProgram.Gives StepResult.Orderly (poll s r.flow r.step r.state polling) := by
  refine (input_gives hr).bind fun bag _ => ?_
  refine (Dispatch.call_gives _ _ _).bind fun output ho => ?_
  refine Ensures.bind gives_any fun isComplete _ => ?_
  split
  · exact complete_gives hr.step (hr.state.resetAttempts _) ho
  · dsimp only
    split
    · exact ensures_throw orderlyDetails_none
    · exact ensures_pure ⟨hr.state.countAttempt _, trivial⟩

theorem mergeAndComplete_gives {config : Fork} {results : List BranchResult}
    (h : ∀ b ∈ results, ∀ v ∈ b.output, v.Normal) :
    StepProgram.Gives StepResult.Orderly (mergeAndComplete s r config results) :=
  (Aggregation.merge_gives h _ _ _).bind fun _ ho => complete_gives hr.step hr.state ho

theorem fork_gives {config : Fork} (hConfig : config.Orderly) :
    StepProgram.Gives StepResult.Orderly (fork s r.flow r.step r.state config) := by
  refine (gives_asStep (Fork.payloadsFrom_normal hr.state hConfig.branches 0)).bind
    fun branches hBranches => ?_
  split
  · have hNone : ∀ b ∈ ([] : List BranchResult), ∀ v ∈ b.output, v.Normal :=
      fun _ hAmong => nomatch hAmong
    exact mergeAndComplete_gives hr hNone
  · exact ensures_pure ⟨hr.state, hBranches, hConfig.aggregation⟩

theorem runStep_gives : StepProgram.Gives StepResult.Orderly (runStep s r.flow r.step r.state) := by
  unfold runStep
  cases hKind : r.step.kind with
  | endFlow => exact finish_gives hr
  | wait config => exact ensures_pure ⟨hr.state, trivial⟩
  | fork config => exact fork_gives hr (hr.step.fork config hKind)
  | startSubFlow target => exact startFlow_gives hr target _
  | startFlowExecution target => exact startFlow_gives hr target none
  | poll polling => exact poll_gives hr polling
  | noOp | scheduleStartPoint => exact passThrough_gives hr
  | dataTransformation =>
    dsimp only
    split
    · exact passThrough_gives hr
    · exact callHandler_completes hr
  | customLogic | externalInvoke | dataLoad | dataSave => exact callHandler_completes hr

theorem failStep_orderly {info : ErrorInfo} (h : info.Orderly) : (failStep r info).Orderly :=
  (hr.state.resetAttempts _).failTerminally h _ _

end Kinds

end Steps

section Waiting

variable {s : Settings} {state : ExecutionState}

theorem invalidKey_orderly (w : Wait) (problem : String) : (w.invalidKey problem).Orderly :=
  orderlyDetails_object (by simp)

theorem correlationKey_gives (w : Wait) (scope : Json) :
    StepProgram.Gives (fun _ => True) (w.correlationKey s scope) := by
  have hChecked (rendered : Resolved) :
      Meets (fun _ => True) StepError.Orderly ((w.keyText rendered).bind (w.checkKey s)) := by
    have hText : Meets (fun _ => True) StepError.Orderly (w.keyText rendered) := by
      unfold Wait.keyText
      split <;> first | trivial | exact invalidKey_orderly w _
    cases hRead : w.keyText rendered with
    | error e =>
      rw [hRead] at hText
      exact hText
    | ok key =>
      show Meets _ _ (w.checkKey s key)
      unfold Wait.checkKey
      dsimp only
      repeat' split
      all_goals first | trivial | exact invalidKey_orderly w _
  exact Ensures.bind gives_any fun rendered _ => ensures_done (hChecked rendered)

theorem suspend_gives (w : Wait) (stepId resumeToken : String) :
    StepProgram.Gives (fun _ => True) (w.suspend s state stepId resumeToken) := by
  unfold Wait.suspend
  dsimp only
  split
  · exact Ensures.bind (P := fun _ => False) (gives_refusal _) fun _ hNo => hNo.elim
  · refine (correlationKey_gives w _).bind fun key _ => ?_
    refine Ensures.bind (ensures_lift (P := fun _ => True) fun _ _ => trivial) fun createdAt _ => ?_
    exact Ensures.bind gives_any fun _ _ => ensures_pure trivial

end Waiting

/-- The arguments of the call were read from documents. -/
def Call.ArgumentsRead : Call → Prop
  | .execute => True
  | .suspend _ => True
  | .resumeWithEvent payload => Json.ReadFrom Json.document? payload
  | .aggregate results => ∀ b ∈ results, Json.ReadFrom BranchResult.ofJson? b
  | .retriesExhausted error => Json.ReadFrom ErrorInfo.ofJson? error

section Calls

variable {s : Settings} {r : Ready} {c : Call}

/-- What the work of a call comes to is a result or a failure in order. -/
abbrev WorksOrderly (p : Program (Except Failure StepResult)) : Prop :=
  ∀ outcome, ReachesUnder Legible p outcome →
    Meets StepResult.Orderly (fun f => f.info.Orderly) outcome

theorem running_orderly {p : StepProgram StepResult} (h : StepProgram.Gives StepResult.Orderly p) :
    WorksOrderly (Call.running p) :=
  h.adapt fun _ he => he.info

theorem refusing_orderly (r : Ready) (expected : String) :
    WorksOrderly (Call.refusing r expected) := by
  intro outcome hReached
  rw [reachesUnder_pure.mp hReached]
  exact orderlyDetails_none

theorem work_orderly (hr : r.Orderly) (hc : c.ArgumentsRead) : WorksOrderly (c.work s r) := by
  cases c with
  | execute => exact running_orderly (runStep_gives hr)
  | suspend resumeToken =>
    unfold Call.work
    dsimp only
    split
    · exact running_orderly ((suspend_gives _ _ _).map fun _ _ => ⟨hr.state, trivial⟩)
    · exact refusing_orderly r _
  | resumeWithEvent payload =>
    unfold Call.work
    dsimp only
    split
    · exact running_orderly (complete_gives hr.step hr.state hc.normal)
    · exact refusing_orderly r _
  | aggregate results =>
    unfold Call.work
    dsimp only
    split
    · exact running_orderly (mergeAndComplete_gives hr fun b hAmong =>
        BranchResult.normal_output_of_readFrom (hc b hAmong))
    · exact refusing_orderly r _
  | retriesExhausted error =>
    intro outcome hReached
    rw [reachesUnder_pure.mp hReached]
    exact ErrorInfo.orderly_of_readFrom hc

theorem conclude_orderly (hr : r.Orderly) {outcome : Except Failure StepResult}
    (h : Meets StepResult.Orderly (fun f => f.info.Orderly) outcome) :
    OrderlyAnswer (conclude s r outcome) := by
  match outcome with
  | .ok result => exact h
  | .error (.refused info) => exact failStep_orderly hr h
  | .error (.run e) =>
    have hCounted := hr.state.countAttempt r.step.id
    simp only [conclude, settle]
    split
    · split
      · exact ⟨hCounted, h⟩
      · exact failStep_orderly (r := { r with state := r.state.countAttempt r.step.id })
          ⟨hr.flow, hr.step, hCounted⟩ h
    · exact failStep_orderly hr h

theorem program_orderly {state : ExecutionState} (h : state.Orderly) (hc : c.ArgumentsRead)
    {answer : Answered} (hReached : ReachesUnder Legible (c.program s state) answer) :
    OrderlyAnswer answer := by
  rcases Call.program_reaches hReached with hEarly | ⟨r, outcome, hPrepares, hWorked, rfl⟩
  · exact prepares_orderly h hEarly
  · have hr : r.Orderly := prepares_orderly h hPrepares
    exact conclude_orderly hr (work_orderly hr hc outcome hWorked)

theorem start_orderly {m : StartMessage} (h : m.context.Normal) :
    EngineProgram.Gives Legible StepResult.Orderly (start m) := by
  refine Ensures.bind (ensures_true fun _ => trivial) fun found _ => ?_
  cases found with
  | none => exact ensures_throw trivial
  | some flow =>
    have hStarted (id : String) : StepResult.Orderly ⟨{
        executionId := id
        flowId := m.flowId
        version := m.version
        current := some flow.start
        context := m.context
        parentExecutionId := m.parentExecutionId }, .proceed⟩ :=
      ⟨⟨h, List.Pairwise.nil, fun _ hNone => nomatch hNone⟩, trivial⟩
    dsimp only
    split <;> exact Ensures.bind (ensures_true fun _ => trivial) fun id _ =>
      ensures_pure (hStarted id)

end Calls

/-- The answer is what is read from the document that is written for it. -/
def ReadAgain : Answered → Prop
  | .ok result => StepResult.ofJson? result.toJson = some result
  | .error failure => RetryableFailure.ofJson? failure.toJson = some failure

theorem OrderlyAnswer.readAgain {answer : Answered} (h : OrderlyAnswer answer) :
    ReadAgain answer := by
  cases answer with
  | ok result => exact StepResult.ofJson?_toJson h
  | error failure => exact RetryableFailure.ofJson?_toJson h

/-- Whatever an execution is started with and called with, if it was read from documents, and so
were the flows and all that handlers reply: the answer is read again, field by field, from what is
written for it. -/
theorem answers_read_again (s : Settings) :
    (∀ (m : StartMessage) (result : StepResult), Json.ReadFrom StartMessage.ofJson? m →
      ReachesUnder Legible (start m).run (.ok result) → ReadAgain (.ok result)) ∧
    ∀ (c : Call) (state : ExecutionState) (answer : Answered), c.ArgumentsRead →
      Json.ReadFrom ExecutionState.ofJson? state → ReachesUnder Legible (c.program s state) answer →
      ReadAgain answer := by
  constructor
  · intro m result hRead hReached
    exact StepResult.ofJson?_toJson
      (start_orderly (StartMessage.normal_context_of_readFrom hRead) _ hReached)
  · intro c state answer hArguments hRead hReached
    exact (program_orderly (ExecutionState.orderly_of_readFrom hRead) hArguments hReached).readAgain

/-- Calm surroundings reply as they must, if their flow was read from a document. -/
theorem legible_of_calmly {flow : Flow} (h : Json.ReadFrom Flow.ofJson? flow) :
    ∀ r reply, Calmly flow r reply → Legible r reply := by
  intro r reply hSame
  cases r with
  | findFlow id version =>
    cases hSame
    rintro f ⟨⟩
    exact h
  | callHandler moduleId request =>
    cases hSame
    rintro answer ⟨⟩
    exact ⟨.null, trivial, rfl⟩
  | invokeRemote registration request =>
    cases hSame
    rintro response ⟨⟩
  | _ => trivial

def forkedDocument : Json :=
  .obj [("version", .num (.int 3)), ("status", .str "RUNNING"),
    ("flowExecutionId", .str "parcel 1"), ("flowDefinitionId", .str "parcel"), ("errorInfo", .null),
    ("currentStepInstanceId", .str "fork"), ("stepRetryAttempts", .obj [("pack", .num (.int 2))]),
    ("currentContextData", .obj [("weight", .arr [.num (.int 4)]), ("label", .null)])]

def forkedParcel : ExecutionState where
  executionId := "parcel 1"
  flowId := "parcel"
  version := 3
  current := some "fork"
  status := .running
  context := [("label", .null), ("weight", .arr [.num (.int 4)])]
  attempts := [("pack", 2)]

def parcelMessage : Json := .arr [.str "parcel", .num (.int 3), .obj [("weight", .num (.int 4))]]

/-- A new parcel, and the two branches of a fork, are read again. -/
theorem parcel_read_again :
    (∃ result : StepResult, result.state.context = [("weight", .num (.int 4))] ∧
      ReadAgain (.ok result)) ∧
    ∃ answer : Answered, answer.toOption = some ⟨forkedParcel, .fork
        [⟨"left", 0, "parcel 1:left", .step "pack", []⟩,
          ⟨"right", 1, "parcel 1:right", .flow "invoice" 2, []⟩]
        { toleratedFailurePercentage := some 25.0 } none⟩ ∧
      ReadAgain answer := by
  have hFlow : Json.ReadFrom Flow.ofJson? parcelFlow := by
    refine ⟨parcelDocument, ?_, by decide +kernel⟩
    simp [parcelDocument, Json.IsValue, Json.ItemsAreValues, Json.FieldsAreValues, Dict.Unique,
      Dict.keys]
  have hMessage : Json.ReadFrom StartMessage.ofJson?
      ⟨"parcel", 3, [("weight", .num (.int 4))], none, none, none⟩ := by
    refine ⟨parcelMessage, ?_, by decide +kernel⟩
    simp [parcelMessage, Json.IsValue, Json.ItemsAreValues, Json.FieldsAreValues, Dict.Unique,
      Dict.keys]
  have hState : Json.ReadFrom ExecutionState.ofJson? forkedParcel := by
    refine ⟨forkedDocument, ?_, by decide +kernel⟩
    simp [forkedDocument, Json.IsValue, Json.ItemsAreValues, Json.FieldsAreValues, Dict.Unique,
      Dict.keys]
  have hLegible := legible_of_calmly hFlow
  obtain ⟨hStarted, hCalled⟩ := answers_read_again {}
  refine ⟨⟨_, rfl,
    hStarted _ _ hMessage ((reachesUnder_calm_ok (f := parcelFlow) rfl).mono hLegible)⟩, ?_⟩
  refine ⟨_, ?_, hCalled .execute _ _ trivial hState
    ((reachesUnder_calm parcelFlow (Call.execute.program {} forkedParcel)).mono hLegible)⟩
  decide +kernel

end Interpreter

end Stepwise
