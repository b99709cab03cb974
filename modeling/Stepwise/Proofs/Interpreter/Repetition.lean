import Stepwise.Proofs.Interpreter.Frame
import Stepwise.Proofs.Interpreter.Requests
import Stepwise.Proofs.Program.Repetition

/-!
# Calls that are delivered twice

Whatever a step does, apart from starting another execution, can be run twice: an object that is
missing ends the step, and what is written is stored under the name of its content. So the second
call answers what the first one has answered.
-/

namespace Stepwise

set_option autoImplicit false

open Program

section Writing

variable {reply : (r : Request) → Reply r} {stop : Output.Written → Prop}

theorem offload_repeatable (s : Settings) (executionId destination : String) (v : Json) :
    Repeatable reply (fun _ => False) (offload s executionId destination v).run := by
  unfold offload
  split
  · exact .done _
  · dsimp only
    split
    · exact .done _
    · refine repeatable_bind_sure (.put ⟨executionId, destination, rfl⟩ fun _ => .done _) fun x =>
        ?_
      cases x with
      | ok _ => exact .done _
      | error _ => exact .done _

namespace Output

theorem writeField_repeatable (s : Settings) (executionId name : String) (v : Json)
    (context : Dict Json) : Repeatable reply stop (writeField s executionId name v context) := by
  refine repeatable_bind_sure (offload_repeatable s executionId name v) fun stored => ?_
  cases stored with
  | ok v => exact .done _
  | error e => exact .done _

theorem writeFields_repeatable (s : Settings) (executionId : String) (fields : List (String × Json))
    (context : Dict Json) :
    Repeatable reply (fun _ => False) (writeFields s executionId fields context) := by
  induction fields generalizing context with
  | nil => exact .done _
  | cons field rest ih =>
    refine repeatable_bind_sure (writeField_repeatable s executionId _ _ context) fun w => ?_
    split
    · exact ih _
    · exact .done _

theorem writePath_repeatable (s : Settings) (executionId destination : String) (v : Json)
    (context : Dict Json) :
    Repeatable reply stop (writePath s executionId destination v context) := by
  refine repeatable_bind_sure (offload_repeatable s executionId destination v) fun stored => ?_
  cases stored with
  | error e => exact .done _
  | ok v =>
    dsimp only
    split
    · exact .done _
    · exact .done _

theorem writeValue_repeatable (s : Settings) (executionId destination : String) (v : Json)
    (context : Dict Json) :
    Repeatable reply (fun _ => False) (writeValue s executionId destination v context) := by
  unfold writeValue
  split
  · split
    · exact writeFields_repeatable s executionId _ context
    · exact .done _
  · exact writePath_repeatable s executionId destination v context

theorem write_repeatable (s : Settings) (executionId : String) (output : Json)
    (mappings : List (String × Json)) (context : Dict Json) :
    Repeatable reply stop (write s executionId output mappings context) := by
  induction mappings generalizing context with
  | nil => exact .done _
  | cons entry rest ih =>
    obtain ⟨destination, mapping⟩ := entry
    obtain ⟨taken, hSame⟩ := source_eq_ofExcept output mapping
    unfold write
    rw [hSame]
    refine repeatable_bind_sure (.done taken) fun r => ?_
    match r with
    | .error e => exact .done _
    | .ok .undefined => exact ih context
    | .ok (.value v) =>
      refine repeatable_bind_sure
        (writeValue_repeatable s executionId destination v context) fun w => ?_
      split
      · exact ih _
      · exact .done _

theorem apply_repeats (s : Settings) (executionId : String) (mappings : Dict Json) (output : Json)
    (context : Dict Json) :
    EngineProgram.Repeats reply (apply s executionId mappings output context) :=
  repeatable_bind_sure (write_repeatable s executionId output mappings context) fun _ => .done _

end Output

end Writing

namespace Fork

theorem payloads_reads (config : Fork) (s : Settings) (state : ExecutionState) :
    EngineProgram.Reads (config.payloads s state) := by
  unfold payloads
  generalize 0 = index
  induction config.branches generalizing index with
  | nil => exact .pure _
  | cons b rest ih =>
    have hChecked : EngineProgram.Reads (b.holds state.scope) := by
      unfold Branch.holds
      split
      · exact .pure _
      · exact Condition.check_reads _ _
    refine .bind hChecked fun holds => ?_
    cases holds with
    | false => exact ih _
    | true =>
      have hBuilt : EngineProgram.Reads (b.payload s state index) :=
        .bind (Input.addMapped_reads s _ _ _) fun _ => .pure _
      exact .bind hBuilt fun _ => .bind (ih _) fun _ => .pure _

end Fork

theorem Aggregation.project_reads (path : String) (documents : List Json) :
    EngineProgram.Reads (project path documents) := by
  induction documents with
  | nil => exact .pure _
  | cons v rest ih => exact .bind (resolve_reads path v true) fun _ => .bind ih fun _ => .pure _

section Working

variable {reply : (r : Request) → Reply r}

/-- The program of a step can be run twice, and fails when an object is missing. -/
def StepProgram.Repeats {α : Type} (reply : (r : Request) → Reply r) (p : StepProgram α) : Prop :=
  Program.Repeats reply (fun _ => True) p

theorem EngineProgram.Reads.asStep_repeats {α : Type} {p : EngineProgram α} (h : p.Reads) :
    StepProgram.Repeats reply p.asStep := repeats_asStep h.repeats

theorem Dispatch.call_repeats (step : Step) (bag : Dict Json) (state : ExecutionState) :
    StepProgram.Repeats reply (call step bag state) := by
  unfold call
  split
  · exact repeats_throw
  · refine repeats_bind (repeats_lift trivial) fun answered => ?_
    match answered with
    | some answer => exact .done answer
    | none =>
      refine repeats_bind
        (EngineProgram.repeats_asStep (.fixed trivial (.done _))) fun registered => ?_
      match registered with
      | none => exact repeats_throw
      | some registration =>
        refine repeats_bind (repeats_lift trivial) fun invoked => ?_
        match invoked with
        | none => exact repeats_throw
        | some (.error e) => exact repeats_throw
        | some (.ok response) => exact .done _

theorem Aggregation.merge_repeats (a : Aggregation) (results : List BranchResult) (step : Step)
    (state : ExecutionState) : StepProgram.Repeats reply (a.merge results step state) := by
  unfold merge
  split
  · exact repeats_throw
  · unfold collect
    split
    · exact repeats_pure
    · split
      · exact repeats_throw
      · exact repeats_bind (project_reads _ _).asStep_repeats fun _ => repeats_pure
    · split
      · exact repeats_throw
      · refine repeats_bind (repeats_lift trivial) fun answered => ?_
        match answered with
        | some answer => exact .done answer
        | none => exact repeats_throw

namespace Interpreter

variable (s : Settings) (flow : Flow) (step : Step) (state : ExecutionState)

theorem writeOutput_repeats (output : Json) :
    StepProgram.Repeats reply (writeOutput s step state output) :=
  repeats_bind (EngineProgram.repeats_asStep (Output.apply_repeats s _ _ output _)) fun _ =>
    repeats_pure

theorem complete_repeats (output : Json) :
    StepProgram.Repeats reply (complete s flow step state output) := by
  refine repeats_bind (writeOutput_repeats s step state output) fun written => ?_
  refine repeats_bind (step.next_reads _).asStep_repeats fun next => ?_
  refine repeats_bind (EngineProgram.Reads.ofExcept _).asStep_repeats fun action => ?_
  cases next with
  | none => exact repeats_pure
  | some id => exact repeats_pure

theorem input_repeats : StepProgram.Repeats reply (input s flow step state) :=
  (Input.ofStep_reads s step _ _).asStep_repeats

theorem passThrough_repeats : StepProgram.Repeats reply (passThrough s flow step state) :=
  repeats_bind (input_repeats s flow step state) fun _ => complete_repeats s flow step state _

theorem callHandler_repeats : StepProgram.Repeats reply (callHandler s flow step state) :=
  repeats_bind (input_repeats s flow step state) fun _ =>
    repeats_bind (Dispatch.call_repeats step _ state) fun _ => complete_repeats s flow step state _

theorem finish_repeats : StepProgram.Repeats reply (finish s flow step state) :=
  repeats_bind (input_repeats s flow step state) fun _ =>
    repeats_bind (writeOutput_repeats s step state _) fun _ => repeats_pure

theorem fork_repeats (config : Fork) :
    StepProgram.Repeats reply (fork s flow step state config) := by
  refine repeats_bind (config.payloads_reads s state).asStep_repeats fun branches => ?_
  split
  · exact repeats_bind (config.aggregation.merge_repeats [] step state) fun _ =>
      complete_repeats s flow step state _
  · exact repeats_pure

theorem pollIsComplete_reads (polling : Polling) (output : Json) :
    EngineProgram.Reads (pollIsComplete polling state output) := by
  unfold pollIsComplete
  split
  · exact .pure _
  · exact Condition.check_reads _ _

theorem poll_repeats (polling : Polling) :
    StepProgram.Repeats reply (poll s flow step state polling) := by
  refine repeats_bind (input_repeats s flow step state) fun bag => ?_
  refine repeats_bind (Dispatch.call_repeats step bag state) fun output => ?_
  refine repeats_bind (pollIsComplete_reads state polling output).asStep_repeats fun found => ?_
  split
  · exact complete_repeats s flow step _ output
  · dsimp only
    split
    · exact repeats_throw
    · exact repeats_pure

/-- Whatever the step is, if it does not start another execution, running it can be repeated. -/
theorem runStep_repeats (hKind : ∀ target, step.kind ≠ .startSubFlow target ∧
    step.kind ≠ .startFlowExecution target) :
    StepProgram.Repeats reply (runStep s flow step state) := by
  unfold runStep
  cases hSame : step.kind with
  | endFlow => exact finish_repeats s flow step state
  | wait config => exact repeats_pure
  | fork config => exact fork_repeats s flow step state config
  | poll config => exact poll_repeats s flow step state config
  | startSubFlow target => exact absurd hSame (hKind target).1
  | startFlowExecution target => exact absurd hSame (hKind target).2
  | noOp | scheduleStartPoint => exact passThrough_repeats s flow step state
  | dataTransformation =>
    dsimp only
    split
    · exact passThrough_repeats s flow step state
    · exact callHandler_repeats s flow step state
  | customLogic | externalInvoke | dataLoad | dataSave =>
    exact callHandler_repeats s flow step state

variable {state}

theorem withStep_repeatable {f : Ready → Program Answered} (hLive : state.isTerminal = false)
    (h : ∀ flow r, reply (.findFlow state.flowId state.version) = .ok (some flow) →
      locate flow (activate flow state) = .ok r → Repeatable reply (fun _ => True) (f r)) :
    Repeatable reply (fun _ => True) (withStep state f) := by
  unfold withStep prepare
  rw [hLive, if_neg Bool.false_ne_true]
  refine .fixed trivial ?_
  generalize reply (.findFlow state.flowId state.version) = answer at h ⊢
  match answer with
  | .error e => exact .done _
  | .ok none => exact .done _
  | .ok (some flow) =>
    cases hLocated : locate flow (activate flow state) with
    | error result =>
      simp only [Program.bind, hLocated]
      exact .done _
    | ok r =>
      simp only [Program.bind, hLocated]
      exact h flow r rfl hLocated

theorem running_repeatable {p : StepProgram StepResult} (h : StepProgram.Repeats reply p) :
    Repeatable reply (fun _ => True) (Call.running p) :=
  repeatable_map h fun _ _ => trivial

theorem refusing_repeatable (r : Ready) (expected : String) :
    Repeatable reply (fun _ => True) (Call.refusing r expected) := .done _

/-- The work of a call that does not read the clock, at a step that does not start an execution. -/
theorem Call.work_repeatable (c : Call) (r : Ready)
    (hTimeless : ∀ resumeToken, c ≠ .suspend resumeToken)
    (hKind : ∀ target, r.step.kind ≠ .startSubFlow target ∧
      r.step.kind ≠ .startFlowExecution target) :
    Repeatable reply (fun _ => True) (c.work s r) := by
  cases c with
  | execute => exact running_repeatable (runStep_repeats s r.flow r.step r.state hKind)
  | suspend resumeToken => exact absurd rfl (hTimeless resumeToken)
  | resumeWithEvent payload =>
    simp only [Call.work]
    split
    · exact running_repeatable (complete_repeats s r.flow r.step r.state payload)
    · exact refusing_repeatable r _
  | aggregate results =>
    simp only [Call.work]
    split
    · exact running_repeatable (repeats_bind (Aggregation.merge_repeats _ results r.step r.state)
        fun _ => complete_repeats s r.flow r.step r.state _)
    · exact refusing_repeatable r _
  | retriesExhausted error => exact .done _

theorem Call.program_repeatable (c : Call) (hTimeless : ∀ resumeToken, c ≠ .suspend resumeToken)
    (hKind : ∀ flow r target, reply (.findFlow state.flowId state.version) = .ok (some flow) →
      locate flow (activate flow state) = .ok r →
      r.step.kind ≠ .startSubFlow target ∧ r.step.kind ≠ .startFlowExecution target) :
    Repeatable reply (fun _ => True) (c.program s state) := by
  rw [Call.program_eq]
  by_cases hTerminal : state.isTerminal = true
  · unfold withStep prepare
    rw [if_pos hTerminal]
    exact .done _
  · rw [Bool.not_eq_true] at hTerminal
    refine withStep_repeatable hTerminal fun flow r hFound hLocated => ?_
    exact repeatable_map
      (Call.work_repeatable s c r hTimeless fun target => hKind flow r target hFound hLocated)
      fun _ _ => trivial

section Delivery

variable {σ : Type} {serve : (r : Request) → σ → Reply r × σ} {sound : σ → Prop}
  {look : σ → Objects}

/-- A call that is delivered once more is harmless: where every object was moved to its store by the
engine, and no two contents share a digest, the second call answers what the first one has answered,
and leaves the stored objects as the first one has left them. -/
theorem redelivered_call_answers_again (A : RepliesAgain serve sound look reply) (c : Call)
    (hTimeless : ∀ resumeToken, c ≠ .suspend resumeToken) (s : Settings) (state : ExecutionState)
    (hKind : ∀ flow r target, reply (.findFlow state.flowId state.version) = .ok (some flow) →
      locate flow (activate flow state) = .ok r →
      r.step.kind ≠ .startSubFlow target ∧ r.step.kind ≠ .startFlowExecution target)
    {st : σ} (hOk : sound st) (hClear : Unambiguous serve look (c.program s state) st) :
    (run serve (c.program s state) (run serve (c.program s state) st).2).1 =
        (run serve (c.program s state) st).1 ∧
      look (run serve (c.program s state) (run serve (c.program s state) st).2).2 =
        look (run serve (c.program s state) st).2 := by
  have hRepeatable := Call.program_repeatable s c hTimeless hKind
  exact run_again A hRepeatable hOk (run_sound A hRepeatable hOk) hClear rfl

end Delivery

/-- The label of the parcel is too long to stay, so it is put into the object store, twice. -/
theorem packed_parcel_answers_again :
    putTexts (exchanged (shelf packing)
        (Call.execute.program { offloadThresholdBytes := 8 } boxedParcel) fun _ _ => none) =
        ["\"fragile\""] ∧
      ∃ answer objects, run (shelf packing)
          (Call.execute.program { offloadThresholdBytes := 8 } boxedParcel) (fun _ _ => none) =
          (answer, objects) ∧
        run (shelf packing)
          (Call.execute.program { offloadThresholdBytes := 8 } boxedParcel) objects =
          (answer, objects) := by
  have hPut : putTexts (exchanged (shelf packing)
      (Call.execute.program { offloadThresholdBytes := 8 } boxedParcel) fun _ _ => none) =
      ["\"fragile\""] := by decide +kernel
  refine ⟨hPut, _, _, rfl, ?_⟩
  have hClear : Unambiguous (shelf packing) id
      (Call.execute.program { offloadThresholdBytes := 8 } boxedParcel) fun _ _ => none := by
    have hOnly {a : String} :
        Objects.Holds (fun _ _ => none) a ∨ a ∈ putTexts (exchanged (shelf packing)
        (Call.execute.program { offloadThresholdBytes := 8 } boxedParcel) fun _ _ => none) →
        a = "\"fragile\"" := by
      rintro (⟨_, _, hStored⟩ | h)
      · cases hStored
      · rw [hPut] at h
        exact List.mem_singleton.mp h
    exact ⟨fun _ _ _ hStored => (by cases hStored),
      fun a b ha hb _ => (hOnly ha).trans (hOnly hb).symm⟩
  obtain ⟨hAnswer, hStays⟩ := redelivered_call_answers_again (repliesAgain_shelf packing) .execute
    (by simp) { offloadThresholdBytes := 8 } boxedParcel
    (fun flow r target hFound hLocated => by cases hFound; cases hLocated; exact ⟨nofun, nofun⟩)
    trivial hClear
  exact Prod.ext hAnswer hStays

end Interpreter

end Working

end Stepwise
