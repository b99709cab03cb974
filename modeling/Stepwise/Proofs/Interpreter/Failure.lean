import Stepwise.Proofs.Flow.Validity
import Stepwise.Proofs.Interpreter.Call

/-!
# Calls that fail

What becomes of a call that fails. Wherever it fails, the answer is made from the state as it was
when the step began: with one attempt more if the step is to be run again, and else without the
counters of the step, at its fallback or at the end.
-/

namespace Stepwise.Interpreter

set_option autoImplicit false

open Program

/-- A state as its step sees it: running, with the variables of the flow and its first step filled
in where a new execution lacks them. -/
structure Activated (flow : Flow) (state begun : ExecutionState) : Prop where
  status : begun.status = .running
  current : begun.current =
    if state.status = .initializing then some (state.current.getD flow.start) else state.current
  context : ∀ name, begun.context.get? name =
    (state.context.get? name).or
      (if state.status = .initializing then flow.defaultContext.get? name else none)
  rest : begun = { state with
    status := begun.status, current := begun.current, context := begun.context }

theorem activate_activated (flow : Flow) {state : ExecutionState}
    (hLive : state.isTerminal = false) :
    Activated flow state (activate flow state) := by
  by_cases hs : state.status = .initializing
  · rw [activate_of_initializing flow hs]
    constructor <;> simp [hs, Dict.get?_withDefaults]
  · rw [activate_of_ne flow hs]
    have hRunning : state.status = .running := by
      cases h : state.status <;> simp_all [ExecutionState.isTerminal, Status.isTerminal]
    refine ⟨hRunning, ?_, ?_, rfl⟩ <;> simp [hs]

/-- The failure is worth another attempt after so many of them. -/
def Failure.Retried (s : Settings) (attempts : UInt32) : Failure → Prop
  | .run e => e.isRetryable = true ∧ attempts.toNat + 1 ≤ s.maxRetryAttempts.toNat
  | .refused _ => False

/-- The failure is worth another attempt, but the counter of attempts is full. -/
def Failure.Uncounted (attempts : UInt32) : Failure → Prop
  | .run e => e.isRetryable = true ∧ attempts = 0xffffffff
  | .refused _ => False

def failed (begun : ExecutionState) (id : String) (info : ErrorInfo) : ExecutionState :=
  { begun with
    attempts := (begun.attempts.erase id).erase (Step.pollCounter id), errorInfo := some info }

/-- The answer to a call that failed at a step, told by the state in which the step began. -/
inductive FailsWith (s : Settings) (flow : Flow) (step : Step) (begun : ExecutionState)
    (failure : Failure) : Answered → Prop where
  | again (hRetried : failure.Retried s (begun.attemptsOf step.id)) :
      FailsWith s flow step begun failure (.error ⟨{ begun with
        attempts := begun.attempts.insert step.id (begun.attemptsOf step.id + 1) }, failure.info⟩)
  | fallback {id : String} {target : Step} (hSpent : ¬ failure.Retried s (begun.attemptsOf step.id))
      (hLeads : step.fallback = some id) (hFound : flow.step? id = some target) :
      FailsWith s flow step begun failure (.ok ⟨{ failed begun step.id failure.info with
        status := .running, current := some id }, target.action⟩)
  | ends (hSpent : ¬ failure.Retried s (begun.attemptsOf step.id)) (hLeads : step.fallback = none) :
      FailsWith s flow step begun failure (.ok ⟨{ failed begun step.id failure.info with
        status := .failed, current := none }, .finalize⟩)

section Failing

variable {s : Settings} {flow : Flow} {step : Step} (begun : ExecutionState)

/-- A step of a valid flow that fails for good is left for its fallback, if it has one. -/
theorem failStep_eq (hValid : flow.problems = []) (hStands : flow.step? step.id = some step)
    (info : ErrorInfo) :
    (∃ id target, step.fallback = some id ∧ flow.step? id = some target ∧
        failStep ⟨flow, step, begun⟩ info =
          ⟨{ failed begun step.id info with status := .running, current := some id },
            target.action⟩) ∨
      (step.fallback = none ∧ failStep ⟨flow, step, begun⟩ info =
        ⟨{ failed begun step.id info with status := .failed, current := none }, .finalize⟩) := by
  have hCleared := Dict.erase_comm begun.attempts (Step.pollCounter step.id) step.id
  cases hb : step.fallback with
  | none =>
    refine .inr ⟨rfl, ?_⟩
    have hNowhere : flow.fallbackFrom? step.id = none := by simp [Flow.fallbackFrom?, hStands, hb]
    simp [failStep, ExecutionState.failTerminally, ExecutionState.resetAttemptsOf,
      ExecutionState.resetAttempts, hNowhere, failed, hCleared]
  | some id =>
    have hKnown := Flow.fallback_mem hValid (Dict.mem_of_get? hStands) hb
    obtain ⟨target, hFound⟩ := Option.isSome_iff_exists.mp hKnown
    have hLeads : flow.fallbackFrom? step.id = some (id, target.action) := by
      simp [Flow.fallbackFrom?, hStands, hb, Flow.actionFor,
        show flow.step? id = some target from hFound]
    refine .inl ⟨id, target, rfl, hFound, ?_⟩
    simp [failStep, ExecutionState.failTerminally, ExecutionState.resetAttemptsOf,
      ExecutionState.resetAttempts, hLeads, failed, hCleared]

theorem failStep_countAttempt (info : ErrorInfo) :
    failStep ⟨flow, step, begun.countAttempt step.id⟩ info = failStep ⟨flow, step, begun⟩ info := by
  have hErased (attempts : Dict UInt32) (n : UInt32) :
      ((attempts.insert step.id n).erase (Step.pollCounter step.id)).erase step.id =
        (attempts.erase (Step.pollCounter step.id)).erase step.id := by
    rw [Dict.erase_comm, Dict.erase_insert_self, Dict.erase_comm]
  simp only [failStep, ExecutionState.failTerminally, ExecutionState.resetAttemptsOf,
    ExecutionState.resetAttempts, ExecutionState.countAttempt, hErased]

/-- A failure is handed back just if it is worth a retry within the budget, as the counter has it.
-/
theorem conclude_run_eq (e : StepError) : conclude s ⟨flow, step, begun⟩ (.error (.run e)) =
    if e.isRetryable = true ∧ begun.attemptsOf step.id + 1 ≤ s.maxRetryAttempts then
      .error ⟨begun.countAttempt step.id, e.info⟩
    else .ok (failStep ⟨flow, step, begun⟩ e.info) := by
  simp only [conclude, settle, ExecutionState.attemptsOf_countAttempt, failStep_countAttempt]
  by_cases hr : e.isRetryable = true
  · simp only [hr, if_true, true_and]
  · simp only [hr, Bool.false_eq_true, false_and, if_false]

/-- A failure is handed back with one attempt more, or leads out of the step. -/
theorem conclude_error_cases (failure : Failure) :
    (∃ e, failure = .run e ∧ e.isRetryable = true ∧
        begun.attemptsOf step.id + 1 ≤ s.maxRetryAttempts ∧
        conclude s ⟨flow, step, begun⟩ (.error failure) =
          .error ⟨begun.countAttempt step.id, e.info⟩) ∨
      conclude s ⟨flow, step, begun⟩ (.error failure) =
        .ok (failStep ⟨flow, step, begun⟩ failure.info) := by
  cases failure with
  | refused info => exact .inr rfl
  | run e =>
    rw [conclude_run_eq]
    split
    · rename_i h
      exact .inl ⟨e, rfl, h.1, h.2, rfl⟩
    · exact .inr rfl

/-- Where no attempt is left uncounted, a failed call is answered from the state it began with. -/
theorem failsWith_conclude (hValid : flow.problems = []) (hStands : flow.step? step.id = some step)
    {failure : Failure} (hCount : ¬ failure.Uncounted (begun.attemptsOf step.id)) :
    FailsWith s flow step begun failure (conclude s ⟨flow, step, begun⟩ (.error failure)) := by
  have hForGood (hSpent : ¬ failure.Retried s (begun.attemptsOf step.id)) :
      FailsWith s flow step begun failure (.ok (failStep ⟨flow, step, begun⟩ failure.info)) := by
    rcases failStep_eq begun hValid hStands failure.info with
      ⟨id, target, hLeads, hFound, h⟩ | ⟨hLeads, h⟩
    · rw [h]
      exact .fallback hSpent hLeads hFound
    · rw [h]
      exact .ends hSpent hLeads
  cases failure with
  | refused info => exact hForGood id
  | run e =>
    have hBudget (hr : e.isRetryable = true) : begun.attemptsOf step.id + 1 ≤ s.maxRetryAttempts ↔
        (begun.attemptsOf step.id).toNat + 1 ≤ s.maxRetryAttempts.toNat := by
      have hadd := ExecutionState.toNat_attemptsOf_countAttempt fun hFull => hCount ⟨hr, hFull⟩
      rw [ExecutionState.attemptsOf_countAttempt] at hadd
      rw [UInt32.le_iff_toNat_le, hadd]
    rw [conclude_run_eq]
    split
    · rename_i h
      exact .again ⟨h.1, (hBudget h.1).mp h.2⟩
    · rename_i h
      exact hForGood fun hAgain => h ⟨hAgain.1, (hBudget hAgain.1).mpr hAgain.2⟩

/-- Beyond a full counter, the attempts are counted anew and the failure is handed back. -/
theorem conclude_of_uncounted {failure : Failure}
    (hCount : failure.Uncounted (begun.attemptsOf step.id)) :
    conclude s ⟨flow, step, begun⟩ (.error failure) =
      .error ⟨{ begun with attempts := begun.attempts.insert step.id 0 }, failure.info⟩ := by
  cases failure with
  | refused info => exact hCount.elim
  | run e =>
    obtain ⟨hr, hFull⟩ := hCount
    have hZero : begun.attemptsOf step.id + 1 = 0 := by rw [hFull]; rfl
    rw [conclude_run_eq, if_pos ⟨hr, by rw [hZero]; exact UInt32.zero_le⟩,
      ExecutionState.countAttempt, hZero]
    rfl

end Failing

section Runs

variable {σ : Type} {serve : (r : Request) → σ → Reply r × σ} {st st' : σ}
  {state : ExecutionState} {flow : Flow} {step : Step}

/-- Where the flow and the step are found, a call is its work and the conclusion from it. -/
theorem Call.run_program (c : Call) (s : Settings) (hLive : state.isTerminal = false)
    (hFound : serve (.findFlow state.flowId state.version) st = (.ok (some flow), st'))
    {id : String} (hStands : (activate flow state).current = some id)
    (hKnown : flow.step? id = some step) :
    run serve (c.program s state) st =
      (conclude s ⟨flow, step, activate flow state⟩
          (run serve (c.work s ⟨flow, step, activate flow state⟩) st').1,
        (run serve (c.work s ⟨flow, step, activate flow state⟩) st').2) := by
  have hReady : run serve (prepare state) st = (.ok ⟨flow, step, activate flow state⟩, st') := by
    unfold prepare
    rw [if_neg (by simp [hLive]), run_bind]
    have hAsked : run serve (EngineProgram.findFlow state.flowId state.version).run st =
        (.ok (some flow), st') := hFound
    rw [hAsked]
    simp only [run_pure, locate_of_step hStands hKnown]
  rw [Call.program_eq, withStep, run_bind, hReady]
  exact run_map serve _ _ st'

/-- A call at a step of a valid flow answers the result of its work, or, wherever the work fails,
discards all that it has changed. Only where the counter of the step is full, a failure that is
worth a retry is handed back whatever the budget, with the counter at zero. -/
theorem call_result_or_failsWith (c : Call) (s : Settings) (hLive : state.isTerminal = false)
    (hFound : serve (.findFlow state.flowId state.version) st = (.ok (some flow), st'))
    (hValid : flow.problems = []) {id : String} (hStands : (activate flow state).current = some id)
    (hKnown : flow.step? id = some step) :
    step.id = id ∧ Activated flow state (activate flow state) ∧
      ∀ outcome st'', run serve (c.work s ⟨flow, step, activate flow state⟩) st' = (outcome, st'') →
        ∃ answer, run serve (c.program s state) st = (answer, st'') ∧
          match outcome with
          | .ok result => answer = .ok result
          | .error failure =>
            (¬ failure.Uncounted ((activate flow state).attemptsOf id) →
              FailsWith s flow step (activate flow state) failure answer) ∧
            (failure.Uncounted ((activate flow state).attemptsOf id) →
              answer = .error ⟨{ activate flow state with
                attempts := (activate flow state).attempts.insert id 0 }, failure.info⟩) := by
  have hSame := Flow.id_eq_of_step? hValid hKnown
  refine ⟨hSame, activate_activated flow hLive, ?_⟩
  intro outcome st'' hWorked
  have hr := Call.run_program c s hLive hFound hStands hKnown
  rw [hWorked] at hr
  refine ⟨_, hr, ?_⟩
  cases outcome with
  | ok result => rfl
  | error failure =>
    subst hSame
    exact ⟨failsWith_conclude _ hValid hKnown, conclude_of_uncounted _⟩

end Runs

def newOrder : ExecutionState where
  executionId := "order 1"
  flowId := "orders"
  version := 1

def charging : Step where
  id := "charge"
  kind := .customLogic
  moduleId := some "payments"
  outputMappings := [("paid", .bool true), ("receipt", .str "no. 4711")]
  defaultNext := some "delivery"
  onError := some ⟨some "refund"⟩

/-- The receipt cannot be stored after the payment was written, so the order is charged again. -/
theorem unstored_receipt_failsWith :
    newOrder.isTerminal = false ∧ Flow.orders.problems = [] ∧
      Flow.orders.step? "charge" = some charging ∧
      ∃ answer,
        run (calm Flow.orders) (Call.execute.program { offloadThresholdBytes := 8 } newOrder) () =
          (answer, ()) ∧
        FailsWith { offloadThresholdBytes := 8 } Flow.orders charging
          (activate Flow.orders newOrder)
          (.run (.ofEngine (.objectStore "nothing can be stored"))) answer := by
  have hFound : calm Flow.orders (.findFlow newOrder.flowId newOrder.version) () =
      (.ok (some Flow.orders), ()) := rfl
  have hKnown : Flow.orders.step? "charge" = some charging := rfl
  obtain ⟨-, -, h⟩ := call_result_or_failsWith .execute { offloadThresholdBytes := 8 } rfl hFound
    Flow.orders_valid rfl hKnown
  obtain ⟨answer, hRan, hFails, -⟩ :=
    h (.error (.run (.ofEngine (.objectStore "nothing can be stored")))) () rfl
  refine ⟨rfl, Flow.orders_valid, rfl, answer, hRan, hFails ?_⟩
  rintro ⟨-, hFull⟩
  cases hFull

def tiredOrder : ExecutionState where
  executionId := "order 1"
  flowId := "orders"
  version := 1
  current := some "charge"
  status := .running
  attempts := [("charge", 0xffffffff)]

def chargedAgain : RetryableFailure where
  state := { tiredOrder with attempts := [("charge", 0)] }
  error := (StepError.ofEngine (.objectStore "nothing can be stored")).info

/-- Three attempts are the budget, but after as many as can be counted the order is charged again.
-/
theorem tiredOrder_charged_again :
    tiredOrder.isTerminal = false ∧ Flow.orders.problems = [] ∧
      Flow.orders.step? "charge" = some charging ∧
      run (calm Flow.orders) (Call.execute.program { offloadThresholdBytes := 8 } tiredOrder) () =
        (.error chargedAgain, ()) ∧
      ∀ failure, ¬ FailsWith { offloadThresholdBytes := 8 } Flow.orders charging
        (activate Flow.orders tiredOrder) failure (.error chargedAgain) := by
  refine ⟨rfl, Flow.orders_valid, rfl, rfl, ?_⟩
  intro failure h
  generalize hSame : Except.error chargedAgain = answer at h
  cases h with
  | again hr =>
    cases failure with
    | run e => exact absurd hr.2 (by decide)
    | refused info => exact hr.elim
  | fallback _ _ _ => cases hSame
  | ends _ _ => cases hSame

end Stepwise.Interpreter
