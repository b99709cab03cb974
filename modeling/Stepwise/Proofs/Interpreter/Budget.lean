import Stepwise.Proofs.Interpreter.Visit

/-!
# The budget of a visit

The budget of a visit to a step. The counters that an execution carries belong to the step at which
it stands and stay below their limits; whoever leaves the step takes none along. Every run of the
step that does not leave it raises one of the counters, so their limits bound the runs.
-/

namespace Stepwise

set_option autoImplicit false

open Interpreter Program

namespace Flow

/-- The counters of an execution are those of its step, within their limits. -/
def WithinBudget (f : Flow) (s : Settings) (state : ExecutionState) : Prop :=
  match state.current with
  | none => state.attempts = []
  | some id => ∀ e ∈ state.attempts,
      (e.1 = id ∧ e.2 ≤ s.maxRetryAttempts) ∨
        ∃ step config, f.step? id = some step ∧ step.kind = .poll config ∧
          e.1 = Step.pollCounter id ∧ e.2 < config.maxAttempts

section Counters

variable {f : Flow} {s : Settings} {state : ExecutionState}

theorem withinBudget_of_empty (h : state.attempts = []) : f.WithinBudget s state := by
  unfold WithinBudget
  split
  · exact h
  · intro e hMember
    rw [h] at hMember
    cases hMember

theorem erase_erase_eq_nil {attempts : Dict UInt32} {a b : String}
    (h : ∀ e ∈ attempts, e.1 = a ∨ e.1 = b) : (attempts.erase a).erase b = [] := by
  simp only [Dict.erase, List.filter_filter, List.filter_eq_nil_iff]
  intro e hMember
  rcases h e hMember with hSame | hSame <;> simp [hSame]

section Standing

variable {id : String} {step : Step} (hStands : state.current = some id)
  (hFound : f.step? id = some step) (hBudget : f.WithinBudget s state)
include hStands hBudget

theorem entry_within {e : String × UInt32} (hMember : e ∈ state.attempts) :
    (e.1 = id ∧ e.2 ≤ s.maxRetryAttempts) ∨
      ∃ step config, f.step? id = some step ∧ step.kind = .poll config ∧
        e.1 = Step.pollCounter id ∧ e.2 < config.maxAttempts := by
  simp only [WithinBudget, hStands] at hBudget
  exact hBudget e hMember

theorem attemptsOf_le : state.attemptsOf id ≤ s.maxRetryAttempts := by
  unfold ExecutionState.attemptsOf
  cases hCounted : state.attempts.get? id with
  | none => exact UInt32.zero_le
  | some k =>
    rcases entry_within hStands hBudget (Dict.mem_of_get? hCounted) with ⟨-, hLe⟩ |
      ⟨_, _, -, -, hSame, -⟩
    · exact hLe
    · exact absurd hSame.symm (Step.pollCounter_ne id)

include hFound

theorem pollAttemptsOf_lt :
    (state.attemptsOf (Step.pollCounter id)).toNat < max 1 step.pollLimit := by
  unfold ExecutionState.attemptsOf
  cases hCounted : state.attempts.get? (Step.pollCounter id) with
  | none => exact Nat.lt_of_lt_of_le Nat.zero_lt_one (Nat.le_max_left 1 _)
  | some k =>
    rcases entry_within hStands hBudget (Dict.mem_of_get? hCounted) with
      ⟨hSame, -⟩ | ⟨_, config, hKnown, hKind, -, hBelow⟩
    · exact absurd hSame (Step.pollCounter_ne id)
    · cases hFound.symm.trans hKnown
      have hLimit : step.pollLimit = config.maxAttempts.toNat := by simp [Step.pollLimit, hKind]
      have hBelow : k.toNat < config.maxAttempts.toNat := UInt32.lt_iff_toNat_lt.mp hBelow
      exact Nat.lt_of_lt_of_le (hLimit ▸ hBelow) (Nat.le_max_right 1 _)

end Standing

end Counters

end Flow

namespace ExecutionState

/-- The attempts counted at a step, of runs that failed and of polls. -/
def tally (state : ExecutionState) (id : String) : Nat :=
  (state.attemptsOf id).toNat + (state.attemptsOf (Step.pollCounter id)).toNat

/-- A failed run that is counted raises the tally by one, unless its counter is full. -/
theorem tally_countAttempt {state : ExecutionState} {id : String}
    (h : state.attemptsOf id ≠ 0xffffffff) :
    (state.countAttempt id).tally id = state.tally id + 1 := by
  have hCount := toNat_attemptsOf_countAttempt h
  have hOther := state.attemptsOf_countAttempt_of_ne (Step.pollCounter_ne id)
  unfold tally
  rw [hCount, hOther]
  omega

theorem tally_countAttempt_pollCounter {state : ExecutionState} {id : String}
    (h : state.attemptsOf (Step.pollCounter id) ≠ 0xffffffff) :
    (state.countAttempt (Step.pollCounter id)).tally id = state.tally id + 1 := by
  have hCount := toNat_attemptsOf_countAttempt h
  have hOther := state.attemptsOf_countAttempt_of_ne (Step.pollCounter_ne id).symm
  unfold tally
  rw [hCount, hOther]
  omega

end ExecutionState

theorem ne_full_of_lt {n limit : UInt32} (h : n < limit) : n ≠ 0xffffffff := by
  rintro rfl
  have hlt := UInt32.lt_iff_toNat_lt.mp h
  have hBound := limit.toNat_lt
  have hFull : (0xffffffff : UInt32).toNat = 4294967295 := rfl
  omega

theorem ne_full_of_le {n limit : UInt32} (h : n ≤ limit) (hLimit : limit ≠ 0xffffffff) :
    n ≠ 0xffffffff := by
  rintro rfl
  have hle := UInt32.le_iff_toNat_le.mp h
  have hBound := limit.toNat_lt
  have hFull : (0xffffffff : UInt32).toNat = 4294967295 := rfl
  exact hLimit (UInt32.toNat_inj.mp (by omega))

namespace Flow

/-- The counters are within their limits and have counted every run of the current step, where the
budget is one that can be exceeded. -/
structure Tallied (f : Flow) (s : Settings) (n : Nat) (state : ExecutionState) : Prop where
  budget : f.WithinBudget s state
  counted : s.maxRetryAttempts ≠ 0xffffffff → ∀ id step, state.current = some id →
    f.step? id = some step → step.callsHandler = true → n ≤ state.tally id

section Work

variable {f : Flow} {s : Settings} {c : Call} {step : Step} {begun : ExecutionState} {n : Nat}
  (hValid : f.problems = []) (hStands : begun.current = some step.id)
  (hFound : f.step? step.id = some step) (hBudget : f.WithinBudget s begun)
include hStands hFound hBudget

theorem tallied_of_retry (hle : begun.attemptsOf step.id + 1 ≤ s.maxRetryAttempts)
    (hCounted : s.maxRetryAttempts ≠ 0xffffffff → step.callsHandler = true →
      n ≤ begun.tally step.id) :
    f.Tallied s (n + 1) (begun.countAttempt step.id) := by
  have hStandsStill : (begun.countAttempt step.id).current = some step.id := hStands
  constructor
  · simp only [WithinBudget, hStandsStill]
    intro e hMember
    rcases Dict.mem_insert hMember with rfl | hOld
    · exact .inl ⟨rfl, hle⟩
    · exact entry_within hStands hBudget hOld
  · intro hLimit id target hCurrent hKnown hCalls
    cases hStands.symm.trans hCurrent
    cases hFound.symm.trans hKnown
    have hFull := ne_full_of_le (attemptsOf_le hStands hBudget) hLimit
    have hBefore := hCounted hLimit hCalls
    rw [ExecutionState.tally_countAttempt hFull]
    omega

theorem tallied_of_poll {config : Polling} (hKind : step.kind = .poll config)
    (hLeft : (begun.countAttempt (Step.pollCounter step.id)).attemptsOf (Step.pollCounter step.id)
      < config.maxAttempts)
    (hCounted : s.maxRetryAttempts ≠ 0xffffffff → step.callsHandler = true →
      n ≤ begun.tally step.id) :
    f.Tallied s (n + 1) (begun.countAttempt (Step.pollCounter step.id)) := by
  have hStandsStill : (begun.countAttempt (Step.pollCounter step.id)).current = some step.id :=
    hStands
  constructor
  · simp only [WithinBudget, hStandsStill]
    intro e hMember
    rcases Dict.mem_insert hMember with rfl | hOld
    · rw [ExecutionState.attemptsOf_countAttempt] at hLeft
      exact .inr ⟨step, config, hFound, hKind, rfl, hLeft⟩
    · exact entry_within hStands hBudget hOld
  · intro hLimit id target hCurrent hKnown hCalls
    cases hStands.symm.trans hCurrent
    cases hFound.symm.trans hKnown
    have hLimited : step.pollLimit = config.maxAttempts.toNat := by simp [Step.pollLimit, hKind]
    have hPolled := pollAttemptsOf_lt hStands hFound hBudget
    have hLeft' := UInt32.lt_iff_toNat_lt.mp hLeft
    have hRoom : begun.attemptsOf (Step.pollCounter step.id) < config.maxAttempts := by
      rw [UInt32.lt_iff_toNat_lt]
      omega
    have hBefore := hCounted hLimit hCalls
    rw [ExecutionState.tally_countAttempt_pollCounter (ne_full_of_lt hRoom)]
    omega

/-- Who stays at a step keeps within its limits, and every run is counted. -/
theorem tallied_of_stays {outcome : Except Failure StepResult}
    (hWorks : ReachesUnder (Finds f) (c.work s ⟨f, step, begun⟩) outcome)
    (hStays : Stays s ⟨f, step, begun⟩ c outcome)
    (hCounted : s.maxRetryAttempts ≠ 0xffffffff → step.callsHandler = true →
      n ≤ begun.tally step.id) :
    f.Tallied s (n + c.executes) (stateOf (conclude s ⟨f, step, begun⟩ outcome)) := by
  have hUnchanged (hOther : step.callsHandler = false) (m : Nat) : f.Tallied s m begun := by
    refine ⟨hBudget, ?_⟩
    intro _ id target hCurrent hKnown hCalls
    cases hStands.symm.trans hCurrent
    cases hFound.symm.trans hKnown
    rw [hOther] at hCalls
    cases hCalls
  have hBounded : c.executes ≤ 1 := by cases c <;> simp [Call.executes]
  have hFewer (state : ExecutionState) (h : f.Tallied s (n + 1) state) :
      f.Tallied s (n + c.executes) state := by
    refine ⟨h.budget, fun hLimit id target hCurrent hKnown hCalls => ?_⟩
    exact Nat.le_trans (Nat.add_le_add_left hBounded n)
      (h.counted hLimit id target hCurrent hKnown hCalls)
  cases hStays with
  | retried hAgain =>
    rename_i failure
    rcases conclude_error_cases begun failure with ⟨e, rfl, -, hle, h⟩ | h
    · rw [h]
      exact hFewer _ (tallied_of_retry hStands hFound hBudget hle hCounted)
    · obtain ⟨retry, hRetry⟩ := hAgain
      cases h.symm.trans hRetry
  | waits hKind => exact hUnchanged (by simp [Step.callsHandler, show step.kind = _ from hKind]) _
  | suspended hKind =>
    exact hUnchanged (by simp [Step.callsHandler, show step.kind = _ from hKind]) _
  | forks hKind => exact hUnchanged (by simp [Step.callsHandler, show step.kind = _ from hKind]) _
  | polls hKind =>
    rcases work_stays_or_clears hWorks with ⟨-, hLeft⟩ | hCleared
    · exact hFewer _ (tallied_of_poll hStands hFound hBudget hKind (hLeft _ hKind) hCounted)
    · exact absurd hCleared (not_cleared_of_counted hKind)

include hValid

/-- Who leaves a step takes no counter along. -/
theorem attempts_of_not_stays {outcome : Except Failure StepResult}
    (hWorks : ReachesUnder (Finds f) (c.work s ⟨f, step, begun⟩) outcome)
    (hLeft : ¬ Stays s ⟨f, step, begun⟩ c outcome) :
    (stateOf (conclude s ⟨f, step, begun⟩ outcome)).attempts = [] := by
  have hNames : ∀ e ∈ begun.attempts, e.1 = step.id ∨ e.1 = Step.pollCounter step.id := by
    intro e hMember
    rcases entry_within hStands hBudget hMember with ⟨hSame, -⟩ | ⟨_, _, -, -, hSame, -⟩
    · exact .inl hSame
    · exact .inr hSame
  have hErased := erase_erase_eq_nil hNames
  cases outcome with
  | error failure =>
    rcases conclude_error_cases begun failure with ⟨e, rfl, -, -, h⟩ | h
    · exact absurd (.retried ⟨_, h⟩) hLeft
    · rw [h]
      rcases failStep_eq begun hValid hFound failure.info with ⟨id, target, -, -, hFail⟩ |
        ⟨-, hFail⟩
      · rw [hFail]
        exact hErased
      · rw [hFail]
        exact hErased
  | ok result =>
    rcases work_stays_or_clears hWorks with ⟨hStays, -⟩ | ⟨hKind, hCleared⟩ | hCleared
    · exact absurd hStays hLeft
    · rw [show (stateOf (conclude s ⟨f, step, begun⟩ (.ok result))).attempts = _ from hCleared]
      simp only [Dict.erase, List.filter_eq_nil_iff]
      intro e hMember
      rcases entry_within hStands hBudget hMember with ⟨hSame, -⟩ |
        ⟨_, config, hKnown, hPolling, -, -⟩
      · simp [hSame]
      · cases hFound.symm.trans hKnown
        exact absurd hPolling (hKind config)
    · rw [show (stateOf (conclude s ⟨f, step, begun⟩ (.ok result))).attempts = _ from hCleared,
        Dict.erase_comm]
      exact hErased

end Work

section Visit

variable {f : Flow} {s : Settings} {c : Call} {state : ExecutionState} {n m : Nat}

theorem tallied_of_empty (h : state.attempts = []) : f.Tallied s 0 state :=
  ⟨withinBudget_of_empty h, fun _ _ _ _ _ _ => Nat.zero_le _⟩

theorem Tallied.congr {other : ExecutionState} (h : f.Tallied s n state)
    (hCurrent : other.current = state.current) (hAttempts : other.attempts = state.attempts) :
    f.Tallied s n other := by
  constructor
  · have hBudget := h.budget
    unfold WithinBudget at hBudget ⊢
    rw [hCurrent, hAttempts]
    exact hBudget
  · intro hLimit id step hStands hFound hCalls
    have hCounted := h.counted hLimit id step (hCurrent ▸ hStands) hFound hCalls
    unfold ExecutionState.tally ExecutionState.attemptsOf at hCounted ⊢
    rw [hAttempts]
    exact hCounted

theorem onVisit_tallied (hValid : f.problems = []) (h : f.OnVisit s n state) :
    f.Tallied s n state := by
  induction h with
  | start hId hVersion h =>
    refine tallied_of_empty ?_
    simp only [Interpreter.start, reachesUnder_bind_ok, EngineProgram.reachesUnder_findFlow] at h
    obtain ⟨found, hReply, h⟩ := h
    rcases hReply hId hVersion with hGiven | ⟨e, -, hFailed⟩
    · cases hGiven
      dsimp only at h
      split at h <;> simp only [reachesUnder_bind_ok, reachesUnder_pure_ok] at h
      · obtain ⟨_, -, rfl⟩ := h
        rfl
      · obtain ⟨_, -, rfl⟩ := h
        rfl
    · cases hFailed
  | branch hOwns hMem hKind hBranch hTarget hPayload =>
    refine tallied_of_empty ?_
    simp only [BranchPayload.initialState, hPayload, hTarget]
  | call c hBefore hTurn ih =>
    cases hTurn with
    | stopped hReady =>
      rw [stateOf_of_stopped hValid hBefore hReady]
      exact ih
    | stays hReady hWorks hStays =>
      obtain ⟨step, rfl, hStands, hFound, hCurrent, hAttempts⟩ :=
        ready_of_onVisit hValid hBefore hReady
      have hBegun := ih.congr (hCurrent.trans hStands.symm) hAttempts
      exact tallied_of_stays hCurrent hFound hBegun.budget hWorks hStays
        (fun hLimit => hBegun.counted hLimit _ _ hCurrent hFound)
    | leaves hReady hWorks hLeft =>
      obtain ⟨step, rfl, hStands, hFound, hCurrent, hAttempts⟩ :=
        ready_of_onVisit hValid hBefore hReady
      have hBegun := ih.congr (hCurrent.trans hStands.symm) hAttempts
      exact tallied_of_empty
        (attempts_of_not_stays hValid hCurrent hFound hBegun.budget hWorks hLeft)

/-- The counters of an execution are those of its step and within their limits. A call that is
stopped before the step leaves the execution as it is, one that leaves the step empties the
counters, and a step that calls its handler is run at most as often as it can fail and be polled, if
its budget is less than can be counted. -/
theorem onVisit_within_budget (hValid : f.problems = []) (h : f.OnVisit s n state) :
    f.WithinBudget s state ∧
      (∀ c answer, ReachesUnder (Finds f) (c.program s state) answer →
        ∃ m, Turn f s c state n answer m) ∧
      (∀ answer, ReachesUnder (Finds f) (prepare state) (.error answer) →
        stateOf answer = state) ∧
      ∀ c r outcome, ReachesUnder (Finds f) (prepare state) (.ok r) →
        ReachesUnder (Finds f) (c.work s r) outcome →
        f.stepOf? state = some r.step ∧
          (¬ Stays s r c outcome → (stateOf (conclude s r outcome)).attempts = []) ∧
          (s.maxRetryAttempts ≠ 0xffffffff → c = .execute → r.step.callsHandler = true →
            n + 1 ≤ s.maxRetryAttempts.toNat + max 1 r.step.pollLimit) := by
  have hTallied := onVisit_tallied hValid h
  refine ⟨hTallied.budget, fun c answer hReached => turn_iff.mpr hReached,
    fun answer hReady => stateOf_of_stopped hValid h hReady, ?_⟩
  intro c r outcome hReady hWorks
  obtain ⟨step, rfl, hStands, hFound, hCurrent, hAttempts⟩ := ready_of_onVisit hValid h hReady
  have hBegun := hTallied.congr (hCurrent.trans hStands.symm) hAttempts
  refine ⟨Option.bind_eq_some_iff.mpr ⟨_, hStands, hFound⟩, ?_, ?_⟩
  · exact attempts_of_not_stays hValid hCurrent hFound hBegun.budget hWorks
  · intro hLimit _ hCalls
    have hCounted := hTallied.counted hLimit _ _ hStands hFound hCalls
    have hRetries := UInt32.le_iff_toNat_le.mp (attemptsOf_le hStands hTallied.budget)
    have hPolls := pollAttemptsOf_lt hStands hFound hTallied.budget
    unfold ExecutionState.tally at hCounted
    show n + 1 ≤ s.maxRetryAttempts.toNat + max 1 step.pollLimit
    omega

end Visit

def unstored : ExecutionState where
  executionId := "order 1"
  flowId := "orders"
  version := 1
  current := some "charge"
  status := .running
  context := [("currency", .str "EUR")]
  attempts := [("charge", 1)]

theorem unstored_onVisit : orders.OnVisit { offloadThresholdBytes := 8 } 1 unstored := by
  let s : Settings := { offloadThresholdBytes := 8 }
  let m : StartMessage := { flowId := "orders", version := 1, executionId := some "order 1" }
  let r : Ready := ⟨orders, charging, activate orders ordered⟩
  let failure : Failure := .run (.ofEngine (.objectStore "nothing can be stored"))
  have hBegins : ReachesUnder (Finds orders) (Interpreter.start m).run (.ok ⟨ordered, .proceed⟩) :=
    reachesUnder_run (calm_finds orders) (Interpreter.start m).run ()
  have hReady : ReachesUnder (Finds orders) (prepare ordered) (.ok r) :=
    reachesUnder_run (calm_finds orders) (prepare ordered) ()
  have hWorks : ReachesUnder (Finds orders) (Call.execute.work s r) (.error failure) :=
    reachesUnder_run (calm_finds orders) (Call.execute.work s r) ()
  exact .call .execute (.start rfl rfl hBegins) (.stays hReady hWorks (.retried ⟨_, rfl⟩))

/-- The second run of the charge is one of at most four. -/
theorem unstored_within_budget :
    orders.problems = [] ∧ orders.OnVisit { offloadThresholdBytes := 8 } 1 unstored ∧
      orders.WithinBudget { offloadThresholdBytes := 8 } unstored ∧
      charging.callsHandler = true ∧ 1 + 1 ≤ (3 : UInt32).toNat + max 1 charging.pollLimit := by
  let s : Settings := { offloadThresholdBytes := 8 }
  let r : Ready := ⟨orders, charging, unstored⟩
  have hReady : ReachesUnder (Finds orders) (prepare unstored) (.ok r) :=
    reachesUnder_run (calm_finds orders) (prepare unstored) ()
  have hWorks := reachesUnder_run (calm_finds orders) (Call.execute.work s r) ()
  obtain ⟨hWithin, -, -, hWorked⟩ := onVisit_within_budget orders_valid unstored_onVisit
  obtain ⟨-, -, hBounded⟩ := hWorked .execute r _ hReady hWorks
  exact ⟨orders_valid, unstored_onVisit, hWithin, by decide, hBounded (by decide) rfl (by decide)⟩

def tireless : Settings where
  offloadThresholdBytes := 8
  maxRetryAttempts := 0xffffffff

def unstoredAfter (attempts : UInt32) : ExecutionState :=
  { unstored with attempts := [("charge", attempts)] }

theorem turn_unstoredAfter (attempts : UInt32) (n : Nat) : ∃ info, Turn orders tireless .execute
    (unstoredAfter attempts) n (.error ⟨unstoredAfter (attempts + 1), info⟩) (n + 1) := by
  let r : Ready := ⟨orders, charging, unstoredAfter attempts⟩
  let e : StepError := .ofEngine (.objectStore "nothing can be stored")
  have hReady : ReachesUnder (Finds orders) (prepare (unstoredAfter attempts)) (.ok r) :=
    reachesUnder_run (calm_finds orders) (prepare (unstoredAfter attempts)) ()
  have hWorks : ReachesUnder (Finds orders) (Call.execute.work tireless r) (.error (.run e)) :=
    reachesUnder_run (calm_finds orders) (Call.execute.work tireless r) ()
  have hWithin : attempts + 1 ≤ tireless.maxRetryAttempts :=
    UInt32.le_iff_toNat_le.mpr (Nat.le_of_lt_succ (attempts + 1).toNat_lt)
  have hAgain : conclude tireless r (.error (.run e)) =
      .error ⟨unstoredAfter (attempts + 1), e.info⟩ := by
    rw [conclude_run_eq]
    exact if_pos ⟨rfl, hWithin⟩
  refine ⟨e.info, ?_⟩
  rw [← hAgain]
  exact .stays hReady hWorks (.retried ⟨_, hAgain⟩)

/-- Where any number of retries is within the budget, the order is charged any number of times. -/
theorem unstoredAfter_onVisit (n : Nat) :
    orders.OnVisit tireless (n + 1) (unstoredAfter (UInt32.ofNat (n + 1))) := by
  induction n with
  | zero =>
    let m : StartMessage := { flowId := "orders", version := 1, executionId := some "order 1" }
    let r : Ready := ⟨orders, charging, activate orders ordered⟩
    have hBegins :
        ReachesUnder (Finds orders) (Interpreter.start m).run (.ok ⟨ordered, .proceed⟩) :=
      reachesUnder_run (calm_finds orders) (Interpreter.start m).run ()
    have hReady : ReachesUnder (Finds orders) (prepare ordered) (.ok r) :=
      reachesUnder_run (calm_finds orders) (prepare ordered) ()
    have hWorks := reachesUnder_run (calm_finds orders) (Call.execute.work tireless r) ()
    exact .call .execute (.start rfl rfl hBegins) (.stays hReady hWorks (.retried ⟨_, rfl⟩))
  | succ n ih =>
    obtain ⟨info, hTurn⟩ := turn_unstoredAfter (UInt32.ofNat (n + 1)) (n + 1)
    have hCall := OnVisit.call .execute ih hTurn
    rw [UInt32.ofNat_add (n + 1) 1]
    exact hCall

/-- A full counter begins again at zero, so the budget is never used up. -/
theorem charge_never_left : orders.problems = [] ∧ charging.callsHandler = true ∧
    ∃ n state, orders.OnVisit tireless n state ∧ orders.stepOf? state = some charging ∧
      tireless.maxRetryAttempts.toNat + max 1 charging.pollLimit < n := by
  refine ⟨orders_valid, by decide, 4294967296 + 1, _, unstoredAfter_onVisit 4294967296, rfl, ?_⟩
  decide

end Flow

end Stepwise
