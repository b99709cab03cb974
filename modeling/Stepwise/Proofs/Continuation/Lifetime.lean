import Mathlib.Data.List.Induction
import Stepwise.Proofs.Continuation.CorrelationKey
import Stepwise.Proofs.Continuation.Resuming

/-!
# How long a record can be taken

A call whose signal failed puts the record back for the time that it has left, but for one second at
least, so every such call can add less than a second to the record's life.
-/

namespace Stepwise

set_option autoImplicit false

open Program

namespace Instant

/-- What a clock shows. It counts no leap seconds. -/
structure OnClock (t : Instant) : Prop where
  inRange : t.inRange = true
  nano : t.nano < nanosPerSecond

/-- The last second is the only bound. A span that is too long to be added goes beyond it from any
instant. -/
theorem OnClock.addSeconds?_eq_none_iff {t : Instant} {seconds : Nat} (hStart : t.OnClock) :
    t.addSeconds? seconds = none ↔ lastSecond < t.second + seconds := by
  have hFirst : firstSecond = -8334601228800 := by decide
  have hLast : lastSecond = 8210266876799 := by decide
  have hSpan : longestSpan = 9223372036854775 := by decide
  have hWithin := hStart.inRange
  simp only [Instant.inRange, Bool.and_eq_true, decide_eq_true_eq] at hWithin
  unfold addSeconds?
  split
  · simp only [true_iff]
    omega
  · simp only [ite_eq_right_iff, reduceCtorEq, imp_false, Instant.inRange, Bool.and_eq_true,
      decide_eq_true_eq]
    omega

/-- The end of a span that cannot be represented is later than all that a clock shows. -/
theorem OnClock.lt_of_addSeconds? {t now : Instant} {seconds : Nat} (hStart : t.OnClock)
    (hBeyond : t.addSeconds? seconds = none) (hClock : now.OnClock) :
    now.toNanos < t.toNanos + seconds * nanosPerSecond := by
  have hOutside := hStart.addSeconds?_eq_none_iff.mp hBeyond
  have hShort := hClock.nano
  have hWithin := hClock.inRange
  simp only [Instant.inRange, Bool.and_eq_true, decide_eq_true_eq] at hWithin
  simp only [toNanos, nanosPerSecond] at hShort ⊢
  omega

end Instant

theorem Host.get?_of_serve_save {start h : Host} {key : String} {record : ContinuationRecord}
    {ttlSeconds : UInt64}
    (hSaved : Host.serve (.saveContinuation key record ttlSeconds) start = (.ok (), h)) :
    h.continuations.entries.get? key =
      some ⟨record, start.clock.toNanos + ttlSeconds.toNat * Instant.nanosPerSecond⟩ := by
  unfold Host.serve at hSaved
  dsimp only at hSaved
  split at hSaved
  · cases hSaved
  · unfold Host.saveContinuation at hSaved
    split at hSaved
    · next hStored =>
      cases hSaved
      obtain ⟨expiry, hEnds, hFound⟩ := ContinuationMap.get?_save_self hStored
      obtain ⟨-, rfl⟩ := ContinuationMap.expiry?_eq_some_iff.mp hEnds
      exact hFound
    · cases hSaved

namespace Wait

variable {w : Wait} {s : Settings} {state : ExecutionState} {stepId resumeToken : String}
  {start h : Host} {record : ContinuationRecord}

/-- A record that suspending has saved is where it belongs, until its time is over. -/
theorem get?_of_suspended
    (hSuspended : start.run (w.suspend s state stepId resumeToken).run = (.ok record, h)) :
    record.createdAt = start.clock ∧
      h.continuations.entries.get? record.correlationKey = some ⟨record,
        start.clock.toNanos + record.ttlSeconds.toNat * Instant.nanosPerSecond⟩ := by
  unfold Host.run suspend at hSuspended
  split at hSuspended
  · cases hSuspended
  · have hSame : (run Host.serve (w.correlationKey s state.scope).run start).2 = start :=
      run_snd_of_correlationKey fun _ _ => rfl
    cases hAnswer : (run Host.serve (w.correlationKey s state.scope).run start).1 with
    | error e =>
      have hFailed := hSuspended.symm.trans (run_bind_error Host.serve (Prod.ext hAnswer hSame))
      cases hFailed
    | ok key =>
      have hClock : run Host.serve (liftM (Program.request .now) : StepProgram Instant).run start =
          (.ok start.clock, start) := rfl
      have hWent := hSuspended.symm.trans (run_bind_ok Host.serve (Prod.ext hAnswer hSame))
      rw [run_bind_ok Host.serve hClock] at hWent
      dsimp only at hWent
      generalize w.maxWaitTimeSeconds.getD s.defaultContinuationTtlSeconds = ttlSeconds at hWent
      generalize hMade : ContinuationRecord.mk key resumeToken state.executionId stepId start.clock
        ttlSeconds = r at hWent
      have hSave :
          run Host.serve (EngineProgram.saveContinuation key r ttlSeconds).asStep.run start =
          ((Host.serve (.saveContinuation key r ttlSeconds) start).1.mapError StepError.ofEngine,
            (Host.serve (.saveContinuation key r ttlSeconds) start).2) :=
        run_map Host.serve (Program.request (.saveContinuation key r ttlSeconds)) _ start
      cases hSaved : Host.serve (.saveContinuation key r ttlSeconds) start with
      | mk outcome later =>
        rw [hSaved] at hSave
        cases outcome with
        | error e =>
          rw [run_bind_error Host.serve hSave] at hWent
          cases hWent
        | ok u =>
          rw [run_bind_ok Host.serve hSave] at hWent
          cases hWent
          subst hMade
          exact ⟨rfl, Host.get?_of_serve_save hSaved⟩

end Wait

namespace Resume

namespace Attempt

/-- The call is served at one time. -/
structure AtOnce (a : Attempt) : Prop where
  read : a.readAt = a.takenAt
  restored : a.restoredAt = a.takenAt

/-- The store gives the record to the call. -/
structure Takes (a : Attempt) (h : Host) (record : ContinuationRecord) : Prop where
  reads : a.Reads
  found : a.found? h = some record

def runAll (calls : List Attempt) (h : Host) : Host := calls.foldl (fun h a => (a.run h).2) h

def signalFailed : Except ResumeError ContinuationRecord → Bool
  | .error (.signalFailed _) => true
  | _ => false

/-- The calls whose signal failed. -/
def failures : List Attempt → Host → List Attempt
  | [], _ => []
  | a :: rest, h => (if signalFailed (a.run h).1 then [a] else []) ++ failures rest (a.run h).2

theorem runAll_concat (calls : List Attempt) (a : Attempt) (h : Host) :
    runAll (calls ++ [a]) h = (a.run (runAll calls h)).2 := by
  rw [runAll, List.foldl_append]
  rfl

theorem failures_concat (calls : List Attempt) (a : Attempt) (h : Host) :
    failures (calls ++ [a]) h =
      failures calls h ++ if signalFailed (a.run (runAll calls h)).1 then [a] else [] := by
  induction calls generalizing h with
  | nil =>
    show _ ++ [] = [] ++ _
    rw [List.append_nil, List.nil_append]
    rfl
  | cons b rest ih =>
    rw [List.cons_append, failures, failures, ih, List.append_assoc]
    rfl

/-- The end that suspending gives to the record's life. -/
def planned (record : ContinuationRecord) : Int :=
  record.createdAt.toNanos + record.ttlSeconds.toNat * Instant.nanosPerSecond

/-- What is saved is the record, and its end is the planned one, or late by less than a second for
each failure and by a second after one of them at most. -/
structure Late (record : ContinuationRecord) (failed : List Attempt) (e : SavedContinuation) :
    Prop where
  same : e.record = record
  counted : record.expiresAt ≠ none →
    e.expiresAt ≤ planned record + failed.length * Instant.nanosPerSecond
  recent : record.expiresAt ≠ none → e.expiresAt ≤ planned record ∨
    ∃ b ∈ failed, e.expiresAt ≤ b.takenAt.toNanos + Instant.nanosPerSecond

section Lateness

variable {a : Attempt} {h : Host} {record : ContinuationRecord} {failed : List Attempt}
  {e : SavedContinuation}

/-- A record that is put back is late by a second after that at most. -/
theorem Late.putBack {m m' : ContinuationMap} (hLate : Late record failed e) (hOnce : a.AtOnce)
    (hAlive : a.takenAt.toNanos < e.expiresAt) (hSaved : a.putBack m e.record = .ok m')
    {e' : SavedContinuation} (hFound : m'.entries.get? a.key = some e') :
    Late record (failed ++ [a]) e' := by
  rw [get?_of_putBack hSaved, hOnce.restored, hOnce.read] at hFound
  cases hFound
  rw [hLate.same]
  have hSoon (hLimited : record.expiresAt ≠ none) : a.takenAt.toNanos +
      (remainingSeconds record a.takenAt).toNat * Instant.nanosPerSecond ≤
        max (a.takenAt.toNanos + Instant.nanosPerSecond) (planned record) := by
    obtain ⟨expiry, hEnds⟩ := Option.ne_none_iff_exists'.mp hLimited
    have hShort := @now_add_remainingSeconds_le record a.takenAt expiry hEnds
    have hSpan := (Instant.of_addSeconds? hEnds).2.2
    unfold planned
    omega
  refine ⟨rfl, ?_, ?_⟩
  · intro hLimited
    have hBefore := hLate.counted hLimited
    have hAfter := hSoon hLimited
    rw [List.length_append, List.length_singleton]
    dsimp only [Instant.nanosPerSecond] at hBefore hAfter ⊢
    omega
  · intro hLimited
    rcases Int.le_total (a.takenAt.toNanos + Instant.nanosPerSecond)
      (planned record) with hEarly | hClose
    · exact .inl (Int.le_trans (hSoon hLimited) (Int.max_le.mpr ⟨hEarly, Int.le_refl _⟩))
    · exact .inr ⟨a, by simp,
        Int.le_trans (hSoon hLimited) (Int.max_le.mpr ⟨Int.le_refl _, hClose⟩)⟩

theorem Late.append (hLate : Late record failed e) (more : List Attempt) :
    Late record (failed ++ more) e where
  same := hLate.same
  counted hLimited := by
    have hBefore := hLate.counted hLimited
    rw [List.length_append]
    dsimp only [Instant.nanosPerSecond] at hBefore ⊢
    omega
  recent hLimited := by
    refine (hLate.recent hLimited).imp_right fun ⟨b, hAmong, hSoon⟩ => ?_
    exact ⟨b, List.mem_append_left more hAmong, hSoon⟩

/-- One call leaves the record no later than this. -/
theorem late_run (hOnKey : a.key = record.correlationKey) (hOnce : a.AtOnce)
    (hLate : ∀ e, h.continuations.entries.get? record.correlationKey = some e →
      Late record failed e) :
    ∀ e, (a.run h).2.continuations.entries.get? record.correlationKey = some e →
      Late record (failed ++ if signalFailed (a.run h).1 then [a] else []) e := by
  rw [← hOnKey] at hLate ⊢
  intro e hFound
  have hEnds := run_ends a h
  generalize (a.run h).1 = answer, (a.run h).2.continuations = store,
    (a.run h).2.delivered = signals
    at hEnds hFound
  have hGone {e : SavedContinuation} : (a.left h).entries.get? a.key ≠ some e := by
    rw [left, ContinuationMap.get?_take_self]
    exact (Option.some_ne_none e).symm
  cases hEnds with
  | tooLarge => exact (hLate e hFound).append _
  | unread => exact (hLate e hFound).append _
  | missing => exact absurd hFound hGone
  | resumed => exact absurd hFound hGone
  | gone => exact absurd hFound hGone
  | lost => exact absurd hFound hGone
  | restored r cause m hReads hTaken hFails hAgain hSaved =>
    obtain ⟨before, hThere, hAlive, rfl⟩ := ContinuationMap.take_eq_some_iff.mp hTaken
    exact (hLate before hThere).putBack hOnce hAlive hSaved hFound

theorem late_runAll {calls : List Attempt} (hOnKey : ∀ b ∈ calls, b.key = record.correlationKey)
    (hOnce : ∀ b ∈ calls, b.AtOnce)
    (hLate : ∀ e, h.continuations.entries.get? record.correlationKey = some e → Late record [] e) :
    ∀ e, (runAll calls h).continuations.entries.get? record.correlationKey = some e →
      Late record (failures calls h) e := by
  induction calls using List.reverseRecOn with
  | nil => exact hLate
  | append_singleton calls a ih =>
    rw [runAll_concat, failures_concat]
    apply late_run (hOnKey a (by simp)) (hOnce a (by simp))
    exact ih (fun b hAmong => hOnKey b (List.mem_append_left _ hAmong))
      fun b hAmong => hOnce b (List.mem_append_left _ hAmong)

end Lateness

/-- A call gets the record within its planned life, or less than a second after a call whose signal
failed. For each of these the life is longer by less than a second. -/
theorem taken_while_failing {w : Wait} {s : Settings} {state : ExecutionState}
    {stepId resumeToken : String} {start h : Host} {record r : ContinuationRecord}
    {calls : List Attempt} {a : Attempt} (hBegan : start.clock.OnClock)
    (hSuspended : start.run (w.suspend s state stepId resumeToken).run = (.ok record, h))
    (hOnKey : ∀ b ∈ calls ++ [a], b.key = record.correlationKey) (hOnce : ∀ b ∈ calls, b.AtOnce)
    (hNow : a.takenAt.OnClock) (hTakes : a.Takes (runAll calls h) r) :
    r = record ∧
      a.takenAt.toNanos < start.clock.toNanos +
        (record.ttlSeconds.toNat + (failures calls h).length) * Instant.nanosPerSecond ∧
      (a.takenAt.toNanos < start.clock.toNanos + record.ttlSeconds.toNat * Instant.nanosPerSecond ∨
        ∃ b ∈ failures calls h,
        a.takenAt.toNanos < b.takenAt.toNanos + Instant.nanosPerSecond) := by
  obtain ⟨hCreated, hThere⟩ := Wait.get?_of_suspended hSuspended
  rw [← hCreated] at hBegan hThere ⊢
  have hFirst : ∀ e, h.continuations.entries.get? record.correlationKey = some e →
      Late record [] e := by
    intro e hFound
    rw [hThere] at hFound
    cases hFound
    exact ⟨rfl, fun _ => Int.le_of_eq (by simp [planned]), fun _ => .inl (Int.le_refl _)⟩
  obtain ⟨e, hFound, hAlive, rfl⟩ := ContinuationMap.take_eq_some_iff.mp hTakes.found
  rw [hOnKey a (by simp)] at hFound
  have hLate :=
    late_runAll (fun b hAmong => hOnKey b (List.mem_append_left _ hAmong)) hOnce hFirst e hFound
  refine ⟨hLate.same, ?_⟩
  by_cases hLimited : record.expiresAt = none
  · have hWithin := hBegan.lt_of_addSeconds? hLimited hNow
    refine ⟨?_, .inl hWithin⟩
    dsimp only [Instant.nanosPerSecond] at hWithin ⊢
    omega
  · have hCounted := hLate.counted hLimited
    unfold planned at hCounted
    refine ⟨?_, ?_⟩
    · dsimp only [Instant.nanosPerSecond] at hCounted ⊢
      omega
    · rcases hLate.recent hLimited with hPlanned | ⟨b, hAmong, hSoon⟩
      · exact .inl (Int.lt_of_lt_of_le hAlive hPlanned)
      · exact .inr ⟨b, hAmong, Int.lt_of_lt_of_le hAlive hSoon⟩

section Deliveries

def hasty : Wait where
  correlationKeyTemplate := "delivery 1"
  maxWaitTimeSeconds := some 1

def waiting : ContinuationRecord where
  correlationKey := "delivery 1"
  resumeToken := "token 1"
  executionId := "order 1"
  stepId := "delivery"
  createdAt := ⟨0, 0⟩
  ttlSeconds := 1

def waitingOffice : Host where
  clock := ⟨0, 0⟩
  continuations := ⟨[("delivery 1", ⟨waiting, 1000000000⟩)]⟩

theorem suspended_hasty :
    Wait.office.run (hasty.suspend {} Wait.order "delivery" "token 1").run =
      (.ok waiting, waitingOffice) := by
  have hText :
      (Program.run Host.serve
      (hasty.correlationKey {} Wait.order.scope).run Wait.office).1.toOption =
      some "delivery 1" := by decide +kernel
  have hKey : Program.run Host.serve (hasty.correlationKey {} Wait.order.scope).run Wait.office =
      (.ok "delivery 1", Wait.office) := by
    refine Prod.ext ?_ (Wait.run_snd_of_correlationKey fun _ _ => rfl)
    cases hAnswer :
        (Program.run Host.serve (hasty.correlationKey {} Wait.order.scope).run Wait.office).1 with
    | ok key =>
      rw [hAnswer] at hText
      cases hText
      rfl
    | error e =>
      rw [hAnswer] at hText
      cases hText
  exact (run_bind_ok Host.serve hKey).trans rfl

def failingAt (now : Instant) : Attempt where
  settings := {}
  key := "delivery 1"
  payload := .null
  takenAt := now
  readAt := now
  restoredAt := now
  signalFault := some (.failed "no answer")

/-- Half a second before its end the record is put back for a second, so it is taken after its end.
-/
theorem taken_after_one_failure :
    (failingAt ⟨1, 400000000⟩).Takes (runAll [failingAt ⟨0, 500000000⟩] waitingOffice) waiting ∧
      (failures [failingAt ⟨0, 500000000⟩] waitingOffice).length = 1 ∧
      (failingAt ⟨1, 400000000⟩).takenAt.toNanos <
        Wait.office.clock.toNanos + (waiting.ttlSeconds.toNat +
          (failures [failingAt ⟨0, 500000000⟩] waitingOffice).length) * Instant.nanosPerSecond := by
  have hTakes : (failingAt ⟨1, 400000000⟩).Takes (runAll [failingAt ⟨0, 500000000⟩] waitingOffice)
      waiting := ⟨⟨by decide, rfl⟩, by decide⟩
  have hOnKey : ∀ b ∈ [failingAt ⟨0, 500000000⟩] ++ [failingAt ⟨1, 400000000⟩],
      b.key = waiting.correlationKey := by simp [failingAt, waiting]
  have hOnce : ∀ b ∈ [failingAt ⟨0, 500000000⟩], b.AtOnce := by
    intro b hAmong
    rw [List.mem_singleton.mp hAmong]
    exact ⟨rfl, rfl⟩
  have hBegan : Wait.office.clock.OnClock := ⟨by decide, by decide⟩
  have hNow : (failingAt ⟨1, 400000000⟩).takenAt.OnClock := ⟨by decide, by decide⟩
  obtain ⟨-, hCounted, -⟩ := taken_while_failing hBegan suspended_hasty hOnKey hOnce hNow hTakes
  exact ⟨hTakes, by decide, hCounted⟩

theorem taken_after_two_failures :
    let calls := [failingAt ⟨0, 500000000⟩, failingAt ⟨1, 400000000⟩]
    let last := failingAt ⟨2, 300000000⟩
    Wait.office.run (hasty.suspend {} Wait.order "delivery" "token 1").run =
      (.ok waiting, waitingOffice) ∧
      (∀ b ∈ calls ++ [last], b.key = waiting.correlationKey ∧ b.AtOnce) ∧
      (calls ++ [last]).Pairwise (fun a b => a.takenAt.toNanos ≤ b.takenAt.toNanos) ∧
      last.Takes (runAll calls waitingOffice) waiting ∧
      Wait.office.clock.toNanos + (waiting.ttlSeconds.toNat + 1) * Instant.nanosPerSecond ≤
        last.takenAt.toNanos := by
  intro calls last
  refine ⟨suspended_hasty, ?_, by decide, ⟨⟨by decide, rfl⟩, by decide⟩, by decide⟩
  intro b hAmong
  simp only [calls, last, List.cons_append, List.nil_append, List.mem_cons, List.not_mem_nil,
    or_false] at hAmong
  rcases hAmong with rfl | rfl | rfl
  · exact ⟨rfl, rfl, rfl⟩
  · exact ⟨rfl, rfl, rfl⟩
  · exact ⟨rfl, rfl, rfl⟩

end Deliveries

end Attempt

end Resume

end Stepwise
