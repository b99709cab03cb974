import Stepwise.Host.Basic
import Stepwise.Proofs.Continuation.Eviction
import Stepwise.Proofs.Time.Text

/-!
# Resuming

What a call that resumes leaves behind. Only the call that delivers its event and the call whose
token is gone end the wait; any other leaves the record, or puts it back for one second at least.
-/

namespace Stepwise

set_option autoImplicit false

namespace Instant

variable {t later earlier : Instant} {seconds : Nat}

theorem lt_of_inRange (hWithin : t.inRange = true) :
    -0x800000000000 < t.second ∧ t.second < 0x800000000000 := by
  have hFirst : -0x800000000000 < firstSecond := by decide
  have hLast : lastSecond < 0x800000000000 := by decide
  simp only [inRange, Bool.and_eq_true, decide_eq_true_eq] at hWithin
  omega

theorem of_addSeconds? (h : t.addSeconds? seconds = some later) :
    later.inRange = true ∧ later.nano ≤ t.nano ∧
      later.toNanos ≤ t.toNanos + seconds * nanosPerSecond := by
  simp only [addSeconds?, Option.ite_none_left_eq_some, Option.ite_none_right_eq_some,
    Option.some.injEq] at h
  obtain ⟨-, hWithin, rfl⟩ := h
  have hNano : (if t.isLeap ∧ 0 < seconds then t.nano - nanosPerSecond else t.nano) ≤ t.nano := by
    split <;> omega
  refine ⟨hWithin, hNano, ?_⟩
  rw [toNanos, toNanos, Int.add_mul]
  dsimp only
  omega

theorem addSeconds?_zero (hWithin : t.inRange = true) : t.addSeconds? 0 = some t := by
  obtain ⟨second, nano⟩ := t
  simp only [addSeconds?, Nat.not_lt_zero, if_false, and_false, Int.natCast_zero, Int.add_zero,
    hWithin, if_true]

theorem secondsSince_mul_le :
    later.secondsSince earlier * nanosPerSecond ≤ max 0 (later.toNanos - earlier.toNanos) := by
  unfold secondsSince
  generalize later.toNanos - earlier.toNanos = span
  rcases Int.le_total 0 span with hForward | hBackward
  · have hWhole : (nanosPerSecond : Int) * span.tdiv nanosPerSecond ≤ span :=
      Int.mul_tdiv_self_le hForward
    rw [Int.mul_comm] at hWhole
    omega
  · have hOpposite : 0 ≤ (-span).tdiv nanosPerSecond :=
      Int.tdiv_nonneg (by omega) (Int.natCast_nonneg _)
    rw [Int.neg_tdiv] at hOpposite
    simp only [nanosPerSecond] at hOpposite ⊢
    omega

end Instant

namespace Resume

section Remaining

variable {r : ContinuationRecord} {now expiry : Instant}

theorem now_add_remainingSeconds_le (hEnds : r.expiresAt = some expiry) :
    now.toNanos + (remainingSeconds r now).toNat * Instant.nanosPerSecond ≤
      max (now.toNanos + Instant.nanosPerSecond) expiry.toNanos := by
  have hWhole := @Instant.secondsSince_mul_le expiry now
  have hWrapped : (UInt64.ofNat (max 1 (expiry.secondsSince now)).toNat).toNat ≤
      (max 1 (expiry.secondsSince now)).toNat := by
    rw [UInt64.toNat_ofNat']
    exact Nat.mod_le _ _
  simp only [remainingSeconds, hEnds]
  generalize (UInt64.ofNat (max 1 (expiry.secondsSince now)).toNat).toNat = remaining at hWrapped
  simp only [Instant.nanosPerSecond] at hWhole ⊢
  omega

theorem remainingSeconds_pos (hReadable : r.createdAt.Readable) (hClock : now.Readable) :
    0 < (remainingSeconds r now).toNat := by
  cases hEnds : r.expiresAt with
  | none =>
    simp only [remainingSeconds, hEnds]
    apply Nat.pos_of_ne_zero
    intro hZero
    rw [ContinuationRecord.expiresAt, hZero, Instant.addSeconds?_zero hReadable.inRange] at hEnds
    cases hEnds
  | some expiry =>
    have hSmall : (max 1 (expiry.secondsSince now)).toNat < 2 ^ 64 := by
      obtain ⟨hWithin, hNano, -⟩ := Instant.of_addSeconds? hEnds
      have hLast := (Instant.lt_of_inRange hWithin).2
      have hFirst := (Instant.lt_of_inRange hClock.inRange).1
      have hWhole := @Instant.secondsSince_mul_le expiry now
      have hShort := hReadable.nano
      simp only [Instant.toNanos, Instant.nanosPerSecond] at hWhole hShort
      omega
    simp only [remainingSeconds, hEnds]
    rw [UInt64.toNat_ofNat', Nat.mod_eq_of_lt hSmall]
    omega

end Remaining

/-- A call that resumes, with the times at which it is served and the failures it meets. -/
structure Attempt where
  settings : Settings
  key : String
  payload : Json
  /-- When the store removes what it has under the key. -/
  takenAt : Instant
  /-- When the time that a record has left is computed. -/
  readAt : Instant
  /-- When the store saves a record that is put back. -/
  restoredAt : Instant
  faults : List (Facility × EngineError) := []
  signalFault : Option SignalError := none

namespace Attempt

/-- The time of a request; only three of them see the clock. -/
def clockFor (a : Attempt) : Request → Instant
  | .takeContinuation _ => a.takenAt
  | .now => a.readAt
  | _ => a.restoredAt

def hostFor (a : Attempt) (r : Request) (h : Host) : Host :=
  { h with clock := a.clockFor r, faults := a.faults, signalFault := a.signalFault }

def serve (a : Attempt) (r : Request) (h : Host) : Reply r × Host := Host.serve r (a.hostFor r h)

def run (a : Attempt) (h : Host) : Except ResumeError ContinuationRecord × Host :=
  Program.run a.serve (deliver a.settings a.key a.payload) h

/-- The payload is within the limit, and the store can be read. -/
def Reads (a : Attempt) : Prop :=
  a.payload.size ≤ a.settings.maxPayloadBytes.toNat ∧ a.faults.lookup .continuationGet = none

def found? (a : Attempt) (h : Host) : Option ContinuationRecord :=
  (h.continuations.take a.takenAt a.key).1

def left (a : Attempt) (h : Host) : ContinuationMap := (h.continuations.take a.takenAt a.key).2

def putBack (a : Attempt) (m : ContinuationMap) (r : ContinuationRecord) :
    Except EngineError ContinuationMap :=
  match a.faults.lookup .continuationPut with
  | some e => .error e
  | none => m.save a.restoredAt a.key r (remainingSeconds r a.readAt)

/-- The ways a call can end: its answer, and the continuations and the signals after it. -/
inductive Ends (a : Attempt) (h : Host) :
    Except ResumeError ContinuationRecord → ContinuationMap → List (String × Json) → Prop where
  | tooLarge (hLarge : a.settings.maxPayloadBytes.toNat < a.payload.size) :
      Ends a h
        (.error (.payloadTooLarge (UInt64.ofNat a.payload.size) a.settings.maxPayloadBytes))
        h.continuations h.delivered
  | unread (e : EngineError) (hFails : a.faults.lookup .continuationGet = some e) :
      Ends a h (.error (.store e)) h.continuations h.delivered
  | missing (hReads : a.Reads) (hAbsent : a.found? h = none) :
      Ends a h (.error (.notFound a.key)) (a.left h) h.delivered
  | resumed (r : ContinuationRecord) (hReads : a.Reads) (hFound : a.found? h = some r)
      (hDelivers : a.signalFault = none) :
      Ends a h (.ok r) (a.left h) (h.delivered ++ [(r.resumeToken, a.payload)])
  | gone (r : ContinuationRecord) (cause : SignalError) (hReads : a.Reads)
      (hFound : a.found? h = some r) (hFails : a.signalFault = some cause)
      (hIsGone : cause.isTokenGone = true) :
      Ends a h (.error (.tokenGone cause)) (a.left h) h.delivered
  | restored (r : ContinuationRecord) (cause : SignalError) (m : ContinuationMap) (hReads : a.Reads)
      (hFound : a.found? h = some r) (hFails : a.signalFault = some cause)
      (hAgain : cause.isTokenGone = false) (hSaved : a.putBack (a.left h) r = .ok m) :
      Ends a h (.error (.signalFailed cause)) m h.delivered
  | lost (r : ContinuationRecord) (cause : SignalError) (e : EngineError) (hReads : a.Reads)
      (hFound : a.found? h = some r) (hFails : a.signalFault = some cause)
      (hAgain : cause.isTokenGone = false) (hUnsaved : a.putBack (a.left h) r = .error e) :
      Ends a h (.error (.signalFailed cause)) (a.left h) h.delivered

section Ends

variable {a : Attempt} {h : Host} {r : ContinuationRecord}

theorem serve_take (hStable : a.faults.lookup .continuationGet = none) :
    a.serve (.takeContinuation a.key) h =
      (.ok (a.found? h),
        { a.hostFor (.takeContinuation a.key) h with continuations := a.left h }) := by
  simp only [serve, Host.serve, Host.guarded, hostFor, hStable]
  rfl

theorem serve_take_of_fault {e : EngineError} (hFails : a.faults.lookup .continuationGet = some e) :
    a.serve (.takeContinuation a.key) h = (.error e, a.hostFor (.takeContinuation a.key) h) := by
  simp only [serve, Host.serve, Host.guarded, hostFor, hFails]

theorem serve_signal (hDelivers : a.signalFault = none) (resumeToken : String) (payload : Json) :
    a.serve (.sendSignal resumeToken payload) h =
      (.ok (), { a.hostFor (.sendSignal resumeToken payload) h with
        delivered := h.delivered ++ [(resumeToken, payload)] }) := by
  simp only [serve, Host.serve, hostFor, hDelivers]

theorem serve_signal_of_fault {cause : SignalError} (hFails : a.signalFault = some cause)
    (resumeToken : String) (payload : Json) :
    a.serve (.sendSignal resumeToken payload) h =
      (.error cause, a.hostFor (.sendSignal resumeToken payload) h) := by
  simp only [serve, Host.serve, hostFor, hFails]

theorem serve_save (r : ContinuationRecord) :
    a.serve (.saveContinuation a.key r (remainingSeconds r a.readAt)) h =
      let later := a.hostFor (.saveContinuation a.key r (remainingSeconds r a.readAt)) h
      match a.putBack h.continuations r with
      | .ok m => (.ok (), { later with continuations := m })
      | .error e => (.error e, later) := by
  simp only [serve, Host.serve, Host.guarded, hostFor, putBack, clockFor, Host.saveContinuation]
  cases a.faults.lookup .continuationPut with
  | some e => rfl
  | none =>
    cases h.continuations.save a.restoredAt a.key r (remainingSeconds r a.readAt) with
    | ok m => rfl
    | error e => rfl

theorem run_restore : (Program.run a.serve (restore a.key r) h).2.delivered = h.delivered ∧
    (Program.run a.serve (restore a.key r) h).2.continuations =
      match a.putBack h.continuations r with
      | .ok m => m
      | .error _ => h.continuations := by
  have hClock : a.serve .now h = (a.readAt, a.hostFor .now h) := rfl
  have hSaving (g : Host) : Program.run a.serve
      (EngineProgram.saveContinuation a.key r (remainingSeconds r a.readAt)).run g =
        a.serve (.saveContinuation a.key r (remainingSeconds r a.readAt)) g := rfl
  simp only [restore, Program.run_bind, Program.run_request, Program.run_pure, hClock, hSaving,
    serve_save]
  have hSame : (a.hostFor .now h).continuations = h.continuations := rfl
  rw [hSame]
  cases a.putBack h.continuations r with
  | ok m => exact ⟨rfl, rfl⟩
  | error e => exact ⟨rfl, rfl⟩

theorem run_ends (a : Attempt) (h : Host) :
    Ends a h (a.run h).1 (a.run h).2.continuations (a.run h).2.delivered := by
  have hTaking : Program.run a.serve (EngineProgram.takeContinuation a.key).run h =
      a.serve (.takeContinuation a.key) h := rfl
  unfold run deliver
  dsimp only
  split
  · next hLarge => exact .tooLarge hLarge
  · next hSmall =>
    rw [Program.run_bind, hTaking]
    cases hFails : a.faults.lookup .continuationGet with
    | some e =>
      rw [serve_take_of_fault hFails]
      exact .unread e hFails
    | none =>
      have hReads : a.Reads := ⟨Nat.le_of_not_lt hSmall, hFails⟩
      rw [serve_take hFails]
      cases hFound : a.found? h with
      | none => exact .missing hReads hFound
      | some r =>
        dsimp only
        rw [Program.run_bind, Program.run_request]
        cases hSignal : a.signalFault with
        | none =>
          rw [serve_signal hSignal]
          exact .resumed r hReads hFound hSignal
        | some cause =>
          rw [serve_signal_of_fault hSignal]
          dsimp only
          cases hToken : cause.isTokenGone with
          | true => exact .gone r cause hReads hFound hSignal hToken
          | false =>
            simp only [Bool.false_eq_true, if_false, Program.run_bind, Program.run_pure]
            rw [run_restore.1, run_restore.2]
            show Ends a h _ (match a.putBack (a.left h) r with | .ok m => m | .error _ => a.left h)
              h.delivered
            cases hSaved : a.putBack (a.left h) r with
            | ok m => exact .restored r cause m hReads hFound hSignal hToken hSaved
            | error e => exact .lost r cause e hReads hFound hSignal hToken hSaved

theorem save_of_putBack {m m' : ContinuationMap} (hSaved : a.putBack m r = .ok m') :
    m.save a.restoredAt a.key r (remainingSeconds r a.readAt) = .ok m' := by
  unfold putBack at hSaved
  split at hSaved
  · cases hSaved
  · exact hSaved

theorem get?_of_putBack {m m' : ContinuationMap} (hSaved : a.putBack m r = .ok m') :
    m'.entries.get? a.key = some ⟨r, a.restoredAt.toNanos +
      (remainingSeconds r a.readAt).toNat * Instant.nanosPerSecond⟩ := by
  obtain ⟨expiry, hEnds, hFound⟩ := ContinuationMap.get?_save_self (save_of_putBack hSaved)
  obtain ⟨-, rfl⟩ := ContinuationMap.expiry?_eq_some_iff.mp hEnds
  exact hFound

theorem found?_eq_none_iff : a.found? h = none ↔
    ∀ e, h.continuations.entries.get? a.key = some e → e.expiresAt ≤ a.takenAt.toNanos := by
  rw [found?, Option.eq_none_iff_forall_ne_some]
  simp only [ne_eq, ContinuationMap.take_eq_some_iff, not_exists, not_and]
  constructor
  · intro hAbsent e hFound
    exact Int.not_lt.mp fun hAlive => hAbsent e.record e hFound hAlive rfl
  · intro hExpired record e hFound hAlive
    exact absurd hAlive (Int.not_lt.mpr (hExpired e hFound))

end Ends

/-- What each answer of the call says about the continuations and the signals after it. -/
structure Spares (a : Attempt) (h : Host) (answer : Except ResumeError ContinuationRecord)
    (store : ContinuationMap) (signals : List (String × Json)) : Prop where
  tooLarge : ∀ size limit, answer = .error (.payloadTooLarge size limit) →
    store = h.continuations ∧ signals = h.delivered
  unread : ∀ e, answer = .error (.store e) → store = h.continuations ∧ signals = h.delivered
  notFound : ∀ key, answer = .error (.notFound key) ↔ key = a.key ∧ a.Reads ∧
    ∀ e, h.continuations.entries.get? a.key = some e → e.expiresAt ≤ a.takenAt.toNanos
  silent : ∀ key, answer = .error (.notFound key) → signals = h.delivered
  signalFailed : ∀ cause, answer = .error (.signalFailed cause) →
    signals = h.delivered ∧ ∃ r, a.found? h = some r ∧
      ∀ now : Instant, now.toNanos < a.restoredAt.toNanos + Instant.nanosPerSecond →
        (store.take now a.key).1 = some r
  tokenGone : ∀ cause, answer = .error (.tokenGone cause) →
    signals = h.delivered ∧ store.entries.get? a.key = none
  resumed : ∀ r, answer = .ok r → a.found? h = some r ∧ store.entries.get? a.key = none ∧
    signals = h.delivered ++ [(r.resumeToken, a.payload)]
  /-- What can be taken under another key can be taken afterwards. -/
  others : ∀ key r, ∀ now : Instant, key ≠ a.key →
    ((∃ cause, answer = .error (.signalFailed cause)) → a.restoredAt.toNanos ≤ now.toNanos) →
      (h.continuations.take now key).1 = some r → (store.take now key).1 = some r

section Spared

variable {a : Attempt} {h : Host} {answer : Except ResumeError ContinuationRecord}
  {store : ContinuationMap} {signals : List (String × Json)}

/-- Nothing is found exactly where the call can read and nothing lives under its key. -/
theorem Ends.notFound_iff (hEnds : Ends a h answer store signals) (key : String) :
    answer = .error (.notFound key) ↔ key = a.key ∧ a.Reads ∧
      ∀ e, h.continuations.entries.get? a.key = some e → e.expiresAt ≤ a.takenAt.toNanos := by
  rw [← found?_eq_none_iff]
  constructor
  · rintro rfl
    cases hEnds with
    | missing hReads hAbsent => exact ⟨rfl, hReads, hAbsent⟩
  · rintro ⟨rfl, ⟨hSmall, hStable⟩, hAbsent⟩
    have hNothing (r : ContinuationRecord) : a.found? h ≠ some r := by simp [hAbsent]
    cases hEnds with
    | tooLarge hLarge => exact absurd hSmall (Nat.not_le.mpr hLarge)
    | unread e hFails =>
      rw [hStable] at hFails
      cases hFails
    | missing => rfl
    | resumed r _ hFound => exact absurd hFound (hNothing r)
    | gone r _ _ hFound => exact absurd hFound (hNothing r)
    | restored r _ _ _ hFound => exact absurd hFound (hNothing r)
    | lost r _ _ _ hFound => exact absurd hFound (hNothing r)

/-- After a failed signal the record lives for a second at least. -/
theorem Ends.retrievable {cause : SignalError}
    (hEnds : Ends a h (.error (.signalFailed cause)) store signals) (hClock : a.readAt.Readable)
    (hReadable : ∀ r, a.found? h = some r → r.createdAt.Readable)
    (hRestores : ∀ r, a.found? h = some r → a.signalFault = some cause →
      cause.isTokenGone = false → ∃ m, a.putBack (a.left h) r = .ok m) :
    signals = h.delivered ∧ ∃ r, a.found? h = some r ∧
      ∀ now : Instant, now.toNanos < a.restoredAt.toNanos + Instant.nanosPerSecond →
        (store.take now a.key).1 = some r := by
  cases hEnds with
  | restored r _ m _ hFound _ _ hSaved =>
    refine ⟨rfl, r, hFound, ?_⟩
    intro now hSoon
    have hLong := remainingSeconds_pos (hReadable r hFound) hClock
    refine ContinuationMap.take_of_live (get?_of_putBack hSaved) ?_
    dsimp only [Instant.nanosPerSecond] at hSoon ⊢
    omega
  | lost r _ e _ hFound hFails hAgain hUnsaved =>
    obtain ⟨m, hSaved⟩ := hRestores r hFound hFails hAgain
    rw [hUnsaved] at hSaved
    cases hSaved

/-- Records under other keys stay, unless their time ends before a record is put back. -/
theorem Ends.others (hEnds : Ends a h answer store signals) {key : String} {r : ContinuationRecord}
    {now : Instant} (hkey : key ≠ a.key)
    (hLater : (∃ cause, answer = .error (.signalFailed cause)) → a.restoredAt.toNanos ≤ now.toNanos)
    (hFound : (h.continuations.take now key).1 = some r) : (store.take now key).1 = some r := by
  obtain ⟨e, hSaved, hAlive, rfl⟩ := ContinuationMap.take_eq_some_iff.mp hFound
  have hLeft : (a.left h).entries.get? key = some e := by
    rw [Attempt.left, ContinuationMap.get?_take_of_ne hkey, hSaved]
  cases hEnds with
  | tooLarge => exact hFound
  | unread => exact hFound
  | restored _ cause _ _ _ _ _ hStored =>
    have hUnswept := Int.lt_of_le_of_lt (hLater ⟨cause, rfl⟩) hAlive
    exact ContinuationMap.take_of_live
      (ContinuationMap.get?_save_of_ne (save_of_putBack hStored) hkey hLeft hUnswept) hAlive
  | missing => exact ContinuationMap.take_of_live hLeft hAlive
  | resumed => exact ContinuationMap.take_of_live hLeft hAlive
  | gone => exact ContinuationMap.take_of_live hLeft hAlive
  | lost => exact ContinuationMap.take_of_live hLeft hAlive

end Spared

/-- A call that runs alone leaves the continuations as its answer says, if what it puts back is
saved. -/
theorem run_spares {a : Attempt} {h : Host} (hClock : a.readAt.Readable)
    (hReadable : ∀ r, a.found? h = some r → r.createdAt.Readable)
    (hRestores : ∀ r cause, a.found? h = some r → a.signalFault = some cause →
      cause.isTokenGone = false → ∃ m, a.putBack (a.left h) r = .ok m) :
    Spares a h (a.run h).1 (a.run h).2.continuations (a.run h).2.delivered := by
  have hEnds := run_ends a h
  generalize (a.run h).1 = answer, (a.run h).2.continuations = store,
    (a.run h).2.delivered = signals
    at hEnds
  constructor
  case tooLarge =>
    rintro size limit rfl
    cases hEnds
    exact ⟨rfl, rfl⟩
  case unread =>
    rintro e rfl
    cases hEnds
    exact ⟨rfl, rfl⟩
  case notFound => exact hEnds.notFound_iff
  case silent =>
    rintro key rfl
    cases hEnds
    rfl
  case signalFailed =>
    rintro cause rfl
    exact hEnds.retrievable hClock hReadable fun r => hRestores r cause
  case tokenGone =>
    rintro cause rfl
    cases hEnds
    exact ⟨rfl, ContinuationMap.get?_take_self⟩
  case resumed =>
    rintro r rfl
    cases hEnds with
    | resumed _ hReads hFound hDelivers => exact ⟨hFound, ContinuationMap.get?_take_self, rfl⟩
  case others =>
    intro key r now hkey hLater hFound
    exact hEnds.others hkey hLater hFound

section Deliveries

open Continuations

def yard : Host where
  clock := ⟨0, 0⟩
  continuations :=
    ⟨[("delivery 1", ⟨awaited "order 1" "token 1", 604800000000000⟩),
      ("delivery 2", ⟨awaited "order 2" "token 2", 5000000000⟩)]⟩

/-- An event for the first delivery that does not get through. -/
def lostEvent : Attempt where
  settings := {}
  key := "delivery 1"
  payload := .null
  takenAt := ⟨7, 0⟩
  readAt := ⟨7, 5⟩
  restoredAt := ⟨7, 9⟩
  signalFault := some (.failed "no answer")

theorem lost_event_spared :
    (lostEvent.run yard).1 = .error (.signalFailed (.failed "no answer")) ∧
      (lostEvent.run yard).2.delivered = [] ∧
      ((lostEvent.run yard).2.continuations.take ⟨8, 0⟩ "delivery 1").1 =
        some (awaited "order 1" "token 1") := by
  have hFound : lostEvent.found? yard = some (awaited "order 1" "token 1") := by decide
  have hOnly (r : ContinuationRecord) (h : lostEvent.found? yard = some r) :
      r = awaited "order 1" "token 1" := Option.some.inj (h.symm.trans hFound)
  have hFailed : (lostEvent.run yard).1 = .error (.signalFailed (.failed "no answer")) := rfl
  have hClock : lostEvent.readAt.Readable := ⟨by decide, by decide, by decide⟩
  have hSpared : Spares lostEvent yard (lostEvent.run yard).1 (lostEvent.run yard).2.continuations
      (lostEvent.run yard).2.delivered := by
    apply run_spares hClock
    · intro r hTaken
      rw [hOnly r hTaken]
      exact ⟨by decide, by decide, by decide⟩
    · intro r cause hTaken _ _
      rw [hOnly r hTaken]
      exact ⟨_, rfl⟩
  obtain ⟨hSilent, r, hTaken, hRetrievable⟩ := hSpared.signalFailed (.failed "no answer") hFailed
  refine ⟨hFailed, hSilent, ?_⟩
  rw [← hOnly r hTaken]
  exact hRetrievable ⟨8, 0⟩ (by decide)

end Deliveries

end Attempt

end Resume

end Stepwise
