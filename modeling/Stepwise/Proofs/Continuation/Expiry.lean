import Stepwise.Proofs.Continuation.Lifetime

/-!
# When a record is expired

The end of a record is the instant at which it was made and all its seconds, in numbers without a
bound. Where there is no such instant, no clock gets that far.
-/

namespace Stepwise

set_option autoImplicit false

namespace Instant

variable {t now later : Instant} {seconds : Nat}

theorem OnClock.le_iff (h : t.OnClock) (h' : now.OnClock) : t.le now = true ↔
    t.toNanos ≤ now.toNanos := by
  have hShort := h.nano
  have hShort' := h'.nano
  simp only [Instant.le, Bool.or_eq_true, Bool.and_eq_true, decide_eq_true_eq, toNanos,
    nanosPerSecond]
    at hShort hShort' ⊢
  omega

/-- Nothing is lost of a span that is added. -/
theorem OnClock.of_addSeconds? (h : t.OnClock) (hAdded : t.addSeconds? seconds = some later) :
    later.OnClock ∧ later.toNanos = t.toNanos + seconds * nanosPerSecond := by
  have hPlain : t.isLeap = false := decide_eq_false (Nat.not_le.mpr h.nano)
  simp only [addSeconds?, hPlain, Bool.false_eq_true, false_and, if_false,
    Option.ite_none_left_eq_some, Option.ite_none_right_eq_some, Option.some.injEq] at hAdded
  obtain ⟨-, hWithin, rfl⟩ := hAdded
  refine ⟨⟨hWithin, h.nano⟩, ?_⟩
  simp only [toNanos, nanosPerSecond]
  omega

end Instant

namespace ContinuationRecord

variable {r : ContinuationRecord} {now : Instant}

/-- A record is expired from the instant on at which all its seconds are over, however many they
are. Its end is that instant, and it has none only if that is later than the last second. -/
theorem isExpired_exactly (hCreated : r.createdAt.OnClock) (hClock : now.OnClock) :
    (r.isExpired now = true ↔
      r.createdAt.toNanos + r.ttlSeconds.toNat * Instant.nanosPerSecond ≤ now.toNanos) ∧
    (∀ expiry, r.expiresAt = some expiry →
      expiry.toNanos = r.createdAt.toNanos + r.ttlSeconds.toNat * Instant.nanosPerSecond) ∧
    (r.expiresAt = none ↔ Instant.lastSecond < r.createdAt.second + r.ttlSeconds.toNat) := by
  refine ⟨?_, fun expiry hEnds => (hCreated.of_addSeconds? hEnds).2,
    hCreated.addSeconds?_eq_none_iff⟩
  unfold isExpired
  cases hEnds : r.expiresAt with
  | none =>
    have hLater := hCreated.lt_of_addSeconds? hEnds hClock
    simp only [Bool.false_eq_true, false_iff, Int.not_le]
    exact hLater
  | some expiry =>
    obtain ⟨hReached, hExact⟩ := hCreated.of_addSeconds? hEnds
    dsimp only
    rw [hReached.le_iff hClock, hExact]

def patient (ttlSeconds : UInt64) : ContinuationRecord where
  correlationKey := "delivery 1"
  resumeToken := "token 1"
  executionId := "order 1"
  stepId := "delivery"
  createdAt := ⟨0, 500000000⟩
  ttlSeconds := ttlSeconds

/-- A minute ends to the nanosecond. The longest time that can be given ends after the last instant.
-/
theorem patient_expires :
    (∀ ttlSeconds, (patient ttlSeconds).createdAt.OnClock) ∧ (⟨60, 499999999⟩ : Instant).OnClock ∧
      (⟨60, 500000000⟩ : Instant).OnClock ∧ (⟨Instant.lastSecond, 999999999⟩ : Instant).OnClock ∧
      (patient 60).isExpired ⟨60, 499999999⟩ = false ∧
      (patient 60).isExpired ⟨60, 500000000⟩ = true ∧
      (patient 0xffffffffffffffff).isExpired ⟨Instant.lastSecond, 999999999⟩ = false := by
  have hStart : (⟨0, 500000000⟩ : Instant).OnClock := by constructor <;> decide
  have hCreated (ttlSeconds : UInt64) : (patient ttlSeconds).createdAt.OnClock := hStart
  have hBefore : (⟨60, 499999999⟩ : Instant).OnClock := by constructor <;> decide
  have hEnding : (⟨60, 500000000⟩ : Instant).OnClock := by constructor <;> decide
  have hLast : (⟨Instant.lastSecond, 999999999⟩ : Instant).OnClock := by constructor <;> decide
  refine ⟨hCreated, hBefore, hEnding, hLast, ?_, ?_, ?_⟩
  · rw [← Bool.not_eq_true, (isExpired_exactly (hCreated 60) hBefore).1]
    decide
  · rw [(isExpired_exactly (hCreated 60) hEnding).1]
    decide
  · rw [← Bool.not_eq_true, (isExpired_exactly (hCreated 0xffffffffffffffff) hLast).1]
    decide

end ContinuationRecord

end Stepwise
