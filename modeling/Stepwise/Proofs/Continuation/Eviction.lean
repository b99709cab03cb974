import Mathlib.Data.List.Induction
import Stepwise.Proofs.Continuation.Retention
import Stepwise.Proofs.Json.Order

/-!
# Sweeping goes unnoticed

The store of continuations answers as a map that never sweeps: what was saved last under the key,
unless it was taken since then or its time is over.
-/

namespace Stepwise

set_option autoImplicit false

namespace Dict

theorem get?_of_get?_filter {α : Type} {d : Dict α} (hUnique : d.Unique) {p : String × α → Bool}
    {key : String} {v : α} (h : Dict.get? (d.filter p) key = some v) : d.get? key = some v :=
  get?_of_mem hUnique (List.mem_filter.mp (mem_of_get? h)).1

end Dict

namespace ContinuationMap

inductive Operation where
  | save (key : String) (record : ContinuationRecord) (ttlSeconds : UInt64)
  | take (key : String)

structure Timed where
  now : Instant
  operation : Operation

inductive Answer where
  | saved (outcome : Except EngineError Unit)
  | took (found : Option ContinuationRecord)

/-- A way to save a continuation. -/
abbrev Saving :=
  ContinuationMap → Instant → String → ContinuationRecord → UInt64 →
    Except EngineError ContinuationMap

def keep : Saving := fun m now key record ttlSeconds =>
  match expiry? now ttlSeconds with
  | none => .error (.continuationStore "ttl out of range")
  | some expiry => .ok ⟨m.entries.insert key ⟨record, expiry⟩⟩

section Runs

variable (saving : Saving)

def perform (m : ContinuationMap) (t : Timed) : Answer × ContinuationMap :=
  match t.operation with
  | .save key record ttlSeconds =>
    match saving m t.now key record ttlSeconds with
    | .ok m' => (.saved (.ok ()), m')
    | .error e => (.saved (.error e), m)
  | .take key => ((m.take t.now key).map .took id)

def answers : ContinuationMap → List Timed → List Answer
  | _, [] => []
  | m, t :: rest => (perform saving m t).1 :: answers (perform saving m t).2 rest

def after (m : ContinuationMap) (ops : List Timed) : ContinuationMap :=
  ops.foldl (fun m t => (perform saving m t).2) m

variable {saving} {m : ContinuationMap}

theorem answers_append (before rest : List Timed) : answers saving m (before ++ rest) =
    answers saving m before ++ answers saving (after saving m before) rest := by
  induction before generalizing m with
  | nil => rfl
  | cons t before ih => exact congrArg ((perform saving m t).1 :: ·) ih

theorem length_answers (ops : List Timed) : (answers saving m ops).length = ops.length := by
  induction ops generalizing m with
  | nil => rfl
  | cons t rest ih => exact congrArg Nat.succ ih

theorem getElem?_answers (before : List Timed) (t : Timed) (rest : List Timed) :
    (answers saving m (before ++ t :: rest))[before.length]? =
      some (perform saving (after saving m before) t).1 := by
  rw [answers_append, List.getElem?_append_right (Nat.le_of_eq (length_answers before)),
    length_answers, Nat.sub_self]
  rfl

theorem after_concat (ops : List Timed) (t : Timed) :
    after saving m (ops ++ [t]) = (perform saving (after saving m ops) t).2 := by
  rw [after, List.foldl_append]
  rfl

end Runs

section Taking

variable {m : ContinuationMap} {now : Instant} {key : String}

theorem get?_take_self : (m.take now key).2.entries.get? key = none := by
  unfold take
  split
  · next hAbsent => exact hAbsent
  · exact Dict.get?_erase_self _ _

theorem get?_take_eq_some_iff {other : String} {e : SavedContinuation} :
    (m.take now key).2.entries.get? other = some e ↔
    other ≠ key ∧ m.entries.get? other = some e := by
  by_cases hSame : other = key
  · subst hSame
    simp [get?_take_self]
  · rw [get?_take_of_ne hSame]
    exact ⟨fun hFound => ⟨hSame, hFound⟩, fun h => h.2⟩

theorem take_eq_some_iff {record : ContinuationRecord} : (m.take now key).1 = some record ↔
    ∃ e, m.entries.get? key = some e ∧ now.toNanos < e.expiresAt ∧ e.record = record := by
  unfold take
  split
  · next hAbsent => simp [hAbsent]
  · next e hFound => simp [hFound, isLive]

theorem sorted_take (hSorted : m.entries.Sorted) : (m.take now key).2.entries.Sorted := by
  unfold take
  split
  · exact hSorted
  · exact Dict.sorted_erase hSorted key

end Taking

/-- The two maps differ in what is expired by then at most, and only the second one can have more.
-/
structure Alike (now : Int) (swept kept : ContinuationMap) : Prop where
  sorted : swept.entries.Sorted
  among : ∀ key e, swept.entries.get? key = some e → kept.entries.get? key = some e
  live : ∀ key e, kept.entries.get? key = some e → now < e.expiresAt →
    swept.entries.get? key = some e

section Simulation

variable {now : Int} {swept kept : ContinuationMap}

theorem Alike.later (h : Alike now swept kept) {clock : Int} (hLater : now ≤ clock) :
    Alike clock swept kept where
  sorted := h.sorted
  among := h.among
  live key e hFound hAlive := h.live key e hFound (Int.lt_of_le_of_lt hLater hAlive)

/-- The map that sweeps and inserts, and the one that inserts only. -/
theorem Alike.insert {clock : Instant} (h : Alike clock.toNanos swept kept) (key : String)
    (e : SavedContinuation) :
    Alike clock.toNanos ⟨(swept.sweep clock).insert key e⟩ ⟨kept.entries.insert key e⟩ where
  sorted := Dict.sorted_insert (h.sorted.sublist List.filter_sublist) key e
  among other e' hFound := by
    rw [Dict.get?_insert] at hFound ⊢
    by_cases hSame : other = key
    · rwa [if_pos hSame] at hFound ⊢
    · rw [if_neg hSame] at hFound ⊢
      exact h.among other e' (Dict.get?_of_get?_filter h.sorted.unique hFound)
  live other e' hFound hAlive := by
    rw [Dict.get?_insert] at hFound ⊢
    by_cases hSame : other = key
    · rwa [if_pos hSame] at hFound ⊢
    · rw [if_neg hSame] at hFound ⊢
      exact Dict.get?_filter_of_pos (h.live other e' hFound hAlive) (decide_eq_true hAlive)

theorem Alike.take {clock : Instant} (h : Alike clock.toNanos swept kept) (key : String) :
    (swept.take clock key).1 = (kept.take clock key).1 ∧
      Alike clock.toNanos (swept.take clock key).2 (kept.take clock key).2 := by
  constructor
  · apply Option.ext
    intro record
    rw [take_eq_some_iff, take_eq_some_iff]
    constructor
    · rintro ⟨e, hFound, hAlive, hSame⟩
      exact ⟨e, h.among key e hFound, hAlive, hSame⟩
    · rintro ⟨e, hFound, hAlive, hSame⟩
      exact ⟨e, h.live key e hFound hAlive, hAlive, hSame⟩
  · refine ⟨sorted_take h.sorted, ?_, ?_⟩
    · intro other e hFound
      obtain ⟨hApart, hFound⟩ := get?_take_eq_some_iff.mp hFound
      exact get?_take_eq_some_iff.mpr ⟨hApart, h.among other e hFound⟩
    · intro other e hFound hAlive
      obtain ⟨hApart, hFound⟩ := get?_take_eq_some_iff.mp hFound
      exact get?_take_eq_some_iff.mpr ⟨hApart, h.live other e hFound hAlive⟩

/-- One operation is answered the same. -/
theorem perform_alike {t : Timed} (h : Alike now swept kept) (hLater : now ≤ t.now.toNanos) :
    (perform save swept t).1 = (perform keep kept t).1 ∧
      Alike t.now.toNanos (perform save swept t).2 (perform keep kept t).2 := by
  have h := h.later hLater
  obtain ⟨clock, operation⟩ := t
  cases operation with
  | save key record ttlSeconds =>
    simp only [perform, save, keep]
    cases expiry? clock ttlSeconds with
    | none => exact ⟨rfl, h⟩
    | some expiry => exact ⟨rfl, h.insert key ⟨record, expiry⟩⟩
  | take key =>
    obtain ⟨hSame, h⟩ := h.take key
    exact ⟨congrArg Answer.took hSame, h⟩

theorem answers_alike {ops : List Timed} (h : Alike now swept kept)
    (hOrdered : ops.Pairwise fun a b => a.now.toNanos ≤ b.now.toNanos)
    (hLater : ∀ t ∈ ops, now ≤ t.now.toNanos) : answers save swept ops = answers keep kept ops := by
  induction ops generalizing now swept kept with
  | nil => rfl
  | cons t rest ih =>
    obtain ⟨hFirst, hOrdered⟩ := List.pairwise_cons.mp hOrdered
    obtain ⟨hSame, h⟩ := perform_alike h (hLater t List.mem_cons_self)
    rw [answers, answers, hSame, ih h hOrdered hFirst]

theorem alike_empty (now : Int) : Alike now {} {} :=
  ⟨List.Pairwise.nil, fun _ _ hFound => hFound, fun _ _ hFound _ => hFound⟩

end Simulation

/-- The store's clock reaches the end of the record's time. -/
def InRange (now : Instant) (ttlSeconds : UInt64) : Prop :=
  now.second + ttlSeconds.toNat ≤ lastSecond

theorem expiry?_eq_some_iff {now : Instant} {ttlSeconds : UInt64} {expiry : Int} :
    expiry? now ttlSeconds = some expiry ↔ InRange now ttlSeconds ∧
      now.toNanos + ttlSeconds.toNat * Instant.nanosPerSecond = expiry := by
  unfold expiry? InRange
  split
  · next hBeyond =>
    constructor
    · intro hImpossible
      cases hImpossible
    · intro ⟨hWithin, _⟩
      omega
  · next hWithin => simp [Int.not_lt.mp hWithin]

theorem expiry?_eq_none_iff {now : Instant} {ttlSeconds : UInt64} :
    expiry? now ttlSeconds = none ↔ ¬ InRange now ttlSeconds := by
  simp [expiry?, InRange]

/-- The operation takes what is under the key, or saves something there. -/
def Timed.Touches (key : String) (t : Timed) : Prop :=
  match t.operation with
  | .save under _ ttlSeconds => under = key ∧ InRange t.now ttlSeconds
  | .take under => under = key

/-- The last that happened to the key is that the record was saved there, then and for so long. -/
def LastSaved (key : String) (record : ContinuationRecord) (start : Instant) (ttlSeconds : UInt64)
    (ops : List Timed) : Prop :=
  ∃ earlier later, ops = earlier ++ ⟨start, .save key record ttlSeconds⟩ :: later ∧
    InRange start ttlSeconds ∧ ∀ t ∈ later, ¬ t.Touches key

section History

variable {key : String} {record : ContinuationRecord} {start : Instant} {ttlSeconds : UInt64}

theorem lastSaved_concat {ops : List Timed} {t : Timed} :
    LastSaved key record start ttlSeconds (ops ++ [t]) ↔
    (t = ⟨start, .save key record ttlSeconds⟩ ∧ InRange start ttlSeconds) ∨
      (¬ t.Touches key ∧ LastSaved key record start ttlSeconds ops) := by
  constructor
  · rintro ⟨earlier, later, hSplit, hWithin, hUntouched⟩
    rcases List.eq_nil_or_concat later with rfl | ⟨before, last, rfl⟩
    · obtain ⟨-, hSame⟩ := List.append_inj' hSplit rfl
      exact .inl ⟨List.singleton_inj.mp hSame, hWithin⟩
    · rw [List.concat_eq_append, ← List.cons_append, ← List.append_assoc] at hSplit
      obtain ⟨rfl, hSame⟩ := List.append_inj' hSplit rfl
      obtain rfl := List.singleton_inj.mp hSame
      refine .inr ⟨hUntouched t (by simp), earlier, before, rfl, hWithin, ?_⟩
      intro o hAmong
      exact hUntouched o (by simp [hAmong])
  · rintro (⟨rfl, hWithin⟩ | ⟨hApart, earlier, later, rfl, hWithin, hUntouched⟩)
    · exact ⟨ops, [], rfl, hWithin, by simp⟩
    · refine ⟨earlier, later ++ [t], by simp, hWithin, ?_⟩
      intro o hAmong
      rcases List.mem_append.mp hAmong with hAmong | hAmong
      · exact hUntouched o hAmong
      · rw [List.mem_singleton.mp hAmong]
        exact hApart

theorem get?_perform_keep (m : ContinuationMap) (t : Timed) (e : SavedContinuation) :
    (perform keep m t).2.entries.get? key = some e ↔
      (∃ ttlSeconds, t.operation = .save key e.record ttlSeconds ∧ InRange t.now ttlSeconds ∧
        t.now.toNanos + ttlSeconds.toNat * Instant.nanosPerSecond = e.expiresAt) ∨
      (¬ t.Touches key ∧ m.entries.get? key = some e) := by
  obtain ⟨clock, operation⟩ := t
  cases operation with
  | save under saved ttlSeconds =>
    simp only [perform, keep, Timed.Touches, Operation.save.injEq]
    cases hEnds : expiry? clock ttlSeconds with
    | none =>
      have hBeyond := expiry?_eq_none_iff.mp hEnds
      constructor
      · exact fun hFound => .inr ⟨fun hTouched => hBeyond hTouched.2, hFound⟩
      · rintro (⟨_, ⟨-, -, rfl⟩, hWithin, -⟩ | ⟨-, hFound⟩)
        · exact absurd hWithin hBeyond
        · exact hFound
    | some expiry =>
      obtain ⟨hWithin, rfl⟩ := expiry?_eq_some_iff.mp hEnds
      dsimp only
      rw [Dict.get?_insert]
      split
      · next hSame =>
        subst hSame
        obtain ⟨record, expiresAt⟩ := e
        simp only [Option.some.injEq, SavedContinuation.mk.injEq, true_and, hWithin, and_true,
          not_true, false_and, or_false]
        constructor
        · rintro ⟨rfl, hEnds⟩
          exact ⟨ttlSeconds, ⟨rfl, rfl⟩, hWithin, hEnds⟩
        · rintro ⟨_, ⟨rfl, rfl⟩, -, hEnds⟩
          exact ⟨rfl, hEnds⟩
      · next hApart =>
        constructor
        · exact fun hFound => .inr ⟨fun hTouched => hApart hTouched.1.symm, hFound⟩
        · rintro (⟨_, ⟨hSame, -, -⟩, -, -⟩ | ⟨-, hFound⟩)
          · exact absurd hSame.symm hApart
          · exact hFound
  | take under =>
    simp only [perform, Prod.map_snd, id_eq, get?_take_eq_some_iff, Timed.Touches, reduceCtorEq,
      false_and, exists_false, false_or, ne_comm (a := key)]

/-- A map that never sweeps holds under a key what was saved there last and not taken since. -/
theorem get?_after_keep {ops : List Timed} {e : SavedContinuation} :
    (after keep {} ops).entries.get? key = some e ↔ ∃ start ttlSeconds,
      LastSaved key e.record start ttlSeconds ops ∧
        start.toNanos + ttlSeconds.toNat * Instant.nanosPerSecond = e.expiresAt := by
  induction ops using List.reverseRecOn with
  | nil => simp [after, LastSaved]
  | append_singleton ops t ih =>
    rw [after_concat, get?_perform_keep, ih]
    simp only [lastSaved_concat]
    constructor
    · rintro (⟨ttlSeconds, hSaves, hWithin, hEnds⟩ | ⟨hApart, start, ttlSeconds, hLast, hEnds⟩)
      · exact ⟨t.now, ttlSeconds, .inl ⟨by rw [← hSaves], hWithin⟩, hEnds⟩
      · exact ⟨start, ttlSeconds, .inr ⟨hApart, hLast⟩, hEnds⟩
    · rintro ⟨start, ttlSeconds, ⟨rfl, hWithin⟩ | ⟨hApart, hLast⟩, hEnds⟩
      · exact .inl ⟨ttlSeconds, rfl, hWithin, hEnds⟩
      · exact .inr ⟨hApart, start, ttlSeconds, hLast, hEnds⟩

end History

theorem perform_save_of_not_inRange {m : ContinuationMap} {now : Instant} {key : String}
    {record : ContinuationRecord} {ttlSeconds : UInt64} (hBeyond : ¬ InRange now ttlSeconds) :
    perform save m ⟨now, .save key record ttlSeconds⟩ =
      (.saved (.error (.continuationStore "ttl out of range")), m) := by
  simp only [perform, save, expiry?_eq_none_iff.mpr hBeyond]

/-- Where time does not go back, the store answers as one that never sweeps. It gives the record
that was saved last under the key, if none was taken there since and its time is not over. Saving
for a time beyond the clock fails, and no other answer depends on it. -/
theorem answers_as_if_kept {ops : List Timed}
    (hOrdered : ops.Pairwise fun a b => a.now.toNanos ≤ b.now.toNanos) :
    answers save {} ops = answers keep {} ops ∧
      (∀ before now key rest, ops = before ++ ⟨now, .take key⟩ :: rest →
        ∃ found, (answers save {} ops)[before.length]? = some (.took found) ∧
          ∀ record, found = some record ↔ ∃ start ttlSeconds,
            LastSaved key record start ttlSeconds before ∧
              now.toNanos < start.toNanos + ttlSeconds.toNat * Instant.nanosPerSecond) ∧
      ∀ before now key record ttlSeconds rest,
        ops = before ++ ⟨now, .save key record ttlSeconds⟩ :: rest → ¬ InRange now ttlSeconds →
        answers save {} ops = answers save {} before ++
          .saved (.error (.continuationStore "ttl out of range")) ::
            (answers save {} (before ++ rest)).drop before.length := by
  have hSame : answers save {} ops = answers keep {} ops := by
    cases ops with
    | nil => rfl
    | cons t rest =>
      apply answers_alike (alike_empty t.now.toNanos) hOrdered
      intro o hAmong
      rcases List.mem_cons.mp hAmong with rfl | hAmong
      · exact Int.le_refl _
      · exact (List.pairwise_cons.mp hOrdered).1 o hAmong
  refine ⟨hSame, ?_, ?_⟩
  · rintro before now key rest rfl
    refine ⟨((after keep {} before).take now key).1, ?_, fun record => ?_⟩
    · rw [hSame, getElem?_answers]
      rfl
    · rw [take_eq_some_iff]
      constructor
      · rintro ⟨e, hFound, hAlive, rfl⟩
        obtain ⟨start, ttlSeconds, hLast, hEnds⟩ := get?_after_keep.mp hFound
        exact ⟨start, ttlSeconds, hLast, by rwa [hEnds]⟩
      · rintro ⟨start, ttlSeconds, hLast, hAlive⟩
        exact ⟨⟨record, _⟩, get?_after_keep.mpr ⟨start, ttlSeconds, hLast, rfl⟩, hAlive, rfl⟩
  · rintro before now key record ttlSeconds rest rfl hBeyond
    rw [answers_append, answers_append, answers, perform_save_of_not_inRange hBeyond,
      List.drop_left' (length_answers before)]

section Deliveries

open Continuations

/-- Orders that wait for deliveries. The first two are swept out when others are saved, and no clock
reaches the end of the fourth one's time. -/
def saves : List Timed :=
  [⟨⟨0, 0⟩, .save "delivery 1" (awaited "order 1" "token 1") 10⟩,
   ⟨⟨5, 0⟩, .save "delivery 2" (awaited "order 2" "token 2") 0⟩,
   ⟨⟨6, 0⟩, .save "delivery 3" (awaited "order 3" "token 3") 60⟩,
   ⟨⟨7, 0⟩, .save "delivery 3" (awaited "order 4" "token 4") 0xffffffffffffffff⟩,
   ⟨⟨20, 0⟩, .save "delivery 5" (awaited "order 5" "token 5") 60⟩]

def events : List Timed :=
  [⟨⟨20, 0⟩, .take "delivery 1"⟩, ⟨⟨65, 999999999⟩, .take "delivery 3"⟩,
   ⟨⟨65, 999999999⟩, .take "delivery 3"⟩]

theorem deliveries_answered_as_if_kept :
    (saves ++ events).Pairwise (fun a b => a.now.toNanos ≤ b.now.toNanos) ∧
      answers save {} (saves ++ events) = answers keep {} (saves ++ events) ∧
      (answers save {} (saves ++ events))[6]? =
      some (.took (some (awaited "order 3" "token 3"))) := by
  have hOrdered : (saves ++ events).Pairwise fun a b => a.now.toNanos ≤ b.now.toNanos := by decide
  obtain ⟨hSame, hTook, -⟩ := answers_as_if_kept hOrdered
  refine ⟨hOrdered, hSame, ?_⟩
  obtain ⟨found, hAnswered, hGives⟩ :=
    hTook (saves ++ [⟨⟨20, 0⟩, .take "delivery 1"⟩]) ⟨65, 999999999⟩
    "delivery 3" [⟨⟨65, 999999999⟩, .take "delivery 3"⟩] rfl
  have hLast : LastSaved "delivery 3" (awaited "order 3" "token 3") ⟨6, 0⟩ 60
      (saves ++ [⟨⟨20, 0⟩, .take "delivery 1"⟩]) :=
    ⟨saves.take 2, saves.drop 3 ++ [⟨⟨20, 0⟩, .take "delivery 1"⟩], rfl,
      by simp [InRange, lastSecond], by simp [saves, Timed.Touches, InRange, lastSecond]⟩
  have hAlive := (hGives (awaited "order 3" "token 3")).mpr ⟨⟨6, 0⟩, 60, hLast, by decide⟩
  rw [hAlive] at hAnswered
  exact hAnswered

end Deliveries

end ContinuationMap

end Stepwise
