import Stepwise.Proofs.Continuation.History

/-!
# How long a continuation is kept

How long a saved continuation can be resumed. It stays under its key until its time is over or a
call takes it, unless another call suspends under the same key, or puts back what it had taken there
before.
-/

namespace Stepwise

set_option autoImplicit false

namespace Dict

variable {α : Type} {d : Dict α} {key : String} {p : String × α → Bool}

theorem get?_filter_of_pos {v : α} (h : d.get? key = some v) (hKept : p (key, v) = true) :
    Dict.get? (d.filter p) key = some v := by
  induction d with
  | nil => cases h
  | cons e rest ih =>
    obtain ⟨k, w⟩ := e
    by_cases hSame : k = key
    · subst hSame
      simp only [get?, if_true, Option.some.injEq] at h
      subst h
      simp [hKept, get?]
    · simp only [get?, hSame, if_false] at h
      rw [List.filter_cons]
      split
      · simpa only [get?, hSame, if_false] using ih h
      · exact ih h

theorem get?_filter_of_none (h : d.get? key = none) : Dict.get? (d.filter p) key = none := by
  induction d with
  | nil => rfl
  | cons e rest ih =>
    obtain ⟨k, w⟩ := e
    by_cases hSame : k = key
    · simp [get?, hSame] at h
    · simp only [get?, hSame, if_false] at h
      rw [List.filter_cons]
      split
      · simpa only [get?, hSame, if_false] using ih h
      · exact ih h

end Dict

namespace ContinuationMap

variable {store m : ContinuationMap} {now : Instant} {key under : String}
  {record : ContinuationRecord} {ttlSeconds : UInt64} {e : SavedContinuation}

theorem get?_save_self (h : store.save now key record ttlSeconds = .ok m) :
    ∃ expiry, expiry? now ttlSeconds = some expiry ∧
    m.entries.get? key = some ⟨record, expiry⟩ := by
  unfold save at h
  split at h
  · cases h
  · rename_i expiry hEnds
    cases h
    exact ⟨expiry, hEnds, Dict.get?_insert_self _ _ _⟩

theorem get?_save_of_ne (h : store.save now under record ttlSeconds = .ok m) (hApart : key ≠ under)
    (hFound : store.entries.get? key = some e) (hLive : now.toNanos < e.expiresAt) :
    m.entries.get? key = some e := by
  unfold save at h
  split at h
  · cases h
  · cases h
    rw [Dict.get?_insert_of_ne _ _ hApart]
    exact Dict.get?_filter_of_pos hFound (decide_eq_true hLive)

theorem get?_save_eq_none (h : store.save now under record ttlSeconds = .ok m)
    (hApart : key ≠ under) (hAbsent : store.entries.get? key = none) :
    m.entries.get? key = none := by
  unfold save at h
  split at h
  · cases h
  · cases h
    rw [Dict.get?_insert_of_ne _ _ hApart]
    exact Dict.get?_filter_of_none hAbsent

theorem take_of_live (hFound : store.entries.get? key = some e)
    (hLive : now.toNanos < e.expiresAt) :
    (store.take now key).1 = some e.record := by
  simp [take, hFound, isLive, hLive]

theorem take_of_none (hAbsent : store.entries.get? key = none) :
    store.take now key = (none, store) := by
  simp [take, hAbsent]

theorem get?_take_of_ne (hApart : key ≠ under) :
    (store.take now under).2.entries.get? key = store.entries.get? key := by
  unfold take
  split
  · rfl
  · exact Dict.get?_erase_of_ne _ hApart

end ContinuationMap

namespace Continuations

/-- The deed ends the life of a record that expires at a time: the time is over, or the record is
taken. -/
def Deed.Ends (record : ContinuationRecord) (expiry : Int) : Deed → Prop
  | .saved _ _ _ now => expiry ≤ now.toNanos
  | .took key answer now =>
    expiry ≤ now.toNanos ∨ (key = record.correlationKey ∧ answer = some record)
  | .other => False

def System.saved? (sys : System) (key : String) : Option SavedContinuation :=
  sys.world.store.entries.get? key

/-- A call that takes under its key before its time is over gets the record. -/
def System.Retrievable (sys : System) (record : ContinuationRecord) (expiry : Int) : Prop :=
  ∀ now : Instant, now.toNanos < expiry →
    (sys.world.store.take now record.correlationKey).1 = some record

section Deeds

variable {w w' : World} {now : Instant} {r : Request} {reply : Reply r} {key : String}

/-- What a reply has done to the store is what its deed says. -/
theorem store_of_repliesAt (h : w.RepliesAt now r reply w') :
    match Deed.of now r reply with
    | .saved key record ttlSeconds at_ =>
      at_ = now ∧ w.store.save now key record ttlSeconds = .ok w'.store
    | .took key answer at_ =>
      at_ = now ∧ answer = (w.store.take now key).1 ∧ w'.store = (w.store.take now key).2
    | .other => w'.store = w.store := by
  match r, reply with
  | .saveContinuation key record ttlSeconds, .ok () =>
    obtain ⟨m, hSaved, rfl⟩ := h
    exact ⟨rfl, hSaved⟩
  | .saveContinuation key record ttlSeconds, .error e =>
    cases h
    rfl
  | .takeContinuation key, .ok answer =>
    obtain ⟨hAnswered, rfl⟩ := h
    exact ⟨rfl, hAnswered, rfl⟩
  | .takeContinuation key, .error e =>
    cases h
    rfl
  | .sendSignal resumeToken payload, .ok () =>
    cases h
    rfl
  | .sendSignal resumeToken payload, .error e =>
    cases h
    rfl
  | .getObject _ _, _ => exact congrArg World.store h
  | .putObject _ _ _, _ => exact congrArg World.store h
  | .findFlow _ _, _ => exact congrArg World.store h
  | .callHandler _ _, _ => exact congrArg World.store h
  | .findRegistration _, _ => exact congrArg World.store h
  | .invokeRemote _ _, _ => exact congrArg World.store h
  | .enqueueStart _, _ => exact congrArg World.store h
  | .freshId, _ => exact congrArg World.store h
  | .now, _ => exact congrArg World.store h

end Deeds

section Keeping

variable {first sys : System} {events : List Event} {record : ContinuationRecord} {expiry : Int}

/-- A record stays where it is, and nothing is taken there, while nothing ends its life and nothing
is saved under its key. -/
theorem saved?_of_logged (h : Logged first events sys)
    (hThere : first.saved? record.correlationKey = some ⟨record, expiry⟩)
    (hLives : ∀ e ∈ events, ¬ e.deed.Ends record expiry)
    (hAlone : ∀ e ∈ events, e.deed.savesUnder record.correlationKey = false) :
    sys.saved? record.correlationKey = some ⟨record, expiry⟩ ∧
      ∀ e ∈ events, ∀ answer now, e.deed ≠ .took record.correlationKey answer now := by
  induction h with
  | refl => exact ⟨hThere, by simp⟩
  | @step events before after r next taken w w' _ now reply hReplies ih =>
    obtain ⟨hKept, hUntaken⟩ := ih (fun e he => hLives e (List.mem_append_left _ he))
      (fun e he => hAlone e (List.mem_append_left _ he))
    have hLife := hLives ⟨before.length, Deed.of now r reply⟩ (by simp)
    have hApart := hAlone ⟨before.length, Deed.of now r reply⟩ (by simp)
    have hDone := store_of_repliesAt hReplies
    simp only [System.saved?] at hKept ⊢
    have hLast : w'.store.entries.get? record.correlationKey = some ⟨record, expiry⟩ ∧
        ∀ answer at_, Deed.of now r reply ≠ .took record.correlationKey answer at_ := by
      cases hDeed : Deed.of now r reply with
      | saved under saved ttlSeconds at_ =>
        simp only [hDeed, Deed.Ends, Deed.savesUnder, decide_eq_false_iff_not, Int.not_le]
          at hLife hApart hDone
        obtain ⟨rfl, hDone⟩ := hDone
        exact ⟨ContinuationMap.get?_save_of_ne hDone (Ne.symm hApart) hKept hLife, by simp⟩
      | took under answer at_ =>
        simp only [hDeed, Deed.Ends, not_or, Int.not_le] at hLife hDone
        obtain ⟨rfl, rfl, hDone⟩ := hDone
        by_cases hSame : under = record.correlationKey
        · subst hSame
          exact absurd ⟨rfl, ContinuationMap.take_of_live hKept hLife.1⟩ hLife.2
        · rw [hDone, ContinuationMap.get?_take_of_ne (Ne.symm hSame)]
          exact ⟨hKept, by simp [hSame]⟩
      | other =>
        simp only [hDeed] at hDone
        rw [hDone]
        exact ⟨hKept, by simp⟩
    refine ⟨hLast.1, ?_⟩
    intro e he
    rcases List.mem_append.mp he with he | he
    · exact hUntaken e he
    · obtain rfl := List.mem_singleton.mp he
      exact hLast.2

/-- Under a key at which nothing is saved, nothing can be taken. -/
theorem absent_of_logged {key : String} (h : Logged first events sys)
    (hAbsent : first.saved? key = none) (hUnused : ∀ e ∈ events, e.deed.savesUnder key = false) :
    sys.saved? key = none ∧
      ∀ e ∈ events, ∀ record now, e.deed ≠ .took key (some record) now := by
  induction h with
  | refl => exact ⟨hAbsent, by simp⟩
  | @step events before after r next taken w w' _ now reply hReplies ih =>
    obtain ⟨hNone, hUntaken⟩ := ih fun e he => hUnused e (List.mem_append_left _ he)
    have hApart := hUnused ⟨before.length, Deed.of now r reply⟩ (by simp)
    have hDone := store_of_repliesAt hReplies
    simp only [System.saved?] at hNone ⊢
    have hLast : w'.store.entries.get? key = .none ∧
        ∀ record at_, Deed.of now r reply ≠ .took key (some record) at_ := by
      cases hDeed : Deed.of now r reply with
      | saved under saved ttlSeconds at_ =>
        simp only [hDeed, Deed.savesUnder, decide_eq_false_iff_not] at hApart hDone
        exact ⟨ContinuationMap.get?_save_eq_none hDone.2 (Ne.symm hApart) hNone, by simp⟩
      | took under answer at_ =>
        simp only [hDeed] at hDone
        obtain ⟨-, hAnswered, hDone⟩ := hDone
        rw [hDone]
        by_cases hSame : under = key
        · subst hSame
          rw [ContinuationMap.take_of_none hNone] at hAnswered ⊢
          exact ⟨hNone, by simp [hAnswered]⟩
        · rw [ContinuationMap.get?_take_of_ne (Ne.symm hSame)]
          exact ⟨hNone, by simp [hSame]⟩
      | other =>
        simp only [hDeed] at hDone
        rw [hDone]
        exact ⟨hNone, by simp⟩
    refine ⟨hLast.1, ?_⟩
    intro e he
    rcases List.mem_append.mp he with he | he
    · exact hUntaken e he
    · obtain rfl := List.mem_singleton.mp he
      exact hLast.2

end Keeping

def Suspends (calls : List Call) (i : Nat) : Prop :=
  ∃ s w state stepId resumeToken, calls[i]? = some (.suspend s w state stepId resumeToken)

theorem logged_nil {first sys : System} (h : Logged first [] sys) : sys = first := by
  generalize hNone : [] = events at h
  cases h with
  | refl => rfl
  | step _ now reply hReplies => simp at hNone

theorem logged_singleton {first sys : System} {e : Event} (h : Logged first [e] sys) :
    ∃ before after r next taken now, ∃ reply : Reply r,
      first.threads = before ++ ⟨.ask r next, taken⟩ :: after ∧
      e = ⟨before.length, .of now r reply⟩ ∧ first.world.RepliesAt now r reply sys.world := by
  generalize hSingle : [e] = events at h
  cases h with
  | refl => cases hSingle
  | @step events before after r next taken w w' h now reply hReplies =>
    have hSplit : [] ++ [e] = events ++ _ := hSingle
    obtain ⟨hNone, hSame⟩ := List.append_inj' hSplit rfl
    subst hNone
    obtain rfl := logged_nil h
    exact ⟨before, after, r, next, taken, now, reply, rfl, List.singleton_inj.mp hSame, hReplies⟩

theorem logged_cons {first sys : System} {before after : List Event} {e : Event}
    (h : Logged first (before ++ e :: after) sys) :
    ∃ mid mid', Logged first before mid ∧ Logged mid [e] mid' ∧ Logged mid' after sys := by
  obtain ⟨mid, hEarlier, hRest⟩ := logged_append.mp h
  obtain ⟨mid', hNow, hLater⟩ := logged_append.mp (show Logged mid ([e] ++ after) sys from hRest)
  exact ⟨mid, mid', hEarlier, hNow, hLater⟩

theorem exists_first {key : String} {events : List Event}
    (h : ¬ ∀ e ∈ events, e.deed.savesUnder key = false) :
    ∃ before e after record ttlSeconds now, events = before ++ e :: after ∧
      e.deed = .saved key record ttlSeconds now ∧
      ∀ e ∈ before, e.deed.savesUnder key = false := by
  cases hFound : events.find? fun e => e.deed.savesUnder key with
  | none =>
    refine absurd ?_ h
    simpa using hFound
  | some e =>
    obtain ⟨hSaves, before, after, hSplit, hUnused⟩ := List.find?_eq_some_iff_append.mp hFound
    cases hDeed : e.deed with
    | saved under record ttlSeconds now =>
      have hSame : under = key := by simpa [Deed.savesUnder, hDeed] using hSaves
      exact ⟨before, e, after, record, ttlSeconds, now, hSplit, by rw [hDeed, hSame],
        by simpa using hUnused⟩
    | took under answer now => simp [Deed.savesUnder, hDeed] at hSaves
    | other => simp [Deed.savesUnder, hDeed] at hSaves

section Origins

variable {store : ContinuationMap} {calls : List Call} {events : List Event} {sys : System}
  {key : String} {record : ContinuationRecord}

/-- What is saved comes from a call that suspends, or was taken under the key by the same call. -/
theorem origin_of_save {before after : List Event} {e : Event} {ttlSeconds : UInt64} {now : Instant}
    (h : Logged (System.start store calls) (before ++ e :: after) sys)
    (hSaved : e.deed = .saved key record ttlSeconds now) :
    Suspends calls e.call ∨ ∃ at_, ⟨e.call, .took key (some record) at_⟩ ∈ before := by
  obtain ⟨mid, mid', hEarlier, hSingle, -⟩ := logged_cons h
  obtain ⟨first, last, r, next, taken, at_, reply, hThreads, rfl, hReplies⟩ :=
    logged_singleton hSingle
  have hStanding : mid.threads[first.length]? = some ⟨.ask r next, taken⟩ := by simp [hThreads]
  obtain ⟨c, hc, hFollows⟩ := follows_of_logged hEarlier hStanding
  cases hFollows with
  | suspending => exact .inl ⟨_, _, _, _, _, hc⟩
  | resuming h hTook =>
    refine .inr ?_
    cases h with
    | take hFailed hAnswered => cases reply <;> cases hSaved
    | save h =>
      cases reply with
      | error e => cases hSaved
      | ok u =>
        cases hSaved
        exact hTook record rfl
    | other hKeeps h =>
      rw [of_keepsStore hKeeps] at hSaved
      cases hSaved

/-- Under a key of which the store has nothing, nothing is saved if no call suspends under it. -/
theorem unused_of_unshared (h : Logged (System.start store calls) events sys)
    (hAbsent : store.entries.get? key = none)
    (hUnshared : ∀ e ∈ events, e.deed.savesUnder key = true → ¬ Suspends calls e.call) :
    ∀ e ∈ events, e.deed.savesUnder key = false := by
  apply Classical.byContradiction
  intro hUsed
  obtain ⟨before, e, after, record, ttlSeconds, now, rfl, hSaved, hUnused⟩ := exists_first hUsed
  rcases origin_of_save h hSaved with hSuspends | ⟨at_, hTook⟩
  · exact hUnshared e (by simp) (by simp [hSaved, Deed.savesUnder]) hSuspends
  · obtain ⟨mid, hEarlier, -⟩ := logged_append.mp h
    exact (absent_of_logged hEarlier hAbsent hUnused).2 _ hTook record at_ rfl

/-- The event saves under a key that another call has used: to suspend as well, or to put back what
it had taken before. -/
def Intrudes (calls : List Call) (i : Nat) (key : String) (before : List Event) (e : Event) :
    Prop :=
  e.deed.savesUnder key = true ∧ ((e.call ≠ i ∧ Suspends calls e.call) ∨
    ∃ record now, ⟨e.call, .took key (some record) now⟩ ∈ before)

/-- A call that has suspended has saved its record, once. -/
theorem saved_of_suspended {i : Nat} {t : Thread}
    (h : Logged (System.start store calls) events sys) (hAt : sys.threads[i]? = some t)
    (hReturned : t.program = .done (.suspended (.ok record))) :
    ∃ before now after, events =
        before ++ ⟨i, .saved record.correlationKey record record.ttlSeconds now⟩ :: after ∧
      SavesNothing i (before ++ after) := by
  obtain ⟨c, -, hFollows⟩ := follows_of_logged h hAt
  rw [hReturned] at hFollows
  cases hFollows with
  | suspending h => cases h
  | suspended hSaved hOnce => exact ⟨_, _, _, hSaved, hOnce⟩
  | resuming h => cases h

theorem saved?_of_saved {first : System} {i : Nat} {ttlSeconds : UInt64} {now : Instant}
    (h : Logged first [⟨i, .saved key record ttlSeconds now⟩] sys) :
    ∃ expiry, ContinuationMap.expiry? now ttlSeconds = some expiry ∧
      sys.saved? key = some ⟨record, expiry⟩ := by
  obtain ⟨_, _, r, _, _, at_, reply, -, hSame, hReplies⟩ := logged_singleton h
  have hDone := store_of_repliesAt hReplies
  rw [← (Event.mk.inj hSame).2] at hDone
  obtain ⟨rfl, hDone⟩ := hDone
  exact ContinuationMap.get?_save_self hDone

/-- From where a record is saved it stays, or its life ends, or another call intrudes. -/
theorem retrievable_or_intruded {i : Nat} {before after : List Event} {d : Deed} {mid : System}
    {expiry : Int}
    (hRun : Logged (System.start store calls) (before ++ ⟨i, d⟩ :: after) sys)
    (hLater : Logged mid after sys)
    (hThere : mid.saved? record.correlationKey = some ⟨record, expiry⟩)
    (hOnce : SavesNothing i (before ++ after)) (hSaved : d.isSave = true) :
    sys.Retrievable record expiry ∨ (∃ e ∈ after, e.deed.Ends record expiry) ∨
      ∃ e ∈ after, Intrudes calls i record.correlationKey before e := by
  by_cases hLives : ∀ e ∈ after, ¬ e.deed.Ends record expiry
  · by_cases hAlone : ∀ e ∈ after, e.deed.savesUnder record.correlationKey = false
    · obtain ⟨hKept, -⟩ := saved?_of_logged hLater hThere hLives hAlone
      exact .inl fun clock hLive => ContinuationMap.take_of_live hKept hLive
    · obtain ⟨quiet, e, rest, taken, ttlSeconds, now, rfl, hSaves, hUnused⟩ := exists_first hAlone
      have hUnder : e.deed.savesUnder record.correlationKey = true := by
        simp [hSaves, Deed.savesUnder]
      refine .inr (.inr ⟨e, by simp, hUnder, ?_⟩)
      have hFromStart : Logged (System.start store calls)
          ((before ++ ⟨i, d⟩ :: quiet) ++ e :: rest) sys := by simpa using hRun
      rcases origin_of_save hFromStart hSaves with hSuspends | ⟨clock, hTook⟩
      · refine .inl ⟨fun hOwn => ?_, hSuspends⟩
        have hIdle := hOnce e (by simp) hOwn
        rw [Deed.isSave_of_savesUnder hUnder] at hIdle
        cases hIdle
      · refine .inr ⟨taken, clock, ?_⟩
        rcases List.mem_append.mp hTook with hSooner | hTook
        · exact hSooner
        rcases List.mem_cons.mp hTook with hSame | hTook
        · rw [← (Event.mk.inj hSame).2] at hSaved
          cases hSaved
        · -- what is taken under the key after the record was saved is the record
          obtain ⟨mid', hQuietly, -⟩ := logged_append.mp hLater
          have hUntaken := (saved?_of_logged hQuietly hThere
            (fun e he => hLives e (List.mem_append_left _ he)) hUnused).2
          exact absurd rfl (hUntaken _ hTook (some taken) clock)
  · refine .inr (.inl ?_)
    simpa using hLives

/-- A record whose suspension has succeeded stays retrievable, by every interleaving, until its time
is over or it is taken, or another call suspends under the same key or puts back there what it had
taken before. Where no other call suspends under the key, only the end of its time and a resume end
it. -/
theorem suspended_record_retrievable {i : Nat} {t : Thread}
    (hRun : Logged (System.start store calls) events sys) (hAt : sys.threads[i]? = some t)
    (hReturned : t.program = .done (.suspended (.ok record))) :
    ∃ before now expiry after,
      events = before ++ ⟨i, .saved record.correlationKey record record.ttlSeconds now⟩ :: after ∧
      ContinuationMap.expiry? now record.ttlSeconds = some expiry ∧
      (sys.Retrievable record expiry ∨ (∃ e ∈ after, e.deed.Ends record expiry) ∨
        ∃ e ∈ after, Intrudes calls i record.correlationKey before e) ∧
      (store.entries.get? record.correlationKey = none →
        (∀ e ∈ events, e.deed.savesUnder record.correlationKey = true → Suspends calls e.call →
          e.call = i) →
        sys.Retrievable record expiry ∨ ∃ e ∈ after, e.deed.Ends record expiry) := by
  obtain ⟨before, now, after, rfl, hOnce⟩ := saved_of_suspended hRun hAt hReturned
  obtain ⟨mid, mid', hEarlier, hSingle, hLater⟩ := logged_cons hRun
  obtain ⟨expiry, hEnds, hThere⟩ := saved?_of_saved hSingle
  have hOutcome := retrievable_or_intruded hRun hLater hThere hOnce rfl
  refine ⟨before, now, expiry, after, rfl, hEnds, hOutcome, fun hAbsent hUnshared => ?_⟩
  rcases hOutcome with hKept | hExpired |
    ⟨e, he, hSaves, ⟨hOther, hSuspends⟩ | ⟨taken, clock, hTook⟩⟩
  · exact .inl hKept
  · exact .inr hExpired
  · exact absurd (hUnshared e (by simp [he]) hSaves hSuspends) hOther
  · refine absurd rfl ((absent_of_logged hEarlier hAbsent ?_).2 _ hTook taken clock)
    apply unused_of_unshared hEarlier hAbsent
    intro earlierEvent hMem hSaves hSuspends
    have hOwn := hUnshared earlierEvent (by simp [hMem]) hSaves hSuspends
    have hIdle := hOnce earlierEvent (List.mem_append_left _ hMem) hOwn
    rw [Deed.isSave_of_savesUnder hSaves] at hIdle
    cases hIdle

end Origins

section Deliveries

def waits (id resumeToken : String) : Call :=
  .suspend {} ⟨"delivery 1", none⟩
    { executionId := id, flowId := "orders", version := 1 } "delivery"
    resumeToken

def awaited (id resumeToken : String) : ContinuationRecord where
  correlationKey := "delivery 1"
  resumeToken := resumeToken
  executionId := id
  stepId := "delivery"
  createdAt := ⟨0, 0⟩
  ttlSeconds := 604800

def awaiting (id resumeToken : String) : Thread :=
  ⟨.done (.suspended (.ok (awaited id resumeToken))), none⟩

unseal Template.pieces in
theorem waits_program {id resumeToken : String} (hNamed : resumeToken ≠ "") :
    ∃ next, (waits id resumeToken).program = .ask .now next ∧ ∃ next', next ⟨0, 0⟩ =
        .ask (.saveContinuation "delivery 1" (awaited id resumeToken) 604800) next' ∧
      next' (.ok ()) = .done (.suspended (.ok (awaited id resumeToken))) := by
  simp only [waits, Call.program, Wait.suspend, if_neg hNamed]
  exact ⟨_, rfl, _, rfl, rfl⟩

theorem logged_waits {first : System} {events : List Event} (before after : List Thread) {w : World}
    {m : ContinuationMap} {id resumeToken : String} (hNamed : resumeToken ≠ "")
    (h : Logged first events ⟨before ++ ⟨(waits id resumeToken).program, none⟩ :: after, w⟩)
    (hSaved : w.store.save ⟨0, 0⟩ "delivery 1" (awaited id resumeToken) 604800 = .ok m) :
    Logged first ((events ++ [⟨before.length, .other⟩]) ++
        [⟨before.length, .saved "delivery 1" (awaited id resumeToken) 604800 ⟨0, 0⟩⟩])
      ⟨before ++ awaiting id resumeToken :: after, { w with store := m }⟩ := by
  obtain ⟨next, hProgram, next', hAsked, hAnswered⟩ := waits_program hNamed
  rw [hProgram] at h
  have hClock := h.step ⟨0, 0⟩ ⟨0, 0⟩ (show w.RepliesAt ⟨0, 0⟩ .now ⟨0, 0⟩ w from rfl)
  rw [hAsked] at hClock
  have hStored := hClock.step ⟨0, 0⟩ (.ok ()) ⟨m, hSaved, rfl⟩
  rw [hAnswered] at hStored
  exact hStored

/-- Nobody else waits under the key, and an event for another delivery takes nothing. -/
theorem lone_order_retrievable :
    ∃ events sys, Logged (System.start ⟨[]⟩
        [waits "order 1" "token 1", .resume {} "delivery 2" .null]) events sys ∧
      sys.threads[0]? = some (awaiting "order 1" "token 1") ∧
      sys.Retrievable (awaited "order 1" "token 1") 604800000000000 := by
  let first := System.start ⟨[]⟩ [waits "order 1" "token 1", .resume {} "delivery 2" .null]
  let events : List Event := [⟨0, .other⟩,
    ⟨0, .saved "delivery 1" (awaited "order 1" "token 1") 604800 ⟨0, 0⟩⟩,
    ⟨1, .took "delivery 2" none ⟨0, 0⟩⟩]
  have hBegun : Logged first [] first := .refl
  have hWaiting := logged_waits [] _ (by decide) hBegun rfl
  have hMissed : Logged first events _ := @Logged.step _ _ [awaiting "order 1" "token 1"] []
    (.takeContinuation "delivery 2") _ none _ _ hWaiting ⟨0, 0⟩ (.ok none) ⟨rfl, rfl⟩
  refine ⟨events, _, hMissed, rfl, ?_⟩
  obtain ⟨before, now, expiry, after, hSplit, hEnds, -, hAlone⟩ :=
    suspended_record_retrievable hMissed (i := 0) (t := awaiting "order 1" "token 1") rfl rfl
  have hAtStart : ∀ e ∈ events, ∀ key record ttl clock, e.deed = .saved key record ttl clock →
      clock = ⟨0, 0⟩ := by
    intro e hMember key record ttl clock hSaves
    simp only [events, List.mem_cons, List.not_mem_nil, or_false] at hMember
    rcases hMember with rfl | rfl | rfl
    · cases hSaves
    · cases hSaves
      rfl
    · cases hSaves
  obtain rfl : now = ⟨0, 0⟩ :=
    hAtStart ⟨0, .saved "delivery 1" (awaited "order 1" "token 1") 604800 now⟩
      (by rw [hSplit]; simp [awaited]) _ _ _ _ rfl
  obtain rfl : 604800000000000 = expiry := Option.some.inj hEnds
  have hLives : ∀ e ∈ events, ¬ e.deed.Ends (awaited "order 1" "token 1") 604800000000000 := by
    simp [events, Deed.Ends, Instant.toNanos]
  rcases hAlone rfl (by simp [events, Deed.savesUnder]) with hKept | ⟨e, hLate, hExpired⟩
  · exact hKept
  · exact absurd hExpired (hLives e (by rw [hSplit]; simp [hLate]))

/-- Two orders wait under one key: the record of the first is replaced by that of the second, or the
second by the one that a resume puts back. -/
theorem shared_key_loses_record :
    (∃ events sys, Logged (System.start ⟨[]⟩ [waits "order 1" "token 1", waits "order 2" "token 2"])
        events sys ∧
      sys.threads[0]? = some (awaiting "order 1" "token 1") ∧
      (∀ e ∈ events, ¬ e.deed.Ends (awaited "order 1" "token 1") 604800000000000) ∧
      ¬ sys.Retrievable (awaited "order 1" "token 1") 604800000000000) ∧
    ∃ events sys,
    Logged (System.start ⟨[("delivery 1", ⟨awaited "order 1" "token 1", 604800000000000⟩)]⟩
        [.resume {} "delivery 1" .null, waits "order 2" "token 2"]) events sys ∧
      sys.threads[1]? = some (awaiting "order 2" "token 2") ∧
      (∀ e ∈ events, ¬ e.deed.Ends (awaited "order 2" "token 2") 604800000000000) ∧
      ¬ sys.Retrievable (awaited "order 2" "token 2") 604800000000000 := by
  constructor
  · have hBegun : Logged (System.start ⟨[]⟩ [waits "order 1" "token 1", waits "order 2" "token 2"])
        [] _ := .refl
    have hOne :=
      logged_waits [] [⟨(waits "order 2" "token 2").program, none⟩] (by decide) hBegun rfl
    have hTwo := logged_waits [awaiting "order 1" "token 1"] [] (by decide) hOne rfl
    refine ⟨_, _, hTwo, rfl, ?_, fun hKept => ?_⟩
    · simp [Deed.Ends, Instant.toNanos]
    · exact absurd (hKept ⟨0, 0⟩ (by decide)) (by decide +kernel)
  · have hBegun : Logged (System.start
        ⟨[("delivery 1", ⟨awaited "order 1" "token 1", 604800000000000⟩)]⟩
        [.resume {} "delivery 1" .null, waits "order 2" "token 2"]) [] _ := .refl
    have hTaken := @Logged.step _ _ [] [⟨(waits "order 2" "token 2").program, none⟩]
      (.takeContinuation "delivery 1") _ none _ _ hBegun ⟨0, 0⟩
      (.ok (some (awaited "order 1" "token 1")))
      ⟨rfl, rfl⟩
    have hWaiting := logged_waits [_] [] (by decide) hTaken rfl
    have hFailed :=
      @Logged.step _ _ [] [awaiting "order 2" "token 2"] (.sendSignal "token 1" .null) _
      (some (awaited "order 1" "token 1")) _ _ hWaiting ⟨0, 0⟩ (.error (.failed "busy")) rfl
    have hAsked := @Logged.step _ _ [] [awaiting "order 2" "token 2"] .now _
      (some (awaited "order 1" "token 1")) _ _ hFailed ⟨0, 0⟩ ⟨0, 0⟩ rfl
    have hRestored := @Logged.step _ _ [] [awaiting "order 2" "token 2"]
      (.saveContinuation "delivery 1" (awaited "order 1" "token 1") 604800) _
      (some (awaited "order 1" "token 1")) _ _ hAsked ⟨0, 0⟩ (.ok ()) ⟨_, rfl, rfl⟩
    refine ⟨_, _, hRestored, rfl, ?_, fun hKept => ?_⟩
    · simp [Deed.of, Deed.Ends, Instant.toNanos, awaited]
    · exact absurd (hKept ⟨0, 0⟩ (by decide)) (by decide +kernel)

end Deliveries

end Continuations

end Stepwise
