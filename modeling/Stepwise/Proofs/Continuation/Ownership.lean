import Stepwise.Proofs.Continuation.Concurrent
import Stepwise.Proofs.Program.Requests

/-!
# One owner for every token

A resume token has one owner. A call owns a token while it is going to save a record with it, or has
taken such a record and may put it back; else the store owns it, or the signal that accepted it.
Every reply passes a token on or drops it, so no interleaving makes a second copy.
-/

namespace Stepwise.Continuations

set_option autoImplicit false

open Program

/-- A request that neither concerns the store of continuations nor the signal. -/
def IsQuiet : Request → Prop
  | .saveContinuation _ _ _ | .takeContinuation _ | .sendSignal _ _ => False
  | _ => True

/-- The call ends without having resumed an execution. -/
def Ending.Idle (e : Ending) : Prop := ∀ r, e ≠ .resumed (.ok r)

/-- A program that, owning at most one token, saves no record but one with this token, and signals
no other token; what it takes it owns. -/
inductive Linear : Option String → Program Ending → Prop where
  | done {owned : Option String} {e : Ending} (hIdle : e.Idle) : Linear owned (.done e)
  | save {token key : String} {record : ContinuationRecord} {ttlSeconds : UInt64}
      {next : Reply (.saveContinuation key record ttlSeconds) → Program Ending}
      (hOwn : record.resumeToken = token) (hEnds : ∀ reply, ∃ e, next reply = .done e ∧ e.Idle) :
      Linear (some token) (.ask (.saveContinuation key record ttlSeconds) next)
  | take {key : String} {next : Reply (.takeContinuation key) → Program Ending}
      (hFailed : ∀ e, Linear none (next (.error e))) (hMissing : Linear none (next (.ok none)))
      (hFound : ∀ r : ContinuationRecord, Linear (some r.resumeToken) (next (.ok (some r)))) :
      Linear none (.ask (.takeContinuation key) next)
  | send {r : ContinuationRecord} {payload : Json}
      {next : Reply (.sendSignal r.resumeToken payload) → Program Ending}
      (hAccepted : next (.ok ()) = .done (.resumed (.ok r)))
      (hRefused : ∀ e, Linear (some r.resumeToken) (next (.error e))) :
      Linear (some r.resumeToken) (.ask (.sendSignal r.resumeToken payload) next)
  | other {owned : Option String} {r : Request} {next : Reply r → Program Ending}
      (hQuiet : IsQuiet r) (h : ∀ reply, Linear owned (next reply)) : Linear owned (.ask r next)

section Calls

variable {α β ε : Type} {owned : Option String}

theorem linear_bind {p : Program α} {f : α → Program Ending} (hQuiet : Only IsQuiet p)
    (h : ∀ a, Linear owned (f a)) : Linear owned (p >>= f) := by
  show Linear owned (p.bind f)
  induction p with
  | done a => exact h a
  | ask r next ih => exact .other hQuiet.1 fun reply => ih reply (hQuiet.2 reply)

theorem linear_run_bind {p : ExceptT ε Program α} {f : α → ExceptT ε Program β}
    {wrap : Except ε β → Ending} (hQuiet : Only IsQuiet p.run) (hIdle : ∀ e, (wrap (.error e)).Idle)
    (h : ∀ a, Linear owned (wrap <$> (f a).run)) : Linear owned (wrap <$> (p >>= f).run) := by
  rw [ExceptT.run_bind, map_bind]
  apply linear_bind hQuiet
  intro x
  cases x with
  | ok a => exact h a
  | error e => exact .done (hIdle e)

theorem correlationKey_quiet (w : Wait) (s : Settings) (scope : Json) :
    Only IsQuiet (w.correlationKey s scope).run := by
  refine only_mono ?_ (w.correlationKey_reads s scope)
  intro r hr
  cases r <;> trivial

theorem suspended_idle (outcome : Except StepError ContinuationRecord) :
    (Ending.suspended outcome).Idle := by
  intro r h
  cases h

theorem suspend_linear (s : Settings) (w : Wait) (state : ExecutionState)
    (stepId resumeToken : String) :
    Linear (some resumeToken) (Call.suspend s w state stepId resumeToken).program := by
  simp only [Call.program, Wait.suspend]
  split
  · exact .done (suspended_idle _)
  · apply linear_run_bind (correlationKey_quiet w s state.scope) fun _ => suspended_idle _
    intro key
    refine .other trivial fun createdAt => .save rfl fun reply => ?_
    cases reply with
    | ok u => exact ⟨_, rfl, suspended_idle _⟩
    | error e => exact ⟨_, rfl, suspended_idle _⟩

theorem refused_idle (e : ResumeError) : (Ending.resumed (.error e)).Idle := by
  intro r h
  cases h

theorem restore_linear (key : String) (r : ContinuationRecord) (e : SignalError) :
    Linear (some r.resumeToken) (Ending.resumed <$> (do
      Resume.restore key r
      pure (.error (.signalFailed e)))) :=
  .other trivial fun _ => .save rfl fun _ => ⟨_, rfl, refused_idle _⟩

theorem deliver_linear (s : Settings) (key : String) (payload : Json) :
    Linear none (Call.resume s key payload).program := by
  simp only [Call.program, Resume.deliver]
  split
  · exact .done (refused_idle _)
  · refine .take (fun e => .done (refused_idle _)) (.done (refused_idle _)) fun r =>
      .send rfl fun e => ?_
    cases e with
    | tokenExpired cause => exact .done (refused_idle _)
    | invalidToken cause => exact .done (refused_idle _)
    | failed cause => exact restore_linear key r (.failed cause)

end Calls

section Counting

theorem countP_insert_le {α : Type} (p : String × α → Bool) (d : Dict α) (key : String) (v : α) :
    (d.insert key v).countP p ≤ d.countP p + if p (key, v) then 1 else 0 := by
  induction d with
  | nil => simp [Dict.insert, List.countP_cons]
  | cons e rest ih =>
    obtain ⟨k, w⟩ := e
    unfold Dict.insert
    split
    · simp only [List.countP_cons]
      omega
    · split <;> simp only [List.countP_cons] <;> omega

theorem countP_erase_add_le {α : Type} (p : String × α → Bool) {d : Dict α} {key : String} {v : α}
    (h : d.get? key = some v) :
    (d.erase key).countP p + (if p (key, v) then 1 else 0) ≤ d.countP p := by
  induction d with
  | nil => cases h
  | cons e rest ih =>
    obtain ⟨k, w⟩ := e
    by_cases hk : k = key
    · simp only [Dict.get?, hk, if_true, Option.some.injEq] at h
      subst hk h
      have hFewer : (Dict.erase rest k).countP p ≤ rest.countP p :=
        List.Sublist.countP_le List.filter_sublist
      have hGone : Dict.erase ((k, w) :: rest) k = Dict.erase rest k := by simp [Dict.erase]
      rw [hGone, List.countP_cons]
      omega
    · simp only [Dict.get?, hk, if_false] at h
      have hKept : Dict.erase ((k, w) :: rest) key = (k, w) :: Dict.erase rest key := by
        simp [Dict.erase, hk]
      have := ih h
      rw [hKept, List.countP_cons, List.countP_cons]
      omega

theorem count_save_le {store m : ContinuationMap} {now : Instant} {key : String}
    {record : ContinuationRecord} {ttlSeconds : UInt64}
    (h : store.save now key record ttlSeconds = .ok m) (token : String) :
    count m token ≤ count store token + if record.resumeToken = token then 1 else 0 := by
  unfold ContinuationMap.save at h
  split at h
  · cases h
  · rename_i expiry _
    cases h
    have hInserted := countP_insert_le (fun e => decide (e.2.record.resumeToken = token))
      (store.sweep now) key ⟨record, expiry⟩
    have hSwept : (store.sweep now).countP (fun e => e.2.record.resumeToken = token) ≤
        count store token := List.Sublist.countP_le List.filter_sublist
    simp only [decide_eq_true_eq] at hInserted
    exact Nat.le_trans hInserted (Nat.add_le_add_right hSwept _)

theorem count_take_le (store : ContinuationMap) (now : Instant) (key token : String) :
    count (store.take now key).2 token +
      (if ((store.take now key).1.any fun r => r.resumeToken = token) then 1 else 0) ≤
        count store token := by
  unfold ContinuationMap.take
  split
  · simp
  · rename_i e h
    have hErased := countP_erase_add_le (fun e => decide (e.2.record.resumeToken = token)) h
    simp only [decide_eq_true_eq] at hErased
    refine Nat.le_trans (Nat.add_le_add_left ?_ _) hErased
    split <;> simp

end Counting

/-- A call under way with the token that it owns. -/
structure Holding where
  owned : Option String
  thread : Thread

/-- The call goes on as the owner of its token, or has resumed the execution with it. -/
def Holding.Lawful (o : Holding) : Prop :=
  (∃ r, o.thread.program = .done (.resumed (.ok r)) ∧ o.owned = none) ∨
    (Linear o.owned o.thread.program ∧
      ∀ r, o.thread.taken = some r → o.thread.isFinished = false → o.owned = some r.resumeToken)

def owners (holdings : List Holding) (token : String) : Nat :=
  holdings.countP fun o => o.owned = some token

/-- Every token has at most one owner, and is the token of at most as many resumed calls as signals.
-/
structure Balanced (holdings : List Holding) (sys : System) : Prop where
  threads : holdings.map Holding.thread = sys.threads
  lawful : ∀ o ∈ holdings, o.Lawful
  single : ∀ token, owners holdings token + sys.stored token + sys.accepted token ≤ 1
  signalled : ∀ token, sys.resumed token ≤ sys.accepted token

def share (owned : Option String) (token : String) : Nat := if owned = some token then 1 else 0

/-- A call after a reply: it is lawful with what it then owns, and the reply has made no token. -/
structure Served (w w' : World) (owned owned' : Option String) (thread : Thread) : Prop where
  lawful : Holding.Lawful ⟨owned', thread⟩
  single : ∀ token, share owned' token + count w'.store token + w'.acceptances token ≤
    share owned token + count w.store token + w.acceptances token
  signalled : ∀ token, (if thread.resumed token then 1 else 0) + w.acceptances token ≤
    w'.acceptances token

theorem resumed_of_idle {e : Ending} (hIdle : e.Idle) {taken : Option ContinuationRecord}
    (token : String) : Thread.resumed token ⟨.done e, taken⟩ = false := by
  unfold Thread.resumed
  split
  · rename_i r h
    cases h
    exact absurd rfl (hIdle r)
  · rfl

theorem resumed_of_linear {owned : Option String} {p : Program Ending} (h : Linear owned p)
    {taken : Option ContinuationRecord} (token : String) :
    Thread.resumed token ⟨p, taken⟩ = false := by
  cases h with
  | done hIdle => exact resumed_of_idle hIdle token
  | _ => rfl

theorem replies_quiet {w w' : World} {r : Request} {reply : Reply r} (hQuiet : IsQuiet r)
    (h : w.Replies r reply w') (taken : Option ContinuationRecord) :
    w' = w ∧ Thread.takenAfter taken r reply = taken := by
  cases r <;> first | exact ⟨h, rfl⟩ | exact absurd hQuiet id

section Serving

variable {w w' : World} {taken : Option ContinuationRecord}

theorem served_quiet {owned : Option String} {r : Request} {next : Reply r → Program Ending}
    {reply : Reply r} (hQuiet : IsQuiet r) (hLinear : ∀ reply, Linear owned (next reply))
    (hOwn : ∀ record : ContinuationRecord, taken = some record → owned = some record.resumeToken)
    (h : w.Replies r reply w') :
    Served w w' owned owned ⟨next reply, Thread.takenAfter taken r reply⟩ := by
  obtain ⟨rfl, hKept⟩ := replies_quiet hQuiet h taken
  rw [hKept]
  refine ⟨.inr ⟨hLinear reply, fun record ht _ => hOwn record ht⟩, fun _ => Nat.le_refl _, ?_⟩
  intro token
  simp [resumed_of_linear (hLinear reply) token]

/-- Saving hands the token of a call over to the store, or drops it. -/
theorem served_save {key : String} {record : ContinuationRecord} {ttlSeconds : UInt64}
    {next : Reply (.saveContinuation key record ttlSeconds) → Program Ending}
    {reply : Reply (.saveContinuation key record ttlSeconds)}
    (hEnds : ∃ e, next reply = .done e ∧ e.Idle)
    (h : w.Replies (.saveContinuation key record ttlSeconds) reply w') :
    Served w w' (some record.resumeToken) none ⟨next reply, taken⟩ := by
  obtain ⟨e, he, hIdle⟩ := hEnds
  rw [he]
  refine ⟨.inr ⟨.done hIdle, fun _ _ hf => by cases hf⟩, ?_, ?_⟩
  · intro t
    match reply with
    | .ok () =>
      obtain ⟨now, m, hm, rfl⟩ := h
      have hAdded := count_save_le hm t
      simp only [share, World.acceptances, Option.some.injEq] at hAdded ⊢
      simp only [reduceCtorEq, if_false]
      omega
    | .error _ =>
      cases h
      simp only [share, reduceCtorEq, if_false]
      omega
  · intro t
    have hSame : w'.accepted = w.accepted := by
      match reply with
      | .ok () =>
        obtain ⟨now, m, hm, rfl⟩ := h
        rfl
      | .error _ =>
        cases h
        rfl
    simp [resumed_of_idle hIdle t, World.acceptances, hSame]

/-- Taking hands the token of a record over from the store to the call. -/
theorem served_take {key : String} {next : Reply (.takeContinuation key) → Program Ending}
    {reply : Reply (.takeContinuation key)} (hFailed : ∀ e, Linear none (next (.error e)))
    (hMissing : Linear none (next (.ok none)))
    (hFound : ∀ r : ContinuationRecord, Linear (some r.resumeToken) (next (.ok (some r))))
    (hOwn : ∀ record : ContinuationRecord, taken = some record → none = some record.resumeToken)
    (h : w.Replies (.takeContinuation key) reply w') :
    ∃ owned', Served w w' none owned'
      ⟨next reply, Thread.takenAfter taken (.takeContinuation key) reply⟩ := by
  match reply with
  | .error e =>
    cases h
    refine ⟨none, .inr ⟨hFailed e, fun record ht _ => hOwn record ht⟩, fun _ => Nat.le_refl _, ?_⟩
    intro t
    simp [resumed_of_linear (hFailed e) t]
  | .ok none =>
    obtain ⟨now, ha, rfl⟩ := h
    refine ⟨none, .inr ⟨hMissing, fun record ht _ => hOwn record ht⟩, ?_, ?_⟩
    · intro t
      have := count_take_le w.store now key t
      simp only [share, World.acceptances, reduceCtorEq, if_false]
      omega
    · intro t
      simp [resumed_of_linear hMissing t, World.acceptances]
  | .ok (some record) =>
    obtain ⟨now, ha, rfl⟩ := h
    refine ⟨some record.resumeToken, .inr ⟨hFound record, ?_⟩, ?_, ?_⟩
    · intro other ht _
      cases ht
      rfl
    · intro t
      have := count_take_le w.store now key t
      rw [← ha] at this
      simp only [share, World.acceptances, Option.any_some, decide_eq_true_eq, Option.some.injEq,
        reduceCtorEq, if_false] at this ⊢
      omega
    · intro t
      simp [resumed_of_linear (hFound record) t, World.acceptances]

/-- A signal hands the token of the call over to those that were accepted, or leaves it. -/
theorem served_send {record : ContinuationRecord} {payload : Json}
    {next : Reply (.sendSignal record.resumeToken payload) → Program Ending}
    {reply : Reply (.sendSignal record.resumeToken payload)}
    (hAccepted : next (.ok ()) = .done (.resumed (.ok record)))
    (hRefused : ∀ e, Linear (some record.resumeToken) (next (.error e)))
    (hOwn : ∀ r : ContinuationRecord, taken = some r →
      some record.resumeToken = some r.resumeToken)
    (h : w.Replies (.sendSignal record.resumeToken payload) reply w') :
    ∃ owned', Served w w' (some record.resumeToken) owned' ⟨next reply, taken⟩ := by
  match reply with
  | .error e =>
    cases h
    refine ⟨some record.resumeToken, .inr ⟨hRefused e, fun r ht _ => hOwn r ht⟩,
      fun _ => Nat.le_refl _, ?_⟩
    intro t
    simp [resumed_of_linear (hRefused e) t]
  | .ok () =>
    cases h
    rw [hAccepted]
    refine ⟨none, .inl ⟨record, rfl, rfl⟩, ?_, ?_⟩
    · intro t
      simp only [share, World.acceptances, List.countP_cons, decide_eq_true_eq, Option.some.injEq,
        reduceCtorEq, if_false]
      omega
    · intro t
      simp only [Thread.resumed, World.acceptances, List.countP_cons, decide_eq_true_eq]
      omega

theorem served {owned : Option String} {r : Request} {next : Reply r → Program Ending}
    {reply : Reply r} (hLinear : Linear owned (.ask r next))
    (hOwn : ∀ record : ContinuationRecord, taken = some record → owned = some record.resumeToken)
    (h : w.Replies r reply w') :
    ∃ owned', Served w w' owned owned' ⟨next reply, Thread.takenAfter taken r reply⟩ := by
  cases hLinear with
  | other hQuiet hLinear => exact ⟨owned, served_quiet hQuiet hLinear hOwn h⟩
  | save hSame hEnds =>
    subst hSame
    exact ⟨none, served_save (hEnds reply) h⟩
  | take hFailed hMissing hFound => exact served_take hFailed hMissing hFound hOwn h
  | send hAccepted hRefused => exact served_send hAccepted hRefused hOwn h

end Serving

theorem owners_append (before after : List Holding) (o : Holding) (token : String) :
    owners (before ++ o :: after) token =
      owners before token + share o.owned token + owners after token := by
  simp only [owners, share, List.countP_append, List.countP_cons, decide_eq_true_eq]
  omega

/-- One reply keeps every token with at most one owner. -/
theorem balanced_step {holdings : List Holding} {sys sys' : System} (h : Balanced holdings sys)
    (hLast : System.Step sys sys') : ∃ holdings', Balanced holdings' sys' := by
  cases hLast with
  | @serve before after r next taken w w' reply hReplies =>
    obtain ⟨hb, rest, rfl, hBefore, hRest⟩ := List.map_eq_append_iff.mp h.threads
    obtain ⟨o, ha, rfl, ho, hAfter⟩ := List.map_eq_cons_iff.mp hRest
    obtain ⟨owned, thread⟩ := o
    cases ho
    have hLawful := h.lawful ⟨owned, ⟨.ask r next, taken⟩⟩ (by simp)
    rcases hLawful with ⟨_, hp, _⟩ | ⟨hLinear, hOwn⟩
    · cases hp
    obtain ⟨owned', s⟩ : ∃ owned', Served w w' owned owned'
        ⟨next reply, Thread.takenAfter taken r reply⟩ :=
      served hLinear (fun record ht => hOwn record ht rfl) hReplies
    refine ⟨hb ++ ⟨owned', ⟨next reply, Thread.takenAfter taken r reply⟩⟩ :: ha, ?_, ?_, ?_, ?_⟩
    · simp only [List.map_append, List.map_cons, hBefore, hAfter]
    · intro o hMem
      rcases List.mem_append.mp hMem with hMem | hMem
      · exact h.lawful o (List.mem_append_left _ hMem)
      · rcases List.mem_cons.mp hMem with rfl | hMem
        · exact s.lawful
        · exact h.lawful o (List.mem_append_right _ (List.mem_cons_of_mem _ hMem))
    · intro token
      have hWas := h.single token
      have hNow := s.single token
      rw [owners_append] at hWas ⊢
      simp only [System.stored, System.accepted] at hWas ⊢
      omega
    · intro token
      have hWas := h.signalled token
      have hNow := s.signalled token
      have hWaiting : Thread.resumed token ⟨.ask r next, taken⟩ = false := rfl
      simp only [System.resumed, System.accepted, List.countP_append, List.countP_cons, hWaiting,
        Bool.false_eq_true, if_false] at hWas ⊢
      omega

theorem balanced_start {store : ContinuationMap} {calls : List Call}
    (hOwn : (tokens store ++ calls.filterMap Call.token?).Nodup) :
    Balanced (calls.map fun c => ⟨c.token?, ⟨c.program, none⟩⟩) (System.start store calls) := by
  refine ⟨?_, ?_, ?_, ?_⟩
  · simp [System.start]
  · intro o hMem
    obtain ⟨c, -, rfl⟩ := List.mem_map.mp hMem
    refine .inr ⟨?_, fun _ ht => by cases ht⟩
    cases c with
    | suspend s w state stepId resumeToken => exact suspend_linear s w state stepId resumeToken
    | resume s key payload => exact deliver_linear s key payload
  · intro token
    have hOnce := List.nodup_iff_count.mp hOwn token
    have hShared : owners (calls.map fun c => ⟨c.token?, ⟨c.program, none⟩⟩) token =
        (calls.filterMap Call.token?).count token := by
      rw [owners, List.countP_map, List.count_filterMap]
      exact List.countP_congr fun c _ => by simp
    have hStored : count store token = (tokens store).count token := by
      rw [count, tokens, List.count_eq_countP, List.countP_map]
      exact List.countP_congr fun e _ => by simp
    rw [List.count_append] at hOnce
    rw [hShared, System.stored, System.start, hStored]
    simp only [System.accepted, World.acceptances, List.countP_nil]
    omega
  · intro token
    have hNoneResumed (c : Call) : Thread.resumed token ⟨c.program, none⟩ = false := by
      cases c with
      | suspend s w state stepId resumeToken =>
        exact resumed_of_linear (suspend_linear s w state stepId resumeToken) token
      | resume s key payload => exact resumed_of_linear (deliver_linear s key payload) token
    simp [System.resumed, System.start, hNoneResumed, Function.comp_def]

theorem balanced_runs {store : ContinuationMap} {calls : List Call}
    (hOwn : (tokens store ++ calls.filterMap Call.token?).Nodup) {sys : System}
    (h : System.Runs (System.start store calls) sys) : ∃ holdings, Balanced holdings sys := by
  induction h with
  | refl => exact ⟨_, balanced_start hOwn⟩
  | step _ hLast ih =>
    obtain ⟨holdings, hBalanced⟩ := ih
    exact balanced_step hBalanced hLast

theorem held_le_owners {holdings : List Holding} {sys : System} (h : Balanced holdings sys)
    (token : String) : sys.held token ≤ owners holdings token := by
  rw [System.held, ← h.threads, List.countP_map, owners]
  apply List.countP_mono_left
  intro o hMem hHolds
  simp only [Function.comp_apply, Thread.holds, Bool.and_eq_true, Bool.not_eq_true',
    Option.any_eq_true, decide_eq_true_eq] at hHolds ⊢
  obtain ⟨hUnfinished, r, hTaken, rfl⟩ := hHolds
  rcases h.lawful o hMem with ⟨_, hDone, _⟩ | ⟨_, hOwn⟩
  · simp [Thread.isFinished, hDone] at hUnfinished
  · exact hOwn r hTaken hUnfinished

/-- However suspending and resuming calls interleave, and whatever fails: of the record with a token
there is at most one copy, in the store or with a call that has taken it; at most one call resumes
with a token and at most one signal with it is accepted, and then the store has no such record. An
event that is too large asks for nothing at all. -/
theorem record_has_one_copy {store : ContinuationMap} {calls : List Call}
    (hOwn : (tokens store ++ calls.filterMap Call.token?).Nodup) {sys : System}
    (h : System.Runs (System.start store calls) sys) :
    (∀ token, sys.stored token + sys.held token ≤ 1 ∧ sys.resumed token ≤ 1 ∧
        sys.accepted token ≤ 1 ∧ (0 < sys.resumed token → sys.stored token = 0)) ∧
      ∀ s key payload, s.maxPayloadBytes.toNat < payload.size →
        (Call.resume s key payload).program = .done (.resumed (.error
          (.payloadTooLarge (UInt64.ofNat payload.size) s.maxPayloadBytes))) := by
  obtain ⟨holdings, hBalanced⟩ := balanced_runs hOwn h
  constructor
  · intro token
    have hHeld := held_le_owners hBalanced token
    have hSingle := hBalanced.single token
    have hSignalled := hBalanced.signalled token
    refine ⟨?_, ?_, ?_, ?_⟩ <;> omega
  · intro s key payload hLarge
    simp only [Call.program, Resume.deliver, hLarge, if_true]
    rfl

def delivery : ContinuationRecord where
  correlationKey := "delivery 1"
  resumeToken := "token 1"
  executionId := "order 1"
  stepId := "delivery"
  createdAt := ⟨0, 0⟩
  ttlSeconds := 60

def waiting : ContinuationMap := ⟨[("delivery 1", ⟨delivery, 60000000000⟩)]⟩

def rivals : List Call := [.resume {} "delivery 1" .null, .resume {} "delivery 1" .null]

/-- The first rival takes the record and puts it back after its signal failed, the second one takes
it and resumes the execution. -/
theorem rivals_run : ∃ sys, System.Runs (System.start waiting rivals) sys ∧
    sys.resumed "token 1" = 1 := by
  let rival : Thread := ⟨(Call.resume {} "delivery 1" .null).program, none⟩
  let refused : Thread :=
    ⟨.done (.resumed (.error (.signalFailed (.failed "busy")))), some delivery⟩
  have hBegun : System.Runs (System.start waiting rivals) (System.start waiting rivals) := .refl
  have hTaken :=
    hBegun.step (@System.Step.serve [] [rival] (.takeContinuation "delivery 1") _ none _
    ⟨⟨[]⟩, []⟩ (.ok (some delivery)) ⟨⟨0, 0⟩, rfl, rfl⟩)
  have hFailed := hTaken.step (@System.Step.serve [] [rival] (.sendSignal "token 1" .null) _
    (some delivery) _ _ (.error (.failed "busy")) rfl)
  have hAsked := hFailed.step (@System.Step.serve [] [rival] .now _ (some delivery) _ _ ⟨0, 0⟩ rfl)
  have hRestored := hAsked.step (@System.Step.serve [] [rival]
    (.saveContinuation "delivery 1" delivery 60) _ (some delivery) _ ⟨waiting, []⟩ (.ok ())
    ⟨⟨0, 0⟩, _, rfl, rfl⟩)
  have hRetaken :=
    hRestored.step (@System.Step.serve [refused] [] (.takeContinuation "delivery 1") _
      none _ ⟨⟨[]⟩, []⟩ (.ok (some delivery)) ⟨⟨0, 0⟩, rfl, rfl⟩)
  have hAccepted := hRetaken.step (@System.Step.serve [refused] [] (.sendSignal "token 1" .null) _
    (some delivery) _ _ (.ok ()) rfl)
  exact ⟨_, hAccepted, rfl⟩

theorem rivals_have_one_copy : (tokens waiting ++ rivals.filterMap Call.token?).Nodup ∧
    ∃ sys, System.Runs (System.start waiting rivals) sys ∧ sys.resumed "token 1" = 1 ∧
      sys.held "token 1" ≤ 1 ∧ sys.stored "token 1" = 0 := by
  have hOwn : (tokens waiting ++ rivals.filterMap Call.token?).Nodup := by decide
  obtain ⟨sys, hRun, hResumed⟩ := rivals_run
  obtain ⟨hCopies, -, -, hNoneLeft⟩ := (record_has_one_copy hOwn hRun).1 "token 1"
  exact ⟨hOwn, sys, hRun, hResumed, by omega, hNoneLeft (by omega)⟩

end Stepwise.Continuations
