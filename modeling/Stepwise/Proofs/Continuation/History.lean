import Stepwise.Proofs.Continuation.Concurrent
import Stepwise.Proofs.Program.Requests

/-!
# Histories of the store

What the store of continuations has gone through. An interleaving is read as the list of what its
calls did to the store, each with the clock that the store saw; and from what a call did so far it
is known what it can do next. A call that suspends saves once, and a call that resumes saves only
what it has taken under its own key.
-/

namespace Stepwise.Continuations

set_option autoImplicit false

open Program

/-- What a request does to the store. -/
inductive Deed where
  | saved (key : String) (record : ContinuationRecord) (ttlSeconds : UInt64) (now : Instant)
  | took (key : String) (answer : Option ContinuationRecord) (now : Instant)
  | other

/-- A deed, and the position of the call that did it. -/
structure Event where
  call : Nat
  deed : Deed

namespace Deed

/-- What a request does when it gets a reply. One that fails does nothing. -/
def of (now : Instant) : (r : Request) → Reply r → Deed
  | .saveContinuation key record ttlSeconds, reply =>
    match (reply : Except EngineError Unit) with
    | .ok () => .saved key record ttlSeconds now
    | .error _ => .other
  | .takeContinuation key, reply =>
    match (reply : Except EngineError (Option ContinuationRecord)) with
    | .ok answer => .took key answer now
    | .error _ => .other
  | _, _ => .other

def isSave : Deed → Bool
  | .saved _ _ _ _ => true
  | _ => false

def savesUnder (key : String) : Deed → Bool
  | .saved under _ _ _ => under = key
  | _ => false

theorem isSave_of_savesUnder {key : String} {d : Deed} (h : d.savesUnder key = true) :
    d.isSave = true := by
  cases d with
  | saved under record ttlSeconds now => rfl
  | took under answer now => cases h
  | other => cases h

end Deed

/-- A reply to a request at a time of the clock, and the world after it. -/
def World.RepliesAt (now : Instant) (w : World) : (r : Request) → Reply r → World → Prop
  | .saveContinuation key record ttlSeconds, reply, w' =>
    match (reply : Except EngineError Unit) with
    | .ok () => ∃ m, w.store.save now key record ttlSeconds = .ok m ∧ w' = { w with store := m }
    | .error _ => w' = w
  | .takeContinuation key, reply, w' =>
    match (reply : Except EngineError (Option ContinuationRecord)) with
    | .ok answer => answer = (w.store.take now key).1 ∧
        w' = { w with store := (w.store.take now key).2 }
    | .error _ => w' = w
  | r, reply, w' => w.Replies r reply w'

theorem replies_iff {w w' : World} {r : Request} {reply : Reply r} :
    w.Replies r reply w' ↔ ∃ now, w.RepliesAt now r reply w' := by
  have hTimeless {p : Prop} : p ↔ ∃ _ : Instant, p := ⟨fun h => ⟨⟨0, 0⟩, h⟩, fun ⟨_, h⟩ => h⟩
  match r, reply with
  | .saveContinuation key record ttlSeconds, .ok () => exact Iff.rfl
  | .saveContinuation key record ttlSeconds, .error e => exact hTimeless
  | .takeContinuation key, .ok answer => exact Iff.rfl
  | .takeContinuation key, .error e => exact hTimeless
  | .getObject _ _, _ => exact hTimeless
  | .putObject _ _ _, _ => exact hTimeless
  | .findFlow _ _, _ => exact hTimeless
  | .callHandler _ _, _ => exact hTimeless
  | .findRegistration _, _ => exact hTimeless
  | .invokeRemote _ _, _ => exact hTimeless
  | .enqueueStart _, _ => exact hTimeless
  | .sendSignal _ _, _ => exact hTimeless
  | .freshId, _ => exact hTimeless
  | .now, _ => exact hTimeless

/-- An interleaving, with the events of it in order. -/
inductive Logged (first : System) : List Event → System → Prop where
  | refl : Logged first [] first
  | step {events : List Event} {before after : List Thread} {r : Request}
      {next : Reply r → Program Ending} {taken : Option ContinuationRecord} {w w' : World}
      (h : Logged first events ⟨before ++ ⟨.ask r next, taken⟩ :: after, w⟩) (now : Instant)
      (reply : Reply r) (hReplies : w.RepliesAt now r reply w') :
      Logged first (events ++ [⟨before.length, .of now r reply⟩])
        ⟨before ++ ⟨next reply, Thread.takenAfter taken r reply⟩ :: after, w'⟩

/-- Every interleaving has a log, and only interleavings have one. -/
theorem runs_iff_logged {first sys : System} :
    System.Runs first sys ↔ ∃ events, Logged first events sys := by
  constructor
  · intro h
    induction h with
    | refl => exact ⟨[], .refl⟩
    | step _ hLast ih =>
      obtain ⟨events, hLogged⟩ := ih
      cases hLast with
      | serve reply hReplies =>
        obtain ⟨now, hReplies⟩ := replies_iff.mp hReplies
        exact ⟨_, hLogged.step now reply hReplies⟩
  · rintro ⟨events, hLogged⟩
    induction hLogged with
    | refl => exact .refl
    | step _ now reply hReplies ih => exact ih.step (.serve reply (replies_iff.mpr ⟨now, hReplies⟩))

theorem Logged.trans {first mid sys : System} {before after : List Event}
    (h : Logged first before mid) (hMore : Logged mid after sys) :
    Logged first (before ++ after) sys := by
  induction hMore with
  | refl => simpa using h
  | step _ now reply hReplies ih =>
    rw [← List.append_assoc]
    exact ih.step now reply hReplies

theorem logged_append {first sys : System} {before after : List Event} :
    Logged first (before ++ after) sys ↔ ∃ mid, Logged first before mid ∧ Logged mid after sys := by
  constructor
  · intro h
    generalize hAll : before ++ after = events at h
    induction h generalizing after with
    | refl =>
      obtain ⟨rfl, rfl⟩ := List.append_eq_nil_iff.mp hAll
      exact ⟨_, .refl, .refl⟩
    | step h now reply hReplies ih =>
      rcases List.eq_nil_or_concat after with rfl | ⟨rest, e, rfl⟩
      · rw [List.append_nil] at hAll
        subst hAll
        exact ⟨_, h.step now reply hReplies, .refl⟩
      · rw [List.concat_eq_append, ← List.append_assoc] at hAll
        obtain ⟨hAll, hSame⟩ := List.append_inj' hAll rfl
        obtain ⟨mid, hFirst, hLast⟩ := ih hAll
        rw [List.concat_eq_append, hSame]
        exact ⟨mid, hFirst, hLast.step now reply hReplies⟩
  · rintro ⟨mid, hFirst, hLast⟩
    exact hFirst.trans hLast

def KeepsStore : Request → Prop
  | .saveContinuation _ _ _ | .takeContinuation _ => False
  | _ => True

theorem of_keepsStore {now : Instant} {r : Request} {reply : Reply r} (hKeeps : KeepsStore r) :
    Deed.of now r reply = .other := by
  cases r <;> first | rfl | cases hKeeps

section Calls

variable {α β ε : Type}

/-- A call that is going to save a record for as long as it may live, and to answer it then. -/
inductive Suspending : Program Ending → Prop where
  | failed (e : StepError) : Suspending (.done (.suspended (.error e)))
  | save {key : String} {record : ContinuationRecord} {ttlSeconds : UInt64}
      {next : Reply (.saveContinuation key record ttlSeconds) → Program Ending}
      (hUnder : record.correlationKey = key) (hLife : record.ttlSeconds = ttlSeconds)
      (hSaved : next (.ok ()) = .done (.suspended (.ok record)))
      (hRefused : ∀ e, ∃ e', next (.error e) = .done (.suspended (.error e'))) :
      Suspending (.ask (.saveContinuation key record ttlSeconds) next)
  | other {r : Request} {next : Reply r → Program Ending} (hKeeps : KeepsStore r)
      (h : ∀ reply, Suspending (next reply)) : Suspending (.ask r next)

/-- A call that resumes under a key, and has taken this record. It takes at most one, and saves only
this one. -/
inductive Resuming (key : String) : Option ContinuationRecord → Program Ending → Prop where
  | done {held : Option ContinuationRecord} (outcome : Except ResumeError ContinuationRecord) :
      Resuming key held (.done (.resumed outcome))
  | take {next : Reply (.takeContinuation key) → Program Ending}
      (hFailed : ∀ e, Resuming key none (next (.error e)))
      (hAnswered : ∀ answer, Resuming key answer (next (.ok answer))) :
      Resuming key none (.ask (.takeContinuation key) next)
  | save {record : ContinuationRecord} {ttlSeconds : UInt64}
      {next : Reply (.saveContinuation key record ttlSeconds) → Program Ending}
      (h : ∀ reply, Resuming key (some record) (next reply)) :
      Resuming key (some record) (.ask (.saveContinuation key record ttlSeconds) next)
  | other {held : Option ContinuationRecord} {r : Request} {next : Reply r → Program Ending}
      (hKeeps : KeepsStore r) (h : ∀ reply, Resuming key held (next reply)) :
      Resuming key held (.ask r next)

theorem suspending_bind {p : Program α} {f : α → Program Ending} (hKeeps : Only KeepsStore p)
    (h : ∀ a, Suspending (f a)) : Suspending (p >>= f) := by
  show Suspending (p.bind f)
  induction p with
  | done a => exact h a
  | ask r next ih => exact .other hKeeps.1 fun reply => ih reply (hKeeps.2 reply)

theorem correlationKey_keepsStore (w : Wait) (s : Settings) (scope : Json) :
    Only KeepsStore (w.correlationKey s scope).run := by
  refine only_mono ?_ (w.correlationKey_reads s scope)
  intro r hr
  cases r <;> trivial

theorem suspend_suspending (s : Settings) (w : Wait) (state : ExecutionState)
    (stepId resumeToken : String) :
    Suspending (Call.suspend s w state stepId resumeToken).program := by
  simp only [Call.program, Wait.suspend]
  split
  · exact .failed _
  · rw [ExceptT.run_bind, map_bind]
    apply suspending_bind (correlationKey_keepsStore w s state.scope)
    intro key
    cases key with
    | error e => exact .failed e
    | ok key => exact .other trivial fun createdAt => .save rfl rfl rfl fun e => ⟨_, rfl⟩

theorem deliver_resuming (s : Settings) (key : String) (payload : Json) :
    Resuming key none (Call.resume s key payload).program := by
  simp only [Call.program, Resume.deliver]
  split
  · exact .done _
  · refine .take (fun e => .done _) fun answer => ?_
    cases answer with
    | none => exact .done _
    | some r =>
      refine .other trivial fun reply => ?_
      match reply with
      | .ok () => exact .done _
      | .error (.tokenExpired cause) => exact .done _
      | .error (.invalidToken cause) => exact .done _
      | .error (.failed cause) => exact .other trivial fun now => .save fun reply => .done _

end Calls

def SavesNothing (i : Nat) (events : List Event) : Prop :=
  ∀ e ∈ events, e.call = i → e.deed.isSave = false

/-- What the program of a call can be after these events. -/
inductive Follows (i : Nat) (events : List Event) : Call → Program Ending → Prop where
  | suspending {s : Settings} {w : Wait} {state : ExecutionState} {stepId resumeToken : String}
      {p : Program Ending} (h : Suspending p) (hYet : SavesNothing i events) :
      Follows i events (.suspend s w state stepId resumeToken) p
  | suspended {s : Settings} {w : Wait} {state : ExecutionState} {stepId resumeToken : String}
      {record : ContinuationRecord} {before after : List Event} {now : Instant}
      (hSaved : events =
        before ++ ⟨i, .saved record.correlationKey record record.ttlSeconds now⟩ :: after)
      (hOnce : SavesNothing i (before ++ after)) :
      Follows i events (.suspend s w state stepId resumeToken) (.done (.suspended (.ok record)))
  | resuming {s : Settings} {key : String} {payload : Json} {held : Option ContinuationRecord}
      {p : Program Ending} (h : Resuming key held p)
      (hTook : ∀ record, held = some record → ∃ now, ⟨i, .took key (some record) now⟩ ∈ events) :
      Follows i events (.resume s key payload) p

theorem savesNothing_append {i : Nat} {events : List Event} {e : Event} :
    SavesNothing i (events ++ [e]) ↔
      SavesNothing i events ∧ (e.call = i → e.deed.isSave = false) := by
  simp [SavesNothing, or_imp, forall_and]

section Steps

variable {i : Nat} {events : List Event} {c : Call} {p : Program Ending}

/-- What another call does changes nothing. -/
theorem Follows.other (h : Follows i events c p) {e : Event} (hApart : e.call ≠ i) :
    Follows i (events ++ [e]) c p := by
  cases h with
  | suspending h hYet =>
    exact .suspending h (savesNothing_append.mpr ⟨hYet, fun hSame => absurd hSame hApart⟩)
  | suspended hSaved hOnce =>
    refine .suspended (by rw [hSaved, List.append_assoc, List.cons_append]) ?_
    rw [← List.append_assoc]
    exact savesNothing_append.mpr ⟨hOnce, fun hSame => absurd hSame hApart⟩
  | resuming h hTook =>
    refine .resuming h fun record hHeld => ?_
    obtain ⟨now, hMem⟩ := hTook record hHeld
    exact ⟨now, List.mem_append_left _ hMem⟩

/-- A reply takes a call from what it can be to what it can be then. -/
theorem Follows.serve {r : Request} {next : Reply r → Program Ending}
    (h : Follows i events c (.ask r next)) (now : Instant) (reply : Reply r) :
    Follows i (events ++ [⟨i, .of now r reply⟩]) c (next reply) := by
  cases h with
  | suspending h hYet =>
    cases h with
    | save hUnder hLife hSaved hRefused =>
      subst hUnder hLife
      match reply with
      | .ok () =>
        rw [hSaved]
        exact .suspended rfl (by simpa using hYet)
      | .error e =>
        obtain ⟨e', hFailed⟩ := hRefused e
        rw [hFailed]
        exact .suspending (.failed e') (savesNothing_append.mpr ⟨hYet, fun _ => rfl⟩)
    | other hKeeps h =>
      refine .suspending (h reply) (savesNothing_append.mpr ⟨hYet, fun _ => ?_⟩)
      rw [of_keepsStore hKeeps]
      rfl
  | @resuming _ key _ held _ h hTook =>
    have hKept (record : ContinuationRecord) (h : held = some record) (e : Event) :
        ∃ now, ⟨i, .took key (some record) now⟩ ∈ events ++ [e] := by
      obtain ⟨now, hMem⟩ := hTook record h
      exact ⟨now, List.mem_append_left _ hMem⟩
    cases h with
    | take hFailed hAnswered =>
      match reply with
      | .error e => exact .resuming (hFailed e) fun record h => nomatch h
      | .ok answer =>
        refine .resuming (hAnswered answer) fun record h => ⟨now, ?_⟩
        subst h
        exact List.mem_append_right _ (List.mem_singleton.mpr rfl)
    | save h => exact .resuming (h reply) fun record hHeld => hKept record hHeld _
    | other hKeeps h => exact .resuming (h reply) fun record hHeld => hKept record hHeld _

end Steps

theorem getElem?_of_ne {α : Type} (before after : List α) (x y : α) {i : Nat}
    (hApart : i ≠ before.length) : (before ++ x :: after)[i]? = (before ++ y :: after)[i]? := by
  rcases Nat.lt_or_gt_of_ne hApart with hLess | hMore
  · rw [List.getElem?_append_left hLess, List.getElem?_append_left hLess]
  · have hRight := Nat.le_of_lt hMore
    rw [List.getElem?_append_right hRight, List.getElem?_append_right hRight]
    obtain ⟨n, hPosition⟩ : ∃ n, i - before.length = n + 1 := ⟨i - before.length - 1, by omega⟩
    rw [hPosition, List.getElem?_cons_succ, List.getElem?_cons_succ]

/-- Every call of an interleaving follows from what it did. -/
theorem follows_of_logged {store : ContinuationMap} {calls : List Call} {events : List Event}
    {sys : System} (h : Logged (System.start store calls) events sys) {i : Nat} {t : Thread}
    (hAt : sys.threads[i]? = some t) : ∃ c, calls[i]? = some c ∧ Follows i events c t.program := by
  induction h generalizing t with
  | refl =>
    simp only [System.start, List.getElem?_map, Option.map_eq_some_iff] at hAt
    obtain ⟨c, hc, rfl⟩ := hAt
    refine ⟨c, hc, ?_⟩
    cases c with
    | suspend s w state stepId resumeToken =>
      exact .suspending (suspend_suspending s w state stepId resumeToken) (by simp [SavesNothing])
    | resume s key payload =>
      exact .resuming (deliver_resuming s key payload) fun record h => nomatch h
  | @step events before after r next taken w w' _ now reply hReplies ih =>
    by_cases hSame : i = before.length
    · subst hSame
      simp only [List.getElem?_append_right (Nat.le_refl _), Nat.sub_self, List.getElem?_cons_zero,
        Option.some.injEq] at hAt ih
      obtain ⟨c, hc, hFollows⟩ := ih rfl
      subst hAt
      exact ⟨c, hc, hFollows.serve now reply⟩
    · have hOther := getElem?_of_ne before after ⟨next reply, Thread.takenAfter taken r reply⟩
        ⟨.ask r next, taken⟩ hSame
      obtain ⟨c, hc, hFollows⟩ := ih (hOther ▸ hAt)
      exact ⟨c, hc, hFollows.other (Ne.symm hSame)⟩

end Stepwise.Continuations
