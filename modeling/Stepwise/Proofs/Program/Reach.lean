import Stepwise.Program.Basic

/-!
# Reachable values

The values that a program can end with, when the replies are restricted. What every reply of the
surroundings keeps to is a relation between requests and replies; reaching a value is read along the
shape of the program, through binds, failures and changes of the failure.
-/

namespace Stepwise

set_option autoImplicit false

/-- What replies may be, request by request. -/
abbrev Allowed := (r : Request) → Reply r → Prop

namespace Program

variable {α β ε δ : Type} {allowed : Allowed}

/-- The values a program can end with when every reply is allowed. -/
inductive ReachesUnder (allowed : Allowed) : Program α → α → Prop where
  | done (a : α) : ReachesUnder allowed (.done a) a
  | ask {r : Request} {next : Reply r → Program α} {a : α} (reply : Reply r)
      (hOk : allowed r reply) (h : ReachesUnder allowed (next reply) a) :
      ReachesUnder allowed (.ask r next) a

@[simp] theorem reachesUnder_done {a b : α} : ReachesUnder allowed (.done a) b ↔ b = a :=
  ⟨fun h => by cases h; rfl, fun h => h ▸ .done _⟩

theorem reachesUnder_ask {r : Request} {next : Reply r → Program α} {a : α} :
    ReachesUnder allowed (.ask r next) a ↔
      ∃ reply, allowed r reply ∧ ReachesUnder allowed (next reply) a := by
  constructor
  · intro h
    cases h with
    | ask reply hOk h => exact ⟨reply, hOk, h⟩
  · rintro ⟨reply, hOk, h⟩
    exact .ask reply hOk h

@[simp] theorem reachesUnder_pure {a b : α} :
    ReachesUnder allowed (pure a : Program α) b ↔ b = a := reachesUnder_done

@[simp] theorem reachesUnder_bind {p : Program α} {f : α → Program β} {b : β} :
    ReachesUnder allowed (p >>= f) b ↔
      ∃ a, ReachesUnder allowed p a ∧ ReachesUnder allowed (f a) b := by
  show ReachesUnder allowed (p.bind f) b ↔ _
  induction p with
  | done a => simp [bind]
  | ask r next ih =>
    simp only [bind, reachesUnder_ask, ih]
    constructor
    · rintro ⟨reply, hOk, a, ha, hb⟩
      exact ⟨a, ⟨reply, hOk, ha⟩, hb⟩
    · rintro ⟨a, ⟨reply, hOk, ha⟩, hb⟩
      exact ⟨reply, hOk, a, ha, hb⟩

@[simp] theorem reachesUnder_map {p : Program α} {f : α → β} {b : β} :
    ReachesUnder allowed (f <$> p) b ↔ ∃ a, ReachesUnder allowed p a ∧ b = f a := by
  rw [map_eq_pure_bind, reachesUnder_bind]
  simp

@[simp] theorem reachesUnder_request {r : Request} {reply : Reply r} :
    ReachesUnder allowed (request r) reply ↔ allowed r reply := by
  simp only [request, reachesUnder_ask, reachesUnder_done]
  constructor
  · rintro ⟨_, hOk, rfl⟩
    exact hOk
  · exact fun hOk => ⟨reply, hOk, rfl⟩

/-- What a server can reply is reached, where the server keeps to what is allowed. -/
theorem reachesUnder_run {σ : Type} {serve : (r : Request) → σ → Reply r × σ}
    (hOk : ∀ r st, allowed r (serve r st).1) (p : Program α) (st : σ) :
    ReachesUnder allowed p (run serve p st).1 := by
  induction p generalizing st with
  | done a => exact .done a
  | ask r next ih => exact .ask _ (hOk r st) (ih _ _)

theorem ReachesUnder.mono {wider : Allowed} (h : ∀ r reply, allowed r reply → wider r reply)
    {p : Program α} {a : α} (hReaches : ReachesUnder allowed p a) : ReachesUnder wider p a := by
  induction hReaches with
  | done a => exact .done a
  | ask reply hOk _ ih => exact .ask reply (h _ reply hOk) ih

def calm (f : Flow) : (r : Request) → Unit → Reply r × Unit
  | .getObject _ _, st => (.error (.objectStore "nothing is stored"), st)
  | .putObject _ _ _, st => (.error (.objectStore "nothing can be stored"), st)
  | .findFlow _ _, st => (.ok (some f), st)
  | .callHandler _ _, st => (some (.ok .null), st)
  | .findRegistration _, st => (.ok none, st)
  | .invokeRemote _ _, st => (none, st)
  | .enqueueStart _, st => (.ok (), st)
  | .saveContinuation _ _ _, st => (.ok (), st)
  | .takeContinuation _, st => (.ok none, st)
  | .sendSignal _ _, st => (.ok (), st)
  | .freshId, st => ("execution", st)
  | .now, st => (⟨0, 0⟩, st)

/-- The replies of calm surroundings. -/
def Calmly (f : Flow) : Allowed := fun r reply => reply = (calm f r ()).1

theorem reachesUnder_calm {α : Type} (f : Flow) (p : Program α) :
    ReachesUnder (Calmly f) p (run (calm f) p ()).1 :=
  reachesUnder_run (fun _ _ => rfl) p ()

theorem reachesUnder_calm_ok {f : Flow} {p : ExceptT ε Program α} {a : α}
    (h : (run (calm f) p.run ()).1.toOption = some a) : ReachesUnder (Calmly f) p.run (.ok a) := by
  have hReached := reachesUnder_calm f p.run
  revert h hReached
  cases (run (calm f) p.run ()).1 with
  | error e => simp [Except.toOption]
  | ok b => simp +contextual [Except.toOption]

section Failing

variable {p : ExceptT ε Program α} {f : α → ExceptT ε Program β}

@[simp] theorem reachesUnder_pure_ok {a b : α} :
    ReachesUnder allowed (pure a : ExceptT ε Program α).run (.ok b) ↔ b = a := by
  show ReachesUnder allowed (Program.done (Except.ok a)) _ ↔ _
  simp

@[simp] theorem reachesUnder_throw_ok {e : ε} {b : α} :
    ¬ ReachesUnder allowed (throw e : ExceptT ε Program α).run (.ok b) := by
  show ¬ ReachesUnder allowed (Program.done (Except.error e)) _
  simp

@[simp] theorem reachesUnder_bind_ok {b : β} :
    ReachesUnder allowed (p >>= f).run (.ok b) ↔
      ∃ a, ReachesUnder allowed p.run (.ok a) ∧ ReachesUnder allowed (f a).run (.ok b) := by
  rw [ExceptT.run_bind, reachesUnder_bind]
  constructor
  · rintro ⟨a | a, ha, hb⟩
    · simp at hb
    · exact ⟨a, ha, hb⟩
  · rintro ⟨a, ha, hb⟩
    exact ⟨.ok a, ha, hb⟩

@[simp] theorem reachesUnder_adapt_ok {g : ε → δ} {a : α} :
    ReachesUnder allowed (ExceptT.adapt g p).run (.ok a) ↔ ReachesUnder allowed p.run (.ok a) := by
  show ReachesUnder allowed (Except.mapError g <$> p.run) _ ↔ _
  rw [reachesUnder_map]
  constructor
  · rintro ⟨b | b, hb, h⟩
    · cases h
    · obtain rfl : a = b := Except.ok.inj h
      exact hb
  · exact fun h => ⟨.ok a, h, rfl⟩

@[simp] theorem reachesUnder_lift_ok {q : Program α} {a : α} :
    ReachesUnder allowed (liftM q : ExceptT ε Program α).run (.ok a) ↔
    ReachesUnder allowed q a := by
  show ReachesUnder allowed (Except.ok <$> q) _ ↔ _
  simp

end Failing

end Program

namespace EngineProgram

variable {α : Type} {allowed : Allowed}

@[simp] theorem reachesUnder_asStep_ok {p : EngineProgram α} {a : α} :
    Program.ReachesUnder allowed p.asStep.run (.ok a) ↔
    Program.ReachesUnder allowed p.run (.ok a) :=
  Program.reachesUnder_adapt_ok

@[simp] theorem reachesUnder_ofExcept {r x : Except EngineError α} :
    Program.ReachesUnder allowed (ofExcept r).run x ↔ x = r := Program.reachesUnder_done

@[simp] theorem reachesUnder_findFlow {id : String} {version : UInt32}
    {reply : Except EngineError (Option Flow)} :
    Program.ReachesUnder allowed (findFlow id version).run reply ↔
      allowed (.findFlow id version) reply := Program.reachesUnder_request

end EngineProgram

end Stepwise
