import Stepwise.Proofs.Program.Reach
import Stepwise.Proofs.Program.Requests

/-!
# Logs of programs

What a program asks and is replied, in order. A log is read along the shape of the program, as a
reached value is; the log of a program that asks only some requests has only these.
-/

namespace Stepwise

set_option autoImplicit false

/-- A request and the reply to it. -/
structure Exchange where
  request : Request
  reply : Reply request

namespace Program

variable {α β ε δ : Type} {allowed : Allowed} {log : List Exchange}

/-- The program ends with the value after these exchanges, of which every reply is allowed. -/
inductive Exchanges (allowed : Allowed) : Program α → List Exchange → α → Prop where
  | done (a : α) : Exchanges allowed (.done a) [] a
  | ask {r : Request} {next : Reply r → Program α} {log : List Exchange} {a : α} (reply : Reply r)
      (hOk : allowed r reply) (h : Exchanges allowed (next reply) log a) :
      Exchanges allowed (.ask r next) (⟨r, reply⟩ :: log) a

theorem exchanges_pure {a b : α} : Exchanges allowed (pure a : Program α) log b ↔
    log = [] ∧ b = a := by
  constructor
  · intro h
    cases h
    exact ⟨rfl, rfl⟩
  · rintro ⟨rfl, rfl⟩
    exact .done _

theorem exchanges_request {r : Request} {reply : Reply r} :
    Exchanges allowed (request r) log reply ↔ allowed r reply ∧ log = [⟨r, reply⟩] := by
  constructor
  · intro h
    cases h with
    | ask reply hOk h =>
      cases h
      exact ⟨hOk, rfl⟩
  · rintro ⟨hOk, rfl⟩
    exact .ask reply hOk (.done reply)

theorem exchanges_bind {p : Program α} {f : α → Program β} {b : β} :
    Exchanges allowed (p >>= f) log b ↔ ∃ before a after, log = before ++ after ∧
      Exchanges allowed p before a ∧ Exchanges allowed (f a) after b := by
  show Exchanges allowed (p.bind f) log b ↔ _
  induction p generalizing log with
  | done a =>
    constructor
    · exact fun h => ⟨[], a, log, rfl, .done a, h⟩
    · rintro ⟨before, a, after, rfl, h, hRest⟩
      cases h
      exact hRest
  | ask r next ih =>
    constructor
    · intro h
      cases h with
      | ask reply hOk h =>
        obtain ⟨before, a, after, rfl, hFirst, hRest⟩ := (ih reply).mp h
        exact ⟨⟨r, reply⟩ :: before, a, after, rfl, .ask reply hOk hFirst, hRest⟩
    · rintro ⟨before, a, after, rfl, h, hRest⟩
      cases h with
      | ask reply hOk hFirst =>
        exact .ask reply hOk ((ih reply).mpr ⟨_, a, after, rfl, hFirst, hRest⟩)

theorem exchanges_map {p : Program α} {f : α → β} {b : β} :
    Exchanges allowed (f <$> p) log b ↔ ∃ a, Exchanges allowed p log a ∧ b = f a := by
  rw [map_eq_pure_bind, exchanges_bind]
  constructor
  · rintro ⟨before, a, after, rfl, h, hRest⟩
    obtain ⟨rfl, rfl⟩ := exchanges_pure.mp hRest
    exact ⟨a, by simpa using h, rfl⟩
  · rintro ⟨a, h, rfl⟩
    exact ⟨log, a, [], by simp, h, exchanges_pure.mpr ⟨rfl, rfl⟩⟩

theorem Exchanges.reaches {p : Program α} {a : α} (h : Exchanges allowed p log a) :
    ReachesUnder allowed p a := by
  induction h with
  | done a => exact .done a
  | ask reply hOk _ ih => exact .ask reply hOk ih

theorem Exchanges.only {P : Request → Prop} {p : Program α} {a : α}
    (h : Exchanges allowed p log a) (hOnly : Only P p) : ∀ x ∈ log, P x.request := by
  induction h with
  | done a => simp
  | ask reply hOk _ ih =>
    intro x hx
    rcases List.mem_cons.mp hx with rfl | hx
    · exact hOnly.1
    · exact ih (hOnly.2 reply) x hx

/-- The exchanges with surroundings that reply from a state and change it. -/
def exchanged {σ : Type} (serve : (r : Request) → σ → Reply r × σ) :
    Program α → σ → List Exchange
  | .done _, _ => []
  | .ask r next, st => ⟨r, (serve r st).1⟩ :: exchanged serve (next (serve r st).1) (serve r st).2

theorem exchanges_run {σ : Type} {serve : (r : Request) → σ → Reply r × σ}
    (hOk : ∀ r st, allowed r (serve r st).1) (p : Program α) (st : σ) :
    Exchanges allowed p (exchanged serve p st) (run serve p st).1 := by
  induction p generalizing st with
  | done a => exact .done a
  | ask r next ih => exact .ask _ (hOk r st) (ih _ _)

section Failing

variable {p : ExceptT ε Program α} {f : α → ExceptT ε Program β}

/-- A program that goes on fails first, or succeeds first and goes on. -/
theorem exchanges_run_bind {x : Except ε β} :
    Exchanges allowed (p >>= f).run log x ↔
      (∃ e, Exchanges allowed p.run log (.error e) ∧ x = .error e) ∨
        ∃ before a after, log = before ++ after ∧ Exchanges allowed p.run before (.ok a) ∧
          Exchanges allowed (f a).run after x := by
  rw [ExceptT.run_bind, exchanges_bind]
  constructor
  · rintro ⟨before, a | a, after, rfl, h, hRest⟩
    · obtain ⟨rfl, rfl⟩ := exchanges_pure.mp hRest
      exact .inl ⟨a, by simpa using h, rfl⟩
    · exact .inr ⟨before, a, after, rfl, h, hRest⟩
  · rintro (⟨e, h, rfl⟩ | ⟨before, a, after, rfl, h, hRest⟩)
    · exact ⟨log, .error e, [], by simp, h, exchanges_pure.mpr ⟨rfl, rfl⟩⟩
    · exact ⟨before, .ok a, after, rfl, h, hRest⟩

theorem exchanges_run_adapt {g : ε → δ} {x : Except δ α} :
    Exchanges allowed (ExceptT.adapt g p).run log x ↔
      ∃ y, Exchanges allowed p.run log y ∧ x = y.mapError g := exchanges_map

theorem exchanges_run_lift {q : Program α} {x : Except ε α} :
    Exchanges allowed (liftM q : ExceptT ε Program α).run log x ↔
      ∃ a, Exchanges allowed q log a ∧ x = .ok a := exchanges_map

end Failing

end Program

end Stepwise
