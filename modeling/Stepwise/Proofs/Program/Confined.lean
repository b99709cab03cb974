import Stepwise.Proofs.Program.Ensures

/-!
# Programs that keep to terms

These programs ask only what is permitted, as long as the replies are those that are promised, and
end with values that have a property. The rules follow the shape of the program.
-/

namespace Stepwise

set_option autoImplicit false

/-- What a program may ask, and what the replies are. -/
structure Terms where
  permitted : Request → Prop
  promised : Allowed

namespace Program

variable {α β ε δ : Type} {t : Terms} {P : α → Prop} {Q : β → Prop} {E : ε → Prop}

/-- Every request is permitted and every value has the property, for all replies that are promised.
-/
def Confined (t : Terms) (P : α → Prop) : Program α → Prop
  | .done a => P a
  | .ask r next => t.permitted r ∧ ∀ reply, t.promised r reply → Confined t P (next reply)

theorem confined_pure {a : α} (h : P a) : Confined t P (pure a) := h

theorem confined_request (r : Request) {P : Reply r → Prop} (hPermitted : t.permitted r)
    (h : ∀ reply, t.promised r reply → P reply) : Confined t P (request r) := ⟨hPermitted, h⟩

theorem Confined.bind {p : Program α} {f : α → Program β} (h : Confined t P p)
    (hf : ∀ a, P a → Confined t Q (f a)) : Confined t Q (p >>= f) := by
  show Confined t Q (p.bind f)
  induction p with
  | done a => exact hf a h
  | ask r next ih => exact ⟨h.1, fun reply hPromised => ih reply (h.2 reply hPromised)⟩

theorem Confined.map {p : Program α} {f : α → β} (h : Confined t P p) (hf : ∀ a, P a → Q (f a)) :
    Confined t Q (f <$> p) := by
  rw [map_eq_pure_bind]
  exact h.bind fun a ha => confined_pure (hf a ha)

theorem Confined.imp {P' : α → Prop} {p : Program α} (h : Confined t P p)
    (hWeaker : ∀ a, P a → P' a) :
    Confined t P' p := by
  rw [← id_map p]
  exact h.map hWeaker

/-- A program that can fail is confined, and its value has the one property or its failure the
other. -/
def Keeps (t : Terms) (P : α → Prop) (E : ε → Prop) (p : ExceptT ε Program α) : Prop :=
  Confined t (Meets P E) p.run

theorem keeps_done {x : Except ε α} (h : Meets P E x) : Keeps t P E (ExceptT.mk (pure x)) :=
  confined_pure h

theorem keeps_pure {a : α} (h : P a) : Keeps t P E (pure a) := keeps_done (x := .ok a) h

theorem keeps_throw {e : ε} (h : E e) : Keeps t P E (throw e) := keeps_done (x := .error e) h

theorem Keeps.bind {p : ExceptT ε Program α} {f : α → ExceptT ε Program β} (h : Keeps t P E p)
    (hf : ∀ a, P a → Keeps t Q E (f a)) : Keeps t Q E (p >>= f) := by
  unfold Keeps
  rw [ExceptT.run_bind]
  refine Confined.bind h fun x hMeets => ?_
  cases x with
  | ok a => exact hf a hMeets
  | error e => exact confined_pure hMeets

theorem Keeps.map {p : ExceptT ε Program α} {f : α → β} (h : Keeps t P E p)
    (hf : ∀ a, P a → Q (f a)) :
    Keeps t Q E (f <$> p) := by
  rw [map_eq_pure_bind]
  exact h.bind fun a ha => keeps_pure (hf a ha)

theorem Keeps.adapt {D : δ → Prop} {g : ε → δ} {p : ExceptT ε Program α} (h : Keeps t P E p)
    (hg : ∀ e, E e → D (g e)) : Keeps t P D (ExceptT.adapt g p) := by
  refine Confined.map h fun x hMeets => ?_
  cases x with
  | ok a => exact hMeets
  | error e => exact hg e hMeets

theorem Keeps.imp {P' : α → Prop} {p : ExceptT ε Program α} (h : Keeps t P E p)
    (hWeaker : ∀ a, P a → P' a) : Keeps t P' E p := by
  refine Confined.imp h fun x hMeets => ?_
  cases x with
  | ok a => exact hWeaker a hMeets
  | error e => exact hMeets

theorem Keeps.recover {E : EngineError → Prop} {p : EngineProgram α} {handle : EngineError → α}
    (h : Keeps t P E p) (hHandled : ∀ e, P (handle e)) : Keeps t P E (p.recover handle) := by
  refine Confined.bind h fun x hMeets => ?_
  cases x with
  | ok a => exact confined_pure hMeets
  | error e =>
    dsimp only
    split
    · exact confined_pure hMeets
    · exact confined_pure (hHandled e)

-- From here on only the rules are used: unfolding would run the program.
attribute [irreducible] Confined

end Program

end Stepwise
