import Stepwise.Proofs.Program.Reach

/-!
# What programs ensure

What a program ensures of its values and of its failures, for all replies that are allowed. The
rules follow the shape of the program, one for each way to build one.
-/

namespace Stepwise

set_option autoImplicit false

namespace Program

variable {α β ε δ : Type} {allowed : Allowed} {P : α → Prop} {Q : β → Prop} {E : ε → Prop}

/-- The value has the one property, or the failure the other. -/
def Meets (P : α → Prop) (E : ε → Prop) : Except ε α → Prop
  | .ok a => P a
  | .error e => E e

/-- Every value the program can end with has the one property, and every failure the other. -/
def Ensures (allowed : Allowed) (P : α → Prop) (E : ε → Prop) (p : ExceptT ε Program α) : Prop :=
  ∀ x, ReachesUnder allowed p.run x → Meets P E x

theorem ensures_done {x : Except ε α} (h : Meets P E x) :
    Ensures allowed P E (ExceptT.mk (pure x)) := by
  intro y hReached
  rw [reachesUnder_pure.mp hReached]
  exact h

theorem ensures_pure {a : α} (h : P a) : Ensures allowed P E (pure a) := ensures_done (x := .ok a) h

theorem ensures_throw {e : ε} (h : E e) : Ensures allowed P E (throw e) :=
  ensures_done (x := .error e) h

theorem Ensures.bind {p : ExceptT ε Program α} {f : α → ExceptT ε Program β}
    (h : Ensures allowed P E p) (hf : ∀ a, P a → Ensures allowed Q E (f a)) :
    Ensures allowed Q E (p >>= f) := by
  intro y hReached
  rw [ExceptT.run_bind, reachesUnder_bind] at hReached
  obtain ⟨x, hFirst, hRest⟩ := hReached
  have hMeets := h x hFirst
  cases x with
  | ok a => exact hf a hMeets y hRest
  | error e =>
    rw [reachesUnder_pure.mp hRest]
    exact hMeets

theorem Ensures.map {p : ExceptT ε Program α} {f : α → β} (h : Ensures allowed P E p)
    (hf : ∀ a, P a → Q (f a)) : Ensures allowed Q E (f <$> p) := by
  rw [map_eq_pure_bind]
  exact h.bind fun a ha => ensures_pure (hf a ha)

theorem Ensures.adapt {D : δ → Prop} {g : ε → δ} {p : ExceptT ε Program α}
    (h : Ensures allowed P E p) (hg : ∀ e, E e → D (g e)) :
    Ensures allowed P D (ExceptT.adapt g p) := by
  intro y hReached
  obtain ⟨x, hFirst, rfl⟩ := reachesUnder_map.mp hReached
  have hMeets := h x hFirst
  cases x with
  | ok a => exact hMeets
  | error e => exact hg e hMeets

theorem ensures_lift {q : Program α} (h : ∀ a, ReachesUnder allowed q a → P a) :
    Ensures allowed P E (liftM q : ExceptT ε Program α) := by
  intro y hReached
  obtain ⟨a, hFirst, rfl⟩ := reachesUnder_map.mp hReached
  exact h a hFirst

theorem ensures_true {p : ExceptT ε Program α} (h : ∀ e, E e) :
    Ensures allowed (fun _ => True) E p := by
  intro x _
  cases x with
  | ok a => trivial
  | error e => exact h e

theorem Ensures.recover {E : EngineError → Prop} {p : EngineProgram α} {handle : EngineError → α}
    (h : Ensures allowed P E p) (hHandled : ∀ e, P (handle e)) :
    Ensures allowed P E (p.recover handle) := by
  intro y hReached
  obtain ⟨x, hFirst, hRest⟩ := reachesUnder_bind.mp hReached
  have hMeets := h x hFirst
  cases x with
  | ok a =>
    rw [reachesUnder_pure.mp hRest]
    exact hMeets
  | error e =>
    dsimp only at hRest
    split at hRest
    · rw [reachesUnder_pure.mp hRest]
      exact hMeets
    · rw [reachesUnder_pure.mp hRest]
      exact hHandled e

end Program

end Stepwise
