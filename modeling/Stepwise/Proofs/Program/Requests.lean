import Stepwise.Engine.Suspension

/-!
# Requests of programs

The requests that a program can ask, whatever the replies are. Expressions and templates only read
stored objects, and so does the key of a waiting step.
-/

namespace Stepwise

set_option autoImplicit false

namespace Program

variable {α β ε δ : Type} {P : Request → Prop}

/-- Every request that the program can ask is one of `P`. -/
def Only (P : Request → Prop) : Program α → Prop
  | .done _ => True
  | .ask r next => P r ∧ ∀ reply, Only P (next reply)

theorem only_pure {a : α} : Only P (pure a : Program α) := trivial

theorem only_request {r : Request} (h : P r) : Only P (request r) := ⟨h, fun _ => trivial⟩

theorem only_bind {p : Program α} {f : α → Program β} (hp : Only P p) (hf : ∀ a, Only P (f a)) :
    Only P (p >>= f) := by
  show Only P (p.bind f)
  induction p with
  | done a => exact hf a
  | ask r next ih => exact ⟨hp.1, fun reply => ih reply (hp.2 reply)⟩

theorem only_mono {P Q : Request → Prop} (h : ∀ r, P r → Q r) {p : Program α} (hp : Only P p) :
    Only Q p := by
  induction p with
  | done a => trivial
  | ask r next ih => exact ⟨h r hp.1, fun reply => ih reply (hp.2 reply)⟩

theorem run_snd_of_only {σ : Type} {serve : (r : Request) → σ → Reply r × σ} {p : Program α}
    (hp : Only P p) {s : σ} (hUnchanged : ∀ r, P r → (serve r s).2 = s) :
    (run serve p s).2 = s := by
  induction p with
  | done a => rfl
  | ask r next ih =>
    show (run serve (next (serve r s).1) (serve r s).2).2 = s
    rw [hUnchanged r hp.1]
    exact ih _ (hp.2 _)

section Failing

variable {p : ExceptT ε Program α} {f : α → ExceptT ε Program β}

theorem only_run_pure {a : α} : Only P (pure a : ExceptT ε Program α).run := trivial

theorem only_run_throw {e : ε} : Only P (throw e : ExceptT ε Program α).run := trivial

theorem only_run_bind (hp : Only P p.run) (hf : ∀ a, Only P (f a).run) : Only P (p >>= f).run := by
  rw [ExceptT.run_bind]
  apply only_bind hp
  intro a
  cases a with
  | ok a => exact hf a
  | error e => exact trivial

theorem only_run_adapt {g : ε → δ} (hp : Only P p.run) : Only P (ExceptT.adapt g p).run := by
  show Only P (Except.mapError g <$> p.run)
  rw [map_eq_pure_bind]
  exact only_bind hp fun _ => only_pure

theorem only_run_tryCatch {handle : ε → ExceptT ε Program α} (hp : Only P p.run)
    (hh : ∀ e, Only P (handle e).run) : Only P (tryCatch p handle).run := by
  show Only P (p.run >>= _)
  apply only_bind hp
  intro a
  cases a with
  | ok a => exact only_pure
  | error e => exact hh e

end Failing

end Program

namespace Request

def IsRead : Request → Prop
  | .getObject _ _ => True
  | _ => False

end Request

namespace EngineProgram

variable {α β : Type}

/-- The programs that only read stored objects, and pass it on when one cannot be read. -/
inductive Reads : {α : Type} → EngineProgram α → Prop where
  | pure {α : Type} (a : α) : Reads (pure a : EngineProgram α)
  | throw {α : Type} (e : EngineError) : Reads (throw e : EngineProgram α)
  | get (container key : String) : Reads (getObject container key)
  | bind {α β : Type} {p : EngineProgram α} {f : α → EngineProgram β} (hFirst : Reads p)
      (hLater : ∀ a, Reads (f a)) : Reads (p >>= f)
  | recover {α : Type} {p : EngineProgram α} {handle : EngineError → α} (hFirst : Reads p) :
      Reads (p.recover handle)

theorem Reads.map {p : EngineProgram α} {g : α → β} (h : Reads p) : Reads (g <$> p) := by
  rw [map_eq_pure_bind]
  exact .bind h fun _ => .pure _

theorem Reads.ofExcept (r : Except EngineError α) : Reads (ofExcept r) := by
  cases r with
  | ok a => exact .pure a
  | error e => exact .throw e

theorem Reads.only {p : EngineProgram α} (h : Reads p) : Program.Only Request.IsRead p.run := by
  induction h with
  | pure a => exact Program.only_run_pure
  | throw e => exact Program.only_run_throw
  | get container key => exact Program.only_request trivial
  | bind _ _ ih ih' => exact Program.only_run_bind ih ih'
  | recover _ ih =>
    apply Program.only_run_tryCatch ih
    intro e
    split
    · exact Program.only_run_throw
    · exact Program.only_run_pure

end EngineProgram

open Program

theorem hydrate_reads (v : Json) : EngineProgram.Reads (hydrate v) := by
  unfold hydrate
  split
  · exact .pure _
  · refine .bind (.get _ _) fun text => ?_
    split
    · exact .pure _
    · exact .throw _

theorem hydrateIf_reads (hydrating : Bool) (v : Json) :
    EngineProgram.Reads (hydrateIf hydrating v) := by
  unfold hydrateIf
  split
  · exact hydrate_reads v
  · exact .pure _

theorem Path.walk_reads (hydrating : Bool) (path : Path) (v : Json) :
    EngineProgram.Reads (path.walk hydrating v) := by
  induction path generalizing v with
  | nil => exact .bind (hydrateIf_reads hydrating v) fun _ => .pure _
  | cons s rest ih =>
    refine .bind (hydrateIf_reads hydrating v) fun w => ?_
    split
    · exact ih _
    · exact .pure _

theorem resolve_reads (expr : String) (document : Json) (hydrating : Bool) :
    EngineProgram.Reads (resolve expr document hydrating) := by
  unfold resolve
  split
  · split
    · exact Path.walk_reads hydrating _ document
    · refine .bind (.ofExcept _) fun r => ?_
      cases r with
      | undefined => exact .pure _
      | value v => exact .bind (hydrateIf_reads hydrating v) fun _ => .pure _
  · exact .pure _

namespace Template

theorem resolvePlaceholder_reads (expr : List Char) (scope : Json) :
    EngineProgram.Reads (resolvePlaceholder expr scope) :=
  .recover (.map (resolve_reads _ scope true))

theorem pieceText_reads (scope : Json) (p : Piece) :
    EngineProgram.Reads (pieceText scope p) := by
  cases p with
  | literal c => exact .pure _
  | placeholder whole expr =>
    refine .bind (resolvePlaceholder_reads expr scope) fun r => ?_
    cases r with
    | none => exact .pure _
    | some r => exact .pure _

theorem interpolate_reads (scope : Json) (ps : List Piece) :
    EngineProgram.Reads (interpolate scope ps) := by
  induction ps with
  | nil => exact .pure _
  | cons p rest ih =>
    exact .bind (pieceText_reads scope p) fun _ => .bind ih fun _ => .pure _

theorem fill_reads (template : String) (scope : Json) :
    EngineProgram.Reads (fill template scope) := by
  unfold fill
  split
  · exact .bind (resolvePlaceholder_reads _ scope) fun _ => .pure _
  · split
    · exact .bind (interpolate_reads scope _) fun _ => .pure _
    · exact .pure _

theorem follow_reads (filled : Resolved) (scope : Json) :
    EngineProgram.Reads (follow filled scope) := by
  unfold follow
  split
  · split
    · exact .recover (resolve_reads _ scope true)
    · exact .pure _
  · exact .pure _

theorem renderRounds_reads (maxDepth rounds : Nat) (template : String) (scope : Json) :
    EngineProgram.Reads (renderRounds maxDepth rounds template scope) := by
  induction rounds generalizing template with
  | zero => exact .throw _
  | succ rounds ih =>
    refine .bind (fill_reads template scope) fun filled => ?_
    refine .bind (follow_reads filled scope) fun resolved => ?_
    split
    · split
      · exact ih _
      · exact .pure _
    · exact .pure _

theorem renderText_reads (maxDepth : Nat) (template : String) (scope : Json) :
    EngineProgram.Reads (renderText maxDepth template scope) :=
  renderRounds_reads maxDepth _ template scope

end Template

theorem Wait.correlationKey_reads (w : Wait) (s : Settings) (scope : Json) :
    Only Request.IsRead (w.correlationKey s scope).run :=
  only_run_bind (only_run_adapt (Template.renderText_reads _ _ scope).only) fun _ => trivial

end Stepwise
