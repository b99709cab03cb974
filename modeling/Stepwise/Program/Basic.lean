import Stepwise.Program.Request

/-!
# Programs with requests

Programs that ask their surroundings. A program is a tree: it is done, or it asks a request and goes
on with any reply. What holds for every reply holds whatever the surroundings do, and a program is
cut into its atomic operations by its own shape.
-/

namespace Stepwise

set_option autoImplicit false

inductive Program (α : Type) where
  | done (value : α)
  | ask (request : Request) (next : Reply request → Program α)

namespace Program

variable {α β γ : Type}

def bind : Program α → (α → Program β) → Program β
  | .done a, f => f a
  | .ask r next, f => .ask r fun reply => bind (next reply) f

instance : Monad Program where
  pure := .done
  bind := bind

def request (r : Request) : Program (Reply r) := .ask r .done

theorem bind_done (p : Program α) : bind p .done = p := by
  induction p with
  | done a => rfl
  | ask r next ih => exact congrArg (Program.ask r) (funext ih)

theorem bind_assoc (p : Program α) (f : α → Program β) (g : β → Program γ) :
    bind (bind p f) g = bind p fun a => bind (f a) g := by
  induction p with
  | done a => rfl
  | ask r next ih => exact congrArg (Program.ask r) (funext ih)

instance : LawfulMonad Program :=
  LawfulMonad.mk' Program bind_done (fun _ _ => rfl) bind_assoc

/-- Runs a program against surroundings that reply from a state and change it. -/
def run {σ : Type} (serve : (r : Request) → σ → Reply r × σ) : Program α → σ → α × σ
  | .done a, s => (a, s)
  | .ask r next, s =>
    let (reply, s) := serve r s
    run serve (next reply) s

section Runs

variable {σ : Type} (serve : (r : Request) → σ → Reply r × σ)

@[simp] theorem run_pure (a : α) (s : σ) : run serve (pure a) s = (a, s) := rfl

@[simp] theorem run_request (r : Request) (s : σ) : run serve (request r) s = serve r s := rfl

theorem run_bind (p : Program α) (f : α → Program β) (s : σ) :
    run serve (p >>= f) s = run serve (f (run serve p s).1) (run serve p s).2 := by
  show run serve (p.bind f) s = _
  induction p generalizing s with
  | done a => rfl
  | ask r next ih => exact ih _ _

theorem run_map (p : Program α) (f : α → β) (s : σ) :
    run serve (f <$> p) s = (f (run serve p s).1, (run serve p s).2) := by
  rw [map_eq_pure_bind, run_bind, run_pure]

theorem run_bind_ok {ε : Type} {p : ExceptT ε Program α} {f : α → ExceptT ε Program β} {a : α}
    {s s' : σ} (h : run serve p.run s = (.ok a, s')) :
    run serve (p >>= f).run s = run serve (f a).run s' := by
  rw [ExceptT.run_bind, run_bind, h]

theorem run_bind_error {ε : Type} {p : ExceptT ε Program α} {f : α → ExceptT ε Program β} {e : ε}
    {s s' : σ} (h : run serve p.run s = (.error e, s')) :
    run serve (p >>= f).run s = (.error e, s') := by
  rw [ExceptT.run_bind, run_bind, h]
  rfl

end Runs

/-- The values a program can end with, over all replies. -/
inductive Reaches : Program α → α → Prop where
  | done (a : α) : Reaches (.done a) a
  | ask {r : Request} {next : Reply r → Program α} {a : α} (reply : Reply r)
      (h : Reaches (next reply) a) : Reaches (.ask r next) a

end Program

/-- Programs that the engine's own failures end. -/
abbrev EngineProgram := ExceptT EngineError Program

abbrev StepProgram := ExceptT StepError Program

namespace EngineProgram

def ofExcept {α : Type} (r : Except EngineError α) : EngineProgram α := .mk (.done r)

def getObject (container key : String) : EngineProgram String :=
  .mk (Program.request (.getObject container key))

def putObject (container key text : String) : EngineProgram Unit :=
  .mk (Program.request (.putObject container key text))

def findFlow (id : String) (version : UInt32) : EngineProgram (Option Flow) :=
  .mk (Program.request (.findFlow id version))

def findRegistration (moduleId : String) : EngineProgram (Option HandlerRegistration) :=
  .mk (Program.request (.findRegistration moduleId))

def enqueueStart (message : StartMessage) : EngineProgram Unit :=
  .mk (Program.request (.enqueueStart message))

def saveContinuation (key : String) (record : ContinuationRecord) (ttlSeconds : UInt64) :
    EngineProgram Unit :=
  .mk (Program.request (.saveContinuation key record ttlSeconds))

def takeContinuation (key : String) : EngineProgram (Option ContinuationRecord) :=
  .mk (Program.request (.takeContinuation key))

/-- Within a step, a failure of the engine is a failure of the step. -/
def asStep {α : Type} (p : EngineProgram α) : StepProgram α := ExceptT.adapt StepError.ofEngine p

/-- Handles the failures that do not come from a store; those of stores go on. -/
def recover {α : Type} (p : EngineProgram α) (handle : EngineError → α) : EngineProgram α :=
  tryCatch p fun e => if e.isInfrastructure then throw e else pure (handle e)

theorem run_recover_ok {σ α : Type} {serve : (r : Request) → σ → Reply r × σ} {p : EngineProgram α}
    {a : α} {s s' : σ} (handle : EngineError → α) (h : Program.run serve p.run s = (.ok a, s')) :
    Program.run serve (p.recover handle).run s = (.ok a, s') := by
  refine (Program.run_bind serve p.run _ s).trans ?_
  rw [h]
  rfl

end EngineProgram

end Stepwise
