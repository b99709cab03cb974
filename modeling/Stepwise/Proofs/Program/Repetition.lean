import Stepwise.Proofs.Objects.Reading
import Stepwise.Proofs.Program.Exchanges

/-!
# Programs that can be run twice

Such programs ask for what is the same every time, read stored objects, and store objects under keys
that tell their content; once an object is missing they ask for nothing more. The second run finds
all that the first has found and stored, so it is replied the same.
-/

namespace Stepwise

set_option autoImplicit false

open Program

namespace Request

/-- The request is one for flows, handlers and their registrations. -/
def IsFixed : Request → Prop
  | .findFlow _ _ | .callHandler _ _ | .findRegistration _ | .invokeRemote _ _ => True
  | _ => False

end Request

/-- Surroundings that do not fail, apart from objects that are missing. Flows and handlers reply by
the request alone, and leave the object store as it is. -/
structure RepliesAgain {σ : Type} (serve : (r : Request) → σ → Reply r × σ) (sound : σ → Prop)
    (look : σ → Objects) (reply : (r : Request) → Reply r) : Prop
    extends KeepsObjects serve sound look where
  fixed : ∀ r st, sound st → r.IsFixed → (serve r st).1 = reply r
  missing : ∀ container key st, sound st → look st container key = none →
    (serve (.getObject container key) st).1 = reply (.getObject container key)
  missed : ∀ container key, ∃ e : EngineError, e.isInfrastructure = true ∧
    reply (.getObject container key) = .error e
  quiet : ∀ r st, sound st → r.IsFixed ∨ r.IsRead →
    sound (serve r st).2 ∧ look (serve r st).2 = look st

namespace Objects

def Holds (objects : Objects) (text : String) : Prop :=
  ∃ container key, objects container key = some text

/-- Every object is stored where large values are moved to. -/
def Offloaded (objects : Objects) : Prop :=
  ∀ container key text, objects container key = some text →
    ∃ executionId destination, key = Offload.key executionId destination text

theorem Extends.refl (objects : Objects) : objects.Extends objects := fun _ _ _ h => h

theorem Extends.trans {a b c : Objects} (hSecond : c.Extends b) (hFirst : b.Extends a) :
    c.Extends a :=
  fun container key text h => hSecond container key text (hFirst container key text h)

end Objects

def putTexts (log : List Exchange) : List String :=
  log.filterMap fun x => match x.request with
    | .putObject _ _ text => some text
    | _ => none

theorem mem_putTexts_cons {x : Exchange} {log : List Exchange} {text : String}
    (h : text ∈ putTexts log) : text ∈ putTexts (x :: log) := by
  obtain ⟨y, hAmong, hPut⟩ := List.mem_filterMap.mp h
  exact List.mem_filterMap.mpr ⟨y, List.mem_cons_of_mem x hAmong, hPut⟩

/-- Among these texts, no two have one digest. -/
def Digest.Apart (texts : String → Prop) : Prop :=
  ∀ a b, texts a → texts b → Digest.ofText a = Digest.ofText b → a = b

theorem Digest.Apart.mono {texts fewer : String → Prop} (hApart : Apart texts)
    (h : ∀ a, fewer a → texts a) : Apart fewer :=
  fun a b ha hb => hApart a b (h a ha) (h b hb)

namespace Program

variable {α β ε δ : Type} {reply : (r : Request) → Reply r}

/-- A program that can be run twice; when an object is missing it ends at once, and stops. -/
inductive Repeatable (reply : (r : Request) → Reply r) (stop : α → Prop) : Program α → Prop where
  | done (a : α) : Repeatable reply stop (.done a)
  | get {container key : String} {next : Reply (.getObject container key) → Program α}
      (hMissed : ∀ e : EngineError, e.isInfrastructure = true → ∃ a, stop a ∧
        next (.error e) = .done a)
      (hLater : ∀ answer, Repeatable reply stop (next answer)) :
      Repeatable reply stop (.ask (.getObject container key) next)
  | put {container key text : String} {next : Reply (.putObject container key text) → Program α}
      (hMoved : ∃ executionId destination, key = Offload.key executionId destination text)
      (hLater : ∀ answer, Repeatable reply stop (next answer)) :
      Repeatable reply stop (.ask (.putObject container key text) next)
  | fixed {r : Request} {next : Reply r → Program α} (hAgain : r.IsFixed)
      (hLater : Repeatable reply stop (next (reply r))) : Repeatable reply stop (.ask r next)

section Running

variable {σ : Type} {serve : (r : Request) → σ → Reply r × σ} {sound : σ → Prop}
  {look : σ → Objects} {stop : α → Prop} {p : Program α}

/-- The stored objects are moved texts, and neither with each other nor with the texts that a run
puts do they share a digest. -/
structure Unambiguous (serve : (r : Request) → σ → Reply r × σ) (look : σ → Objects) (p : Program α)
    (st : σ) : Prop where
  offloaded : (look st).Offloaded
  apart : Digest.Apart fun a => (look st).Holds a ∨ a ∈ putTexts (exchanged serve p st)

/-- At the place of a text that was moved there is no other text. -/
theorem put_extends (A : RepliesAgain serve sound look reply) {container key text : String}
    {next : Reply (.putObject container key text) → Program α} {st : σ} (hOk : sound st)
    (hMoved : ∃ executionId destination, key = Offload.key executionId destination text)
    (hClear : Unambiguous serve look (.ask (.putObject container key text) next) st) :
    (look (serve (.putObject container key text) st).2).Extends (look st) ∧
      Unambiguous serve look (next (serve (.putObject container key text) st).1)
        (serve (.putObject container key text) st).2 := by
  obtain ⟨-, -, hChanged⟩ := A.put container key text st hOk
  have hHere : text ∈ putTexts (exchanged serve (.ask (.putObject container key text) next) st) :=
    List.mem_filterMap.mpr ⟨_, List.mem_cons_self, rfl⟩
  refine ⟨fun c k a hFound => ?_, fun c k a hFound => ?_, hClear.apart.mono fun a ha => ?_⟩
  · rw [hChanged]
    split
    · next hSame =>
      obtain ⟨rfl, rfl⟩ := hSame
      obtain ⟨e, d, hNamed⟩ := hClear.offloaded _ _ a hFound
      obtain ⟨e', d', hNamed'⟩ := hMoved
      have hDigests := Offload.digest_eq_of_key_eq (hNamed.symm.trans hNamed')
      rw [hClear.apart a text (.inl ⟨_, _, hFound⟩) (.inr hHere) hDigests]
    · exact hFound
  · rw [hChanged] at hFound
    split at hFound
    · next hSame =>
      cases hFound
      rw [hSame.2]
      exact hMoved
    · exact hClear.offloaded c k a hFound
  · rcases ha with ⟨c, k, hFound⟩ | hPut
    · rw [hChanged] at hFound
      split at hFound
      · cases hFound
        exact .inr hHere
      · exact .inl ⟨c, k, hFound⟩
    · exact .inr (mem_putTexts_cons hPut)

theorem Unambiguous.quietly {r : Request} {next : Reply r → Program α} {st : σ}
    (hClear : Unambiguous serve look (.ask r next) st) (hSame : look (serve r st).2 = look st) :
    Unambiguous serve look (next (serve r st).1) (serve r st).2 := by
  constructor
  · rw [hSame]
    exact hClear.offloaded
  · rw [hSame]
    exact hClear.apart.mono fun a ha => ha.imp_right mem_putTexts_cons

theorem run_ask (r : Request) (next : Reply r → Program α) (st : σ) :
    run serve (.ask r next) st = run serve (next (serve r st).1) (serve r st).2 := rfl

theorem run_sound (A : RepliesAgain serve sound look reply) (h : Repeatable reply stop p) {st : σ}
    (hOk : sound st) : sound (run serve p st).2 := by
  induction h generalizing st with
  | done a => exact hOk
  | @get container key next hMissed hLater ih =>
    exact ih _ (A.quiet (.getObject container key) st hOk (.inr trivial)).1
  | put _ _ ih => exact ih _ (A.put _ _ _ st hOk).2.1
  | @fixed r next hAgain hLater ih =>
    rw [run_ask, A.fixed r st hOk hAgain]
    exact ih (A.quiet r st hOk (.inl hAgain)).1

/-- A run adds to the stored objects and changes none of them. -/
theorem run_extends (A : RepliesAgain serve sound look reply) (h : Repeatable reply stop p) {st : σ}
    (hOk : sound st) (hClear : Unambiguous serve look p st) :
    (look (run serve p st).2).Extends (look st) := by
  induction h generalizing st with
  | done a => exact .refl _
  | @get container key next hMissed hLater ih =>
    obtain ⟨hOk', hSame⟩ := A.quiet (.getObject container key) st hOk (.inr trivial)
    have hMore := ih _ hOk' (hClear.quietly hSame)
    rwa [hSame] at hMore
  | @put container key text next hMoved hLater ih =>
    obtain ⟨-, hOk', -⟩ := A.put container key text st hOk
    obtain ⟨hMore, hClear'⟩ := put_extends A hOk hMoved hClear
    exact (ih _ hOk' hClear').trans hMore
  | @fixed r next hAgain hLater ih =>
    obtain ⟨hOk', hSame⟩ := A.quiet r st hOk (.inl hAgain)
    have hClear' := hClear.quietly hSame
    rw [run_ask]
    rw [A.fixed r st hOk hAgain] at hClear' ⊢
    rw [← hSame]
    exact ih hOk' hClear'

/-- The second run of a program, where the first one left off, ends as the first one did and stores
nothing new. -/
theorem run_again (A : RepliesAgain serve sound look reply) (h : Repeatable reply stop p)
    {st st' : σ} (hOk : sound st) (hOk' : sound st') (hClear : Unambiguous serve look p st)
    (hLeft : look st' = look (run serve p st).2) :
    (run serve p st').1 = (run serve p st).1 ∧ look (run serve p st').2 = look st' := by
  induction h generalizing st st' with
  | done a => exact ⟨rfl, rfl⟩
  | @get container key next hMissed hLater ih =>
    have hWhole : Repeatable reply stop (.ask (.getObject container key) next) :=
      .get hMissed hLater
    have hMore := run_extends A hWhole hOk hClear
    obtain ⟨hAfter, hSame⟩ := A.quiet (.getObject container key) st hOk (.inr trivial)
    obtain ⟨hAfter', hSame'⟩ := A.quiet (.getObject container key) st' hOk' (.inr trivial)
    rw [run_ask] at hLeft hMore ⊢
    rw [run_ask, ← hSame']
    cases hFound : look st container key with
    | some text =>
      have hFirst := A.get container key text st hOk hFound
      have hAgain := A.get container key text st' hOk' (hLeft ▸ hMore container key text hFound)
      rw [hAgain]
      rw [hFirst] at hLeft ⊢
      exact ih _ hAfter hAfter' (hFirst ▸ hClear.quietly hSame) (hSame'.trans hLeft)
    | none =>
      -- The first run ends here, so the object is missing in the second run as well.
      have hFirst := A.missing container key st hOk hFound
      obtain ⟨e, hInfrastructure, hNone⟩ := A.missed container key
      obtain ⟨a, -, hEnded⟩ := hMissed e hInfrastructure
      rw [hFirst, hNone, hEnded] at hLeft ⊢
      have hUnchanged : look st' = look st := hLeft.trans hSame
      rw [A.missing container key st' hOk' (hUnchanged ▸ hFound), hNone, hEnded]
      exact ⟨rfl, rfl⟩
  | @put container key text next hMoved hLater ih =>
    obtain ⟨hReplied, hAfter, hChanged⟩ := A.put container key text st hOk
    obtain ⟨hReplied', hAfter', hChanged'⟩ := A.put container key text st' hOk'
    obtain ⟨-, hClear'⟩ := put_extends A hOk hMoved hClear
    have hMore := run_extends A (hLater _) hAfter hClear'
    rw [run_ask] at hLeft ⊢
    -- What the first run has put is there still.
    have hThere : look st' container key = some text := by
      rw [hLeft]
      exact hMore container key text (by rw [hChanged, if_pos ⟨rfl, rfl⟩])
    have hSame : look (serve (.putObject container key text) st').2 = look st' := by
      funext c k
      rw [hChanged']
      split
      · next hHere => rw [hHere.1, hHere.2, hThere]
      · rfl
    obtain ⟨hAnswer, hStays⟩ := ih _ hAfter hAfter' hClear' (hSame.trans hLeft)
    rw [run_ask, hReplied']
    rw [hReplied] at hAnswer hStays ⊢
    exact ⟨hAnswer, hStays.trans hSame⟩
  | @fixed r next hAgain hLater ih =>
    obtain ⟨hAfter, hSame⟩ := A.quiet r st hOk (.inl hAgain)
    obtain ⟨hAfter', hSame'⟩ := A.quiet r st' hOk' (.inl hAgain)
    have hClear' := hClear.quietly hSame
    rw [run_ask] at hLeft ⊢
    rw [run_ask, A.fixed r st' hOk' hAgain]
    rw [A.fixed r st hOk hAgain] at hLeft hClear' ⊢
    obtain ⟨hAnswer, hStays⟩ := ih hAfter hAfter' hClear' (hSame'.trans hLeft)
    exact ⟨hAnswer, hStays.trans hSame'⟩

end Running

/-- Surroundings that keep what is put into the object store, and are calm otherwise. -/
def shelf (f : Flow) : (r : Request) → Objects → Reply r × Objects
  | .getObject container key, objects =>
    (match objects container key with
      | some text => .ok text
      | none => .error (.objectStore "nothing is stored"), objects)
  | .putObject container key text, objects =>
    (.ok (), fun c k => if c = container ∧ k = key then some text else objects c k)
  | r, objects => ((calm f r ()).1, objects)

theorem repliesAgain_shelf (f : Flow) :
    RepliesAgain (shelf f) (fun _ => True) id fun r => (calm f r ()).1 where
  put container key text objects _ := ⟨rfl, trivial, fun _ _ => rfl⟩
  get container key text objects _ hFound := by
    simp only [shelf, show objects container key = _ from hFound]
    rfl
  fixed r objects _ hAgain := by cases r <;> first | rfl | exact hAgain.elim
  missing container key objects _ hNothing := by
    simp only [shelf, show objects container key = _ from hNothing]
    rfl
  missed container key := ⟨.objectStore "nothing is stored", rfl, rfl⟩
  quiet r objects _ h := by cases r <;> first | exact ⟨trivial, rfl⟩ | exact (h.elim id id).elim

section Shape

variable {stop : α → Prop}

theorem repeatable_request {r : Request} {stop : Reply r → Prop} (hAgain : r.IsFixed) :
    Repeatable reply stop (request r) := .fixed hAgain (.done _)

theorem repeatable_bind {q : Program β} {f : β → Program α} {ends : β → Prop}
    (hFirst : Repeatable reply ends q) (hLater : ∀ b, Repeatable reply stop (f b))
    (hPassed : ∀ b, ends b → ∃ a, stop a ∧ f b = .done a) : Repeatable reply stop (q >>= f) := by
  show Repeatable reply stop (q.bind f)
  induction hFirst with
  | done b => exact hLater b
  | get hMissed _ ih =>
    refine .get (fun e hInfrastructure => ?_) ih
    obtain ⟨b, hEnded, hNext⟩ := hMissed e hInfrastructure
    obtain ⟨a, hStops, hSame⟩ := hPassed b hEnded
    exact ⟨a, hStops, by rw [hNext, bind, hSame]⟩
  | put hMoved _ ih => exact .put hMoved ih
  | fixed hAgain _ ih => exact .fixed hAgain ih

/-- Where no object can be missing, what comes later decides. -/
theorem repeatable_bind_sure {q : Program β} {f : β → Program α}
    (hFirst : Repeatable reply (fun _ => False) q) (hLater : ∀ b, Repeatable reply stop (f b)) :
    Repeatable reply stop (q >>= f) :=
  repeatable_bind hFirst hLater fun _ hImpossible => hImpossible.elim

theorem repeatable_map {q : Program β} {f : β → α} {ends : β → Prop} (h : Repeatable reply ends q)
    (hPassed : ∀ b, ends b → stop (f b)) : Repeatable reply stop (f <$> q) := by
  rw [map_eq_pure_bind]
  exact repeatable_bind h (fun _ => .done _) fun b hEnded => ⟨f b, hPassed b hEnded, rfl⟩

end Shape

/-- The program can be run twice, and fails in one of the given ways when an object is missing. -/
def Repeats (reply : (r : Request) → Reply r) (failing : ε → Prop) (p : ExceptT ε Program α) :
    Prop :=
  Repeatable reply (fun x => ∃ e, failing e ∧ x = .error e) p.run

section Failing

variable {failing : ε → Prop} {p : ExceptT ε Program α} {f : α → ExceptT ε Program β}

theorem repeats_pure {a : α} : Repeats reply failing (pure a : ExceptT ε Program α) := .done _

theorem repeats_throw {e : ε} : Repeats reply failing (throw e : ExceptT ε Program α) := .done _

theorem repeats_bind (hFirst : Repeats reply failing p)
    (hLater : ∀ a, Repeats reply failing (f a)) :
    Repeats reply failing (p >>= f) := by
  unfold Repeats
  rw [ExceptT.run_bind]
  refine repeatable_bind hFirst (fun x => ?_) ?_
  · cases x with
    | ok a => exact hLater a
    | error e => exact .done _
  · rintro x ⟨e, hFailed, rfl⟩
    exact ⟨.error e, ⟨e, hFailed, rfl⟩, rfl⟩

theorem repeats_adapt {g : ε → δ} {failing' : δ → Prop} (h : Repeats reply failing p)
    (hPassed : ∀ e, failing e → failing' (g e)) : Repeats reply failing' (ExceptT.adapt g p) := by
  refine repeatable_map h ?_
  rintro x ⟨e, hFailed, rfl⟩
  exact ⟨g e, hPassed e hFailed, rfl⟩

theorem repeats_lift {r : Request} (hAgain : r.IsFixed) :
    Repeats reply failing (liftM (request r) : ExceptT ε Program (Reply r)) := by
  have hAsked : Repeatable reply (fun _ => False) (request r) := repeatable_request hAgain
  exact repeatable_map hAsked fun _ hImpossible => hImpossible.elim

end Failing

end Program

namespace EngineProgram

variable {α : Type} {reply : (r : Request) → Reply r}

/-- The engine program can be run twice, and passes the failure on when an object is missing. -/
def Repeats (reply : (r : Request) → Reply r) (p : EngineProgram α) : Prop :=
  Program.Repeats reply (fun e => e.isInfrastructure = true) p

theorem Reads.repeats {p : EngineProgram α} (h : Reads p) : Repeats reply p := by
  induction h with
  | pure a => exact Program.repeats_pure
  | throw e => exact Program.repeats_throw
  | get container key =>
    exact .get (fun e hInfrastructure => ⟨.error e, ⟨e, hInfrastructure, rfl⟩, rfl⟩) fun _ =>
      .done _
  | bind _ _ ih ih' => exact Program.repeats_bind ih ih'
  | recover _ ih =>
    refine Program.repeatable_bind ih (fun x => ?_) ?_
    · cases x with
      | ok a => exact .done _
      | error e =>
        dsimp only
        split
        · exact .done _
        · exact .done _
    · rintro x ⟨e, hInfrastructure, rfl⟩
      exact ⟨.error e, ⟨e, hInfrastructure, rfl⟩, by simp only [hInfrastructure, if_true]; rfl⟩

theorem repeats_asStep {p : EngineProgram α} (h : Repeats reply p) :
    Program.Repeats reply (fun _ => True) p.asStep :=
  Program.repeats_adapt h fun _ _ => trivial

end EngineProgram

end Stepwise
