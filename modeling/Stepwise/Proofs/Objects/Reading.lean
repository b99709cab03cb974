import Stepwise.Proofs.Objects.Transparency

/-!
# Reading from stored objects

What a path reads is settled by the objects that are stored when it is followed. So it reads the
same when objects are added.
-/

namespace Stepwise

set_option autoImplicit false

open Program

abbrev Objects := String → String → Option String

/-- What is stored stays as it is; more may be stored. -/
def Objects.Extends (after before : Objects) : Prop :=
  ∀ container key text, before container key = some text → after container key = some text

/-- The value that a document stands for, if it can be read. -/
def Json.behind? (objects : Objects) (v : Json) : Option Json :=
  match Pointer.ofJson? v with
  | none => some v
  | some p => (objects p.container p.key).bind Json.parse

/-- What a path leads to, if everything on the way can be read. -/
def Path.read? (objects : Objects) : Path → Json → Option Resolved
  | [], v => (v.behind? objects).map .value
  | s :: rest, v => (v.behind? objects).bind fun w =>
    match s.of? w with
    | some x => read? objects rest x
    | none => some .undefined

theorem Json.behind?_of_none {objects : Objects} {v : Json} (h : Pointer.ofJson? v = none) :
    v.behind? objects = some v := by
  rw [behind?, h]

section Extending

variable {before after : Objects}

theorem Json.behind?_extends (hMore : after.Extends before) {v w : Json}
    (h : v.behind? before = some w) : v.behind? after = some w := by
  unfold behind? at h ⊢
  split at h
  · exact h
  · rename_i p hShaped
    obtain ⟨text, hFound, hRead⟩ := Option.bind_eq_some_iff.mp h
    exact Option.bind_eq_some_iff.mpr ⟨text, hMore _ _ _ hFound, hRead⟩

theorem Path.read?_extends (hMore : after.Extends before) {path : Path} {v : Json} {r : Resolved}
    (h : path.read? before v = some r) : path.read? after v = some r := by
  induction path generalizing v with
  | nil =>
    obtain ⟨w, hBehind, rfl⟩ := Option.map_eq_some_iff.mp h
    exact Option.map_eq_some_iff.mpr ⟨w, Json.behind?_extends hMore hBehind, rfl⟩
  | cons s rest ih =>
    obtain ⟨w, hBehind, hLater⟩ := Option.bind_eq_some_iff.mp h
    refine Option.bind_eq_some_iff.mpr ⟨w, Json.behind?_extends hMore hBehind, ?_⟩
    cases hFound : s.of? w with
    | none =>
      rw [hFound] at hLater
      exact hLater
    | some x =>
      rw [hFound] at hLater
      exact ih hLater

end Extending

/-- Surroundings that answer the stored objects and no others, and store what is put, if they say
so. -/
structure StoresObjects {σ : Type} (serve : (r : Request) → σ → Reply r × σ) (sound : σ → Prop)
    (look : σ → Objects) : Prop extends ReadsObjects serve sound look where
  missing : ∀ container key text st, sound st → look st container key = none →
    (serve (.getObject container key) st).1 ≠ .ok text
  put : ∀ container key text st, sound st → (serve (.putObject container key text) st).1 = .ok () →
    sound (serve (.putObject container key text) st).2 ∧
      ∀ c k, look (serve (.putObject container key text) st).2 c k =
        if c = container ∧ k = key then some text else look st c k

/-- An outcome that left the stored objects as they are, and is what they say. -/
structure Answers {σ α : Type} (sound : σ → Prop) (look : σ → Objects) (objects : Objects)
    (outcome : Except EngineError α × σ) (answer : Option α) : Prop where
  sound : sound outcome.2
  same : look outcome.2 = objects
  answer : outcome.1.toOption = answer

section Reading

variable {σ α β : Type} {serve : (r : Request) → σ → Reply r × σ} {sound : σ → Prop}
  {look : σ → Objects} {objects : Objects} {st : σ}

theorem Answers.pure (hOk : sound st) (hSame : look st = objects) (a : α) :
    Answers sound look objects (run serve (Pure.pure a : EngineProgram α).run st) (some a) :=
  ⟨hOk, hSame, rfl⟩

theorem Answers.bind {p : EngineProgram α} {f : α → EngineProgram β} {x : Option α}
    {g : α → Option β} (hFirst : Answers sound look objects (run serve p.run st) x)
    (hLater : ∀ a st', sound st' → look st' = objects →
      Answers sound look objects (run serve (f a).run st') (g a)) :
    Answers sound look objects (run serve (p >>= f).run st) (x.bind g) := by
  rcases hOutcome : run serve p.run st with ⟨e | a, st'⟩
  · rw [hOutcome] at hFirst
    rw [run_bind_error serve hOutcome, ← hFirst.answer]
    exact ⟨hFirst.sound, hFirst.same, rfl⟩
  · rw [hOutcome] at hFirst
    rw [run_bind_ok serve hOutcome, ← hFirst.answer]
    exact hLater a st' hFirst.sound hFirst.same

theorem getObject_answers (S : StoresObjects serve sound look) (hOk : sound st)
    (hSame : look st = objects) (container key : String) :
    Answers sound look objects (run serve (EngineProgram.getObject container key).run st)
      (objects container key) := by
  subst hSame
  obtain ⟨hOk', hSame⟩ := S.quiet container key st hOk
  refine ⟨hOk', hSame, ?_⟩
  show (serve (.getObject container key) st).1.toOption = look st container key
  cases hFound : look st container key with
  | some text => rw [S.get container key text st hOk hFound]; rfl
  | none =>
    cases hReplied : (serve (.getObject container key) st).1 with
    | error e => rfl
    | ok text => exact absurd hReplied (S.missing container key text st hOk hFound)

theorem hydrate_answers (S : StoresObjects serve sound look) (hOk : sound st)
    (hSame : look st = objects) (v : Json) :
    Answers sound look objects (run serve (hydrate v).run st) (v.behind? objects) := by
  rw [hydrate, Json.behind?]
  cases Pointer.ofJson? v with
  | none => exact .pure hOk hSame v
  | some p =>
    refine .bind (getObject_answers S hOk hSame p.container p.key) fun text st' hOk' hSame' => ?_
    cases Json.parse text with
    | none => exact ⟨hOk', hSame', rfl⟩
    | some w => exact .pure hOk' hSame' w

theorem Path.walk_answers (S : StoresObjects serve sound look) (hOk : sound st)
    (hSame : look st = objects) (path : Path) (v : Json) :
    Answers sound look objects (run serve (path.walk true v).run st) (path.read? objects v) := by
  induction path generalizing v st with
  | nil =>
    rw [read?, Option.map_eq_bind]
    exact .bind (hydrate_answers S hOk hSame v) fun w _ hOk' hSame' =>
      .pure hOk' hSame' (Resolved.value w)
  | cons s rest ih =>
    refine .bind (hydrate_answers S hOk hSame v) fun w st' hOk' hSame' => ?_
    cases s.of? w with
    | none => exact .pure hOk' hSame' Resolved.undefined
    | some x => exact ih hOk' hSame' x

/-- An expression that is a path resolves to what the stored objects say. -/
theorem resolve_ok_iff (S : StoresObjects serve sound look) (hOk : sound st) {expr : String}
    {path : Path} (hSimple : Path.ofText? expr = some path) (v : Json) (r : Resolved) :
    (run serve (resolve expr v true).run st).1 = .ok r ↔ path.read? (look st) v = some r := by
  rw [resolve_of_ofText? hSimple, ← (Path.walk_answers S hOk rfl path v).answer]
  cases (run serve (path.walk true v).run st).1 <;> simp [Except.toOption]

end Reading

theorem storesObjects_inMemory :
    StoresObjects Host.serve Offloading.IsSound Offloading.inMemory where
  toReadsObjects := readsObjects_inMemory
  missing container key text h hSound hNothing := by
    obtain ⟨⟨m, hObjects⟩, -, hGets⟩ := hSound
    simp only [Offloading.inMemory, hObjects] at hNothing
    simp only [Host.serve, Host.guarded, hGets, Host.readObject, hObjects, ObjectMap.get, hNothing]
    intro hAnswered
    cases hAnswered
  put container key text h hSound _ :=
    (Offloading.keepsObjects_inMemory.put container key text h hSound).2

end Stepwise
