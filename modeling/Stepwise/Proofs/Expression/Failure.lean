import Stepwise.Proofs.Json.Honest
import Stepwise.Proofs.Program.Exchanges
import Stepwise.Proofs.Query.Total

/-!
# How rendering fails

Whatever the texts of a template and of the scope are, what cannot be evaluated stays as it is: a
failure says that there were too many rounds, or comes from the object store. The store is asked
only for what a pointer leads to, and a query can make a pointer out of fields that are none.
-/

namespace Stepwise

set_option autoImplicit false

open Program

/-- The failure of a store, or of reading what the object store holds. -/
inductive HandedUp (log : List Exchange) : EngineError → Prop where
  | refused {container key : String} {e : EngineError}
      (hAsked :
        Exchange.mk (.getObject container key) (Except.error e : Except EngineError String) ∈ log)
      (hOfStore : e.isInfrastructure = true) : HandedUp log e
  | unread {container key text : String}
      (hAsked :
        Exchange.mk (.getObject container key) (Except.ok text : Except EngineError String) ∈ log)
      (hNoDocument : Json.parse text = none) : HandedUp log (.objectStore
        ("offloaded value " ++ container ++ "/" ++ key ++ " is not valid JSON: unexpected text"))

theorem HandedUp.mono {log more : List Exchange} {e : EngineError} (h : HandedUp log e)
    (hAmong : ∀ x ∈ log, x ∈ more) : HandedUp more e := by
  cases h with
  | refused hAsked hOfStore => exact .refused (hAmong _ hAsked) hOfStore
  | unread hAsked hNoDocument => exact .unread (hAmong _ hAsked) hNoDocument

/-- Every failure of the program is one of its own, or handed up. -/
def FailsAs {α : Type} (own : EngineError → Prop) (p : EngineProgram α) : Prop :=
  ∀ (allowed : Allowed) (log : List Exchange) (e : EngineError),
    Exchanges allowed p.run log (.error e) → own e ∨ HandedUp log e

section Rules

variable {α β : Type} {own : EngineError → Prop} {e : EngineError}

theorem failsAs_pure (a : α) : FailsAs own (pure a : EngineProgram α) := by
  intro allowed log e hFailed
  cases (exchanges_pure.mp hFailed).2

theorem failsAs_throw (h : own e) : FailsAs own (throw e : EngineProgram α) := by
  intro allowed log e' hFailed
  cases (exchanges_pure.mp hFailed).2
  exact .inl h

theorem FailsAs.bind {p : EngineProgram α} {f : α → EngineProgram β} (hFirst : FailsAs own p)
    (hLater : ∀ a, FailsAs own (f a)) : FailsAs own (p >>= f) := by
  intro allowed log e hFailed
  rcases exchanges_run_bind.mp hFailed with ⟨e', hHere, hSame⟩ | ⟨before, a, after, rfl, -, hThere⟩
  · cases hSame
    exact hFirst _ _ _ hHere
  · refine (hLater a _ _ _ hThere).imp_right fun hHanded => hHanded.mono fun x hAmong => ?_
    exact List.mem_append_right before hAmong

theorem FailsAs.map {p : EngineProgram α} (h : FailsAs own p) (f : α → β) :
    FailsAs own (f <$> p) := by
  rw [map_eq_pure_bind]
  exact h.bind fun a => failsAs_pure (f a)

theorem FailsAs.recover {p : EngineProgram α} (h : FailsAs (fun e => e.isInfrastructure = false) p)
    (handle : EngineError → α) : FailsAs own (p.recover handle) := by
  intro allowed log e hFailed
  obtain ⟨before, x, after, rfl, hFirst, hRest⟩ := exchanges_bind.mp hFailed
  cases x with
  | ok a => cases (exchanges_pure.mp hRest).2
  | error e' =>
    dsimp only at hRest
    split at hRest
    · next hOfStore =>
      cases (exchanges_pure.mp hRest).2
      rcases h _ _ _ hFirst with hOther | hHanded
      · rw [hOfStore] at hOther
        cases hOther
      · exact .inr (hHanded.mono fun x hAmong => List.mem_append_left after hAmong)
    · cases (exchanges_pure.mp hRest).2

end Rules

section Resolving

/-- A failure that does not come from a store. -/
abbrev Own (e : EngineError) : Prop := e.isInfrastructure = false

theorem hydrate_failsAs (v : Json) : FailsAs Own (hydrate v) := by
  unfold hydrate
  split
  · exact failsAs_pure v
  · next p _ =>
    intro allowed log e hFailed
    rcases exchanges_run_bind.mp hFailed with ⟨e', hHere, hSame⟩ |
      ⟨before, text, after, rfl, hHere, hThere⟩
    · cases hSame
      obtain ⟨-, rfl⟩ := exchanges_request.mp hHere
      cases hOfStore : e.isInfrastructure with
      | false => exact .inl hOfStore
      | true => exact .inr (.refused (List.mem_singleton_self _) hOfStore)
    · obtain ⟨-, rfl⟩ := exchanges_request.mp hHere
      split at hThere
      · cases (exchanges_pure.mp hThere).2
      · next hNoDocument =>
        cases (exchanges_pure.mp hThere).2
        exact .inr (.unread (List.mem_append_left after (List.mem_singleton_self _)) hNoDocument)

theorem hydrateIf_failsAs (hydrating : Bool) (v : Json) : FailsAs Own (hydrateIf hydrating v) := by
  unfold hydrateIf
  split
  · exact hydrate_failsAs v
  · exact failsAs_pure v

theorem Path.walk_failsAs (path : Path) (hydrating : Bool) (v : Json) :
    FailsAs Own (path.walk hydrating v) := by
  induction path generalizing v with
  | nil => exact (hydrateIf_failsAs hydrating v).bind fun w => failsAs_pure _
  | cons s rest ih =>
    refine (hydrateIf_failsAs hydrating v).bind fun w => ?_
    split
    · exact ih _
    · exact failsAs_pure _

theorem own_of_search {expr : String} {document : Json} {e : EngineError}
    (hFailed : search expr document = .error e) : Own e := by
  unfold search at hFailed
  split at hFailed
  · cases hFailed
    rfl
  · split at hFailed
    · cases hFailed
      rfl
    · split at hFailed <;> cases hFailed
      rfl

theorem resolve_failsAs (expr : String) (document : Json) (hydrating : Bool) :
    FailsAs Own (resolve expr document hydrating) := by
  unfold resolve
  split
  · split
    · exact Path.walk_failsAs _ hydrating document
    · have hFound : FailsAs Own (EngineProgram.ofExcept (search expr document)) := by
        cases hValue : search expr document with
        | ok r => exact failsAs_pure r
        | error e => exact failsAs_throw (own_of_search hValue)
      refine hFound.bind fun r => ?_
      cases r with
      | undefined => exact failsAs_pure _
      | value v => exact (hydrateIf_failsAs hydrating v).bind fun w => failsAs_pure _
  · exact failsAs_pure _

end Resolving

namespace Template

section Rendering

variable {own : EngineError → Prop}

def depthExceeded (maxDepth : Nat) : EngineError :=
  .templateDepth ("exceeded maximum depth of " ++ toString maxDepth)

theorem resolvePlaceholder_failsAs (expr : List Char) (scope : Json) :
    FailsAs own (resolvePlaceholder expr scope) :=
  ((resolve_failsAs _ scope true).map some).recover _

theorem interpolate_failsAs (scope : Json) (pieces : List Piece) :
    FailsAs own (interpolate scope pieces) := by
  induction pieces with
  | nil => exact failsAs_pure _
  | cons p rest ih =>
    have hFirst : FailsAs own (pieceText scope p) := by
      cases p with
      | literal c => exact failsAs_pure _
      | placeholder whole expr =>
        refine (resolvePlaceholder_failsAs expr scope).bind fun found => ?_
        cases found with
        | none => exact failsAs_pure _
        | some r => exact failsAs_pure _
    exact hFirst.bind fun s => ih.bind fun more => failsAs_pure _

theorem fill_failsAs (template : String) (scope : Json) : FailsAs own (fill template scope) := by
  unfold fill
  split
  · exact (resolvePlaceholder_failsAs _ scope).bind fun found => failsAs_pure _
  · split
    · exact (interpolate_failsAs scope _).bind fun s => failsAs_pure _
    · exact failsAs_pure _

theorem follow_failsAs (filled : Resolved) (scope : Json) : FailsAs own (follow filled scope) := by
  unfold follow
  split
  · split
    · exact (resolve_failsAs _ scope true).recover _
    · exact failsAs_pure _
  · exact failsAs_pure _

theorem renderRounds_failsAs (maxDepth rounds : Nat) (template : String) (scope : Json) :
    FailsAs (· = depthExceeded maxDepth) (renderRounds maxDepth rounds template scope) := by
  induction rounds generalizing template with
  | zero => exact failsAs_throw rfl
  | succ rounds ih =>
    refine (fill_failsAs template scope).bind fun filled =>
      (follow_failsAs filled scope).bind fun resolved => ?_
    split
    · split
      · exact ih _
      · exact failsAs_pure _
    · exact failsAs_pure _

mutual

theorem render_failsAs (maxDepth : Nat) (scope : Json) :
    (template : Json) → FailsAs (· = depthExceeded maxDepth) (render maxDepth scope template)
  | .null => failsAs_pure (Resolved.value .null)
  | .bool b => failsAs_pure (Resolved.value (.bool b))
  | .num n => failsAs_pure (Resolved.value (.num n))
  | .str s => renderRounds_failsAs maxDepth _ s scope
  | .arr items => (renderItems_failsAs maxDepth scope items).bind fun _ => failsAs_pure _
  | .obj fields => (renderFields_failsAs maxDepth scope fields).bind fun _ => failsAs_pure _

theorem renderItems_failsAs (maxDepth : Nat) (scope : Json) :
    (items : List Json) → FailsAs (· = depthExceeded maxDepth) (renderItems maxDepth scope items)
  | [] => failsAs_pure _
  | v :: rest => (render_failsAs maxDepth scope v).bind fun _ =>
      (renderItems_failsAs maxDepth scope rest).bind fun _ => failsAs_pure _

theorem renderFields_failsAs (maxDepth : Nat) (scope : Json) :
    (fields : List (String × Json)) →
    FailsAs (· = depthExceeded maxDepth) (renderFields maxDepth scope fields)
  | [] => failsAs_pure _
  | (_, v) :: rest => (render_failsAs maxDepth scope v).bind fun r =>
      (renderFields_failsAs maxDepth scope rest).bind fun _ => by
        cases r with
        | undefined => exact failsAs_pure _
        | value w => exact failsAs_pure _

end

end Rendering

end Template

/-- The program asks nothing: it has a value, or fails in a way of its own. -/
inductive Quiet {α : Type} (own : EngineError → Prop) : EngineProgram α → Prop where
  | value (a : α) : Quiet own (pure a)
  | failure {e : EngineError} (h : own e) : Quiet own (throw e)

section Quiet

variable {α β : Type} {own : EngineError → Prop} {p : EngineProgram α}

theorem Quiet.bind {f : α → EngineProgram β} (hFirst : Quiet own p)
    (hLater : ∀ a, p = pure a → Quiet own (f a)) : Quiet own (p >>= f) := by
  cases hFirst with
  | value a =>
    rw [pure_bind]
    exact hLater a rfl
  | failure h => exact .failure h

theorem Quiet.map (h : Quiet own p) (f : α → β) : Quiet own (f <$> p) := by
  rw [map_eq_pure_bind]
  exact h.bind fun a _ => .value (f a)

theorem Quiet.recover (h : Quiet Own p) (handle : EngineError → α) :
    ∃ a, p.recover handle = pure a := by
  cases h with
  | value a => exact ⟨a, rfl⟩
  | failure h =>
    rename_i e
    refine ⟨handle e, ?_⟩
    show (if e.isInfrastructure then throw e else pure (handle e) : EngineProgram α) = _
    rw [h]
    rfl

theorem Quiet.exchanges {allowed : Allowed} {log : List Exchange} {e : EngineError}
    (h : Quiet own p) (hFailed : Exchanges allowed p.run log (.error e)) : log = [] ∧ own e := by
  cases h with
  | value a => cases (exchanges_pure.mp hFailed).2
  | failure h =>
    obtain ⟨rfl, hSame⟩ := exchanges_pure.mp hFailed
    cases hSame
    exact ⟨rfl, h⟩

end Quiet

/-- The expression is a path, or a query whose answer in the document is no pointer. -/
def MakesNoPointer (document : Json) (expr : String) : Prop :=
  Path.ofText? expr = none → ∀ v, search expr document = .ok (.value v) → Pointer.ofJson? v = none

theorem resolve_quiet {document : Json} (hPlain : document.isPlain = true) {expr : String}
    (hBare : MakesNoPointer document expr) : Quiet Own (resolve expr document true) := by
  unfold resolve
  split
  · split
    · rw [Path.walk_of_isPlain hPlain]
      exact .value _
    · next hOther =>
      have hFound : Quiet Own (EngineProgram.ofExcept (search expr document)) := by
        cases hValue : search expr document with
        | ok r => exact .value r
        | error e => exact .failure (own_of_search hValue)
      refine hFound.bind fun r hSame => ?_
      have hValue : search expr document = .ok r := by
        cases hValue : search expr document <;> rw [hValue] at hSame <;> cases hSame
        rfl
      cases r with
      | undefined => exact .value _
      | value v =>
        have hKept : hydrateIf true v = pure v := hydrate_of_none (hBare hOther v hValue)
        dsimp only
        rw [hKept, pure_bind]
        exact .value _
  · exact .value _

namespace Template

/-- Within the rounds, rendering the text evaluates the expression: as a placeholder, as the text
that it becomes when the placeholders are filled, or in a later round. -/
inductive Evaluates (scope : Json) : Nat → String → String → Prop where
  | placeholder {rounds : Nat} {template : String} {whole expr : List Char}
      (hAmong : .placeholder whole expr ∈ pieces template.toList) :
      Evaluates scope (rounds + 1) template (queryOf expr)
  | filled {rounds : Nat} {template s : String}
      (hFirst : Reaches (fill template scope).run (.ok (.value (.str s))))
      (hQuery : Path.isQuery s = true) :
      Evaluates scope (rounds + 1) template s
  | later {rounds : Nat} {template next expr : String} {filled : Resolved}
      (hFirst : Reaches (fill template scope).run (.ok filled))
      (hSecond : Reaches (follow filled scope).run (.ok (.value (.str next))))
      (hInside : Evaluates scope rounds next expr) : Evaluates scope (rounds + 1) template expr

section Quiet

variable {scope : Json} (hPlain : scope.isPlain = true)

include hPlain

theorem resolvePlaceholder_quiet {expr : List Char} (hBare : MakesNoPointer scope (queryOf expr)) :
    ∃ found, resolvePlaceholder expr scope = pure found :=
  ((resolve_quiet hPlain hBare).map some).recover _

theorem interpolate_quiet {ps : List Piece}
    (hBare : ∀ whole expr, .placeholder whole expr ∈ ps → MakesNoPointer scope (queryOf expr)) :
    ∃ s, interpolate scope ps = pure s := by
  induction ps with
  | nil => exact ⟨"", rfl⟩
  | cons p rest ih =>
    obtain ⟨more, hOthers⟩ :=
      ih fun whole expr hAmong => hBare whole expr (List.mem_cons_of_mem _ hAmong)
    have hFirst : ∃ s, pieceText scope p = pure s := by
      cases p with
      | literal c => exact ⟨_, rfl⟩
      | placeholder whole expr =>
        obtain ⟨found, hSame⟩ :=
          resolvePlaceholder_quiet hPlain (hBare whole expr List.mem_cons_self)
        rw [pieceText, hSame, pure_bind]
        cases found with
        | none => exact ⟨_, rfl⟩
        | some r => exact ⟨_, rfl⟩
    obtain ⟨s, hSame⟩ := hFirst
    exact ⟨s ++ more, by rw [interpolate, hSame, hOthers, pure_bind, pure_bind]⟩

theorem fill_quiet {rounds : Nat} {template : String}
    (hBare : ∀ expr, Evaluates scope (rounds + 1) template expr → MakesNoPointer scope expr) :
    ∃ filled, fill template scope = pure filled := by
  have hPlaceholders : ∀ whole expr, .placeholder whole expr ∈ pieces template.toList →
      MakesNoPointer scope (queryOf expr) := fun whole expr hAmong => hBare _ (.placeholder hAmong)
  unfold fill
  split
  · next whole expr hSingle =>
    obtain ⟨found, hSame⟩ := resolvePlaceholder_quiet hPlain
      (hPlaceholders whole expr (hSingle ▸ List.mem_singleton_self _))
    exact ⟨_, by rw [hSame, pure_bind]⟩
  · split
    · obtain ⟨s, hSame⟩ := interpolate_quiet hPlain hPlaceholders
      exact ⟨_, by rw [hSame, pure_bind]⟩
    · exact ⟨_, rfl⟩

theorem follow_quiet {filled : Resolved}
    (hBare : ∀ s, filled = .value (.str s) → Path.isQuery s = true → MakesNoPointer scope s) :
    ∃ followed, follow filled scope = pure followed := by
  unfold follow
  split
  · next s =>
    split
    · next hQuery => exact (resolve_quiet hPlain (hBare s rfl hQuery)).recover _
    · exact ⟨_, rfl⟩
  · exact ⟨_, rfl⟩

theorem renderRounds_quiet (maxDepth rounds : Nat) {template : String}
    (hBare : ∀ expr, Evaluates scope rounds template expr → MakesNoPointer scope expr) :
    Quiet (· = depthExceeded maxDepth) (renderRounds maxDepth rounds template scope) := by
  induction rounds generalizing template with
  | zero => exact .failure rfl
  | succ rounds ih =>
    obtain ⟨filled, hFirst⟩ := fill_quiet hPlain hBare
    have hReached : Reaches (fill template scope).run (.ok filled) := by
      rw [hFirst]
      exact .done _
    have hAsked : ∀ s, filled = .value (.str s) → Path.isQuery s = true → MakesNoPointer scope s :=
      fun s hSame hQuery => hBare s (.filled (hSame ▸ hReached) hQuery)
    obtain ⟨followed, hSecond⟩ := follow_quiet hPlain hAsked
    have hReached' : Reaches (follow filled scope).run (.ok followed) := by
      rw [hSecond]
      exact .done _
    rw [renderRounds, hFirst, pure_bind, hSecond, pure_bind]
    split
    · next next_ =>
      split
      · exact ih fun expr hInside => hBare expr (.later hReached hReached' hInside)
      · exact .value _
    · exact .value _

end Quiet

/-- Rendering a text of the template evaluates the expression. -/
def EvaluatesIn (maxDepth : Nat) (scope template : Json) (expr : String) : Prop :=
  ∃ s, Json.Part (.str s) template ∧ Evaluates scope (maxDepth + 1) s expr

mutual

theorem render_quiet {scope : Json} (hPlain : scope.isPlain = true) (maxDepth : Nat) :
    (template : Json) →
    (∀ expr, EvaluatesIn maxDepth scope template expr → MakesNoPointer scope expr) →
    Quiet (· = depthExceeded maxDepth) (render maxDepth scope template)
  | .null, _ => .value (Resolved.value .null)
  | .bool b, _ => .value (Resolved.value (.bool b))
  | .num n, _ => .value (Resolved.value (.num n))
  | .str s, hBare =>
    renderRounds_quiet hPlain maxDepth _ fun expr hInside => hBare expr ⟨s, .self, hInside⟩
  | .arr items, hBare =>
    (renderItems_quiet hPlain maxDepth items fun _ hAmong expr ⟨s, hPart, hInside⟩ =>
      hBare expr ⟨s, .item hAmong hPart, hInside⟩).bind fun _ _ => .value _
  | .obj fields, hBare =>
    (renderFields_quiet hPlain maxDepth fields fun _ hAmong expr ⟨s, hPart, hInside⟩ =>
      hBare expr ⟨s, .field hAmong hPart, hInside⟩).bind fun _ _ => .value _

theorem renderItems_quiet {scope : Json} (hPlain : scope.isPlain = true) (maxDepth : Nat) :
    (items : List Json) →
    (∀ v ∈ items, ∀ expr, EvaluatesIn maxDepth scope v expr → MakesNoPointer scope expr) →
    Quiet (· = depthExceeded maxDepth) (renderItems maxDepth scope items)
  | [], _ => .value _
  | v :: rest, hBare =>
    have ⟨hFirst, hOthers⟩ := List.forall_mem_cons.mp hBare
    (render_quiet hPlain maxDepth v hFirst).bind fun _ _ =>
      (renderItems_quiet hPlain maxDepth rest hOthers).bind fun _ _ => .value _

theorem renderFields_quiet {scope : Json} (hPlain : scope.isPlain = true) (maxDepth : Nat) :
    (fields : List (String × Json)) →
    (∀ e ∈ fields, ∀ expr, EvaluatesIn maxDepth scope e.2 expr → MakesNoPointer scope expr) →
    Quiet (· = depthExceeded maxDepth) (renderFields maxDepth scope fields)
  | [], _ => .value _
  | (_, v) :: rest, hBare =>
    have ⟨hFirst, hOthers⟩ := List.forall_mem_cons.mp hBare
    (render_quiet hPlain maxDepth v hFirst).bind fun r _ =>
      (renderFields_quiet hPlain maxDepth rest hOthers).bind fun _ _ => by
        cases r with
        | undefined => exact .value _
        | value w => exact .value _

end

/-- Rendering fails because there were too many rounds or because of the object store. If the scope
holds no pointer and no expression that is evaluated makes one, nothing is asked of the store. -/
theorem render_fails {maxDepth : Nat} {scope template : Json} {allowed : Allowed}
    {log : List Exchange} {e : EngineError}
    (hFailed : Exchanges allowed (render maxDepth scope template).run log (.error e)) :
    (e = depthExceeded maxDepth ∨ HandedUp log e) ∧
      (scope.isPlain = true →
        (∀ expr, EvaluatesIn maxDepth scope template expr → MakesNoPointer scope expr) →
        log = [] ∧ e = depthExceeded maxDepth) :=
  ⟨render_failsAs maxDepth scope template _ _ _ hFailed,
    fun hPlain hBare => (render_quiet hPlain maxDepth template hBare).exchanges hFailed⟩

def failure? : Except EngineError Resolved → Option EngineError
  | .ok _ => none
  | .error e => some e

theorem exists_exchanges {p : EngineProgram Resolved} {e : EngineError} (host : Host)
    (hFailed : failure? (run Host.serve p.run host).1 = some e) :
    ∃ log, Exchanges (fun _ _ => True) p.run log (.error e) := by
  have hReached :
      Exchanges (fun _ _ => True) p.run (exchanged Host.serve p.run host)
        (run Host.serve p.run host).1 :=
    exchanges_run (fun _ _ => trivial) p.run host
  revert hFailed hReached
  cases (run Host.serve p.run host).1 with
  | ok r => exact nofun
  | error e' =>
    intro hFailed hReached
    cases hFailed
    exact ⟨_, hReached⟩

def greetingScope : Json := .obj [("greeting", .str "Dear \x7b\x7bname\x7d\x7d")]

theorem greeting_pieces : pieces "\x7b\x7bgreeting\x7d\x7d".toList =
    [.placeholder "\x7b\x7bgreeting\x7d\x7d".toList "greeting".toList] := by decide +kernel

theorem greeting_path : Path.ofText? (queryOf "greeting".toList) = some [.key "greeting"] := by
  decide +kernel

theorem greeting_filled : fill "\x7b\x7bgreeting\x7d\x7d" greetingScope =
    pure (.value (.str "Dear \x7b\x7bname\x7d\x7d")) := by
  rw [fill, greeting_pieces]
  dsimp only
  rw [resolvePlaceholder, resolve_of_ofText? greeting_path, Path.walk_of_isPlain (by decide)]
  rfl

theorem greeting_makesNoPointer (expr : String)
    (hEvaluated : EvaluatesIn 0 greetingScope (.str "\x7b\x7bgreeting\x7d\x7d") expr) :
    MakesNoPointer greetingScope expr := by
  obtain ⟨s, hPart, hInside⟩ := hEvaluated
  cases hPart
  cases hInside with
  | placeholder hAmong =>
    rw [greeting_pieces, List.mem_singleton] at hAmong
    cases hAmong
    intro hOther
    cases greeting_path.symm.trans hOther
  | filled hFirst hQuery =>
    rw [greeting_filled] at hFirst
    cases hFirst
    cases hQuery
  | later hFirst hSecond hInside => cases hInside

/-- Where there is one round only, the greeting fails for the number of rounds. -/
theorem greeting_fails : ∃ log, Exchanges (fun _ _ => True)
      (render 0 greetingScope (.str "\x7b\x7bgreeting\x7d\x7d")).run log
      (.error (depthExceeded 0)) ∧
    greetingScope.isPlain = true ∧ log = [] := by
  have hFailed :
      failure? (run Host.serve (render 0 greetingScope (.str "\x7b\x7bgreeting\x7d\x7d")).run
      { clock := ⟨0, 0⟩ }).1 = some (depthExceeded 0) := by decide +kernel
  obtain ⟨log, hExchanges⟩ := exists_exchanges _ hFailed
  have hPlain : greetingScope.isPlain = true := by decide
  exact ⟨log, hExchanges, hPlain, ((render_fails hExchanges).2 hPlain greeting_makesNoPointer).1⟩

/-- A scope that holds the parts of a pointer, but no pointer. -/
def letterScope : Json :=
  .obj [("place", .obj [("container", .str "large"), ("key", .str "letters/1.json")])]

/-- A query makes the pointer, and the object store is asked for it. -/
theorem letter_fails : letterScope.isPlain = true ∧ ∃ log e, Exchanges (fun _ _ => True)
      (render 10 letterScope (.str "$.\x7bobjectStoreRef: place\x7d")).run log (.error e) ∧
    e ≠ depthExceeded 10 := by
  have hFailed :
      failure? (run Host.serve (render 10 letterScope (.str "$.\x7bobjectStoreRef: place\x7d")).run
      { clock := ⟨0, 0⟩ }).1 = some (.objectStore "object not found: large/letters/1.json") := by
      decide +kernel
  obtain ⟨log, hExchanges⟩ := exists_exchanges _ hFailed
  exact ⟨by decide, log, _, hExchanges, nofun⟩

end Template

end Stepwise
