import Stepwise.Proofs.Expression.Failure
import Stepwise.Proofs.Expression.PathText
import Stepwise.Proofs.Expression.Pieces
import Stepwise.Proofs.Program.Ensures

/-!
# Rounds of rendering

How many rounds rendering takes. A text is rendered again as long as a round makes a new text that
can be rendered, up to the limit and not further. Each text of a document has all rounds to itself,
however deep it stands.
-/

namespace Stepwise

set_option autoImplicit false

namespace Template

/-- What one round makes of a text. -/
def roundOf (template : String) (scope : Json) : EngineProgram Resolved := do
  follow (← fill template scope) scope

/-- The text that the next round takes up, if there is one. -/
def nextText? (template : String) : Resolved → Option String
  | .value (.str next) => if next ≠ template ∧ needsRendering next then some next else none
  | _ => none

/-- Rendering stops at what it started from and at what cannot be rendered. -/
theorem nextText?_eq_none {template : String} {r : Resolved}
    (hSettled : ∀ next, r = .value (.str next) → next = template ∨ needsRendering next = false) :
    nextText? template r = none := by
  unfold nextText?
  split
  · next next =>
    apply if_neg
    rintro ⟨hNew, hMarked⟩
    rcases hSettled next rfl with hSame | hLast
    · exact hNew hSame
    · rw [hLast] at hMarked
      cases hMarked
  · rfl

theorem renderRounds_succ (maxDepth rounds : Nat) (template : String) (scope : Json) :
    renderRounds maxDepth (rounds + 1) template scope = roundOf template scope >>= fun r =>
      match nextText? template r with
      | some next => renderRounds maxDepth rounds next scope
      | none => pure r := by
  rw [renderRounds, roundOf, bind_assoc]
  congr
  funext filled
  congr
  funext r
  cases r with
  | undefined => rfl
  | value v =>
    cases v with
    | str next =>
      dsimp only [nextText?]
      split <;> rfl
    | _ => rfl

section Counting

open Program

variable {σ : Type} (serve : (r : Request) → σ → Reply r × σ) (scope : Json)

/-- After so many rounds, each of which made a new text, rendering has come to this text. -/
inductive Leads : Nat → σ → String → σ → String → Prop where
  | refl (st : σ) (template : String) : Leads 0 st template st template
  | round {rounds : Nat} {st st' st'' : σ} {template next text : String} {r : Resolved}
      (hMade : run serve (roundOf template scope).run st = (.ok r, st'))
      (hNew : nextText? template r = some next)
      (hLater : Leads rounds st' next st'' text) : Leads (rounds + 1) st template st'' text

/-- The round is the last one: it fails, or makes no new text. -/
def Ends (st : σ) (template : String) (outcome : Except EngineError Resolved × σ) : Prop :=
  run serve (roundOf template scope).run st = outcome ∧
    ∀ r, outcome.1 = .ok r → nextText? template r = none

variable {serve scope} {template : String} {st : σ} {outcome : Except EngineError Resolved × σ}

theorem run_renderRounds_of_ends (maxDepth rounds : Nat)
    (hLast : Ends serve scope st template outcome) :
    run serve (renderRounds maxDepth (rounds + 1) template scope).run st = outcome := by
  obtain ⟨hMade, hSettled⟩ := hLast
  rw [renderRounds_succ]
  rcases outcome with ⟨e | r, st'⟩
  · exact run_bind_error serve hMade
  · rw [run_bind_ok serve hMade, hSettled r rfl]
    rfl

theorem run_renderRounds_of_new (maxDepth rounds : Nat) {st' : σ} {next : String} {r : Resolved}
    (hMade : run serve (roundOf template scope).run st = (.ok r, st'))
    (hNew : nextText? template r = some next) :
    run serve (renderRounds maxDepth (rounds + 1) template scope).run st =
      run serve (renderRounds maxDepth rounds next scope).run st' := by
  rw [renderRounds_succ, run_bind_ok serve hMade, hNew]

theorem ends_or_new (serve : (r : Request) → σ → Reply r × σ) (scope : Json) (st : σ)
    (template : String) :
    (∃ outcome, Ends serve scope st template outcome) ∨
      ∃ r st' next, run serve (roundOf template scope).run st = (.ok r, st') ∧
        nextText? template r = some next := by
  rcases hMade : run serve (roundOf template scope).run st with ⟨e | r, st'⟩
  · exact .inl ⟨_, hMade, nofun⟩
  · cases hNew : nextText? template r with
    | none =>
      refine .inl ⟨_, hMade, fun r' hSame => ?_⟩
      cases hSame
      exact hNew
    | some next => exact .inr ⟨r, st', next, rfl, hNew⟩

/-- The limit is exact: rendering ends as it would without one if a round within the limit is the
last, and fails after as many rounds as there are if none is. -/
theorem run_renderRounds_iff (maxDepth rounds : Nat) :
    run serve (renderRounds maxDepth rounds template scope).run st = outcome ↔
      (∃ before st' text, before < rounds ∧ Leads serve scope before st template st' text ∧
        Ends serve scope st' text outcome) ∨
      ∃ text, Leads serve scope rounds st template outcome.2 text ∧
        outcome.1 = .error (depthExceeded maxDepth) := by
  -- on the rounds that are left: the first is the last one, or leads to a text with a round less
  induction rounds generalizing template st with
  | zero =>
    constructor
    · rintro rfl
      exact .inr ⟨template, .refl st template, rfl⟩
    · rintro (⟨before, st', text, hFew, -⟩ | ⟨text, hLeads, hFailed⟩)
      · cases hFew
      · rcases outcome with ⟨x, st'⟩
        cases hLeads
        cases hFailed
        rfl
  | succ rounds ih =>
    constructor
    · intro hRan
      rcases ends_or_new serve scope st template with ⟨outcome', hLast⟩ |
        ⟨r, st', next, hMade, hNew⟩
      · rw [run_renderRounds_of_ends maxDepth rounds hLast] at hRan
        subst hRan
        exact .inl ⟨0, st, template, Nat.succ_pos _, .refl st template, hLast⟩
      · rw [run_renderRounds_of_new maxDepth rounds hMade hNew] at hRan
        rcases ih.mp hRan with ⟨before, st'', text, hFew, hLeads, hLast⟩ | ⟨text, hLeads, hFailed⟩
        · exact .inl
            ⟨before + 1, st'', text, Nat.succ_lt_succ hFew, .round hMade hNew hLeads, hLast⟩
        · exact .inr ⟨text, .round hMade hNew hLeads, hFailed⟩
    · rintro (⟨before, st', text, hFew, hLeads, hLast⟩ | ⟨text, hLeads, hFailed⟩)
      · cases hLeads with
        | refl => exact run_renderRounds_of_ends maxDepth rounds hLast
        | round hMade hNew hLater =>
          rw [run_renderRounds_of_new maxDepth rounds hMade hNew]
          exact ih.mpr (.inl ⟨_, st', text, Nat.lt_of_succ_lt_succ hFew, hLater, hLast⟩)
      · cases hLeads with
        | round hMade hNew hLater =>
          rw [run_renderRounds_of_new maxDepth rounds hMade hNew]
          exact ih.mpr (.inr ⟨text, hLater, hFailed⟩)

end Counting

section Places

/-- One step into a document, to an item of a list or a field of an object, with what stands around
it. -/
inductive Layer where
  | item (before after : List Json)
  | field (before : List (String × Json)) (name : String) (after : List (String × Json))

/-- A place in a document, from the outside. -/
abbrev Place := List Layer

namespace Layer

def around : Layer → Json → Json
  | .item before after, v => .arr (before ++ v :: after)
  | .field before name after, v => .obj (before ++ (name, v) :: after)

def front : Layer → Layer
  | .item before _ => .item before []
  | .field before name _ => .field before name []

def position : Layer → Segment
  | .item before _ => .index before.length
  | .field _ name _ => .key name

end Layer

def Place.holding (place : Place) (part : Json) : Json := place.foldr Layer.around part

def Place.front (place : Place) : Place := place.map Layer.front

def Place.path (place : Place) : Path := place.map Layer.position

variable (maxDepth : Nat) (scope : Json)

def renderAt : Place → EngineProgram Resolved → EngineProgram Resolved
  | [], inside => inside
  | .item before after :: rest, inside => do
    let before ← renderItems maxDepth scope before
    let r ← renderAt rest inside
    let after ← renderItems maxDepth scope after
    pure (.value (.arr (before ++ r.orNull :: after)))
  | .field before name after :: rest, inside => do
    let before ← renderFields maxDepth scope before
    let r ← renderAt rest inside
    let after ← renderFields maxDepth scope after
    match r with
    | .undefined => pure (.value (.obj (before ++ after)))
    | .value v => pure (.value (.obj (before ++ (name, v) :: after)))

/-- Renders what stands around a place. -/
def renderAround : Place → EngineProgram Place
  | [] => pure []
  | .item before after :: rest => do
    let before ← renderItems maxDepth scope before
    let inner ← renderAround rest
    let after ← renderItems maxDepth scope after
    pure (.item before after :: inner)
  | .field before name after :: rest => do
    let before ← renderFields maxDepth scope before
    let inner ← renderAround rest
    let after ← renderFields maxDepth scope after
    pure (.field before name after :: inner)

variable {maxDepth scope}

theorem renderItems_append (items more : List Json) :
    renderItems maxDepth scope (items ++ more) = (do
    let front ← renderItems maxDepth scope items
    let back ← renderItems maxDepth scope more
    pure (front ++ back)) := by
  induction items with
  | nil => simp [renderItems]
  | cons v rest ih => simp [renderItems, ih]

theorem renderFields_append (fields more : List (String × Json)) :
    renderFields maxDepth scope (fields ++ more) = (do
      let front ← renderFields maxDepth scope fields
      let back ← renderFields maxDepth scope more
      pure (front ++ back)) := by
  induction fields with
  | nil => simp [renderFields]
  | cons e rest ih =>
    obtain ⟨name, v⟩ := e
    simp only [List.cons_append, renderFields, ih, bind_assoc, pure_bind]
    congr
    funext r
    cases r <;> simp

/-- A part of a document is rendered as it is by itself. -/
theorem render_holding (place : Place) (part : Json) : render maxDepth scope (place.holding part) =
    renderAt maxDepth scope place (render maxDepth scope part) := by
  induction place with
  | nil => rfl
  | cons layer rest ih =>
    cases layer with
    | item before after =>
      simp only [Place.holding, List.foldr_cons, Layer.around, render, renderItems_append] at ih ⊢
      simp [renderItems, renderAt, ← ih]
    | field before name after =>
      simp only [Place.holding, List.foldr_cons, Layer.around, render, renderFields_append] at ih ⊢
      simp only [renderFields, renderAt, ← ih, bind_assoc, pure_bind]
      congr
      funext fields
      congr
      funext r
      cases r <;> simp

theorem renderAt_pure (place : Place) (v : Json) :
    renderAt maxDepth scope place (pure (.value v)) = (do
    let around ← renderAround maxDepth scope place
    pure (.value (around.holding v))) := by
  induction place with
  | nil => rfl
  | cons layer rest ih =>
    cases layer with
    | item before after =>
      simp [renderAt, renderAround, ih, Resolved.orNull, Place.holding, Layer.around]
    | field before name after => simp [renderAt, renderAround, ih, Place.holding, Layer.around]

theorem renderAt_throw (place : Place) (e : EngineError) :
    renderAt maxDepth scope place (throw e) = (do
    let _ ← renderAround maxDepth scope place.front
    throw e) := by
  induction place with
  | nil => rfl
  | cons layer rest ih =>
    cases layer with
    | item before after =>
      simp [renderAt, renderAround, ih, Place.front, Layer.front, renderItems]
    | field before name after =>
      simp [renderAt, renderAround, ih, Place.front, Layer.front, renderFields]

theorem renderItems_length {allowed : Allowed} (items : List Json) :
    Program.Ensures allowed (fun rendered => rendered.length = items.length) (fun _ => True)
      (renderItems maxDepth scope items) := by
  induction items with
  | nil => exact Program.ensures_pure rfl
  | cons v rest ih =>
    refine (Program.ensures_true fun _ => trivial).bind fun r _ => ?_
    exact ih.bind fun more hSame => Program.ensures_pure (congrArg Nat.succ hSame)

/-- Places keep where they are, even if fields around them are left out. -/
theorem renderAround_path {allowed : Allowed} (place : Place) :
    Program.Ensures allowed (fun around => around.path = place.path) (fun _ => True)
      (renderAround maxDepth scope place) := by
  induction place with
  | nil => exact Program.ensures_pure rfl
  | cons layer rest ih =>
    cases layer with
    | item before after =>
      refine (renderItems_length before).bind fun front hLength => ih.bind fun inner hSame => ?_
      refine (Program.ensures_true fun _ => trivial).bind fun back _ => Program.ensures_pure ?_
      show Segment.index front.length :: inner.path = .index before.length :: Place.path rest
      rw [hLength, hSame]
    | field before name after =>
      refine (Program.ensures_true fun _ => trivial).bind fun front _ => ih.bind fun inner hSame =>
        ?_
      refine (Program.ensures_true fun _ => trivial).bind fun back _ => Program.ensures_pure ?_
      exact congrArg (Segment.key name :: ·) hSame

end Places

section Chains

/-- Each name but the last one holds the text that leads to the next, and the last one holds the
value. -/
inductive Linked (scope v : Json) : List String → Prop where
  | last {name : String} (hHolds : (Segment.key name).of? scope = some v) : Linked scope v [name]
  | link {name next : String} {rest : List String}
      (hHolds : (Segment.key name).of? scope = some (.str ("$." ++ next)))
      (hLater : Linked scope v (next :: rest)) : Linked scope v (name :: next :: rest)

/-- Texts of a scope that lead from one to the next. -/
structure Chain (scope v : Json) (first : String) (rest : List String) : Prop where
  linked : Linked scope v (first :: rest)
  named : ∀ name ∈ first :: rest, Path.IsName name
  distinct : (first :: rest).Nodup
  ordinary : "objectStoreRef" ∉ first :: rest

variable {scope v : Json} {name next : String}

theorem isQuery_dollar (name : String) : Path.isQuery ("$." ++ name) = true := by
  simp [Path.isQuery, String.toList_append]

theorem needsRendering_dollar (name : String) : needsRendering ("$." ++ name) = true := by
  rw [needsRendering, isQuery_dollar, Bool.true_or]

theorem dollar_injective (h : "$." ++ name = "$." ++ next) : name = next := by
  have hChars := congrArg String.toList h
  rw [String.toList_append, String.toList_append] at hChars
  exact String.toList_inj.mp (List.append_cancel_left hChars)

theorem ofJson?_of_field (hHolds : (Segment.key name).of? scope = some v)
    (hOrdinary : name ≠ "objectStoreRef") :
    Pointer.ofJson? scope = none := by
  unfold Pointer.ofJson?
  split
  · simp [Segment.of?, Dict.get?, Ne.symm hOrdinary] at hHolds
  · rfl

theorem resolve_dollar (hNamed : Path.IsName name) (hOrdinary : name ≠ "objectStoreRef")
    (hHolds : (Segment.key name).of? scope = some v) (hPlain : Pointer.ofJson? v = none) :
    resolve ("$." ++ name) scope true = pure (.value v) := by
  rw [resolve_of_ofText? (Path.ofText?_name hNamed), Path.walk_true_cons,
    hydrate_of_none (ofJson?_of_field hHolds hOrdinary), pure_bind, hHolds]
  simp [Path.walk, hydrateIf, hydrate_of_none hPlain]

/-- A text that leads to a name of the scope becomes what the name holds. -/
theorem roundOf_dollar (hNamed : Path.IsName name) (hOrdinary : name ≠ "objectStoreRef")
    (hHolds : (Segment.key name).of? scope = some v) (hPlain : Pointer.ofJson? v = none) :
    roundOf ("$." ++ name) scope = pure (.value v) := by
  have hNoBrace : '\x7b' ∉ ("$." ++ name).toList := by
    rw [String.toList_append, List.mem_append]
    rintro (hAmong | hAmong)
    · revert hAmong
      decide
    · exact absurd (hNamed.2 _ hAmong) (by decide +kernel)
  rw [roundOf, fill_of_not_mem hNoBrace, pure_bind, follow]
  simp only [isQuery_dollar, if_true, resolve_dollar hNamed hOrdinary hHolds hPlain]
  rfl

variable {maxDepth rounds : Nat} {first : String} {rest : List String}

theorem renderRounds_link (hNamed : Path.IsName name) (hOrdinary : name ≠ "objectStoreRef")
    (hHolds : (Segment.key name).of? scope = some (.str ("$." ++ next))) (hOther : next ≠ name) :
    renderRounds maxDepth (rounds + 1) ("$." ++ name) scope =
      renderRounds maxDepth rounds ("$." ++ next) scope := by
  have hNew : "$." ++ next ≠ "$." ++ name := fun hSame => hOther (dollar_injective hSame)
  rw [renderRounds_succ, roundOf_dollar hNamed hOrdinary hHolds rfl, pure_bind, nextText?,
    if_pos ⟨hNew, needsRendering_dollar next⟩]

theorem renderRounds_last (hNamed : Path.IsName name) (hOrdinary : name ≠ "objectStoreRef")
    (hHolds : (Segment.key name).of? scope = some v) (hPlain : Pointer.ofJson? v = none)
    (hSettled : nextText? ("$." ++ name) (.value v) = none) :
    renderRounds maxDepth (rounds + 1) ("$." ++ name) scope = pure (.value v) := by
  rw [renderRounds_succ, roundOf_dollar hNamed hOrdinary hHolds hPlain, pure_bind, hSettled]

/-- A chain is followed to its end if there are as many rounds as it has names. -/
theorem renderRounds_chain (hChain : Chain scope v first rest) (hPlain : Pointer.ofJson? v = none)
    (hSettled : ∀ s, v = .str s → needsRendering s = false) (rounds : Nat) :
    renderRounds maxDepth rounds ("$." ++ first) scope =
      if (first :: rest).length ≤ rounds then pure (.value v)
      else throw (depthExceeded maxDepth) := by
  obtain ⟨hLinked, hNamed, hDistinct, hOrdinary⟩ := hChain
  induction rest generalizing first rounds with
  | nil =>
    cases hLinked with
    | last hHolds =>
      cases rounds with
      | zero => rfl
      | succ rounds =>
        have hEnds : nextText? ("$." ++ first) (.value v) = none := by
          apply nextText?_eq_none
          rintro text ⟨⟩
          exact .inr (hSettled text rfl)
        rw [renderRounds_last (hNamed first List.mem_cons_self)
          (List.ne_of_not_mem_cons hOrdinary).symm hHolds
          hPlain hEnds, if_pos (by simp)]
  | cons next rest ih =>
    cases hLinked with
    | link hHolds hLater =>
      obtain ⟨hApart, hDistinct⟩ := List.nodup_cons.mp hDistinct
      cases rounds with
      | zero => rfl
      | succ rounds =>
        have hOther : next ≠ first := fun hSame => hApart (hSame ▸ List.mem_cons_self)
        rw [renderRounds_link (hNamed first List.mem_cons_self)
          (List.ne_of_not_mem_cons hOrdinary).symm hHolds hOther,
          ih rounds hLater
          (fun name hAmong => hNamed name (List.mem_cons_of_mem first hAmong)) hDistinct
            (List.not_mem_of_not_mem_cons hOrdinary)]
        simp only [List.length_cons, Nat.add_le_add_iff_right]

theorem Linked.next_of_mem (hLinked : Linked scope v (first :: rest))
    (hDistinct : (first :: rest).Nodup) (hAmong : name ∈ first :: rest) :
    (∃ next ∈ rest, next ≠ name ∧ (Segment.key name).of? scope = some (.str ("$." ++ next))) ∨
      (Segment.key name).of? scope = some v ∧ (rest ≠ [] → name ∈ rest) := by
  induction rest generalizing first with
  | nil =>
    cases hLinked with
    | last hHolds =>
      cases List.mem_singleton.mp hAmong
      exact .inr ⟨hHolds, fun hSome => absurd rfl hSome⟩
  | cons next rest ih =>
    cases hLinked with
    | link hHolds hLater =>
      obtain ⟨hApart, hDistinct⟩ := List.nodup_cons.mp hDistinct
      rcases List.mem_cons.mp hAmong with rfl | hAmong
      · exact .inl
          ⟨next, List.mem_cons_self, fun hSame => hApart (hSame ▸ List.mem_cons_self), hHolds⟩
      · rcases ih hLater hDistinct hAmong with ⟨next', hFurther, hOther, hHolds⟩ | ⟨hHolds, -⟩
        · exact .inl ⟨next', List.mem_cons_of_mem next hFurther, hOther, hHolds⟩
        · exact .inr ⟨hHolds, fun _ => hAmong⟩

/-- A ring of two names and more has no end. -/
theorem renderRounds_ring (hRing : Chain scope (.str ("$." ++ first)) first rest)
    (hMore : rest ≠ []) (rounds : Nat) (hAmong : name ∈ first :: rest) :
    renderRounds maxDepth rounds ("$." ++ name) scope = throw (depthExceeded maxDepth) := by
  -- each name leads to another one of the ring, so no round is the last
  induction rounds generalizing name with
  | zero => rfl
  | succ rounds ih =>
    have hNamed := hRing.named name hAmong
    have hOrdinary : name ≠ "objectStoreRef" := fun hSame => hRing.ordinary (hSame ▸ hAmong)
    rcases hRing.linked.next_of_mem hRing.distinct hAmong with ⟨next, hFurther, hOther, hHolds⟩ |
      ⟨hHolds, hLast⟩
    · rw [renderRounds_link hNamed hOrdinary hHolds hOther]
      exact ih (List.mem_cons_of_mem first hFurther)
    · have hOther : first ≠ name :=
        fun hSame => (List.nodup_cons.mp hRing.distinct).1 (hSame ▸ hLast hMore)
      rw [renderRounds_link hNamed hOrdinary hHolds hOther]
      exact ih List.mem_cons_self

end Chains

section Limit

/-- Renders what stands around a place that holds the value in the end. A failure at the place ends
the rendering behind what stands in front of it. -/
def renderPlaced (maxDepth : Nat) (scope : Json) (place : Place) :
    Except EngineError Json → EngineProgram Resolved
  | .ok v => do
    let around ← renderAround maxDepth scope place
    pure (.value (around.holding v))
  | .error e => do
    let _ ← renderAround maxDepth scope place.front
    throw e

/-- The text is rendered so, by itself and wherever it stands in a document. -/
structure RendersAs (maxDepth : Nat) (scope : Json) (text : String)
    (outcome : Except EngineError Json) :
    Prop where
  alone : renderText maxDepth text scope = .ofExcept (outcome.map .value)
  within : ∀ place : Place,
    render maxDepth scope (place.holding (.str text)) = renderPlaced maxDepth scope place outcome

theorem rendersAs_of_alone {maxDepth : Nat} {scope : Json} {text : String}
    {outcome : Except EngineError Json}
    (hAlone : renderText maxDepth text scope = .ofExcept (outcome.map .value)) :
    RendersAs maxDepth scope text outcome where
  alone := hAlone
  within place := by
    rw [render_holding, render, hAlone]
    cases outcome with
    | ok v => exact renderAt_pure place v
    | error e => exact renderAt_throw place e

/-- What the limit means. -/
structure DepthLimit (maxDepth : Nat) : Prop where
  /-- A chain is followed if it has at most one name more than the limit. -/
  chain : ∀ scope v first rest, Chain scope v first rest → Pointer.ofJson? v = none →
    (∀ s, v = .str s → needsRendering s = false) →
      RendersAs maxDepth scope ("$." ++ first)
        (if (first :: rest).length ≤ maxDepth + 1 then .ok v else .error (depthExceeded maxDepth))
  /-- A ring fails, unless a text leads to itself. -/
  ring : ∀ scope first rest, Chain scope (.str ("$." ++ first)) first rest →
    RendersAs maxDepth scope ("$." ++ first)
      (if rest = [] then .ok (.str ("$." ++ first)) else .error (depthExceeded maxDepth))
  /-- At most one round more than the limit is made: one of them is the last, or the rendering fails
  behind them. -/
  rounds : ∀ {σ : Type} (serve : (r : Request) → σ → Reply r × σ) (scope : Json)
    (template : String) (st : σ)
    (outcome : Except EngineError Resolved × σ),
      Program.run serve (renderText maxDepth template scope).run st = outcome ↔
        (∃ before st' text, before < maxDepth + 1 ∧ Leads serve scope before st template st' text ∧
          Ends serve scope st' text outcome) ∨
        ∃ text, Leads serve scope (maxDepth + 1) st template outcome.2 text ∧
          outcome.1 = .error (depthExceeded maxDepth)
  /-- Every text of a document has these rounds to itself. -/
  texts : ∀ (scope : Json) (place : Place) (text : String),
    render maxDepth scope (place.holding (.str text)) =
      renderAt maxDepth scope place (renderText maxDepth text scope)
  /-- Every place stays where it is. -/
  places : ∀ (allowed : Allowed) (scope : Json) (place around : Place),
    Program.ReachesUnder allowed (renderAround maxDepth scope place).run (.ok around) →
      around.path = place.path

theorem depth_limit_exact (maxDepth : Nat) : DepthLimit maxDepth where
  chain scope v first rest hChain hPlain hSettled := by
    refine rendersAs_of_alone ?_
    rw [renderText, renderRounds_chain hChain hPlain hSettled]
    split <;> rfl
  ring scope first rest hRing := by
    refine rendersAs_of_alone ?_
    rw [renderText]
    split
    · next hLone =>
      subst hLone
      have hEnds : nextText? ("$." ++ first) (.value (.str ("$." ++ first))) = none := by
        apply nextText?_eq_none
        rintro text ⟨⟩
        exact .inl rfl
      cases hRing.linked with
      | last hHolds =>
        exact renderRounds_last (hRing.named first List.mem_cons_self)
          (List.ne_of_not_mem_cons hRing.ordinary).symm hHolds rfl hEnds
    · next hMore => exact renderRounds_ring hRing hMore _ List.mem_cons_self
  rounds serve scope template st outcome := run_renderRounds_iff maxDepth (maxDepth + 1)
  texts scope place text := render_holding place (.str text)
  places allowed scope place around hReached := renderAround_path place _ hReached

def customer : Json :=
  .obj [("alias", .str "$.nick"), ("name", .str "Ada"), ("nick", .str "$.name"),
  ("ping", .str "$.pong"), ("pong", .str "$.ping")]

/-- The alias is two steps away from the name, and the ring has no end. -/
theorem alias_needs_three_rounds :
    Chain customer (.str "Ada") "alias" ["nick", "name"] ∧
    Chain customer (.str "$.ping") "ping" ["pong"] ∧
      renderText 2 "$.alias" customer = pure (.value (.str "Ada")) ∧
      renderText 1 "$.alias" customer = throw (depthExceeded 1) ∧
      render 2 customer (.arr [.null, .obj [("who", .str "$.alias")]]) =
        renderPlaced 2 customer [.item [.null] [], .field [] "who" []] (.ok (.str "Ada")) ∧
      renderText 2 "$.ping" customer = throw (depthExceeded 2) := by
  have hChain : Chain customer (.str "Ada") "alias" ["nick", "name"] := {
    linked := .link rfl (.link rfl (.last rfl))
    named := by decide +kernel
    distinct := by decide
    ordinary := by decide }
  have hRing : Chain customer (.str "$.ping") "ping" ["pong"] := {
    linked := .link rfl (.last rfl)
    named := by decide +kernel
    distinct := by decide
    ordinary := by decide }
  have hSettled : ∀ s, Json.str "Ada" = .str s → needsRendering s = false := by
    rintro s ⟨⟩
    decide +kernel
  have hTwo :=
    (depth_limit_exact 2).chain customer (.str "Ada") "alias" ["nick", "name"] hChain rfl hSettled
  exact ⟨hChain, hRing, hTwo.alone,
    ((depth_limit_exact 1).chain customer (.str "Ada") "alias"
    ["nick", "name"] hChain rfl hSettled).alone, hTwo.within [.item [.null] [], .field [] "who" []],
    ((depth_limit_exact 2).ring customer "ping" ["pong"] hRing).alone⟩

end Limit

end Template

end Stepwise
