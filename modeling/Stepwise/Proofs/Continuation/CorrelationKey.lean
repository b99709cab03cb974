import Mathlib.Data.List.DropRight
import Stepwise.Host.Basic
import Stepwise.Proofs.Expression.Rounds
import Stepwise.Proofs.Program.Requests
import Stepwise.Proofs.Provenance.Vocabulary

/-!
# Correlation keys with missing data

The key of a waiting step where data is missing. What is missing alone makes no key. Within a longer
text it is left out, and what is left of the text has to be a key by itself.
-/

namespace Stepwise

set_option autoImplicit false

open Program Template

theorem Text.isBlank_of_trim {cs : List Char} (hBlank : trim cs = []) :
    ∀ c ∈ cs, isBlank c = true := by
  have hStart : ∀ c ∈ trimStart cs, isBlank c = true := by
    rw [trim, trimEnd, List.reverse_eq_nil_iff, List.dropWhile_eq_nil_iff] at hBlank
    simpa using hBlank
  have hNone : trimStart cs = [] := by
    rw [trimStart, ← List.dropWhile_idempotent, List.dropWhile_eq_nil_iff]
    exact hStart
  exact List.dropWhile_eq_nil_iff.mp hNone

theorem Template.needsRendering_blank {text : String} (hBlank : Text.trim text.toList = []) :
    needsRendering text = false := by
  have hOnly := Text.isBlank_of_trim hBlank
  have hOther {c : Char} (hShown : Text.isBlank c = false) : c ∉ text.toList := by
    intro hAmong
    rw [hOnly c hAmong] at hShown
    cases hShown
  have hDollar : '$' ∉ text.toList := hOther (by decide)
  have hQuery : Path.isQuery text = false := by
    unfold Path.isQuery
    split
    · next hFirst => exact absurd (hFirst ▸ List.mem_cons_self) hDollar
    · next hFirst => exact absurd (hFirst ▸ List.mem_cons_self) hDollar
    · next hFirst => exact absurd (hFirst ▸ List.mem_cons_self) hDollar
    · rfl
  have hBrace : '\x7b' ∉ text.toList := hOther (by decide)
  rw [needsRendering, hQuery, pieces_of_literal hBrace]
  simp [isPlaceholder]

section Surroundings

variable {σ : Type} (serve : (r : Request) → σ → Reply r × σ) (st : σ)

/-- The program succeeds with the value and changes nothing. -/
def Gets {α : Type} (p : EngineProgram α) (a : α) : Prop := run serve p.run st = (.ok a, st)

/-- What the pieces of a text become: values become text, what is undefined is left out, and what
cannot be resolved stays as it is. -/
inductive FilledWith (scope : Json) : List Piece → String → Prop where
  | nil : FilledWith scope [] ""
  | literal {c : Char} {rest : List Piece} {text : String} (hLater : FilledWith scope rest text) :
      FilledWith scope (.literal c :: rest) (String.singleton c ++ text)
  | missing {whole expr : List Char} {rest : List Piece} {text : String}
      (hUndefined : Gets serve st (resolvePlaceholder expr scope) (some .undefined))
      (hLater : FilledWith scope rest text) :
      FilledWith scope (.placeholder whole expr :: rest) text
  | found {whole expr : List Char} {rest : List Piece} {text : String} (v : Json)
      (hValue : Gets serve st (resolvePlaceholder expr scope) (some (.value v)))
      (hLater : FilledWith scope rest text) :
      FilledWith scope (.placeholder whole expr :: rest) ((Resolved.value v).inText ++ text)
  | kept {whole expr : List Char} {rest : List Piece} {text : String}
      (hUnresolved : Gets serve st (resolvePlaceholder expr scope) none)
      (hLater : FilledWith scope rest text) :
      FilledWith scope (.placeholder whole expr :: rest) (String.ofList whole ++ text)

variable {serve st}

theorem gets_pure {α : Type} (a : α) : Gets serve st (pure a) a := rfl

theorem snd_of_isRead (hQuiet : ∀ container key, (serve (.getObject container key) st).2 = st)
    {r : Request} (hRead : r.IsRead) : (serve r st).2 = st := by
  cases r with
  | getObject container key => exact hQuiet container key
  | _ => cases hRead

section Bind

variable {α β : Type} {p : EngineProgram α} {f : α → EngineProgram β} {a : α} {b : β}

theorem Gets.run_bind (hFirst : Gets serve st p a) :
    run serve (p >>= f).run st = run serve (f a).run st := run_bind_ok serve hFirst

theorem Gets.bind (hFirst : Gets serve st p a) (hLater : Gets serve st (f a) b) :
    Gets serve st (p >>= f) b := hFirst.run_bind.trans hLater

end Bind

theorem interpolate_gets {scope : Json} {ps : List Piece} {text : String}
    (h : FilledWith serve st scope ps text) : Gets serve st (interpolate scope ps) text := by
  have hPlaced {p : Piece} {rest : List Piece} {piece text : String}
      (hFirst : Gets serve st (pieceText scope p) piece)
      (hLater : Gets serve st (interpolate scope rest) text) :
      Gets serve st (interpolate scope (p :: rest)) (piece ++ text) :=
    hFirst.bind (hLater.bind (gets_pure _))
  induction h with
  | nil => exact gets_pure ""
  | literal _ ih => exact hPlaced (gets_pure _) ih
  | @missing whole expr rest text hUndefined _ ih =>
    have hFirst : Gets serve st (pieceText scope (.placeholder whole expr)) "" :=
      hUndefined.bind (gets_pure "")
    have hWhole := hPlaced hFirst ih
    rwa [String.empty_append] at hWhole
  | found v hValue _ ih => exact hPlaced (hValue.bind (gets_pure _)) ih
  | @kept whole expr rest text hUnresolved _ ih =>
    have hFirst : Gets serve st (pieceText scope (.placeholder whole expr)) (String.ofList whole) :=
      hUnresolved.bind (gets_pure _)
    exact hPlaced hFirst ih

section Filling

variable {scope : Json} {template text : String} {whole expr : List Char}

theorem fill_lone (hLone : pieces template.toList = [.placeholder whole expr])
    (hMissing : Gets serve st (resolvePlaceholder expr scope) (some .undefined)) :
    Gets serve st (fill template scope) .undefined := by
  unfold fill
  rw [hLone]
  exact hMissing.bind (gets_pure _)

theorem fill_longer (hAmong : .placeholder whole expr ∈ pieces template.toList)
    (hLonger : pieces template.toList ≠ [.placeholder whole expr])
    (hFilled : FilledWith serve st scope (pieces template.toList) text) :
    Gets serve st (fill template scope) (.value (.str text)) := by
  rw [fill_eq_interpolate hAmong hLonger]
  exact (interpolate_gets hFilled).bind (gets_pure _)

theorem filledWith_or_fails (hQuiet : ∀ container key, (serve (.getObject container key) st).2 = st)
    (scope : Json) (ps : List Piece) : (∃ text, FilledWith serve st scope ps text) ∨
      ∃ e, run serve (interpolate scope ps).run st = (.error e, st) := by
  induction ps with
  | nil => exact .inl ⟨"", .nil⟩
  | cons p rest ih =>
    have hFails {piece : String} (hFirst : Gets serve st (pieceText scope p) piece)
        (hLater : ∃ e, run serve (interpolate scope rest).run st = (.error e, st)) :
        ∃ e, run serve (interpolate scope (p :: rest)).run st = (.error e, st) := by
      obtain ⟨e, hFailed⟩ := hLater
      exact ⟨e, hFirst.run_bind.trans (run_bind_error serve hFailed)⟩
    cases p with
    | literal c => exact ih.imp (fun ⟨_, hFilled⟩ => ⟨_, .literal hFilled⟩) (hFails (gets_pure _))
    | placeholder whole expr =>
      have hSame : (run serve (resolvePlaceholder expr scope).run st).2 = st :=
        run_snd_of_only (resolvePlaceholder_reads expr scope).only fun _ => snd_of_isRead hQuiet
      cases hAnswer : (run serve (resolvePlaceholder expr scope).run st).1 with
      | error e =>
        have hFailed : run serve (pieceText scope (.placeholder whole expr)).run st =
          (.error e, st) :=
          run_bind_error serve (Prod.ext hAnswer hSame)
        exact .inr ⟨e, run_bind_error serve hFailed⟩
      | ok r =>
        have hGot : Gets serve st (resolvePlaceholder expr scope) r := Prod.ext hAnswer hSame
        cases r with
        | none => exact ih.imp (fun ⟨_, hFilled⟩ => ⟨_, .kept hGot hFilled⟩)
                    (hFails (hGot.bind (gets_pure _)))
        | some r =>
          cases r with
          | undefined =>
            exact ih.imp (fun ⟨_, hFilled⟩ => ⟨_, .missing hGot hFilled⟩)
              (hFails (hGot.bind (gets_pure _)))
          | value v =>
            exact ih.imp (fun ⟨_, hFilled⟩ => ⟨_, .found v hGot hFilled⟩)
              (hFails (hGot.bind (gets_pure _)))

end Filling

section Rounds

variable {scope : Json} {template text : String} {filled rendered : Resolved}
  {maxDepth rounds : Nat}

theorem follow_text (hPlain : Path.isQuery text = false) :
    Gets serve st (follow (.value (.str text)) scope) (.value (.str text)) := by
  rw [follow_of_not_query hPlain]
  exact gets_pure _

/-- Rendering ends where nothing new comes up that can be rendered. -/
theorem renderRounds_settled (hFirst : Gets serve st (fill template scope) filled)
    (hSecond : Gets serve st (follow filled scope) rendered)
    (hSettled : ∀ next, rendered = .value (.str next) →
      next = template ∨ needsRendering next = false) :
    Gets serve st (renderRounds maxDepth (rounds + 1) template scope) rendered := by
  refine run_renderRounds_of_ends maxDepth rounds ⟨hFirst.bind hSecond, ?_⟩
  rintro r ⟨⟩
  exact nextText?_eq_none hSettled

theorem renderRounds_again (hFirst : Gets serve st (fill template scope) filled)
    (hSecond : Gets serve st (follow filled scope) (.value (.str text)))
    (hNew : text ≠ template) (hMarked : needsRendering text = true) :
    run serve (renderRounds maxDepth (rounds + 1) template scope).run st =
      run serve (renderRounds maxDepth rounds text scope).run st := by
  exact run_renderRounds_of_new maxDepth rounds (hFirst.bind hSecond) (if_pos ⟨hNew, hMarked⟩)

end Rounds

end Surroundings

namespace Wait

/-- The key that a wait makes of what was rendered. -/
def keyOf (w : Wait) (s : Settings) (rendering : EngineProgram Resolved) : StepProgram String := do
  let rendered ← rendering.asStep
  .mk (pure ((w.keyText rendered).bind (w.checkKey s)))

section Keys

variable {w : Wait} {s : Settings} {rendered : Resolved} {text key : String} {e : StepError}

theorem checkKey_blank (hBlank : Text.trim text.toList = []) :
    w.checkKey s text = .error (w.invalidKey "rendered to an empty string") := by
  simp [checkKey, hBlank]

theorem of_checkKey (hAccepted : w.checkKey s text = .ok key) :
    key = text ∧ Text.trim key.toList ≠ [] := by
  unfold checkKey at hAccepted
  dsimp only at hAccepted
  split at hAccepted
  · cases hAccepted
  · next hShown =>
    repeat' split at hAccepted
    all_goals cases hAccepted
    exact ⟨rfl, by simpa using hShown⟩

theorem invalidKey_of_checkKey (hRefused : w.checkKey s text = .error e) :
    ∃ problem, e = w.invalidKey problem := by
  unfold checkKey at hRefused
  dsimp only at hRefused
  repeat' split at hRefused
  all_goals cases hRefused
  all_goals exact ⟨_, rfl⟩

theorem invalidKey_of_keyText (hRefused : w.keyText rendered = .error e) :
    ∃ problem, e = w.invalidKey problem := by
  unfold keyText at hRefused
  split at hRefused
  all_goals cases hRefused
  all_goals exact ⟨_, rfl⟩

end Keys

section Runs

variable {σ : Type} {serve : (r : Request) → σ → Reply r × σ} {st : σ} {w : Wait} {s : Settings}
  {scope : Json} {rendering : EngineProgram Resolved} {rendered : Resolved}

theorem run_keyOf : run serve (w.keyOf s rendering).run st =
    match run serve rendering.run st with
    | (.ok rendered, st') => ((w.keyText rendered).bind (w.checkKey s), st')
    | (.error e, st') => (.error (.ofEngine e), st') := by
  have hAsked : run serve rendering.asStep.run st =
      ((run serve rendering.run st).1.mapError StepError.ofEngine,
      (run serve rendering.run st).2) :=
    run_map serve rendering.run (Except.mapError StepError.ofEngine) st
  cases hAnswer : run serve rendering.run st with
  | mk outcome st' =>
    rw [hAnswer] at hAsked
    cases outcome with
    | ok rendered => exact (run_bind_ok serve hAsked).trans rfl
    | error e => exact run_bind_error serve hAsked

theorem run_snd_of_correlationKey
    (hQuiet : ∀ container key, (serve (.getObject container key) st).2 = st) :
    (run serve (w.correlationKey s scope).run st).2 = st :=
  run_snd_of_only (w.correlationKey_reads s scope) fun _ => snd_of_isRead hQuiet

theorem suspend_of_refused {e : StepError} {state : ExecutionState}
    (hUnchanged : (run serve (w.correlationKey s state.scope).run st).2 = st)
    (hRefused : (run serve (w.correlationKey s state.scope).run st).1 = .error e)
    (stepId resumeToken : String) :
    ∃ e, run serve (w.suspend s state stepId resumeToken).run st = (.error e, st) := by
  unfold suspend
  split
  · exact ⟨_, rfl⟩
  · exact ⟨e, run_bind_error serve (Prod.ext hRefused hUnchanged)⟩

variable (serve st) in
def makeKey (w : Wait) (s : Settings) (scope : Json) : Except StepError String × σ :=
  run serve (w.correlationKey s scope).run st

theorem makeKey_of_rendered
    (h : Gets serve st
      (renderText s.maxTemplateDepth.toNat w.correlationKeyTemplate scope) rendered) :
    w.makeKey serve st s scope = ((w.keyText rendered).bind (w.checkKey s), st) := by
  show run serve (w.keyOf s (renderText _ _ _)).run st = _
  rw [run_keyOf, h]

/-- A refusal is permanent, or the failure of a store that rendering met. -/
theorem makeKey_refused {e : StepError} (hRefused : (w.makeKey serve st s scope).1 = .error e) :
    (∃ message details, e = .permanent message details) ∨
      ∃ cause, cause.isInfrastructure = true ∧ e = .ofEngine cause ∧
        (run serve (renderText s.maxTemplateDepth.toNat w.correlationKeyTemplate scope).run st).1 =
          .error cause := by
  replace hRefused : (run serve (w.keyOf s (renderText s.maxTemplateDepth.toNat
    w.correlationKeyTemplate scope)).run st).1 = .error e := hRefused
  rw [run_keyOf] at hRefused
  cases hAnswer :
      run serve (renderText s.maxTemplateDepth.toNat w.correlationKeyTemplate scope).run st with
  | mk outcome st' =>
    rw [hAnswer] at hRefused
    cases outcome with
    | error cause =>
      cases hRefused
      cases hOfStore : cause.isInfrastructure with
      | true => exact .inr ⟨cause, hOfStore, rfl, rfl⟩
      | false => exact .inl ⟨_, _, by rw [StepError.ofEngine, hOfStore]; rfl⟩
    | ok rendered =>
      refine .inl ?_
      dsimp only at hRefused
      cases hRead : w.keyText rendered with
      | error e' =>
        rw [hRead] at hRefused
        cases hRefused
        obtain ⟨problem, rfl⟩ := invalidKey_of_keyText hRead
        exact ⟨_, _, rfl⟩
      | ok text =>
        rw [hRead] at hRefused
        obtain ⟨problem, rfl⟩ := invalidKey_of_checkKey hRefused
        exact ⟨_, _, rfl⟩

/-- A key is never blank. -/
theorem makeKey_accepted {key : String} (hAccepted : (w.makeKey serve st s scope).1 = .ok key) :
    Text.trim key.toList ≠ [] := by
  replace hAccepted : (run serve (w.keyOf s (renderText s.maxTemplateDepth.toNat
    w.correlationKeyTemplate scope)).run st).1 = .ok key := hAccepted
  rw [run_keyOf] at hAccepted
  split at hAccepted
  · next rendered st' hAnswer =>
    cases hRead : w.keyText rendered with
    | error e =>
      rw [hRead] at hAccepted
      cases hAccepted
    | ok text =>
      rw [hRead] at hAccepted
      exact (of_checkKey hAccepted).2
  · cases hAccepted

/-- What a placeholder that is undefined means for the key. -/
structure LeavesOut (serve : (r : Request) → σ → Reply r × σ) (st : σ) (w : Wait) (s : Settings)
    (scope : Json) (whole expr : List Char) : Prop where
  /-- The placeholder alone makes no key. -/
  lone : pieces w.correlationKeyTemplate.toList = [.placeholder whole expr] →
    w.makeKey serve st s scope = (.error (w.invalidKey "rendered to nothing"), st)
  /-- A longer template is filled with a text, in which the placeholder is left out. -/
  filled : pieces w.correlationKeyTemplate.toList ≠ [.placeholder whole expr] →
    (∃ text, FilledWith serve st scope (pieces w.correlationKeyTemplate.toList) text) ∨
      ∃ e, (w.makeKey serve st s scope).1 = .error e
  /-- A text that is blank is no key. -/
  blank : ∀ text, pieces w.correlationKeyTemplate.toList ≠ [.placeholder whole expr] →
    FilledWith serve st scope (pieces w.correlationKeyTemplate.toList) text →
      Text.trim text.toList = [] →
        w.makeKey serve st s scope = (.error (w.invalidKey "rendered to an empty string"), st)
  /-- A text that rendering leaves alone is the key, if it can be one. -/
  last : ∀ text, pieces w.correlationKeyTemplate.toList ≠ [.placeholder whole expr] →
    FilledWith serve st scope (pieces w.correlationKeyTemplate.toList) text →
      needsRendering text = false → w.makeKey serve st s scope = (w.checkKey s text, st)
  /-- Else the text is followed, if it is an expression, and the key is made of what it leads to. -/
  settled : ∀ text rendered, pieces w.correlationKeyTemplate.toList ≠ [.placeholder whole expr] →
    FilledWith serve st scope (pieces w.correlationKeyTemplate.toList) text →
      Gets serve st (follow (.value (.str text)) scope) rendered →
        (∀ next, rendered = .value (.str next) →
          next = w.correlationKeyTemplate ∨ needsRendering next = false) →
            w.makeKey serve st s scope = ((w.keyText rendered).bind (w.checkKey s), st)
  /-- A new text that can be rendered is rendered in its turn. -/
  again : ∀ text next, pieces w.correlationKeyTemplate.toList ≠ [.placeholder whole expr] →
    FilledWith serve st scope (pieces w.correlationKeyTemplate.toList) text →
      Gets serve st (follow (.value (.str text)) scope) (.value (.str next)) →
        next ≠ w.correlationKeyTemplate → needsRendering next = true →
          w.makeKey serve st s scope =
            run serve (w.keyOf s
              (renderRounds s.maxTemplateDepth.toNat s.maxTemplateDepth.toNat next scope)).run st
  shown : ∀ key, (w.makeKey serve st s scope).1 = .ok key → Text.trim key.toList ≠ []
  /-- A refusal is permanent, or the failure of a store. -/
  refused : ∀ e, (w.makeKey serve st s scope).1 = .error e →
    (∃ message details, e = .permanent message details) ∨
      ∃ cause, cause.isInfrastructure = true ∧ e = .ofEngine cause ∧
        (run serve (renderText s.maxTemplateDepth.toNat w.correlationKeyTemplate scope).run st).1 =
          .error cause
  /-- Where the key is refused, nothing is saved. -/
  unsaved : ∀ state e stepId resumeToken, state.scope = scope →
    (w.makeKey serve st s scope).1 = .error e →
      ∃ e, run serve (w.suspend s state stepId resumeToken).run st = (.error e, st)

/-- What is missing is left out of the key, and makes none alone. -/
theorem missing_data_left_out {whole expr : List Char}
    (hQuiet : ∀ container key, (serve (.getObject container key) st).2 = st)
    (hAmong : .placeholder whole expr ∈ pieces w.correlationKeyTemplate.toList)
    (hMissing : Gets serve st (resolvePlaceholder expr scope) (some .undefined)) :
    LeavesOut serve st w s scope whole expr := by
  have hSettled (text : String) (rendered : Resolved)
      (hLonger : pieces w.correlationKeyTemplate.toList ≠ [.placeholder whole expr])
      (hFilled : FilledWith serve st scope (pieces w.correlationKeyTemplate.toList) text)
      (hFollowed : Gets serve st (follow (.value (.str text)) scope) rendered)
      (hSettled : ∀ next, rendered = .value (.str next) →
        next = w.correlationKeyTemplate ∨ needsRendering next = false) :
      w.makeKey serve st s scope = ((w.keyText rendered).bind (w.checkKey s), st) :=
    makeKey_of_rendered
      (renderRounds_settled (fill_longer hAmong hLonger hFilled) hFollowed hSettled)
  have hLast (text : String)
      (hLonger : pieces w.correlationKeyTemplate.toList ≠ [.placeholder whole expr])
      (hFilled : FilledWith serve st scope (pieces w.correlationKeyTemplate.toList) text)
      (hLast : needsRendering text = false) :
      w.makeKey serve st s scope = (w.checkKey s text, st) := by
    have hPlain : Path.isQuery text = false := (Bool.or_eq_false_iff.mp hLast).1
    apply hSettled text (.value (.str text)) hLonger hFilled (follow_text hPlain)
    intro next hSame
    cases hSame
    exact .inr hLast
  constructor
  case lone =>
    intro hAlone
    exact makeKey_of_rendered
      (renderRounds_settled (fill_lone hAlone hMissing) (gets_pure _) fun _ hSame => nomatch hSame)
  case filled =>
    intro hLonger
    refine (filledWith_or_fails hQuiet scope _).imp_right fun ⟨e, hFailed⟩ => ⟨.ofEngine e, ?_⟩
    have hFirst : run serve (fill w.correlationKeyTemplate scope).run st = (.error e, st) := by
      rw [fill_eq_interpolate hAmong hLonger]
      exact run_bind_error serve hFailed
    show (run serve (w.keyOf s (renderRounds _ _ _ scope)).run st).1 = _
    rw [run_keyOf, renderRounds, run_bind_error serve hFirst]
  case blank =>
    intro text hLonger hFilled hBlank
    rw [hLast text hLonger hFilled (needsRendering_blank hBlank), checkKey_blank hBlank]
  case last => exact hLast
  case settled => exact hSettled
  case again =>
    intro text next hLonger hFilled hFollowed hNew hMarked
    show run serve (w.keyOf s (renderRounds _ _ _ scope)).run st = _
    rw [run_keyOf, run_keyOf,
      renderRounds_again (fill_longer hAmong hLonger hFilled) hFollowed hNew hMarked]
  case shown => exact fun key => makeKey_accepted
  case refused => exact fun e => makeKey_refused
  case unsaved =>
    intro state e stepId resumeToken hSame hRefused
    subst hSame
    exact suspend_of_refused (run_snd_of_correlationKey hQuiet) hRefused stepId resumeToken

end Runs

section Deliveries

def awaiting (template : String) : Wait where
  correlationKeyTemplate := template
  maxWaitTimeSeconds := none

def order : ExecutionState where
  executionId := "order 1"
  flowId := "deliveries"
  version := 1

def office : Host where
  clock := ⟨0, 0⟩

theorem customer_missing :
    Gets Host.serve office (resolvePlaceholder "customer".toList order.scope)
    (some .undefined) := by
  have hPath : Path.ofText? (queryOf "customer".toList) = some [.key "customer"] := by
    decide +kernel
  have hPlain : order.scope.isPlain = true := by decide +kernel
  have hAbsent : Path.find? [.key "customer"] order.scope = none := by decide +kernel
  rw [resolvePlaceholder, resolve_of_ofText? hPath, Path.walk_of_isPlain hPlain, hAbsent]
  rfl

theorem customer_among : .placeholder "\x7b\x7bcustomer\x7d\x7d".toList "customer".toList ∈
    pieces "delivery-\x7b\x7bcustomer\x7d\x7d".toList := by decide +kernel

/-- The text around the placeholder is a key, and the order waits under it. -/
theorem nameless_delivery_saved :
    .placeholder "\x7b\x7bcustomer\x7d\x7d".toList "customer".toList ∈
        pieces (awaiting "delivery-\x7b\x7bcustomer\x7d\x7d").correlationKeyTemplate.toList ∧
      Gets Host.serve office (resolvePlaceholder "customer".toList order.scope) (some .undefined) ∧
      ((awaiting "delivery-\x7b\x7bcustomer\x7d\x7d").makeKey Host.serve office {}
        order.scope).1.toOption = some "delivery-" ∧
      ((office.run ((awaiting "delivery-\x7b\x7bcustomer\x7d\x7d").suspend {} order "delivery"
        "token 1").run).2.continuations.entries.get? "delivery-").isSome = true :=
  ⟨customer_among, customer_missing, by decide +kernel, by decide +kernel⟩

theorem blank_delivery_unsaved :
    let blank := awaiting " \x7b\x7bcustomer\x7d\x7d "
    (∀ container key, (Host.serve (.getObject container key) office).2 = office) ∧
      Gets Host.serve office (resolvePlaceholder "customer".toList order.scope) (some .undefined) ∧
      blank.makeKey Host.serve office {} order.scope =
        (.error (blank.invalidKey "rendered to an empty string"), office) ∧
      ∃ e, run Host.serve (blank.suspend {} order "delivery" "token 1").run office =
        (.error e, office) := by
  intro blank
  have hCut : pieces blank.correlationKeyTemplate.toList = [.literal ' ',
      .placeholder "\x7b\x7bcustomer\x7d\x7d".toList "customer".toList, .literal ' '] := by
    decide +kernel
  have hQuiet : ∀ container key, (Host.serve (.getObject container key) office).2 = office :=
    fun _ _ => rfl
  have hAmong : .placeholder "\x7b\x7bcustomer\x7d\x7d".toList "customer".toList ∈
      pieces blank.correlationKeyTemplate.toList := by
    rw [hCut]
    decide
  have hLaw : LeavesOut Host.serve office blank {} order.scope _ _ :=
    missing_data_left_out hQuiet hAmong customer_missing
  have hFilled :
      FilledWith Host.serve office order.scope (pieces blank.correlationKeyTemplate.toList)
      (String.singleton ' ' ++ (String.singleton ' ' ++ "")) := by
    rw [hCut]
    exact .literal (.missing customer_missing (.literal .nil))
  have hRefused := hLaw.blank _ (by rw [hCut]; decide) hFilled (by decide)
  exact ⟨hQuiet, customer_missing, hRefused,
    hLaw.unsaved order _ "delivery" "token 1" rfl (congrArg Prod.fst hRefused)⟩

end Deliveries

end Wait

end Stepwise
