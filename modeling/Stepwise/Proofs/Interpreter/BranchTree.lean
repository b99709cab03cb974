import Stepwise.Proofs.Interpreter.FanIn

/-!
# The tree of branches

The executions that grow out of one execution by forks. The id of a branch is the id of its parent
and the name of the branch behind a colon, so it spells the names on the way from the root. Where no
name of a fork goes on from another one with a colon, the way can be read off again.
-/

namespace Stepwise

set_option autoImplicit false

open Program

theorem nodup_of_repeated {seen names : List String} (h : repeated seen names = []) :
    names.Nodup ∧ ∀ name ∈ names, name ∉ seen := by
  induction names generalizing seen with
  | nil => simp
  | cons name rest ih =>
    rw [repeated] at h
    split at h
    · cases h
    · next hNew =>
      obtain ⟨hDistinct, hApart⟩ := ih h
      rw [List.contains_iff_mem] at hNew
      refine ⟨List.nodup_cons.mpr ⟨fun hAgain => hApart name hAgain List.mem_cons_self, hDistinct⟩,
        ?_⟩
      refine List.forall_mem_cons.mpr ⟨hNew, fun other hAmong hKnown => ?_⟩
      exact hApart other hAmong (List.mem_cons_of_mem name hKnown)

theorem Flow.branches_nodup {f : Flow} (hValid : f.problems = []) {id : String} {step : Step}
    {config : Fork} (h : (id, step) ∈ f.steps) (hKind : step.kind = .fork config) :
    (config.branches.map Branch.id).Nodup := by
  have hProblems := (problems_eq_nil hValid).2.2 _ h
  simp only [Step.problems, Step.branchIds, hKind, List.append_eq_nil_iff, List.map_eq_nil_iff]
    at hProblems
  exact (nodup_of_repeated hProblems.2).1

namespace Fork

variable {allowed : Allowed} {s : Settings} {state : ExecutionState} {branches : List Branch}
  {index : Nat} {payloads : List BranchPayload}

theorem payload_of_mem
    (h : ReachesUnder allowed (payloadsFrom s state index branches).run (.ok payloads))
    {p : BranchPayload} (hAmong : p ∈ payloads) :
    ∃ b ∈ branches, ∃ position, ReachesUnder allowed (b.payload s state position).run (.ok p) := by
  induction branches generalizing index payloads with
  | nil =>
    rw [payloadsFrom, reachesUnder_pure_ok] at h
    subst h
    cases hAmong
  | cons b rest ih =>
    rw [payloadsFrom, reachesUnder_bind_ok] at h
    obtain ⟨holds, -, h⟩ := h
    cases holds with
    | false =>
      obtain ⟨c, hMember, hBuilt⟩ := ih h hAmong
      exact ⟨c, List.mem_cons_of_mem b hMember, hBuilt⟩
    | true =>
      simp only [if_true, reachesUnder_bind_ok, reachesUnder_pure_ok] at h
      obtain ⟨q, hFirst, more, hContinued, rfl⟩ := h
      rcases List.mem_cons.mp hAmong with rfl | hLater
      · exact ⟨b, List.mem_cons_self, index, hFirst⟩
      · obtain ⟨c, hMember, hBuilt⟩ := ih hContinued hLater
        exact ⟨c, List.mem_cons_of_mem b hMember, hBuilt⟩

theorem executionId_of_mem
    (h : ReachesUnder allowed (payloadsFrom s state index branches).run (.ok payloads))
    {p : BranchPayload} (hAmong : p ∈ payloads) :
    p.executionId = branchExecutionId state.executionId p.branchId := by
  obtain ⟨b, -, position, hBuilt⟩ := payload_of_mem h hAmong
  simp only [Branch.payload, reachesUnder_bind_ok, reachesUnder_pure_ok] at hBuilt
  obtain ⟨input, -, rfl⟩ := hBuilt
  rfl

theorem payloads_nodup (hDistinct : (branches.map Branch.id).Nodup)
    (h : ReachesUnder allowed (payloadsFrom s state index branches).run (.ok payloads)) :
    (payloads.map BranchPayload.branchId).Nodup := by
  obtain ⟨started, hFans⟩ := payloadsFrom_fansOut h
  have hNames := congrArg (List.map Prod.fst) hFans.places
  simp only [List.map_map] at hNames
  have hAmong := (hFans.among.map Prod.fst).map Branch.id
  rw [List.zipIdx_map_fst, List.map_map] at hAmong
  exact (hNames ▸ hDistinct.sublist hAmong :)

end Fork

def StepResult.branches (result : StepResult) : List BranchPayload :=
  match result.action with
  | .fork branches _ _ => branches
  | _ => []

namespace Interpreter

section Forking

variable {allowed : Allowed} {s : Settings} {state : ExecutionState} {flow : Flow} {step : Step}
  {result : StepResult} {p : BranchPayload}

theorem branches_action (state : ExecutionState) (step : Step) :
    StepResult.branches ⟨state, step.action⟩ = [] := by
  unfold StepResult.branches Step.action
  cases step.kind <;> rfl

theorem branches_failTerminally (state : ExecutionState) (flow : Option Flow)
    (failed : Option String) (error : ErrorInfo) :
    (state.failTerminally flow failed error).branches = [] := by
  unfold ExecutionState.failTerminally
  dsimp only
  split
  · next target action hFound =>
    obtain ⟨f, -, hFound⟩ := Option.bind_eq_some_iff.mp hFound
    obtain ⟨id, -, hFound⟩ := Option.bind_eq_some_iff.mp hFound
    obtain ⟨_, goal, -, -, -, rfl⟩ := Flow.fallbackFrom?_eq_some hFound
    exact branches_action _ goal
  · rfl

theorem branches_leaves (h : Leaves allowed s flow step state result) : result.branches = [] := by
  cases h with
  | moves => exact branches_action _ _
  | ends => rfl

/-- Only a fork starts branches, and those are the ones of its fan-out. -/
theorem forked_of_runStep (h : ReachesUnder allowed (runStep s flow step state).run (.ok result))
    (hAmong : p ∈ result.branches) : ∃ config, step.kind = .fork config ∧ result.state = state ∧
      ReachesUnder allowed (config.payloads s state).run (.ok result.branches) := by
  have hNone : result.branches ≠ [] := List.ne_nil_of_mem hAmong
  cases runStep_works h with
  | waits | polls => cases hAmong
  | leaves _ hLeft => exact absurd (branches_leaves hLeft) hNone
  | leavesPoll _ hLeft => exact absurd (branches_leaves hLeft) hNone
  | @forks config branches hKind =>
    refine ⟨config, hKind, rfl, ?_⟩
    simp only [runStep, hKind, fork, reachesUnder_bind_ok, EngineProgram.reachesUnder_asStep_ok]
      at h
    obtain ⟨payloads, hFanned, h⟩ := h
    split at h
    · rw [reachesUnder_bind_ok] at h
      obtain ⟨output, -, h⟩ := h
      exact absurd (branches_leaves (complete_leaves h)) hNone
    · cases reachesUnder_pure_ok.mp h
      exact hFanned

theorem forked_of_work {c : Call} {r : Ready} (h : ReachesUnder allowed (c.work s r) (.ok result))
    (hAmong : p ∈ result.branches) : ∃ config, r.step.kind = .fork config ∧ result.state = r.state ∧
      ReachesUnder allowed (config.payloads s r.state).run (.ok result.branches) := by
  have hNone : result.branches ≠ [] := List.ne_nil_of_mem hAmong
  cases c with
  | execute => exact forked_of_runStep (running_ok.mp h) hAmong
  | suspend resumeToken =>
    simp only [Call.work] at h
    split at h
    · rw [running_ok, ExceptT.run_map, reachesUnder_map] at h
      obtain ⟨outcome, -, h⟩ := h
      cases outcome with
      | error e => cases h
      | ok record =>
        cases h
        cases hAmong
    · exact absurd h not_refusing_ok
  | resumeWithEvent payload =>
    simp only [Call.work] at h
    split at h
    · exact absurd (branches_leaves (complete_leaves (running_ok.mp h))) hNone
    · exact absurd h not_refusing_ok
  | aggregate results =>
    simp only [Call.work] at h
    split at h
    · rw [running_ok] at h
      simp only [mergeAndComplete, reachesUnder_bind_ok] at h
      obtain ⟨output, -, h⟩ := h
      exact absurd (branches_leaves (complete_leaves h)) hNone
    · exact absurd h not_refusing_ok
  | retriesExhausted error => simp [Call.work] at h

theorem found_of_ready {r : Ready} (h : Prepares allowed state (.ok r)) :
    allowed (.findFlow state.flowId state.version) (.ok (some r.flow)) ∧
      r.state = activate r.flow state ∧ ∃ id, (id, r.step) ∈ r.flow.steps := by
  generalize hPrepared : Except.ok r = x at h
  cases h with
  | ended | missing | failed => cases hPrepared
  | @found flow hLive hReply =>
    split at hPrepared
    · next hLocated =>
      cases hPrepared
      unfold locate at hLocated
      split at hLocated
      · cases hLocated
      · next id _ =>
        split at hLocated
        · next step hKnown =>
          cases hLocated
          exact ⟨hReply, rfl, id, Dict.mem_of_get? hKnown⟩
        · cases hLocated
    · cases hPrepared

theorem branches_of_stopped (h : Prepares allowed state (.error (.ok result))) :
    result.branches = [] := by
  generalize hPrepared : Except.error (Except.ok result) = x at h
  cases h with
  | ended =>
    cases hPrepared
    rfl
  | missing =>
    cases hPrepared
    exact branches_failTerminally state none _ _
  | failed =>
    split at hPrepared
    · cases hPrepared
    · cases hPrepared
      exact branches_failTerminally state none _ _
  | found =>
    split at hPrepared
    · cases hPrepared
    · next hLocated =>
      cases hPrepared
      unfold locate at hLocated
      split at hLocated
      · cases hLocated
        rfl
      · split at hLocated
        · cases hLocated
        · cases hLocated
          exact branches_failTerminally _ _ _ _

theorem branches_of_failed {r : Ready} {failure : Failure}
    (h : conclude s r (.error failure) = .ok result) : result.branches = [] := by
  cases failure with
  | refused info =>
    cases h
    exact branches_failTerminally _ _ _ _
  | run e =>
    simp only [conclude, settle] at h
    split at h
    · split at h
      · cases h
      · cases h
        exact branches_failTerminally _ _ _ _
    · cases h
      exact branches_failTerminally _ _ _ _

/-- The branches that a call starts are those of a fork in a flow that was found. -/
theorem forked_of_program {c : Call} (h : ReachesUnder allowed (c.program s state) (.ok result))
    (hAmong : p ∈ result.branches) : ∃ flow id step config,
      allowed (.findFlow state.flowId state.version) (.ok (some flow)) ∧ (id, step) ∈ flow.steps ∧
        step.kind = .fork config ∧ result.state = activate flow state ∧
        ReachesUnder allowed (config.payloads s result.state).run (.ok result.branches) := by
  have hNone : result.branches ≠ [] := List.ne_nil_of_mem hAmong
  rcases Call.program_reaches h with hStopped | ⟨r, outcome, hReady, hWorked, hAnswered⟩
  · exact absurd (branches_of_stopped hStopped) hNone
  · cases outcome with
    | error failure => exact absurd (branches_of_failed hAnswered.symm) hNone
    | ok worked' =>
      cases hAnswered
      obtain ⟨config, hKind, hKept, hFanned⟩ := forked_of_work hWorked hAmong
      obtain ⟨hFound, hBegun, id, hMember⟩ := found_of_ready hReady
      exact ⟨r.flow, id, r.step, config, hFound, hMember, hKind, hKept.trans hBegun,
        hKept ▸ hFanned⟩

end Forking

/-- The branches that lead from the root of a tree to one of its executions. -/
abbrev Trail := List BranchPayload

/-- The executions of a tree that grows from a root. An execution goes on by calls; it runs at most
one fork, whose branches are those started at the end of its trail, and every branch begins an
execution. -/
inductive Grows (allowed : Allowed) (s : Settings) (root : ExecutionState)
    (started : Trail → List BranchPayload) : Trail → ExecutionState → Prop where
  | root : Grows allowed s root started [] root
  | call {trail : Trail} {state : ExecutionState} {answer : Answered} (c : Call)
      (hBefore : Grows allowed s root started trail state)
      (h : ReachesUnder allowed (c.program s state) answer) :
      Grows allowed s root started trail (stateOf answer)
  | branch {trail : Trail} {state : ExecutionState} {result : StepResult} {p : BranchPayload}
    (c : Call)
      (hBefore : Grows allowed s root started trail state)
      (h : ReachesUnder allowed (c.program s state) (.ok result))
      (hForks : result.branches = started trail) (hAmong : p ∈ started trail) :
      Grows allowed s root started (trail ++ [p]) (p.initialState result.state)

section Names

variable {allowed : Allowed} {s : Settings} {root state : ExecutionState}
  {started : Trail → List BranchPayload} {trail : Trail} {p : BranchPayload}

theorem program_same {c : Call} {answer : Answered}
    (h : ReachesUnder allowed (c.program s state) answer) :
    SameExecution state (stateOf answer) := by
  rcases Call.program_reaches h with hStopped | ⟨r, outcome, hReady, hWorked, rfl⟩
  · obtain ⟨begun, hBegins, hSame, -⟩ := begins_of_stopped hStopped
    exact hBegins.same.trans hSame
  · refine (begins_of_ready hReady).same.trans ?_
    cases outcome with
    | error failure => exact (conclude_error_keeps s r failure).1
    | ok result => exact (work_changes hWorked).1

namespace Trail

/-- The id of the execution that a trail leads to. -/
def idFrom (root : String) (trail : Trail) : String :=
  trail.foldl (fun id p => branchExecutionId id p.branchId) root

theorem idFrom_append (root : String) (trail : Trail) (p : BranchPayload) :
    idFrom root (trail ++ [p]) = branchExecutionId (idFrom root trail) p.branchId :=
  List.foldl_concat _ _ _ _

theorem idFrom_eq_intercalate (root : String) (trail : Trail) :
    idFrom root trail = ":".intercalate (root :: trail.map BranchPayload.branchId) := by
  induction trail generalizing root with
  | nil => rfl
  | cons p rest ih => exact ih (branchExecutionId root p.branchId)

/-- An id goes on with nothing or with a colon. -/
theorem exists_idFrom_eq (trail : Trail) : ∃ tail : String, (tail = "" ↔ trail = []) ∧
    (tail = "" ∨ ∃ more, tail = ":" ++ more) ∧ ∀ root, idFrom root trail = root ++ tail := by
  induction trail with
  | nil => exact ⟨"", by simp, .inl rfl, fun root => by simp [idFrom]⟩
  | cons p rest ih =>
    obtain ⟨tail, -, -, hSpelled⟩ := ih
    refine ⟨":" ++ (p.branchId ++ tail), by simp, .inr ⟨_, rfl⟩, fun root => ?_⟩
    exact (hSpelled (branchExecutionId root p.branchId)).trans
      (by simp [branchExecutionId, String.append_assoc])

theorem idFrom_cons_ne (root : String) (p : BranchPayload) (rest : Trail) :
    idFrom root (p :: rest) ≠ root := by
  obtain ⟨tail, hEnds, -, hSpelled⟩ := exists_idFrom_eq (p :: rest)
  intro hSame
  rw [hSpelled root, String.append_eq_left_iff] at hSame
  cases hEnds.mp hSame

/-- A name that ends later than another one, within an id, goes on from it with a colon. -/
theorem eq_or_goes_on {name longer tail : String} (hShape : tail = "" ∨ ∃ more, tail = ":" ++ more)
    {between rest : List Char} (hGoes : longer.toList = name.toList ++ between)
    (hCut : tail.toList = between ++ rest) :
    longer = name ∨ ∃ more, longer = branchExecutionId name more := by
  cases between with
  | nil => exact .inl (String.toList_inj.mp (by simpa using hGoes))
  | cons c more =>
    rcases hShape with rfl | ⟨after, rfl⟩
    · cases hCut
    · obtain ⟨rfl, -⟩ : ':' = c ∧ _ := by simpa using hCut
      exact .inr
        ⟨String.ofList more, String.toList_inj.mp (by simpa [branchExecutionId] using hGoes)⟩

/-- Where two ids go on from one id, they go on with one name, or a name goes on from the other. -/
theorem names_of_idFrom {root : String} {p q : BranchPayload} {rest rest' : Trail}
    (hSame : idFrom root (p :: rest) = idFrom root (q :: rest')) :
    p.branchId = q.branchId ∨ (∃ more, q.branchId = branchExecutionId p.branchId more) ∨
      ∃ more, p.branchId = branchExecutionId q.branchId more := by
  obtain ⟨tail, -, hShape, hSpelled⟩ := exists_idFrom_eq rest
  obtain ⟨tail', -, hShape', hSpelled'⟩ := exists_idFrom_eq rest'
  have hTexts : p.branchId.toList ++ tail.toList = q.branchId.toList ++ tail'.toList := by
    have hWhole := (hSpelled _).symm.trans (hSame.trans (hSpelled' _))
    simpa [branchExecutionId] using congrArg String.toList hWhole
  rcases List.append_eq_append_iff.mp hTexts with ⟨between, hLonger, hCut⟩ |
    ⟨between, hLonger, hCut⟩
  · rcases eq_or_goes_on hShape hLonger hCut with hSame | hNested
    · exact .inl hSame.symm
    · exact .inr (.inl hNested)
  · rcases eq_or_goes_on hShape' hLonger hCut with hSame | hNested
    · exact .inl hSame
    · exact .inr (.inr hNested)

end Trail

/-- An execution is named after its trail. -/
theorem executionId_of_grows (h : Grows allowed s root started trail state) :
    state.executionId = Trail.idFrom root.executionId trail := by
  induction h with
  | root => rfl
  | call c hBefore h ih => exact (program_same h).executionId.trans ih
  | @branch trail state result p c hBefore h hForks hAmong ih =>
    obtain ⟨flow, id, step, config, -, -, -, -, hFanned⟩ := forked_of_program h (hForks ▸ hAmong)
    have hNamed := Fork.executionId_of_mem hFanned (hForks ▸ hAmong)
    have hSame : result.state.executionId = state.executionId := (program_same h).executionId
    rw [Trail.idFrom_append, ← ih, ← hSame, ← hNamed]
    unfold BranchPayload.initialState
    cases p.target <;> rfl

/-- What is known of the last branch of a trail. -/
structure Branches (allowed : Allowed) (s : Settings) (root : ExecutionState)
    (started : Trail → List BranchPayload) (trail : Trail) (p : BranchPayload) : Prop where
  grown : ∃ parent, Grows allowed s root started trail parent
  among : p ∈ started trail
  distinct : ((started trail).map BranchPayload.branchId).Nodup
  named : p.executionId = Trail.idFrom root.executionId (trail ++ [p])

theorem branches_of_grows
    (hValid : ∀ id version flow, allowed (.findFlow id version) (.ok (some flow)) →
      flow.problems = [])
    (h : Grows allowed s root started (trail ++ [p]) state) :
    Branches allowed s root started trail p := by
  generalize hWhole : trail ++ [p] = way at h
  induction h with
  | root => simp at hWhole
  | call c hBefore h ih => exact ih hWhole
  | @branch trail' state result p' c hBefore h hForks hAmong =>
    obtain ⟨rfl, rfl⟩ : trail = trail' ∧ p = p' := by simpa using hWhole
    obtain ⟨flow, id, step, config, hFound, hMember, hKind, -, hFanned⟩ :=
      forked_of_program h (hForks ▸ hAmong)
    refine ⟨⟨state, hBefore⟩, hAmong, ?_, ?_⟩
    · rw [← hForks]
      exact Fork.payloads_nodup (Flow.branches_nodup (hValid _ _ flow hFound) hMember hKind) hFanned
    · rw [Trail.idFrom_append, ← executionId_of_grows hBefore, ← (program_same h).executionId]
      exact Fork.executionId_of_mem hFanned (hForks ▸ hAmong)

theorem grows_before (way rest : Trail) (h : Grows allowed s root started (way ++ rest) state) :
    ∃ before, Grows allowed s root started way before := by
  generalize hWhole : way ++ rest = trail at h
  induction h generalizing rest with
  | root => exact ⟨root, (List.append_eq_nil_iff.mp hWhole).1 ▸ .root⟩
  | call c hBefore h ih => exact ih rest hWhole
  | branch c hBefore h hForks hAmong ih =>
    rcases List.eq_nil_or_concat' rest with rfl | ⟨more, last, rfl⟩
    · rw [List.append_nil] at hWhole
      exact ⟨_, hWhole ▸ Grows.branch c hBefore h hForks hAmong⟩
    · rw [← List.append_assoc] at hWhole
      exact ih more (List.append_inj_left' hWhole rfl)

theorem branches_of_way
    (hValid : ∀ id version flow, allowed (.findFlow id version) (.ok (some flow)) →
      flow.problems = [])
    {way rest : Trail} (h : Grows allowed s root started (way ++ p :: rest) state) :
    Branches allowed s root started way p :=
  have ⟨_, hGrown⟩ := grows_before (way ++ [p]) rest (by simpa using h)
  branches_of_grows hValid hGrown

theorem Branches.eq_of_branchId {q : BranchPayload} (h : Branches allowed s root started trail p)
    (h' : Branches allowed s root started trail q) (hSame : p.branchId = q.branchId) : p = q :=
  List.inj_on_of_nodup_map h.distinct h.among h'.among hSame

/-- No name of a fork is another one with more behind a colon. -/
def Unnested (branches : List BranchPayload) : Prop :=
  ∀ p ∈ branches, ∀ q ∈ branches, ∀ more, q.branchId ≠ branchExecutionId p.branchId more

theorem unnested_of_plain {branches : List BranchPayload}
    (hPlain : ∀ p ∈ branches, ':' ∉ p.branchId.toList) : Unnested branches := by
  intro p _ q hAmong more hNested
  exact hPlain q hAmong (by simp [hNested, branchExecutionId])

theorem trail_eq_of_idFrom
    (hValid : ∀ id version flow, allowed (.findFlow id version) (.ok (some flow)) →
      flow.problems = [])
    (hUnnested : ∀ way, Unnested (started way)) (way : Trail) {rest rest' : Trail}
    {a b : ExecutionState} (h : Grows allowed s root started (way ++ rest) a)
    (h' : Grows allowed s root started (way ++ rest') b)
    (hSame : Trail.idFrom (Trail.idFrom root.executionId way) rest =
      Trail.idFrom (Trail.idFrom root.executionId way) rest') : rest = rest' := by
  induction rest generalizing way rest' with
  | nil =>
    cases rest' with
    | nil => rfl
    | cons q more => exact absurd hSame.symm (Trail.idFrom_cons_ne _ q more)
  | cons p more ih =>
    cases rest' with
    | nil => exact absurd hSame (Trail.idFrom_cons_ne _ p more)
    | cons q more' =>
      have hHere := branches_of_way hValid h
      have hThere := branches_of_way hValid h'
      rcases Trail.names_of_idFrom hSame with hNames | ⟨longer, hNested⟩ | ⟨longer, hNested⟩
      · obtain rfl := hHere.eq_of_branchId hThere hNames
        have hSame : Trail.idFrom (Trail.idFrom root.executionId (way ++ [p])) more =
            Trail.idFrom (Trail.idFrom root.executionId (way ++ [p])) more' := by
          rw [Trail.idFrom_append]
          exact hSame
        rw [ih (way ++ [p]) (by simpa using h) (by simpa using h') hSame]
      · exact absurd hNested (hUnnested way p hHere.among q hThere.among longer)
      · exact absurd hNested (hUnnested way q hThere.among p hHere.among longer)

/-- The id of a branch is that of the root with the names on the way behind colons. No two branches
of one fork share an id, and no two branches of the tree do, where no name of a fork goes on from
another. -/
theorem branchExecutionIds_apart
    (hValid : ∀ id version flow, allowed (.findFlow id version) (.ok (some flow)) →
      flow.problems = [])
    {trail' : Trail} {p' : BranchPayload} {a b : ExecutionState}
    (h : Grows allowed s root started (trail ++ [p]) a)
    (h' : Grows allowed s root started (trail' ++ [p']) b) :
    p.executionId =
      ":".intercalate (root.executionId :: (trail ++ [p]).map BranchPayload.branchId) ∧
      (trail = trail' → p.executionId = p'.executionId → p = p') ∧
      ((∀ way, Unnested (started way)) → p.executionId = p'.executionId →
        trail ++ [p] = trail' ++ [p']) := by
  have hLast := branches_of_grows hValid h
  have hLast' := branches_of_grows hValid h'
  refine ⟨?_, fun hSiblings hSame => ?_, fun hUnnested hSame => ?_⟩
  · rw [hLast.named, Trail.idFrom_eq_intercalate]
  · subst hSiblings
    rw [hLast.named, hLast'.named, Trail.idFrom_append, Trail.idFrom_append] at hSame
    exact hLast.eq_of_branchId hLast' (String.append_right_inj _ |>.mp hSame)
  · rw [hLast.named, hLast'.named] at hSame
    exact trail_eq_of_idFrom hValid hUnnested [] h h' hSame

end Names

def surveys (other : String) : Flow where
  id := "surveys"
  version := 1
  isPublished := true
  steps := [("climb", {
      id := "climb"
      kind := .fork { branches := [⟨"peak", .step "measure", [], [], none⟩] } }),
    ("hills", {
      id := "hills"
      kind := .fork {
        branches := [⟨"north", .step "climb", [], [], none⟩, ⟨other, .step "climb", [], [], none⟩] }
          }),
    ("measure", { id := "measure", kind := .noOp })]
  start := "hills"
  defaultContext := []
  defaultStepConfig := []
  onCompletionActions := []
  createdAt := none
  updatedAt := none

def survey : ExecutionState where
  executionId := "survey"
  flowId := "surveys"
  version := 1

def northern : BranchPayload := ⟨"north", 0, "survey:north", .step "climb", []⟩

def otherHill (name : String) : BranchPayload :=
  ⟨name, 1, branchExecutionId "survey" name, .step "climb", []⟩

def peakOf (hill : BranchPayload) : BranchPayload :=
  ⟨"peak", 0, branchExecutionId hill.executionId "peak", .step "measure", []⟩

def surveyed (other : String) : Trail → List BranchPayload
  | [] => [northern, otherHill other]
  | hill :: _ => [peakOf hill]

section Surveys

variable {other : String} {hill : BranchPayload}

theorem hill_grows (hAmong : hill ∈ surveyed other []) :
    Grows (Calmly (surveys other)) {} survey (surveyed other) [hill]
      (hill.initialState (activate (surveys other) survey)) := by
  have hForked : ReachesUnder (Calmly (surveys other)) (Call.execute.program {} survey)
      (.ok ⟨activate (surveys other) survey, .fork (surveyed other []) {} none⟩) :=
    reachesUnder_calm (surveys other) (Call.execute.program {} survey)
  exact Grows.branch .execute .root hForked rfl hAmong

theorem peak_grows (hAmong : hill ∈ surveyed other []) :
    Grows (Calmly (surveys other)) {} survey (surveyed other) [hill, peakOf hill]
      ((peakOf hill).initialState (hill.initialState (activate (surveys other) survey))) := by
  have hClimbed := hill_grows hAmong
  have hForked : ReachesUnder (Calmly (surveys other))
      (Call.execute.program {} (hill.initialState (activate (surveys other) survey)))
      (.ok ⟨hill.initialState (activate (surveys other) survey), .fork [peakOf hill] {} none⟩) := by
    simp only [surveyed, List.mem_cons, List.not_mem_nil, or_false] at hAmong
    rcases hAmong with rfl | rfl <;>
      exact reachesUnder_calm (surveys other)
        (Call.execute.program {} (BranchPayload.initialState _ _))
  exact Grows.branch .execute hClimbed hForked rfl List.mem_cons_self

end Surveys

theorem peaks_apart :
    (∀ id version flow, Calmly (surveys "south") (.findFlow id version) (.ok (some flow)) →
      flow.problems = []) ∧
      (∃ a, Grows (Calmly (surveys "south")) {} survey (surveyed "south")
        [northern, peakOf northern] a) ∧
      (∃ b, Grows (Calmly (surveys "south")) {} survey (surveyed "south")
        [otherHill "south", peakOf (otherHill "south")] b) ∧
      (∀ way, Unnested (surveyed "south" way)) ∧
      (peakOf northern).executionId ≠ (peakOf (otherHill "south")).executionId := by
  have hValid : ∀ id version flow,
      Calmly (surveys "south") (.findFlow id version) (.ok (some flow)) → flow.problems = [] := by
    intro id version flow hFound
    cases hFound
    decide
  have hNortherly : northern ∈ surveyed "south" [] := by decide
  have hSouthern : otherHill "south" ∈ surveyed "south" [] := by decide
  have hUnnested : ∀ way, Unnested (surveyed "south" way)
    | [] => unnested_of_plain (by decide)
    | _ :: _ => unnested_of_plain (by simp [surveyed, peakOf])
  refine ⟨hValid, ⟨_, peak_grows hNortherly⟩, ⟨_, peak_grows hSouthern⟩, hUnnested, fun hSame => ?_⟩
  have hClimbs : Grows _ _ _ _ ([northern] ++ [peakOf northern]) _ := peak_grows hNortherly
  have hClimbs' : Grows _ _ _ _ ([otherHill "south"] ++ [peakOf (otherHill "south")]) _ :=
    peak_grows hSouthern
  have hOne := (branchExecutionIds_apart hValid hClimbs hClimbs').2.2 hUnnested hSame
  exact absurd hOne (by decide)

/-- A hill that is named after a peak takes its id. -/
theorem peak_shares_id :
    (surveys "north:peak").problems = [] ∧
      (∃ a, Grows (Calmly (surveys "north:peak")) {} survey (surveyed "north:peak")
        [otherHill "north:peak"] a) ∧
      (∃ b, Grows (Calmly (surveys "north:peak")) {} survey (surveyed "north:peak")
        [northern, peakOf northern] b) ∧
      [otherHill "north:peak"] ≠ [northern, peakOf northern] ∧
      (otherHill "north:peak").executionId = (peakOf northern).executionId :=
  ⟨by decide, ⟨_, hill_grows (by decide)⟩, ⟨_, peak_grows (by decide)⟩, by decide, by decide⟩

end Interpreter

end Stepwise
