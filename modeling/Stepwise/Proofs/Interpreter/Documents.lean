import Stepwise.Engine.Interpreter
import Stepwise.Proofs.Execution.Codec
import Stepwise.Proofs.Expression.Order
import Stepwise.Proofs.Output.Footprint

/-!
# The documents of the engine

The documents that the engine works on: the scope and the input of a step, what handlers answer,
what the results of branches are merged to, and the context that an output is written into. If
everything that comes from outside was read from a document, all of them are in normal form.
-/

namespace Stepwise

set_option autoImplicit false

open Program

/-- The details are absent, or were read from a document and are not null. -/
def StepError.DetailsRead (e : StepError) : Prop :=
  ∀ d ∈ e.details, d ≠ .null ∧ Json.ReadFrom Json.document? d

/-- The replies of surroundings whose flows, outputs and answers were read from documents. -/
def Legible : Allowed
  | .findFlow _ _, reply => ∀ flow, reply = .ok (some flow) → Json.ReadFrom Flow.ofJson? flow
  | .callHandler _ _, reply => ∀ answer, reply = some answer →
      Meets (Json.ReadFrom Json.document?) StepError.DetailsRead answer
  | .invokeRemote _ _, reply => ∀ response, reply = some (.ok response) →
      Json.ReadFrom Json.document? response
  | _, _ => True

abbrev StepProgram.Gives {α : Type} (P : α → Prop) (p : StepProgram α) : Prop :=
  Ensures Legible P StepError.Orderly p

section Replies

variable {α : Type} {P : α → Prop}

theorem StepError.DetailsRead.orderly {e : StepError} (h : e.DetailsRead) : e.Orderly :=
  fun d hAmong => ⟨(h d hAmong).1, (h d hAmong).2.normal⟩

theorem gives_asStep {p : EngineProgram α} (h : EngineProgram.Gives Legible P p) :
    StepProgram.Gives P p.asStep :=
  h.adapt fun e _ => StepError.orderly_ofEngine e

theorem gives_any {p : EngineProgram α} : StepProgram.Gives (fun _ => True) p.asStep :=
  gives_asStep (ensures_true fun _ => trivial)

theorem gives_refusal (message : String) : StepProgram.Gives P (throw (.permanent message none)) :=
  ensures_throw orderlyDetails_none

theorem callHandler_gives (moduleId : String) (request : HandlerRequest) :
    StepProgram.Gives (fun reply => ∀ answer ∈ reply, Meets Json.Normal StepError.Orderly answer)
      (liftM (Program.request (.callHandler moduleId request)) :
        StepProgram (Option (Except StepError Json))) := by
  refine ensures_lift fun reply hReached answer hSame => ?_
  have hOk : Legible (.callHandler moduleId request) reply := reachesUnder_request.mp hReached
  have hRead := hOk answer hSame
  cases answer with
  | ok v => exact Json.ReadFrom.normal hRead
  | error e => exact StepError.DetailsRead.orderly hRead

theorem invokeRemote_gives (registration : HandlerRegistration) (request : HandlerRequest) :
    StepProgram.Gives (fun reply => ∀ response, reply = some (.ok response) → response.Normal)
      (liftM (Program.request (.invokeRemote registration request)) :
        StepProgram (Option (Except InvocationError Json))) := by
  refine ensures_lift fun reply hReached response hSame => ?_
  have hOk : Legible (.invokeRemote registration request) reply := reachesUnder_request.mp hReached
  exact (hOk response hSame).normal

end Replies

section Inputs

variable {allowed : Allowed} {s : Settings} {scope : Json}

theorem ExecutionState.normal_scope {state : ExecutionState} (h : state.Orderly) :
    state.scope.Normal := by
  have hAttempts : (jsonDict (fun n : UInt32 => Json.ofNat n.toNat) state.attempts).Normal := by
    have hSorted := Dict.sorted_map h.attempts fun n => Json.ofNat n.toNat
    refine Json.normal_obj_iff.mpr ⟨hSorted, fun e hAmong => ?_⟩
    obtain ⟨p, -, rfl⟩ := List.mem_map.mp hAmong
    exact Json.normal_num _
  have hError : ∀ e ∈ optionalField "errorInfo" ErrorInfo.toJson state.errorInfo, e.2.Normal :=
    Json.normal_of_optionalField fun e hAmong => ErrorInfo.normal_toJson (h.error e hAmong)
  have hFixed :
      ∀ e ∈ [("flowExecutionId", Json.str state.executionId),
        ("flowDefinitionId", .str state.flowId),
      ("version", Json.ofNat state.version.toNat), ("status", .str state.status.wireName),
      ("stepRetryAttempts", jsonDict (fun n : UInt32 => Json.ofNat n.toNat) state.attempts)],
      e.2.Normal := by
    simp only [List.forall_mem_cons]
    exact ⟨Json.normal_str _, Json.normal_str _, Json.normal_num _, Json.normal_str _, hAttempts,
      List.forall_mem_nil _⟩
  have hContext : ∀ e ∈ [("currentContextData", Json.obj state.context)], e.2.Normal :=
    List.forall_mem_singleton.mpr (Json.normal_obj_iff.mpr h.context)
  refine Json.normal_obj_iff.mpr ((Dict.normal_ofList ?_).update h.context.values)
  simp only [header, List.forall_mem_append]
  exact ⟨⟨⟨⟨⟨⟨hFixed, normal_optionalField⟩, hError⟩, normal_optionalField⟩, normal_optionalField⟩,
    normal_optionalField⟩, hContext⟩

theorem SourceMapping.normal_formatted (m : SourceMapping) {r : Resolved} (h : r.Normal) :
    (m.formatted r).Normal := by
  unfold formatted
  split
  · exact Json.normal_str _
  · exact h

theorem Input.resolveMapping_normal (h : scope.Normal) {m : InputMapping} (hm : m.Orderly) :
    EngineProgram.Gives allowed Resolved.Normal (resolveMapping s scope m) := by
  cases m with
  | template t => exact Template.render_normal h _ t hm
  | source m =>
    unfold resolveMapping
    dsimp only
    split
    · exact (resolve_normal h _ true).bind fun r hr => ensures_pure (m.normal_formatted hr)
    · exact (Template.renderText_normal h _ _).bind fun r hr => ensures_pure (m.normal_formatted hr)

theorem Input.addMapped_normal (h : scope.Normal) {mappings : List (String × InputMapping)}
    (hm : ∀ e ∈ mappings, e.2.Orderly) {bag : Dict Json} (hbag : bag.Normal) :
    EngineProgram.Gives allowed Dict.Normal (addMapped s scope mappings bag) := by
  induction mappings generalizing bag with
  | nil => exact ensures_pure hbag
  | cons e rest ih =>
    obtain ⟨hFirst, hOthers⟩ := List.forall_mem_cons.mp hm
    refine (resolveMapping_normal h hFirst).bind fun r hr => ?_
    cases r with
    | undefined => exact ih hOthers hbag
    | value v => exact ih hOthers (hbag.insert hr e.1)

theorem Input.ofStep_normal (h : scope.Normal) {step : Step} (hStep : step.Orderly)
    {defaults : Dict Json} (hDefaults : defaults.Normal) :
    EngineProgram.Gives allowed Dict.Normal (ofStep s step defaults scope) := by
  refine (addMapped_normal h hStep.inputMappings hStep.literals).bind fun mapped hMapped => ?_
  exact ensures_pure ((hDefaults.update hStep.customConfig.values).update hMapped.values)

end Inputs

section Outputs

variable {allowed : Allowed} {s : Settings} {executionId : String} {context : Dict Json}

theorem Pointer.normal_toJson (p : Pointer) : p.toJson.Normal := by
  have hAscending : "container" < "key" := by decide
  have hPlace : Dict.Normal [("container", .str p.container), ("key", .str p.key)] :=
    ⟨List.pairwise_pair.mpr hAscending, by simp⟩
  refine Json.normal_obj_iff.mpr ⟨List.pairwise_singleton _ _, fun e hAmong => ?_⟩
  rw [List.mem_singleton.mp hAmong]
  exact Json.normal_obj_iff.mpr hPlace

theorem offload_normal {v : Json} (h : v.Normal) (destination : String) :
    EngineProgram.Gives allowed Json.Normal (offload s executionId destination v) := by
  unfold offload
  split
  · exact ensures_pure h
  · dsimp only
    split
    · exact ensures_pure h
    · exact Ensures.bind (ensures_true fun _ => trivial) fun _ _ =>
        ensures_pure (Pointer.normal_toJson _)

namespace Output

theorem source_normal {output mapping : Json} (ho : output.Normal) (hm : mapping.Normal) :
    EngineProgram.Gives allowed Resolved.Normal (source output mapping) := by
  unfold source
  split
  · split
    · exact resolve_normal ho _ false
    · exact ensures_pure hm
  · exact ensures_pure hm

theorem Puts.normal {output : Json} (ho : output.Normal) {given after : Dict Json}
    (hg : given.Normal) (hc : context.Normal)
    (h : Puts allowed s executionId output given context after) : after.Normal := by
  cases h with
  | @field mapping fields name v stored hMapped hTaken hAmong hOffloaded =>
    have hObject := source_normal ho (hg.values _ hMapped) _ hTaken
    have hPart : v.Normal := (Json.normal_obj_iff.mp hObject).values _ hAmong
    exact hc.insert (offload_normal hPart name _ hOffloaded) name
  | @path destination mapping v stored names hMapped hBelow hTaken hOffloaded hNamed =>
    have hWhole := source_normal ho (hg.values _ hMapped) _ hTaken
    exact normal_setAt (offload_normal hWhole destination _ hOffloaded) hc

theorem apply_normal {output : Json} (ho : output.Normal) {mappings : Dict Json}
    (hm : mappings.Normal) (hc : context.Normal) :
    EngineProgram.Gives allowed Dict.Normal (apply s executionId mappings output context) := by
  intro x hReached
  cases x with
  | error e => trivial
  | ok written =>
    have hWrites := apply_writes hReached
    clear hReached
    induction hWrites with
    | refl => exact hc
    | tail _ hPut hNormal => exact hPut.normal ho hm hNormal

end Output

end Outputs

section Handlers

namespace Dispatch

theorem interpret_meets (moduleId : String) {response : Json} (h : response.Normal) :
    Meets Json.Normal StepError.Orderly (interpret moduleId response) := by
  unfold interpret
  dsimp only
  split
  · next body =>
    have hGiven := Json.normal_obj_iff.mp h
    split
    · next v hFound => exact hGiven.of_get? hFound
    · split
      · refine orderlyDetails_object ?_
        simp only [List.forall_mem_cons]
        exact ⟨Json.normal_str _, Json.normal_str _, hGiven.getD _, by simp⟩
      · exact orderlyDetails_none
  · exact orderlyDetails_none

theorem remote_gives (moduleId : String) (request : HandlerRequest) :
    StepProgram.Gives Json.Normal (remote moduleId request) := by
  refine Ensures.bind gives_any fun registration _ => ?_
  cases registration with
  | none => exact gives_refusal _
  | some registration =>
    refine (invokeRemote_gives registration request).bind fun reply hOk => ?_
    match reply with
    | none => exact gives_refusal _
    | some (.error e) =>
      refine ensures_throw (orderlyDetails_object ?_)
      simp
    | some (.ok response) => exact ensures_done (interpret_meets moduleId (hOk response rfl))

theorem call_gives (step : Step) (input : Dict Json) (state : ExecutionState) :
    StepProgram.Gives Json.Normal (call step input state) := by
  unfold call
  split
  · exact gives_refusal _
  · next moduleId _ =>
    refine (callHandler_gives moduleId _).bind fun reply hOk => ?_
    cases reply with
    | none => exact remote_gives moduleId _
    | some answer => exact ensures_done (hOk answer rfl)

end Dispatch

end Handlers

section Branches

namespace Fork

variable {allowed : Allowed} {s : Settings} {state : ExecutionState}

theorem payload_normal (h : state.Orderly) {b : Branch} (hb : b.Orderly) (index : Nat) :
    EngineProgram.Gives allowed (fun p => p.input.Normal) (b.payload s state index) :=
  (Input.addMapped_normal (ExecutionState.normal_scope h) hb.inputMappings hb.literals).bind
    fun _ hInput => ensures_pure hInput

theorem payloadsFrom_normal (h : state.Orderly) {branches : List Branch}
    (hb : ∀ b ∈ branches, b.Orderly) (index : Nat) :
    EngineProgram.Gives allowed (fun payloads => ∀ p ∈ payloads, p.input.Normal)
      (payloadsFrom s state index branches) := by
  induction branches generalizing index with
  | nil => exact ensures_pure (List.forall_mem_nil _)
  | cons b rest ih =>
    obtain ⟨hFirst, hOthers⟩ := List.forall_mem_cons.mp hb
    refine Ensures.bind (ensures_true fun _ => trivial) fun holds _ => ?_
    split
    · refine (payload_normal h hFirst index).bind fun p hp => ?_
      refine (ih hOthers (index + 1)).bind fun more hMore => ?_
      exact ensures_pure (List.forall_mem_cons.mpr ⟨hp, hMore⟩)
    · exact ih hOthers (index + 1)

end Fork

namespace Aggregation

variable {results : List BranchResult} (h : ∀ r ∈ results, ∀ v ∈ r.output, v.Normal)

theorem orderly_of_failure? {a : Aggregation} {results : List BranchResult} {e : StepError}
    (hFailed : a.failure? results = some e) : e.Orderly := by
  simp only [failure?] at hFailed
  split at hFailed
  · cases hFailed
  · cases hFailed
    exact orderlyDetails_none

theorem project_normal {allowed : Allowed} (path : String) {items : List Json}
    (h : ∀ v ∈ items, v.Normal) :
    EngineProgram.Gives allowed (fun found => ∀ v ∈ found, v.Normal) (project path items) := by
  induction items with
  | nil => exact ensures_pure (List.forall_mem_nil _)
  | cons v rest ih =>
    obtain ⟨hFirst, hOthers⟩ := List.forall_mem_cons.mp h
    refine (resolve_normal hFirst path true).bind fun r hr => ?_
    refine (ih hOthers).bind fun more hMore => ?_
    exact ensures_pure (List.forall_mem_cons.mpr ⟨hr.orNull, hMore⟩)

include h

theorem outputs_normal : ∀ v ∈ outputs results, v.Normal := by
  intro v hAmong
  obtain ⟨r, hThere, rfl⟩ := List.mem_map.mp hAmong
  cases hGiven : r.output with
  | none => exact Json.normal_null
  | some v => exact h r (List.mem_filter.mp hThere).1 v hGiven

theorem inOrder_normal : ∀ r ∈ inOrder results, ∀ v ∈ r.output, v.Normal :=
  fun r hAmong => h r (List.mem_mergeSort.mp hAmong)

theorem merge_gives (a : Aggregation) (step : Step) (state : ExecutionState) :
    StepProgram.Gives Json.Normal (a.merge results step state) := by
  have hTaken := outputs_normal (inOrder_normal h)
  unfold merge
  split
  · next e hFailed => exact ensures_throw (orderly_of_failure? hFailed)
  · unfold collect
    split
    · exact ensures_pure (Json.normal_arr_iff.mpr hTaken)
    · split
      · exact gives_refusal _
      · next path _ =>
        refine Ensures.bind (gives_asStep (project_normal path hTaken)) fun found hFound => ?_
        exact ensures_pure (Json.normal_arr_iff.mpr hFound)
    · split
      · exact gives_refusal _
      · next moduleId _ =>
        refine (callHandler_gives moduleId _).bind fun reply hOk => ?_
        cases reply with
        | none => exact gives_refusal _
        | some answer => exact ensures_done (hOk answer rfl)

end Aggregation

end Branches

end Stepwise
