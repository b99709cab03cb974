import Stepwise.Proofs.Output.Footprint
import Stepwise.Proofs.Output.Writing

/-!
# Several mappings of one output

Writing an output through several mappings. What one of them writes stays in its place through the
later ones, as long as none of them writes above or below it. A mapping of a prefix that is written
later replaces all that is below it; whether it is depends on how the two destinations are spelled.
-/

namespace Stepwise

set_option autoImplicit false

open Program

namespace Output

/-- Names that lead to a document from another one, through objects that are no pointers. -/
inductive Holds (a : Json) : List String → Json → Prop
  | here : Holds a [] a
  | inside {name : String} {rest : List String} {fields : Dict Json} {w : Json}
      (hInline : Pointer.ofJson? (.obj fields) = none) (hFound : fields.get? name = some w)
      (hHolds : Holds a rest w) : Holds a (name :: rest) (.obj fields)

section Placing

variable {a v : Json} {names others : List String} {d : Dict Json}

theorem Holds.read? (h : Holds a names v) {objects : Objects} :
    (pathOf names).read? objects v = (a.behind? objects).map .value := by
  induction h with
  | here => rfl
  | inside hPlain hFound _ ih =>
    rw [pathOf, List.map_cons, Path.read?, Json.behind?_of_none hPlain, Option.bind_some,
      Segment.of?, hFound]
    exact ih

theorem holds_setAt_self (a : Json) (d : Dict Json) (hNonempty : names ≠ [])
    (hFree : "objectStoreRef" ∉ names) :
    Holds a names (.obj (setAt names a d)) := by
  induction names generalizing d with
  | nil => exact absurd rfl hNonempty
  | cons name rest ih =>
    have hBelow := List.not_mem_of_not_mem_cons hFree
    refine .inside (ofJson?_setAt a d (Ne.symm (List.ne_of_not_mem_cons hFree)))
      (setAt_cons name rest a d ▸ Dict.get?_insert_self d name _) ?_
    cases rest with
    | nil => exact .here
    | cons next rest => exact ih _ (List.cons_ne_nil _ _) hBelow

/-- Writing at names that part from the way leaves what stands at its end. -/
theorem Holds.setAt (h : Holds a names (.obj d)) (v : Json) (hFree : "objectStoreRef" ∉ others)
    (hApart : ¬ names <+: others) (hApart' : ¬ others <+: names) :
    Holds a names (.obj (setAt others v d)) := by
  induction others generalizing names d with
  | nil => exact absurd List.nil_prefix hApart'
  | cons other more ih =>
    cases names with
    | nil => exact absurd List.nil_prefix hApart
    | cons name rest =>
      cases h with
      | @inside _ _ _ w hInline hFound hHolds =>
        have hPlain : Pointer.ofJson? (.obj (Output.setAt (other :: more) v d)) = none :=
          ofJson?_setAt v d (Ne.symm (List.ne_of_not_mem_cons hFree))
        have hBelow := List.not_mem_of_not_mem_cons hFree
        -- the two ways go on together through the first name, or part here
        by_cases hSame : name = other
        · subst hSame
          have hApart : ¬ rest <+: more := fun h => hApart (List.cons_prefix_cons.mpr ⟨rfl, h⟩)
          have hApart' : ¬ more <+: rest := fun h => hApart' (List.cons_prefix_cons.mpr ⟨rfl, h⟩)
          have hWritten := setAt_cons name more v d ▸ Dict.get?_insert_self d name _
          rw [hFound] at hWritten
          refine .inside hPlain hWritten ?_
          cases more with
          | nil => exact absurd List.nil_prefix hApart'
          | cons next more =>
            cases hHolds with
            | here => exact absurd List.nil_prefix hApart
            | inside hInline' hFound' hHolds =>
              exact ih (.inside hInline' hFound' hHolds) hBelow hApart hApart'
        · refine .inside hPlain ?_ hHolds
          rw [setAt_cons, Dict.get?_insert_of_ne d _ hSame]
          exact hFound

end Placing

/-- A destination of names with dots between them, perhaps behind `$.`. -/
structure LeadsTo (destination : String) (names : List String) : Prop where
  below : destination ≠ "$"
  nonempty : names ≠ []
  named : ∀ name ∈ names, Path.IsName name
  free : "objectStoreRef" ∉ names
  spelled : Offload.plainDestination destination.toList = (String.intercalate "." names).toList

theorem LeadsTo.unique {destination : String} {names others : List String}
    (h : LeadsTo destination names) (h' : LeadsTo destination others) : names = others :=
  Option.some.inj ((names?_of_spelled h.nonempty h.named h.spelled).symm.trans
    (names?_of_spelled h'.nonempty h'.named h'.spelled))

theorem source_of_ofText? {text : String} {path : Path} (hSimple : Path.ofText? text = some path)
    (output : Json) : source output (.str text) = pure (.ofOption (path.find? output)) := by
  rw [source, if_pos (Path.isQuery_of_ofText? hSimple), resolve_of_ofText? hSimple, Path.walk_false]

theorem value_of_pure {v w : Json}
    (h : (pure (.value v) : EngineProgram Resolved) = pure (.value w)) :
    v = w := by
  cases h
  rfl

section Applying

variable {σ : Type} {serve : (r : Request) → σ → Reply r × σ} {sound : σ → Prop}
  {look : σ → Objects} {s : Settings} {executionId : String} {output : Json}

theorem apply_cons {destination : String} {mapping : Json} {rest : List (String × Json)}
    {names : List String} (hLeads : LeadsTo destination names) {v : Json}
    (hTaken : source output mapping = pure (.value v)) (context : Dict Json) :
    apply s executionId ((destination, mapping) :: rest) output context =
      offload s executionId destination v >>= fun a =>
        apply s executionId rest output (setAt names a context) := by
  apply ExceptT.ext
  rw [ExceptT.run_bind, apply, write, hTaken]
  simp only [ExceptT.run_mk, ExceptT.run_pure, pure_bind, writeValue, hLeads.below, if_false,
    writePath, names?_of_spelled hLeads.nonempty hLeads.named hLeads.spelled,
    LawfulMonad.bind_assoc]
  refine congrArg ((offload s executionId destination v).run >>= ·) (funext fun answered => ?_)
  cases answered <;> rfl

theorem run_apply_value {destination : String} {mapping : Json} {rest : List (String × Json)}
    {names : List String} (hLeads : LeadsTo destination names) {v : Json}
    (hTaken : source output mapping = pure (.value v)) {context written : Dict Json} {st st' : σ}
    (hRan : run serve (apply s executionId ((destination, mapping) :: rest) output context).run st =
      (.ok written, st')) :
    ∃ a between,
    run serve (Offloading.mk s executionId destination v).program.run st = (.ok a, between) ∧
      run serve (apply s executionId rest output (setAt names a context)).run between =
        (.ok written, st') := by
  rw [apply_cons hLeads hTaken] at hRan
  rcases hOutcome : run serve (offload s executionId destination v).run st with ⟨e | a, between⟩
  · cases hRan.symm.trans (run_bind_error serve hOutcome)
  · exact ⟨a, between, hOutcome, (run_bind_ok serve hOutcome).symm.trans hRan⟩

theorem run_apply_cons {destination : String} {mapping : Json} {rest : List (String × Json)}
    {names : List String} (hLeads : LeadsTo destination names) {context written : Dict Json}
    {st st' : σ}
    (hRan : run serve (apply s executionId ((destination, mapping) :: rest) output context).run st =
      (.ok written, st')) :
    run serve (apply s executionId rest output context).run st = (.ok written, st') ∨
      ∃ v a between, source output mapping = pure (.value v) ∧
        run serve (Offloading.mk s executionId destination v).program.run st = (.ok a, between) ∧
        run serve (apply s executionId rest output (setAt names a context)).run between =
          (.ok written, st') := by
  obtain ⟨taken, hGiven⟩ := source_eq_ofExcept output mapping
  match taken with
  | .error e =>
    rw [apply, write, hGiven] at hRan
    cases hRan
  | .ok .undefined =>
    rw [apply, write, hGiven] at hRan
    exact .inl hRan
  | .ok (.value v) =>
    obtain ⟨a, between, hMoved, hRan⟩ := run_apply_value hLeads hGiven hRan
    exact .inr ⟨v, a, between, hGiven, hMoved, hRan⟩

/-- A call that succeeds keeps what another one moved, where the contents do not collide. -/
theorem run_offloading_keeps (S : StoresObjects serve sound look) {c : Offloading} {st st' : σ}
    {a : Json} (hOk : sound st) (hRan : run serve c.program.run st = (.ok a, st')) :
    sound st' ∧ ∀ d, Offloading.Apart c d → Offloading.Kept look st d →
    Offloading.Kept look st' d := by
  cases hShaped : Pointer.ofJson? c.value with
  | some p =>
    simp only [Offloading.program, offload, hShaped] at hRan
    cases hRan
    exact ⟨hOk, fun _ _ hKept => hKept⟩
  | none =>
    obtain ⟨-, hOk', hChanged⟩ := run_offloading_changed S hShaped hOk hRan
    exact ⟨hOk', fun d hApart hKept => hKept.step hApart hChanged⟩

/-- The contents that the mappings take from the output do not collide with that of a call. -/
def TakenApart (s : Settings) (executionId : String) (output : Json)
    (mappings : List (String × Json)) (d : Offloading) : Prop :=
  ∀ e ∈ mappings, ∀ w, source output e.2 = pure (.value w) →
    Offloading.Apart ⟨s, executionId, e.1, w⟩ d

/-- What was written stays through mappings that write neither above nor below it. -/
theorem run_apply_keeps (S : StoresObjects serve sound look) {mappings : List (String × Json)}
    {names : List String} {d : Offloading} {a : Json}
    (hApart : ∀ e ∈ mappings, ∃ others, LeadsTo e.1 others ∧ ¬ names <+: others ∧
      ¬ others <+: names)
    (hContents : TakenApart s executionId output mappings d) {context written : Dict Json}
    {st st' : σ} (hOk : sound st) (hHolds : Holds a names (.obj context))
    (hKept : Offloading.Kept look st d)
    (hRan : run serve (apply s executionId mappings output context).run st = (.ok written, st')) :
    sound st' ∧ Holds a names (.obj written) ∧ Offloading.Kept look st' d := by
  induction mappings generalizing context st with
  | nil =>
    cases hRan
    exact ⟨hOk, hHolds, hKept⟩
  | cons e rest ih =>
    obtain ⟨⟨others, hLeads, hAbove, hUnder⟩, hApart⟩ := List.forall_mem_cons.mp hApart
    obtain ⟨hContent, hContents⟩ := List.forall_mem_cons.mp hContents
    rcases run_apply_cons hLeads hRan with hRan | ⟨v, b, between, hTaken, hMoved, hRan⟩
    · exact ih hApart hContents hOk hHolds hKept hRan
    · obtain ⟨hOk', hKeeps⟩ := run_offloading_keeps S hOk hMoved
      exact ih hApart hContents hOk' (hHolds.setAt b hLeads.free hAbove hUnder)
        (hKeeps d (hContent v hTaken) hKept) hRan

/-- Every value is read at its destination afterwards, unless its destination is a prefix of
another, or a prefix of it is spelled behind it. -/
theorem apply_loses_no_value (S : StoresObjects serve sound look) {mappings : Dict Json}
    (hSorted : mappings.Sorted) (hPlaces : ∀ e ∈ mappings, ∃ names, LeadsTo e.1 names)
    {destination : String} {mapping v : Json} {names : List String}
    (hMapped : (destination, mapping) ∈ mappings) (hLeads : LeadsTo destination names)
    (hTaken : source output mapping = pure (.value v)) (hPlain : Pointer.ofJson? v = none)
    (hLowest : ∀ e ∈ mappings, ∀ others, LeadsTo e.1 others → names <+: others → others = names)
    (hEarlier : ∀ e ∈ mappings, ∀ others, LeadsTo e.1 others → others <+: names → e.1 ≤ destination)
    (hReadable : (Offloading.mk s executionId destination v).IsLarge →
      Json.parse v.render = .some v)
    (hContents : TakenApart s executionId output mappings ⟨s, executionId, destination, v⟩)
    {context written : Dict Json} {st st' : σ} (hOk : sound st)
    (hApplied :
      run serve (apply s executionId mappings output context).run st = (.ok written, st')) :
    (run serve (resolve ("$." ++ String.intercalate "." names) (.obj written) true).run st').1 =
      .ok (.value v) := by
  induction mappings generalizing context st with
  | nil => cases hMapped
  | cons e rest ih =>
    obtain ⟨hAbove, hSorted⟩ := List.pairwise_cons.mp hSorted
    obtain ⟨-, hLowest'⟩ := List.forall_mem_cons.mp hLowest
    obtain ⟨-, hEarlier'⟩ := List.forall_mem_cons.mp hEarlier
    obtain ⟨-, hContents'⟩ := List.forall_mem_cons.mp hContents
    obtain ⟨⟨first, hBegins⟩, hPlaces'⟩ := List.forall_mem_cons.mp hPlaces
    rcases List.mem_cons.mp hMapped with rfl | hLater
    · have hApart : ∀ e ∈ rest, ∃ others, LeadsTo e.1 others ∧ ¬ names <+: others ∧
        ¬ others <+: names := by
        intro e hAmong
        obtain ⟨others, hLeads'⟩ := hPlaces' e hAmong
        have hUnder : ¬ others <+: names := fun h =>
          String.not_le.mpr (hAbove e hAmong) (hEarlier' e hAmong others hLeads' h)
        refine ⟨others, hLeads', fun hAbove => hUnder ?_, hUnder⟩
        exact hLowest' e hAmong others hLeads' hAbove ▸ List.prefix_refl others
      obtain ⟨a, between, hMoved, hRan⟩ := run_apply_value hLeads hTaken hApplied
      obtain ⟨rfl, hOk', hChanged⟩ := run_offloading_changed S hPlain hOk hMoved
      have hHolds :=
        holds_setAt_self (Offloading.mk s executionId destination v).answer context hLeads.nonempty
        hLeads.free
      obtain ⟨hOk'', hHeld, hKept⟩ := run_apply_keeps S hApart hContents' hOk' hHolds
        (fun hLarge => by rw [hChanged, if_pos ⟨hLarge, rfl, rfl⟩]) hRan
      rw [resolve_ok_iff S hOk'' (Path.ofText?_names hLeads.nonempty hLeads.named)]
      exact hHeld.read?.trans
        (congrArg (Option.map Resolved.value) (behind?_answer hPlain hReadable hKept))
    · rcases run_apply_cons hBegins hApplied with hRan | ⟨w, a, between, -, hMoved, hRan⟩
      · exact ih hSorted hPlaces' hLater hLowest' hEarlier' hContents' hOk hRan
      · exact ih hSorted hPlaces' hLater hLowest' hEarlier' hContents'
          (run_offloading_keeps S hOk hMoved).1 hRan

end Applying

theorem isName_of_receipt : ∀ name ∈ ["order", "id", "paid"], Path.IsName name := by
  decide +kernel

theorem leadsTo_of_receipt {destination : String} {names : List String}
    (hBelow : destination ≠ "$") (hNonempty : names ≠ []) (hNames : names ⊆ ["order", "id", "paid"])
    (hSpelled :
      Offload.plainDestination destination.toList = (String.intercalate "." names).toList) :
    LeadsTo destination names where
  below := hBelow
  nonempty := hNonempty
  named name hAmong := isName_of_receipt name (hNames hAmong)
  free hAmong := absurd (hNames hAmong) (by decide)
  spelled := hSpelled

theorem leadsTo_order : LeadsTo "order" ["order"] :=
  leadsTo_of_receipt (by decide) (by decide) (by simp) (by decide)

theorem leadsTo_order_behind : LeadsTo "$.order" ["order"] :=
  leadsTo_of_receipt (by decide) (by decide) (by simp) (by decide)

theorem leadsTo_id : LeadsTo "order.id" ["order", "id"] :=
  leadsTo_of_receipt (by decide) (by decide) (by simp) (by decide)

theorem leadsTo_id_behind : LeadsTo "$.order.id" ["order", "id"] :=
  leadsTo_of_receipt (by decide) (by decide) (by simp) (by decide)

theorem leadsTo_paid : LeadsTo "paid" ["paid"] :=
  leadsTo_of_receipt (by decide) (by decide) (by simp) (by decide)

def receipt : Json := .obj [("id", .num (.int 7)), ("order", .obj [("lines", .num (.int 2))])]

theorem source_id : source receipt (.str "$.id") = pure (.value (.num (.int 7))) := by
  have hSimple : Path.ofText? "$.id" = .some [.key "id"] := by decide +kernel
  exact source_of_ofText? hSimple receipt

theorem source_order :
    source receipt (.str "$.order") = pure (.value (.obj [("lines", .num (.int 2))])) := by
  have hSimple : Path.ofText? "$.order" = .some [.key "order"] := by decide +kernel
  exact source_of_ofText? hSimple receipt

theorem source_true : source receipt (.bool true) = pure (.value (.bool true)) := rfl

def receiptMappings : Dict Json :=
  [("$.order", .str "$.order"), ("order.id", .str "$.id"), ("paid", .bool true)]

theorem receipt_keeps_id :
    Offloading.IsSound customers ∧ Dict.Sorted receiptMappings ∧
      (Offloading.mk storeAll "exec-1" "order.id" (.num (.int 7))).IsLarge ∧
      ∃ written st', run Host.serve (apply storeAll "exec-1" receiptMappings receipt
          orderAndCustomer).run customers = (.ok written, st') ∧
        (run Host.serve (resolve "$.order.id" (.obj written) true).run st').1 =
          .ok (.value (.num (.int 7))) := by
  have hSound : Offloading.IsSound customers := ⟨⟨_, rfl⟩, rfl, rfl⟩
  have hSorted : Dict.Sorted receiptMappings := by
    unfold Dict.Sorted receiptMappings
    decide
  obtain ⟨written, st', hApplied⟩ : ∃ written st',
    run Host.serve (apply storeAll "exec-1" receiptMappings
      receipt orderAndCustomer).run customers = (.ok written, st') := by
    rw [receiptMappings, apply_cons leadsTo_order_behind source_order]
    simp only [apply_cons leadsTo_id source_id, apply_cons leadsTo_paid source_true]
    exact ⟨_, _, rfl⟩
  refine ⟨hSound, hSorted, by decide, written, st', hApplied, ?_⟩
  have hPlaces : ∀ e ∈ receiptMappings, ∃ names, LeadsTo e.1 names :=
    List.forall_mem_cons.mpr ⟨⟨_, leadsTo_order_behind⟩, List.forall_mem_cons.mpr ⟨⟨_, leadsTo_id⟩,
      List.forall_mem_singleton.mpr ⟨_, leadsTo_paid⟩⟩⟩
  have hMapped : ("order.id", Json.str "$.id") ∈ receiptMappings := by simp [receiptMappings]
  refine apply_loses_no_value storesObjects_inMemory hSorted hPlaces hMapped leadsTo_id source_id
    rfl ?_ ?_
    (fun _ => by decide +kernel) ?_ hSound hApplied
  · simp only [receiptMappings, List.forall_mem_cons]
    refine ⟨fun others hLeads hAbove => ?_, fun others hLeads _ => hLeads.unique leadsTo_id,
      fun others hLeads hAbove => ?_, List.forall_mem_nil _⟩
    · exact absurd (hLeads.unique leadsTo_order_behind ▸ hAbove) (by decide)
    · exact absurd (hLeads.unique leadsTo_paid ▸ hAbove) (by decide)
  · simp only [receiptMappings, List.forall_mem_cons]
    refine ⟨fun _ _ _ => by decide, fun _ _ _ => by decide, fun others hLeads hUnder => ?_,
      List.forall_mem_nil _⟩
    exact absurd (hLeads.unique leadsTo_paid ▸ hUnder) (by decide)
  · simp only [TakenApart, receiptMappings, List.forall_mem_cons]
    refine ⟨fun w hTaken => ?_, fun w hTaken => ?_, fun w hTaken => ?_, List.forall_mem_nil _⟩
    · obtain rfl := value_of_pure (source_order.symm.trans hTaken)
      decide +kernel
    · obtain rfl := value_of_pure (source_id.symm.trans hTaken)
      decide +kernel
    · obtain rfl := value_of_pure (source_true.symm.trans hTaken)
      decide +kernel

/-- A destination below another one is lost when it is spelled with `$.` and the other is not. -/
theorem receipt_loses_id :
    LeadsTo "$.order.id" ["order", "id"] ∧ LeadsTo "order" ["order"] ∧
      source receipt (.str "$.id") = pure (.value (.num (.int 7))) ∧
      source receipt (.str "$.order") = pure (.value (.obj [("lines", .num (.int 2))])) ∧
      ∃ written st',
      run Host.serve (apply {} "exec-1" [("$.order.id", .str "$.id"), ("order", .str "$.order")]
          receipt []).run customers = (.ok written, st') ∧
        (run Host.serve (resolve "$.order.id" (.obj written) true).run st').1 = .ok .undefined := by
  have hSimple : Path.ofText? "$.order.id" = .some [.key "order", .key "id"] := by decide +kernel
  refine ⟨leadsTo_id_behind, leadsTo_order, source_id, source_order, ?_⟩
  rw [apply_cons leadsTo_id_behind source_id]
  simp only [apply_cons leadsTo_order source_order]
  refine ⟨_, _, rfl, ?_⟩
  rw [resolve_of_ofText? hSimple]
  rfl

end Output

end Stepwise
