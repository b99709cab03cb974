import Stepwise.Proofs.Expression.PathText
import Stepwise.Proofs.Output.Placing

/-!
# Writing one value

Writing one value into a context whose parts may be at the object store.
-/

namespace Stepwise

set_option autoImplicit false

open Program

namespace Output

section Spelling

variable {names : List String}

theorem splitOn_names (hNonempty : names ≠ []) (hNamed : ∀ name ∈ names, Path.IsName name) :
    (String.intercalate "." names).toList.splitOn '.' = names.map String.toList := by
  have hChars : (String.intercalate "." names).toList =
    ['.'].intercalate (names.map String.toList) := by
    rw [String.toList_intercalate]
    rfl
  rw [hChars]
  refine List.splitOn_intercalate '.' ?_ (by simpa using hNonempty)
  intro part hMember hDot
  obtain ⟨name, hAmong, rfl⟩ := List.mem_map.mp hMember
  exact absurd ((hNamed name hAmong).2 '.' hDot) (by decide +kernel)

theorem names?_of_spelled {destination : String} (hNonempty : names ≠ [])
    (hNamed : ∀ name ∈ names, Path.IsName name)
    (hSpelled :
      Offload.plainDestination destination.toList = (String.intercalate "." names).toList) :
    names? destination = .some names := by
  have hFull : (names.map String.toList).any List.isEmpty = false := by
    rw [List.any_eq_false]
    intro part hMember
    obtain ⟨name, hAmong, rfl⟩ := List.mem_map.mp hMember
    simpa using (hNamed name hAmong).1
  rw [names?, hSpelled, Text.splitAt_eq_splitOn, splitOn_names hNonempty hNamed, hFull]
  simp

end Spelling

/-- A destination of names with dots between them. -/
structure Destination where
  names : List String
  nonempty : names ≠ []
  named : ∀ name ∈ names, Path.IsName name
  /-- Below `$` the names would be those after it. -/
  below : ∀ rest, names ≠ "$" :: rest

namespace Destination

def text (d : Destination) : String := String.intercalate "." d.names

def path (d : Destination) : Path := pathOf d.names

theorem text_ofText? (d : Destination) : Path.ofText? ("$." ++ d.text) = .some d.path :=
  Path.ofText?_names d.nonempty d.named

theorem splitOn_text (d : Destination) : d.text.toList.splitOn '.' = d.names.map String.toList :=
  splitOn_names d.nonempty d.named

theorem parts_ne (d : Destination) (parts : List (List Char)) :
    d.names.map String.toList ≠ ['$'] :: parts := by
  intro hSame
  obtain ⟨first, rest, hNames, hDollar, -⟩ := List.map_eq_cons_iff.mp hSame
  have : first = "$" := String.toList_inj.mp hDollar
  exact d.below rest (this ▸ hNames)

theorem text_ne (d : Destination) : d.text ≠ "$" := by
  intro hSame
  refine d.parts_ne [] (d.splitOn_text.symm.trans ?_)
  rw [hSame]
  decide

theorem plainDestination_text (d : Destination) :
    Offload.plainDestination d.text.toList = d.text.toList := by
  unfold Offload.plainDestination
  split
  · rename_i rest hBegins
    refine absurd (d.splitOn_text.symm.trans ?_) (d.parts_ne (rest.splitOn '.'))
    rw [hBegins]
    have hDollar : '.' ∉ ['$'] := by decide
    exact List.splitOn_append_cons_self_of_not_mem hDollar rest
  · rfl

theorem names?_text (d : Destination) : names? d.text = .some d.names :=
  names?_of_spelled d.nonempty d.named d.plainDestination_text

theorem exists_text (d : Destination) {q : Path} (hBefore : q <+: d.path) :
    ∃ expr, Path.ofText? expr = .some q := by
  obtain ⟨names, hFirst, rfl⟩ := List.prefix_map_iff.mp hBefore
  by_cases hSome : names = []
  · subst hSome
    exact ⟨"$", Path.segments?_nil⟩
  · exact ⟨_, Path.ofText?_names hSome fun name hMember => d.named name (hFirst.subset hMember)⟩

end Destination

theorem apply_single (s : Settings) (executionId : String) (d : Destination)
    {mapping output v : Json} (hTaken : source output mapping = pure (.value v))
    (context : Dict Json) :
    apply s executionId [(d.text, mapping)] output context =
      (fun a => setAt d.names a context) <$> offload s executionId d.text v := by
  apply ExceptT.ext
  rw [ExceptT.run_map, apply, write, hTaken]
  simp only [ExceptT.run_mk, ExceptT.run_pure, pure_bind, writeValue, d.text_ne, if_false,
    writePath, d.names?_text, LawfulMonad.bind_assoc, map_eq_pure_bind]
  refine congrArg ((offload s executionId d.text v).run >>= ·) (funext fun answered => ?_)
  cases answered <;> rfl

section Running

variable {σ : Type} {serve : (r : Request) → σ → Reply r × σ} {sound : σ → Prop}
  {look : σ → Objects}

theorem run_map_ok {α β : Type} {p : EngineProgram α} {f : α → β} {b : β} {st st' : σ}
    (hRan : run serve (f <$> p).run st = (.ok b, st')) :
    ∃ a, run serve p.run st = (.ok a, st') ∧ b = f a := by
  rcases hOutcome : run serve p.run st with ⟨e | a, last⟩
  · rw [map_eq_pure_bind, run_bind_error serve hOutcome] at hRan
    cases hRan
  · rw [map_eq_pure_bind, run_bind_ok serve hOutcome] at hRan
    cases hRan
    exact ⟨a, rfl, rfl⟩

theorem run_offloading_changed (S : StoresObjects serve sound look) {c : Offloading}
    (hPlain : Pointer.ofJson? c.value = none) {st st' : σ} (hOk : sound st) {a : Json}
    (hRan : run serve c.program.run st = (.ok a, st')) :
    a = c.answer ∧ sound st' ∧ ∀ x k, look st' x k =
      if c.IsLarge ∧ x = c.place.container ∧ k = c.place.key then .some c.value.render
      else look st x k := by
  by_cases hLarge : c.IsLarge
  · have hExceeds : ¬ c.value.render.utf8ByteSize ≤ c.settings.offloadThresholdBytes.toNat :=
      Nat.not_le.mpr hLarge
    simp only [Offloading.program, offload, hPlain, hExceeds, if_false] at hRan
    rcases hOutcome :
      serve (.putObject c.place.container c.place.key c.value.render) st with ⟨e | u, last⟩
    · have hAsked :
          run serve (EngineProgram.putObject c.place.container c.place.key c.value.render).run st =
          (.error e, last) := hOutcome
      cases hRan.symm.trans (run_bind_error serve hAsked)
    · have hAsked :
          run serve (EngineProgram.putObject c.place.container c.place.key c.value.render).run st =
          (.ok u, last) := hOutcome
      have hAnswered := hRan.symm.trans (run_bind_ok serve hAsked)
      obtain ⟨rfl, rfl⟩ : a = c.place.toJson ∧ st' = last := by
        cases hAnswered
        exact ⟨rfl, rfl⟩
      obtain ⟨hOk', hChanged⟩ := S.put _ _ _ st hOk (congrArg Prod.fst hOutcome)
      rw [hOutcome] at hOk' hChanged
      refine ⟨by rw [Offloading.answer, if_pos hLarge], hOk', fun x k => ?_⟩
      simp only [hChanged, hLarge, true_and]
  · have hUnder : c.value.render.utf8ByteSize ≤ c.settings.offloadThresholdBytes.toNat :=
      Nat.not_lt.mp hLarge
    simp only [Offloading.program, offload, hPlain, hUnder, if_true] at hRan
    cases hRan
    refine ⟨by rw [Offloading.answer, if_neg hLarge], hOk, fun x k => ?_⟩
    simp only [hLarge, false_and, if_false]

theorem behind?_answer {c : Offloading} (hPlain : Pointer.ofJson? c.value = none)
    (hReadable : c.IsLarge → Json.parse c.value.render = .some c.value) {st : σ}
    (hKept : Offloading.Kept look st c) : c.answer.behind? (look st) = .some c.value := by
  by_cases hLarge : c.IsLarge
  · rw [Offloading.answer, if_pos hLarge]
    show (look st c.place.container c.place.key).bind Json.parse = _
    rw [hKept hLarge, Option.bind_some, hReadable hLarge]
  · rw [Offloading.answer, if_neg hLarge]
    exact Json.behind?_of_none hPlain

/-- Where nothing else is stored at the place of a call, the call adds at most its content, and its
answer reads as the value. -/
theorem run_offloading_ok (S : StoresObjects serve sound look) {c : Offloading}
    (hPlain : Pointer.ofJson? c.value = none)
    (hReadable : c.IsLarge → Json.parse c.value.render = .some c.value) {st st' : σ}
    (hOk : sound st)
    (hFresh : c.IsLarge → ∀ text, look st c.place.container c.place.key = .some text →
      text = c.value.render) {a : Json} (hRan : run serve c.program.run st = (.ok a, st')) :
    sound st' ∧ (look st').Extends (look st) ∧ a.behind? (look st') = .some c.value := by
  obtain ⟨rfl, hOk', hChanged⟩ := run_offloading_changed S hPlain hOk hRan
  refine ⟨hOk', fun container key text hFound => ?_,
    behind?_answer hPlain hReadable fun hLarge => ?_⟩
  · rw [hChanged]
    split
    · rename_i hSame
      rw [hSame.2.1, hSame.2.2] at hFound
      rw [hFresh hSame.1 text hFound]
    · exact hFound
  · rw [hChanged, if_pos ⟨hLarge, rfl, rfl⟩]

/-- Writing a value where the way to the place stands in the context itself: the value is read at
its path, and every other path that could be read is read as before. -/
theorem apply_single_frame (S : StoresObjects serve sound look) (s : Settings)
    (executionId : String) (d : Destination) (hFree : "objectStoreRef" ∉ d.names)
    (mapping output v : Json) (hTaken : source output mapping = pure (.value v))
    (hPlain : Pointer.ofJson? v = none) {context written : Dict Json} {st st' : σ} (hOk : sound st)
    (hReadable : (Offloading.mk s executionId d.text v).IsLarge → Json.parse v.render = .some v)
    (hFresh : (Offloading.mk s executionId d.text v).IsLarge → ∀ text,
      look st s.objectStoreContainer (Offload.key executionId d.text v.render) = .some text →
      text = v.render)
    (hInline : ∀ (q : Path) w, q <+: d.path → q ≠ d.path → q.find? (.obj context) = .some w →
      Pointer.ofJson? w = none)
    (hObjects : ∀ expr q, Path.ofText? expr = .some q → q <+: d.path → q ≠ d.path →
      (run serve (resolve expr (.obj context) true).run st).1 = .ok .undefined ∨
        ∃ fields,
          (run serve (resolve expr (.obj context) true).run st).1 = .ok (.value (.obj fields)))
    (hApplied : run serve (apply s executionId [(d.text, mapping)] output context).run st =
      (.ok written, st')) :
    (run serve (resolve ("$." ++ d.text) (.obj written) true).run st').1 = .ok (.value v) ∧
      ∀ expr p, Path.ofText? expr = .some p → ¬ p <+: d.path → ¬ d.path <+: p → ∀ r,
        (run serve (resolve expr (.obj context) true).run st).1 = .ok r →
          (run serve (resolve expr (.obj written) true).run st').1 = .ok r := by
  rw [apply_single s executionId d hTaken] at hApplied
  obtain ⟨a, hMoved, rfl⟩ := run_map_ok hApplied
  obtain ⟨hOk', hMore, hBehind⟩ :=
    run_offloading_ok S (c := ⟨s, executionId, d.text, v⟩) hPlain hReadable
    hOk hFresh hMoved
  have hWay : d.path.IsOpen (.obj context) := by
    refine Path.isOpen_of_inline (look st) hInline fun q hBefore hDiffers => ?_
    obtain ⟨expr, hSimple⟩ := d.exists_text hBefore
    have hRead := hObjects expr q hSimple hBefore hDiffers
    simp only [resolve_ok_iff S hOk hSimple] at hRead
    exact hRead
  constructor
  · rw [resolve_ok_iff S hOk' d.text_ofText?, Destination.path,
      read?_setAt_self a context d.nonempty hFree, hBehind]
    rfl
  · intro expr p hSimple hApart hApart' r hBefore
    rw [resolve_ok_iff S hOk hSimple] at hBefore
    rw [resolve_ok_iff S hOk' hSimple, read?_setAt_of_apart a hWay hFree hApart hApart']
    exact Path.read?_extends hMore hBefore

end Running

def paid : Destination where
  names := ["order", "paid"]
  nonempty := by simp
  named := by
    simp only [List.mem_cons, List.not_mem_nil, or_false, forall_eq_or_imp, forall_eq]
    exact ⟨⟨by decide, List.all_eq_true.mp (by decide +kernel)⟩,
      ⟨by decide, List.all_eq_true.mp (by decide +kernel)⟩⟩
  below := by simp

def orderWithId : Json := .obj [("id", .num (.int 7))]

def customerPlace : Pointer := ⟨"archive", "exec-1/customer.json"⟩

def orderAndCustomer : Dict Json := [("customer", customerPlace.toJson), ("order", orderWithId)]

def customers : Host where
  clock := ⟨0, 0⟩
  objects := .memory (({} : ObjectMap).put "archive" "exec-1/customer.json"
    "\x7b\"name\": \"Ada\"\x7d")

def storeAll : Settings := { offloadThresholdBytes := 0 }

theorem above_paid {q : Path} (hBefore : q <+: paid.path) (hDiffers : q ≠ paid.path) :
    q = [] ∨ q = [.key "order"] := by
  have hShort : q.length < 2 := Nat.lt_of_le_of_ne hBefore.length_le fun hSame =>
    hDiffers (hBefore.eq_of_length hSame)
  have hTaken : q = paid.path.take q.length := List.prefix_iff_eq_take.mp hBefore
  generalize q.length = n at hShort hTaken
  match n, hShort with
  | 0, _ => exact .inl hTaken
  | 1, _ => exact .inr hTaken

theorem paid_frame :
    Offloading.IsSound customers ∧ "objectStoreRef" ∉ paid.names ∧
      source .null (.bool true) = pure (.value (.bool true)) ∧
      (Offloading.mk storeAll "exec-1" paid.text (.bool true)).IsLarge ∧
      ∃ written st', run Host.serve (apply storeAll "exec-1" [(paid.text, .bool true)] .null
          orderAndCustomer).run customers = (.ok written, st') ∧
        (run Host.serve (resolve ("$." ++ paid.text) (.obj written) true).run st').1 =
          .ok (.value (.bool true)) ∧
        ∀ expr p, Path.ofText? expr = .some p → ¬ p <+: paid.path → ¬ paid.path <+: p → ∀ r,
          (run Host.serve (resolve expr (.obj orderAndCustomer) true).run customers).1 = .ok r →
            (run Host.serve (resolve expr (.obj written) true).run st').1 = .ok r := by
  have hSound : Offloading.IsSound customers := ⟨⟨_, rfl⟩, rfl, rfl⟩
  have hFree : "objectStoreRef" ∉ paid.names := by decide
  obtain ⟨written, st', hApplied⟩ : ∃ written st', run Host.serve (apply storeAll "exec-1"
      [(paid.text, .bool true)] .null orderAndCustomer).run customers = (.ok written, st') :=
      ⟨_, _, rfl⟩
  refine ⟨hSound, hFree, rfl, by decide, written, st', hApplied, ?_⟩
  refine apply_single_frame storesObjects_inMemory storeAll "exec-1" paid hFree (.bool true) .null
    (.bool true) rfl rfl hSound (fun _ => by decide +kernel) ?_ ?_ ?_ hApplied
  · intro _ text hFound
    have hNothing (key : String) :
        Offloading.inMemory customers storeAll.objectStoreContainer key = none := rfl
    cases (hNothing _).symm.trans hFound
  · intro q w hBefore hDiffers hLeads
    rcases above_paid hBefore hDiffers with rfl | rfl
    · cases hLeads
      rfl
    · cases hLeads
      rfl
  · intro expr q hSimple hBefore hDiffers
    rw [resolve_of_ofText? hSimple]
    rcases above_paid hBefore hDiffers with rfl | rfl
    · exact .inr ⟨_, rfl⟩
    · exact .inr ⟨_, rfl⟩

def orderPlace : Pointer := ⟨"large", "exec-1/order.json"⟩

def movedOrder : Dict Json := [("order", orderPlace.toJson)]

def orders : Host where
  clock := ⟨0, 0⟩
  objects := .memory (({} : ObjectMap).put "large" "exec-1/order.json" "\x7b\"id\":7\x7d")

/-- Below a moved order, writing loses the order: it reads as an object, but what is written gets
into its pointer, which is no pointer then. -/
theorem movedOrder_lost :
    Offloading.IsSound orders ∧
      (run Host.serve (resolve "$" (.obj movedOrder) true).run orders).1 =
        .ok (.value (.obj movedOrder)) ∧
      (run Host.serve (resolve "$.order" (.obj movedOrder) true).run orders).1 =
        .ok (.value orderWithId) ∧
      Path.ofText? "$.order.id" = .some [.key "order", .key "id"] ∧
      ¬ [Segment.key "order", .key "id"] <+: paid.path ∧
      ¬ paid.path <+: [Segment.key "order", .key "id"] ∧
      (run Host.serve (resolve "$.order.id" (.obj movedOrder) true).run orders).1 =
        .ok (.value (.num (.int 7))) ∧
      ∃ written st', run Host.serve (apply {} "exec-1" [(paid.text, .bool true)] .null
          movedOrder).run orders = (.ok written, st') ∧
        (run Host.serve (resolve "$.order.id" (.obj written) true).run st').1 = .ok .undefined := by
  have hSound : Offloading.IsSound orders := ⟨⟨_, rfl⟩, rfl, rfl⟩
  have hReads {expr : String} (path : Path) (hSimple : Path.ofText? expr = .some path) :=
    resolve_ok_iff storesObjects_inMemory hSound hSimple
  have hSimple : Path.ofText? "$.order.id" = .some [.key "order", .key "id"] := by decide +kernel
  refine ⟨hSound, (hReads [] (by decide +kernel) _ _).mpr (by decide +kernel),
    (hReads [.key "order"] (by decide +kernel) _ _).mpr (by decide +kernel), hSimple,
    by decide, by decide, (hReads _ hSimple _ _).mpr (by decide +kernel), _, _, rfl,
    (hReads _ hSimple _ _).mpr (by decide +kernel)⟩

end Output

end Stepwise
