import Stepwise.Proofs.Json.Order
import Stepwise.Query.Eval

/-!
# Queries keep documents in normal form

Queries on documents in normal form give documents in normal form: the literals of a query come from
parsed texts, and every function picks, rearranges or builds in order.
-/

namespace Stepwise.Query

set_option autoImplicit false

/-- The value is a document in normal form, or gives such values for such documents. -/
inductive Value.Normal : Value → Prop where
  | data {j : Json} (h : j.Normal) : Normal (.data j)
  | function {f : Json → Except QueryError Value}
      (h : ∀ (d : Json) (v : Value), d.Normal → f d = .ok v → Normal v) : Normal (.function f)

namespace Value

theorem normal_data_iff {j : Json} : Normal (.data j) ↔ j.Normal :=
  ⟨fun h => by cases h; assumption, .data⟩

theorem Normal.toJson {v : Value} (h : v.Normal) : v.toJson.Normal := by
  cases h with
  | data h => exact h
  | function _ => exact Json.normal_str _

end Value

def Answer.Normal (a : Answer) : Prop := ∀ v, a = .ok v → v.Normal

section Answers

theorem normal_ok {v : Value} (h : v.Normal) : Answer.Normal (.ok v) := by
  rintro w ⟨⟩
  exact h

theorem normal_error {e : QueryError} : Answer.Normal (.error e) := by
  rintro w ⟨⟩

theorem normal_okData {j : Json} (h : j.Normal) : Answer.Normal (.ok (.data j)) :=
  normal_ok (.data h)

theorem normal_number (x : Float) : Answer.Normal (number x) := by
  unfold number
  split
  · exact normal_okData (Json.normal_num _)
  · exact normal_error

theorem normal_truth (b : Bool) : Answer.Normal (truth b) := normal_okData (Json.normal_bool b)

theorem normal_bind {α : Type} {x : Except QueryError α} {f : α → Answer}
    (h : ∀ a, x = .ok a → Answer.Normal (f a)) : Answer.Normal (x >>= f) := by
  cases x with
  | error e => exact normal_error
  | ok a => exact h a rfl

end Answers

section Functions

variable {α : Type} {items : List Json}

theorem mem_extreme {precedes : α → α → Bool} {l : List α} {a : α}
    (h : extreme precedes l = some a) :
    a ∈ l := by
  cases l with
  | nil => cases h
  | cons b rest =>
    rw [extreme, Option.some.injEq] at h
    subst h
    induction rest generalizing b with
    | nil => exact List.mem_singleton.mpr rfl
    | cons c rest ih =>
      rw [List.foldl_cons]
      split
      · exact List.mem_cons_of_mem b (ih c)
      · rcases List.mem_cons.mp (ih b) with hSame | hLater
        · exact List.mem_cons.mpr (.inl hSame)
        · exact List.mem_cons_of_mem b (List.mem_cons_of_mem c hLater)

theorem normal_extreme (precedes : α → α → Bool) {l : List α} (key : α → Json)
    (h : ∀ a ∈ l, (key a).Normal) : (((extreme precedes l).map key).getD .null).Normal := by
  cases hFound : extreme precedes l with
  | none => exact Json.normal_null
  | some a => exact h a (mem_extreme hFound)

theorem normal_extreme_self (precedes : Json → Json → Bool) (h : ∀ v ∈ items, v.Normal) :
    ((extreme precedes items).getD .null).Normal := by
  have hSame := normal_extreme precedes id h
  rwa [Option.map_id] at hSame

theorem mem_ascending {key : α → Json} {l : List α} {a : α} : a ∈ ascending key l ↔ a ∈ l :=
  List.mem_mergeSort

theorem normal_mergeAll {first : Dict Json} {more : List (Dict Json)} (h : first.Normal)
    (hs : ∀ d ∈ more, d.Normal) : (more.foldl Dict.update first).Normal := by
  induction more generalizing first with
  | nil => exact h
  | cons d rest ih =>
    exact ih (h.update (hs d List.mem_cons_self).values) fun e hAmong =>
      hs e (List.mem_cons_of_mem d hAmong)

theorem mem_of_mapM_option {β : Type} {f : α → Option β} {l : List α} {bs : List β}
    (h : l.mapM f = some bs) : ∀ b ∈ bs, ∃ a ∈ l, f a = some b := by
  induction l generalizing bs with
  | nil =>
    cases h
    exact fun _ hAmong => nomatch hAmong
  | cons a rest ih =>
    simp only [List.mapM_cons, Option.bind_eq_bind, Option.bind_eq_some_iff, Option.pure_def,
      Option.some.injEq] at h
    obtain ⟨b, hFirst, more, hOthers, rfl⟩ := h
    intro c hAmong
    rcases List.mem_cons.mp hAmong with rfl | hLater
    · exact ⟨a, List.mem_cons_self, hFirst⟩
    · obtain ⟨d, hThere, hFound⟩ := ih hOthers c hLater
      exact ⟨d, List.mem_cons_of_mem a hThere, hFound⟩

theorem ok_of_bind {β ε : Type} {x : Except ε α} {f : α → Except ε β} {b : β}
    (h : x >>= f = .ok b) : ∃ a, x = .ok a ∧ f a = .ok b := by
  cases x with
  | error e => cases h
  | ok a => exact ⟨a, rfl, h⟩

theorem mem_of_mapM {β ε : Type} {f : α → Except ε β} {l : List α} {bs : List β}
    (h : l.mapM f = .ok bs) : ∀ b ∈ bs, ∃ a ∈ l, f a = .ok b := by
  induction l generalizing bs with
  | nil =>
    cases h
    exact fun _ hAmong => nomatch hAmong
  | cons a rest ih =>
    rw [List.mapM_cons] at h
    obtain ⟨b, hFirst, h⟩ := ok_of_bind h
    obtain ⟨more, hOthers, h⟩ := ok_of_bind h
    cases h
    intro c hAmong
    rcases List.mem_cons.mp hAmong with rfl | hLater
    · exact ⟨a, List.mem_cons_self, hFirst⟩
    · obtain ⟨d, hThere, hFound⟩ := ih hOthers c hLater
      exact ⟨d, List.mem_cons_of_mem a hThere, hFound⟩

theorem mem_of_keyed {name : String} {f : Json → Answer} {pairs : List (Json × Json)}
    (h : keyed name f items = .ok pairs) : ∀ p ∈ pairs, p.1 ∈ items := by
  obtain ⟨read, hKeys, h⟩ := ok_of_bind h
  split at h
  · cases h
    intro p hAmong
    obtain ⟨v, hThere, hFound⟩ := mem_of_mapM hKeys p hAmong
    obtain ⟨value, -, hFound⟩ := ok_of_bind hFound
    cases value with
    | data k => cases hFound; exact hThere
    | function g => cases hFound
  · cases h

theorem items_normal (h : ∀ j ∈ [Json.arr items], j.Normal) : ∀ v ∈ items, v.Normal :=
  Json.normal_arr_iff.mp (h _ List.mem_cons_self)

theorem fields_normal {fields : List (String × Json)} {rest : List Json}
    (h : ∀ j ∈ Json.obj fields :: rest, j.Normal) : Dict.Normal fields :=
  Json.normal_obj_iff.mp (h _ List.mem_cons_self)

theorem normal_applyData (name : String) {args : List Json} (h : ∀ j ∈ args, j.Normal) :
    Answer.Normal (applyData name args) := by
  unfold applyData
  split <;> dsimp only <;> repeat' split
  all_goals try first
    | exact normal_error
    | exact normal_number _
    | exact normal_truth _
    | exact normal_okData (Json.normal_str _)
    | exact normal_okData (Json.normal_num _)
    | exact normal_okData Json.normal_null
  -- What is left are the functions that answer parts of their arguments.
  case h_9 fields =>
    refine normal_okData (Json.normal_arr_iff.mpr fun v hAmong => ?_)
    obtain ⟨e, -, rfl⟩ := List.mem_map.mp hAmong
    exact Json.normal_str _
  case h_13.isTrue items _ =>
    exact normal_okData (normal_extreme_self _ (items_normal h))
  case h_1 first rest _ more hRead =>
    refine normal_okData
      (Json.normal_obj_iff.mpr (normal_mergeAll (fields_normal h) fun d hAmong => ?_))
    obtain ⟨v, hThere, hFound⟩ := mem_of_mapM_option hRead d hAmong
    have hNormal := h v (List.mem_cons_of_mem _ hThere)
    split at hFound
    · cases hFound
      exact Json.normal_obj_iff.mp hNormal
    · cases hFound
  case h_15.isTrue items _ =>
    exact normal_okData (normal_extreme_self _ (items_normal h))
  case h_16 items =>
    refine normal_okData (Json.normal_arr_iff.mpr fun v hAmong => ?_)
    exact items_normal h v (List.mem_reverse.mp hAmong)
  case h_18.isTrue items _ =>
    refine normal_okData (Json.normal_arr_iff.mpr fun v hAmong => ?_)
    exact items_normal h v (mem_ascending.mp hAmong)
  case h_22 text =>
    refine normal_okData ?_
    cases hRead : Json.parse text with
    | none => exact Json.normal_null
    | some v => exact Json.normal_parse hRead
  case h_26 fields =>
    refine normal_okData (Json.normal_arr_iff.mpr fun v hAmong => ?_)
    obtain ⟨e, hThere, rfl⟩ := List.mem_map.mp hAmong
    exact (fields_normal h).values e hThere

theorem mem_of_allData {args : List Value} {data : List Json} (h : allData? args = some data) :
    ∀ j ∈ data, .data j ∈ args := by
  intro j hAmong
  obtain ⟨v, hThere, hFound⟩ := mem_of_mapM_option h j hAmong
  cases v with
  | data k =>
    cases hFound
    exact hThere
  | function f => cases hFound

theorem keyed_normal {name : String} {f : Json → Answer} {pairs : List (Json × Json)}
    (h : ∀ v ∈ [Value.data (.arr items), .function f], v.Normal)
    (hRead : keyed name f items = .ok pairs) :
    ∀ p ∈ pairs, p.1.Normal := by
  have hGiven := Value.normal_data_iff.mp (h _ List.mem_cons_self)
  exact fun p hAmong => Json.normal_arr_iff.mp hGiven p.1 (mem_of_keyed hRead p hAmong)

theorem normal_mapped {f : Json → Answer} (hf : Value.Normal (.function f))
    (h : Json.Normal (.arr items)) {results : List Json}
    (hRead : items.mapM (fun v => (f v).map Value.toJson) = .ok results) :
    ∀ w ∈ results, w.Normal := by
  intro w hAmong
  obtain ⟨v, hThere, hFound⟩ := mem_of_mapM hRead w hAmong
  cases hf with
  | function hGives =>
    cases hAnswered : f v with
    | error e => rw [hAnswered] at hFound; cases hFound
    | ok value =>
      rw [hAnswered] at hFound
      cases hFound
      exact (hGives v value (Json.normal_arr_iff.mp h v hThere) hAnswered).toJson

theorem normal_applyFunction (name : String) {args : List Value} (h : ∀ v ∈ args, v.Normal) :
    Answer.Normal (applyFunction name args) := by
  unfold applyFunction
  dsimp only
  split
  case h_1 =>
    split
    · next f items =>
      refine normal_bind fun results hRead => normal_okData (Json.normal_arr_iff.mpr ?_)
      have hGiven := h (.data (.arr items)) (by simp)
      exact normal_mapped (h _ List.mem_cons_self) (Value.normal_data_iff.mp hGiven) hRead
    · exact normal_error
  case h_2 =>
    split
    · refine normal_bind fun pairs hRead => normal_okData ?_
      exact normal_extreme _ Prod.fst (keyed_normal h hRead)
    · exact normal_error
  case h_3 =>
    split
    · refine normal_bind fun pairs hRead => normal_okData ?_
      exact normal_extreme _ Prod.fst (keyed_normal h hRead)
    · exact normal_error
  case h_4 =>
    split
    · exact normal_error
    · refine normal_ok ?_
      cases hFound : args.find? fun v => !isNullValue v with
      | none => exact .data Json.normal_null
      | some v => exact h v (List.mem_of_find?_eq_some hFound)
  case h_5 =>
    split
    · refine normal_bind fun pairs hRead =>
        normal_okData (Json.normal_arr_iff.mpr fun v hAmong => ?_)
      obtain ⟨p, hThere, rfl⟩ := List.mem_map.mp hAmong
      exact keyed_normal h hRead p (mem_ascending.mp hThere)
    · exact normal_error
  case h_6 =>
    split
    · exact normal_ok (h _ List.mem_cons_self)
    · refine normal_okData (Json.normal_arr_iff.mpr fun v hAmong => ?_)
      rw [List.mem_singleton.mp hAmong]
      exact (h _ List.mem_cons_self).toJson
    · exact normal_error
  case h_7 =>
    split
    · exact normal_okData (Json.normal_str _)
    · exact normal_error
  case h_8 =>
    split
    · split
      · next data hRead =>
        refine normal_applyData _ fun j hAmong => ?_
        exact Value.normal_data_iff.mp (h _ (mem_of_allData hRead j hAmong))
      · exact normal_error
    · exact normal_error

end Functions

section Items

variable {items : List Json}

theorem mem_of_takeSteps {items : Array Json} {stop step : Int} {count : Nat} {i : Int} {v : Json}
    (h : v ∈ takeSteps items stop step count i) : v ∈ items.toList := by
  induction count generalizing i with
  | zero => cases h
  | succ count ih =>
    unfold takeSteps at h
    split at h
    · split at h
      · next w hFound =>
        rcases List.mem_cons.mp h with rfl | hLater
        · exact List.mem_of_getElem? (Array.getElem?_toList.trans hFound)
        · exact ih hLater
      · cases h
    · cases h

theorem normal_itemAt {d : Json} (h : d.Normal) (position : Int) : (itemAt d position).Normal := by
  have hEach {items : List Json} (h : Json.Normal (.arr items)) (i : Nat) :
      ((items[i]?).getD .null).Normal := by
    cases hFound : items[i]? with
    | none => exact Json.normal_null
    | some v => exact Json.normal_arr_iff.mp h v (List.mem_of_getElem? hFound)
  unfold itemAt
  split
  · split
    · exact hEach h _
    · split
      · exact hEach h _
      · exact Json.normal_null
  · exact Json.normal_null

theorem normal_flattenItems (h : ∀ v ∈ items, v.Normal) : ∀ v ∈ flattenItems items, v.Normal := by
  induction items with
  | nil => exact h
  | cons w rest ih =>
    have hLater := ih fun v hAmong => h v (List.mem_cons_of_mem w hAmong)
    have hFirst := h w List.mem_cons_self
    cases w with
    | arr inner =>
      intro v hAmong
      rcases List.mem_append.mp hAmong with hHere | hThere
      · exact Json.normal_arr_iff.mp hFirst v hHere
      · exact hLater v hThere
    | _ =>
      intro v hAmong
      rcases List.mem_cons.mp hAmong with rfl | hThere
      · exact hFirst
      · exact hLater v hThere

theorem normal_compareData (op : Comparison) (a b : Json) : (compareData op a b).Normal := by
  cases op <;> simp only [compareData] <;> first
    | exact Json.normal_bool _
    | split <;> first | exact Json.normal_bool _ | exact Json.normal_null

theorem normal_projectItems {f : Json → Answer} (hf : ∀ v ∈ items, Answer.Normal (f v))
    {results : List Json} (hRead : projectItems f items = .ok results) :
    ∀ v ∈ results, v.Normal := by
  induction items generalizing results with
  | nil =>
    cases hRead
    exact List.forall_mem_nil _
  | cons w rest ih =>
    obtain ⟨value, hFirst, hRead⟩ := ok_of_bind hRead
    obtain ⟨more, hOthers, hRead⟩ := ok_of_bind hRead
    have hLater := ih (fun v hAmong => hf v (List.mem_cons_of_mem w hAmong)) hOthers
    cases hRead
    split
    · exact hLater
    · intro v hAmong
      rcases List.mem_cons.mp hAmong with rfl | hThere
      · exact (hf w List.mem_cons_self value hFirst).toJson
      · exact hLater v hThere

end Items

section Evaluation

mutual

def Expr.Normal : Expr → Prop
  | .literal v => v.Normal
  | .chain a b => Expr.Normal a ∧ Expr.Normal b
  | .or a b => Expr.Normal a ∧ Expr.Normal b
  | .and a b => Expr.Normal a ∧ Expr.Normal b
  | .compare _ a b => Expr.Normal a ∧ Expr.Normal b
  | .guarded test body => Expr.Normal test ∧ Expr.Normal body
  | .project source body => Expr.Normal source ∧ Expr.Normal body
  | .not a => Expr.Normal a
  | .flatten a => Expr.Normal a
  | .values a => Expr.Normal a
  | .reference a => Expr.Normal a
  | .list elements => ExprsNormal elements
  | .hash entries => EntriesNormal entries
  | .call _ arguments => ExprsNormal arguments
  | _ => True

def ExprsNormal : List Expr → Prop
  | [] => True
  | e :: rest => Expr.Normal e ∧ ExprsNormal rest

def EntriesNormal : List (String × Expr) → Prop
  | [] => True
  | (_, e) :: rest => Expr.Normal e ∧ EntriesNormal rest

end

theorem exprsNormal_iff {es : List Expr} : ExprsNormal es ↔ ∀ e ∈ es, e.Normal := by
  induction es with
  | nil => simp [ExprsNormal]
  | cons e rest ih => simp [ExprsNormal, ih]

theorem entriesNormal_iff {es : List (String × Expr)} : EntriesNormal es ↔
    ∀ e ∈ es, e.2.Normal := by
  induction es with
  | nil => simp [EntriesNormal]
  | cons e rest ih =>
    obtain ⟨name, e⟩ := e
    simp [EntriesNormal, ih]

/-- On documents in normal form the expression has values in normal form. -/
def Expr.KeepsNormal (e : Expr) : Prop := ∀ d : Json, d.Normal → Answer.Normal (eval e d)

def AllKeepNormal (es : List Expr) : Prop :=
  ∀ d : Json, d.Normal → ∀ values, evalAll es d = .ok values → ∀ v ∈ values, v.Normal

def EntriesKeepNormal (es : List (String × Expr)) : Prop :=
  ∀ d : Json, d.Normal → ∀ fields, evalEntries es d = .ok fields → ∀ e ∈ fields, e.2.Normal

section Constructors

variable {a b : Expr}

theorem keepsNormal_field (name : String) : Expr.KeepsNormal (.field name) := by
  intro d hd
  refine normal_okData ?_
  cases hFound : d.field? name with
  | none => exact Json.normal_null
  | some v => exact hd.field? hFound

theorem keepsNormal_slice (start stop : Option Int) (step : Int) :
    Expr.KeepsNormal (.slice start stop step) := by
  intro d hd
  unfold eval
  split
  · exact normal_error
  · split
    · refine normal_okData (Json.normal_arr_iff.mpr fun v hv => ?_)
      exact Json.normal_arr_iff.mp hd v (mem_of_takeSteps hv)
    · exact normal_okData Json.normal_null

theorem keepsNormal_chain (ha : a.KeepsNormal) (hb : b.KeepsNormal) :
    Expr.KeepsNormal (.chain a b) := by
  intro d hd
  rw [eval]
  refine normal_bind fun left hLeft => ?_
  exact hb _ (ha d hd left hLeft).toJson

theorem keepsNormal_or (ha : a.KeepsNormal) (hb : b.KeepsNormal) : Expr.KeepsNormal (.or a b) := by
  intro d hd
  rw [eval]
  refine normal_bind fun left hLeft => ?_
  split
  · exact normal_ok (ha d hd left hLeft)
  · exact hb d hd

theorem keepsNormal_and (ha : a.KeepsNormal) (hb : b.KeepsNormal) :
    Expr.KeepsNormal (.and a b) := by
  intro d hd
  rw [eval]
  refine normal_bind fun left hLeft => ?_
  split
  · exact hb d hd
  · exact normal_ok (ha d hd left hLeft)

theorem keepsNormal_not (a : Expr) : Expr.KeepsNormal (.not a) := by
  intro d hd
  rw [eval]
  exact normal_bind fun _ _ => normal_truth _

theorem keepsNormal_compare (op : Comparison) (a b : Expr) :
    Expr.KeepsNormal (.compare op a b) := by
  intro d hd
  rw [eval]
  exact normal_bind fun _ _ => normal_bind fun _ _ => normal_okData (normal_compareData op _ _)

theorem keepsNormal_guarded (test : Expr) (hb : b.KeepsNormal) :
    Expr.KeepsNormal (.guarded test b) := by
  intro d hd
  rw [eval]
  refine normal_bind fun _ _ => ?_
  split
  · exact hb d hd
  · exact normal_okData Json.normal_null

theorem keepsNormal_project (ha : a.KeepsNormal) (hb : b.KeepsNormal) :
    Expr.KeepsNormal (.project a b) := by
  intro d hd
  rw [eval]
  refine normal_bind fun value hValue => ?_
  have hSource := (ha d hd value hValue).toJson
  split
  · next items hItems =>
    rw [hItems] at hSource
    refine normal_bind fun results hRead => normal_okData (Json.normal_arr_iff.mpr ?_)
    exact normal_projectItems (fun v hv => hb v (Json.normal_arr_iff.mp hSource v hv)) hRead
  · exact normal_okData Json.normal_null

theorem keepsNormal_flatten (ha : a.KeepsNormal) : Expr.KeepsNormal (.flatten a) := by
  intro d hd
  rw [eval]
  refine normal_bind fun value hValue => ?_
  have hSource := (ha d hd value hValue).toJson
  split
  · next items hItems =>
    rw [hItems] at hSource
    exact normal_okData
      (Json.normal_arr_iff.mpr (normal_flattenItems (Json.normal_arr_iff.mp hSource)))
  · exact normal_okData Json.normal_null

theorem keepsNormal_values (ha : a.KeepsNormal) : Expr.KeepsNormal (.values a) := by
  intro d hd
  rw [eval]
  refine normal_bind fun value hValue => ?_
  have hSource := (ha d hd value hValue).toJson
  split
  · next fields hFields =>
    rw [hFields] at hSource
    refine normal_okData (Json.normal_arr_iff.mpr fun v hv => ?_)
    obtain ⟨e, he, rfl⟩ := List.mem_map.mp hv
    exact (Json.normal_obj_iff.mp hSource).values e he
  · exact normal_okData Json.normal_null

theorem keepsNormal_list {elements : List Expr} (h : AllKeepNormal elements) :
    Expr.KeepsNormal (.list elements) := by
  intro d hd
  rw [eval]
  split
  · exact normal_okData Json.normal_null
  · refine normal_bind fun values hRead => normal_okData (Json.normal_arr_iff.mpr fun v hv => ?_)
    obtain ⟨value, hValue, rfl⟩ := List.mem_map.mp hv
    exact (h d hd values hRead value hValue).toJson

theorem keepsNormal_hash {entries : List (String × Expr)} (h : EntriesKeepNormal entries) :
    Expr.KeepsNormal (.hash entries) := by
  intro d hd
  rw [eval]
  split
  · exact normal_okData Json.normal_null
  · refine normal_bind fun fields hRead => normal_okData (Json.normal_obj_iff.mpr ?_)
    exact Dict.normal_ofList (h d hd fields hRead)

theorem keepsNormal_call (name : String) {arguments : List Expr} (h : AllKeepNormal arguments) :
    Expr.KeepsNormal (.call name arguments) := by
  intro d hd
  rw [eval_call]
  refine normal_bind fun values hRead => ?_
  exact normal_applyFunction name (h d hd values hRead)

theorem keepsNormal_reference (ha : a.KeepsNormal) : Expr.KeepsNormal (.reference a) :=
  fun _ _ => normal_ok (.function fun d v hd hAnswer => ha d hd v hAnswer)

theorem allKeepNormal_cons {e : Expr} {rest : List Expr} (he : e.KeepsNormal)
    (hRest : AllKeepNormal rest) :
    AllKeepNormal (e :: rest) := by
  intro d hd values hRead
  obtain ⟨value, hValue, hRead⟩ := ok_of_bind hRead
  obtain ⟨more, hMore, hRead⟩ := ok_of_bind hRead
  cases hRead
  exact List.forall_mem_cons.mpr ⟨he d hd value hValue, hRest d hd more hMore⟩

theorem entriesKeepNormal_cons {name : String} {e : Expr} {rest : List (String × Expr)}
    (he : e.KeepsNormal) (hRest : EntriesKeepNormal rest) :
    EntriesKeepNormal ((name, e) :: rest) := by
  intro d hd fields hRead
  obtain ⟨value, hValue, hRead⟩ := ok_of_bind hRead
  obtain ⟨more, hMore, hRead⟩ := ok_of_bind hRead
  cases hRead
  exact List.forall_mem_cons.mpr ⟨(he d hd value hValue).toJson, hRest d hd more hMore⟩

end Constructors

mutual

theorem keepsNormal_of_normal : (e : Expr) → e.Normal → e.KeepsNormal
  | .identity, _ => fun _ hd => normal_okData hd
  | .field name, _ => keepsNormal_field name
  | .index i, _ => fun _ hd => normal_okData (normal_itemAt hd i)
  | .slice start stop step, _ => keepsNormal_slice start stop step
  | .literal _, he => fun _ _ => normal_okData he
  | .chain a b, he =>
    keepsNormal_chain (keepsNormal_of_normal a he.1) (keepsNormal_of_normal b he.2)
  | .or a b, he => keepsNormal_or (keepsNormal_of_normal a he.1) (keepsNormal_of_normal b he.2)
  | .and a b, he => keepsNormal_and (keepsNormal_of_normal a he.1) (keepsNormal_of_normal b he.2)
  | .not a, _ => keepsNormal_not a
  | .compare op a b, _ => keepsNormal_compare op a b
  | .guarded test body, he => keepsNormal_guarded test (keepsNormal_of_normal body he.2)
  | .project a b, he =>
    keepsNormal_project (keepsNormal_of_normal a he.1) (keepsNormal_of_normal b he.2)
  | .flatten a, he => keepsNormal_flatten (keepsNormal_of_normal a he)
  | .values a, he => keepsNormal_values (keepsNormal_of_normal a he)
  | .list elements, he => keepsNormal_list (allKeepNormal_of_normal elements he)
  | .hash entries, he => keepsNormal_hash (entriesKeepNormal_of_normal entries he)
  | .call name arguments, he => keepsNormal_call name (allKeepNormal_of_normal arguments he)
  | .reference a, he => keepsNormal_reference (keepsNormal_of_normal a he)

theorem allKeepNormal_of_normal : (es : List Expr) → ExprsNormal es → AllKeepNormal es
  | [], _ => by
    intro d hd values hRead
    cases hRead
    exact List.forall_mem_nil _
  | e :: rest, he =>
    allKeepNormal_cons (keepsNormal_of_normal e he.1) (allKeepNormal_of_normal rest he.2)

theorem entriesKeepNormal_of_normal : (es : List (String × Expr)) → EntriesNormal es →
    EntriesKeepNormal es
  | [], _ => by
    intro d hd fields hRead
    cases hRead
    exact List.forall_mem_nil _
  | (_, e) :: rest, he =>
    entriesKeepNormal_cons (keepsNormal_of_normal e he.1) (entriesKeepNormal_of_normal rest he.2)

end

/-- What a query finds in a document is in normal form, if the document and the literals of the
query are. -/
theorem normal_search {e : Expr} {d v : Json} (he : e.Normal) (h : d.Normal)
    (hFound : search e d = .ok v) : v.Normal := by
  unfold search at hFound
  cases hEvaluated : eval e d with
  | error _ => rw [hEvaluated] at hFound; cases hFound
  | ok value =>
    rw [hEvaluated] at hFound
    cases hFound
    exact (keepsNormal_of_normal e he d h value hEvaluated).toJson

end Evaluation

end Stepwise.Query
