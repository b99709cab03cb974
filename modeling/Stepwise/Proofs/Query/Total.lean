import Stepwise.Proofs.Json.Honest
import Stepwise.Proofs.Objects.Transparency
import Stepwise.Proofs.Query.Order
import Stepwise.Proofs.Query.PlainPath

/-!
# Total expressions

Expressions that resolve on every document. Paths do, and so do queries that call only functions
that take whatever they are given, and no slice of which has a step of zero. A query that makes
objects could make a pointer, which is followed like one that was there; queries that cannot are
singled out by what they make and by the functions they call.
-/

namespace Stepwise

set_option autoImplicit false

namespace Json

theorem arePlain_iff {items : List Json} : arePlain items = true ↔
    ∀ v ∈ items, v.isPlain = true := by
  induction items with
  | nil => simp [arePlain]
  | cons v rest ih => simp [arePlain, ih]

theorem havePlain_iff {fields : List (String × Json)} :
    havePlain fields = true ↔ ∀ e ∈ fields, e.2.isPlain = true := by
  induction fields with
  | nil => simp [havePlain]
  | cons e rest ih =>
    obtain ⟨name, v⟩ := e
    simp [havePlain, ih]

theorem isPlain_of_other {fields : List (String × Json)} {x : String × Json} (hAmong : x ∈ fields)
    (hOther : x.1 ≠ reference) (hValues : ∀ e ∈ fields, e.2.isPlain = true) :
    (Json.obj fields).isPlain = true := by
  have hShape : Pointer.ofJson? (.obj fields) = none := by
    unfold Pointer.ofJson?
    split
    · next hSame =>
      cases hSame
      rw [List.mem_singleton.mp hAmong] at hOther
      exact absurd rfl hOther
    · rfl
  rw [isPlain, hShape, havePlain_iff.mpr hValues]
  rfl

/-- A document in which nothing is left to fetch, if pointers are followed. -/
def Settled (hydrating : Bool) (v : Json) : Prop := hydrating = true → v.isPlain = true

section Settled

variable {hydrating : Bool} {items : List Json} {fields : List (String × Json)}

theorem settled_null : Settled hydrating .null := fun _ => rfl

theorem settled_bool (b : Bool) : Settled hydrating (.bool b) := fun _ => rfl

theorem settled_str (s : String) : Settled hydrating (.str s) := fun _ => rfl

theorem settled_arr_iff : Settled hydrating (.arr items) ↔ ∀ v ∈ items, Settled hydrating v := by
  constructor
  · intro h v hAmong hFollows
    exact arePlain_iff.mp (h hFollows) v hAmong
  · intro h hFollows
    exact arePlain_iff.mpr fun v hAmong => h v hAmong hFollows

theorem Settled.values (h : Settled hydrating (.obj fields)) :
    ∀ e ∈ fields, Settled hydrating e.2 := by
  intro e hAmong hFollows
  exact havePlain_iff.mp (Bool.and_eq_true_iff.mp (h hFollows)).2 e hAmong

theorem settled_getD {o : Option Json} (h : ∀ v, o = some v → Settled hydrating v) :
    Settled hydrating (o.getD .null) := by
  cases o with
  | none => exact settled_null
  | some v => exact h v rfl

end Settled

end Json

namespace Query

open Json

/-- The functions that take whatever they are given; the number that a text denotes may be any
document, so it can be a pointer. -/
def takesAnything (hydrating : Bool) (name : String) (count : Nat) : Bool :=
  (name == "not_null" && 0 < count) ||
    (count == 1 && (name == "to_array" || name == "to_string" || name == "type" ||
      (!hydrating && name == "to_number")))

mutual

/-- No slice has a step of zero, and only functions are called that take whatever they are given.
Where pointers are followed, the expression also makes none: its literals hold none, and the objects
it makes have another field than a pointer's. -/
def Expr.isTotal (hydrating : Bool) : Expr → Bool
  | .slice _ _ step => step != 0
  | .literal v => !hydrating || v.isPlain
  | .chain a b => a.isTotal hydrating && b.isTotal hydrating
  | .or a b => a.isTotal hydrating && b.isTotal hydrating
  | .and a b => a.isTotal hydrating && b.isTotal hydrating
  | .compare _ a b => a.isTotal hydrating && b.isTotal hydrating
  | .guarded test body => test.isTotal hydrating && body.isTotal hydrating
  | .project source body => source.isTotal hydrating && body.isTotal hydrating
  | .not a => a.isTotal hydrating
  | .flatten a => a.isTotal hydrating
  | .values a => a.isTotal hydrating
  | .list elements => areTotal hydrating elements
  | .hash entries =>
    (!hydrating || entries.any fun e => e.1 != reference) && haveTotal hydrating entries
  | .call name arguments =>
    takesAnything hydrating name arguments.length && areTotal hydrating arguments
  | .reference _ => false
  | .identity => true
  | .field _ => true
  | .index _ => true

def areTotal (hydrating : Bool) : List Expr → Bool
  | [] => true
  | e :: rest => e.isTotal hydrating && areTotal hydrating rest

def haveTotal (hydrating : Bool) : List (String × Expr) → Bool
  | [] => true
  | (_, e) :: rest => e.isTotal hydrating && haveTotal hydrating rest

end

/-- The answer is a document with the property. -/
def Answer.Gives (P : Json → Prop) (a : Answer) : Prop := ∃ v, a = .ok (.data v) ∧ P v

section Answers

variable {P Q : Json → Prop}

theorem gives_data {v : Json} (h : P v) : Answer.Gives P (.ok (.data v)) := ⟨v, rfl, h⟩

theorem gives_pure {v : Json} (h : P v) : Answer.Gives P (pure (.data v)) := ⟨v, rfl, h⟩

theorem Answer.Gives.bind {a : Answer} {f : Value → Answer} (h : Answer.Gives P a)
    (hf : ∀ v, P v → Answer.Gives Q (f (.data v))) : Answer.Gives Q (a >>= f) := by
  obtain ⟨v, rfl, hv⟩ := h
  exact hf v hv

theorem projectItems_gives {f : Json → Answer} {items : List Json}
    (h : ∀ v ∈ items, Answer.Gives P (f v)) :
    ∃ results, projectItems f items = .ok results ∧ ∀ w ∈ results, P w := by
  induction items with
  | nil => exact ⟨[], rfl, List.forall_mem_nil _⟩
  | cons v rest ih =>
    obtain ⟨w, hFirst, hw⟩ := h v List.mem_cons_self
    obtain ⟨results, hOthers, hr⟩ := ih fun u hAmong => h u (List.mem_cons_of_mem v hAmong)
    have hUnfolded : projectItems f (v :: rest) =
      .ok (if w.isNull then results else w :: results) := by
      rw [projectItems, hFirst, hOthers]
      rfl
    refine ⟨_, hUnfolded, ?_⟩
    split
    · exact hr
    · intro u hAmong
      rcases List.mem_cons.mp hAmong with rfl | hLater
      · exact hw
      · exact hr u hLater

end Answers

section Parts

variable {hydrating : Bool} {items : List Json}

theorem settled_itemAt {d : Json} (h : Settled hydrating d) (position : Int) :
    Settled hydrating (itemAt d position) := by
  have hEach {items : List Json} (h : Settled hydrating (.arr items)) (i : Nat) :
      Settled hydrating ((items[i]?).getD .null) :=
    settled_getD fun v hFound => settled_arr_iff.mp h v (List.mem_of_getElem? hFound)
  unfold itemAt
  split
  · split
    · exact hEach h _
    · split
      · exact hEach h _
      · exact settled_null
  · exact settled_null

theorem settled_flattenItems (h : ∀ v ∈ items, Settled hydrating v) :
    ∀ v ∈ flattenItems items, Settled hydrating v := by
  induction items with
  | nil => exact h
  | cons w rest ih =>
    have hLater := ih fun v hAmong => h v (List.mem_cons_of_mem w hAmong)
    have hFirst := h w List.mem_cons_self
    cases w with
    | arr inner =>
      intro v hAmong
      rcases List.mem_append.mp hAmong with hHere | hThere
      · exact settled_arr_iff.mp hFirst v hHere
      · exact hLater v hThere
    | _ =>
      intro v hAmong
      rcases List.mem_cons.mp hAmong with rfl | hThere
      · exact hFirst
      · exact hLater v hThere

theorem settled_compareData (op : Comparison) (a b : Json) :
    Settled hydrating (compareData op a b) := by
  cases op <;> simp only [compareData] <;> first
    | exact settled_bool _
    | split <;> first | exact settled_bool _ | exact settled_null

/-- A function that takes whatever it is given has a value for any documents. -/
theorem applyFunction_gives {name : String} {given : List Json}
    (hTakes : takesAnything hydrating name given.length = true)
    (h : ∀ v ∈ given, Settled hydrating v) :
    Answer.Gives (Settled hydrating) (applyFunction name (given.map .data)) := by
  unfold takesAnything at hTakes
  simp only [Bool.or_eq_true, Bool.and_eq_true, beq_iff_eq, decide_eq_true_eq, Bool.not_eq_true']
    at hTakes
  rcases hTakes with ⟨rfl, hSome⟩ | ⟨hSingle, hNamed⟩
  · have hUnfolded : applyFunction "not_null" (given.map .data) =
        .ok (((given.map Value.data).find? fun v => !isNullValue v).getD (.data .null)) := by
      have hNonempty : (given.map Value.data).isEmpty = false := by
        cases given with
        | nil => cases hSome
        | cons v rest => rfl
      simp only [applyFunction, hNonempty, Bool.false_eq_true, if_false]
    rw [hUnfolded]
    cases hFound : (given.map Value.data).find? fun v => !isNullValue v with
    | none => exact gives_data settled_null
    | some v =>
      obtain ⟨w, hAmong, rfl⟩ := List.mem_map.mp (List.mem_of_find?_eq_some hFound)
      exact gives_data (h w hAmong)
  · obtain ⟨v, rfl⟩ := List.length_eq_one_iff.mp hSingle
    have hSettled := h v List.mem_cons_self
    rcases hNamed with ((rfl | rfl) | rfl) | ⟨hUnfollowed, rfl⟩
    · cases v with
      | arr items => exact gives_data hSettled
      | _ => exact gives_data (settled_arr_iff.mpr (List.forall_mem_singleton.mpr hSettled))
    · cases v <;> exact gives_data (settled_str _)
    · exact gives_data (settled_str _)
    · have hAnything (w : Json) : Settled hydrating w := fun hFollows => by
        simp [hUnfollowed] at hFollows
      cases v <;> exact gives_data (hAnything _)

end Parts

section Evaluation

variable {hydrating : Bool}

theorem any_of_forall_fst {fields : List (String × Json)} {entries : List (String × Expr)}
    (hSame : fields.map Prod.fst = entries.map Prod.fst)
    (h : (entries.any fun e => e.1 != reference) = true) :
    ∃ x ∈ fields, x.1 ≠ reference := by
  obtain ⟨e, hAmong, hOther⟩ := List.any_eq_true.mp h
  have hNamed : e.1 ∈ fields.map Prod.fst := hSame ▸ List.mem_map_of_mem hAmong
  obtain ⟨x, hThere, hName⟩ := List.mem_map.mp hNamed
  exact ⟨x, hThere, by simpa [hName] using hOther⟩

/-- On every document the expression has a value, in which nothing is left to fetch. -/
def Expr.Settles (hydrating : Bool) (e : Expr) : Prop :=
  ∀ d : Json, Settled hydrating d → Answer.Gives (Settled hydrating) (eval e d)

/-- Every expression of the list settles. -/
def AllSettle (hydrating : Bool) (es : List Expr) : Prop :=
  ∀ d : Json, Settled hydrating d → ∃ given : List Json, evalAll es d = .ok (given.map .data) ∧
    given.length = es.length ∧ ∀ v ∈ given, Settled hydrating v

/-- The expression of every entry settles, under its name. -/
def EntriesSettle (hydrating : Bool) (es : List (String × Expr)) : Prop :=
  ∀ d : Json, Settled hydrating d → ∃ fields, evalEntries es d = .ok fields ∧
    fields.map Prod.fst = es.map Prod.fst ∧ ∀ e ∈ fields, Settled hydrating e.2

section Constructors

variable {a b : Expr}

theorem settles_field (name : String) : Expr.Settles hydrating (.field name) := by
  intro d hd
  refine gives_data (settled_getD fun v hv => ?_)
  cases d with
  | obj fields => exact hd.values _ (Dict.mem_of_get? hv)
  | _ => cases hv

theorem settles_slice {start stop : Option Int} {step : Int} (hStep : step ≠ 0) :
    Expr.Settles hydrating (.slice start stop step) := by
  intro d hd
  unfold eval
  rw [if_neg hStep]
  split
  · refine gives_data (settled_arr_iff.mpr fun v hv => ?_)
    exact settled_arr_iff.mp hd v (mem_of_takeSteps hv)
  · exact gives_data settled_null

theorem settles_literal {v : Json} (h : (!hydrating || v.isPlain) = true) :
    Expr.Settles hydrating (.literal v) := by
  intro d hd
  refine gives_data fun hFollows => ?_
  rw [hFollows] at h
  exact h

theorem settles_chain (ha : a.Settles hydrating) (hb : b.Settles hydrating) :
    Expr.Settles hydrating (.chain a b) := by
  intro d hd
  rw [eval]
  exact (ha d hd).bind fun v hv => hb v hv

theorem settles_or (ha : a.Settles hydrating) (hb : b.Settles hydrating) :
    Expr.Settles hydrating (.or a b) := by
  intro d hd
  rw [eval]
  refine (ha d hd).bind fun v hv => ?_
  split
  · exact gives_pure hv
  · exact hb d hd

theorem settles_and (ha : a.Settles hydrating) (hb : b.Settles hydrating) :
    Expr.Settles hydrating (.and a b) := by
  intro d hd
  rw [eval]
  refine (ha d hd).bind fun v hv => ?_
  split
  · exact hb d hd
  · exact gives_pure hv

theorem settles_not (ha : a.Settles hydrating) : Expr.Settles hydrating (.not a) := by
  intro d hd
  rw [eval]
  exact (ha d hd).bind fun v _ => gives_data (settled_bool _)

theorem settles_compare (op : Comparison) (ha : a.Settles hydrating) (hb : b.Settles hydrating) :
    Expr.Settles hydrating (.compare op a b) := by
  intro d hd
  rw [eval]
  exact (ha d hd).bind fun v _ => (hb d hd).bind fun w _ => gives_pure (settled_compareData op v w)

theorem settles_guarded (ha : a.Settles hydrating) (hb : b.Settles hydrating) :
    Expr.Settles hydrating (.guarded a b) := by
  intro d hd
  rw [eval]
  refine (ha d hd).bind fun v _ => ?_
  split
  · exact hb d hd
  · exact gives_pure settled_null

theorem settles_project (ha : a.Settles hydrating) (hb : b.Settles hydrating) :
    Expr.Settles hydrating (.project a b) := by
  intro d hd
  rw [eval]
  refine (ha d hd).bind fun v hv => ?_
  split
  · next items hItems =>
    obtain rfl : v = .arr items := hItems
    obtain ⟨results, hRead, hResults⟩ :=
      projectItems_gives fun w hw => hb w (settled_arr_iff.mp hv w hw)
    rw [hRead]
    exact gives_data (settled_arr_iff.mpr hResults)
  · exact gives_pure settled_null

theorem settles_flatten (ha : a.Settles hydrating) : Expr.Settles hydrating (.flatten a) := by
  intro d hd
  rw [eval]
  refine (ha d hd).bind fun v hv => ?_
  split
  · next items hItems =>
    obtain rfl : v = .arr items := hItems
    exact gives_pure (settled_arr_iff.mpr (settled_flattenItems (settled_arr_iff.mp hv)))
  · exact gives_pure settled_null

theorem settles_values (ha : a.Settles hydrating) : Expr.Settles hydrating (.values a) := by
  intro d hd
  rw [eval]
  refine (ha d hd).bind fun v hv => ?_
  split
  · next fields hFields =>
    obtain rfl : v = .obj fields := hFields
    refine gives_pure (settled_arr_iff.mpr fun w hw => ?_)
    obtain ⟨e, he, rfl⟩ := List.mem_map.mp hw
    exact hv.values e he
  · exact gives_pure settled_null

theorem settles_list {elements : List Expr} (h : AllSettle hydrating elements) :
    Expr.Settles hydrating (.list elements) := by
  intro d hd
  rw [eval]
  split
  · exact gives_data settled_null
  · obtain ⟨given, hRead, -, hGiven⟩ := h d hd
    rw [hRead]
    refine gives_data (settled_arr_iff.mpr fun w hw => ?_)
    simp only [List.map_map, List.mem_map, Function.comp_apply, Value.toJson] at hw
    obtain ⟨v, hv, rfl⟩ := hw
    exact hGiven v hv

theorem settles_hash {entries : List (String × Expr)}
    (hOther : (!hydrating || entries.any fun e => e.1 != reference) = true)
    (h : EntriesSettle hydrating entries) : Expr.Settles hydrating (.hash entries) := by
  intro d hd
  rw [eval]
  split
  · exact gives_data settled_null
  · obtain ⟨fields, hRead, hNames, hFields⟩ := h d hd
    rw [hRead]
    refine gives_data fun hFollows => ?_
    rw [hFollows, Bool.not_true, Bool.false_or] at hOther
    obtain ⟨x, hx, hApart⟩ := any_of_forall_fst hNames hOther
    have hThere : (Dict.get? (Dict.ofList fields) x.1).isSome = true := by
      rw [Dict.get?_ofList]
      exact Dict.isSome_last? hx
    obtain ⟨v, hv⟩ := Option.isSome_iff_exists.mp hThere
    exact isPlain_of_other (Dict.mem_of_get? hv) hApart fun e he =>
      hFields e (Dict.mem_of_mem_ofList he) hFollows

theorem settles_call {name : String} {arguments : List Expr}
    (hTakes : takesAnything hydrating name arguments.length = true)
    (h : AllSettle hydrating arguments) :
    Expr.Settles hydrating (.call name arguments) := by
  intro d hd
  obtain ⟨given, hRead, hLength, hGiven⟩ := h d hd
  rw [eval_call, hRead]
  exact applyFunction_gives (hLength ▸ hTakes) hGiven

theorem allSettle_cons {e : Expr} {rest : List Expr} (he : e.Settles hydrating)
    (hRest : AllSettle hydrating rest) : AllSettle hydrating (e :: rest) := by
  intro d hd
  obtain ⟨v, hValue, hv⟩ := he d hd
  obtain ⟨given, hRead, hLength, hGiven⟩ := hRest d hd
  refine ⟨v :: given, ?_, congrArg (· + 1) hLength, List.forall_mem_cons.mpr ⟨hv, hGiven⟩⟩
  rw [evalAll, hValue, hRead]
  rfl

theorem entriesSettle_cons {name : String} {e : Expr} {rest : List (String × Expr)}
    (he : e.Settles hydrating) (hRest : EntriesSettle hydrating rest) :
    EntriesSettle hydrating ((name, e) :: rest) := by
  intro d hd
  obtain ⟨v, hValue, hv⟩ := he d hd
  obtain ⟨fields, hRead, hNames, hFields⟩ := hRest d hd
  refine ⟨(name, v) :: fields, ?_, congrArg (name :: ·) hNames,
    List.forall_mem_cons.mpr ⟨hv, hFields⟩⟩
  rw [evalEntries, hValue, hRead]
  rfl

end Constructors

mutual

theorem settles_of_isTotal : (e : Expr) → e.isTotal hydrating = true → e.Settles hydrating
  | .identity, _ => fun _ hd => gives_data hd
  | .field name, _ => settles_field name
  | .index i, _ => fun _ hd => gives_data (settled_itemAt hd i)
  | .slice _ _ _, he => settles_slice (by simpa [Expr.isTotal] using he)
  | .literal _, he => settles_literal he
  | .chain a b, he =>
    have ⟨ha, hb⟩ := Bool.and_eq_true_iff.mp he
    settles_chain (settles_of_isTotal a ha) (settles_of_isTotal b hb)
  | .or a b, he =>
    have ⟨ha, hb⟩ := Bool.and_eq_true_iff.mp he
    settles_or (settles_of_isTotal a ha) (settles_of_isTotal b hb)
  | .and a b, he =>
    have ⟨ha, hb⟩ := Bool.and_eq_true_iff.mp he
    settles_and (settles_of_isTotal a ha) (settles_of_isTotal b hb)
  | .not a, he => settles_not (settles_of_isTotal a he)
  | .compare op a b, he =>
    have ⟨ha, hb⟩ := Bool.and_eq_true_iff.mp he
    settles_compare op (settles_of_isTotal a ha) (settles_of_isTotal b hb)
  | .guarded a b, he =>
    have ⟨ha, hb⟩ := Bool.and_eq_true_iff.mp he
    settles_guarded (settles_of_isTotal a ha) (settles_of_isTotal b hb)
  | .project a b, he =>
    have ⟨ha, hb⟩ := Bool.and_eq_true_iff.mp he
    settles_project (settles_of_isTotal a ha) (settles_of_isTotal b hb)
  | .flatten a, he => settles_flatten (settles_of_isTotal a he)
  | .values a, he => settles_values (settles_of_isTotal a he)
  | .list elements, he => settles_list (allSettle_of_areTotal elements he)
  | .hash entries, he =>
    have ⟨hOther, hEntries⟩ := Bool.and_eq_true_iff.mp he
    settles_hash hOther (entriesSettle_of_haveTotal entries hEntries)
  | .call _ arguments, he =>
    have ⟨hTakes, hArguments⟩ := Bool.and_eq_true_iff.mp he
    settles_call hTakes (allSettle_of_areTotal arguments hArguments)
  | .reference _, he => absurd he Bool.false_ne_true

theorem allSettle_of_areTotal : (es : List Expr) → areTotal hydrating es = true →
    AllSettle hydrating es
  | [], _ => fun _ _ => ⟨[], rfl, rfl, List.forall_mem_nil _⟩
  | e :: rest, he =>
    have ⟨hFirst, hRest⟩ := Bool.and_eq_true_iff.mp he
    allSettle_cons (settles_of_isTotal e hFirst) (allSettle_of_areTotal rest hRest)

theorem entriesSettle_of_haveTotal : (es : List (String × Expr)) → haveTotal hydrating es = true →
    EntriesSettle hydrating es
  | [], _ => fun _ _ => ⟨[], rfl, rfl, List.forall_mem_nil _⟩
  | (_, e) :: rest, he =>
    have ⟨hFirst, hRest⟩ := Bool.and_eq_true_iff.mp he
    entriesSettle_cons (settles_of_isTotal e hFirst) (entriesSettle_of_haveTotal rest hRest)

end

end Evaluation

end Query

open Query PlainPath

section Resolving

/-- The text stands for the query. -/
structure Compiles (expr : String) (query : Query.Expr) : Prop where
  asks : Path.isQuery expr = true
  flat : QueryText.isRecursive expr.toList = false
  parsed : Query.Expr.ofText? (QueryText.ofExpression expr) = some query

/-- The text is a path, or stands for a total query. -/
def Answerable (hydrating : Bool) (expr : String) : Prop :=
  (Path.ofText? expr).isSome = true ∨ ∃ query, Compiles expr query ∧ query.isTotal hydrating = true

/-- What an expression finds in a document that holds no pointers: where its path leads to, or what
its query gives, which is nothing if it is null. -/
inductive FindsIn (document : Json) (expr : String) : Resolved → Prop where
  | path {path : Path} (hRead : Path.ofText? expr = some path) :
      FindsIn document expr (.ofOption (path.find? document))
  | query {query : Query.Expr} {v : Json} (hOther : Path.ofText? expr = none)
    (hCompiles : Compiles expr query)
      (hGiven : Query.search query document = .ok v) : FindsIn document expr (nullAsNothing v)

variable {expr : String} {query : Query.Expr} {document v : Json} {hydrating : Bool}

theorem search_of_compiles (hCompiles : Compiles expr query)
    (hGiven : Query.search query document = .ok v) :
    search expr document = .ok (nullAsNothing v) := by
  rw [search, if_neg (by simp [hCompiles.flat]), hCompiles.parsed]
  dsimp only
  rw [hGiven]
  cases v <;> rfl

theorem resolve_of_error {e : QueryError} (hOther : Path.ofText? expr = none)
    (hCompiles : Compiles expr query) (hFails : Query.search query document = .error e) :
    resolve expr document hydrating =
      throw (.resolution ("Failed to evaluate query " ++ expr ++ ": " ++ e.message)) := by
  rw [resolve, if_pos hCompiles.asks, hOther]
  dsimp only
  rw [search, if_neg (by simp [hCompiles.flat]), hCompiles.parsed]
  dsimp only
  rw [hFails]
  rfl

theorem hydrateIf_of_settled (h : v.Settled hydrating) : hydrateIf hydrating v = pure v := by
  unfold hydrateIf
  split
  · next hFollows => exact hydrate_of_none (Json.ofJson?_of_isPlain (h hFollows))
  · rfl

theorem walk_of_settled (h : document.Settled hydrating) (path : Path) :
    path.walk hydrating document = pure (.ofOption (path.find? document)) := by
  cases hydrating with
  | false => exact Path.walk_false path document
  | true => exact Path.walk_of_isPlain (h rfl) path

theorem resolve_of_compiles (hOther : Path.ofText? expr = none) (hCompiles : Compiles expr query)
    (hGiven : Query.search query document = .ok v) (hBare : hydrateIf hydrating v = pure v) :
    resolve expr document hydrating = pure (nullAsNothing v) := by
  rw [resolve, if_pos hCompiles.asks, hOther]
  dsimp only
  rw [search_of_compiles hCompiles hGiven]
  cases v with
  | null => rfl
  | _ => exact congrArg (fun p => p >>= fun w => pure (Resolved.value w)) hBare

/-- An answerable expression resolves on every document that holds no pointers, whatever is missing
in it, null or of another kind than the expression expects. Nothing is asked of the object store. -/
theorem resolve_of_answerable (hAnswerable : Answerable hydrating expr)
    (hSettled : document.Settled hydrating) :
    ∃ found, resolve expr document hydrating = pure found ∧ FindsIn document expr found := by
  cases hRead : Path.ofText? expr with
  | some path =>
    refine ⟨_, ?_, .path hRead⟩
    rw [resolve_of_ofText? hRead]
    exact walk_of_settled hSettled path
  | none =>
    rcases hAnswerable with hIsPath | ⟨query, hCompiles, hTotal⟩
    · rw [hRead] at hIsPath
      cases hIsPath
    · obtain ⟨v, hEvaluated, hLeft⟩ := settles_of_isTotal query hTotal document hSettled
      have hGiven : Query.search query document = .ok v := by
        rw [Query.search, hEvaluated]
        rfl
      exact ⟨_, resolve_of_compiles hRead hCompiles hGiven (hydrateIf_of_settled hLeft),
        .query hRead hCompiles hGiven⟩

theorem compiles_of_tokens {tokens : List Token} (hAsks : Path.isQuery expr = true)
    (hFlat : QueryText.isRecursive expr.toList = false)
    (hScanned : Token.scan (QueryText.ofExpression expr).toList = some tokens)
    (hParsed : ofTokens? tokens = some query) : Compiles expr query := by
  refine ⟨hAsks, hFlat, ?_⟩
  rw [Query.Expr.ofText?, hScanned]
  exact hParsed

def someItems : Json := .obj [("items", .arr [
  .obj [("qty", Json.ofNat 2), ("sku", .str "A")], .obj [("sku", .str "B")]])]

def largeItems : Query.Expr :=
  .project (.field "items")
    (.guarded (.compare .gt (.field "qty") (.literal (Json.ofNat 1))) (.field "sku"))

theorem largeItems_compiles : Compiles "$.items[?(@.qty > 1)].sku" largeItems := by
  have hScanned : Token.scan (QueryText.ofExpression "$.items[?(@.qty > 1)].sku").toList =
      some [.identifier "items", .filter, .identifier "qty", .gt, .literal (Json.ofNat 1),
        .rightBracket, .dot, .identifier "sku", .eof] := by decide +kernel
  refine compiles_of_tokens (by decide) (by decide) hScanned ?_
  simp [ofTokens?, stepsFor, readExpr, readOperand, readMore, peek, Token.power, readExtension,
    readFilter, readComparison, readBody, readMember, largeItems]

theorem largeItems_resolve : Answerable true "$.items[?(@.qty > 1)].sku" ∧
    someItems.isPlain = true ∧
    ∃ found, resolve "$.items[?(@.qty > 1)].sku" someItems true = pure found ∧
      FindsIn someItems "$.items[?(@.qty > 1)].sku" found := by
  have hPlain : someItems.isPlain = true := by decide
  have hAnswerable : Answerable true "$.items[?(@.qty > 1)].sku" :=
    .inr ⟨_, largeItems_compiles, by decide⟩
  exact ⟨hAnswerable, hPlain, resolve_of_answerable hAnswerable fun _ => hPlain⟩

/-- A function is strict about its arguments: the lines of an order that has none cannot be counted.
-/
theorem missingLines_not_counted : (∃ query, Compiles "$.length(order.lines)" query) ∧
    (Json.obj [("order", .obj [])]).isPlain = true ∧
      ∃ e, resolve "$.length(order.lines)" (.obj [("order", .obj [])]) true = throw e := by
  have hScanned : Token.scan (QueryText.ofExpression "$.length(order.lines)").toList =
      some [.identifier "length", .leftParen, .identifier "order", .dot, .identifier "lines",
        .rightParen, .eof] := by decide +kernel
  have hCompiles : Compiles "$.length(order.lines)"
      (.call "length" [.chain (.field "order") (.field "lines")]) := by
    refine compiles_of_tokens (by decide) (by decide) hScanned ?_
    simp [ofTokens?, stepsFor, readExpr, readOperand, readMore, peek, Token.power, readExtension,
      readList, readMember]
  have hOther : Path.ofText? "$.length(order.lines)" = none := by decide +kernel
  exact ⟨⟨_, hCompiles⟩, by decide, _, resolve_of_error hOther hCompiles rfl⟩

end Resolving

end Stepwise
