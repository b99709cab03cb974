import Stepwise.Proofs.Expression.Walk
import Stepwise.Proofs.Json.Depth
import Stepwise.Proofs.Objects.Offloading

/-!
# Paths see through pointers

A document of which parts were moved to the object store, at any depth and inside of each other,
resolves like the document itself: the parts on the way are fetched, and what is still at the store
inside of the result stands for the part it was moved for.
-/

namespace Stepwise

set_option autoImplicit false

open Program

namespace Json

mutual

/-- No part of the document is shaped like a pointer. -/
def isPlain : Json → Bool
  | .arr items => arePlain items
  | .obj fields => (Pointer.ofJson? (.obj fields)).isNone && havePlain fields
  | .null | .bool _ | .num _ | .str _ => true

def arePlain : List Json → Bool
  | [] => true
  | v :: rest => v.isPlain && arePlain rest

def havePlain : List (String × Json) → Bool
  | [] => true
  | (_, v) :: rest => v.isPlain && havePlain rest

end

theorem isPlain_of_getElem? {items : List Json} (hPlain : arePlain items = true) {i : Nat}
    {v : Json} (h : items[i]? = some v) : v.isPlain = true := by
  induction items generalizing i with
  | nil => cases h
  | cons w rest ih =>
    obtain ⟨hFirst, hLater⟩ := Bool.and_eq_true_iff.mp hPlain
    cases i with
    | zero => exact Option.some.inj h ▸ hFirst
    | succ i => exact ih hLater h

theorem isPlain_of_get? {fields : List (String × Json)} (hPlain : havePlain fields = true)
    {name : String} {v : Json} (h : Dict.get? fields name = some v) : v.isPlain = true := by
  induction fields with
  | nil => cases h
  | cons e rest ih =>
    obtain ⟨hFirst, hLater⟩ := Bool.and_eq_true_iff.mp hPlain
    by_cases hSame : e.1 = name
    · simp only [Dict.get?, hSame, if_true, Option.some.injEq] at h
      exact h ▸ hFirst
    · simp only [Dict.get?, hSame, if_false] at h
      exact ih hLater h

theorem isPlain_of_of? {s : Segment} {v w : Json} (hPlain : v.isPlain = true)
    (h : s.of? v = some w) :
    w.isPlain = true := by
  cases s <;> cases v <;> try cases h
  case key.obj name fields => exact isPlain_of_get? (Bool.and_eq_true_iff.mp hPlain).2 h
  case index.arr i items => exact isPlain_of_getElem? hPlain h

theorem ofJson?_of_isPlain {v : Json} (hPlain : v.isPlain = true) : Pointer.ofJson? v = none := by
  cases v with
  | obj fields => exact Option.isNone_iff_eq_none.mp (Bool.and_eq_true_iff.mp hPlain).1
  | _ => rfl

end Json

section Moving

variable (stands : Pointer → Json → Prop)

mutual

/-- The second document is the first, with parts of it replaced by pointers for which the parts
stand that were moved. -/
inductive Moved : Json → Json → Prop where
  | kept {v w : Json} (h : Alike v w) : Moved v w
  | pointer {v w j : Json} {p : Pointer} (h : Alike v w) (hIsPointer : Pointer.ofJson? j = some p)
      (hStored : stands p w) : Moved v j

/-- The same with the document itself in its place. -/
inductive Alike : Json → Json → Prop where
  | null : Alike .null .null
  | bool (b : Bool) : Alike (.bool b) (.bool b)
  | num (n : Number) : Alike (.num n) (.num n)
  | str (s : String) : Alike (.str s) (.str s)
  | arr {items moved : List Json} (h : AlikeItems items moved) : Alike (.arr items) (.arr moved)
  | obj {fields moved : List (String × Json)} (h : AlikeFields fields moved) :
      Alike (.obj fields) (.obj moved)

inductive AlikeItems : List Json → List Json → Prop where
  | nil : AlikeItems [] []
  | cons {v w : Json} {items moved : List Json} (h : Moved v w) (hRest : AlikeItems items moved) :
      AlikeItems (v :: items) (w :: moved)

inductive AlikeFields : List (String × Json) → List (String × Json) → Prop where
  | nil : AlikeFields [] []
  | cons {v w : Json} {fields moved : List (String × Json)} (name : String) (h : Moved v w)
      (hRest : AlikeFields fields moved) : AlikeFields ((name, v) :: fields) ((name, w) :: moved)

end

end Moving

section Shapes

variable {stands : Pointer → Json → Prop}

theorem AlikeItems.getElem? {items moved : List Json} (h : AlikeItems stands items moved)
    (i : Nat) :
    (items[i]? = none ∧ moved[i]? = none) ∨
      ∃ v w, items[i]? = some v ∧ moved[i]? = some w ∧ Moved stands v w := by
  induction items generalizing moved i with
  | nil =>
    cases h
    exact .inl ⟨rfl, rfl⟩
  | cons v items ih =>
    cases h with
    | cons h hRest =>
      cases i with
      | zero => exact .inr ⟨v, _, rfl, rfl, h⟩
      | succ i => exact ih hRest i

theorem AlikeFields.get? {fields moved : List (String × Json)} (h : AlikeFields stands fields moved)
    (name : String) :
    (Dict.get? fields name = none ∧ Dict.get? moved name = none) ∨
      ∃ v w, Dict.get? fields name = some v ∧ Dict.get? moved name = some w ∧ Moved stands v w := by
  induction fields generalizing moved with
  | nil =>
    cases h
    exact .inl ⟨rfl, rfl⟩
  | cons e fields ih =>
    cases h with
    | cons key h hRest =>
      by_cases hSame : key = name
      · exact .inr ⟨_, _, by simp [Dict.get?, hSame], by simp [Dict.get?, hSame], h⟩
      · simpa [Dict.get?, hSame] using ih hRest

theorem Moved.eq_str {v : Json} {s : String} (h : Moved stands v (.str s)) : v = .str s := by
  cases h with
  | kept h =>
    cases h
    rfl
  | pointer _ hIsPointer _ => cases hIsPointer

/-- The shape of a pointer: one field, that has a container and a key. -/
theorem Pointer.ofJson?_eq_some {j : Json} {p : Pointer} (h : Pointer.ofJson? j = some p) :
    ∃ fields, j = .obj [("objectStoreRef", .obj fields)] ∧
      Dict.get? fields "container" = some (.str p.container) ∧
      Dict.get? fields "key" = some (.str p.key) := by
  unfold Pointer.ofJson? at h
  split at h
  · rename_i fields
    split at h
    · rename_i container key hc hk
      cases h
      exact ⟨fields, rfl, hc, hk⟩
    · cases h
  · cases h

/-- Moving parts of a document that is no pointer does not make a pointer of it. -/
theorem Alike.ofJson?_eq_none {v w : Json} (hPlain : v.isPlain = true) (h : Alike stands v w) :
    Pointer.ofJson? w = none := by
  cases hShaped : Pointer.ofJson? w with
  | none => rfl
  | some p =>
    obtain ⟨fields, rfl, hContainer, hKey⟩ := Pointer.ofJson?_eq_some hShaped
    have hText {original : List (String × Json)} (h : AlikeFields stands original fields)
        {name s : String} (hFound : Dict.get? fields name = some (.str s)) :
        Dict.get? original name = some (.str s) := by
      rcases h.get? name with ⟨-, hMissing⟩ | ⟨x, y, hOriginal, hMoved, hInner⟩
      · rw [hFound] at hMissing
        cases hMissing
      · cases hMoved.symm.trans hFound
        rw [hOriginal, hInner.eq_str]
    cases h with
    | obj h =>
      cases h with
      | cons name h hRest =>
        cases hRest
        cases h with
        | kept h =>
          cases h with
          | obj h =>
            have hSame := Json.ofJson?_of_isPlain hPlain
            simp only [Pointer.ofJson?, hText h hContainer, hText h hKey] at hSame
            cases hSame
        | pointer _ hIsPointer _ =>
          -- a reference that is a pointer itself has no container
          obtain ⟨_, hReference, -, -⟩ := Pointer.ofJson?_eq_some hIsPointer
          cases hReference
          cases hContainer

theorem Alike.of? {v w : Json} (h : Alike stands v w) (s : Segment) :
    (s.of? v = none ∧ s.of? w = none) ∨
      ∃ x y, s.of? v = some x ∧ s.of? w = some y ∧ Moved stands x y := by
  cases s <;> cases h
  case key.obj name fields moved h => exact h.get? name
  case index.arr i items moved h => exact h.getElem? i
  all_goals exact .inl ⟨rfl, rfl⟩

end Shapes

section Unique

variable {stands : Pointer → Json → Prop}

def StandForOne (stands : Pointer → Json → Prop) : Prop :=
  ∀ p v w, stands p v → stands p w → v = w

/-- What was moved is known from what is left, if it is known where nothing was moved at the root.
-/
theorem Moved.unique_of (hOne : StandForOne stands) {v w x : Json} (hPlain : v.isPlain = true)
    (hPlain' : w.isPlain = true) (hUnique : ∀ y, Alike stands v y → Alike stands w y → v = w)
    (h : Moved stands v x) (h' : Moved stands w x) : v = w := by
  cases h with
  | kept h =>
    cases h' with
    | kept h' => exact hUnique _ h h'
    | pointer _ hIsPointer _ => rw [h.ofJson?_eq_none hPlain] at hIsPointer; cases hIsPointer
  | pointer h hIsPointer hStored =>
    cases h' with
    | kept h' => rw [h'.ofJson?_eq_none hPlain'] at hIsPointer; cases hIsPointer
    | pointer h' hIsPointer' hStored' =>
      cases hIsPointer.symm.trans hIsPointer'
      cases hOne _ _ _ hStored hStored'
      exact hUnique _ h h'

mutual

theorem Alike.unique (hOne : StandForOne stands) : ∀ (v : Json) {w x : Json}, v.isPlain = true →
    w.isPlain = true →
    Alike stands v x → Alike stands w x → v = w
  | .null, _, _, _, _, h, h' => by cases h; cases h'; rfl
  | .bool _, _, _, _, _, h, h' => by cases h; cases h'; rfl
  | .num _, _, _, _, _, h, h' => by cases h; cases h'; rfl
  | .str _, _, _, _, _, h, h' => by cases h; cases h'; rfl
  | .arr items, _, _, hPlain, hPlain', h, h' => by
    cases h with
    | arr h =>
      cases h' with
      | arr h' => rw [AlikeItems.unique hOne items hPlain hPlain' h h']
  | .obj fields, _, _, hPlain, hPlain', h, h' => by
    cases h with
    | obj h =>
      cases h' with
      | obj h' =>
        rw [AlikeFields.unique hOne fields (Bool.and_eq_true_iff.mp hPlain).2
          (Bool.and_eq_true_iff.mp hPlain').2 h h']

theorem AlikeItems.unique (hOne : StandForOne stands) :
    ∀ (items : List Json) {others moved : List Json},
    Json.arePlain items = true → Json.arePlain others = true →
    AlikeItems stands items moved → AlikeItems stands others moved → items = others
  | [], _, _, _, _, h, h' => by cases h; cases h'; rfl
  | v :: rest, _, _, hPlain, hPlain', h, h' => by
    cases h with
    | cons h hLater =>
      cases h' with
      | cons h' hLater' =>
        obtain ⟨hPlain, hPlains⟩ := Bool.and_eq_true_iff.mp hPlain
        obtain ⟨hPlain', hPlains'⟩ := Bool.and_eq_true_iff.mp hPlain'
        rw [Moved.unique_of hOne hPlain hPlain' (fun _ => Alike.unique hOne v hPlain hPlain') h h',
          AlikeItems.unique hOne rest hPlains hPlains' hLater hLater']

theorem AlikeFields.unique (hOne : StandForOne stands) :
    ∀ (fields : List (String × Json)) {others moved : List (String × Json)},
    Json.havePlain fields = true → Json.havePlain others = true →
    AlikeFields stands fields moved → AlikeFields stands others moved → fields = others
  | [], _, _, _, _, h, h' => by cases h; cases h'; rfl
  | (_, v) :: rest, _, _, hPlain, hPlain', h, h' => by
    cases h with
    | cons name h hLater =>
      cases h' with
      | cons _ h' hLater' =>
        obtain ⟨hPlain, hPlains⟩ := Bool.and_eq_true_iff.mp hPlain
        obtain ⟨hPlain', hPlains'⟩ := Bool.and_eq_true_iff.mp hPlain'
        rw [Moved.unique_of hOne hPlain hPlain' (fun _ => Alike.unique hOne v hPlain hPlain') h h',
          AlikeFields.unique hOne rest hPlains hPlains' hLater hLater']

end

theorem Moved.unique (hOne : StandForOne stands) {v w x : Json} (hPlain : v.isPlain = true)
    (hPlain' : w.isPlain = true) (h : Moved stands v x) (h' : Moved stands w x) : v = w :=
  Moved.unique_of hOne hPlain hPlain' (fun _ => Alike.unique hOne v hPlain hPlain') h h'

end Unique

/-- A pointer stands for the value that is read from its object. -/
def ReadsAs (objects : String → String → Option String) (p : Pointer) (v : Json) : Prop :=
  ∃ text, objects p.container p.key = some text ∧ Json.parse text = some v

theorem readsAs_one {objects : String → String → Option String} :
    StandForOne (ReadsAs objects) := by
  intro p v w h h'
  obtain ⟨text, hFound, hRead⟩ := h
  obtain ⟨text', hFound', hRead'⟩ := h'
  cases hFound.symm.trans hFound'
  exact Option.some.inj (hRead.symm.trans hRead')

/-- Surroundings that answer stored objects, which reading does not change. -/
structure ReadsObjects {σ : Type} (serve : (r : Request) → σ → Reply r × σ) (sound : σ → Prop)
    (look : σ → String → String → Option String) : Prop where
  get : ∀ container key text st, sound st → look st container key = some text →
    (serve (.getObject container key) st).1 = .ok text
  quiet : ∀ container key st, sound st →
    sound (serve (.getObject container key) st).2 ∧
      look (serve (.getObject container key) st).2 = look st

/-- The same result, up to parts inside of it that are still at the store: it is no pointer itself,
and with the parts back in their place it can only be the first. -/
inductive SameResult (stands : Pointer → Json → Prop) : Resolved → Resolved → Prop where
  | undefined : SameResult stands .undefined .undefined
  | value {v w : Json} (hAlike : Alike stands v w) (hPresent : Pointer.ofJson? w = none)
      (hOnly : ∀ u : Json, u.isPlain = true → Moved stands u w → u = v) :
      SameResult stands (.value v) (.value w)

theorem Path.walk_of_isPlain {v : Json} (hPlain : v.isPlain = true) (path : Path) :
    path.walk true v = pure (.ofOption (path.find? v)) := by
  have hPresent {v : Json} (hPlain : v.isPlain = true) : hydrateIf true v = pure v :=
    hydrate_of_none (Json.ofJson?_of_isPlain hPlain)
  induction path generalizing v with
  | nil =>
    rw [walk, hPresent hPlain]
    rfl
  | cons s rest ih =>
    rw [walk_cons (hPresent hPlain)]
    cases hFound : s.of? v with
    | none => simp [find?, hFound, Resolved.ofOption]
    | some w => simp [find?, hFound, ih (Json.isPlain_of_of? hPlain hFound)]

section Reading

variable {σ : Type} {serve : (r : Request) → σ → Reply r × σ} {sound : σ → Prop}
  {look : σ → String → String → Option String} {objects : String → String → Option String}

theorem hydrate_moved (R : ReadsObjects serve sound look) {v w : Json} (hPlain : v.isPlain = true)
    (h : Moved (ReadsAs objects) v w) {st : σ} (hOk : sound st) (hHolds : look st = objects) :
    ∃ x st', run serve (hydrate w).run st = (.ok x, st') ∧ Alike (ReadsAs objects) v x ∧
      sound st' ∧ look st' = objects := by
  cases h with
  | kept h =>
    refine ⟨w, st, ?_, h, hOk, hHolds⟩
    rw [hydrate_of_none (h.ofJson?_eq_none hPlain)]
    rfl
  | pointer h hIsPointer hStored =>
    rename_i x p
    obtain ⟨text, hFound, hRead⟩ := hStored
    obtain ⟨hOk', hHolds'⟩ := R.quiet p.container p.key st hOk
    have hFetched : run serve (EngineProgram.getObject p.container p.key).run st =
        (.ok text, (serve (.getObject p.container p.key) st).2) :=
      Prod.ext (R.get _ _ _ _ hOk (hHolds ▸ hFound)) rfl
    refine ⟨x, _, ?_, h, hOk', hHolds'.trans hHolds⟩
    rw [hydrate, hIsPointer]
    rw [run_bind_ok serve hFetched, hRead]
    rfl

theorem hydrate_unread (R : ReadsObjects serve sound look) {v : Json} {p : Pointer}
    (hIsPointer : Pointer.ofJson? v = some p) {st : σ} (hOk : sound st) {text : String}
    (hFound : look st p.container p.key = some text) (hUnread : Json.parse text = none) :
    ∃ e st', run serve (hydrate v).run st = (.error e, st') := by
  have hFetched : run serve (EngineProgram.getObject p.container p.key).run st =
      (.ok text, (serve (.getObject p.container p.key) st).2) :=
    Prod.ext (R.get _ _ _ _ hOk hFound) rfl
  refine ⟨.objectStore ("offloaded value " ++ p.container ++ "/" ++ p.key
    ++ " is not valid JSON: unexpected text"), (serve (.getObject p.container p.key) st).2, ?_⟩
  rw [hydrate, hIsPointer]
  rw [run_bind_ok serve hFetched, hUnread]
  rfl

theorem Path.walk_moved (R : ReadsObjects serve sound look) (path : Path) {v w : Json}
    (hPlain : v.isPlain = true) (h : Moved (ReadsAs objects) v w) {st : σ} (hOk : sound st)
    (hHolds : look st = objects) :
    ∃ r st', run serve (path.walk true w).run st = (.ok r, st') ∧
      SameResult (ReadsAs objects) (.ofOption (path.find? v)) r := by
  induction path generalizing v w st with
  | nil =>
    obtain ⟨x, st', hRan, hAlike, -, -⟩ := hydrate_moved R hPlain h hOk hHolds
    refine ⟨.value x, st', run_bind_ok serve hRan, .value hAlike (hAlike.ofJson?_eq_none hPlain) ?_⟩
    exact fun u hPlain' hMoved => Moved.unique readsAs_one hPlain' hPlain hMoved (.kept hAlike)
  | cons s rest ih =>
    obtain ⟨x, st', hRan, hAlike, hOk', hHolds'⟩ := hydrate_moved R hPlain h hOk hHolds
    rcases hAlike.of? s with ⟨hNothing, hNothing'⟩ | ⟨y, z, hFound, hFound', hInner⟩
    · refine ⟨.undefined, st', ?_, ?_⟩
      · rw [walk_true_cons, run_bind_ok serve hRan, hNothing']
        rfl
      · rw [find?, hNothing]
        exact .undefined
    · obtain ⟨r, last, hWalked, hSame⟩ := ih (Json.isPlain_of_of? hPlain hFound) hInner hOk' hHolds'
      refine ⟨r, last, ?_, ?_⟩
      · rw [walk_true_cons, run_bind_ok serve hRan, hFound']
        exact hWalked
      · rw [find?, hFound]
        exact hSame

/-- An expression that is a path resolves in a document with moved parts as in the document itself.
-/
theorem resolve_of_moved (R : ReadsObjects serve sound look) {c c' : Json}
    (hPlain : c.isPlain = true) {st : σ} (hOk : sound st) (hMoved : Moved (ReadsAs (look st)) c c')
    {expr : String} {path : Path} (hSimple : Path.ofText? expr = some path) :
    ∃ r r' st', run serve (resolve expr c true).run st = (.ok r, st) ∧
      run serve (resolve expr c' true).run st = (.ok r', st') ∧
      SameResult (ReadsAs (look st)) r r' := by
  obtain ⟨r', st', hWalked, hSame⟩ := Path.walk_moved R path hPlain hMoved hOk rfl
  refine ⟨.ofOption (path.find? c), r', st', ?_, ?_, hSame⟩
  · rw [resolve_of_ofText? hSimple, Path.walk_of_isPlain hPlain]
    rfl
  · rw [resolve_of_ofText? hSimple]
    exact hWalked

end Reading

theorem readsObjects_inMemory :
    ReadsObjects Host.serve Offloading.IsSound Offloading.inMemory where
  get := Offloading.keepsObjects_inMemory.get
  quiet _ _ _ hSound := ⟨hSound, rfl⟩

def wholeLines : Json := .arr [.str "one box", .str "two boxes"]

def wholeOrder : Json := .obj [("order", .obj [("id", .num (.int 7)), ("lines", wholeLines)])]

def linesPlace : Pointer := ⟨"large", "exec-1/order.lines/a.json"⟩

def orderPlace : Pointer := ⟨"large", "exec-1/order/b.json"⟩

def orderWithoutLines : Json := .obj [("id", .num (.int 7)), ("lines", linesPlace.toJson)]

def movedOrder : Json := .obj [("order", orderPlace.toJson)]

def linesText : String := "[\"one box\", \"two boxes\"]"

def orderArchive : Host where
  clock := ⟨0, 0⟩
  objects := .memory ((({} : ObjectMap).put "large" linesPlace.key linesText).put
    "large" orderPlace.key orderWithoutLines.render)

theorem wholeOrder_moved :
    Moved (ReadsAs (Offloading.inMemory orderArchive)) wholeOrder movedOrder := by
  refine .kept (.obj (.cons "order" (.pointer (w := orderWithoutLines) (.obj ?_) rfl ?_) .nil))
  · refine .cons "id" (.kept (.num _))
      (.cons "lines" (.pointer (w := wholeLines) (.arr ?_) rfl ?_) .nil)
    · exact .cons (.kept (.str _)) (.cons (.kept (.str _)) .nil)
    · exact ⟨linesText, by decide +kernel, by decide +kernel⟩
  · exact ⟨orderWithoutLines.render, by decide +kernel, by decide +kernel⟩

theorem movedOrder_resolves :
    wholeOrder.isPlain = true ∧ Offloading.IsSound orderArchive ∧
      Moved (ReadsAs (Offloading.inMemory orderArchive)) wholeOrder movedOrder ∧
      Path.ofText? "$.order" = some [.key "order"] ∧
      ∃ r r' st', run Host.serve (resolve "$.order" wholeOrder true).run orderArchive =
          (.ok r, orderArchive) ∧
        run Host.serve (resolve "$.order" movedOrder true).run orderArchive = (.ok r', st') ∧
        SameResult (ReadsAs (Offloading.inMemory orderArchive)) r r' := by
  have hSound : Offloading.IsSound orderArchive := ⟨⟨_, rfl⟩, rfl, rfl⟩
  have hSimple : Path.ofText? "$.order" = some [.key "order"] := by decide +kernel
  exact ⟨rfl, hSound, wholeOrder_moved, hSimple,
    resolve_of_moved readsObjects_inMemory rfl hSound wholeOrder_moved hSimple⟩

/-- A report, what stays of it when its content is moved, and where its text is kept. -/
def reportOf (content : Json) : Json := .obj [("report", content)]

def reportPlace : Pointer := ⟨"large", "exec-1/report.json"⟩

def archiveOf (content : Json) : Host where
  clock := ⟨0, 0⟩
  objects := .memory (({} : ObjectMap).put "large" "exec-1/report.json" content.render)

theorem inMemory_archiveOf (content : Json) :
    Offloading.inMemory (archiveOf content) reportPlace.container reportPlace.key =
      some content.render := by
  simp [Offloading.inMemory, archiveOf, reportPlace, ObjectMap.get?_put]

theorem alike_nested {stands : Pointer → Json → Prop} (n : Nat) :
    Alike stands (nested n) (nested n) := by
  induction n with
  | zero => exact .arr .nil
  | succ n ih => exact .arr (.cons (.kept ih) .nil)

theorem isPlain_nested (n : Nat) : (nested n).isPlain = true := by
  induction n with
  | zero => rfl
  | succ n ih => simpa [nested, Json.isPlain, Json.arePlain] using ih

theorem isPlain_reportOf {content : Json} (hPlain : content.isPlain = true) :
    (reportOf content).isPlain = true := by
  simp [reportOf, Json.isPlain, Json.havePlain, Pointer.ofJson?, hPlain]

/-- It is not enough that the object holds the text of the value: what stands too deep in lists is
not read back, and the path fails. -/
theorem deepReport_not_resolved :
    (reportOf (nested 127)).isPlain = true ∧ Offloading.IsSound (archiveOf (nested 127)) ∧
      Moved (fun p v => Offloading.inMemory (archiveOf (nested 127)) p.container p.key =
        some v.render)
        (reportOf (nested 127)) (reportOf reportPlace.toJson) ∧
      Path.ofText? "$.report" = some [.key "report"] ∧
      run Host.serve (resolve "$.report" (reportOf (nested 127)) true).run
        (archiveOf (nested 127)) =
        (.ok (.value (nested 127)), archiveOf (nested 127)) ∧
      ∀ r, (run Host.serve (resolve "$.report" (reportOf reportPlace.toJson) true).run
        (archiveOf (nested 127))).1 ≠ .ok r := by
  have hSimple : Path.ofText? "$.report" = some [.key "report"] := by decide +kernel
  have hUnread := parse_nested (Nat.le_refl Json.maxDepth)
  have hPlain := isPlain_reportOf (isPlain_nested 127)
  have hAlike : Alike (fun p v =>
      Offloading.inMemory (archiveOf (nested 127)) p.container p.key = some v.render)
      (nested 127) (nested 127) := alike_nested 127
  -- the depth no longer matters
  rw [show Json.maxDepth = 127 from rfl] at hUnread
  generalize nested 127 = content at *
  have hSound : Offloading.IsSound (archiveOf content) := ⟨⟨_, rfl⟩, rfl, rfl⟩
  have hStored := inMemory_archiveOf content
  refine ⟨hPlain, hSound, .kept (.obj (.cons "report" (.pointer hAlike rfl hStored) .nil)), hSimple,
    ?_, ?_⟩
  · rw [resolve_of_ofText? hSimple, Path.walk_of_isPlain hPlain]
    rfl
  · obtain ⟨e, st', hFailed⟩ := hydrate_unread readsObjects_inMemory (v := reportPlace.toJson) rfl
      hSound hStored hUnread
    intro r h
    rw [resolve_of_ofText? hSimple, Path.walk_true_cons, hydrate_of_none rfl, pure_bind] at h
    have hWalked : run Host.serve (Path.walk true [] reportPlace.toJson).run (archiveOf content) =
        (.error e, st') := run_bind_error Host.serve hFailed
    cases h.symm.trans (congrArg Prod.fst hWalked)

end Stepwise
