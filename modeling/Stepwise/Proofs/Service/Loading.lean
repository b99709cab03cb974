import Mathlib.Data.List.Nodup
import Mathlib.Data.List.Pairwise
import Stepwise.Proofs.Json.Value
import Stepwise.Proofs.Json.Written
import Stepwise.Service.Definitions

/-!
# Folders of flows

The order in which the entries of a folder are listed makes no difference. The folder is accepted if
each of its files of definitions holds a valid flow and no two of them hold one of the same id and
version; the catalog then has exactly these flows. YAML is read by a reader that is given, so all of
this holds whatever it reads.
-/

namespace Stepwise

set_option autoImplicit false

def Flow.name (f : Flow) : String × UInt32 := (f.id, f.version)

namespace Catalog

variable {flows : List Flow} {registrations : List HandlerRegistration}

theorem flows_addAll (flows : List Flow) (c : Catalog) :
    (flows.foldl addFlow c).flows = flows.reverse ++ c.flows := by
  induction flows generalizing c with
  | nil => rfl
  | cons f rest ih =>
    rw [List.foldl_cons, ih, List.reverse_cons, List.append_assoc]
    rfl

theorem flows_addRegistrations (registrations : List HandlerRegistration) (c : Catalog) :
    (registrations.foldl addRegistration c).flows = c.flows := by
  induction registrations generalizing c with
  | nil => rfl
  | cons r rest ih => exact ih _

theorem flows_ofLists : (ofLists flows registrations).flows = flows.reverse := by
  rw [ofLists, flows_addRegistrations, flows_addAll]
  exact List.append_nil _

theorem mem_of_findFlow {id : String} {version : UInt32} {f : Flow}
    (hf : (ofLists flows registrations).findFlow id version = some f) :
    f ∈ flows ∧ f.name = (id, version) := by
  rw [findFlow, flows_ofLists] at hf
  have hName := List.find?_some hf
  simp only [Bool.and_eq_true, decide_eq_true_eq] at hName
  exact ⟨List.mem_reverse.mp (List.mem_of_find?_eq_some hf), Prod.ext hName.1 hName.2⟩

theorem findFlow_of_mem (hNodup : (flows.map Flow.name).Nodup) {f : Flow} (hf : f ∈ flows) :
    (ofLists flows registrations).findFlow f.id f.version = some f := by
  cases h : (ofLists flows registrations).findFlow f.id f.version with
  | none =>
    rw [findFlow, flows_ofLists, List.find?_eq_none] at h
    exact absurd (by simp) (h f (List.mem_reverse.mpr hf))
  | some g =>
    obtain ⟨hg, hName⟩ := mem_of_findFlow h
    rw [List.inj_on_of_nodup_map hNodup hg hf hName]

end Catalog

namespace Definitions

/-- Among the entries there is a file of definitions with the name, the format and the text. -/
def IsDefinition (entries : Folder) (name : String) (format : DefinitionFormat) (text : String) :
    Prop :=
  (name, .file text) ∈ entries ∧ DefinitionFormat.ofFileName? name = some format

/-- The text holds the flow, as its format is read, and the flow is valid. -/
def Holds (yaml : YamlReader) (format : DefinitionFormat) (text : String) (f : Flow) : Prop :=
  flowOf? yaml format text = some f ∧ f.problems = []

theorem Holds.unique {yaml : YamlReader} {format : DefinitionFormat} {text : String} {f g : Flow}
    (hf : Holds yaml format text f) (hg : Holds yaml format text g) : f = g :=
  Option.some.inj (hf.1.symm.trans hg.1)

/-- The text of a valid flow holds it, if the text can be read and the flow with it. -/
theorem holds_render {yaml : YamlReader} {f : Flow}
    (hRead : Json.readValue (2 * f.toJson.chars.length + 2) Json.maxDepth f.toJson.chars =
      some (f.toJson, []))
    (hDecoded : Flow.ofJson? f.toJson = some f) (hValid : f.problems = []) :
    Holds yaml .json f.toJson.render f := by
  refine ⟨?_, hValid⟩
  rw [flowOf?, Json.parseRaw_render hRead, Option.bind_some]
  exact hDecoded

section Sources

variable {entries listing : Folder} {name text : String} {format : DefinitionFormat} {s : Source}

theorem source?_eq_some_iff {entry : String × FileNode} : source? entry = some s ↔
    entry = (s.name, .file s.text) ∧ DefinitionFormat.ofFileName? s.name = some s.format := by
  obtain ⟨name, node⟩ := entry
  obtain ⟨name', format', text'⟩ := s
  cases node with
  | folder inner => simp [source?]
  | file text =>
    cases hFormat : DefinitionFormat.ofFileName? name with
    | none =>
      simp only [source?, hFormat, Prod.mk.injEq, FileNode.file.injEq]
      constructor
      · intro h
        cases h
      · rintro ⟨⟨rfl, -⟩, h⟩
        rw [hFormat] at h
        cases h
    | some format =>
      simp only [source?, hFormat, Prod.mk.injEq, FileNode.file.injEq, Option.some.injEq,
        Source.mk.injEq]
      constructor
      · rintro ⟨rfl, rfl, rfl⟩
        exact ⟨⟨rfl, rfl⟩, hFormat⟩
      · rintro ⟨⟨rfl, rfl⟩, h⟩
        rw [hFormat] at h
        exact ⟨rfl, Option.some.inj h, rfl⟩

theorem isDefinition_iff : IsDefinition entries name format text ↔
    (⟨name, format, text⟩ : Source) ∈ sources entries := by
  rw [sources, (List.mergeSort_perm _ _).mem_iff, List.mem_filterMap]
  constructor
  · rintro ⟨hmem, hFormat⟩
    exact ⟨_, hmem, source?_eq_some_iff.mpr ⟨rfl, hFormat⟩⟩
  · rintro ⟨entry, hmem, hs⟩
    obtain ⟨rfl, hFormat⟩ := source?_eq_some_iff.mp hs
    exact ⟨hmem, hFormat⟩

theorem names_nodup (hUnique : Dict.Unique entries) :
    ((sources entries).map Source.name).Nodup := by
  have hFiles : ((entries.filterMap source?).map Source.name).Nodup := by
    refine List.pairwise_map.mpr (List.Pairwise.filterMap source? ?_ (List.pairwise_map.mp hUnique))
    intro entry entry' hne s hs s' hs'
    obtain ⟨rfl, -⟩ := source?_eq_some_iff.mp hs
    obtain ⟨rfl, -⟩ := source?_eq_some_iff.mp hs'
    exact hne
  exact ((List.mergeSort_perm _ _).map Source.name).nodup_iff.mpr hFiles

theorem isBefore_iff {a b : Source} : a.isBefore b = true ↔ a.name ≤ b.name := by
  rw [Source.isBefore, Bool.or_eq_true, decide_eq_true_eq, beq_iff_eq]
  constructor
  · rintro (hlt | heq)
    · exact String.not_lt.mp fun h => String.lt_irrefl _ (String.lt_trans hlt h)
    · exact heq ▸ String.le_refl a.name
  · intro hle
    by_cases hlt : a.name < b.name
    · exact .inl hlt
    · exact .inr (String.le_antisymm hle (String.not_lt.mp hlt))

theorem sources_pairwise (entries : Folder) :
    (sources entries).Pairwise fun a b => a.isBefore b = true := by
  refine List.pairwise_mergeSort ?_ ?_ _
  · intro a b c hab hbc
    rw [isBefore_iff] at hab hbc ⊢
    exact String.le_trans hab hbc
  · intro a b
    rw [Bool.or_eq_true, isBefore_iff, isBefore_iff]
    exact String.le_total a.name b.name

/-- The files stand in the order of their names, so they do not tell in which order they were
listed. -/
theorem sources_eq_of_perm (hUnique : Dict.Unique entries) (hPerm : listing.Perm entries) :
    sources listing = sources entries := by
  have hSources : (sources listing).Perm (sources entries) :=
    (List.mergeSort_perm _ _).trans ((hPerm.filterMap source?).trans (List.mergeSort_perm _ _).symm)
  refine hSources.eq_of_pairwise ?_ (sources_pairwise listing) (sources_pairwise entries)
  intro a b ha hb hab hba
  rw [isBefore_iff] at hab hba
  apply List.inj_on_of_nodup_map (names_nodup hUnique) (hSources.mem_iff.mp ha) hb
  exact String.le_antisymm hab hba

end Sources

section Collecting

variable {yaml : YamlReader} {folder : String} {earlier fs : List Flow} {s : Source}
  {rest files : List Source} {f : Flow}

theorem bind_eq_ok_iff {α β ε : Type} {x : Except ε α} {f : α → Except ε β} {b : β} :
    x >>= f = .ok b ↔ ∃ a, x = .ok a ∧ f a = .ok b := by
  constructor
  · intro h
    cases x with
    | error e => cases h
    | ok a => exact ⟨a, rfl, h⟩
  · rintro ⟨a, rfl, h⟩
    exact h

theorem readOr_eq_ok_iff {α : Type} {path : String} {format : DefinitionFormat} {o : Option α}
    {a : α} :
    readOr path format o = .ok a ↔ o = some a := by
  cases o with
  | none =>
    constructor
    · intro h
      cases h
    · intro h
      cases h
  | some found => rw [readOr, Except.ok.injEq, Option.some.injEq]

theorem flow_eq_ok_iff : s.flow yaml folder = .ok f ↔ Holds yaml s.format s.text f := by
  rw [Source.flow, Holds, bind_eq_ok_iff]
  simp only [readOr_eq_ok_iff]
  constructor
  · rintro ⟨g, hRead, h⟩
    split at h
    · rename_i hValid
      cases h
      exact ⟨hRead, hValid⟩
    · cases h
  · rintro ⟨hRead, hValid⟩
    refine ⟨f, hRead, ?_⟩
    rw [hValid]
    rfl

theorem taken_iff : (earlier.any fun g => g.id = f.id && g.version = f.version) = true ↔
    ∃ g ∈ earlier, g.name = f.name := by
  simp only [List.any_eq_true, Bool.and_eq_true, decide_eq_true_eq, Flow.name, Prod.mk.injEq]

/-- One file after the other: its flow comes first, if its name is new. -/
theorem collect_cons_eq_ok_iff : collect yaml folder earlier (s :: rest) = .ok fs ↔
    ∃ f more, Holds yaml s.format s.text f ∧ (∀ g ∈ earlier, g.name ≠ f.name) ∧
      collect yaml folder (f :: earlier) rest = .ok more ∧ fs = f :: more := by
  rw [collect, bind_eq_ok_iff]
  simp only [flow_eq_ok_iff]
  constructor
  · rintro ⟨f, hf, h⟩
    split at h
    · cases h
    · rename_i hFree
      obtain ⟨more, hMore, h⟩ := bind_eq_ok_iff.mp h
      cases h
      refine ⟨f, more, hf, ?_, hMore, rfl⟩
      intro g hg hName
      exact hFree (taken_iff.mpr ⟨g, hg, hName⟩)
  · rintro ⟨f, more, hf, hnew, hMore, rfl⟩
    refine ⟨f, hf, ?_⟩
    split
    · rename_i hTaken
      obtain ⟨g, hg, hName⟩ := taken_iff.mp hTaken
      exact absurd hName (hnew g hg)
    · rw [hMore]
      rfl

theorem mem_collect_iff (h : collect yaml folder earlier files = .ok fs) :
    f ∈ fs ↔ ∃ s ∈ files, Holds yaml s.format s.text f := by
  induction files generalizing earlier fs with
  | nil =>
    cases h
    simp
  | cons s rest ih =>
    obtain ⟨g, more, hg, -, hMore, rfl⟩ := collect_cons_eq_ok_iff.mp h
    rw [List.mem_cons, ih hMore, List.exists_mem_cons_iff]
    refine or_congr_left ⟨?_, fun hf => hf.unique hg⟩
    rintro rfl
    exact hg

/-- All names are new, and no two are the same. -/
theorem names_of_collect (h : collect yaml folder earlier files = .ok fs) :
    (fs.map Flow.name).Nodup ∧ ∀ f ∈ fs, ∀ g ∈ earlier, g.name ≠ f.name := by
  induction files generalizing earlier fs with
  | nil =>
    cases h
    exact ⟨List.nodup_nil, fun f hf => nomatch hf⟩
  | cons s rest ih =>
    obtain ⟨f, more, -, hf, hMore, rfl⟩ := collect_cons_eq_ok_iff.mp h
    obtain ⟨hNodup, hnew⟩ := ih hMore
    constructor
    · rw [List.map_cons, List.nodup_cons]
      refine ⟨?_, hNodup⟩
      intro hmem
      obtain ⟨g, hg, hName⟩ := List.mem_map.mp hmem
      exact hnew g hg f List.mem_cons_self hName.symm
    · intro g hg e he
      rcases List.mem_cons.mp hg with rfl | hg
      · exact hf e he
      · exact hnew g hg e (List.mem_cons_of_mem f he)

/-- Files whose flows have different names, if they hold flows at all. -/
def Apart (yaml : YamlReader) (s s' : Source) : Prop :=
  ∀ f f', Holds yaml s.format s.text f → Holds yaml s'.format s'.text f' → f.name ≠ f'.name

instance : Std.Symm (Apart yaml) where
  symm _ _ h f f' hf hf' := (h f' f hf' hf).symm

theorem exists_collect_iff : (∃ fs, collect yaml folder earlier files = .ok fs) ↔
    (∀ s ∈ files, ∃ f, Holds yaml s.format s.text f) ∧ files.Pairwise (Apart yaml) ∧
      ∀ s ∈ files, ∀ f, Holds yaml s.format s.text f → ∀ g ∈ earlier, g.name ≠ f.name := by
  induction files generalizing earlier with
  | nil =>
    constructor
    · intro
      simp
    · intro
      exact ⟨[], rfl⟩
  | cons s rest ih =>
    constructor
    · rintro ⟨fs, h⟩
      obtain ⟨f, more, hf, hnew, hMore, -⟩ := collect_cons_eq_ok_iff.mp h
      obtain ⟨hEach, hApart, hLater⟩ := ih.mp ⟨more, hMore⟩
      refine ⟨List.forall_mem_cons.mpr ⟨⟨f, hf⟩, hEach⟩, .cons ?_ hApart,
        List.forall_mem_cons.mpr ⟨?_, ?_⟩⟩
      · intro s' hs' g g' hg hg'
        rw [hg.unique hf]
        exact hLater s' hs' g' hg' f List.mem_cons_self
      · intro g hg
        rw [hg.unique hf]
        exact hnew
      · intro s' hs' g hg e he
        exact hLater s' hs' g hg e (List.mem_cons_of_mem f he)
    · rintro ⟨hEach, hApart, hnew⟩
      obtain ⟨⟨f, hf⟩, hEach⟩ := List.forall_mem_cons.mp hEach
      obtain ⟨hFirst, hApart⟩ := List.pairwise_cons.mp hApart
      obtain ⟨hnew, hLater⟩ := List.forall_mem_cons.mp hnew
      have hRest : ∀ s' ∈ rest, ∀ g, Holds yaml s'.format s'.text g →
        ∀ e ∈ f :: earlier, e.name ≠ g.name := by
        intro s' hs' g hg e he
        rcases List.mem_cons.mp he with rfl | he
        · exact hFirst s' hs' e g hf hg
        · exact hLater s' hs' g hg e he
      obtain ⟨more, hMore⟩ := ih.mpr ⟨hEach, hApart, hRest⟩
      exact ⟨f :: more, collect_cons_eq_ok_iff.mpr ⟨f, more, hf, hnew f hf, hMore, rfl⟩⟩

end Collecting

section Folders

variable {yaml : YamlReader} {path : String} {files entries : Folder} {fs : List Flow}

def AllHold (yaml : YamlReader) (entries : Folder) : Prop :=
  ∀ name format text, IsDefinition entries name format text → ∃ f, Holds yaml format text f

def NoneTwice (yaml : YamlReader) (entries : Folder) : Prop :=
  ∀ name format text f name' format' text' f',
    IsDefinition entries name format text → IsDefinition entries name' format' text' →
      Holds yaml format text f → Holds yaml format' text' f' → f.id = f'.id →
        f.version = f'.version →
        name = name'

theorem pairwise_apart_iff (hUnique : Dict.Unique entries) :
    (sources entries).Pairwise (Apart yaml) ↔ NoneTwice yaml entries := by
  have hNames := names_nodup hUnique
  constructor
  · intro hApart name format text f name' format' text' f' h h' hf hf' hid hVersion
    rw [isDefinition_iff] at h h'
    by_contra hne
    have hs : (⟨name, format, text⟩ : Source) ≠ ⟨name', format', text'⟩ :=
      fun heq => hne (congrArg Source.name heq)
    exact hApart.forall h h' hs f f' hf hf' (Prod.ext hid hVersion)
  · intro hOnce
    refine (List.Nodup.of_map _ hNames).pairwise_of_forall_ne ?_
    intro s hs s' hs' hne f f' hf hf' hName
    apply hne
    apply List.inj_on_of_nodup_map hNames hs hs'
    have h := isDefinition_iff.mpr hs
    have h' := isDefinition_iff.mpr hs'
    exact hOnce _ _ _ f _ _ _ f' h h' hf hf' (congrArg Prod.fst hName) (congrArg Prod.snd hName)

theorem mem_flows_iff (h : flowsOf yaml path entries = .ok fs) {f : Flow} :
    f ∈ fs ↔
      ∃ name format text, IsDefinition entries name format text ∧ Holds yaml format text f := by
  rw [mem_collect_iff h]
  constructor
  · rintro ⟨s, hs, hf⟩
    exact ⟨s.name, s.format, s.text, isDefinition_iff.mpr hs, hf⟩
  · rintro ⟨name, format, text, hs, hf⟩
    exact ⟨_, isDefinition_iff.mp hs, hf⟩

theorem exists_flowsOf_iff (hUnique : Dict.Unique entries) :
    (∃ fs, flowsOf yaml path entries = .ok fs) ↔ AllHold yaml entries ∧ NoneTwice yaml entries := by
  unfold flowsOf
  rw [exists_collect_iff, pairwise_apart_iff hUnique]
  constructor
  · rintro ⟨hEach, hOnce, -⟩
    refine ⟨?_, hOnce⟩
    intro name format text hs
    exact hEach _ (isDefinition_iff.mp hs)
  · rintro ⟨hEach, hOnce⟩
    refine ⟨?_, hOnce, fun _ _ _ _ g hg => nomatch hg⟩
    intro s hs
    exact hEach s.name s.format s.text (isDefinition_iff.mpr hs)

theorem flows_eq_flowsOf (hThere : Folder.findPath path files = .ok (.folder entries)) :
    flows yaml path files = flowsOf yaml path entries := by
  rw [flows, hThere]

/-- The catalog has the flows that the files hold, under their ids and versions, and no others. -/
structure Serves (yaml : YamlReader) (entries : Folder) (c : Catalog) : Prop where
  own : ∀ name format text f, IsDefinition entries name format text → Holds yaml format text f →
    c.findFlow f.id f.version = some f
  others : ∀ id version, (∀ name format text f, IsDefinition entries name format text →
    Holds yaml format text f → ¬ (f.id = id ∧ f.version = version)) → c.findFlow id version = none

theorem ofLists_serves (h : flowsOf yaml path entries = .ok fs) (rs : List HandlerRegistration) :
    Serves yaml entries (Catalog.ofLists fs rs) where
  own name format text f hs hf := by
    apply Catalog.findFlow_of_mem (names_of_collect h).1
    exact (mem_flows_iff h).mpr ⟨name, format, text, hs, hf⟩
  others id version hNone := by
    cases hFind : (Catalog.ofLists fs rs).findFlow id version with
    | none => rfl
    | some f =>
      obtain ⟨hmem, hName⟩ := Catalog.mem_of_findFlow hFind
      obtain ⟨name, format, text, hs, hf⟩ := (mem_flows_iff h).mp hmem
      exact absurd (Prod.mk.inj hName) (hNone name format text f hs hf)

theorem catalog_eq_ok {registrationsPath : Option String} {rs : List HandlerRegistration}
    (hfs : flows yaml path files = .ok fs)
    (hrs : atPath (registrations yaml) files registrationsPath = .ok rs) :
    catalog yaml (some path) registrationsPath files = .ok (Catalog.ofLists fs rs) := by
  rw [catalog, atPath, hfs, hrs]
  rfl

theorem catalog_eq_error {registrationsPath : Option String} {e : ServiceError}
    (h : flows yaml path files = .error e) :
    catalog yaml (some path) registrationsPath files = .error e := by
  rw [catalog, atPath, h]
  rfl

/-- A folder answers the same in whichever order its entries are listed. It is accepted just if each
of its files of definitions holds a valid flow and no two of them hold one of the same id and
version. From then on the catalog answers an id and a version with the flow that a file holds under
them, or with none. Of a folder that is refused there is no catalog. -/
theorem folder_loads (yaml : YamlReader)
    (hThere : Folder.findPath path files = .ok (.folder entries)) (hUnique : Dict.Unique entries) :
    (∀ files' listing, Folder.findPath path files' = .ok (.folder listing) → listing.Perm entries →
      flows yaml path files' = flows yaml path files) ∧
    ((∃ fs, flows yaml path files = .ok fs) ↔ AllHold yaml entries ∧ NoneTwice yaml entries) ∧
    (∀ fs registrationsPath rs, flows yaml path files = .ok fs →
      atPath (registrations yaml) files registrationsPath = .ok rs →
      ∃ c, catalog yaml (some path) registrationsPath files = .ok c ∧ Serves yaml entries c) ∧
    ∀ e registrationsPath, flows yaml path files = .error e →
      catalog yaml (some path) registrationsPath files = .error e := by
  refine ⟨?_, ?_, ?_, fun e registrationsPath => catalog_eq_error⟩
  · intro files' listing hThere' hPerm
    rw [flows_eq_flowsOf hThere, flows_eq_flowsOf hThere', flowsOf, flowsOf,
      sources_eq_of_perm hUnique hPerm]
  · rw [flows_eq_flowsOf hThere]
    exact exists_flowsOf_iff hUnique
  · intro fs registrationsPath rs hfs hrs
    refine ⟨_, catalog_eq_ok hfs hrs, ?_⟩
    rw [flows_eq_flowsOf hThere] at hfs
    exact ofLists_serves hfs rs

end Folders

section Greetings

def greeting (version : UInt32) : Flow where
  id := "greet"
  version := version
  isPublished := true
  steps := [("done", { id := "done", kind := .endFlow })]
  start := "done"
  defaultContext := []
  defaultStepConfig := []
  onCompletionActions := []
  createdAt := none
  updatedAt := none

/-- A reader that knows one text, the greeting in its second version. -/
def greetingReader : YamlReader where
  flow? text := if text = "id: greet\nversion: 2" then some (greeting 2) else none
  registrations? _ := none

/-- The greeting in two versions, with a file beside them that defines nothing. -/
def greetings : Folder :=
  [("b.yaml", .file "id: greet\nversion: 2"), ("README.md", .file "greetings by version"),
    ("a.json", .file (greeting 1).toJson.render)]

theorem holds_first (yaml : YamlReader) :
    Holds yaml .json (greeting 1).toJson.render (greeting 1) :=
  holds_render (by decide +kernel) (by decide +kernel) (by decide)

theorem isDefinition_greetings {name text : String} {format : DefinitionFormat}
    (h : IsDefinition greetings name format text) :
    (name = "b.yaml" ∧ Holds greetingReader format text (greeting 2)) ∨
      (name = "a.json" ∧ Holds greetingReader format text (greeting 1)) := by
  obtain ⟨hmem, hFormat⟩ := h
  simp only [greetings, List.mem_cons, List.not_mem_nil, or_false, Prod.mk.injEq,
    FileNode.file.injEq] at hmem
  rcases hmem with ⟨rfl, rfl⟩ | ⟨rfl, -⟩ | ⟨rfl, rfl⟩
  · cases hFormat
    exact .inl ⟨rfl, rfl, by decide⟩
  · cases hFormat
  · cases hFormat
    exact .inr ⟨rfl, holds_first greetingReader⟩

/-- Both versions are found, from whichever end the folder is listed, and no third. -/
theorem greetings_load :
    Folder.findPath "flows" [("flows", .folder greetings)] = .ok (.folder greetings) ∧
      Dict.Unique greetings ∧
      flows greetingReader "flows" [("flows", .folder greetings.reverse)] =
        flows greetingReader "flows" [("flows", .folder greetings)] ∧
      ∃ c, catalog greetingReader (some "flows") none [("flows", .folder greetings)] = .ok c ∧
        c.findFlow "greet" 1 = some (greeting 1) ∧ c.findFlow "greet" 2 = some (greeting 2) ∧
        c.findFlow "greet" 3 = none := by
  have hThere : Folder.findPath "flows" [("flows", .folder greetings)] = .ok (.folder greetings) :=
    rfl
  have hUnique : Dict.Unique greetings := by
    unfold Dict.Unique
    decide
  obtain ⟨hOrder, hAccepted, hServes, -⟩ := folder_loads greetingReader hThere hUnique
  have hall : AllHold greetingReader greetings := by
    intro name format text h
    rcases isDefinition_greetings h with ⟨-, hf⟩ | ⟨-, hf⟩
    · exact ⟨_, hf⟩
    · exact ⟨_, hf⟩
  have hOnce : NoneTwice greetingReader greetings := by
    intro name format text f name' format' text' f' h h' hf hf' hid hVersion
    rcases isDefinition_greetings h with ⟨rfl, hg⟩ | ⟨rfl, hg⟩ <;>
      rcases isDefinition_greetings h' with ⟨rfl, hg'⟩ | ⟨rfl, hg'⟩
    case inl.inl => rfl
    case inr.inr => rfl
    all_goals
      rw [hf.unique hg, hf'.unique hg'] at hVersion
      cases hVersion
  obtain ⟨fs, hfs⟩ := hAccepted.mpr ⟨hall, hOnce⟩
  obtain ⟨c, hc, hown, hOthers⟩ := hServes fs none [] hfs rfl
  have hFirst : IsDefinition greetings "a.json" .json (greeting 1).toJson.render :=
    ⟨by simp [greetings], by decide⟩
  have hSecond : IsDefinition greetings "b.yaml" .yaml "id: greet\nversion: 2" :=
    ⟨by simp [greetings], by decide⟩
  refine ⟨hThere, hUnique, hOrder _ _ rfl (List.reverse_perm greetings), c, hc,
    hown _ _ _ _ hFirst (holds_first greetingReader), hown _ _ _ _ hSecond ⟨rfl, by decide⟩, ?_⟩
  apply hOthers
  rintro name format text f h hf ⟨-, hVersion⟩
  rcases isDefinition_greetings h with ⟨-, hg⟩ | ⟨-, hg⟩
  all_goals
    rw [hf.unique hg] at hVersion
    cases hVersion

/-- A greeting, and beside it a file that looks like YAML. -/
def halfRead : Folder :=
  [("broken.yml", .file "id: ["), ("good.json", .file (greeting 1).toJson.render)]

/-- Every file of JSON holds a valid flow and there is just one, but the folder is refused: a file
of YAML is a file of definitions too. -/
theorem halfRead_refused :
    (∀ name text, IsDefinition halfRead name .json text → Holds .ofJson .json text (greeting 1)) ∧
      (∀ name text name' text', IsDefinition halfRead name .json text →
        IsDefinition halfRead name' .json text' → name = name') ∧
      ∃ e, flows .ofJson "flows" [("flows", .folder halfRead)] = .error e := by
  have hOnly : ∀ name text, IsDefinition halfRead name .json text →
      name = "good.json" ∧ text = (greeting 1).toJson.render := by
    rintro name text ⟨hmem, hFormat⟩
    simp only [halfRead, List.mem_cons, List.not_mem_nil, or_false, Prod.mk.injEq,
      FileNode.file.injEq] at hmem
    rcases hmem with ⟨rfl, -⟩ | h
    · cases hFormat
    · exact h
  refine ⟨?_, ?_, ?_⟩
  · intro name text h
    rw [(hOnly name text h).2]
    exact holds_first .ofJson
  · intro name text name' text' h h'
    rw [(hOnly name text h).1, (hOnly name' text' h').1]
  · have hUnique : Dict.Unique halfRead := by
      unfold Dict.Unique
      decide
    cases hFlows : flows .ofJson "flows" [("flows", .folder halfRead)] with
    | error e => exact ⟨e, rfl⟩
    | ok fs =>
      have hThere : Folder.findPath "flows" [("flows", .folder halfRead)] =
        .ok (.folder halfRead) := rfl
      rw [flows_eq_flowsOf hThere] at hFlows
      obtain ⟨hall, -⟩ := (exists_flowsOf_iff hUnique).mp ⟨fs, hFlows⟩
      obtain ⟨f, hf, -⟩ := hall "broken.yml" .yaml "id: [" ⟨by simp [halfRead], by decide⟩
      have hBroken : flowOf? .ofJson .yaml "id: [" = none := by decide +kernel
      cases hBroken.symm.trans hf

end Greetings

end Definitions

end Stepwise
