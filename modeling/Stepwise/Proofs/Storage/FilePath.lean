import Stepwise.Storage.FileStore

/-!
# Files of objects

Where the files of objects stand. Every object that has a place has a path of its own, strictly
below the folder of its container, whatever the names of containers and the keys are.
-/

namespace Stepwise

set_option autoImplicit false

namespace Folder

structure IsName (name : String) : Prop where
  nonempty : name ≠ ""
  notDot : name ≠ "."
  notDots : name ≠ ".."
  noSlash : '/' ∉ name.toList
  noBackslash : '\x5c' ∉ name.toList

theorem segments_name {name : String} (h : IsName name) : segments name = [name] := by
  have hNonempty : name.toList ≠ [] := by simpa using h.nonempty
  have hNotDot : name.toList ≠ ['.'] := fun hSame => h.notDot (String.toList_inj.mp hSame)
  simp [segments, Text.splitAt_of_not_mem h.noSlash, hNonempty, hNotDot]

theorem join_name {name : String} (h : IsName name) (path : List String) :
    join path name = path ++ [name] := by
  have hRelative : name.toList.head? ≠ some '/' :=
    fun hFirst => h.noSlash (List.mem_of_mem_head? hFirst)
  rw [join, if_neg hRelative, segments_name h]

theorem join_names {names : List String} (h : ∀ name ∈ names, IsName name) (path : List String) :
    names.foldl join path = path ++ names := by
  induction names generalizing path with
  | nil => simp
  | cons name rest ih =>
    obtain ⟨hFirst, hLater⟩ := List.forall_mem_cons.mp h
    rw [List.foldl_cons, join_name hFirst, ih hLater, List.append_assoc, List.singleton_append]

end Folder

namespace Location

theorem isName_of_isSegment {cs : List Char} (hSegment : isSegment cs = true)
    (hNoSlash : '/' ∉ cs) :
    Folder.IsName (String.ofList cs) := by
  have hClauses := isSegment_iff.mp hSegment
  have hSpelled {ds : List Char} (hOther : cs ≠ ds) : String.ofList cs ≠ String.ofList ds :=
    fun hSame => hOther (String.ofList_injective hSame)
  exact {
    nonempty := hSpelled hClauses.nonempty
    notDot := hSpelled hClauses.notDot
    notDots := hSpelled hClauses.notDots
    noSlash := by rwa [String.toList_ofList]
    noBackslash := by
      rw [String.toList_ofList]
      exact hClauses.noBackslash }

section Accepted

variable {container key : String} (hAccepted : check container key = .ok ())

include hAccepted

theorem isName_container : Folder.IsName container := by
  obtain ⟨hNoSlash, hSegment⟩ := isContainer_iff.mp (check_eq_ok_iff.mp hAccepted).1
  rw [← @String.ofList_toList container]
  exact isName_of_isSegment hSegment hNoSlash

theorem isName_of_mem_key : ∀ name ∈ (keySegments key).map String.ofList, Folder.IsName name := by
  intro name hAmong
  obtain ⟨cs, hPart, rfl⟩ := List.mem_map.mp hAmong
  exact isName_of_isSegment (List.all_eq_true.mp (check_eq_ok_iff.mp hAccepted).2 cs hPart)
    (Text.not_mem_of_mem_splitAt hPart)

end Accepted

/-- The names in a key tell the key. -/
theorem names_injective {key key' : String}
    (h : (keySegments key).map String.ofList = (keySegments key').map String.ofList) :
    key = key' := by
  have hParts : keySegments key = keySegments key' :=
    List.map_inj_right (fun _ _ => String.ofList_injective) |>.mp h
  exact String.toList_inj.mp (Text.splitAt_injective '/' hParts)

end Location

namespace FileStore

theorem path_of_accepted {container key : String}
    (hAccepted : Location.check container key = .ok ()) (root : List String) :
    path root container key =
      .ok (root ++ container :: (Location.keySegments key).map String.ofList) := by
  unfold path
  rw [hAccepted, Folder.join_name (Location.isName_container hAccepted),
    Folder.join_names (Location.isName_of_mem_key hAccepted), List.append_assoc,
    List.singleton_append]
  rfl

theorem path_of_refused {container key : String} {e : StoreError}
    (hRefused : Location.check container key = .error e) (root : List String) :
    path root container key = .error e := by
  unfold path
  rw [hRefused]
  rfl

theorem accepted_of_path {root names : List String} {container key : String}
    (hFound : path root container key = .ok names) : Location.check container key = .ok () := by
  cases hChecked : Location.check container key with
  | ok _ => rfl
  | error e =>
    rw [path_of_refused hChecked] at hFound
    cases hFound

/-- Where the file of an object stands. -/
structure Stands (root : List String) (container key : String) (names : List String) : Prop where
  /-- The container and the parts of the key between the slashes follow the root. -/
  spelled : names = root ++ container :: (key.toList.splitOn '/').map String.ofList
  /-- The file stands strictly below the folder of its container. -/
  below : ∃ inside, inside ≠ [] ∧ names = root ++ [container] ++ inside
  /-- No step behind the root leads up, stays or leads elsewhere. -/
  down : ∀ name ∈ names.drop root.length, Folder.IsName name
  /-- No other object has its file there. -/
  own : ∀ container' key', path root container' key' = .ok names → container' = container ∧
    key' = key

/-- A location that is accepted has a path of its own in the folder of its container, and one that
is refused has none. -/
theorem path_confined (root : List String) (container key : String) :
    (Location.check container key = .ok () →
      ∃ names, path root container key = .ok names ∧ Stands root container key names) ∧
    (Location.check container key ≠ .ok () →
      ∃ cause, path root container key = .error (.invalidLocation cause)) := by
  constructor
  · intro hAccepted
    refine ⟨_, path_of_accepted hAccepted root, ?_⟩
    constructor
    case spelled => rw [Location.keySegments, Text.splitAt_eq_splitOn]
    case below =>
      refine ⟨(Location.keySegments key).map String.ofList, ?_, by simp⟩
      rw [ne_eq, List.map_eq_nil_iff]
      exact Text.splitAt_ne_nil '/' key.toList
    case down =>
      rw [List.drop_left]
      exact List.forall_mem_cons.mpr
        ⟨Location.isName_container hAccepted, Location.isName_of_mem_key hAccepted⟩
    case own =>
      intro container' key' hSame
      rw [path_of_accepted (accepted_of_path hSame)] at hSame
      obtain ⟨hContainers, hNames⟩ := List.cons.inj (List.append_cancel_left (Except.ok.inj hSame))
      exact ⟨hContainers, Location.names_injective hNames⟩
  · intro hRefused
    cases hChecked : Location.check container key with
    | ok _ => exact absurd hChecked hRefused
    | error e =>
      obtain ⟨cause, rfl⟩ := Location.of_check_error hChecked
      exact ⟨cause, path_of_refused hChecked root⟩

/-- A report has its file, and no key leads out of the folder. -/
theorem report_confined :
    (Location.check "large" "exec-1/report.json" = .ok () ∧
      ∃ names, path ["data"] "large" "exec-1/report.json" = .ok names ∧
        Stands ["data"] "large" "exec-1/report.json" names) ∧
    Location.check "large" "../../escape" ≠ .ok () ∧
      ∃ cause, path ["data"] "large" "../../escape" = .error (.invalidLocation cause) := by
  have hAccepted : Location.check "large" "exec-1/report.json" = .ok () :=
    Location.check_eq_ok_iff.mpr (by decide +kernel)
  have hRefused : Location.check "large" "../../escape" ≠ .ok () := by
    rw [ne_eq, Location.check_eq_ok_iff]
    decide +kernel
  exact ⟨⟨hAccepted, (path_confined ["data"] "large" "exec-1/report.json").1 hAccepted⟩,
    hRefused, (path_confined ["data"] "large" "../../escape").2 hRefused⟩

end FileStore

end Stepwise
