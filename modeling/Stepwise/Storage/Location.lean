import Stepwise.Execution.Error
import Stepwise.Text.CharClass
import Stepwise.Text.Split

/-!
# Locations of objects

Where objects are stored: a container, which is one segment, and a key of segments with slashes
between them. No segment can lead out of its container.
-/

namespace Stepwise

set_option autoImplicit false

inductive StoreError where
  | backend (cause : String)
  | notFound (container key : String)
  | invalidLocation (cause : String)
  | io (cause : String)
  | timeout (cause : String)
  | configuration (cause : String)
deriving DecidableEq, Repr

namespace StoreError

def name : StoreError → String
  | .backend _ => "BackendError"
  | .notFound _ _ => "NotFound"
  | .invalidLocation _ => "InvalidLocation"
  | .io _ => "Io"
  | .timeout _ => "Timeout"
  | .configuration _ => "ConfigurationError"

def message : StoreError → String
  | .backend c => "Storage backend error: " ++ c
  | .notFound container key => "Object not found: " ++ container ++ "/" ++ key
  | .invalidLocation c => "Invalid object location: " ++ c
  | .io c => "I/O error: " ++ c
  | .timeout c => "Operation timed out: " ++ c
  | .configuration c => "Configuration error: " ++ c

def toEngine : StoreError → EngineError
  | .configuration c => .configuration c
  | e => .objectStore e.message

end StoreError

namespace Location

/-- A segment is not empty, not a dot or two, and has no backslash and no control character. -/
def isSegment (cs : List Char) : Bool :=
  !cs.isEmpty && cs ≠ ['.'] && cs ≠ ['.', '.'] && !cs.contains '\x5c' && !cs.any Text.isControl

def keySegments (key : String) : List (List Char) := Text.splitAt '/' key.toList

def isContainer (container : String) : Bool :=
  !container.toList.contains '/' && isSegment container.toList

def isKey (key : String) : Bool := (keySegments key).all isSegment

/-- Accepts a location, or tells which part of it is wrong. -/
def check (container key : String) : Except StoreError Unit :=
  if !isContainer container then .error (.invalidLocation ("container '" ++ container ++ "'"))
  else if !isKey key then .error (.invalidLocation ("key '" ++ key ++ "'"))
  else .ok ()

structure IsSegment (cs : List Char) : Prop where
  nonempty : cs ≠ []
  notDot : cs ≠ ['.']
  notDots : cs ≠ ['.', '.']
  noBackslash : '\x5c' ∉ cs
  noControl : ∀ c ∈ cs, Text.isControl c = false

theorem isSegment_iff {cs : List Char} : isSegment cs = true ↔ IsSegment cs := by
  simp only [isSegment, Bool.and_eq_true, Bool.not_eq_true', List.isEmpty_eq_false_iff, ne_eq,
    decide_not, decide_eq_false_iff_not, List.contains_eq_mem, List.any_eq_false, Bool.not_eq_true]
  constructor
  · rintro ⟨⟨⟨⟨hSome, hNotDot⟩, hNotDots⟩, hNoBackslash⟩, hNoControl⟩
    exact ⟨hSome, hNotDot, hNotDots, hNoBackslash, hNoControl⟩
  · intro h
    exact ⟨⟨⟨⟨h.nonempty, h.notDot⟩, h.notDots⟩, h.noBackslash⟩, h.noControl⟩

theorem isContainer_iff {container : String} :
    isContainer container = true ↔ '/' ∉ container.toList ∧ isSegment container.toList = true := by
  simp [isContainer]

theorem check_eq_ok_iff {container key : String} :
    check container key = .ok () ↔ isContainer container = true ∧ isKey key = true := by
  unfold check
  split
  · simp_all
  · split <;> simp_all

theorem of_check_error {container key : String} {e : StoreError}
    (hRefused : check container key = .error e) : ∃ cause, e = .invalidLocation cause := by
  unfold check at hRefused
  repeat' split at hRefused
  all_goals cases hRefused
  all_goals exact ⟨_, rfl⟩

end Location

end Stepwise
