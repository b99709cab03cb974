import Stepwise.Expression.Resolve

/-!
# Following paths

Following paths without looking behind pointers.
-/

namespace Stepwise

set_option autoImplicit false

namespace Path

def find? : Path → Json → Option Json
  | [], v => some v
  | s :: rest, v => (s.of? v).bind (find? rest)

theorem walk_true_cons (s : Segment) (rest : Path) (v : Json) :
    walk true (s :: rest) v = hydrate v >>= fun w =>
      match s.of? w with
      | some x => walk true rest x
      | none => pure .undefined := rfl

theorem walk_cons {hydrating : Bool} {v w : Json} (h : hydrateIf hydrating v = pure w) (s : Segment)
    (rest : Path) : walk hydrating (s :: rest) v =
      match s.of? w with
      | some x => walk hydrating rest x
      | none => pure .undefined := by
  rw [walk, h]
  exact pure_bind w _

theorem walk_false (path : Path) (v : Json) :
    path.walk false v = pure (.ofOption (path.find? v)) := by
  induction path generalizing v with
  | nil => rfl
  | cons s rest ih =>
    rw [walk_cons (w := v) rfl]
    cases hFound : s.of? v with
    | none => simp [find?, hFound, Resolved.ofOption]
    | some w => simp [find?, hFound, ih]

end Path

theorem hydrate_of_none {v : Json} (h : Pointer.ofJson? v = none) : hydrate v = pure v := by
  rw [hydrate, h]

namespace Path

theorem isQuery_of_segment? {expr : String} {cs rest : List Char} {s : Segment}
    (hBegins : expr.toList = '$' :: cs) (h : segment? cs = some (s, rest)) :
    isQuery expr = true := by
  unfold segment? at h
  split at h
  case h_5 => cases h
  all_goals simp only [isQuery, hBegins]

theorem isQuery_of_ofText? {expr : String} {path : Path} (h : ofText? expr = some path) :
    isQuery expr = true := by
  unfold ofText? at h
  split at h
  · rename_i cs hBegins
    unfold segments? at h
    split at h
    · rename_i hNothing
      simp only [isQuery, hBegins, List.isEmpty_iff.mp hNothing]
    · split at h
      · cases h
      · rename_i hFound
        exact isQuery_of_segment? hBegins hFound
  · cases h

end Path

/-- A text that reads as a path resolves to what the path leads to. -/
theorem resolve_of_ofText? {expr : String} {path : Path} (h : Path.ofText? expr = some path)
    (document : Json) (hydrating : Bool) :
    resolve expr document hydrating = path.walk hydrating document := by
  rw [resolve, if_pos (Path.isQuery_of_ofText? h), h]

end Stepwise
