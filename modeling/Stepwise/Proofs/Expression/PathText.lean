import Stepwise.Expression.Path
import Stepwise.Proofs.Text.Runs

/-!
# The texts of paths

The texts that read as paths.
-/

namespace Stepwise

set_option autoImplicit false

namespace Path

/-- A name that may stand behind a dot. -/
def IsName (name : String) : Prop := name ≠ "" ∧ ∀ c ∈ name.toList, isNameChar c = true

instance (name : String) : Decidable (IsName name) :=
  have := List.decidableBAll (fun c => isNameChar c = true) name.toList
  inferInstanceAs (Decidable (_ ∧ _))

theorem segments?_nil : segments? [] = some [] := by
  rw [segments?]
  rfl

theorem segments?_of_segment? {cs rest : List Char} {s : Segment}
    (h : segment? cs = some (s, rest)) :
    segments? cs = (segments? rest).map (s :: ·) := by
  rw [segments?, if_neg]
  · split
    · rename_i hNothing
      cases hNothing.symm.trans h
    · rename_i hFound
      cases hFound.symm.trans h
      rfl
  · intro hNothing
    rw [List.isEmpty_iff.mp hNothing] at h
    cases h

theorem segment?_dot {name : String} (h : IsName name) {rest : List Char}
    (hEnds : Text.Ends isNameChar rest) :
    segment? ('.' :: (name.toList ++ rest)) = some (.key name, rest) := by
  have hSome : name.toList.isEmpty = false := by simpa using h.1
  simp only [segment?, Text.takeWhile_run h.2 hEnds, Text.dropWhile_run h.2 hEnds, hSome,
    Bool.false_eq_true, if_false, String.ofList_toList]

theorem segments?_names {names : List String} (hNamed : ∀ name ∈ names, IsName name) :
    segments? (names.flatMap fun name => '.' :: name.toList) = some (names.map .key) := by
  induction names with
  | nil => exact segments?_nil
  | cons name rest ih =>
    have hEnds : Text.Ends isNameChar (rest.flatMap fun name => '.' :: name.toList) := by
      cases rest with
      | nil => exact Text.ends_nil
      | cons next rest => exact Text.ends_cons (by decide +kernel)
    rw [List.flatMap_cons, List.cons_append,
      segments?_of_segment? (segment?_dot (hNamed name List.mem_cons_self) hEnds),
      ih fun n hMember => hNamed n (List.mem_cons_of_mem _ hMember)]
    rfl

theorem dot_intercalate {names : List String} (hNonempty : names ≠ []) :
    '.' :: ['.'].intercalate (names.map String.toList) =
      names.flatMap fun name => '.' :: name.toList := by
  induction names with
  | nil => exact absurd rfl hNonempty
  | cons name rest ih =>
    cases rest with
    | nil => simp
    | cons next rest =>
      rw [List.flatMap_cons, ← ih (List.cons_ne_nil _ _), List.map_cons, List.map_cons,
        List.intercalate_cons_cons, List.append_assoc, List.singleton_append, List.cons_append]

theorem ofText?_names {names : List String} (hNonempty : names ≠ [])
    (hNamed : ∀ name ∈ names, IsName name) :
    ofText? ("$." ++ String.intercalate "." names) = .some (names.map .key) := by
  have hChars : ("$." ++ String.intercalate "." names).toList =
      '$' :: names.flatMap fun name => '.' :: name.toList := by
    rw [String.toList_append, String.toList_intercalate, ← dot_intercalate hNonempty]
    rfl
  rw [ofText?, hChars]
  exact segments?_names hNamed

theorem ofText?_name {name : String} (h : IsName name) :
    ofText? ("$." ++ name) = some [.key name] := by
  have hRead := ofText?_names (List.cons_ne_nil name []) (List.forall_mem_singleton.mpr h)
  rwa [String.intercalate_singleton] at hRead

/-- The texts of single segments. -/
inductive IsPiece : List Char → Prop where
  | name {name : List Char} (hNonempty : name ≠ []) (h : ∀ c ∈ name, isNameChar c = true) :
      IsPiece ('.' :: name)
  | quoted {quote : Char} {inside : List Char} (h : quote = '\x27' ∨ quote = '\x22')
      (hAbsent : quote ∉ inside) : IsPiece ('[' :: (quote :: (inside ++ [quote]) ++ [']']))
  | position {digits : List Char} (h : ∀ c ∈ digits, c.isDigit = true) :
      IsPiece ('[' :: (digits ++ [']']))

theorem piece_of_quotedName {quote : Char} (h : quote = '\x27' ∨ quote = '\x22')
    {cs rest : List Char} {s : Segment} (hRead : quotedName quote cs = some (s, rest)) :
    ∃ piece, IsPiece piece ∧ '[' :: quote :: cs = piece ++ rest := by
  have hWhole := List.takeWhile_append_dropWhile (p := fun c => decide (c ≠ quote)) (l := cs)
  unfold quotedName at hRead
  split at hRead
  · rename_i d after hClosing
    cases hRead
    have hCloses : d = quote := by
      have hStops := List.head?_dropWhile_not (fun c => decide (c ≠ quote)) cs
      rw [hClosing] at hStops
      simpa using hStops
    have hAbsent : quote ∉ cs.takeWhile (fun c => decide (c ≠ quote)) := by
      intro hMember
      simpa using List.all_eq_true.mp List.all_takeWhile quote hMember
    refine ⟨_, .quoted h hAbsent, ?_⟩
    rw [hClosing, hCloses] at hWhole
    simpa using hWhole.symm
  · cases hRead

theorem piece_of_segment? {cs rest : List Char} {s : Segment}
    (hRead : segment? cs = some (s, rest)) :
    ∃ piece, IsPiece piece ∧ cs = piece ++ rest := by
  unfold segment? at hRead
  split at hRead
  · rename_i cs
    dsimp only at hRead
    split at hRead
    · cases hRead
    · rename_i hSome
      cases hRead
      refine ⟨_, .name (fun hNothing => hSome (List.isEmpty_iff.mpr hNothing)) ?_, ?_⟩
      · exact List.all_eq_true.mp List.all_takeWhile
      · rw [List.cons_append, List.takeWhile_append_dropWhile]
  · exact piece_of_quotedName (.inl rfl) hRead
  · exact piece_of_quotedName (.inr rfl) hRead
  · rename_i cs _ _
    have hWhole := List.takeWhile_append_dropWhile (p := Char.isDigit) (l := cs)
    dsimp only at hRead
    split at hRead
    · rename_i after hClosing
      split at hRead
      · cases hRead
      · cases hRead
        refine ⟨'[' :: (cs.takeWhile Char.isDigit ++ [']']),
          .position (List.all_eq_true.mp List.all_takeWhile), ?_⟩
        rw [hClosing] at hWhole
        simpa using hWhole.symm
    · cases hRead
  · cases hRead

/-- The text of a path is the texts of its segments behind each other. -/
theorem pieces_of_segments? {cs : List Char} {path : Path} (hRead : segments? cs = some path) :
    ∃ pieces : List (List Char), (∀ piece ∈ pieces, IsPiece piece) ∧ cs = pieces.flatten := by
  induction cs using segments?.induct generalizing path with
  | case1 cs hNothing => exact ⟨[], by simp, List.isEmpty_iff.mp hNothing⟩
  | case2 cs hSome hNothing =>
    rw [segments?, if_neg hSome] at hRead
    split at hRead
    · cases hRead
    · rename_i hFound
      cases hNothing.symm.trans hFound
  | case3 cs hSome s rest hFound hShorter ih =>
    rw [segments?_of_segment? hFound] at hRead
    obtain ⟨more, hLater, -⟩ := Option.map_eq_some_iff.mp hRead
    obtain ⟨piece, hIsPiece, hWhole⟩ := piece_of_segment? hFound
    obtain ⟨pieces, hArePieces, hFlat⟩ := ih hLater
    refine ⟨piece :: pieces, ?_, by rw [hWhole, hFlat, List.flatten_cons]⟩
    intro p hMember
    rcases List.mem_cons.mp hMember with rfl | hMember
    · exact hIsPiece
    · exact hArePieces p hMember

theorem pieces_of_ofText? {text : String} {path : Path} (hRead : ofText? text = some path) :
    ∃ pieces : List (List Char),
      (∀ piece ∈ pieces, IsPiece piece) ∧ text.toList = '$' :: pieces.flatten := by
  unfold ofText? at hRead
  split at hRead
  · rename_i cs hBegins
    obtain ⟨pieces, hArePieces, hFlat⟩ := pieces_of_segments? hRead
    exact ⟨pieces, hArePieces, by rw [hBegins, hFlat]⟩
  · cases hRead

theorem trimmed_of_isPiece {piece : List Char} (h : IsPiece piece) : Text.Trimmed piece := by
  cases h with
  | name hSome h =>
    refine .of_forall (List.cons_ne_nil _ _) fun c hMember => ?_
    rcases List.mem_cons.mp hMember with rfl | hMember
    · rfl
    · exact Text.not_isBlank_of_class (by decide +kernel) (h c hMember)
  | quoted h hAbsent => exact .enclosed _ rfl rfl
  | position h => exact .enclosed _ rfl rfl

/-- Without segments the text ends where what stands in front of it ends. -/
theorem trimmed_append_pieces {pieces : List (List Char)}
    (hArePieces : ∀ piece ∈ pieces, IsPiece piece) {cs : List Char} (h : Text.Trimmed cs) :
    Text.Trimmed (cs ++ pieces.flatten) := by
  induction pieces generalizing cs with
  | nil => rwa [List.flatten_nil, List.append_nil]
  | cons piece rest ih =>
    have hIsPiece := hArePieces piece List.mem_cons_self
    rw [List.flatten_cons, ← List.append_assoc]
    exact ih (fun other hMember => hArePieces other (List.mem_cons_of_mem _ hMember))
      (h.append (trimmed_of_isPiece hIsPiece))

end Path

end Stepwise
