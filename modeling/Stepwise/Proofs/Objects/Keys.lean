import Stepwise.Proofs.Objects.Offloading
import Stepwise.Proofs.Text.Runs

/-!
# Keys of large values

The keys that large values are stored under. A key is the id of the execution and two segments more,
one for the destination and one for the content. Whatever these two are, they can be stored, so it
is for the id alone to tell whether the key can be.
-/

namespace Stepwise

set_option autoImplicit false

namespace Offload

section Characters

variable {cs : List Char}

theorem isKeyChar_cases {c : Char} (h : isKeyChar c = true) :
    c.isAlphanum = true ∨ c = '-' ∨ c = '_' ∨ c = '.' := by
  simp only [isKeyChar, Bool.or_eq_true, decide_eq_true_eq, or_assoc] at h
  exact h

/-- A character of a key parts no segments, and a segment may have it. -/
theorem of_isKeyChar {c : Char} (h : isKeyChar c = true) :
    c ≠ '/' ∧ c ≠ '\x5c' ∧ Text.isControl c = false := by
  rcases isKeyChar_cases h with hAlphanum | rfl | rfl | rfl
  · have hRanges := Text.ranges_of_isAlphanum hAlphanum
    refine ⟨?_, ?_, ?_⟩
    · rintro rfl
      cases hAlphanum
    · rintro rfl
      cases hAlphanum
    · simp only [Text.isControl, Bool.or_eq_false_iff, Bool.and_eq_false_iff,
        decide_eq_false_iff_not]
      omega
  · decide
  · decide
  · decide

theorem slash_not_mem (hPlain : ∀ c ∈ cs, isKeyChar c = true) : '/' ∉ cs :=
  fun hAmong => (of_isKeyChar (hPlain '/' hAmong)).1 rfl

theorem isSegment_of_plain (hPlain : ∀ c ∈ cs, isKeyChar c = true) (hOther : ∃ c ∈ cs, c ≠ '.') :
    Location.IsSegment cs := by
  obtain ⟨c, hAmong, hNotDot⟩ := hOther
  constructor
  case nonempty => exact List.ne_nil_of_mem hAmong
  case notDot =>
    rintro rfl
    exact hNotDot (List.mem_singleton.mp hAmong)
  case notDots =>
    rintro rfl
    simp only [List.mem_cons, List.not_mem_nil, or_false, or_self] at hAmong
    exact hNotDot hAmong
  case noBackslash =>
    intro hBackslash
    exact (of_isKeyChar (hPlain _ hBackslash)).2.1 rfl
  case noControl =>
    intro d hMember
    exact (of_isKeyChar (hPlain d hMember)).2.2

end Characters

section Segments

variable (executionId destination text : String)

def contentSegment : String := Digest.ofText text ++ ".json"

theorem destinationSegment_plain :
    ∀ c ∈ (destinationSegment destination).toList, isKeyChar c = true := by
  intro c hAmong
  unfold destinationSegment at hAmong
  dsimp only at hAmong
  split at hAmong
  · rw [String.toList_ofList] at hAmong
    rcases List.mem_cons.mp hAmong with rfl | hLater
    · rfl
    · obtain ⟨d, -, rfl⟩ := List.mem_map.mp hLater
      rfl
  · rw [String.toList_ofList] at hAmong
    obtain ⟨d, -, rfl⟩ := List.mem_map.mp hAmong
    split
    · assumption
    · rfl

theorem destinationSegment_other : ∃ c ∈ (destinationSegment destination).toList, c ≠ '.' := by
  unfold destinationSegment
  dsimp only
  split
  · refine ⟨'_', ?_, by decide⟩
    rw [String.toList_ofList]
    exact List.mem_cons_self
  · next hMixed =>
    rw [Bool.not_eq_true, List.all_eq_false] at hMixed
    obtain ⟨c, hAmong, hNotDot⟩ := hMixed
    rw [decide_eq_true_eq] at hNotDot
    refine ⟨if isKeyChar c then c else '_', ?_, ?_⟩
    · rw [String.toList_ofList]
      exact List.mem_map_of_mem hAmong
    · split
      · exact hNotDot
      · decide

theorem isKeyChar_hexDigit : ∀ n < 16, isKeyChar (Text.hexDigit n) = true := by decide

theorem digest_plain : ∀ c ∈ (Digest.ofText text).toList, isKeyChar c = true := by
  intro c hAmong
  simp only [Digest.ofText, Digest.hexText, String.toList_ofList, List.mem_flatMap] at hAmong
  obtain ⟨b, -, hDigit⟩ := hAmong
  have hSmall := b.toNat_lt
  simp only [List.mem_cons, List.not_mem_nil, or_false] at hDigit
  rcases hDigit with rfl | rfl
  · exact isKeyChar_hexDigit _ (by omega)
  · exact isKeyChar_hexDigit _ (by omega)

theorem contentSegment_plain : ∀ c ∈ (contentSegment text).toList, isKeyChar c = true := by
  intro c hAmong
  rw [contentSegment, String.toList_append, List.mem_append] at hAmong
  rcases hAmong with hDigit | hEnding
  · exact digest_plain text c hDigit
  · have hSuffix : ".json".toList.all isKeyChar = true := by decide
    exact List.all_eq_true.mp hSuffix c hEnding

theorem contentSegment_other : ∃ c ∈ (contentSegment text).toList, c ≠ '.' := by
  refine ⟨'j', ?_, by decide⟩
  rw [contentSegment, String.toList_append]
  exact List.mem_append_right _ (by decide)

/-- The id of the execution keeps its own segments. The destination makes one, and so does the
content. -/
theorem keySegments_key : Location.keySegments (key executionId destination text) =
    executionId.toList.splitOn '/' ++
      [(destinationSegment destination).toList, (contentSegment text).toList] := by
  have hSpelled : (key executionId destination text).toList = executionId.toList ++
      '/' :: ((destinationSegment destination).toList ++ '/' :: (contentSegment text).toList) := by
    simp [key, contentSegment, String.toList_append]
  rw [Location.keySegments, Text.splitAt_eq_splitOn, hSpelled, List.splitOn_append_cons_self,
    List.splitOn_append_cons_self_of_not_mem (slash_not_mem (destinationSegment_plain destination)),
    ← Text.splitAt_eq_splitOn '/' (contentSegment text).toList,
    Text.splitAt_of_not_mem (slash_not_mem (contentSegment_plain text))]

theorem isKey_key_iff : Location.isKey (key executionId destination text) = true ↔
    ∀ part ∈ executionId.toList.splitOn '/', Location.IsSegment part := by
  have hOfDestination :=
    isSegment_of_plain (destinationSegment_plain destination) (destinationSegment_other destination)
  have hOfContent := isSegment_of_plain (contentSegment_plain text) (contentSegment_other text)
  rw [Location.isKey, keySegments_key, List.all_eq_true]
  constructor
  · intro hAccepted part hAmong
    exact Location.isSegment_iff.mp (hAccepted part (List.mem_append_left _ hAmong))
  · intro hParts part hAmong
    rw [Location.isSegment_iff]
    rcases List.mem_append.mp hAmong with hOwn | hMore
    · exact hParts part hOwn
    · simp only [List.mem_cons, List.not_mem_nil, or_false] at hMore
      rcases hMore with rfl | rfl
      · exact hOfDestination
      · exact hOfContent

end Segments

end Offload

namespace Offloading

variable {c d : Offloading}

theorem check_place_iff (hContainer : Location.isContainer c.settings.objectStoreContainer = true) :
    Location.check c.place.container c.place.key = .ok () ↔
      ∀ part ∈ c.executionId.toList.splitOn '/', Location.IsSegment part := by
  have hKey := Offload.isKey_key_iff c.executionId c.destination c.value.render
  rw [Location.check_eq_ok_iff]
  constructor
  · rintro ⟨-, hAccepted⟩
    exact hKey.mp hAccepted
  · intro hParts
    exact ⟨hContainer, hKey.mpr hParts⟩

/-- A large value goes to one place. Behind the id of the execution, the destination makes one
segment of its key, and the content another. The place is valid just if all segments of the id are,
so another destination or another value makes no difference to that. -/
theorem place_valid_iff (hContainer : Location.isContainer c.settings.objectStoreContainer = true) :
    (Pointer.ofJson? c.value = none → c.IsLarge →
      c.program = (do
        EngineProgram.putObject c.place.container c.place.key c.value.render
        pure c.place.toJson)) ∧
    c.place.container = c.settings.objectStoreContainer ∧
    Location.keySegments c.place.key = c.executionId.toList.splitOn '/' ++
      [(Offload.destinationSegment c.destination).toList,
        (Offload.contentSegment c.value.render).toList] ∧
    (Location.check c.place.container c.place.key = .ok () ↔
      ∀ part ∈ c.executionId.toList.splitOn '/', Location.IsSegment part) ∧
    ∀ d : Offloading, d.settings = c.settings → d.executionId = c.executionId →
      (Location.check d.place.container d.place.key = .ok () ↔
        Location.check c.place.container c.place.key = .ok ()) := by
  refine ⟨program_of_isLarge, rfl, Offload.keySegments_key _ _ _, check_place_iff hContainer, ?_⟩
  intro d hSettings hExecutionId
  have hContainer' : Location.isContainer d.settings.objectStoreContainer = true := by
    rw [hSettings]
    exact hContainer
  rw [check_place_iff hContainer, check_place_iff hContainer', hExecutionId]

def ofNote (executionId : String) : Offloading :=
  ⟨{ offloadThresholdBytes := 6 }, executionId, "$...", .str "leave it at the door"⟩

/-- The note can be stored under an id of two names, but not under one that leads out of the
container. -/
theorem note_place_valid :
    (∀ id, Location.isContainer (ofNote id).settings.objectStoreContainer = true ∧
      (ofNote id).program = (do
        EngineProgram.putObject (ofNote id).place.container (ofNote id).place.key
          (ofNote id).value.render
        pure (ofNote id).place.toJson)) ∧
    Location.check (ofNote "orders/7").place.container (ofNote "orders/7").place.key = .ok () ∧
    Location.check (ofNote "orders/..").place.container (ofNote "orders/..").place.key ≠
    .ok () := by
  have hContainer : Location.isContainer "rivulet-large-values" = true := by decide
  have hLarge : (6 : UInt64).toNat < Json.size (.str "leave it at the door") := by decide
  refine ⟨?_, ?_, ?_⟩
  · intro id
    exact ⟨hContainer, (place_valid_iff (c := ofNote id) hContainer).1 rfl hLarge⟩
  · obtain ⟨-, -, -, hValid, -⟩ := place_valid_iff (c := ofNote "orders/7") hContainer
    have hParts : ("orders/7".toList.splitOn '/').all Location.isSegment = true := by decide
    apply hValid.mpr
    intro part hAmong
    exact Location.isSegment_iff.mp (List.all_eq_true.mp hParts part hAmong)
  · obtain ⟨-, -, -, hValid, -⟩ := place_valid_iff (c := ofNote "orders/..") hContainer
    intro hAccepted
    have hUp := hValid.mp hAccepted ['.', '.'] (by decide)
    exact hUp.notDots rfl

end Offloading

end Stepwise
