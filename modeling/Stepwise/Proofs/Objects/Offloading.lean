import Stepwise.Engine.Offload
import Stepwise.Expression.Resolve
import Stepwise.Host.Basic

/-!
# Offloaded values stay what they are

Large values that were moved to the object store stay what they are. Calls of different executions
and destinations can build the same key, but then they have the same digest, and without a collision
the same content; so a later call writes at most what is already there.
-/

namespace Stepwise

set_option autoImplicit false

open Program

namespace Digest

theorem length_bytesOf (width n : Nat) : (bytesOf width n).length = width := by
  simp [bytesOf]

theorem length_hexText (x : Words) : (hexText x).toList.length = 64 := by
  simp [hexText, Words.toList, List.length_flatMap, length_bytesOf, List.map_const']

end Digest

/-- A key tells the digest of the content: it ends in it, and all digests are of one length. -/
theorem Offload.digest_eq_of_key_eq {e d t e' d' t' : String}
    (h : Offload.key e d t = Offload.key e' d' t') : Digest.ofText t = Digest.ofText t' := by
  have hChars := congrArg String.toList h
  simp only [Offload.key, String.toList_append] at hChars
  have hEnds := List.append_cancel_right hChars
  have hDigests :=
    List.append_inj_right' hEnds (by simp only [Digest.ofText, Digest.length_hexText])
  exact String.toList_inj.mp hDigests

/-- One call that moves a value to the object store if it is large. -/
structure Offloading where
  settings : Settings
  executionId : String
  destination : String
  value : Json

namespace Offloading

def program (c : Offloading) : EngineProgram Json :=
  offload c.settings c.executionId c.destination c.value

def IsLarge (c : Offloading) : Prop := c.settings.offloadThresholdBytes.toNat < c.value.size

instance (c : Offloading) : Decidable c.IsLarge := inferInstanceAs (Decidable (_ < _))

/-- Where the value is stored if it is large. -/
def place (c : Offloading) : Pointer :=
  ⟨c.settings.objectStoreContainer, Offload.key c.executionId c.destination c.value.render⟩

/-- What stays in the place of the value. -/
def answer (c : Offloading) : Json := if c.IsLarge then c.place.toJson else c.value

def all : List Offloading → EngineProgram (List Json)
  | [] => pure []
  | c :: rest => do
    let a ← c.program
    let more ← all rest
    pure (a :: more)

/-- The contents of the two calls do not collide. -/
def Apart (c d : Offloading) : Prop :=
  Digest.ofText c.value.render = Digest.ofText d.value.render → c.value.render = d.value.render

instance (c d : Offloading) : Decidable (Apart c d) := inferInstanceAs (Decidable (_ → _))

end Offloading

/-- Surroundings whose object store has what was put last. -/
structure KeepsObjects {σ : Type} (serve : (r : Request) → σ → Reply r × σ) (sound : σ → Prop)
    (look : σ → String → String → Option String) : Prop where
  put : ∀ container key text st, sound st →
    (serve (.putObject container key text) st).1 = .ok () ∧
      sound (serve (.putObject container key text) st).2 ∧
      ∀ c k, look (serve (.putObject container key text) st).2 c k =
        if c = container ∧ k = key then some text else look st c k
  get : ∀ container key text st, sound st → look st container key = some text →
    (serve (.getObject container key) st).1 = .ok text

namespace Offloading

section Runs

variable {σ : Type} {serve : (r : Request) → σ → Reply r × σ} {sound : σ → Prop}
  {look : σ → String → String → Option String}

/-- What the call moved, if anything, is where its answer says. -/
def Kept (look : σ → String → String → Option String) (st : σ) (c : Offloading) : Prop :=
  c.IsLarge → look st c.place.container c.place.key = some c.value.render

/-- The answer stands for the value of the call: a value that is not large stands for itself, a
large one has a pointer instead, and either hydrates to the value. -/
structure StandsFor (serve : (r : Request) → σ → Reply r × σ) (st : σ) (c : Offloading) (a : Json) :
    Prop where
  itself : a = c.value ↔ c.value.size ≤ c.settings.offloadThresholdBytes.toNat
  pointer : (∃ p : Pointer, a = p.toJson) ↔ c.settings.offloadThresholdBytes.toNat < c.value.size
  hydrates : (run serve (hydrate a).run st).1 = .ok c.value

theorem program_of_isLarge {c : Offloading} (hPlain : Pointer.ofJson? c.value = none)
    (hLarge : c.IsLarge) :
    c.program = (do
      EngineProgram.putObject c.place.container c.place.key c.value.render
      pure c.place.toJson) := by
  have hExceeds : ¬ c.value.render.utf8ByteSize ≤ c.settings.offloadThresholdBytes.toNat :=
    Nat.not_le.mpr hLarge
  simp only [program, offload, hPlain, hExceeds, if_false]
  rfl

theorem run_program (K : KeepsObjects serve sound look) {c : Offloading}
    (hPlain : Pointer.ofJson? c.value = none) {st : σ} (h : sound st) :
    ∃ st', run serve c.program.run st = (.ok c.answer, st') ∧ sound st' ∧
      ∀ x k, look st' x k =
        if c.IsLarge ∧ x = c.place.container ∧ k = c.place.key then some c.value.render
        else look st x k := by
  by_cases hLarge : c.IsLarge
  · obtain ⟨hDone, hAfter, hChanged⟩ := K.put c.place.container c.place.key c.value.render st h
    refine ⟨_, ?_, hAfter, fun x k => ?_⟩
    · rw [program_of_isLarge hPlain hLarge, answer, if_pos hLarge]
      exact run_bind_ok serve (Prod.ext hDone rfl)
    · simp only [hChanged, hLarge, true_and]
  · have hUnder : c.value.render.utf8ByteSize ≤ c.settings.offloadThresholdBytes.toNat :=
      Nat.not_lt.mp hLarge
    refine ⟨st, ?_, h, fun x k => ?_⟩
    · simp only [program, offload, hPlain, hUnder, if_true, answer, hLarge, if_false]
      rfl
    · simp only [hLarge, false_and, if_false]

/-- A call keeps what the calls before it moved: at the same place it writes the same content. -/
theorem Kept.step {c d : Offloading} (hApart : Apart c d) {st st' : σ}
    (hChanged : ∀ x k, look st' x k =
      if c.IsLarge ∧ x = c.place.container ∧ k = c.place.key then some c.value.render
      else look st x k)
    (hKept : Kept look st d) : Kept look st' d := by
  intro hLarge
  rw [hChanged]
  by_cases hSame : c.IsLarge ∧ d.place.container = c.place.container ∧ d.place.key = c.place.key
  · have hContent : c.value.render = d.value.render :=
      hApart (Offload.digest_eq_of_key_eq hSame.2.2.symm)
    rw [if_pos hSame, hContent]
  · rw [if_neg hSame]
    exact hKept hLarge

theorem run_all (K : KeepsObjects serve sound look) (calls : List Offloading)
    (hPlain : ∀ c ∈ calls, Pointer.ofJson? c.value = none) {st : σ} (h : sound st) :
    ∃ st', run serve (all calls).run st = (.ok (calls.map answer), st') ∧ sound st' ∧
      (∀ d, (∀ c ∈ calls, Apart c d) → Kept look st d → Kept look st' d) ∧
      ∀ d ∈ calls, (∀ c ∈ calls, Apart c d) → Kept look st' d := by
  induction calls generalizing st with
  | nil => exact ⟨st, rfl, h, fun _ _ hKept => hKept, fun d hMember => nomatch hMember⟩
  | cons c rest ih =>
    obtain ⟨first, hRan, hSound', hChanged⟩ := run_program K (hPlain c List.mem_cons_self) h
    obtain ⟨last, hRanRest, hSoundLast, hKeeps, hKeepsOwn⟩ :=
      ih (fun d hMember => hPlain d (List.mem_cons_of_mem _ hMember)) hSound'
    have hLater : ∀ d, (∀ e ∈ c :: rest, Apart e d) → ∀ e ∈ rest, Apart e d :=
      fun d hApart e hMember => hApart e (List.mem_cons_of_mem _ hMember)
    refine ⟨last, ?_, hSoundLast, ?_, ?_⟩
    · rw [all, run_bind_ok serve hRan, run_bind_ok serve hRanRest]
      rfl
    · intro d hApart hKept
      exact hKeeps d (hLater d hApart) (hKept.step (hApart c List.mem_cons_self) hChanged)
    · intro d hMember hApart
      rcases List.mem_cons.mp hMember with hSame | hMember
      · subst hSame
        have hOwn : Kept look first d := fun hLarge => by
          rw [hChanged, if_pos ⟨hLarge, rfl, rfl⟩]
        exact hKeeps d (hLater d hApart) hOwn
      · exact hKeepsOwn d hMember (hLater d hApart)

theorem mem_zip_map {calls : List Offloading} {e : Offloading × Json}
    (hMember : e ∈ calls.zip (calls.map answer)) : e.1 ∈ calls ∧ e.2 = e.1.answer := by
  rw [← List.map_prod_left_eq_zip, List.mem_map] at hMember
  obtain ⟨c, hCalled, rfl⟩ := hMember
  exact ⟨hCalled, rfl⟩

/-- Only a large value has a pointer for an answer, and it is the one to its place. -/
theorem pointer_of_answer {c : Offloading} (hPlain : Pointer.ofJson? c.value = none) {p : Pointer}
    (h : c.answer = p.toJson) : c.IsLarge ∧ p = c.place := by
  by_cases hLarge : c.IsLarge
  · rw [answer, if_pos hLarge] at h
    have hSame := congrArg Pointer.ofJson? h
    simp only [Pointer.ofJson?_toJson, Option.some.injEq] at hSame
    exact ⟨hLarge, hSame.symm⟩
  · rw [answer, if_neg hLarge] at h
    rw [h, Pointer.ofJson?_toJson] at hPlain
    cases hPlain

theorem getObject_kept (K : KeepsObjects serve sound look) {c : Offloading} (hLarge : c.IsLarge)
    {st : σ} (h : sound st) (hKept : Kept look st c) :
    (run serve (EngineProgram.getObject c.place.container c.place.key).run st).1 =
      .ok c.value.render :=
  K.get _ _ _ _ h (hKept hLarge)

theorem standsFor_answer (K : KeepsObjects serve sound look) {c : Offloading}
    (hPlain : Pointer.ofJson? c.value = none) (hReads : Json.parse c.value.render = some c.value)
    {st : σ} (h : sound st) (hKept : Kept look st c) : StandsFor serve st c c.answer := by
  by_cases hLarge : c.IsLarge
  · have hIsPointer : c.answer = c.place.toJson := if_pos hLarge
    have hExceeds : c.settings.offloadThresholdBytes.toNat < c.value.size := hLarge
    have hFetched := getObject_kept K hLarge h hKept
    rw [hIsPointer]
    refine ⟨⟨fun hSame => ?_, fun hUnder => ?_⟩, ⟨fun _ => hExceeds, fun _ => ⟨_, rfl⟩⟩, ?_⟩
    · rw [← hSame, Pointer.ofJson?_toJson] at hPlain
      cases hPlain
    · omega
    · rw [hydrate, Pointer.ofJson?_toJson]
      rw [run_bind_ok serve (Prod.ext hFetched rfl), hReads]
      rfl
  · have hIsValue : c.answer = c.value := if_neg hLarge
    have hUnder : ¬ c.settings.offloadThresholdBytes.toNat < c.value.size := hLarge
    rw [hIsValue]
    refine ⟨⟨fun _ => Nat.not_lt.mp hUnder, fun _ => rfl⟩,
      ⟨?_, fun hExceeds => absurd hExceeds hUnder⟩, ?_⟩
    · rintro ⟨p, hSame⟩
      rw [hSame, Pointer.ofJson?_toJson] at hPlain
      cases hPlain
    · rw [hydrate, hPlain]
      rfl

/-- What earlier calls moved is kept through the later ones. -/
theorem run_earlier_later (K : KeepsObjects serve sound look) {earlier later : List Offloading}
    (hPlain : ∀ c ∈ earlier ++ later, Pointer.ofJson? c.value = none)
    (hApart : ∀ c ∈ earlier ++ later, ∀ d ∈ earlier ++ later, Apart c d) {st : σ} (h : sound st) :
    ∃ between after,
      run serve (all earlier).run st = (.ok (earlier.map answer), between) ∧
      run serve (all later).run between = (.ok (later.map answer), after) ∧
      sound between ∧ sound after ∧ (∀ c ∈ earlier, Kept look between c) ∧
      ∀ c ∈ earlier ++ later, Kept look after c := by
  have hLeft : ∀ c ∈ earlier, c ∈ earlier ++ later := fun c => List.mem_append_left later
  have hRight : ∀ c ∈ later, c ∈ earlier ++ later := fun c => List.mem_append_right earlier
  obtain ⟨between, hRan, hSoundBetween, -, hOwn⟩ :=
    run_all K earlier (fun c hMember => hPlain c (hLeft c hMember)) h
  obtain ⟨after, hRanLater, hSoundAfter, hKeeps, hOwnLater⟩ :=
    run_all K later (fun c hMember => hPlain c (hRight c hMember)) hSoundBetween
  have hKept : ∀ c ∈ earlier, Kept look between c := fun c hMember =>
    hOwn c hMember fun d hOther => hApart d (hLeft d hOther) c (hLeft c hMember)
  refine ⟨between, after, hRan, hRanLater, hSoundBetween, hSoundAfter, hKept, ?_⟩
  intro c hMember
  have hUnlike : ∀ d ∈ later, Apart d c := fun d hOther => hApart d (hRight d hOther) c hMember
  rcases List.mem_append.mp hMember with hFirst | hSecond
  · exact hKeeps c hUnlike (hKept c hFirst)
  · exact hOwnLater c hSecond hUnlike

/-- Every answer stands for its value when it is given, and still does after any further calls; what
its pointer reads is the same then. -/
theorem answers_stand_for_values (K : KeepsObjects serve sound look)
    (earlier later : List Offloading)
    (hPlain : ∀ c ∈ earlier ++ later, Pointer.ofJson? c.value = none)
    (hReads : ∀ c ∈ earlier ++ later, Json.parse c.value.render = some c.value)
    (hApart : ∀ c ∈ earlier ++ later, ∀ d ∈ earlier ++ later, Apart c d) {st : σ} (h : sound st) :
    ∃ first between second after,
      run serve (all earlier).run st = (.ok first, between) ∧
      run serve (all later).run between = (.ok second, after) ∧
      first.length = earlier.length ∧ second.length = later.length ∧
      (∀ e ∈ earlier.zip first,
        StandsFor serve between e.1 e.2 ∧ StandsFor serve after e.1 e.2) ∧
      (∀ e ∈ later.zip second, StandsFor serve after e.1 e.2) ∧
      ∀ p : Pointer, p.toJson ∈ first → ∃ text,
        (run serve (EngineProgram.getObject p.container p.key).run between).1 = .ok text ∧
        (run serve (EngineProgram.getObject p.container p.key).run after).1 = .ok text := by
  obtain ⟨between, after, hRan, hRanLater, hSoundBetween, hSoundAfter, hKept, hKeptAfter⟩ :=
    run_earlier_later K hPlain hApart h
  have hStands : ∀ c ∈ earlier ++ later, StandsFor serve after c c.answer := fun c hMember =>
    standsFor_answer K (hPlain c hMember) (hReads c hMember) hSoundAfter (hKeptAfter c hMember)
  refine ⟨earlier.map answer, between, later.map answer, after, hRan, hRanLater,
    List.length_map answer, List.length_map answer, ?_, ?_, ?_⟩
  · intro e hMember
    obtain ⟨hCalled, hAnswered⟩ := mem_zip_map hMember
    have hAmong := List.mem_append_left later hCalled
    rw [hAnswered]
    exact ⟨standsFor_answer K (hPlain e.1 hAmong) (hReads e.1 hAmong) hSoundBetween
      (hKept e.1 hCalled), hStands e.1 hAmong⟩
  · intro e hMember
    obtain ⟨hCalled, hAnswered⟩ := mem_zip_map hMember
    rw [hAnswered]
    exact hStands e.1 (List.mem_append_right earlier hCalled)
  · intro p hMember
    obtain ⟨c, hCalled, hGiven⟩ := List.mem_map.mp hMember
    have hAmong := List.mem_append_left later hCalled
    obtain ⟨hLarge, rfl⟩ := pointer_of_answer (hPlain c hAmong) hGiven
    exact ⟨c.value.render, getObject_kept K hLarge hSoundBetween (hKept c hCalled),
      getObject_kept K hLarge hSoundAfter (hKeptAfter c hAmong)⟩

end Runs

def inMemory (h : Host) (container key : String) : Option String :=
  match h.objects with
  | .memory m => m.get? container key
  | _ => none

def IsSound (h : Host) : Prop :=
  (∃ m, h.objects = .memory m) ∧ h.faults.lookup .objectPut = none ∧
    h.faults.lookup .objectGet = none

theorem keepsObjects_inMemory : KeepsObjects Host.serve IsSound inMemory where
  put container key text h hSound := by
    obtain ⟨⟨m, hObjects⟩, hPuts, hGets⟩ := hSound
    simp only [Host.serve, Host.guarded, hPuts, Host.writeObject, hObjects]
    refine ⟨rfl, ⟨⟨_, rfl⟩, hPuts, hGets⟩, fun c k => ?_⟩
    simp only [inMemory, hObjects, ObjectMap.get?_put]
  get container key text h hSound hFound := by
    obtain ⟨⟨m, hObjects⟩, -, hGets⟩ := hSound
    simp only [inMemory, hObjects] at hFound
    simp only [Host.serve, Host.guarded, hGets, Host.readObject, hObjects, ObjectMap.get, hFound]
    rfl

def ofOrder (destination : String) (value : Json) : Offloading :=
  ⟨{ offloadThresholdBytes := 6 }, "order-7", destination, value⟩

def lines : List Offloading :=
  [ofOrder "$.order line" (.str "one box"), ofOrder "$.count" (.num (.int 1))]

def moreLines : List Offloading := [ofOrder "$.order_line" (.str "two boxes")]

/-- The boxes of both lines are stored in one folder, where only their digests keep them apart. -/
theorem lines_stand_for_values :
    Offload.destinationSegment "$.order line" = Offload.destinationSegment "$.order_line" ∧
    (∀ c ∈ lines ++ moreLines, Pointer.ofJson? c.value = none) ∧
    (∀ c ∈ lines ++ moreLines, Json.parse c.value.render = some c.value) ∧
    (∀ c ∈ lines ++ moreLines, ∀ d ∈ lines ++ moreLines, Apart c d) ∧
    ∃ first between second after,
      run Host.serve (all lines).run { clock := ⟨0, 0⟩ } = (.ok first, between) ∧
      run Host.serve (all moreLines).run between = (.ok second, after) ∧
      ∀ e ∈ lines.zip first, StandsFor Host.serve after e.1 e.2 := by
  have hPlain : ∀ c ∈ lines ++ moreLines, Pointer.ofJson? c.value = none := by decide
  have hReads : ∀ c ∈ lines ++ moreLines, Json.parse c.value.render = some c.value := by
    decide +kernel
  have hApart : ∀ c ∈ lines ++ moreLines, ∀ d ∈ lines ++ moreLines, Apart c d := by decide +kernel
  have hSound : IsSound { clock := ⟨0, 0⟩ } := ⟨⟨_, rfl⟩, rfl, rfl⟩
  obtain ⟨first, between, second, after, hRan, hRanMore, -, -, hStand, -, -⟩ :=
    answers_stand_for_values keepsObjects_inMemory lines moreLines hPlain hReads hApart hSound
  exact ⟨by decide, hPlain, hReads, hApart, first, between, second, after, hRan, hRanMore,
    fun e hMember => (hStand e hMember).2⟩

end Offloading

end Stepwise
