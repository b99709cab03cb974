import Stepwise.Expression.Condition
import Stepwise.Proofs.Text.Runs

/-!
# Scanning conditions

Scanning a condition. Both scans, for `&&` and for comparison marks, stop only outside of quotes and
brackets. A text that leaves no quote and no bracket open, and has nothing outside of them at which
a scan stops, is passed as a whole.
-/

namespace Stepwise

set_option autoImplicit false

namespace Condition

namespace Scan

def isQuote (c : Char) : Bool := c = '\x27' || c = '\x22'

def isBracket (c : Char) : Bool := c = '[' || c = '(' || c = ']' || c = ')'

/-- What opens and closes quotes is a quote. -/
def Sound (s : Scan) : Prop := ∀ q ∈ s.quote, isQuote q = true

/-- Where a scan stands after a text. -/
def after (s : Scan) (cs : List Char) : Scan := cs.foldl step s

/-- No character outside of quotes and brackets is one at which the scan stops. -/
def Avoids (stop : Char → Bool) : Scan → List Char → Prop
  | _, [] => True
  | s, c :: rest => (s.isOutside = true → stop c = false) ∧ Avoids stop (s.step c) rest

/-- The scan passes the text, and stands behind it as in front of it. -/
structure Passes (stop : Char → Bool) (s : Scan) (cs : List Char) : Prop where
  closed : s.after cs = s
  avoids : s.Avoids stop cs

variable {stop : Char → Bool} {s : Scan} {cs more : List Char}

theorem sound_start : Sound {} := by simp [Sound]

theorem Sound.step (h : s.Sound) (c : Char) : (s.step c).Sound := by
  unfold Scan.step
  split
  · split
    · simp [Sound]
    · exact h
  · split
    · rename_i hQuote
      rintro q ⟨⟩
      simpa [isQuote] using hQuote
    · split
      · exact h
      · split
        · exact h
        · exact h

theorem Sound.step_of_not (h : s.Sound) {c : Char} (hQuote : isQuote c = false)
    (hBracket : isBracket c = false) : s.step c = s := by
  simp only [isQuote, Bool.or_eq_false_iff, decide_eq_false_iff_not] at hQuote
  simp only [isBracket, Bool.or_eq_false_iff, decide_eq_false_iff_not] at hBracket
  cases hInside : s.quote with
  | none => simp [Scan.step, hInside, hQuote, hBracket]
  | some q =>
    have hDiffers : c ≠ q := by
      have hOpened := h q hInside
      simp only [isQuote, Bool.or_eq_true, decide_eq_true_eq] at hOpened
      rcases hOpened with rfl | rfl
      · exact hQuote.1
      · exact hQuote.2
    simp [Scan.step, hInside, hDiffers]

theorem after_append (s : Scan) (cs more : List Char) :
    s.after (cs ++ more) = (s.after cs).after more := List.foldl_append

theorem avoids_append :
    s.Avoids stop (cs ++ more) ↔ s.Avoids stop cs ∧ (s.after cs).Avoids stop more := by
  induction cs generalizing s with
  | nil => exact ⟨fun h => ⟨trivial, h⟩, fun h => h.2⟩
  | cons c rest ih =>
    rw [List.cons_append, Avoids, ih, Avoids, and_assoc]
    rfl

namespace Passes

theorem nil : Passes stop s [] := ⟨rfl, trivial⟩

theorem append (hFirst : Passes stop s cs) (hSecond : Passes stop s more) :
    Passes stop s (cs ++ more) := by
  constructor
  · rw [after_append, hFirst.closed, hSecond.closed]
  · rw [avoids_append, hFirst.closed]
    exact ⟨hFirst.avoids, hSecond.avoids⟩

theorem cons {c : Char} (hStays : s.step c = s) (hGo : s.isOutside = true → stop c = false)
    (hRest : Passes stop s cs) : Passes stop s (c :: cs) := by
  constructor
  · show (s.step c).after cs = s
    rw [hStays, hRest.closed]
  · rw [Avoids, hStays]
    exact ⟨hGo, hRest.avoids⟩

theorem mono {fewer : Char → Bool} (h : ∀ c, fewer c = true → stop c = true)
    (hPasses : Passes stop s cs) : Passes fewer s cs := by
  refine ⟨hPasses.closed, ?_⟩
  have hAvoids := hPasses.avoids
  clear hPasses
  induction cs generalizing s with
  | nil => trivial
  | cons c rest ih =>
    refine ⟨fun hOutside => ?_, ih hAvoids.2⟩
    have hGoes := hAvoids.1 hOutside
    cases hStops : fewer c with
    | false => rfl
    | true => rw [h c hStops] at hGoes; cases hGoes

theorem of_plain (hSound : s.Sound)
    (hPlain : ∀ c ∈ cs, isQuote c = false ∧ isBracket c = false ∧ stop c = false) :
    Passes stop s cs := by
  induction cs with
  | nil => exact nil
  | cons c rest ih =>
    obtain ⟨hQuote, hBracket, hGo⟩ := hPlain c List.mem_cons_self
    exact cons (hSound.step_of_not hQuote hBracket) (fun _ => hGo)
      (ih fun d hMember => hPlain d (List.mem_cons_of_mem _ hMember))

theorem inside {q : Char} (hQuote : s.quote = some q) (hAbsent : q ∉ cs) : Passes stop s cs := by
  have hInQuotes : s.isOutside = false := by simp [isOutside, hQuote]
  induction cs with
  | nil => exact nil
  | cons c rest ih =>
    have hDiffers : c ≠ q := (List.ne_of_not_mem_cons hAbsent).symm
    refine cons ?_ (fun hOutside => ?_) (ih (List.not_mem_of_not_mem_cons hAbsent))
    · simp [Scan.step, hQuote, hDiffers]
    · rw [hInQuotes] at hOutside
      cases hOutside

theorem quoted {q : Char} (hOutside : s.quote = none) (hOpens : isQuote q = true) (hAbsent : q ∉ cs)
    (hGo : stop q = false) : Passes stop s (q :: (cs ++ [q])) := by
  let t : Scan := { s with quote := some q }
  have hOpened : s.step q = t := by
    simp only [isQuote, Bool.or_eq_true, decide_eq_true_eq] at hOpens
    simp [Scan.step, hOutside, hOpens, t]
  have hClosed : t.step q = s := by
    obtain ⟨depth, quote⟩ := s
    cases hOutside
    simp [Scan.step, t]
  have hWithin : Passes stop t cs := inside rfl hAbsent
  constructor
  · show (s.step q).after (cs ++ [q]) = s
    rw [hOpened, after_append, hWithin.closed]
    exact hClosed
  · rw [Avoids, hOpened, avoids_append, hWithin.closed]
    exact ⟨fun _ => hGo, hWithin.avoids, fun _ => hGo, trivial⟩

theorem bracketed (hOutside : s.quote = none) (hGo : stop '[' = false) (hGo' : stop ']' = false)
    (hWithin : Passes stop { s with depth := s.depth + 1 } cs) :
    Passes stop s ('[' :: (cs ++ [']'])) := by
  have hOpened : s.step '[' = { s with depth := s.depth + 1 } := by
    simp [Scan.step, hOutside]
  have hClosed : ({ s with depth := s.depth + 1 } : Scan).step ']' = s := by
    obtain ⟨depth, quote⟩ := s
    cases hOutside
    simp [Scan.step]
  constructor
  · show (s.step '[').after (cs ++ [']']) = s
    rw [hOpened, after_append, hWithin.closed]
    exact hClosed
  · rw [Avoids, hOpened, avoids_append, hWithin.closed]
    exact ⟨fun _ => hGo, hWithin.avoids, fun _ => hGo', trivial⟩

end Passes

end Scan

theorem conjuncts_ne_nil (s : Scan) (cs : List Char) : conjuncts s cs ≠ [] := by
  unfold conjuncts
  split
  · simp
  · split
    · simp
    · split <;> simp
  · split <;> simp

theorem conjuncts_cons {s : Scan} (hSound : s.Sound) {c : Char} (hGo : s.isOutside = true → c ≠ '&')
    (rest : List Char) :
    conjuncts s (c :: rest) = (conjuncts (s.step c) rest).modifyHead (c :: ·) := by
  rw [conjuncts.eq_def]
  split
  · contradiction
  · rename_i s _ _ more hSame
    cases hSame
    -- within quotes and brackets the scan takes one `&` and looks at the next again
    have hInside : ¬ s.isOutside = true := fun hOutside => hGo hOutside rfl
    rw [if_neg hInside, hSound.step_of_not rfl rfl]
    split
    · exact absurd ‹_› (conjuncts_ne_nil _ _)
    · rename_i hFirst
      rw [hFirst, List.modifyHead_cons]
  · rename_i hSame
    cases hSame
    split
    · exact absurd ‹_› (conjuncts_ne_nil _ _)
    · rename_i hFirst
      rw [hFirst, List.modifyHead_cons]

/-- A text in which no `&` stands outside is no place to split. -/
theorem conjuncts_append {s : Scan} (hSound : s.Sound) {cs : List Char}
    (hAvoids : s.Avoids (· = '&') cs) (more : List Char) :
    conjuncts s (cs ++ more) = (conjuncts (s.after cs) more).modifyHead (cs ++ ·) := by
  induction cs generalizing s with
  | nil =>
    cases hParts : conjuncts s more with
    | nil => simp [Scan.after, hParts]
    | cons part parts' => simp [Scan.after, hParts]
  | cons c rest ih =>
    have hGo : s.isOutside = true → c ≠ '&' :=
      fun hOutside => of_decide_eq_false (hAvoids.1 hOutside)
    rw [List.cons_append, conjuncts_cons hSound hGo, ih (hSound.step c) hAvoids.2]
    show List.modifyHead _ (List.modifyHead _ (conjuncts ((s.step c).after rest) more)) = _
    rw [List.modifyHead_modifyHead]
    rfl

theorem comparison?_append {s : Scan} {cs : List Char} (hAvoids : s.Avoids Operator.isMark cs)
    (more : List Char) :
    comparison? s (cs ++ more) = (comparison? (s.after cs) more).map fun p => (cs ++ p.1, p.2) := by
  induction cs generalizing s with
  | nil => simp [Scan.after]
  | cons c rest ih =>
    have hGoes : ¬ (s.isOutside = true ∧ Operator.isMark c = true) := by
      rintro ⟨hOutside, hMark⟩
      rw [hAvoids.1 hOutside] at hMark
      cases hMark
    rw [List.cons_append, comparison?, if_neg hGoes, ih hAvoids.2]
    simp [Scan.after, Option.map_map, Function.comp_def]

def stops (c : Char) : Bool := c = '&' || Operator.isMark c

def signs : List Char :=
  ['\x27', '\x22', '[', '(', ']', ')', '&', '<', '>', '=', '!', '~']

/-- A character that means nothing to a scan. -/
def isPlain (c : Char) : Bool := !Scan.isQuote c && !Scan.isBracket c && !stops c

theorem isPlain_of_class {p : Char → Bool} (hApart : signs.all (fun d => !p d) = true) {c : Char}
    (h : p c = true) : isPlain c = true := by
  have hOther : c ∉ signs := by
    intro hMember
    have hSame := List.all_eq_true.mp hApart c hMember
    rw [h] at hSame
    cases hSame
  simp only [signs, List.mem_cons, List.not_mem_nil, or_false, not_or] at hOther
  simp [isPlain, Scan.isQuote, Scan.isBracket, stops, Operator.isMark, hOther]

theorem isMark_of_isPlain {c : Char} (h : isPlain c = true) : Operator.isMark c = false := by
  simp only [isPlain, stops, Bool.and_eq_true, Bool.not_eq_true', Bool.or_eq_false_iff] at h
  exact h.2.2

namespace Scan.Passes

theorem of_isPlain {s : Scan} (hSound : s.Sound) {cs : List Char} (h : ∀ c ∈ cs, isPlain c = true) :
    Passes stops s cs := by
  refine .of_plain hSound fun c hMember => ?_
  have hPlain := h c hMember
  simp only [isPlain, Bool.and_eq_true, Bool.not_eq_true'] at hPlain
  exact ⟨hPlain.1.1, hPlain.1.2, hPlain.2⟩

theorem of_isMark {cs : List Char} (h : ∀ c ∈ cs, Operator.isMark c = true) :
    Passes (· = '&') {} cs := by
  refine .of_plain sound_start fun c hMember => ?_
  have hMark := h c hMember
  simp only [Operator.isMark, Bool.or_eq_true, decide_eq_true_eq, or_assoc] at hMark
  rcases hMark with rfl | rfl | rfl | rfl | rfl <;> exact ⟨rfl, rfl, rfl⟩

theorem ampersands {cs : List Char} (h : Passes stops {} cs) : Passes (· = '&') {} cs :=
  h.mono fun c hStop => by simp [stops, of_decide_eq_true hStop]

theorem marks {cs : List Char} (h : Passes stops {} cs) : Passes Operator.isMark {} cs :=
  h.mono fun c hStop => by simp [stops, hStop]

end Scan.Passes

theorem conjuncts_of_passes {cs : List Char} (hPasses : Scan.Passes (· = '&') {} cs)
    (more : List Char) :
    conjuncts {} (cs ++ '&' :: '&' :: more) = cs :: conjuncts {} more := by
  have hSplit : conjuncts {} ('&' :: '&' :: more) = [] :: conjuncts {} more := rfl
  rw [conjuncts_append Scan.sound_start hPasses.avoids, hPasses.closed, hSplit]
  simp

theorem conjuncts_of_passes_all {cs : List Char} (hPasses : Scan.Passes (· = '&') {} cs) :
    conjuncts {} cs = [cs] := by
  have hScanned := conjuncts_append Scan.sound_start hPasses.avoids []
  rw [List.append_nil, hPasses.closed] at hScanned
  rw [hScanned]
  simp [conjuncts]

theorem comparison?_of_passes {left marks right : List Char}
    (hPasses : Scan.Passes Operator.isMark {} left) (hNonempty : marks ≠ [])
    (hAreMarks : ∀ c ∈ marks, Operator.isMark c = true) (hEnds : Text.Ends Operator.isMark right) :
    comparison? {} (left ++ (marks ++ right)) = .some (left, marks, right) := by
  obtain ⟨c, rest, rfl⟩ := List.exists_cons_of_ne_nil hNonempty
  have hStopped : comparison? {} (c :: rest ++ right) = .some ([], c :: rest, right) := by
    rw [List.cons_append, comparison?, if_pos ⟨rfl, hAreMarks c List.mem_cons_self⟩,
      ← List.cons_append, Text.takeWhile_run hAreMarks hEnds, Text.dropWhile_run hAreMarks hEnds]
  rw [comparison?_append hPasses.avoids, hPasses.closed, hStopped]
  simp

theorem comparison?_of_passes_all {cs : List Char} (hPasses : Scan.Passes Operator.isMark {} cs) :
    comparison? {} cs = none := by
  have hScanned := comparison?_append hPasses.avoids []
  rw [List.append_nil] at hScanned
  rw [hScanned]
  rfl

end Condition

end Stepwise
