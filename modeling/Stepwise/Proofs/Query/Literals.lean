import Stepwise.Proofs.Query.Order

/-!
# Literals of queries

Where the literals of a query come from: a literal stands between backquotes, where it is parsed, or
between quotes, where it is a text. The reader of expressions takes them over as they are.
-/

namespace Stepwise.Query

set_option autoImplicit false

def Token.Normal : Token → Prop
  | .literal v => v.Normal
  | _ => True

namespace Token

theorem normal_mark? {c : Char} {t : Token} (h : mark? c = some t) : t.Normal := by
  unfold mark? at h
  split at h <;> cases h <;> trivial

theorem normal_loneMark? {c : Char} {t : Token} (h : loneMark? c = some t) : t.Normal := by
  unfold loneMark? at h
  split at h
  case h_7 => exact normal_mark? h
  all_goals cases h; trivial

theorem normal_doubleMark? {c d : Char} {t : Token} (h : doubleMark? c d = some t) : t.Normal := by
  unfold doubleMark? at h
  split at h <;> cases h <;> trivial

theorem normal_quotedName? {inside : List Char} {t : Token} (h : quotedName? inside = some t) :
    t.Normal := by
  unfold quotedName? at h
  split at h <;> cases h
  trivial

theorem normal_jsonLiteral? {inside : List Char} {t : Token} (h : jsonLiteral? inside = some t) :
    t.Normal := by
  obtain ⟨v, hRead, rfl⟩ := Option.map_eq_some_iff.mp h
  exact Json.normal_parse hRead

theorem normal_next? {c : Char} {rest : List Char}
    {p : Token × { r : List Char // r.length ≤ rest.length }} (h : next? c rest = some p) :
    p.1.Normal := by
  unfold next? at h
  split at h
  · cases h
    trivial
  · split at h
    · cases h
      trivial
    · split at h
      · split at h
        · split at h
          · cases h
            trivial
          · cases h
        · cases h
      · split at h
        · split at h
          · obtain ⟨t, hToken, rfl⟩ := Option.map_eq_some_iff.mp h
            split at hToken
            · exact normal_quotedName? hToken
            · split at hToken
              · cases hToken
                exact Json.normal_str _
              · exact normal_jsonLiteral? hToken
          · cases h
        · split at h
          · split at h
            · next t hFound =>
              cases h
              exact normal_doubleMark? hFound
            · obtain ⟨t, hFound, rfl⟩ := Option.map_eq_some_iff.mp h
              exact normal_loneMark? hFound
          · obtain ⟨t, hFound, rfl⟩ := Option.map_eq_some_iff.mp h
            exact normal_loneMark? hFound

theorem normal_scan {cs : List Char} {ts : List Token} (h : scan cs = some ts) :
    ∀ t ∈ ts, t.Normal := by
  induction cs using scan.induct generalizing ts with
  | case1 =>
    rw [scan] at h
    cases h
    intro t hAmong
    rw [List.mem_singleton.mp hAmong]
    trivial
  | case2 c rest hBlank ih =>
    rw [scan, if_pos hBlank] at h
    exact ih h
  | case3 c rest hVisible hNone =>
    rw [scan, if_neg hVisible] at h
    simp only [hNone] at h
    cases h
  | case4 c rest hVisible t more hShorter hFound _ ih =>
    rw [scan, if_neg hVisible] at h
    simp only [hFound] at h
    obtain ⟨us, hOthers, rfl⟩ := Option.map_eq_some_iff.mp h
    intro u hAmong
    rcases List.mem_cons.mp hAmong with rfl | hLater
    · exact normal_next? hFound
    · exact ih hOthers u hLater

end Token

/-- What is read has the property, and the tokens behind it hold literals in normal form. -/
def Yields {α : Type} (P : α → Prop) (read : Option (α × List Token)) : Prop :=
  ∀ a ts, read = some (a, ts) → P a ∧ ∀ t ∈ ts, t.Normal

section Yielding

variable {α β : Type} {P : α → Prop} {Q : β → Prop}

theorem yields_none : Yields P none := fun _ _ h => nomatch h

theorem yields_some {a : α} {ts : List Token} (ha : P a) (hts : ∀ t ∈ ts, t.Normal) :
    Yields P (some (a, ts)) := by
  rintro b us ⟨⟩
  exact ⟨ha, hts⟩

theorem Yields.map {read : Option (α × List Token)} {f : α → β} (h : Yields P read)
    (hf : ∀ a, P a → Q (f a)) : Yields Q (read.map fun p => (f p.1, p.2)) := by
  cases read with
  | none => exact yields_none
  | some p =>
    obtain ⟨ha, hts⟩ := h p.1 p.2 rfl
    exact yields_some (hf p.1 ha) hts

theorem tail_normal {t : Token} {ts : List Token} (h : ∀ u ∈ t :: ts, u.Normal) :
    ∀ u ∈ ts, u.Normal :=
  fun u hAmong => h u (List.mem_cons_of_mem t hAmong)

theorem optionalNumber_normal {ts : List Token} (h : ∀ t ∈ ts, t.Normal) :
    ∀ t ∈ (optionalNumber ts).2, t.Normal := by
  unfold optionalNumber
  split
  · exact tail_normal h
  · exact h

end Yielding

/-- Reading with so many steps gives expressions with literals in normal form. -/
structure ReadsNormal (steps : Nat) : Prop where
  expr : ∀ power ts, (∀ t ∈ ts, t.Normal) → Yields Expr.Normal (readExpr steps power ts)
  more : ∀ power left ts, left.Normal → (∀ t ∈ ts, t.Normal) →
    Yields Expr.Normal (readMore steps power left ts)
  operand : ∀ ts, (∀ t ∈ ts, t.Normal) → Yields Expr.Normal (readOperand steps ts)
  extension : ∀ left ts, left.Normal → (∀ t ∈ ts, t.Normal) →
    Yields Expr.Normal (readExtension steps left ts)
  comparison : ∀ op left ts, left.Normal → (∀ t ∈ ts, t.Normal) →
    Yields Expr.Normal (readComparison steps op left ts)
  member : ∀ power ts, (∀ t ∈ ts, t.Normal) → Yields Expr.Normal (readMember steps power ts)
  body : ∀ power ts, (∀ t ∈ ts, t.Normal) → Yields Expr.Normal (readBody steps power ts)
  items : ∀ source ts, source.Normal → (∀ t ∈ ts, t.Normal) →
    Yields Expr.Normal (readItems steps source ts)
  values : ∀ source ts, source.Normal → (∀ t ∈ ts, t.Normal) →
    Yields Expr.Normal (readValues steps source ts)
  flatten : ∀ source ts, source.Normal → (∀ t ∈ ts, t.Normal) →
    Yields Expr.Normal (readFlatten steps source ts)
  filter : ∀ source ts, source.Normal → (∀ t ∈ ts, t.Normal) →
    Yields Expr.Normal (readFilter steps source ts)
  index : ∀ ts, (∀ t ∈ ts, t.Normal) → Yields Expr.Normal (readIndex steps ts)
  list : ∀ closing read ts, (∀ e ∈ read, e.Normal) → (∀ t ∈ ts, t.Normal) →
    Yields ExprsNormal (readList steps closing read ts)
  hash : ∀ read ts, (∀ e ∈ read, e.2.Normal) → (∀ t ∈ ts, t.Normal) →
    Yields EntriesNormal (readHash steps read ts)

theorem readsNormal_zero : ReadsNormal 0 := by
  constructor <;> intros
    <;> simp only [readExpr, readMore, readOperand, readExtension, readComparison,
    readMember, readBody, readItems, readValues, readFlatten, readFilter, readIndex, readList,
    readHash] <;>
    exact yields_none

section Step

variable {steps : Nat} (ih : ReadsNormal steps) {ts : List Token} (h : ∀ t ∈ ts, t.Normal)

include ih h

theorem ReadsNormal.readExpr_succ (power : Nat) :
    Yields Expr.Normal (readExpr (steps + 1) power ts) := by
  unfold readExpr
  split
  · exact yields_none
  · next left rest hRead =>
    obtain ⟨hLeft, hRest⟩ := ih.operand ts h left rest hRead
    exact ih.more power left rest hLeft hRest

theorem ReadsNormal.readMore_succ (power : Nat) {left : Expr} (hLeft : left.Normal) :
    Yields Expr.Normal (readMore (steps + 1) power left ts) := by
  unfold readMore
  split
  · split
    · exact yields_none
    · next extended rest hRead =>
      obtain ⟨hExtended, hRest⟩ := ih.extension left ts hLeft h extended rest hRead
      exact ih.more power extended rest hExtended hRest
  · exact yields_some hLeft h

theorem ReadsNormal.readOperand_succ : Yields Expr.Normal (readOperand (steps + 1) ts) := by
  unfold readOperand
  split
  case h_1 | h_2 => exact yields_some trivial (tail_normal h)
  case h_3 =>
    split
    · exact yields_none
    · exact yields_some trivial (tail_normal h)
  case h_4 => exact yields_some (h _ List.mem_cons_self) (tail_normal h)
  case h_5 => exact ih.values _ _ trivial (tail_normal h)
  case h_6 => exact ih.flatten _ _ trivial (tail_normal h)
  case h_7 => exact ih.filter _ _ trivial (tail_normal h)
  case h_8 =>
    have hRest := tail_normal h
    split
    · exact ih.index _ hRest
    · exact ih.index _ hRest
    · exact ih.items _ _ trivial (tail_normal (tail_normal hRest))
    · exact (ih.list _ [] _ (by simp) hRest).map fun _ he => he
  case h_9 => exact (ih.hash [] _ (by simp) (tail_normal h)).map fun _ he => he
  case h_10 | h_11 => exact (ih.expr _ _ (tail_normal h)).map fun _ he => he
  case h_12 =>
    split
    · next e rest hRead =>
      obtain ⟨he, hRest'⟩ := ih.expr _ _ (tail_normal h) _ _ hRead
      exact yields_some he (tail_normal hRest')
    · exact yields_none
  case h_13 => exact yields_none

theorem ReadsNormal.readExtension_succ {left : Expr} (hLeft : left.Normal) :
    Yields Expr.Normal (readExtension (steps + 1) left ts) := by
  have hChained (e : Expr) (he : e.Normal) : Expr.Normal (.chain left e) := ⟨hLeft, he⟩
  unfold readExtension
  split
  case h_1 => exact ih.values _ _ hLeft (tail_normal (tail_normal h))
  case h_2 => exact (ih.member _ _ (tail_normal h)).map hChained
  case h_3 =>
    have hRest := tail_normal h
    split
    · exact (ih.index _ hRest).map hChained
    · exact (ih.index _ hRest).map hChained
    · exact ih.items _ _ hLeft (tail_normal (tail_normal hRest))
    · exact yields_none
  case h_4 | h_5 => exact (ih.expr _ _ (tail_normal h)).map fun _ he => ⟨hLeft, he⟩
  case h_6 => exact (ih.expr _ _ (tail_normal h)).map hChained
  case h_7 =>
    split
    · exact (ih.list _ [] _ (by simp) (tail_normal h)).map fun _ he => he
    · exact yields_none
  case h_8 => exact ih.flatten _ _ hLeft (tail_normal h)
  case h_9 => exact ih.filter _ _ hLeft (tail_normal h)
  case h_16 => exact yields_none
  all_goals exact ih.comparison _ _ _ hLeft (tail_normal h)

theorem ReadsNormal.readComparison_succ (op : Comparison) {left : Expr} (hLeft : left.Normal) :
    Yields Expr.Normal (readComparison (steps + 1) op left ts) := by
  unfold readComparison
  exact (ih.expr _ _ h).map fun _ he => ⟨hLeft, he⟩

theorem ReadsNormal.readMember_succ (power : Nat) :
    Yields Expr.Normal (readMember (steps + 1) power ts) := by
  unfold readMember
  split
  case h_1 => exact (ih.list _ [] _ (by simp) (tail_normal h)).map fun _ he => he
  case h_7 => exact yields_none
  all_goals exact ih.expr _ _ h

theorem ReadsNormal.readBody_succ (power : Nat) :
    Yields Expr.Normal (readBody (steps + 1) power ts) := by
  unfold readBody
  split
  · exact ih.member _ _ (tail_normal h)
  · exact ih.expr _ _ h
  · exact ih.expr _ _ h
  · split
    · exact yields_some trivial h
    · exact yields_none

/-- A body read behind the source gives a projection. -/
theorem ReadsNormal.projected {source : Expr} (hSource : source.Normal) (power : Nat) :
    Yields Expr.Normal ((readBody steps power ts).map fun p => (.project source p.1, p.2)) := by
  have hProjects (body : Expr) (hBody : body.Normal) : Expr.Normal (.project source body) :=
    ⟨hSource, hBody⟩
  exact (ih.body power ts h).map hProjects

theorem ReadsNormal.readItems_succ {source : Expr} (hSource : source.Normal) :
    Yields Expr.Normal (readItems (steps + 1) source ts) := by
  unfold readItems
  exact ih.projected h hSource _

theorem ReadsNormal.readValues_succ {source : Expr} (hSource : source.Normal) :
    Yields Expr.Normal (readValues (steps + 1) source ts) := by
  have hValues : Expr.Normal (.values source) := hSource
  unfold readValues
  exact ih.projected h hValues _

theorem ReadsNormal.readFlatten_succ {source : Expr} (hSource : source.Normal) :
    Yields Expr.Normal (readFlatten (steps + 1) source ts) := by
  have hFlattened : Expr.Normal (.flatten source) := hSource
  unfold readFlatten
  exact ih.projected h hFlattened _

theorem ReadsNormal.readIndex_succ : Yields Expr.Normal (readIndex (steps + 1) ts) := by
  have hSliced {start stop : Option Int} {step : Int} : Expr.Normal (.slice start stop step) :=
    trivial
  have hLater := optionalNumber_normal h
  unfold readIndex
  dsimp only
  split
  · next hFollows =>
    rw [hFollows] at hLater
    exact yields_some trivial (tail_normal hLater)
  · next hFollows =>
    rw [hFollows] at hLater
    have hSecond := optionalNumber_normal (tail_normal hLater)
    split
    · next hFollows =>
      rw [hFollows] at hSecond
      exact ih.projected (tail_normal hSecond) hSliced _
    · next hFollows =>
      rw [hFollows] at hSecond
      have hThird := optionalNumber_normal (tail_normal hSecond)
      split
      · next hFollows =>
        rw [hFollows] at hThird
        exact ih.projected (tail_normal hThird) hSliced _
      · exact yields_none
    · exact yields_none
  · exact yields_none

theorem ReadsNormal.readFilter_succ {source : Expr} (hSource : source.Normal) :
    Yields Expr.Normal (readFilter (steps + 1) source ts) := by
  unfold readFilter
  split
  · next test rest hRead =>
    obtain ⟨hTest, hRest⟩ := ih.expr _ _ h _ _ hRead
    have hFilters (body : Expr) (hBody : body.Normal) :
        Expr.Normal (.project source (.guarded test body)) := ⟨hSource, hTest, hBody⟩
    exact (ih.body _ _ (tail_normal hRest)).map hFilters
  · exact yields_none

theorem ReadsNormal.readList_succ (closing : Token) {read : List Expr}
    (hRead : ∀ e ∈ read, e.Normal) :
    Yields ExprsNormal (readList (steps + 1) closing read ts) := by
  have hMore {e : Expr} (he : e.Normal) : ∀ d ∈ e :: read, d.Normal :=
    List.forall_mem_cons.mpr ⟨he, hRead⟩
  unfold readList
  split
  · refine yields_some (exprsNormal_iff.mpr fun e hAmong => hRead e (List.mem_reverse.mp hAmong)) ?_
    exact fun t hAmong => h t (List.mem_of_mem_tail hAmong)
  · split
    · exact yields_none
    · next e rest hFound =>
      obtain ⟨he, hRest⟩ := ih.expr _ _ h _ _ hFound
      split
      · exact yields_none
      · exact ih.list _ _ _ (hMore he) (tail_normal hRest)
    · next e rest _ hFound =>
      obtain ⟨he, hRest⟩ := ih.expr _ _ h _ _ hFound
      exact ih.list _ _ _ (hMore he) hRest

theorem ReadsNormal.readHash_succ {read : List (String × Expr)} (hRead : ∀ e ∈ read, e.2.Normal) :
    Yields EntriesNormal (readHash (steps + 1) read ts) := by
  unfold readHash
  dsimp only
  split
  case h_3 => exact yields_none
  -- The name of an entry stands as it is or between quotes.
  case h_1 name rest | h_2 name rest =>
    have hMore {e : Expr} (he : e.Normal) : ∀ d ∈ (name, e) :: read, d.2.Normal :=
      List.forall_mem_cons.mpr ⟨he, hRead⟩
    have hLater := tail_normal (tail_normal h)
    split
    · next e rest hFound =>
      obtain ⟨he, hRest⟩ := ih.expr _ _ hLater _ _ hFound
      exact ih.hash _ _ (hMore he) (tail_normal hRest)
    · next e rest hFound =>
      obtain ⟨he, hRest⟩ := ih.expr _ _ hLater _ _ hFound
      refine yields_some (entriesNormal_iff.mpr fun d hAmong => ?_) (tail_normal hRest)
      exact hMore he d (List.mem_reverse.mp hAmong)
    · exact yields_none

end Step

theorem readsNormal (steps : Nat) : ReadsNormal steps := by
  induction steps with
  | zero => exact readsNormal_zero
  | succ steps ih =>
    exact {
      expr := fun power _ h => ih.readExpr_succ h power
      more := fun power _ _ hLeft h => ih.readMore_succ h power hLeft
      operand := fun _ h => ih.readOperand_succ h
      extension := fun _ _ hLeft h => ih.readExtension_succ h hLeft
      comparison := fun op _ _ hLeft h => ih.readComparison_succ h op hLeft
      member := fun power _ h => ih.readMember_succ h power
      body := fun power _ h => ih.readBody_succ h power
      items := fun _ _ hSource h => ih.readItems_succ h hSource
      values := fun _ _ hSource h => ih.readValues_succ h hSource
      flatten := fun _ _ hSource h => ih.readFlatten_succ h hSource
      filter := fun _ _ hSource h => ih.readFilter_succ h hSource
      index := fun _ h => ih.readIndex_succ h
      list := fun closing _ _ hRead h => ih.readList_succ h closing hRead
      hash := fun _ _ hRead h => ih.readHash_succ h hRead }

/-- The literals of an expression read from a text are in normal form. -/
theorem Expr.normal_ofText? {text : String} {e : Expr} (h : Expr.ofText? text = some e) :
    e.Normal := by
  obtain ⟨ts, hScanned, hRead⟩ := Option.bind_eq_some_iff.mp h
  unfold ofTokens? at hRead
  split at hRead
  · next hFound =>
    cases hRead
    exact ((readsNormal _).expr 0 ts (Token.normal_scan hScanned) _ _ hFound).1
  · cases hRead

end Stepwise.Query
