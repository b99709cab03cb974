import Mathlib.Logic.Relation
import Stepwise.Engine.Output
import Stepwise.Proofs.Expression.Walk
import Stepwise.Proofs.Program.Reach

/-!
# Where an output is written

The keys of the context under which an output is written: a destination has one of them, and at `$`
the fields of an object are written under their own names. Every other key keeps what it holds.
-/

namespace Stepwise

set_option autoImplicit false

open Program

theorem Text.head?_splitAt (separator : Char) (cs : List Char) :
    (splitAt separator cs).head? = some (cs.takeWhile fun c => decide (c ≠ separator)) := by
  induction cs with
  | nil => rfl
  | cons c rest ih =>
    by_cases hSame : c = separator
    · simp [splitAt, hSame]
    · cases hParts : splitAt separator rest with
      | nil => exact absurd hParts (splitAt_ne_nil separator rest)
      | cons part more =>
        rw [hParts, List.head?_cons, Option.some.injEq] at ih
        simp [splitAt, hSame, hParts, ih]

namespace Output

/-- The first name of a destination, without a leading `$.`. -/
def firstName (destination : String) : String :=
  String.ofList ((Offload.plainDestination destination.toList).takeWhile fun c => decide (c ≠ '.'))

/-- The keys that an output can be written under. -/
inductive Touches (mappings : Dict Json) (output : Json) (key : String) : Prop where
  | destination {destination : String} {mapping : Json}
    (hMapped : (destination, mapping) ∈ mappings)
      (hBelow : destination ≠ "$") (hFirst : key = firstName destination)
  | field {mapping : Json} {fields : Dict Json} (hMapped : ("$", mapping) ∈ mappings)
      (hTaken : source output mapping = pure (.value (.obj fields))) (hAmong : key ∈ fields.keys)

theorem Touches.later {e : String × Json} {rest : Dict Json} {output : Json} {key : String}
    (h : Touches rest output key) : Touches (e :: rest) output key := by
  cases h with
  | destination hMapped hBelow hFirst =>
    exact .destination (List.mem_cons_of_mem _ hMapped) hBelow hFirst
  | field hMapped hTaken hAmong => exact .field (List.mem_cons_of_mem _ hMapped) hTaken hAmong

theorem names?_eq_some {destination : String} {names : List String}
    (h : names? destination = some names) :
    names.head? = some (firstName destination) := by
  simp only [names?] at h
  split at h
  · cases h
  · cases h
    rw [List.head?_map, Text.head?_splitAt]
    rfl

theorem get?_setAt {names : List String} {first key : String} (hBegins : names.head? = some first)
    (hApart : key ≠ first) (v : Json) (d : Dict Json) :
    (setAt names v d).get? key = d.get? key := by
  cases names with
  | nil => cases hBegins
  | cons name rest =>
    cases hBegins
    cases rest with
    | nil => exact Dict.get?_insert_of_ne d v hApart
    | cons next rest => exact Dict.get?_insert_of_ne d _ hApart

section Taking

/-- Resolving without looking behind pointers asks for nothing. -/
theorem resolve_eq_ofExcept (expr : String) (document : Json) :
    ∃ resolved, resolve expr document false = EngineProgram.ofExcept resolved := by
  unfold resolve
  split
  · split
    · exact ⟨.ok _, Path.walk_false _ document⟩
    · cases search expr document with
      | error e => exact ⟨.error e, rfl⟩
      | ok r =>
        cases r with
        | undefined => exact ⟨.ok .undefined, rfl⟩
        | value v => exact ⟨.ok (.value v), rfl⟩
  · exact ⟨.ok _, rfl⟩

theorem source_eq_ofExcept (output mapping : Json) :
    ∃ taken, source output mapping = EngineProgram.ofExcept taken := by
  unfold source
  split
  · split
    · exact resolve_eq_ofExcept _ output
    · exact ⟨.ok _, rfl⟩
  · exact ⟨.ok _, rfl⟩

theorem source_eq_pure {allowed : Allowed} {output mapping : Json} {r : Resolved}
    (h : ReachesUnder allowed (source output mapping).run (.ok r)) :
    source output mapping = pure r := by
  obtain ⟨taken, hSame⟩ := source_eq_ofExcept output mapping
  rw [hSame, EngineProgram.reachesUnder_ofExcept] at h
  rw [hSame, ← h]
  rfl

end Taking

section Writing

variable {allowed : Allowed} {s : Settings} {executionId : String} {output : Json}
  {given : Dict Json} {context : Dict Json} {w : Written}

/-- One change of the context while an output is written through mappings: a value taken from the
output stands, as it is stored, under a name at the top or at the path of a destination. -/
inductive Puts (allowed : Allowed) (s : Settings) (executionId : String) (output : Json)
    (given : Dict Json) (context : Dict Json) : Dict Json → Prop where
  | field {mapping : Json} {fields : Dict Json} {name : String} {v stored : Json}
      (hMapped : ("$", mapping) ∈ given)
      (hTaken : ReachesUnder allowed (source output mapping).run (.ok (.value (.obj fields))))
      (hAmong : (name, v) ∈ fields)
      (hOffloaded : ReachesUnder allowed (offload s executionId name v).run (.ok stored)) :
      Puts allowed s executionId output given context (context.insert name stored)
  | path {destination : String} {mapping v stored : Json} {names : List String}
      (hMapped : (destination, mapping) ∈ given) (hBelow : destination ≠ "$")
      (hTaken : ReachesUnder allowed (source output mapping).run (.ok (.value v)))
      (hOffloaded : ReachesUnder allowed (offload s executionId destination v).run (.ok stored))
      (hNamed : names? destination = some names) :
      Puts allowed s executionId output given context (setAt names stored context)

abbrev Writes (allowed : Allowed) (s : Settings) (executionId : String) (output : Json)
    (given before after : Dict Json) : Prop :=
  Relation.ReflTransGen (Puts allowed s executionId output given) before after

theorem writeFields_writes {mapping : Json} {all : Dict Json} (hMapped : ("$", mapping) ∈ given)
    (hTaken : ReachesUnder allowed (source output mapping).run (.ok (.value (.obj all))))
    {fields : List (String × Json)} (hAmong : ∀ e ∈ fields, e ∈ all)
    (h : ReachesUnder allowed (writeFields s executionId fields context) w) :
    Writes allowed s executionId output given context w.context := by
  induction fields generalizing context with
  | nil => exact reachesUnder_pure.mp h ▸ .refl
  | cons field rest ih =>
    obtain ⟨hHere, hLater⟩ := List.forall_mem_cons.mp hAmong
    obtain ⟨between, hFirst, h⟩ := reachesUnder_bind.mp h
    have hWrote : Writes allowed s executionId output given context between.context := by
      obtain ⟨stored, hOffloaded, hFirst⟩ := reachesUnder_bind.mp hFirst
      cases stored with
      | error e => exact reachesUnder_pure.mp hFirst ▸ .refl
      | ok stored =>
        exact reachesUnder_pure.mp hFirst ▸ .single (.field hMapped hTaken hHere hOffloaded)
    split at h
    · exact hWrote.trans (ih hLater h)
    · exact reachesUnder_pure.mp h ▸ hWrote

theorem writePath_writes {destination : String} {mapping v : Json}
    (hMapped : (destination, mapping) ∈ given) (hBelow : destination ≠ "$")
    (hTaken : ReachesUnder allowed (source output mapping).run (.ok (.value v)))
    (h : ReachesUnder allowed (writePath s executionId destination v context) w) :
    Writes allowed s executionId output given context w.context := by
  obtain ⟨stored, hOffloaded, h⟩ := reachesUnder_bind.mp h
  cases stored with
  | error e => exact reachesUnder_pure.mp h ▸ .refl
  | ok stored =>
    dsimp only at h
    split at h
    · next names hNamed =>
      exact reachesUnder_pure.mp h ▸ .single (.path hMapped hBelow hTaken hOffloaded hNamed)
    · exact reachesUnder_pure.mp h ▸ .refl

theorem writeValue_writes {destination : String} {mapping v : Json}
    (hMapped : (destination, mapping) ∈ given)
    (hTaken : ReachesUnder allowed (source output mapping).run (.ok (.value v)))
    (h : ReachesUnder allowed (writeValue s executionId destination v context) w) :
    Writes allowed s executionId output given context w.context := by
  unfold writeValue at h
  split at h
  · next hAtRoot =>
    subst hAtRoot
    split at h
    · exact writeFields_writes hMapped hTaken (fun _ hAmong => hAmong) h
    · exact reachesUnder_pure.mp h ▸ .refl
  · next hBelow => exact writePath_writes hMapped hBelow hTaken h

theorem write_writes {mappings : List (String × Json)} (hAmong : ∀ e ∈ mappings, e ∈ given)
    (h : ReachesUnder allowed (write s executionId output mappings context) w) :
    Writes allowed s executionId output given context w.context := by
  induction mappings generalizing context with
  | nil => exact reachesUnder_pure.mp h ▸ .refl
  | cons entry rest ih =>
    obtain ⟨destination, mapping⟩ := entry
    obtain ⟨hHere, hLater⟩ := List.forall_mem_cons.mp hAmong
    obtain ⟨r, hTaken, h⟩ := reachesUnder_bind.mp h
    match r with
    | .error e => exact reachesUnder_pure.mp h ▸ .refl
    | .ok .undefined => exact ih hLater h
    | .ok (.value v) =>
      obtain ⟨between, hFirst, h⟩ := reachesUnder_bind.mp h
      have hWrote := writeValue_writes hHere hTaken hFirst
      split at h
      · exact hWrote.trans (ih hLater h)
      · exact reachesUnder_pure.mp h ▸ hWrote

theorem apply_writes {mappings written : Dict Json}
    (h : ReachesUnder allowed (apply s executionId mappings output context).run (.ok written)) :
    Writes allowed s executionId output mappings context written := by
  obtain ⟨w, hWrote, h⟩ := reachesUnder_bind.mp h
  have hWrites := write_writes (fun _ hAmong => hAmong) hWrote
  rw [reachesUnder_pure] at h
  split at h
  · cases h
    exact hWrites
  · cases h

theorem Puts.keeps {key : String} {after : Dict Json} (hApart : ¬ Touches given output key)
    (h : Puts allowed s executionId output given context after) :
    after.get? key = context.get? key := by
  cases h with
  | field hMapped hTaken hAmong hOffloaded =>
    refine Dict.get?_insert_of_ne context _ fun hSame => hApart ?_
    exact .field hMapped (source_eq_pure hTaken) (hSame ▸ List.mem_map_of_mem hAmong)
  | path hMapped hBelow hTaken hOffloaded hNamed =>
    exact get?_setAt (names?_eq_some hNamed)
      (fun hSame => hApart (.destination hMapped hBelow hSame)) _ context

/-- What is written through mappings leaves every key that it does not touch. -/
theorem apply_keeps {key : String} {mappings written : Dict Json}
    (hApart : ¬ Touches mappings output key)
    (h : ReachesUnder allowed (apply s executionId mappings output context).run (.ok written)) :
    written.get? key = context.get? key := by
  have hWrites := apply_writes h
  clear h
  induction hWrites with
  | refl => rfl
  | tail _ hPut hKept => exact (hPut.keeps hApart).trans hKept

end Writing

end Output

end Stepwise
