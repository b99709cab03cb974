import Stepwise.Proofs.Program.Repetition
import Stepwise.Proofs.Provenance.Runs
import Stepwise.Proofs.Provenance.Wording

/-!
# What a run reads

A program that is alone at work goes on to its end against a shelf that began empty, so runs can be
followed; and no run reads a place that is not known.
-/

namespace Stepwise

set_option autoImplicit false

open Program

namespace Stage

section Alone

variable {s : Settings} {words : Words} {vouched : Pointer → Prop} {f : Flow} {log : List Exchange}
  {states : List ExecutionState} {p : Program (List ExecutionState)} {objects : Objects}

/-- The stored objects were put during the run. -/
def Stocked (log : List Exchange) (objects : Objects) : Prop :=
  ∀ container key content, objects container key = some content →
    ∃ done, (⟨.putObject container key content, done⟩ : Exchange) ∈ log

theorem served_shelf (hHonest : f.Honest words vouched) (hNamed : words.text "execution")
    (hStocked : Stocked log objects) (r : Request) :
    Served words vouched log r (shelf f r objects).1 := by
  cases r with
  | getObject container key =>
    intro content hSame
    refine hStocked container key content ?_
    unfold shelf at hSame
    dsimp only at hSame
    split at hSame
    · next hFound => exact hFound.trans (congrArg some (Except.ok.inj hSame))
    · cases hSame
  | putObject => trivial
  | findFlow id version =>
    intro flow hSame
    cases hSame
    exact hHonest.mono fun _ => .inl
  | callHandler moduleId request =>
    intro answer hSame
    cases hSame
    exact Json.every_null
  | invokeRemote registration request => exact nofun
  | freshId => exact hNamed
  | _ => trivial

theorem Stocked.serve (hStocked : Stocked log objects) (r : Request) :
    Stocked (log ++ [⟨r, (shelf f r objects).1⟩]) (shelf f r objects).2 := by
  intro container key content hFound
  have hEarlier (hOld : objects container key = some content) :
      ∃ done, (⟨.putObject container key content, done⟩ : Exchange) ∈ log ++
        [⟨r, (shelf f r objects).1⟩] := by
    obtain ⟨done, hAmong⟩ := hStocked container key content hOld
    exact ⟨done, List.mem_append_left _ hAmong⟩
  cases r with
  | putObject c k stored =>
    dsimp only [shelf] at hFound
    split at hFound
    · next hSame =>
      obtain ⟨rfl, rfl⟩ := hSame
      cases hFound
      exact ⟨_, List.mem_append_right _ (List.mem_singleton_self _)⟩
    · exact hEarlier hFound
  | _ => exact hEarlier hFound

/-- A program that is alone at work goes on to its end. -/
theorem ends (hReached : Reached s words vouched ⟨log, states, [p]⟩)
    (hHonest : f.Honest words vouched) (hNamed : words.text "execution")
    (hStocked : Stocked log objects) :
    Reached s words vouched
        ⟨log ++ exchanged (shelf f) p objects, (run (shelf f) p objects).1 ++ states, []⟩ ∧
      Stocked (log ++ exchanged (shelf f) p objects) (run (shelf f) p objects).2 := by
  induction p generalizing log objects with
  | done left =>
    have hRests :
        Step s words vouched ⟨log, states, [] ++ .done left :: []⟩ ⟨log, left ++ states, []⟩ :=
          .rest
    rw [exchanged, List.append_nil]
    exact ⟨hReached.tail hRests, hStocked⟩
  | ask r next ih =>
    have hReplied : Step s words vouched ⟨log, states, [] ++ .ask r next :: []⟩
        ⟨log ++ [⟨r, (shelf f r objects).1⟩], states, [] ++ next _ :: []⟩ :=
      .reply (served_shelf hHonest hNamed hStocked r)
    obtain ⟨hLater, hKept⟩ := ih _ (hReached.tail hReplied) (hStocked.serve r)
    rw [List.append_assoc] at hLater hKept
    exact ⟨hLater, hKept⟩

end Alone

def started (context : Dict Json) : StartMessage where
  flowId := "news"
  version := 1
  context := context
  executionId := some "reader"

section Reader

variable {s : Settings} {words : Words} {vouched : Pointer → Prop} {context : Dict Json}

end Reader

section Safety

variable {s : Settings} {words : Words} {vouched : Pointer → Prop} {stage : Stage}

end Safety

section Letters

/-- Values of more than sixteen bytes are moved to the object store. -/
def small : Settings := { offloadThresholdBytes := 16 }

def delivered : Dict Json := [
  ("article", .str "a long article"),
  ("customer", .str "Ada"),
  ("tags", .arr [.str "new", .str "read"])]

def copied : Json :=
  (Pointer.mk small.objectStoreContainer
    (Offload.key "reader" "copy" (Json.str "For Ada: a long article").render)).toJson

def kept : Dict Json := [
  ("article", .str "a long article"),
  ("copy", copied),
  ("customer", .str "Ada"),
  ("labels", .str "new, read"),
  ("tags", .arr [.str "new", .str "read"])]

def letter : Pointer := ⟨"letters", "editor/private.json"⟩

def rendered : Dict InputMapping := [("article", .template (.str "\x7b\x7barticle\x7d\x7d"))]

/-- The place of a letter, and an article whose text spells a pointer to it. -/
def spelled : Dict Json := [
  ("article", .str "$.\x7bobjectStoreRef: place\x7d"),
  ("place", .obj [("container", .str letter.container), ("key", .str letter.key)])]

end Letters

end Stage

end Stepwise
