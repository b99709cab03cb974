import Mathlib.Data.List.Nodup
import Stepwise.Proofs.Interpreter.Frame

/-!
# Merging in the order of the branches

What comes back from the branches of a fork is merged in the order of the branches, whatever the
order in which they end. The positions that a fan-out gives to its payloads are those at which the
branches are declared, so a result finds its place again.
-/

namespace Stepwise

set_option autoImplicit false

open Program

namespace Aggregation

variable {results results' : List BranchResult}

theorem eq_of_index (hDistinct : (results.map BranchResult.index).Nodup) {a b : BranchResult}
    (ha : a ∈ results) (hb : b ∈ results) (hSame : a.index = b.index) : a = b :=
  List.inj_on_of_nodup_map hDistinct ha hb hSame

theorem inOrder_perm (results : List BranchResult) : (inOrder results).Perm results :=
  List.mergeSort_perm results _

theorem inOrder_pairwise (results : List BranchResult) :
    (inOrder results).Pairwise fun a b => a.index ≤ b.index := by
  have hSorted : (inOrder results).Pairwise fun a b => decide (a.index ≤ b.index) = true := by
    refine List.pairwise_mergeSort ?_ ?_ results
    · intro a b c hab hbc
      simp only [decide_eq_true_eq] at hab hbc ⊢
      exact UInt64.le_trans hab hbc
    · intro a b
      simpa using UInt64.le_total a.index b.index
  exact hSorted.imp of_decide_eq_true

/-- Of results at different positions there is one list in order. -/
theorem eq_of_perm_of_pairwise (hDistinct : (results.map BranchResult.index).Nodup)
    (hPerm : results.Perm results') (hSorted : results.Pairwise fun a b => a.index ≤ b.index)
    (hSorted' : results'.Pairwise fun a b => a.index ≤ b.index) : results = results' := by
  refine hPerm.eq_of_pairwise ?_ hSorted hSorted'
  intro a b ha hb hab hba
  exact eq_of_index hDistinct ha (hPerm.mem_iff.mpr hb) (UInt64.le_antisymm hab hba)

end Aggregation

namespace Fork

/-- A fan-out over branches with their positions: which of them it starts, by their conditions, and
with which payloads. -/
structure FansOut (allowed : Allowed) (state : ExecutionState)
    (branches started : List (Branch × Nat)) (payloads : List BranchPayload) : Prop where
  among : started.Sublist branches
  holds : ∀ e ∈ started, ReachesUnder allowed (e.1.holds state.scope).run (.ok true)
  skipped : ∀ e ∈ branches, e ∉ started →
    ReachesUnder allowed (e.1.holds state.scope).run (.ok false)
  places : payloads.map (fun p => (p.branchId, p.index)) =
    started.map fun e => (e.1.id, UInt64.ofNat e.2)

section FanOut

variable {allowed : Allowed} {s : Settings} {state : ExecutionState}

theorem payload_place {b : Branch} {index : Nat} {p : BranchPayload}
    (h : ReachesUnder allowed (b.payload s state index).run (.ok p)) :
    (p.branchId, p.index) = (b.id, UInt64.ofNat index) := by
  simp only [Branch.payload, reachesUnder_bind_ok, reachesUnder_pure_ok] at h
  obtain ⟨input, -, rfl⟩ := h
  rfl

theorem payloadsFrom_fansOut {branches : List Branch} {index : Nat} {payloads : List BranchPayload}
    (h : ReachesUnder allowed (payloadsFrom s state index branches).run (.ok payloads)) :
    ∃ started, FansOut allowed state (branches.zipIdx index) started payloads := by
  induction branches generalizing index payloads with
  | nil =>
    rw [payloadsFrom, reachesUnder_pure_ok] at h
    subst h
    exact ⟨[], .refl _, by simp, by simp, rfl⟩
  | cons b rest ih =>
    rw [payloadsFrom, reachesUnder_bind_ok] at h
    obtain ⟨holds, hChecked, h⟩ := h
    rw [List.zipIdx_cons]
    cases holds with
    | false =>
      obtain ⟨started, hFans⟩ := ih h
      refine ⟨started, hFans.among.cons _, hFans.holds, fun e hAmong hOut => ?_, hFans.places⟩
      rcases List.mem_cons.mp hAmong with rfl | hLater
      · exact hChecked
      · exact hFans.skipped e hLater hOut
    | true =>
      simp only [if_true, reachesUnder_bind_ok, reachesUnder_pure_ok] at h
      obtain ⟨p, hBuilt, more, hContinued, rfl⟩ := h
      obtain ⟨started, hFans⟩ := ih hContinued
      refine ⟨(b, index) :: started, hFans.among.cons_cons _, fun e hAmong => ?_,
        fun e hAmong hOut => ?_, ?_⟩
      · rcases List.mem_cons.mp hAmong with rfl | hLater
        · exact hChecked
        · exact hFans.holds e hLater
      · rw [List.mem_cons, not_or] at hOut
        exact hFans.skipped e (List.mem_of_ne_of_mem hOut.1 hAmong) hOut.2
      · rw [List.map_cons, List.map_cons, payload_place hBuilt, hFans.places]

/-- Results that come back from the branches that a fan-out of the fork has started: one from each
payload, in any order. -/
structure ComesBack (allowed : Allowed) (s : Settings) (config : Fork) (forked : ExecutionState)
    (payloads : List BranchPayload) (outcome : BranchPayload → BranchResult)
    (results : List BranchResult) : Prop where
  fanned : ReachesUnder allowed (config.payloads s forked).run (.ok payloads)
  branch : ∀ p ∈ payloads, (outcome p).branchId = p.branchId
  index : ∀ p ∈ payloads, (outcome p).index = p.index
  all : results.Perm (payloads.map outcome)

theorem ComesBack.inOrder {config : Fork} {payloads : List BranchPayload}
    {outcome : BranchPayload → BranchResult} {results : List BranchResult}
    (hBack : ComesBack allowed s config state payloads outcome results)
    (hIncreasing : payloads.Pairwise fun p q => p.index < q.index) :
    Aggregation.inOrder results = payloads.map outcome := by
  have hSorted : (payloads.map outcome).Pairwise fun a b => a.index < b.index := by
    refine List.pairwise_map.mpr (hIncreasing.imp_of_mem fun {p q} hp hq hBefore => ?_)
    rw [hBack.index p hp, hBack.index q hq]
    exact hBefore
  have hDistinct : ((payloads.map outcome).map BranchResult.index).Nodup :=
    List.pairwise_map.mpr (hSorted.imp UInt64.ne_of_lt)
  have hPerm := (Aggregation.inOrder_perm results).trans hBack.all
  refine (Aggregation.eq_of_perm_of_pairwise hDistinct hPerm.symm ?_
    (Aggregation.inOrder_pairwise results)).symm
  exact hSorted.imp UInt64.le_of_lt

end FanOut

end Fork

namespace Interpreter

def hills : Fork where
  branches := [⟨"north", .step "measure", [], [], none⟩,
    ⟨"middle", .step "measure", [], [], some "$.season == 'summer'"⟩,
    ⟨"south", .step "measure", [], [], none⟩]
  aggregation := { failOnBranchError := false }

def measuring : Step where
  id := "hills"
  kind := .fork hills

def inWinter : ExecutionState where
  executionId := "walk"
  flowId := "walks"
  version := 1
  context := [("season", .str "winter")]

end Interpreter

end Stepwise
