import Stepwise.Json.Parser
import Stepwise.Json.Text

/-!
# Documents that stand too deep

What is written is not always read back: lists and objects that stand too deep are refused.
-/

namespace Stepwise

set_option autoImplicit false

def nested : Nat → Json
  | 0 => .arr []
  | n + 1 => .arr [nested n]

theorem toList_write_nested (n : Nat) (out : String) :
    (Json.write out (nested n)).toList =
      out.toList ++ (List.replicate (n + 1) '[' ++ List.replicate (n + 1) ']') := by
  induction n generalizing out with
  | zero => simp [nested, Json.write, Json.writeItems, List.replicate]
  | succ n ih =>
    have hOpening : List.replicate (n + 1 + 1) '[' = '[' :: List.replicate (n + 1) '[' := rfl
    have hClosing : List.replicate (n + 1 + 1) ']' = List.replicate (n + 1) ']' ++ [']'] :=
      List.replicate_succ'
    rw [nested, Json.write, Json.writeItems, if_pos rfl, Json.writeItems, String.toList_push, ih,
      String.toList_push, hOpening, hClosing]
    simp only [List.append_assoc, List.cons_append, List.nil_append]

/-- Lists that stand deeper than may be read are not read. -/
theorem Json.readValue_eq_none_of_deep (steps depth : Nat) (rest : List Char) :
    Json.readValue steps depth (List.replicate (depth + 1) '[' ++ rest) = none := by
  induction depth generalizing steps with
  | zero => cases steps <;> rfl
  | succ depth ih =>
    cases steps with
    | zero => rfl
    | succ steps =>
      have hItems : Json.readItems steps depth [] (List.replicate (depth + 1) '[' ++ rest) =
        none := by
        cases steps with
        | zero => rfl
        | succ steps => rw [Json.readItems, ih]
      rw [List.replicate_succ] at hItems
      show Option.map _ (Json.readItems steps depth [] _) = none
      exact congrArg _ hItems

theorem parse_nested {n : Nat} (hDeep : Json.maxDepth ≤ n) :
    Json.parse (nested n).render = none := by
  have hText : (nested n).render.toList = List.replicate (Json.maxDepth + 1) '[' ++
      (List.replicate (n - Json.maxDepth) '[' ++ List.replicate (n + 1) ']') := by
    have hSplit : n + 1 = Json.maxDepth + 1 + (n - Json.maxDepth) := by omega
    rw [Json.render, toList_write_nested,
      ← List.append_assoc (List.replicate (Json.maxDepth + 1) '['),
      List.replicate_append_replicate, ← hSplit]
    rfl
  rw [Json.parse, Json.parseRaw, Json.parseFront, hText, Json.readValue_eq_none_of_deep]
  rfl

end Stepwise
