import Stepwise.Engine.Input
import Stepwise.Engine.Output
import Stepwise.Engine.Transition
import Stepwise.Proofs.Program.Requests

/-!
# Requests of a step

What the parts of a step ask for. The input and the choice of the next step only read objects; the
output may store objects as well.
-/

namespace Stepwise

set_option autoImplicit false

open Program

namespace Request

def OfObjects : Request → Prop
  | .getObject _ _ | .putObject _ _ _ => True
  | _ => False

theorem ofObjects_of_isRead (r : Request) (h : r.IsRead) : r.OfObjects := by
  cases r <;> trivial

end Request

namespace Template

mutual

theorem render_reads (maxDepth : Nat) (scope v : Json) :
    EngineProgram.Reads (render maxDepth scope v) := by
  match v with
  | .str s => exact renderText_reads maxDepth s scope
  | .arr items => exact .bind (renderItems_reads maxDepth scope items) fun _ => .pure _
  | .obj fields =>
    exact .bind (renderFields_reads maxDepth scope fields) fun _ => .pure _
  | .null | .bool _ | .num _ => exact .pure _

theorem renderItems_reads (maxDepth : Nat) (scope : Json) (items : List Json) :
    EngineProgram.Reads (renderItems maxDepth scope items) := by
  match items with
  | [] => exact .pure _
  | v :: rest =>
    refine .bind (render_reads maxDepth scope v) fun r => ?_
    exact .bind (renderItems_reads maxDepth scope rest) fun _ => .pure _

theorem renderFields_reads (maxDepth : Nat) (scope : Json) (fields : List (String × Json)) :
    EngineProgram.Reads (renderFields maxDepth scope fields) := by
  match fields with
  | [] => exact .pure _
  | (k, v) :: rest =>
    refine .bind (render_reads maxDepth scope v) fun r => ?_
    refine .bind (renderFields_reads maxDepth scope rest) fun more => ?_
    cases r with
    | undefined => exact .pure _
    | value w => exact .pure _

end

end Template

namespace Input

theorem resolveMapping_reads (s : Settings) (scope : Json) (m : InputMapping) :
    EngineProgram.Reads (resolveMapping s scope m) := by
  cases m with
  | template t => exact Template.render_reads _ scope t
  | source m =>
    simp only [resolveMapping]
    split
    · exact .bind (resolve_reads _ scope true) fun _ => .pure _
    · exact .bind (Template.renderText_reads _ _ scope) fun _ => .pure _

theorem addMapped_reads (s : Settings) (scope : Json) (mappings : List (String × InputMapping))
    (bag : Dict Json) : EngineProgram.Reads (addMapped s scope mappings bag) := by
  induction mappings generalizing bag with
  | nil => exact .pure _
  | cons entry rest ih =>
    refine .bind (resolveMapping_reads s scope entry.2) fun r => ?_
    cases r with
    | value v => exact ih _
    | undefined => exact ih _

theorem ofStep_reads (s : Settings) (step : Step) (defaults : Dict Json) (scope : Json) :
    EngineProgram.Reads (ofStep s step defaults scope) :=
  .bind (addMapped_reads s scope _ _) fun _ => .pure _

end Input

namespace Condition

theorem operand_reads (expr : String) (scope : Json) :
    EngineProgram.Reads (operand expr scope) := by
  unfold operand
  split
  · exact resolve_reads expr scope true
  · exact .pure _

theorem single_reads (cs : List Char) (scope : Json) : EngineProgram.Reads (single cs scope) := by
  unfold single
  split
  · exact .bind (operand_reads _ scope) fun _ => .pure _
  · split
    · exact .pure _
    · exact .bind (operand_reads _ scope) fun _ => .pure _

theorem all_reads (scope : Json) (parts : List (List Char)) :
    EngineProgram.Reads (all scope parts) := by
  induction parts with
  | nil => exact .pure _
  | cons cs rest ih =>
    refine .bind (single_reads _ scope) fun holds => ?_
    cases holds with
    | false => exact .pure _
    | true => exact ih

theorem check_reads (condition : String) (scope : Json) :
    EngineProgram.Reads (check condition scope) := by
  unfold check
  dsimp only
  split
  · exact .pure _
  · exact all_reads scope _

end Condition

namespace Step

theorem chooseAmong_reads (scope : Json) (fallback : Option String) (ts : List Transition) :
    EngineProgram.Reads (chooseAmong scope fallback ts) := by
  induction ts with
  | nil => exact .pure _
  | cons t rest ih =>
    refine .bind (Condition.check_reads t.condition scope) fun holds => ?_
    cases holds with
    | false => exact ih
    | true => exact .pure _

theorem next_reads (step : Step) (scope : Json) : EngineProgram.Reads (step.next scope) :=
  chooseAmong_reads scope step.defaultNext step.transitions

end Step

theorem offload_ofObjects (s : Settings) (executionId destination : String) (v : Json) :
    Only Request.OfObjects (offload s executionId destination v).run := by
  unfold offload
  split
  · exact only_run_pure
  · dsimp only
    split
    · exact only_run_pure
    · exact only_run_bind (only_request trivial) fun _ => only_run_pure

namespace Output

theorem source_reads (output mapping : Json) : EngineProgram.Reads (source output mapping) := by
  unfold source
  split
  · split
    · exact resolve_reads _ output false
    · exact .pure _
  · exact .pure _

theorem writeField_ofObjects (s : Settings) (executionId name : String) (v : Json)
    (context : Dict Json) : Only Request.OfObjects (writeField s executionId name v context) := by
  apply only_bind (offload_ofObjects s executionId name v)
  intro stored
  cases stored with
  | ok v => exact only_pure
  | error e => exact only_pure

theorem writeFields_ofObjects (s : Settings) (executionId : String) (fields : List (String × Json))
    (context : Dict Json) : Only Request.OfObjects (writeFields s executionId fields context) := by
  induction fields generalizing context with
  | nil => exact only_pure
  | cons field rest ih =>
    apply only_bind (writeField_ofObjects s executionId _ _ context)
    intro w
    split
    · exact ih _
    · exact only_pure

theorem writePath_ofObjects (s : Settings) (executionId destination : String) (v : Json)
    (context : Dict Json) :
    Only Request.OfObjects (writePath s executionId destination v context) := by
  apply only_bind (offload_ofObjects s executionId destination v)
  intro stored
  cases stored with
  | error e => exact only_pure
  | ok v =>
    dsimp only
    split
    · exact only_pure
    · exact only_pure

theorem writeValue_ofObjects (s : Settings) (executionId destination : String) (v : Json)
    (context : Dict Json) :
    Only Request.OfObjects (writeValue s executionId destination v context) := by
  unfold writeValue
  split
  · split
    · exact writeFields_ofObjects s executionId _ context
    · exact only_pure
  · exact writePath_ofObjects s executionId destination v context

theorem write_ofObjects (s : Settings) (executionId : String) (output : Json)
    (mappings : List (String × Json)) (context : Dict Json) :
    Only Request.OfObjects (write s executionId output mappings context) := by
  induction mappings generalizing context with
  | nil => exact only_pure
  | cons entry rest ih =>
    apply only_bind (only_mono Request.ofObjects_of_isRead (source_reads output entry.2).only)
    intro r
    match r with
    | .error e => exact only_pure
    | .ok .undefined => exact ih context
    | .ok (.value v) =>
      apply only_bind (writeValue_ofObjects s executionId entry.1 v context)
      intro w
      split
      · exact ih _
      · exact only_pure

theorem apply_ofObjects (s : Settings) (executionId : String) (mappings : Dict Json) (output : Json)
    (context : Dict Json) :
    Only Request.OfObjects (apply s executionId mappings output context).run :=
  only_bind (write_ofObjects s executionId output mappings context) fun _ => only_pure

end Output

end Stepwise
