import Stepwise.Engine.Interpreter
import Stepwise.Proofs.Expression.Pieces
import Stepwise.Proofs.Expression.Walk
import Stepwise.Proofs.Interpreter.Call
import Stepwise.Proofs.Json.Honest
import Stepwise.Proofs.Program.Confined

/-!
# Vocabularies

Where pointers come from. Texts that are expressions are evaluated wherever they come from, so they
are taken from a vocabulary: texts of which evaluation makes no pointer that was not there. Flows,
states and replies are honest if their texts and names belong to it and their pointers lead to known
places; the terms on which the engine works are that it reads known places only and stores honest
documents.
-/

namespace Stepwise

set_option autoImplicit false

variable (words : Words) (places : Pointer → Prop)

section Expressions

def Resolved.Honest : Resolved → Prop
  | .undefined => True
  | .value v => v.Honest words places

def Harmless (expr : String) : Prop :=
  ∀ (places : Pointer → Prop) (document v : Json), document.Honest words places →
    search expr document = .ok (.value v) → v.Honest words places

/-- The expression is no query, a path, or a harmless query. -/
def Tame (expr : String) : Prop :=
  Path.isQuery expr = true → Path.ofText? expr = none → Harmless words expr

/-- The expression is tame, and what is no query belongs to the words itself. -/
structure Evaluable (expr : String) : Prop where
  tame : Tame words expr
  self : Path.isQuery expr = false → words.text expr

/-- What pieces of a text can become: every placeholder stays, or gives way to an honest value. -/
inductive Fills : List Template.Piece → String → Prop where
  | nil : Fills [] ""
  | literal {c : Char} {rest : List Template.Piece} {s : String} (h : Fills rest s) :
      Fills (.literal c :: rest) (String.singleton c ++ s)
  | kept {whole expr : List Char} {rest : List Template.Piece} {s : String} (h : Fills rest s) :
      Fills (.placeholder whole expr :: rest) (String.ofList whole ++ s)
  | filled {whole expr : List Char} {rest : List Template.Piece} {s : String} {r : Resolved}
      (hHonest : r.Honest words fun _ => True) (h : Fills rest s) :
      Fills (.placeholder whole expr :: rest) (r.inText ++ s)

def engineNames : List String := [
  "objectStoreRef", "container", "key", "flowExecutionId", "flowDefinitionId", "version", "status",
  "stepRetryAttempts", "currentStepInstanceId", "currentContextData", "errorInfo", "errorName",
  "errorMessage", "errorDetails", "isRetryable", "branchId", "branchExecutionId",
  "parentExecutionId", "pollResult"]

/-- Words of which evaluation makes no new pointers and no other words. -/
structure Vocabulary (s : Settings) : Prop where
  status (status : Status) : words.text status.wireName
  container : words.text s.objectStoreContainer
  names : ∀ name ∈ engineNames, words.name name
  query {t : String} (h : words.text t) : Tame words t
  placeholder {t : String} (h : words.text t) {whole expr : List Char}
    (hAmong : .placeholder whole expr ∈ Template.pieces t.toList) :
    Tame words (Template.queryOf expr)
  /-- A text that is one placeholder becomes its value, not a text. -/
  interpolated {t filled : String} (h : words.text t)
    (hSeveral : ∀ whole expr, Template.pieces t.toList ≠ [.placeholder whole expr])
    (hFills : Fills words (Template.pieces t.toList) filled) : words.text filled

theorem Vocabulary.evaluable {words : Words} {s : Settings} (hWords : Vocabulary words s)
    {t : String} (h : words.text t) : Evaluable words t :=
  ⟨hWords.query h, fun _ => h⟩

def Condition.subject (cs : List Char) : String :=
  match Condition.comparison? {} cs with
  | none => String.ofList cs
  | some (left, _, _) => String.ofList (Text.trim left)

def Condition.Tame (condition : String) : Prop :=
  ∀ cs ∈ Condition.conjuncts {} condition.toList,
    Stepwise.Tame words (Condition.subject (Text.trim cs))

end Expressions

section Flows

/-- The mapping makes no pointers, and joins honest values to texts of the vocabulary. -/
def InputMapping.Tame : InputMapping → Prop
  | .template t => t.Inert words
  | .source m => Evaluable words m.sourcePath ∧ (m.format = .join → ∀ items : List Json,
      (∀ v ∈ items, v.Honest words fun _ => True) →
        words.text ((m.separator.getD ",").intercalate (items.map Json.itemText)))

/-- No entry of the input is named like a pointer. -/
def InputsTame (mappings : Dict InputMapping) : Prop :=
  ∀ e ∈ mappings, e.1 ≠ Json.reference ∧ words.name e.1 ∧ e.2.Tame words

/-- A constant is honest, and a text is evaluated to words. -/
def Output.SourceHonest : Json → Prop
  | .str expr => Evaluable words expr
  | v => v.Honest words places

/-- Nothing is written under the name of a pointer. -/
def OutputsHonest (mappings : Dict Json) : Prop :=
  ∀ e ∈ mappings, Output.SourceHonest words places e.2 ∧
    ∀ names, Output.names? e.1 = some names → ∀ name ∈ names, name ≠ Json.reference ∧
      words.name name

structure Branch.Honest (b : Branch) : Prop where
  inputs : InputsTame words b.inputMappings
  literals : (Json.obj b.literals).Honest words places
  condition : ∀ c ∈ b.condition, Condition.Tame words c

structure Fork.Honest (f : Fork) : Prop where
  branches : ∀ b ∈ f.branches, b.Honest words places
  dataPath : ∀ path ∈ f.aggregation.dataPath, Evaluable words path

def StepKind.Honest : StepKind → Prop
  | .fork config => config.Honest words places
  | .wait config => words.text config.correlationKeyTemplate
  | .poll polling => ∀ c ∈ polling.completionCondition, Condition.Tame words c
  | _ => True

structure Step.Honest (step : Step) : Prop where
  config : (Json.obj step.customConfig).Honest words places
  literals : (Json.obj step.literals).Honest words places
  inputs : InputsTame words step.inputMappings
  outputs : OutputsHonest words places step.outputMappings
  transitions : ∀ t ∈ step.transitions, Condition.Tame words t.condition
  kind : step.kind.Honest words places

structure Flow.Honest (flow : Flow) : Prop where
  start : words.text flow.start
  context : (Json.obj flow.defaultContext).Honest words places
  config : (Json.obj flow.defaultStepConfig).Honest words places
  steps : ∀ e ∈ flow.steps, e.2.Honest words places

end Flows

section States

/-- The pointers in the details lead to known places. -/
def ErrorInfo.Honest (e : ErrorInfo) : Prop := ∀ d ∈ e.details, d.Honest .any places

def StepError.Honest (e : StepError) : Prop := e.info.Honest places

/-- The context of the execution is honest, and so is its last failure. -/
structure ExecutionState.Honest (state : ExecutionState) : Prop where
  context : (Json.obj state.context).Honest words places
  error : ∀ e ∈ state.errorInfo, e.Honest places

/-- The names of the execution and of its counters, its last failure and the keys of its objects
belong to the vocabulary. -/
structure ExecutionState.Spoken (state : ExecutionState) : Prop where
  executionId : words.text state.executionId
  flowId : words.text state.flowId
  current : ∀ id ∈ state.current, words.text id
  branchId : ∀ id ∈ state.branchId, words.text id
  branchExecutionId : ∀ id ∈ state.branchExecutionId, words.text id
  parentExecutionId : ∀ id ∈ state.parentExecutionId, words.text id
  counters : ∀ e ∈ state.attempts, words.name e.1
  error : ∀ e ∈ state.errorInfo, words.text e.name ∧ words.text e.message ∧
    ∀ d ∈ e.details, d.Every words.text fun fields => ∀ f ∈ fields, words.name f.1
  key (destination content : String) :
    words.text (Offload.key state.executionId destination content)

end States

/-- Known places are read and honest documents are stored and passed on. What is read again, the
flows and the answers of handlers are honest, and what is stored is known from then on. -/
def honestTerms : Terms where
  permitted
    | .getObject container key => places ⟨container, key⟩
    | .putObject _ _ content => ∃ v : Json, v.Honest words places ∧ content = v.render
    | .enqueueStart m => (Json.obj m.context).Honest words places
    | _ => True
  promised
    | .getObject _ _, reply => ∀ content v, reply = .ok content → Json.parse content = some v →
        v.Honest words places
    | .putObject container key _, reply => reply = .ok () → places ⟨container, key⟩
    | .findFlow _ _, reply => ∀ flow, reply = .ok (some flow) → flow.Honest words places
    | .callHandler _ _, reply => ∀ answer, reply = some answer →
        Program.Meets (Json.Honest words places) (StepError.Honest places) answer
    | .invokeRemote _ _, reply => ∀ response, reply = some (.ok response) →
        Json.Honest words places response
    | .freshId, reply => words.text reply
    | _, _ => True

section Mono

variable {words : Words} {places places' : Pointer → Prop} (hMore : ∀ p, places p → places' p)

include hMore

theorem OutputsHonest.mono {mappings : Dict Json} (h : OutputsHonest words places mappings) :
    OutputsHonest words places' mappings := by
  intro e he
  obtain ⟨hSource, hNames⟩ := h e he
  refine ⟨?_, hNames⟩
  cases hv : e.2 with
  | str expr => rwa [hv] at hSource
  | _ =>
    rw [hv] at hSource
    exact Json.Honest.mono hSource hMore

theorem Branch.Honest.mono {b : Branch} (h : b.Honest words places) : b.Honest words places' :=
  ⟨h.inputs, h.literals.mono hMore, h.condition⟩

theorem StepKind.Honest.mono {kind : StepKind} (h : kind.Honest words places) :
    kind.Honest words places' := by
  cases kind with
  | fork config => exact ⟨fun b hAmong => (h.branches b hAmong).mono hMore, h.dataPath⟩
  | _ => exact h

theorem Step.Honest.mono {step : Step} (h : step.Honest words places) : step.Honest words places' :=
  ⟨h.config.mono hMore, h.literals.mono hMore, h.inputs, h.outputs.mono hMore, h.transitions,
  h.kind.mono hMore⟩

theorem Flow.Honest.mono {flow : Flow} (h : flow.Honest words places) : flow.Honest words places' :=
  ⟨h.start, h.context.mono hMore, h.config.mono hMore,
  fun e hAmong => (h.steps e hAmong).mono hMore⟩

theorem ErrorInfo.Honest.mono {e : ErrorInfo} (h : e.Honest places) : e.Honest places' :=
  fun d hAmong => (h d hAmong).mono hMore

theorem ExecutionState.Honest.mono {state : ExecutionState} (h : state.Honest words places) :
    state.Honest words places' :=
  ⟨h.context.mono hMore, fun e hAmong => (h.error e hAmong).mono hMore⟩

end Mono

end Stepwise
