import Stepwise.Handler.Standard
import Stepwise.Program.Basic
import Stepwise.Storage.Catalog
import Stepwise.Storage.ContinuationMap
import Stepwise.Storage.FileStore
import Stepwise.Storage.ObjectMap
import Stepwise.Storage.WebStore

/-!
# A host in memory

A host of the engine: all that the engine asks of its surroundings, kept in memory. Handlers are
standard ones or follow a script, and every facility can be made to fail.
-/

namespace Stepwise

set_option autoImplicit false

inductive ScriptedAnswer where
  | fail (error : StepError)
  | output (value : Json)
  /-- Answers the input of the step. -/
  | echo
deriving DecidableEq

inductive RemoteAnswer where
  | fail (error : InvocationError)
  | response (value : Json)
deriving DecidableEq

/-- A script answers call by call, and its last answer for ever. -/
def advance {α : Type} : List α → List α
  | [] => []
  | [a] => [a]
  | _ :: rest => rest

inductive Handler where
  | standard (handler : StandardHandler)
  | scripted (answers : List ScriptedAnswer)
deriving DecidableEq

structure HandlerCall where
  moduleId : String
  request : HandlerRequest
deriving DecidableEq

inductive Facility where
  | objectPut
  | objectGet
  | flow
  | handler
  | continuationPut
  | continuationGet
  | queue
deriving DecidableEq, Repr

namespace Facility

def names : List (String × Facility) :=
  [("objectPut", .objectPut), ("objectGet", .objectGet), ("flow", .flow), ("handler", .handler),
   ("continuationPut", .continuationPut), ("continuationGet", .continuationGet), ("queue", .queue)]

def ofName? (name : String) : Option Facility := names.lookup name

end Facility

inductive ObjectStore where
  | memory (objects : ObjectMap)
  /-- Files below a folder of the host. -/
  | folder (root : List String)
  /-- A service that does not answer. -/
  | web (service : WebStore)
deriving DecidableEq

structure Host where
  clock : Instant
  freshIds : Nat := 0
  catalog : Catalog := {}
  handlers : Dict Handler := []
  /-- The scripts of remote handlers, if remote handlers can be called at all. -/
  remotes : Option (Dict (List RemoteAnswer)) := some []
  objects : ObjectStore := .memory {}
  files : Folder := []
  continuations : ContinuationMap := {}
  /-- Starts that were accepted, the oldest first. -/
  queue : List StartMessage := []
  /-- Signals that were accepted, the oldest first. -/
  delivered : List (String × Json) := []
  calls : List HandlerCall := []
  faults : List (Facility × EngineError) := []
  signalFault : Option SignalError := none

namespace Host

def register (h : Host) (moduleId : String) (handler : Handler) : Host :=
  { h with handlers := h.handlers.insert moduleId handler }

def registerStandard (h : Host) : Host :=
  StandardHandler.all.foldl (fun h s => h.register s.moduleId (.standard s)) h

def setFault (h : Host) (facility : Facility) (e : EngineError) : Host :=
  { h with faults := (facility, e) :: h.faults.filter (·.1 ≠ facility) }

def clearFault (h : Host) (facility : Facility) : Host :=
  { h with faults := h.faults.filter (·.1 ≠ facility) }

/-- The failure of a facility if it has one, else what the facility answers. -/
def guarded {α : Type} (h : Host) (facility : Facility) (answer : Except EngineError α) :
    Except EngineError α :=
  match h.faults.lookup facility with
  | some e => .error e
  | none => answer

def twelveDigits (n : Nat) : String :=
  String.ofList ((List.range 12).reverse.map fun i => Text.hexDigit (n / Nat.pow 16 i % 16))

/-- The fresh id of a number, in the form of a random UUID. -/
def idOf (n : Nat) : String := "9e3779b9-7f4a-4c15-bf58-" ++ twelveDigits n

def unreachable : EngineError := .objectStore "Storage backend error: the service does not answer"

def readObject (h : Host) (container key : String) : Except EngineError String :=
  match h.objects with
  | .memory m => m.get container key
  | .folder root => (FileStore.read root container key h.files).mapError StoreError.toEngine
  | .web s =>
    match s.objectUrl container key with
    | .error e => .error e.toEngine
    | .ok _ => .error unreachable

def writeObject (h : Host) (container key text : String) : Except EngineError Unit × Host :=
  match h.objects with
  | .memory m => (.ok (), { h with objects := .memory (m.put container key text) })
  | .folder root =>
    let (answer, files) := FileStore.write root container key text h.files
    (answer.mapError StoreError.toEngine, { h with files := files })
  | .web s =>
    match s.objectUrl container key with
    | .error e => (.error e.toEngine, h)
    | .ok _ => (.error unreachable, h)

def record (h : Host) (moduleId : String) (request : HandlerRequest) : Host :=
  { h with calls := h.calls ++ [⟨moduleId, request⟩] }

def scriptedAnswer (request : HandlerRequest) : Option ScriptedAnswer → Except StepError Json
  | some (.fail e) => .error e
  | some (.output v) => .ok v
  | some .echo => .ok (.obj request.input)
  | none => .ok (.obj request.input)

def callHandler (h : Host) (moduleId : String) (request : HandlerRequest) :
    Option (Except StepError Json) × Host :=
  match h.handlers.get? moduleId with
  | none => (none, h)
  | some (.standard s) =>
    (some (s.run (idOf h.freshIds) request), { h with freshIds := h.freshIds + 1 })
  | some (.scripted answers) =>
    (some (scriptedAnswer request answers.head?),
      (h.record moduleId request).register moduleId (.scripted (advance answers)))

def noAnswer : InvocationError := .transport "the handler does not answer"

def remoteAnswer : Option RemoteAnswer → Except InvocationError Json
  | some (.fail e) => .error e
  | some (.response v) => .ok v
  | none => .ok .null

def invokeRemote (h : Host) (moduleId : String) (request : HandlerRequest) :
    Option (Except InvocationError Json) × Host :=
  match h.remotes with
  | none => (none, h)
  | some scripts =>
    match scripts.get? moduleId with
    | none => (some (.error noAnswer), h)
    | some answers =>
      (some (remoteAnswer answers.head?),
        { h.record moduleId request with
          remotes := some (scripts.insert moduleId (advance answers)) })

def saveContinuation (h : Host) (key : String) (record : ContinuationRecord) (ttl : UInt64) :
    Except EngineError Unit × Host :=
  match h.continuations.save h.clock key record ttl with
  | .ok m => (.ok (), { h with continuations := m })
  | .error e => (.error e, h)

/-- Replies to a request. A facility that fails changes nothing. -/
def serve : (r : Request) → Host → Reply r × Host
  | .getObject container key, h => (h.guarded .objectGet (h.readObject container key), h)
  | .putObject container key text, h =>
    match h.guarded .objectPut (.ok ()) with
    | .error e => (.error e, h)
    | .ok () => h.writeObject container key text
  | .findFlow id version, h => (h.guarded .flow (.ok (h.catalog.findFlow id version)), h)
  | .callHandler moduleId request, h => h.callHandler moduleId request
  | .findRegistration moduleId, h =>
    (h.guarded .handler (.ok (h.catalog.findRegistration moduleId)), h)
  | .invokeRemote registration request, h => h.invokeRemote registration.moduleId request
  | .enqueueStart message, h =>
    match h.guarded .queue (.ok ()) with
    | .error e => (.error e, h)
    | .ok () => (.ok (), { h with queue := h.queue ++ [message] })
  | .saveContinuation key record ttl, h =>
    match h.guarded .continuationPut (.ok ()) with
    | .error e => (.error e, h)
    | .ok () => h.saveContinuation key record ttl
  | .takeContinuation key, h =>
    match h.guarded .continuationGet (.ok ()) with
    | .error e => (.error e, h)
    | .ok () =>
      let (answer, m) := h.continuations.take h.clock key
      (.ok answer, { h with continuations := m })
  | .sendSignal resumeToken payload, h =>
    match h.signalFault with
    | some e => (.error e, h)
    | none => (.ok (), { h with delivered := h.delivered ++ [(resumeToken, payload)] })
  | .freshId, h => (idOf h.freshIds, { h with freshIds := h.freshIds + 1 })
  | .now, h => (h.clock, h)

def run {α : Type} (h : Host) (p : Program α) : α × Host := Program.run serve p h

end Host

end Stepwise
