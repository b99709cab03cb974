import Stepwise.Host.Basic
import Stepwise.Service.Definitions
import Stepwise.Service.Routes

/-!
# Assembling a service

A service put together from its configuration and the files it names. Nobody answers on the network:
a request to the orchestrator or to a remote handler fails.
-/

namespace Stepwise

set_option autoImplicit false

/-- Objects are kept by a service on the web, else in a folder, else in memory. -/
def ObjectStore.ofConfig (c : ServiceConfig) : Except ServiceError ObjectStore :=
  match c.objectStoreUrl, c.objectStoreDir with
  | some url, _ => ((WebStore.ofUrl? url).map .web).mapError .ofStore
  | none, some dir => .ok (.folder (Folder.segments dir))
  | none, none => .ok (.memory {})

def signalFailure : Option String → SignalError
  | none => .failed "no orchestrator resume URL configured"
  | some _ => .failed "no answer"

def startFailure : Option String → EngineError
  | none => .configuration "no orchestrator start URL configured"
  | some _ => .other "flow start transport failure: no answer"

def Host.ofConfig (c : ServiceConfig) (yaml : YamlReader) (clock : Instant) (files : Folder) :
    Except ServiceError Host := do
  let catalog ← Definitions.catalog yaml c.flowsDir c.handlersFile files
  let objects ← ObjectStore.ofConfig c
  let host : Host := {
    clock, catalog, objects, files
    signalFault := some (signalFailure c.resumeUrl) }
  pure (host.registerStandard.setFault .queue (startFailure c.startUrl))

def Service.ofHost (config : ServiceConfig) (h : Host) : Service := ⟨config, h.handlers.keys⟩

end Stepwise
