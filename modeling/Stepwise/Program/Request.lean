import Stepwise.Execution.Continuation
import Stepwise.Execution.Handler

/-!
# Requests

What the engine asks of its surroundings: stored objects, flows and registrations, handlers, the
queue of starts, continuations, the resume signal, the clock and fresh names. Each request is one
atomic operation and has its own type of reply.
-/

namespace Stepwise

set_option autoImplicit false

inductive Request where
  | getObject (container key : String)
  | putObject (container key text : String)
  | findFlow (id : String) (version : UInt32)
  /-- Runs a handler of this process. -/
  | callHandler (moduleId : String) (request : HandlerRequest)
  | findRegistration (moduleId : String)
  /-- Runs a remote handler. -/
  | invokeRemote (registration : HandlerRegistration) (request : HandlerRequest)
  | enqueueStart (message : StartMessage)
  | saveContinuation (key : String) (record : ContinuationRecord) (ttlSeconds : UInt64)
  /-- Removes a continuation and answers it. -/
  | takeContinuation (key : String)
  | sendSignal (resumeToken : String) (payload : Json)
  | freshId
  | now

/-- The reply to a request. A handler that is not there, and a missing way to call remote handlers,
are replied to by `none`. -/
def Reply : Request → Type
  | .getObject _ _ => Except EngineError String
  | .putObject _ _ _ => Except EngineError Unit
  | .findFlow _ _ => Except EngineError (Option Flow)
  | .callHandler _ _ => Option (Except StepError Json)
  | .findRegistration _ => Except EngineError (Option HandlerRegistration)
  | .invokeRemote _ _ => Option (Except InvocationError Json)
  | .enqueueStart _ => Except EngineError Unit
  | .saveContinuation _ _ _ => Except EngineError Unit
  | .takeContinuation _ => Except EngineError (Option ContinuationRecord)
  | .sendSignal _ _ => Except SignalError Unit
  | .freshId => String
  | .now => Instant

end Stepwise
