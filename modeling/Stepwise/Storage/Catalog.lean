import Stepwise.Execution.Handler

/-!
# The catalog of definitions

The definitions an engine works with: flows by id and version, registrations of remote handlers by
module. A definition takes the place of one with the same name.
-/

namespace Stepwise

set_option autoImplicit false

structure Catalog where
  /-- The newest first. -/
  flows : List Flow := []
  registrations : Dict HandlerRegistration := []
deriving DecidableEq

namespace Catalog

def addFlow (c : Catalog) (f : Flow) : Catalog := { c with flows := f :: c.flows }

def addRegistration (c : Catalog) (r : HandlerRegistration) : Catalog :=
  { c with registrations := c.registrations.insert r.moduleId r }

def findFlow (c : Catalog) (id : String) (version : UInt32) : Option Flow :=
  c.flows.find? fun f => f.id = id && f.version = version

def findRegistration (c : Catalog) (moduleId : String) : Option HandlerRegistration :=
  c.registrations.get? moduleId

def ofLists (flows : List Flow) (registrations : List HandlerRegistration) : Catalog :=
  registrations.foldl addRegistration (flows.foldl addFlow {})

end Catalog

end Stepwise
