import Stepwise.Execution.Error

/-!
# Objects in memory

Objects in memory.
-/

namespace Stepwise

set_option autoImplicit false

structure StoredObject where
  container : String
  key : String
  text : String
deriving DecidableEq, Repr

/-- Objects by container and key. -/
structure ObjectMap where
  containers : Dict (Dict String) := []
deriving DecidableEq

namespace ObjectMap

def get? (m : ObjectMap) (container key : String) : Option String :=
  (m.containers.get? container).bind fun c => c.get? key

def put (m : ObjectMap) (container key text : String) : ObjectMap :=
  ⟨m.containers.insert container (((m.containers.get? container).getD []).insert key text)⟩

def get (m : ObjectMap) (container key : String) : Except EngineError String :=
  match m.get? container key with
  | some text => .ok text
  | none => .error (.objectStore ("object not found: " ++ container ++ "/" ++ key))

theorem get?_put (m : ObjectMap) (container key text c k : String) :
    (m.put container key text).get? c k =
      if c = container ∧ k = key then some text else m.get? c k := by
  by_cases hc : c = container
  · subst hc
    by_cases hk : k = key
    · simp [get?, put, hk]
    · cases h : m.containers.get? c <;> simp [get?, put, h, hk, Dict.get?_insert]
  · simp [get?, put, hc, Dict.get?_insert_of_ne]

def toList (m : ObjectMap) : List StoredObject :=
  m.containers.flatMap fun c => c.2.map fun e => ⟨c.1, e.1, e.2⟩

end ObjectMap

end Stepwise
