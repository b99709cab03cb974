import Stepwise.Digest.Sha256
import Stepwise.Execution.Settings
import Stepwise.Expression.Pointer
import Stepwise.Json.Text
import Stepwise.Program.Basic

/-!
# Offloading large values

Large values move to the object store and leave a pointer behind. The key of the stored object names
the execution, the destination and the content, so equal content has one object and no object is
overwritten by another content.
-/

namespace Stepwise

set_option autoImplicit false

namespace Offload

def isKeyChar (c : Char) : Bool := c.isAlphanum || c = '-' || c = '_' || c = '.'

def plainDestination : List Char → List Char
  | '$' :: '.' :: rest => rest
  | cs => cs

/-- The part of a key that stands for a destination: one segment that is never empty, and never made
of dots alone. -/
def destinationSegment (destination : String) : String :=
  let cs := plainDestination destination.toList
  if cs.all (· = '.') then String.ofList ('_' :: cs.map fun _ => '_')
  else String.ofList (cs.map fun c => if isKeyChar c then c else '_')

def key (executionId destination text : String) : String :=
  executionId ++ "/" ++ destinationSegment destination ++ "/" ++ Digest.ofText text ++ ".json"

end Offload

/-- Moves a value to the object store if its text is longer than the threshold, and answers what
stays in its place. A pointer stays as it is. -/
def offload (s : Settings) (executionId destination : String) (v : Json) : EngineProgram Json :=
  match Pointer.ofJson? v with
  | some _ => pure v
  | none =>
    let text := v.render
    if text.utf8ByteSize ≤ s.offloadThresholdBytes.toNat then pure v
    else do
      let key := Offload.key executionId destination text
      EngineProgram.putObject s.objectStoreContainer key text
      pure (Pointer.mk s.objectStoreContainer key).toJson

end Stepwise
