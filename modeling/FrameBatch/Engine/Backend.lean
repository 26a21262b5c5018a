import FrameBatch.Descriptor.Accept
import FrameBatch.Engine.Script

/-!
Backends: what a pipeline needs of an engine. Nothing is assumed about how a backend answers; what
it does to its tensors, and when a run ends, is its own affair.
-/

namespace FrameBatch

/-- The name of a tensor; none if the part that it plays is not bound. -/
abbrev TensorName := Option String

namespace TensorName

def text : TensorName → String
  | some name => name
  | none => "None"

end TensorName

structure Loading (ε : Type) where
  descriptor : Descriptor
  network : Network
  engine : ε

namespace Loading

variable {ε α : Type}

def onFitting (x : Act Descriptor.Fitting α) : Act (Loading ε) α :=
  x.on (fun l => (l.descriptor, l.network)) fun (d, n) l => { l with descriptor := d, network := n }

def onEngine (x : Act ε α) : Act (Loading ε) α :=
  x.on (·.engine) fun e l => { l with engine := e }

end Loading

class Backend (ε : Type) where
  isLoaded : ε → Bool
  /-- fit the descriptor to the network by a check that may patch both, and make a request whose
  tensors hold a batch -/
  load : Act Descriptor.Fitting Unit → Act (Loading ε) Unit
  tensor : TensorName → Act ε Tensor
  setTensor : TensorName → Tensor → Act ε Unit
  start : Act ε Unit
  /-- wait up to a timeout, and tell whether no run goes on -/
  wait : Value → Act ε Bool
  infer : Act ε Unit
  closeRequest : Act ε Unit
  /-- let a held run end -/
  release : ε → ε
  /-- give up the request and what else the engine holds -/
  close : Act ε Unit

def zerosOf (dims : List Dim) (hint : TypeHint) : Except Fault Tensor := do
  let type ← hint.type
  match dims.mapM id with
  | none => wrongType "'NoneType' object cannot be interpreted as an integer"
  | some sizes =>
    if sizes.any (· < 0) then .error (.failed .value "negative dimensions are not allowed")
    else .ok (Tensor.zeros (.element type) (sizes.map Int.toNat))

end FrameBatch
