import FrameBatch.Tensor.ElementType
import FrameBatch.Value.Convert

namespace FrameBatch

/-- What a network says about the type of a tensor: a name, which need not be that of a type. -/
inductive TypeHint where
  | known (t : ElementType)
  | unknown (name : String)
  deriving DecidableEq, Inhabited

namespace TypeHint

def ofName (name : String) : TypeHint :=
  match ElementType.ofName? name with
  | some t => .known t
  | none => .unknown name

def name : TypeHint → String
  | .known t => t.name
  | .unknown name => name

def type : TypeHint → Except Fault ElementType
  | .known t => .ok t
  | .unknown name => .error (.failed .key name)

end TypeHint

instance : Coe ElementType TypeHint := ⟨.known⟩

/-- One tensor of a network. A dimension without a number is dynamic. -/
structure TensorInfo where
  name : String
  shape : List Dim
  elementType : TypeHint := .known .f32
  layout : Option String := none
  deriving DecidableEq, Inhabited

structure Network where
  inputs : List TensorInfo := []
  outputs : List TensorInfo := []
  deriving DecidableEq, Inhabited

namespace TensorInfo

def rank (info : TensorInfo) : Nat := info.shape.length

/-- The shape with its leading dimension sized for a batch: a dynamic one takes the size of the
batch, and a fixed one must be large enough. -/
def batchedShape (info : TensorInfo) (batch : Int) : Except Fault (List Dim) :=
  match info.shape with
  | [] => refuse (.scalarTensor info.name)
  | none :: rest => .ok (some batch :: rest)
  | some n :: rest =>
    if n < batch then refuse (.tensorTooSmall info.name n (.int batch)) else .ok (some n :: rest)

def dimValue : Dim → Value
  | none => .null
  | some n => .int n

def batchedShapeFor (info : TensorInfo) (batch : Value) : Except Fault (List Value) :=
  match batch, info.shape with
  | .int n, _ => (info.batchedShape n).map (·.map dimValue)
  | _, [] => refuse (.scalarTensor info.name)
  | _, none :: rest => .ok (batch :: rest.map dimValue)
  | _, some n :: rest => do
    if ← batch.isAbove n then refuse (.tensorTooSmall info.name n batch)
    else return .int n :: rest.map dimValue

end TensorInfo

namespace Network

def input? (network : Network) (name : String) : Option TensorInfo :=
  network.inputs.find? (·.name == name)

def input (network : Network) (name : String) : Except Fault TensorInfo :=
  match network.input? name with
  | some info => .ok info
  | none => refuse (.noInput name)

end Network

end FrameBatch
