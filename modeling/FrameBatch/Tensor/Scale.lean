import FrameBatch.Tensor.Broadcast
import FrameBatch.Tensor.Gather

/-!
Arrays times a factor. A real factor turns whole numbers into 64-bit reals and is rounded to the type
of reals; a whole factor must lie in the range of whole numbers, which wrap. A list is multiplied
element by element in the wider of the two types.
-/

namespace FrameBatch

inductive Factor where
  /-- a factor equal to one: nothing is multiplied -/
  | one
  | real (x : Binary)
  | whole (z : Int)
  | truth (b : Bool)
  | array (t : Tensor)
  /-- texts up to a length, with which no product is known -/
  | texts (length : Nat)
  /-- an array of any values, with one of a type that has no product with a number -/
  | others (shape : List Nat) (typeName : String)

namespace Factor

def ofValue (v : Value) : Except Fault Factor :=
  if v.sameScalar (.int 1) then .ok .one
  else match v with
    | .bool b => .ok (.truth b)
    | .int z => .ok (.whole z)
    | .float x => .ok (.real x)
    | v => do
      match ← Gathered.ofValue v with
      | .numbers t => .ok (.array t)
      | .texts _ length => .ok (.texts length)
      | .others shape typeName => .ok (.others shape typeName)

end Factor

namespace NumberType

def timesReal (t : NumberType) : NumberType :=
  match t.storage with
  | .real _ | .complex => t
  | _ => .element .f64

def join (a b : NumberType) : NumberType :=
  match a.storage, b.storage with
  | .truth, _ => b
  | _, .truth => a
  | .whole s m, .whole t n =>
    if s = t then (if n ≤ m then a else b)
    else
      let (unsigned, signed, other) := if s then (n, m, a) else (m, n, b)
      if unsigned < signed then other
      else if unsigned < 16 then .element .i16
      else if unsigned < 32 then .element .i32
      else if unsigned < 64 then .element .i64
      else .element .f64
  | .real f, .real g => if g.precision ≤ f.precision then a else b
  | _, _ => .element .f64

end NumberType

namespace Tensor

def product (type : NumberType) (x y : Scalar) : Scalar :=
  match type.cast x, type.cast y with
  | .whole a, .whole b => type.cast (.whole (a * b))
  | a, b => type.cast (.real (a.toBinary.mul b.toBinary))

def timesScalar (t : Tensor) (type : NumberType) (factor : Scalar) : Tensor :=
  t.mapPlaces type fun _ x => product type x factor

def times? (t u : Tensor) : Option Tensor :=
  let s := t.shape.reverse
  let r := u.shape.reverse
  (Broadcast.join s r).map fun wide =>
    let type := t.type.join u.type
    Tensor.ofFn type wide.reverse fun k =>
      product type (t.get (Broadcast.place s wide k)) (u.get (Broadcast.place r wide k))

/-- A whole factor in the range of a type; of reals, in the range of 64-bit ones. -/
def wholeFactor (type : NumberType) (z : Int) : Except Fault Scalar :=
  match type.storage with
  | .whole signed bits =>
    let (least, greatest) := wholeRange signed bits
    if least ≤ z && z ≤ greatest then .ok (.whole z)
    else .error (.failed .overflow ("Python integer " ++ toString z ++ " out of bounds for "
      ++ type.arrayName))
  | _ =>
    match Format.double.ofInt? z with
    | some x => .ok (.real x)
    | none => .error (.failed .overflow "int too large to convert to float")

def cellTypeName (t : Tensor) : String :=
  match t.type.storage with
  | .whole .. => "int"
  | .real _ => "float"
  | .truth => "bool"
  | .complex => "complex"

def shapesMismatch {α : Type} (s r : List Nat) : Except Fault α :=
  .error (.failed .value ("operands could not be broadcast together with shapes "
    ++ Text.ofShapeTight s ++ " " ++ Text.ofShapeTight r ++ " "))

def scaleBy (t : Tensor) : Factor → Except Fault Tensor
  | .one => .ok t
  | .real x => .ok (t.timesScalar t.type.timesReal (.real x))
  | .whole z => do
    let type := if t.type = .truth then .element .i64 else t.type
    return t.timesScalar type (← wholeFactor type z)
  | .truth b => .ok (t.timesScalar t.type (.whole b.toNat))
  | .array u =>
    match t.times? u with
    | some p => .ok p
    | none => shapesMismatch t.shape u.shape
  | .texts length => .error (.failed .noProduct
      ("ufunc 'multiply' did not contain a loop with signature matching types (dtype('"
        ++ t.type.arrayName ++ s!"'), dtype('<U{length}')) -> None"))
  | .others shape typeName =>
    match Broadcast.join t.shape.reverse shape.reverse with
    | none => shapesMismatch t.shape shape
    | some wide =>
      if volume wide = 0 then .ok (Tensor.zeros (.element .f64) wide.reverse)
      else wrongType ("unsupported operand type(s) for *: '" ++ t.cellTypeName ++ "' and '"
        ++ typeName ++ "'")

def scale (t : Tensor) (factor : Value) : Except Fault Tensor := do
  t.scaleBy (← Factor.ofValue factor)

end Tensor

end FrameBatch
