import FrameBatch.Tensor.Basic
import FrameBatch.Value.Convert

/-!
Arrays gathered from lists inside lists. All lists of one depth must have one length; the type is
the narrowest of truth values, 64-bit integers and 64-bit reals that holds every number.
-/

namespace FrameBatch

inductive Gathered where
  | numbers (t : Tensor)
  /-- an array of texts up to a length, into which numbers were turned as well -/
  | texts (shape : List Nat) (length : Nat)
  /-- an array of any values, one of which is of a type that is no number -/
  | others (shape : List Nat) (typeName : String)

namespace Gather

inductive Leaf where
  | truth (b : Bool)
  | whole (z : Int)
  | real (x : Binary)
  | text (length : Nat)
  | other (typeName : String)

def stack (parts : List (List Nat × List Leaf)) : Option (List Nat × List Leaf) :=
  match parts with
  | [] => some ([0], [])
  | (shape, _) :: rest =>
    if rest.all (·.1 == shape) then some (parts.length :: shape, parts.flatMap (·.2)) else none

mutual

/-- The shape of nested lists and their leaves in order; none if the lists are ragged. -/
def collect : Value → Option (List Nat × List Leaf)
  | .bool b => some ([], [.truth b])
  | .int z => some ([], [.whole z])
  | .float x => some ([], [.real x])
  | .list items => collectItems items
  | .tuple items => collectItems items
  | .rect x y w h => do stack [← collect x, ← collect y, ← collect w, ← collect h]
  | .text s => some ([], [.text s.length])
  | v => some ([], [.other v.typeName])

def collectItems (items : List Value) : Option (List Nat × List Leaf) := do
  stack (← collectEach items)

def collectEach : List Value → Option (List (List Nat × List Leaf))
  | [] => some []
  | v :: vs => do return (← collect v) :: (← collectEach vs)

end

def otherType? (leaves : List Leaf) : Option String :=
  leaves.findSome? fun | .other typeName => some typeName | _ => none

def textLength? (leaves : List Leaf) : Option Nat :=
  (leaves.filterMap fun | .text length => some length | _ => none).max?

/-- The narrowest type for all leaves, which are numbers; none if one is too large for any type. -/
def typeOf (leaves : List Leaf) : Option NumberType :=
  let wholes := leaves.filterMap fun | .whole z => some z | _ => none
  let isReal : Leaf → Bool := fun | .real _ => true | _ => false
  let least := (wholeRange true 64).1
  let small (z : Int) : Bool := least ≤ z && z ≤ (wholeRange true 64).2
  if wholes.any fun z => z < least || (wholeRange false 64).2 < z then none
  else if leaves.isEmpty || leaves.any isReal then some (.element .f64)
  else if wholes.isEmpty then some .truth
  else if wholes.all small then some (.element .i64)
  else some (if wholes.any (· < 0) then .element .f64 else .u64)

def Leaf.scalar : Leaf → Scalar
  | .truth b => .whole b.toNat
  | .whole z => .whole z
  | .real x => .real x
  | _ => .whole 0

end Gather

def Gathered.ofValue (v : Value) : Except Fault Gathered :=
  match Gather.collect v with
  | none => .error (.failed .value ("setting an array element with a sequence. "
      ++ "The requested array has an inhomogeneous shape"))
  | some (shape, leaves) =>
    match Gather.otherType? leaves, Gather.textLength? leaves, Gather.typeOf leaves with
    | some typeName, _, _ => .ok (.others shape typeName)
    | none, some length, _ => .ok (.texts shape length)
    | none, none, none => .ok (.others shape "int")
    | none, none, some type =>
      let cells := (leaves.map fun leaf => type.cast leaf.scalar).toArray
      .ok (.numbers (Tensor.ofFn type shape fun k => cells.getD k type.zero))

end FrameBatch
