import FrameBatch.Act
import FrameBatch.Plate.Symbols
import FrameBatch.Result
import FrameBatch.Tensor.Basic

namespace FrameBatch.Plate

def logger : String := "vinobatch.inferences.license_plate_detection"

def index (v : Scalar) : Except Fault Int :=
  match v with
  | .whole z => .ok z
  | .real x => (Value.float x).toInt

def isSymbol (i : Int) : Bool := 0 ≤ i && i < symbols.length

/-- The symbols of a stretch, and the index that broke it off if that was neither a symbol nor the
end of the sequence. -/
def readStretch : List Scalar → Except Fault (List Nat × Option Int)
  | [] => .ok ([], none)
  | v :: vs => do
    let i ← index v
    if i = sequenceEnd then return ([], none)
    else if !isSymbol i then return ([], some i)
    else
      let (rest, stop) ← readStretch vs
      return (i.toNat :: rest, stop)

def stretch (output : Tensor) (size i : Nat) : List Scalar :=
  (output.data.extract (i * size) ((i + 1) * size)).toList

def readOne (output : Tensor) (size i : Nat) (r : Result) : Act Unit Result := do
  let (sequence, stop) ← readStretch (stretch output size i)
  match stop with
  | some symbol =>
    Act.log .warning logger
      (s!"Unknown license symbol {symbol} for plate at " ++ r.location.text)
  | none => pure ()
  return { r with reading := some { license := license sequence, sequence } }

/-- Read the plates from number `i` on. The plates before a failure keep what was read. -/
def readFrom (output : Tensor) (size : Nat) (i : Nat) : List Result → Act (List Result) Unit
  | [] => Act.set []
  | r :: rest => fun _ =>
    let first := readOne output size i r ()
    match first.result with
    | .error e => ⟨.error e, r :: rest, first.trail⟩
    | .ok r' =>
      let others := readFrom output size (i + 1) rest rest
      ⟨others.result, r' :: others.state, first.trail ++ others.trail⟩

def readAll (name : String) (output : Tensor) (size : Nat) : Act (List Result) Unit := do
  let results ← Act.get
  if output.size < results.length * size then
    Act.fail (.refused (.outputTooShort name output.size results.length size))
  readFrom output size 0 results

end FrameBatch.Plate
