import FrameBatch.Engine.Backend
import FrameBatch.Plate.Reading

namespace FrameBatch

/-- Decoders that try out how a pipeline deals with what users write. -/
inductive TrialDecoder where
  | failPrepare
  | failDecode
  | bugDecode
  | dropFirst
  | reverse
  deriving DecidableEq

inductive Decoder where
  | location
  | plate
  | trial (d : TrialDecoder)
  deriving DecidableEq, Inhabited

namespace Decoder

def typeName : Decoder → String
  | .location => "ResultDecoder"
  | .plate => "LicensePlateDecoder"
  | .trial .failPrepare => "FailPrepare"
  | .trial .failDecode => "FailDecode"
  | .trial .bugDecode => "BugDecode"
  | .trial .dropFirst => "DropFirst"
  | .trial .reverse => "Reverse"

def makeResult (decoder : Decoder) (location : Rect) : Result :=
  match decoder with
  | .plate => { location, reading := some {} }
  | _ => { location }

/-- A field that only descriptors of plates have. -/
def plateField {σ α : Type} (d : Descriptor) (field : String) (x : Act σ α) : Act σ α :=
  if d.family = .plate then x
  else Act.fail (.failed .field ("'" ++ d.family.typeName ++ "' object has no attribute '"
    ++ field ++ "'"))

/-- The sequence input of a request that is about to run: zero at the first element, and one at the
following elements up to the length of the first axis. -/
def sequenceStart (t : Tensor) : Except Fault Tensor :=
  match t.shape with
  | [] => .error (.failed .index "tuple index out of range")
  | length :: _ =>
    if t.size = 0 then .error (.failed .index "index 0 is out of bounds for size 0")
    else .ok (t.mapPlaces t.type fun k old =>
      if k = 0 then t.type.zero else if k < length then t.type.one else old)

section

variable {ε : Type} [Backend ε]

def prepare (decoder : Decoder) (d : Descriptor) : Act ε Unit :=
  match decoder with
  | .plate => plateField d "get_seq_input_name" do
    let t ← Backend.tensor d.sequence
    Backend.setTensor d.sequence (← sequenceStart t)
  | .trial .failPrepare => Act.fail (.refused (.reported .runtime "prepare refused"))
  | _ => return

/-- The results of a batch that has run. The state holds the results that were made for its frames,
which a failure may leave decoded in part. -/
def decode (decoder : Decoder) (d : Descriptor) : Act (ε × List Result) (List Result) :=
  match decoder with
  | .location => do return (← Act.get).2
  | .plate => do
    let output ← Act.on Prod.fst (fun e s => (e, s.2)) (Backend.tensor d.output)
    plateField d "get_max_sequence_size" do
      Act.on Prod.snd (fun rs s => (s.1, rs))
        (Plate.readAll (TensorName.text d.output) output Plate.maxSequence)
      return (← Act.get).2
  | .trial .failPrepare => do return (← Act.get).2
  | .trial .failDecode => Act.fail (.refused (.reported .runtime "decode refused"))
  | .trial .bugDecode => Act.fail (.refused (.reported .value "decode bug"))
  | .trial .dropFirst => do return (← Act.get).2.drop 1
  | .trial .reverse => do return (← Act.get).2.reverse

end

end Decoder

end FrameBatch
