import FrameBatch.Act
import FrameBatch.Descriptor.Basic

namespace FrameBatch.Descriptor

abbrev Fitting := Descriptor × Network

def conflict? (d : Descriptor) (bindings : List (Role × String)) :
    Option (Role × String × String) :=
  bindings.findSome? fun (role, name) =>
    match d.bound role with
    | some current => if current == name then none else some (role, current, name)
    | none => none

/-- Bind all parts, or none if one of them is bound to another name. -/
def setBindings (bindings : List (Role × String)) : Act Fitting Unit := do
  let (d, network) ← Act.get
  match d.conflict? bindings with
  | some (role, current, provided) =>
    Act.fail (.refused (.alreadyBound d.category role.name current provided))
  | none =>
    Act.set (bindings.foldl (fun d (role, name) => d.bind role name) d, network)
    let shown := bindings.map fun (role, name) => (Value.text role.name, Value.text name)
    Act.log .info "vinobatch.models.base"
      ("Bound " ++ d.category ++ " tensors for " ++ d.modelName ++ ": " ++ (Value.map shown).shown)

def plateLogger : String := "vinobatch.models.license_plate_detection_model"

def asPlateImage (info : TensorInfo) : TensorInfo :=
  { info with elementType := .known .u8, layout := some "NCHW" }

/-- The image input and the sequence input of two inputs, of which one has rank four. -/
def plateInputs? (network : Network) : Option (TensorInfo × TensorInfo) :=
  match network.inputs with
  | [a, b] =>
    if a.rank = 4 ∧ b.rank ≠ 4 then some (a, b)
    else if b.rank = 4 ∧ a.rank ≠ 4 then some (b, a)
    else none
  | _ => none

def patchPlate (network : Network) : Network :=
  { network with
    inputs := network.inputs.map fun info => if info.rank = 4 then asPlateImage info else info }

def holdsSequence (info : TensorInfo) : Bool :=
  info.shape.head? == some (some (Plate.maxSequence : Int))

def acceptPlate : Act Fitting Unit := do
  let (d, network) ← Act.get
  Act.log .info plateLogger ("Checking inputs for model " ++ d.modelName)
  if network.inputs.length ≠ 2 then
    Act.fail (.refused (.inputCount network.inputs.length))
  match plateInputs? network with
  | none => Act.fail (.refused (.imageInput (network.inputs.map (·.shape))))
  | some (image, sequence) =>
    if !holdsSequence sequence then
      Act.fail (.refused (.sequenceSize Plate.maxSequence sequence.name sequence.shape))
    Act.log .info plateLogger ("Checking outputs for model " ++ d.modelName)
    match network.outputs with
    | [output] =>
      Act.set (d, patchPlate network)
      setBindings [(.input, image.name), (.sequence, sequence.name), (.output, output.name)]
    | outputs => Act.fail (.refused (.outputCount outputs.length))

def acceptSingle : Act Fitting Unit := do
  let (_, network) ← Act.get
  match network.inputs, network.outputs with
  | [input], [output] =>
    if input.rank = 4 then setBindings [(.input, input.name), (.output, output.name)]
    else Act.fail (.refused .simpleInput)
  | [input], _ => Act.fail (.refused (if input.rank = 4 then .simpleOutput else .simpleInput))
  | _, _ => Act.fail (.refused .simpleInput)

def acceptUnchecked : Act Fitting Unit := do
  let (_, network) ← Act.get
  match network.inputs, network.outputs with
  | input :: _, output :: _ => setBindings [(.input, input.name), (.output, output.name)]
  | _, _ => Act.fail (.failed .index "list index out of range")

def accept : Act Fitting Unit := do
  match (← Act.get).1.family with
  | .plate => acceptPlate
  | .single => acceptSingle
  | .unchecked => acceptUnchecked

end FrameBatch.Descriptor
