import FrameBatch.Engine.Backend
import FrameBatch.Text.Case

/-!
Engines on the OpenVINO runtime. A model that was read is patched and reshaped to what the network
says, and then compiled; the compiled model holds the tensors of the request.
-/

namespace FrameBatch.OpenVino

structure TensorSpec where
  name : String
  shape : Option (List Dim)
  type : NumberType := .element .f32

structure Source where
  inputs : List TensorSpec := []
  outputs : List TensorSpec := []
  failReshape : Option String := none
  deriving Inhabited

structure ModelTensor where
  name : String
  shape : List Dim
  type : NumberType
  layout : Option String := none

structure Model where
  inputs : List ModelTensor
  outputs : List ModelTensor

structure Request where
  tensors : Entries String Tensor
  inputNames : List String
  running : Option RunPlan := none

structure Engine where
  device : String
  modelFile : String
  source : Source
  /-- given up, with the runtime, when the engine is closed -/
  model : Option Model
  declared : Entries String TensorInfo
  script : Script
  request : Option Request := none

def logger : String := "vinobatch.engines.openvino_engine"

def tensorInfo (spec : TensorSpec) : Except Fault TensorInfo :=
  match spec.shape with
  | none => refuse (.dynamicRank spec.name)
  | some shape => do
    return { name := spec.name, shape, elementType := ← spec.type.element? }

def discover (source : Source) : Except Fault Network := do
  return { inputs := ← source.inputs.mapM tensorInfo, outputs := ← source.outputs.mapM tensorInfo }

def TensorSpec.toModel (spec : TensorSpec) : ModelTensor :=
  { name := spec.name, shape := spec.shape.getD [], type := spec.type }

def shapesText (infos : List TensorInfo) : String :=
  (Value.list (infos.map fun info =>
    .tuple [.text info.name, .tuple (info.shape.map TensorInfo.dimValue)])).shown

/-- Start the runtime for a device; threads count only on the processor itself. -/
def startRuntime (device : String) (threads : Value) : Act Unit String := do
  let device := Text.upper device
  if device = "CPU" && threads.isTruthy then
    Act.call (.setProperty "CPU"
      (.map [(.text "INFERENCE_NUM_THREADS", .int (← threads.toInt))]))
  Act.log .info logger ("Initializing OpenVINO with device=" ++ device)
  return device

def create (device file : String) (source : Source) (script : Script) :
    Act Unit (Engine × Network) := do
  Act.call (.readModel file)
  let network ← discover source
  let model : Model := ⟨source.inputs.map TensorSpec.toModel, source.outputs.map TensorSpec.toModel⟩
  let declared := Entries.ofList (network.inputs.map fun info => (info.name, info))
  Act.log .info logger ("OpenVINO network " ++ file ++ ": inputs=" ++ shapesText network.inputs
    ++ " outputs=" ++ shapesText network.outputs)
  return ({ device, modelFile := file, source, model := some model, declared, script }, network)

/-- The parts of the runtime are gone after the engine was closed. -/
def closedFault : Fault := .failed .field "'NoneType' object has no attribute 'compile_model'"

def Model.adjustInput (m : Model) (name : String) (f : ModelTensor → ModelTensor) : Model :=
  { m with inputs := m.inputs.map fun t => if t.name = name then f t else t }

def theModel : Act (Loading Engine) Model := do
  match (← Act.get).engine.model with
  | some m => return m
  | none => Act.fail closedFault

def setModel (m : Model) : Act (Loading Engine) Unit :=
  Loading.onEngine (Act.modify fun e => { e with model := some m })

/-- The patches that bring an input to what the network says: its element type and its layout, where
they differ from what was declared. Returns the patched model and whether anything was patched. -/
def patchInput (info : TensorInfo) (m : Model) : Act (Loading Engine) (Model × Bool) := do
  let declared := (← Act.get).engine.declared.get? info.name |>.getD info
  let retype := info.elementType != declared.elementType
  let relayout := info.layout.isSome && info.layout != declared.layout
  let type ← info.elementType.type
  if retype then
    Act.call (.setElementType info.name type)
  if relayout then
    Act.call (.setTensorLayout info.name (info.layout.getD ""))
    Act.call (.setModelLayout info.name (info.layout.getD ""))
  let typed (t : ModelTensor) : ModelTensor :=
    if retype then { t with type := .element type } else t
  let laid (t : ModelTensor) : ModelTensor :=
    if relayout then { t with layout := info.layout } else t
  return (m.adjustInput info.name fun t => laid (typed t), retype || relayout)

def patch : Act (Loading Engine) Unit := do
  let m ← theModel
  let (m', patched) ← (← Act.get).network.inputs.foldlM (fun (acc : Model × Bool) info => do
    let (next, changed) ← patchInput info acc.1
    return (next, acc.2 || changed)) (m, false)
  if patched then
    Act.call .build
    setModel m'

def reshape : Act (Loading Engine) Unit := do
  let l ← Act.get
  let name := l.descriptor.input
  let info ← l.network.input (TensorName.text name)
  match info.shape with
  | [] => Act.fail (.failed .index "list assignment index out of range")
  | lead :: rest =>
    let target : List Dim := some l.descriptor.maxBatch :: rest
    if target != lead :: rest then
      let shown := (Value.list (target.map TensorInfo.dimValue)).shown
      Act.log .info logger ("Reshaping input '" ++ info.name ++ "' to " ++ shown)
      let m ← theModel
      Act.call (.reshape info.name (target.map (·.getD (-1))))
      match l.engine.source.failReshape with
      | some text => Act.fail (.refused (.reshape l.descriptor.maxBatch text))
      | none =>
        setModel (m.adjustInput info.name fun t => { t with shape := target })
        Loading.onFitting (Act.modify fun (d, network) => (d, { network with
          inputs := resized name target network.inputs }))
where
  resized (name : TensorName) (target : List Dim) : List TensorInfo → List TensorInfo
    | [] => []
    | info :: rest =>
      if some info.name = name then { info with shape := target } :: rest
      else info :: resized name target rest

def ModelTensor.zeros (t : ModelTensor) : Tensor :=
  Tensor.zeros t.type (t.shape.map fun d => (d.getD 1).toNat)

def compile : Act (Loading Engine) Unit := do
  let m ← theModel
  let l ← Act.get
  Act.call (.compile l.engine.device)
  let tensors := Entries.ofList ((m.inputs ++ m.outputs).map fun t => (t.name, t.zeros))
  Loading.onEngine (Act.modify fun e => { e with
    request := some { tensors, inputNames := m.inputs.map (·.name) } })
  Act.log .info logger ("OpenVINO engine loaded " ++ l.descriptor.category ++ " on "
    ++ l.engine.device)

def load (fit : Act Descriptor.Fitting Unit) : Act (Loading Engine) Unit := do
  Loading.onFitting fit
  patch
  reshape
  compile

def theRequest : Act Engine Request := do
  match (← Act.get).request with
  | some r => return r
  | none => Act.fail (.failed .field "'NoneType' object has no attribute 'get_tensor'")

def setRequest (r : Request) : Act Engine Unit := Act.modify fun e => { e with request := some r }

def tensor (name : TensorName) : Act Engine Tensor := do
  match (← theRequest).tensors.get? name.text with
  | some t => return t
  | none => Act.fail (.refused (.noBackendTensor name.text))

def setTensor (name : TensorName) (t : Tensor) : Act Engine Unit := do
  let r ← theRequest
  setRequest { r with tensors := r.tensors.put name.text t }

/-- Take the next run of the script; a refusal is seen as an asynchronous start. -/
def beginRun (call : Call) : Act Engine Unit := do
  let r ← theRequest
  let plan := (← Act.get).script.plan
  Act.modify fun e => { e with script := e.script.advance }
  match plan.reject with
  | some text =>
    Act.call .startAsync
    Act.fail (.refused (.reported .runtime text))
  | none =>
    Act.call call
    setRequest { r with running := some plan }

def start : Act Engine Unit := beginRun .startAsync

def publish (name : String) (output : RunOutput) : Act Engine Unit := do
  let r ← theRequest
  let value ← RunPlan.value r.tensors output
  setRequest { r with tensors := r.tensors.put name value }

/-- End the run that goes on: it is over even if it failed. -/
def complete : Act Engine Unit := do
  let r ← theRequest
  match r.running with
  | none => return
  | some plan =>
    setRequest { r with running := none }
    match plan.fault? with
    | some f => Act.fail f
    | none => plan.outputs.forM fun (name, output) => publish name output

def milliseconds (timeout : Value) : Except Fault Int :=
  match timeout with
  | .float x => (Value.float (Format.double.mul x (Format.double.round (.ofInt 1000)))).toInt
  | .text s => (Value.text (String.join (List.replicate 1000 s))).toInt
  | .bool b => .ok (1000 * b.toNat)
  | .int z => .ok (1000 * z)
  | v => wrongType ("no whole number of milliseconds in a " ++ v.typeName)

def wait (timeout : Value) : Act Engine Bool := do
  let r ← theRequest
  if timeout.isNull then
    Act.call .wait
    complete
    return true
  else
    let limit ← milliseconds timeout
    Act.call (.waitFor limit)
    if r.running.any (·.hold) then return false
    complete
    return true

def infer : Act Engine Unit := do
  beginRun .infer
  complete

def release (e : Engine) : Engine :=
  { e with
    request := e.request.map fun r =>
      { r with running := r.running.map fun plan => { plan with hold := false } } }

instance : Backend Engine where
  isLoaded e := e.request.isSome
  load := load
  tensor := tensor
  setTensor := setTensor
  start := start
  wait := wait
  infer := infer
  closeRequest := Act.fail (.failed .field "the request cannot be closed")
  release := release
  close := do
    Act.note .freed
    Act.modify fun e => { e with request := none, model := none }

end FrameBatch.OpenVino
