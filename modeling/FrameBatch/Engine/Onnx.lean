import FrameBatch.Engine.Backend
import FrameBatch.Text.Case

/-!
Engines on a session of the ONNX runtime. Inputs live in buffers that callers write into; a run
converts them to the types the graph declares and publishes all its outputs at once. One worker
carries out the runs, so at most one goes on at a time.
-/

namespace FrameBatch.Onnx

structure TensorSpec where
  name : String
  type : String
  shape : List Dim

structure Source where
  inputs : List TensorSpec := []
  outputs : List TensorSpec := []
  fail : Option String := none
  deriving Inhabited

abbrev RunResult := Except Fault (Entries String Tensor)

inductive Job where
  /-- the run goes on; an input without a copy is read from its buffer at the end -/
  | running (plan : RunPlan) (copies : Entries String Tensor)
  | finished (result : RunResult)

structure Request where
  buffers : Entries String Tensor
  declared : Entries String ElementType
  outputNames : List String
  outputs : Entries String Tensor := []
  job : Option Job := none
  closed : Bool := false

structure Engine where
  device : String
  declared : Entries String ElementType
  script : Script
  /-- the session is given up when the engine is closed -/
  isOpen : Bool := true
  request : Option Request := none

def logger : String := "vinobatch.engines.onnx_engine"

def elementTypes : List (String × ElementType) := [
  ("tensor(uint8)", .u8), ("tensor(int8)", .i8), ("tensor(uint16)", .u16),
  ("tensor(int16)", .i16), ("tensor(int32)", .i32), ("tensor(int64)", .i64),
  ("tensor(float16)", .f16), ("tensor(float)", .f32), ("tensor(double)", .f64)]

def tensorInfo (spec : TensorSpec) : Except Fault TensorInfo :=
  match elementTypes.lookup spec.type with
  | some type => .ok { name := spec.name, shape := spec.shape, elementType := type }
  | none => refuse (.tensorType spec.type spec.name)

def discover (source : Source) : Except Fault (List TensorInfo × List TensorInfo) := do
  return (← source.inputs.mapM tensorInfo, ← source.outputs.mapM tensorInfo)

def providers (device : String) : List String :=
  if (Text.lower device).startsWith "cuda" then ["CUDAExecutionProvider"]
  else ["CPUExecutionProvider"]

def create (file device : String) (source : Source) (script : Script) :
    Act Unit (Engine × Network) := do
  let providers := providers device
  Act.log .info logger
    ("Initializing ONNX Runtime with providers=" ++ (Value.list (providers.map .text)).shown)
  Act.call (.session file providers)
  match source.fail with
  | some text => Act.fail (.refused (.reported .runtime text))
  | none =>
    let (inputs, outputs) ← discover source
    let types ← inputs.mapM fun info => info.elementType.type
    let declared := Entries.ofList ((inputs.map (·.name)).zip types)
    return ({ device := Text.lower device, declared, script }, { inputs, outputs })

/-- The shape of the buffer of an input: the bound one is sized for a batch, and no dimension may be
dynamic. -/
def bufferShape (d : Descriptor) (info : TensorInfo) : Except Fault (List Dim) := do
  let shape ← if some info.name = d.input then info.batchedShape d.maxBatch else .ok info.shape
  if shape.any Option.isNone then refuse (.dynamicDimensions info.name info.shape)
  return shape

/-- Size the inputs one after the other, and allocate their buffers. The sizes found so far stay in
the network if a later input is refused. -/
def allocate (d : Descriptor) :
    List TensorInfo → Except Fault Unit × List TensorInfo × List (String × Tensor)
  | [] => (.ok (), [], [])
  | info :: rest =>
    match bufferShape d info with
    | .error e => (.error e, info :: rest, [])
    | .ok shape =>
      let sized := { info with shape }
      match zerosOf shape info.elementType with
      | .error e => (.error e, sized :: rest, [])
      | .ok buffer =>
        let (result, infos, buffers) := allocate d rest
        (result, sized :: infos, (info.name, buffer) :: buffers)

def load (fit : Act Descriptor.Fitting Unit) : Act (Loading Engine) Unit := do
  Loading.onFitting fit
  let l ← Act.get
  let (result, inputs, buffers) := allocate l.descriptor l.network.inputs
  Act.set { l with network := { l.network with inputs } }
  result
  let buffers := Entries.ofList buffers
  Loading.onEngine (Act.modify fun e => { e with
    request := some {
      buffers
      declared := e.declared
      outputNames := l.network.outputs.map (·.name) } })
  let shapes := buffers.map fun (name, t) =>
    (Value.text name, Value.tuple (t.shape.map fun (n : Nat) => .int n))
  Act.log .info logger ("ONNX engine loaded " ++ l.descriptor.category ++ " with buffers "
    ++ (Value.map shapes).shown)

def theRequest : Act Engine Request := do
  match (← Act.get).request with
  | some r => return r
  | none => Act.fail (.failed .field "'NoneType' object has no attribute 'get_tensor'")

def setRequest (r : Request) : Act Engine Unit := Act.modify fun e => { e with request := some r }

def tensor (name : TensorName) : Act Engine Tensor := do
  let r ← theRequest
  match (r.buffers.get? name.text).or (r.outputs.get? name.text) with
  | some t => return t
  | none => Act.fail (.refused (.noTensor name.text))

def setTensor (name : TensorName) (t : Tensor) : Act Engine Unit := do
  let r ← theRequest
  if r.buffers.has name.text then setRequest { r with buffers := r.buffers.put name.text t }
  else setRequest { r with outputs := r.outputs.put name.text t }

namespace Request

def declaredType (r : Request) (name : String) (buffer : Tensor) : NumberType :=
  ((r.declared.get? name).map NumberType.element).getD buffer.type

def feeds (r : Request) : Entries String Tensor :=
  r.buffers.map fun (name, buffer) => (name, buffer.cast (r.declaredType name buffer))

/-- The inputs that a run copies when it starts: those that are not in their declared type yet. -/
def copies (r : Request) : Entries String Tensor :=
  (r.buffers.filter fun (name, buffer) => r.declaredType name buffer != buffer.type).map
    fun (name, buffer) => (name, buffer.cast (r.declaredType name buffer))

def seen (r : Request) (copies : Entries String Tensor) : Entries String Tensor :=
  r.buffers.map fun (name, buffer) => (name, (copies.get? name).getD buffer)

/-- The result of a run. The values of the outputs that it yields are paired with the output names
in order. -/
def runResult (r : Request) (plan : RunPlan) (inputs : Entries String Tensor) : RunResult :=
  let outcome : RunResult :=
    match plan.fault? with
    | some f => .error f
    | none => do
      let values ← (r.outputNames.filterMap fun name => plan.outputs.lookup name).mapM
        (RunPlan.value inputs)
      return Entries.ofList (r.outputNames.zip values)
  match outcome with
  | .ok outputs => .ok outputs
  | .error .interrupted => .error .interrupted
  | .error f => .error (.refused (.runFailed f.shown))

end Request

def beginRun (r : Request) : Act Engine RunPlan := do
  let e ← Act.get
  if e.isOpen then
    Act.call (.run r.outputNames
      (r.feeds.map fun (name, t) => { name, type := t.type, shape := t.shape }))
    Act.set { e with script := e.script.advance }
    return e.script.plan
  else return { fail := some "'NoneType' object has no attribute 'run'" }

def start : Act Engine Unit := do
  let r ← theRequest
  match r.job with
  | some (.running ..) => Act.fail (.refused .requestBusy)
  | _ =>
    if r.closed then
      Act.fail (.failed .runtime "cannot schedule new futures after shutdown")
    let plan ← beginRun r
    let job := if plan.hold then .running plan r.copies else .finished (r.runResult plan r.feeds)
    setRequest { r with job := some job }

/-- Take over the outputs of a finished run, or report its fault. -/
def collect (r : Request) (result : RunResult) : Act Engine Bool := do
  setRequest { r with job := none }
  let outputs ← result
  setRequest { r with job := none, outputs }
  return true

def maxTimeout : Int := 9223372036

def wait (timeout : Value) : Act Engine Bool := do
  let r ← theRequest
  match r.job with
  | none => return true
  | some (.finished result) => collect r result
  | some (.running plan copies) =>
    if timeout.isNull then collect r (r.runResult plan (r.seen copies))
    else match timeout.number? with
      | none => Act.lift (wrongType ("'>' not supported between instances of '" ++ timeout.typeName
          ++ "' and 'int'"))
      | some seconds =>
        if (Binary.ofInt maxTimeout).lt seconds then
          Act.fail (.failed .overflow "timeout value is too large")
        return false

def infer : Act Engine Unit := do
  let _ ← wait .null
  let r ← theRequest
  let plan ← beginRun r
  let outputs ← r.runResult plan r.feeds
  setRequest { r with outputs }

def release (e : Engine) : Engine :=
  { e with
    request := e.request.map fun r =>
      match r.job with
      | some (.running plan copies) =>
        { r with job := some (.finished (r.runResult plan (r.seen copies))) }
      | _ => r }

def closeRequest : Act Engine Unit := do
  let r ← theRequest
  setRequest { r with closed := true }

instance : Backend Engine where
  isLoaded e := e.request.isSome
  load := load
  tensor := tensor
  setTensor := setTensor
  start := start
  wait := wait
  infer := infer
  closeRequest := closeRequest
  release := release
  close := do
    Act.note .freed
    Act.modify fun e => { e with request := none, isOpen := false }

end FrameBatch.Onnx
