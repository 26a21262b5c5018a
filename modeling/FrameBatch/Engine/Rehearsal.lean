import FrameBatch.Engine.Backend

/-!
An engine that plays a script in its own buffers, for trying out pipelines without a runtime.
-/

namespace FrameBatch

namespace Rehearsal

structure Request where
  inputs : Entries String Tensor
  outputs : Entries String Tensor
  running : Option RunPlan := none

end Rehearsal

structure Rehearsal where
  /-- the leading dimension of the bound input and of the outputs; that of a batch if it is zero -/
  slots : Int := 0
  script : Script := ⟨[], 0⟩
  request : Option Rehearsal.Request := none

namespace Rehearsal

def withLeading (slots : Int) : List Dim → Except Fault (List Dim)
  | [] => .error (.failed .index "list assignment index out of range")
  | _ :: rest => .ok (some slots :: rest)

def buffers (shape : TensorInfo → Except Fault (List Dim)) (infos : List TensorInfo) :
    Except Fault (Entries String Tensor) :=
  infos.foldlM (fun entries info => do
    return entries.put info.name (← zerosOf (← shape info) info.elementType)) []

def load (fit : Act Descriptor.Fitting Unit) : Act (Loading Rehearsal) Unit := do
  Loading.onFitting fit
  let l ← Act.get
  let slots := if l.engine.slots = 0 then l.descriptor.maxBatch else l.engine.slots
  let inputs ← buffers (fun info =>
    if some info.name = l.descriptor.input then withLeading slots info.shape else .ok info.shape)
    l.network.inputs
  let outputs ← buffers (fun info => withLeading slots info.shape) l.network.outputs
  Loading.onEngine (Act.modify fun e => { e with request := some { inputs, outputs } })

def theRequest : Act Rehearsal Request := do
  match (← Act.get).request with
  | some r => return r
  | none => Act.fail (.failed .field "'NoneType' object has no attribute 'get_tensor'")

def setRequest (r : Request) : Act Rehearsal Unit :=
  Act.modify fun e => { e with request := some r }

def tensor (name : TensorName) : Act Rehearsal Tensor := do
  let r ← theRequest
  match (r.inputs.get? name.text).or (r.outputs.get? name.text) with
  | some t => return t
  | none => Act.fail (.failed .key name.text)

def setTensor (name : TensorName) (t : Tensor) : Act Rehearsal Unit := do
  let r ← theRequest
  if r.inputs.has name.text then setRequest { r with inputs := r.inputs.put name.text t }
  else setRequest { r with outputs := r.outputs.put name.text t }

def start : Act Rehearsal Unit := do
  let r ← theRequest
  let plan := (← Act.get).script.plan
  Act.modify fun e => { e with script := e.script.advance }
  match plan.reject with
  | some text => Act.fail (.refused (.reported .runtime text))
  | none => setRequest { r with running := some plan }

def writeOutput (name : String) (output : RunOutput) : Act Rehearsal Unit := do
  let r ← theRequest
  let value ← RunPlan.value r.inputs output
  match r.outputs.get? name with
  | none => Act.fail (.failed .key name)
  | some buffer => setRequest { r with outputs := r.outputs.put name (← buffer.assign value) }

def complete : Act Rehearsal Unit := do
  let r ← theRequest
  match r.running with
  | none => return
  | some plan =>
    setRequest { r with running := none }
    match plan.fault? with
    | some f => Act.fail f
    | none => plan.outputs.forM fun (name, output) => writeOutput name output

def wait (timeout : Value) : Act Rehearsal Bool := do
  match (← theRequest).running with
  | none => return true
  | some plan =>
    if plan.hold && timeout.sameScalar (.int 0) then return false
    complete
    return true

def infer : Act Rehearsal Unit := do
  start
  complete

def release (e : Rehearsal) : Rehearsal :=
  { e with
    request := e.request.map fun r =>
      { r with running := r.running.map fun plan => { plan with hold := false } } }

instance : Backend Rehearsal where
  isLoaded e := e.request.isSome
  load := load
  tensor := tensor
  setTensor := setTensor
  start := start
  wait := wait
  infer := infer
  closeRequest := Act.fail (.failed .field "the request cannot be closed")
  release := release
  close := do
    Act.note .freed
    Act.modify fun e => { e with request := none }

end Rehearsal

end FrameBatch
