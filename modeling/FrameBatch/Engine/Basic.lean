import FrameBatch.Engine.Onnx
import FrameBatch.Engine.OpenVino
import FrameBatch.Engine.Rehearsal

namespace FrameBatch

inductive Engine where
  | rehearsal (e : Rehearsal)
  | onnx (e : Onnx.Engine)
  | openvino (e : OpenVino.Engine)

namespace Engine

def typeName : Engine → String
  | .rehearsal _ => "FakeEngine"
  | .onnx _ => "OnnxEngine"
  | .openvino _ => "OpenVinoEngine"

def device : Engine → Option String
  | .rehearsal _ => none
  | .onnx e => some e.device
  | .openvino e => some e.device

/-- An act of any backend, carried out by the backend that an engine has. -/
def dispatch {α : Type} (x : (ε : Type) → [Backend ε] → Act ε α) : Act Engine α := fun engine =>
  match engine with
  | .rehearsal e =>
    let o := x Rehearsal e
    ⟨o.result, .rehearsal o.state, o.trail⟩
  | .onnx e =>
    let o := x Onnx.Engine e
    ⟨o.result, .onnx o.state, o.trail⟩
  | .openvino e =>
    let o := x OpenVino.Engine e
    ⟨o.result, .openvino o.state, o.trail⟩

def load (fit : Act Descriptor.Fitting Unit) : Act (Loading Engine) Unit := fun l =>
  match l.engine with
  | .rehearsal e =>
    let o := Backend.load (ε := Rehearsal) fit { l with engine := e }
    ⟨o.result, { o.state with engine := .rehearsal o.state.engine }, o.trail⟩
  | .onnx e =>
    let o := Backend.load (ε := Onnx.Engine) fit { l with engine := e }
    ⟨o.result, { o.state with engine := .onnx o.state.engine }, o.trail⟩
  | .openvino e =>
    let o := Backend.load (ε := OpenVino.Engine) fit { l with engine := e }
    ⟨o.result, { o.state with engine := .openvino o.state.engine }, o.trail⟩

instance : Backend Engine where
  isLoaded
    | .rehearsal e => Backend.isLoaded e
    | .onnx e => Backend.isLoaded e
    | .openvino e => Backend.isLoaded e
  load := load
  tensor name := dispatch fun _ => Backend.tensor name
  setTensor name t := dispatch fun _ => Backend.setTensor name t
  start := dispatch fun _ => Backend.start
  wait timeout := dispatch fun _ => Backend.wait timeout
  infer := dispatch fun _ => Backend.infer
  closeRequest := dispatch fun _ => Backend.closeRequest
  release
    | .rehearsal e => .rehearsal (Backend.release e)
    | .onnx e => .onnx (Backend.release e)
    | .openvino e => .openvino (Backend.release e)
  close := dispatch fun _ => Backend.close

end Engine

end FrameBatch
