import FrameBatch.Engine.Factory
import FrameBatch.Proofs.Act.Tame
import FrameBatch.Proofs.Engine.Any

namespace FrameBatch

open Act (FreesNothing)

class Backend.Freeing (ε : Type) [Backend ε] : Prop where
  tensor (name : TensorName) : FreesNothing (Backend.tensor name : Act ε Tensor)
  setTensor (name : TensorName) (t : Tensor) :
    FreesNothing (Backend.setTensor name t : Act ε Unit)
  start : FreesNothing (Backend.start : Act ε Unit)
  wait (timeout : Value) : FreesNothing (Backend.wait timeout : Act ε Bool)
  infer : FreesNothing (Backend.infer : Act ε Unit)
  load {fit : Act Descriptor.Fitting Unit} (fitting : FreesNothing fit) :
    FreesNothing (Backend.load fit : Act (Loading ε) Unit)
  close (e : ε) : freed ((Backend.close : Act ε Unit) e).trail = 1
  unloaded_of_close (e : ε) : Backend.isLoaded ((Backend.close : Act ε Unit) e).state = false

attribute [grind ←] Backend.Freeing.tensor Backend.Freeing.setTensor Backend.Freeing.start
  Backend.Freeing.wait Backend.Freeing.infer Backend.Freeing.load

namespace Loading

variable {ε α : Type}

@[grind ←]
theorem freesNothing_onFitting {x : Act Descriptor.Fitting α} (fitting : FreesNothing x) :
    FreesNothing (onFitting x : Act (Loading ε) α) :=
  fitting.on_any

@[grind ←]
theorem freesNothing_onEngine {x : Act ε α} (using' : FreesNothing x) :
    FreesNothing (onEngine x) :=
  using'.on_any

end Loading

namespace Rehearsal

@[grind ←]
theorem freesNothing_theRequest : FreesNothing theRequest := by
  unfold theRequest
  grind

@[grind ←]
theorem freesNothing_setRequest (r : Request) : FreesNothing (setRequest r) := by
  unfold setRequest
  grind

@[grind ←]
theorem freesNothing_start : FreesNothing start := by
  unfold start
  grind

@[grind ←]
theorem freesNothing_writeOutput (name : String) (output : RunOutput) :
    FreesNothing (writeOutput name output) := by
  unfold writeOutput
  grind

@[grind ←]
theorem freesNothing_complete : FreesNothing complete := by
  unfold complete
  grind

instance : Backend.Freeing Rehearsal where
  tensor name := by
    show FreesNothing (Rehearsal.tensor name)
    unfold Rehearsal.tensor
    grind
  setTensor name t := by
    show FreesNothing (Rehearsal.setTensor name t)
    unfold Rehearsal.setTensor
    grind
  start := freesNothing_start
  wait timeout := by
    show FreesNothing (Rehearsal.wait timeout)
    unfold Rehearsal.wait
    grind
  infer := by
    show FreesNothing Rehearsal.infer
    unfold Rehearsal.infer
    grind
  load fitting := by
    show FreesNothing (Rehearsal.load _)
    unfold Rehearsal.load
    grind
  close _ := rfl
  unloaded_of_close _ := rfl

end Rehearsal

namespace Onnx

@[grind ←]
theorem freesNothing_theRequest : FreesNothing theRequest := by
  unfold theRequest
  grind

@[grind ←]
theorem freesNothing_setRequest (r : Request) : FreesNothing (setRequest r) := by
  unfold setRequest
  grind

@[grind ←]
theorem freesNothing_beginRun (r : Request) : FreesNothing (beginRun r) := by
  unfold beginRun
  grind

@[grind ←]
theorem freesNothing_collect (r : Request) (result : RunResult) :
    FreesNothing (collect r result) := by
  unfold collect
  grind

@[grind ←]
theorem freesNothing_wait (timeout : Value) : FreesNothing (wait timeout) := by
  unfold wait
  grind

instance : Backend.Freeing Engine where
  tensor name := by
    show FreesNothing (Onnx.tensor name)
    unfold Onnx.tensor
    grind
  setTensor name t := by
    show FreesNothing (Onnx.setTensor name t)
    unfold Onnx.setTensor
    grind
  start := by
    show FreesNothing Onnx.start
    unfold Onnx.start
    grind
  wait := freesNothing_wait
  infer := by
    show FreesNothing Onnx.infer
    unfold Onnx.infer
    grind
  load fitting := by
    show FreesNothing (Onnx.load _)
    unfold Onnx.load
    grind
  close _ := rfl
  unloaded_of_close _ := rfl

theorem freesNothing_create (file device : String) (source : Source) (script : Script) :
    FreesNothing (create file device source script) := by
  unfold create
  grind

end Onnx

namespace OpenVino

@[grind ←]
theorem freesNothing_theRequest : FreesNothing theRequest := by
  unfold theRequest
  grind

@[grind ←]
theorem freesNothing_setRequest (r : Request) : FreesNothing (setRequest r) := by
  unfold setRequest
  grind

@[grind ←]
theorem freesNothing_theModel : FreesNothing theModel := by
  unfold theModel
  grind

@[grind ←]
theorem freesNothing_setModel (m : Model) : FreesNothing (setModel m) := by
  unfold setModel
  grind

@[grind ←]
theorem freesNothing_patchInput (info : TensorInfo) (m : Model) :
    FreesNothing (patchInput info m) := by
  refine .bind .get fun l => .bind (.lift _) fun type => ?_
  dsimp only
  split
  · refine .bind (.call _) fun _ => ?_
    split
    · exact .bind (.call _) fun _ => .bind (.call _) fun _ => .pure _
    · exact .pure _
  · split
    · exact .bind (.call _) fun _ => .bind (.call _) fun _ => .pure _
    · exact .pure _

@[grind ←]
theorem freesNothing_patch : FreesNothing patch := by
  unfold patch
  grind

@[grind ←]
theorem freesNothing_reshape : FreesNothing reshape := by
  refine .bind .get fun l => .bind (.lift _) fun info => ?_
  split
  · exact .fail _
  · dsimp only
    split
    · refine .bind (.log _ _ _) fun _ => .bind freesNothing_theModel fun m =>
        .bind (.call _) fun _ => ?_
      split
      · exact .fail _
      · exact .bind (freesNothing_setModel _) fun _ =>
          Loading.freesNothing_onFitting (.modify_any _)
    · exact .pure _

@[grind ←]
theorem freesNothing_compile : FreesNothing compile := by
  unfold compile
  grind

@[grind ←]
theorem freesNothing_beginRun (c : Call) : FreesNothing (beginRun c) := by
  unfold beginRun
  grind

@[grind ←]
theorem freesNothing_publish (name : String) (output : RunOutput) :
    FreesNothing (publish name output) := by
  unfold publish
  grind

@[grind ←]
theorem freesNothing_complete : FreesNothing complete := by
  unfold complete
  grind

instance : Backend.Freeing Engine where
  tensor name := by
    show FreesNothing (OpenVino.tensor name)
    unfold OpenVino.tensor
    grind
  setTensor name t := by
    show FreesNothing (OpenVino.setTensor name t)
    unfold OpenVino.setTensor
    grind
  start := freesNothing_beginRun .startAsync
  wait timeout := by
    show FreesNothing (OpenVino.wait timeout)
    unfold OpenVino.wait
    grind
  infer := by
    show FreesNothing OpenVino.infer
    unfold OpenVino.infer
    grind
  load fitting := by
    show FreesNothing (OpenVino.load _)
    unfold OpenVino.load
    grind
  close _ := rfl
  unloaded_of_close _ := rfl

@[grind ←]
theorem freesNothing_startRuntime (device : String) (threads : Value) :
    FreesNothing (startRuntime device threads) := by
  unfold startRuntime
  grind

theorem freesNothing_create (device file : String) (source : Source) (script : Script) :
    FreesNothing (create device file source script) := by
  unfold create
  grind

end OpenVino

namespace Engine

theorem freesNothing_dispatch {α : Type} {x : (ε : Type) → [Backend ε] → Act ε α}
    (rehearsal : FreesNothing (x Rehearsal)) (onnx : FreesNothing (x Onnx.Engine))
    (openvino : FreesNothing (x OpenVino.Engine)) : FreesNothing (dispatch x) where
  state _ := trivial
  trail {e} _ := by
    cases e with
    | rehearsal e => exact rehearsal.trail (s := e) trivial
    | onnx e => exact onnx.trail (s := e) trivial
    | openvino e => exact openvino.trail (s := e) trivial
  result _ _ _ := trivial

instance : Backend.Freeing Engine where
  tensor name := freesNothing_dispatch (Backend.Freeing.tensor name) (Backend.Freeing.tensor name)
    (Backend.Freeing.tensor name)
  setTensor name t := freesNothing_dispatch (Backend.Freeing.setTensor name t)
    (Backend.Freeing.setTensor name t) (Backend.Freeing.setTensor name t)
  start := freesNothing_dispatch Backend.Freeing.start Backend.Freeing.start Backend.Freeing.start
  wait timeout := freesNothing_dispatch (Backend.Freeing.wait timeout)
    (Backend.Freeing.wait timeout) (Backend.Freeing.wait timeout)
  infer := freesNothing_dispatch Backend.Freeing.infer Backend.Freeing.infer Backend.Freeing.infer
  load fitting := by
    refine ⟨fun _ => trivial, ?_, fun _ _ _ => trivial⟩
    rintro ⟨d, network, e | e | e⟩ -
    · exact (Backend.Freeing.load fitting).trail (s := ⟨d, network, e⟩) trivial
    · exact (Backend.Freeing.load fitting).trail (s := ⟨d, network, e⟩) trivial
    · exact (Backend.Freeing.load fitting).trail (s := ⟨d, network, e⟩) trivial
  close e := by cases e <;> rfl
  unloaded_of_close e := by cases e <;> rfl

end Engine

namespace Runtime

theorem freesNothing_openOnnx (rt : Runtime) (files : Files) (path device : String) :
    FreesNothing (rt.openOnnx files path device) := by
  unfold openOnnx
  grind [Onnx.freesNothing_create]

theorem freesNothing_openOpenVino (rt : Runtime) (files : Files) (path device : String)
    (threads : Value) : FreesNothing (rt.openOpenVino files path device threads) := by
  unfold openOpenVino
  grind [OpenVino.freesNothing_create]

theorem freesNothing_makeEngine (rt : Runtime) (files : Files) (path : Value) (device : String)
    (choice : Choice) : FreesNothing (rt.makeEngine files path device choice) := by
  unfold makeEngine
  grind [freesNothing_openOnnx, freesNothing_openOpenVino]

end Runtime

end FrameBatch
