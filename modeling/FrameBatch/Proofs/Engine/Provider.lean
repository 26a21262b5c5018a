import FrameBatch.Device
import FrameBatch.Engine.Factory
import FrameBatch.Proofs.Text.Case

namespace FrameBatch

def Event.providers? : Event → Option (List String)
  | .call (.session _ providers) => some providers
  | _ => none

theorem Act.mapM_lift {σ α β : Type} (f : α → Except Fault β) (l : List α) :
    (l.mapM fun a => (Act.lift (f a) : Act σ β)) = Act.lift (l.mapM f) := by
  induction l with
  | nil => rfl
  | cons a rest ih =>
    rw [List.mapM_cons, List.mapM_cons, ih]
    funext s
    cases f a with
    | error e => rfl
    | ok b => cases rest.mapM f <;> rfl

theorem Act.trail_bind_pure {σ α β : Type} (x : Act σ α) (f : α → β) (s : σ) :
    ((x >>= fun a => pure (f a)) s).trail = (x s).trail := by
  rcases ended : x s with ⟨result, state, trail⟩
  cases result with
  | error e => rw [Act.bind_of_error ended]
  | ok a =>
    rw [Act.bind_of_ok ended, Act.pure_apply]
    exact List.append_nil trail

namespace Device

def automatic : String := "auto"

theorem forEngine_onnx (device : String) (hasDevice : Bool) :
    forEngine (.text device) (.text "onnx") hasDevice =
      if device = automatic then (if hasDevice then "cuda" else "cpu") else Text.lower device := by
  have other : ¬ Text.lower "onnx" = "openvino" := by decide +kernel
  have spelled : (Value.text device).sameScalar (.text "auto") = (device == automatic) := rfl
  simp only [forEngine, Value.shown, if_neg other, spelled, beq_iff_eq]

end Device

namespace Onnx

def deviceProvider : String := "CUDAExecutionProvider"

def processorProvider : String := "CPUExecutionProvider"

theorem sessions_create (file device : String) (source : Source) (script : Script) :
    (create file device source script ()).trail.filterMap Event.providers? =
      [providers device] := by
  simp only [create, bind, Act.bind, Act.log, Act.call, Act.note_apply]
  cases source.fail with
  | some text => rfl
  | none =>
    cases discover source with
    | error e => rfl
    | ok tensors =>
      have types := Act.mapM_lift (σ := Unit) (fun info : TensorInfo => info.elementType.type)
        tensors.1
      simp only [liftM, monadLift, MonadLift.monadLift, Act.bind, Act.lift_apply, types]
      cases tensors.1.mapM fun info => info.elementType.type <;> rfl

end Onnx

namespace Runtime

def sessionsFor (rt : Runtime) (files : Files) (path device : String) (hasDevice : Bool) :
    List (List String) :=
  (rt.openOnnx files path (Device.forEngine (.text device) (.text "onnx") hasDevice)
    ()).trail.filterMap Event.providers?

variable {rt : Runtime} {files : Files} {path : String}

theorem sessionsFor_of_exists (there : files.exists? (Path.normal path)) (device : String)
    (hasDevice : Bool) : rt.sessionsFor files path device hasDevice =
      [Onnx.providers (Device.forEngine (.text device) (.text "onnx") hasDevice)] := by
  rw [← Onnx.sessions_create (Path.name path) _ rt.onnx rt.script, sessionsFor, openOnnx, there]
  let hold (made : Onnx.Engine × Network) : Engine × Network := (.onnx made.1, made.2)
  exact congrArg _ (Act.trail_bind_pure _ hold ())

theorem sessionsFor_automatic (there : files.exists? (Path.normal path)) {device : String}
    (spelled : Text.SameButCase device Device.automatic) (hasDevice : Bool) :
    rt.sessionsFor files path device hasDevice =
      [[if hasDevice = true ∧ device = Device.automatic then Onnx.deviceProvider
        else Onnx.processorProvider]] := by
  rw [sessionsFor_of_exists there, Device.forEngine_onnx]
  by_cases plain : device = Device.automatic
  · cases hasDevice <;> simp only [plain] <;> decide +kernel
  · simp only [plain, and_false, if_false, spelled.lower]
    decide +kernel

theorem sessionsFor_congr (there : files.exists? (Path.normal path)) {device device' : String}
    (same : Text.SameButCase device device') (chosen : device ≠ Device.automatic)
    (chosen' : device' ≠ Device.automatic) (hasDevice : Bool) :
    rt.sessionsFor files path device hasDevice = rt.sessionsFor files path device' hasDevice := by
  rw [sessionsFor_of_exists there, sessionsFor_of_exists there, Device.forEngine_onnx,
    Device.forEngine_onnx, if_neg chosen, if_neg chosen', same.lower]

/-- Two spellings of a device that differ in letter case alone open sessions for the same provider,
unless there is a device beside the processor and one of them is the automatic choice as it is
written while the other is not. Of the spellings of the automatic choice only that one is for the
device, and only where there is one. -/
theorem same_provider_iff (rt : Runtime) {files : Files} {path : String}
    (there : files.exists? (Path.normal path)) {device device' : String}
    (same : Text.SameButCase device device') (hasDevice : Bool) :
    (rt.sessionsFor files path device hasDevice = rt.sessionsFor files path device' hasDevice ↔
      (hasDevice = true → (device = Device.automatic ↔ device' = Device.automatic))) ∧
    (Text.SameButCase device Device.automatic →
      rt.sessionsFor files path device hasDevice =
        [[if hasDevice = true ∧ device = Device.automatic then Onnx.deviceProvider
          else Onnx.processorProvider]]) := by
  refine ⟨?_, fun spelled => sessionsFor_automatic there spelled hasDevice⟩
  by_cases spelled : Text.SameButCase device Device.automatic
  · have spelled' : Text.SameButCase device' Device.automatic := same.symm.trans spelled
    have apart : Onnx.deviceProvider ≠ Onnx.processorProvider := by decide
    rw [sessionsFor_automatic there spelled, sessionsFor_automatic there spelled']
    by_cases plain : device = Device.automatic <;> by_cases plain' : device' = Device.automatic <;>
      cases hasDevice <;> simp [plain, plain', apart, apart.symm]
  · have chosen : device ≠ Device.automatic := fun plain => spelled (plain ▸ rfl)
    have chosen' : device' ≠ Device.automatic := fun plain => spelled (plain ▸ same)
    simp only [sessionsFor_congr there same chosen chosen' hasDevice, chosen, chosen', implies_true]

def oneModel : Files := { home := "/work", nodes := [(["lpr.onnx"], .file .empty)] }

theorem same_provider_spellings :
    oneModel.exists? (Path.normal "lpr.onnx") ∧ Text.SameButCase "CUDA:1" "Cuda:1" ∧
      Text.SameButCase "Auto" "AUTO" ∧ Text.SameButCase "Auto" Device.automatic ∧
      sessionsFor {} oneModel "lpr.onnx" "CUDA:1" true =
        sessionsFor {} oneModel "lpr.onnx" "Cuda:1" true ∧
      sessionsFor {} oneModel "lpr.onnx" "Auto" true =
        sessionsFor {} oneModel "lpr.onnx" "AUTO" true ∧
      sessionsFor {} oneModel "lpr.onnx" "Auto" true = [[Onnx.processorProvider]] := by
  have there : oneModel.exists? (Path.normal "lpr.onnx") := by decide +kernel
  have cuda : Text.SameButCase "CUDA:1" "Cuda:1" := by decide +kernel
  have auto : Text.SameButCase "Auto" "AUTO" := by decide +kernel
  have spelled : Text.SameButCase "Auto" Device.automatic := by decide +kernel
  exact ⟨there, cuda, auto, spelled,
    (same_provider_iff {} there cuda true).1.2 fun _ => by decide +kernel,
    (same_provider_iff {} there auto true).1.2 fun _ => by decide +kernel,
    (same_provider_iff {} there auto true).2 spelled⟩

/-- With a device beside the processor the automatic choice in capitals is for the processor. -/
theorem capitals_on_processor :
    Text.SameButCase "auto" "AUTO" ∧
      sessionsFor {} oneModel "lpr.onnx" "auto" true = [[Onnx.deviceProvider]] ∧
      sessionsFor {} oneModel "lpr.onnx" "AUTO" true = [[Onnx.processorProvider]] := by
  have there : oneModel.exists? (Path.normal "lpr.onnx") := by decide +kernel
  exact ⟨by decide +kernel, sessionsFor_automatic there (by decide +kernel) true,
    sessionsFor_automatic there (by decide +kernel) true⟩

end Runtime

end FrameBatch
