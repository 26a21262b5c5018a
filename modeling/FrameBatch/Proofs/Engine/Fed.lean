import FrameBatch.Proofs.Descriptor.Patching
import FrameBatch.Proofs.Engine.Sized

namespace FrameBatch

namespace Onnx

open Descriptor (Patching)

/-- A run is fed with inputs of these names in these types. -/
def FedWith (types : Entries String ElementType) : Event → Prop
  | .call (.run _ feeds) =>
    feeds.map (fun feed => (feed.name, feed.type)) =
      types.map fun (name, type) => (name, .element type)
  | _ => True

/-- The request knows these types, and has a buffer for each of them. -/
structure Declares (types : Entries String ElementType) (r : Request) : Prop where
  declared : r.declared = types
  buffers : r.buffers.keys = types.keys

structure Typed (types : Entries String ElementType) (e : Engine) : Prop where
  declared : e.declared = types
  request : ∀ r, e.request = some r → Declares types r

variable {types : Entries String ElementType}

theorem Declares.feeds {r : Request} (declares : Declares types r)
    (distinct : types.keys.Nodup) :
    r.feeds.map (fun (name, t) => (name, t.type)) =
      types.map fun (name, type) => (name, .element type) := by
  let typeOf (name : String) : NumberType :=
    ((types.get? name).map NumberType.element).getD default
  have known {name : String} (member : name ∈ types.keys) :
      ∃ type, types.get? name = some type := by
    obtain ⟨⟨_, type⟩, entry, rfl⟩ := List.mem_map.1 member
    exact ⟨type, Entries.get?_of_mem distinct entry⟩
  calc r.feeds.map (fun (name, t) => (name, t.type))
      = r.buffers.map fun entry => (entry.1, typeOf entry.1) := by
        rw [Request.feeds, List.map_map]
        apply List.map_congr_left
        intro entry member
        have named : entry.1 ∈ types.keys := by
          rw [← declares.buffers]
          exact List.mem_map_of_mem member
        obtain ⟨type, found⟩ := known named
        show (entry.1, r.declaredType entry.1 entry.2) = _
        simp only [Request.declaredType, declares.declared, typeOf, found, Option.map_some,
          Option.getD_some]
    _ = r.buffers.keys.map fun name => (name, typeOf name) := by
        rw [Entries.keys, List.map_map]
        rfl
    _ = types.map fun (name, type) => (name, .element type) := by
        rw [declares.buffers, Entries.keys, List.map_map]
        apply List.map_congr_left
        rintro ⟨name, type⟩ member
        have found := Entries.get?_of_mem distinct member
        show (name, typeOf name) = _
        simp only [typeOf, found, Option.map_some, Option.getD_some]

section

variable {r : Request}

theorem upholds_theRequest : theRequest.Upholds (Typed types) (FedWith types)
    (Declares types) := by
  refine .bind .get fun e typed => ?_
  split
  · rename_i r found
    exact .pure (typed.request r found)
  · exact .fail

theorem upholds_setRequest (declares : Declares types r) :
    (setRequest r).Upholds (Typed types) (FedWith types) fun _ => True :=
  .modify fun _ typed => ⟨typed.declared, fun _ found => Option.some.inj found ▸ declares⟩

theorem upholds_tensor (name : TensorName) :
    (tensor name).Upholds (Typed types) (FedWith types) fun _ => True := by
  refine .bind upholds_theRequest fun r _ => ?_
  split
  · exact .pure trivial
  · exact .fail

theorem upholds_setTensor (name : TensorName) (t : Tensor) :
    (setTensor name t).Upholds (Typed types) (FedWith types) fun _ => True := by
  refine .bind upholds_theRequest fun r declares => ?_
  split
  · rename_i buffered
    refine upholds_setRequest ⟨declares.declared, ?_⟩
    rw [← declares.buffers, Entries.keys_put, if_pos buffered]
  · exact upholds_setRequest ⟨declares.declared, declares.buffers⟩

theorem upholds_beginRun (distinct : types.keys.Nodup) (declares : Declares types r) :
    (beginRun r).Upholds (Typed types) (FedWith types) fun _ => True := by
  refine .bind .get fun e typed => ?_
  split
  · refine .bind (.note ?_) fun _ _ => .bind (.set ⟨typed.declared, typed.request⟩) fun _ _ =>
      .pure trivial
    show (r.feeds.map _).map _ = _
    rw [List.map_map]
    exact declares.feeds distinct
  · exact .pure trivial

theorem upholds_start (distinct : types.keys.Nodup) :
    start.Upholds (Typed types) (FedWith types) fun _ => True := by
  refine .bind upholds_theRequest fun r declares => ?_
  have begins : ((beginRun r) >>= fun plan => setRequest { r with
      job := some (if plan.hold then .running plan r.copies
        else .finished (r.runResult plan r.feeds)) }).Upholds (Typed types) (FedWith types)
      fun _ => True :=
    .bind (upholds_beginRun distinct declares) fun _ _ =>
      upholds_setRequest ⟨declares.declared, declares.buffers⟩
  split
  · exact .fail
  · split
    · exact .fail_bind
    · exact begins

theorem upholds_wait (timeout : Value) :
    (wait timeout).Upholds (Typed types) (FedWith types) fun _ => True := by
  refine .bind upholds_theRequest fun r declares => ?_
  have collects (result : RunResult) : (collect r result).Upholds (Typed types)
      (FedWith types) fun _ => True := by
    refine .bind (upholds_setRequest ⟨declares.declared, declares.buffers⟩) fun _ _ => ?_
    refine .bind (.lift fun _ _ => trivial) fun _ _ => ?_
    exact .bind (upholds_setRequest ⟨declares.declared, declares.buffers⟩) fun _ _ => .pure trivial
  split
  · exact .pure trivial
  · exact collects _
  · split
    · exact collects _
    · split
      · exact .lift fun _ _ => trivial
      · split
        · exact .fail_bind
        · exact .pure trivial

theorem upholds_infer (distinct : types.keys.Nodup) :
    infer.Upholds (Typed types) (FedWith types) fun _ => True := by
  refine .bind (upholds_wait .null) fun _ _ => .bind upholds_theRequest fun r declares => ?_
  refine .bind (upholds_beginRun distinct declares) fun _ _ => ?_
  refine .bind (.lift fun _ _ => trivial) fun _ _ => ?_
  exact upholds_setRequest ⟨declares.declared, declares.buffers⟩

end

/-- What may be done with an engine and the network it found: its request is used, it is closed, the
network is shown to any descriptor, or the engine is loaded for one. -/
inductive Deed
  | read (name : TensorName)
  | write (name : TensorName) (t : Tensor)
  | start
  | wait (timeout : Value)
  | infer
  | release
  | closeRequest
  | close
  | check (d : Descriptor) (fit : Act Descriptor.Fitting Unit) (patching : Patching fit)
  | load (d : Descriptor) (fit : Act Descriptor.Fitting Unit) (patching : Patching fit)

def Deed.act : Deed → Act (Loading Engine) Unit
  | read name => do
    let _ ← Loading.onEngine (tensor name)
  | write name t => Loading.onEngine (setTensor name t)
  | start => Loading.onEngine Onnx.start
  | wait timeout => do
    let _ ← Loading.onEngine (Onnx.wait timeout)
  | infer => Loading.onEngine Onnx.infer
  | release => Loading.onEngine (Act.modify Onnx.release)
  | closeRequest => Loading.onEngine Onnx.closeRequest
  | close => Loading.onEngine Backend.close
  | check d fit _ => do
    Act.modify fun l => { l with descriptor := d }
    Loading.onFitting fit
  | load d fit _ => do
    Act.modify fun l => { l with descriptor := d }
    Onnx.load fit

def deeds : List Deed → Act (Loading Engine) Unit
  | [] => return
  | deed :: rest => do
    let _ ← deed.act.attempt
    deeds rest

structure TypedLoading (types : Entries String ElementType) (l : Loading Engine) : Prop where
  engine : Typed types l.engine
  inputs : l.network.inputNames = types.keys

theorem allocate_names (d : Descriptor) (infos : List TensorInfo) :
    (allocate d infos).2.1.map (·.name) = infos.map (·.name) ∧
      ((allocate d infos).1 = .ok () →
        (allocate d infos).2.2.map Prod.fst = infos.map (·.name)) := by
  induction infos with
  | nil => exact ⟨rfl, fun _ => rfl⟩
  | cons info rest ih =>
    cases shaped : bufferShape d info with
    | error f => simp [allocate, shaped]
    | ok shape =>
      cases made : zerosOf shape info.elementType with
      | error f => simp [allocate, shaped, made]
      | ok buffer =>
        simp only [allocate, shaped, made]
        exact ⟨congrArg (info.name :: ·) ih.1, fun good => congrArg (info.name :: ·) (ih.2 good)⟩

theorem upholds_onEngine {α : Type} {Q : α → Prop} {x : Act Engine α}
    (upholds : x.Upholds (Typed types) (FedWith types) Q) :
    (Loading.onEngine x).Upholds (TypedLoading types) (FedWith types) Q :=
  .on upholds (fun _ typed => typed.engine) fun _ _ typed after => ⟨after, typed.inputs⟩

theorem upholds_onFitting {fit : Act Descriptor.Fitting Unit} (patching : Patching fit) :
    (Loading.onFitting fit).Upholds (TypedLoading types) (FedWith types) fun _ => True := by
  have names :
      fit.Upholds (fun s => s.2.inputNames = types.keys) (FedWith types) fun _ => True := by
    refine ⟨fun {s} same => ?_, fun {s} _ event member => ?_, fun _ _ _ => trivial⟩
    · exact (TensorInfo.names_congr (patching.tensors s)).trans same
    · cases event with
      | log record => trivial
      | call c => exact absurd member (patching.silent s c)
      | freed => trivial
  exact .on names (fun _ typed => typed.inputs) fun _ _ typed after => ⟨typed.engine, after⟩

theorem upholds_load (distinct : types.keys.Nodup) {fit : Act Descriptor.Fitting Unit}
    (patching : Patching fit) :
    (load fit).Upholds (TypedLoading types) (FedWith types) fun _ => True := by
  refine .bind (upholds_onFitting patching) fun _ _ => .bind .get fun l typed => ?_
  obtain ⟨inputs, buffers⟩ := allocate_names l.descriptor l.network.inputs
  refine .bind (.set ⟨typed.engine, inputs.trans typed.inputs⟩) fun _ _ => ?_
  refine .bind (.lift fun _ good => buffers good) fun _ named => ?_
  have named := named.trans typed.inputs
  refine .bind (upholds_onEngine (.modify fun e typed => ⟨typed.declared, ?_⟩)) fun _ _ =>
    .note trivial
  rintro r ⟨⟩
  refine ⟨typed.declared, ?_⟩
  show (Entries.ofList _).keys = _
  rw [Entries.ofList_of_distinct (by rw [Entries.keys, named]; exact distinct)]
  exact named

theorem upholds_deed (distinct : types.keys.Nodup) (deed : Deed) :
    deed.act.Upholds (TypedLoading types) (FedWith types) fun _ => True := by
  cases deed with
  | read name => exact .bind (upholds_onEngine (upholds_tensor name)) fun _ _ => .pure trivial
  | write name t => exact upholds_onEngine (upholds_setTensor name t)
  | start => exact upholds_onEngine (upholds_start distinct)
  | wait timeout => exact .bind (upholds_onEngine (upholds_wait timeout)) fun _ _ => .pure trivial
  | infer => exact upholds_onEngine (upholds_infer distinct)
  | release =>
    refine upholds_onEngine (.modify fun e typed => ⟨typed.declared, fun r found => ?_⟩)
    obtain ⟨r₀, held, rfl⟩ := Option.map_eq_some_iff.1 found
    have declares := typed.request r₀ held
    split
    · exact ⟨declares.declared, declares.buffers⟩
    · exact declares
  | closeRequest =>
    refine upholds_onEngine (.bind upholds_theRequest fun r declares => ?_)
    exact upholds_setRequest ⟨declares.declared, declares.buffers⟩
  | close =>
    exact upholds_onEngine (.bind (.note trivial) fun _ _ =>
      .modify fun e typed => ⟨typed.declared, fun _ found => by cases found⟩)
  | check d fit patching =>
    exact .bind (.modify fun l typed => ⟨typed.engine, typed.inputs⟩) fun _ _ =>
      upholds_onFitting patching
  | load d fit patching =>
    exact .bind (.modify fun l typed => ⟨typed.engine, typed.inputs⟩) fun _ _ =>
      upholds_load distinct patching

theorem upholds_deeds (distinct : types.keys.Nodup) (list : List Deed) :
    (deeds list).Upholds (TypedLoading types) (FedWith types) fun _ => True := by
  induction list with
  | nil => exact .pure trivial
  | cons deed rest ih => exact .bind (upholds_deed distinct deed).attempt fun _ _ => ih

end Onnx

end FrameBatch
