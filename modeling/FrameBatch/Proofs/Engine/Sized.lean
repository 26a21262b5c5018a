import FrameBatch.Proofs.Descriptor.Accept
import FrameBatch.Proofs.Engine.Onnx
import Mathlib.Data.List.Forall2

namespace FrameBatch

/-- A dimension that is a number of elements, and not open. An array of a negative size is refused
like one of an open size. -/
def Fixed (dim : Dim) : Prop := ∃ n : Nat, dim = some (n : Int)

theorem forall_fixed_iff {dims : List Dim} :
    (∀ dim ∈ dims, Fixed dim) ↔
      ∃ sizes : List Nat, dims = sizes.map fun (n : Nat) => some (n : Int) := by
  constructor
  · intro fixed
    induction dims with
    | nil => exact ⟨[], rfl⟩
    | cons dim rest ih =>
      obtain ⟨n, rfl⟩ := fixed dim List.mem_cons_self
      obtain ⟨sizes, rfl⟩ := ih fun other member => fixed other (List.mem_cons_of_mem _ member)
      exact ⟨n :: sizes, rfl⟩
  · rintro ⟨sizes, rfl⟩ dim member
    obtain ⟨n, _, rfl⟩ := List.mem_map.1 member
    exact ⟨n, rfl⟩

theorem mapM_id_some (ints : List Int) : (ints.map some).mapM id = some ints := by
  induction ints with
  | nil => rfl
  | cons z rest ih => simp [List.mapM_cons, ih]

theorem exists_ints {dims : List Dim} (closed : dims.any Option.isNone = false) :
    ∃ ints : List Int, dims = ints.map some := by
  induction dims with
  | nil => exact ⟨[], rfl⟩
  | cons dim rest ih =>
    rw [List.any_cons, Bool.or_eq_false_iff] at closed
    obtain ⟨ints, rfl⟩ := ih closed.2
    cases dim with
    | none => cases closed.1
    | some z => exact ⟨z :: ints, rfl⟩

theorem zerosOf_cases {dims : List Dim} (closed : dims.any Option.isNone = false)
    (type : ElementType) :
    (∃ sizes : List Nat, dims = sizes.map (fun (n : Nat) => some (n : Int)) ∧
        zerosOf dims (.known type) = .ok (Tensor.zeros (.element type) sizes)) ∨
      (¬ ∀ dim ∈ dims, Fixed dim) ∧
        ∃ f, zerosOf dims (.known type) = .error f ∧ f.kind = .value := by
  obtain ⟨ints, rfl⟩ := exists_ints closed
  have made : zerosOf (ints.map some) (.known type) =
      if ints.any (· < 0) then .error (.failed .value "negative dimensions are not allowed")
      else .ok (Tensor.zeros (.element type) (ints.map Int.toNat)) := by
    rw [zerosOf, TypeHint.type, ok_bind, mapM_id_some]
  by_cases negative : ints.any (· < 0) = true
  · right
    rw [made, if_pos negative]
    refine ⟨fun fixed => ?_, _, rfl, rfl⟩
    obtain ⟨z, member, below⟩ := List.any_eq_true.1 negative
    obtain ⟨n, same⟩ := fixed (some z) (List.mem_map_of_mem member)
    have nonneg : z = n := Option.some.inj same
    have below : z < 0 := by simpa using below
    omega
  · left
    rw [made, if_neg negative]
    refine ⟨ints.map Int.toNat, ?_, rfl⟩
    rw [List.map_map]
    apply List.map_congr_left
    intro z member
    have nonneg : 0 ≤ z :=
      Int.not_lt.1 fun below => negative (List.any_eq_true.2 ⟨z, member, by simpa using below⟩)
    show some z = some (z.toNat : Int)
    rw [Int.toNat_of_nonneg nonneg]

namespace TensorInfo

/-- The input has only fixed dimensions; but the leading one of the bound input may be open, and
must have room for a batch if it is fixed. -/
def Sizable (info : TensorInfo) (bound : String) (batch : Int) : Prop :=
  if info.name = bound then
    ∃ lead rest, info.shape = lead :: rest ∧ (∀ n, lead = some n → batch ≤ n) ∧
      ∀ dim ∈ rest, Fixed dim
  else ∀ dim ∈ info.shape, Fixed dim

def sizedFor (info : TensorInfo) (bound : String) (batch : Int) : TensorInfo :=
  match info.shape with
  | none :: rest => if info.name = bound then { info with shape := some batch :: rest } else info
  | _ => info

/-- The array has the shape and the type of the input, and nothing but zeros. -/
def Blank (info : TensorInfo) (t : Tensor) : Prop :=
  ∃ type sizes, info.elementType = .known type ∧
    info.shape = sizes.map (fun (n : Nat) => some (n : Int)) ∧
    t = Tensor.zeros (.element type) sizes

variable {info : TensorInfo} {bound : String} {batch : Int}

theorem name_sizedFor (info : TensorInfo) (bound : String) (batch : Int) :
    (info.sizedFor bound batch).name = info.name := by
  unfold sizedFor
  split
  · split
    · rfl
    · rfl
  · rfl

theorem elementType_sizedFor (info : TensorInfo) (bound : String) (batch : Int) :
    (info.sizedFor bound batch).elementType = info.elementType := by
  unfold sizedFor
  split
  · split
    · rfl
    · rfl
  · rfl

theorem sizedFor_of_ne (other : info.name ≠ bound) : info.sizedFor bound batch = info := by
  unfold sizedFor
  split
  · rw [if_neg other]
  · rfl

theorem batchedShape_cases (positive : 1 ≤ batch) (here : info.name = bound) :
    (∃ f, info.batchedShape batch = .error f ∧ f.kind = .value ∧ ¬ info.Sizable bound batch) ∨
      info.batchedShape batch = .ok (info.sizedFor bound batch).shape ∧
        (info.Sizable bound batch ↔ ∀ dim ∈ (info.sizedFor bound batch).shape, Fixed dim) := by
  obtain ⟨size, rfl⟩ := Int.eq_ofNat_of_zero_le (by omega : 0 ≤ batch)
  rw [Sizable, if_pos here]
  rcases shape : info.shape with _ | ⟨_ | n, rest⟩
  · left
    refine ⟨_, by rw [batchedShape, shape]; rfl, rfl, ?_⟩
    rintro ⟨lead, rest, same, -⟩
    cases same
  · right
    have sized : (info.sizedFor bound size).shape = some (size : Int) :: rest := by
      rw [sizedFor, shape]
      simp only [here, if_true]
    rw [sized, batchedShape, shape]
    have fixed : Fixed (some (size : Int)) := ⟨size, rfl⟩
    simp only [List.forall_mem_cons, fixed, true_and, List.cons.injEq]
    constructor
    · rintro ⟨lead, rest', ⟨rfl, rfl⟩, -, others⟩
      exact others
    · intro others
      exact ⟨none, rest, ⟨rfl, rfl⟩, nofun, others⟩
  · have sized : (info.sizedFor bound size).shape = some n :: rest := by
      rw [sizedFor, shape]
      exact shape
    rw [batchedShape, shape, sized]
    by_cases small : n < (size : Int)
    · left
      simp only [if_pos small]
      refine ⟨_, rfl, rfl, ?_⟩
      rintro ⟨lead, rest', same, room, -⟩
      cases same
      have := room n rfl
      omega
    · right
      have fixed : Fixed (some n) := ⟨n.toNat, by rw [Int.toNat_of_nonneg (by omega)]⟩
      simp only [if_neg small, List.forall_mem_cons, fixed, true_and, List.cons.injEq]
      constructor
      · rintro ⟨lead, rest', ⟨rfl, rfl⟩, -, others⟩
        exact others
      · intro others
        refine ⟨some n, rest, ⟨rfl, rfl⟩, ?_, others⟩
        rintro _ ⟨⟩
        exact Int.not_lt.1 small

theorem rank_sizedFor (info : TensorInfo) (bound : String) (batch : Int) :
    (info.sizedFor bound batch).rank = info.rank := by
  unfold sizedFor
  split
  · rename_i shape
    split
    · rw [rank, rank, shape, List.length_cons, List.length_cons]
    · rfl
  · rfl

theorem sizedFor_of_lead {n : Int} {rest : List Dim} (lead : info.shape = some n :: rest) :
    info.sizedFor bound batch = info := by
  rw [sizedFor, lead]

theorem Sizable.lead (fits : info.Sizable bound batch) (here : info.name = bound) :
    ∃ n rest, (info.sizedFor bound batch).shape = some n :: rest ∧ batch ≤ n := by
  rw [Sizable, if_pos here] at fits
  obtain ⟨_ | n, rest, shape, room, -⟩ := fits
  · refine ⟨batch, rest, ?_, Int.le_refl batch⟩
    rw [sizedFor, shape]
    simp only [here, if_true]
  · refine ⟨n, rest, ?_, room n rfl⟩
    rw [sizedFor_of_lead shape, shape]

theorem names_congr {others infos : List TensorInfo}
    (same : infos.map (fun info => (info.name, info.shape)) =
      others.map fun info => (info.name, info.shape)) :
    infos.map (·.name) = others.map (·.name) := by
  have named := congrArg (List.map Prod.fst) same
  rw [List.map_map, List.map_map] at named
  exact named

theorem sized_congr {others infos : List TensorInfo}
    (same : infos.map (fun info => (info.name, info.shape)) =
      others.map fun info => (info.name, info.shape)) (bound : String) (batch : Int) :
    ((∀ info ∈ infos, info.Sizable bound batch) ↔ ∀ info ∈ others, info.Sizable bound batch) ∧
      infos.map (fun info => (info.name, (info.sizedFor bound batch).shape)) =
        others.map fun info => (info.name, (info.sizedFor bound batch).shape) := by
  let bare (tensor : String × List Dim) : TensorInfo := { name := tensor.1, shape := tensor.2 }
  have sizable (infos : List TensorInfo) : (∀ info ∈ infos, info.Sizable bound batch) ↔
      ∀ tensor ∈ infos.map (fun info => (info.name, info.shape)),
        (bare tensor).Sizable bound batch := by
    rw [List.forall_mem_map]
    rfl
  have sized (infos : List TensorInfo) :
      infos.map (fun info => (info.name, (info.sizedFor bound batch).shape)) =
        (infos.map fun info => (info.name, info.shape)).map fun tensor =>
          (tensor.1, ((bare tensor).sizedFor bound batch).shape) := by
    rw [List.map_map]
    apply List.map_congr_left
    intro info _
    apply congrArg (Prod.mk info.name)
    show _ = ((bare (info.name, info.shape)).sizedFor bound batch).shape
    by_cases here : info.name = bound
    · rcases shape : info.shape with _ | ⟨_ | n, rest⟩
      all_goals simp [sizedFor, shape, bare]
      simp [here]
    · have apart : (bare (info.name, info.shape)).name ≠ bound := here
      rw [sizedFor_of_ne here, sizedFor_of_ne apart]
  rw [sizable infos, sizable others, sized infos, sized others, same]
  exact ⟨Iff.rfl, rfl⟩

theorem with_shape_sizedFor (info : TensorInfo) (bound : String) (batch : Int) :
    { info with shape := (info.sizedFor bound batch).shape } = info.sizedFor bound batch := by
  unfold sizedFor
  split
  · split
    · rfl
    · rfl
  · rfl

end TensorInfo

namespace Onnx

variable {d₀ d : Descriptor} {bound : String}

def closedShape (info : TensorInfo) (shape : List Dim) : Except Fault (List Dim) :=
  if shape.any Option.isNone then refuse (.dynamicDimensions info.name info.shape) else .ok shape

theorem bufferShape_eq (d : Descriptor) (info : TensorInfo) : bufferShape d info =
    (if some info.name = d.input then info.batchedShape d.maxBatch else .ok info.shape) >>=
      closedShape info := by
  have checked (x : Except Fault (List Dim)) : (do
      let shape ← x
      if shape.any Option.isNone then refuse (.dynamicDimensions info.name info.shape)
      return shape) = x >>= closedShape info := by
    cases x with
    | error f => rfl
    | ok shape =>
      simp only [ok_bind, closedShape]
      split
      · rfl
      · rfl
  unfold bufferShape
  split
  · exact checked _
  · exact checked _

theorem bufferShape_cases (positive : 1 ≤ d.maxBatch) (input : d.input = some bound)
    {info : TensorInfo} {type : ElementType} (hint : info.elementType = .known type) :
    (info.Sizable bound d.maxBatch ∧ ∃ sizes : List Nat,
        (info.sizedFor bound d.maxBatch).shape = sizes.map (fun (n : Nat) => some (n : Int)) ∧
        bufferShape d info = .ok (info.sizedFor bound d.maxBatch).shape ∧
        zerosOf (info.sizedFor bound d.maxBatch).shape info.elementType =
          .ok (Tensor.zeros (.element type) sizes)) ∨
      ¬ info.Sizable bound d.maxBatch ∧
        ((∃ f, bufferShape d info = .error f ∧ f.kind = .value) ∨
          ∃ shape f, bufferShape d info = .ok shape ∧ zerosOf shape info.elementType = .error f ∧
            f.kind = .value) := by
  rw [hint]
  obtain ⟨f, fails, value, unfit⟩ | ⟨batched, fits⟩ :
      (∃ f, bufferShape d info = .error f ∧ f.kind = .value ∧ ¬ info.Sizable bound d.maxBatch) ∨
        bufferShape d info = closedShape info (info.sizedFor bound d.maxBatch).shape ∧
        (info.Sizable bound d.maxBatch ↔
          ∀ dim ∈ (info.sizedFor bound d.maxBatch).shape, Fixed dim) := by
    by_cases here : info.name = bound
    · have asked : some info.name = d.input := by rw [input, here]
      rw [bufferShape_eq, if_pos asked]
      obtain ⟨f, fails, value, unfit⟩ | ⟨sized, fits⟩ :=
        TensorInfo.batchedShape_cases positive here
      · exact .inl ⟨f, by rw [fails]; rfl, value, unfit⟩
      · exact .inr ⟨by rw [sized]; rfl, fits⟩
    · have other : some info.name ≠ d.input := by
        rw [input]
        exact fun same => here (Option.some.inj same)
      rw [bufferShape_eq, if_neg other, TensorInfo.sizedFor_of_ne here, TensorInfo.Sizable,
        if_neg here]
      exact .inr ⟨rfl, Iff.rfl⟩
  · exact .inr ⟨unfit, .inl ⟨f, fails, value⟩⟩
  · rw [fits, batched, closedShape]
    cases closed : (info.sizedFor bound d.maxBatch).shape.any Option.isNone with
    | true =>
      right
      rw [if_pos rfl]
      refine ⟨fun fixed => ?_, .inl ⟨_, rfl, rfl⟩⟩
      obtain ⟨dim, member, absent⟩ := List.any_eq_true.1 closed
      obtain ⟨n, rfl⟩ := fixed dim member
      cases absent
    | false =>
      rw [if_neg Bool.false_ne_true]
      obtain ⟨sizes, shape, made⟩ | ⟨unfixed, f, fails, value⟩ := zerosOf_cases closed type
      · exact .inl ⟨forall_fixed_iff.2 ⟨sizes, shape⟩, sizes, shape, rfl, made⟩
      · exact .inr ⟨unfixed, .inr ⟨_, f, rfl, fails, value⟩⟩

def Buffers (inputs : List TensorInfo) (buffers : Entries String Tensor) : Prop :=
  List.Forall₂ (fun info entry => entry.1 = info.name ∧ info.Blank entry.2) inputs buffers

theorem Buffers.keys {inputs : List TensorInfo} {buffers : Entries String Tensor}
    (each : Buffers inputs buffers) : buffers.keys = inputs.map (·.name) := by
  induction each with
  | nil => rfl
  | cons first _ ih => exact congrArg₂ List.cons first.1 ih

theorem Buffers.keys_sized {inputs : List TensorInfo} {batch : Int}
    {buffers : Entries String Tensor}
    (each : Buffers (inputs.map (·.sizedFor bound batch)) buffers) :
    buffers.keys = inputs.map (·.name) := by
  rw [each.keys, List.map_map]
  exact List.map_congr_left fun info _ => info.name_sizedFor bound batch

theorem Buffers.of_mem {inputs : List TensorInfo} {buffers : Entries String Tensor}
    (each : Buffers inputs buffers) {info : TensorInfo} (member : info ∈ inputs) :
    ∃ t, (info.name, t) ∈ buffers ∧ info.Blank t := by
  induction each with
  | nil => cases member
  | @cons _ entry _ _ first _ ih =>
    rcases List.mem_cons.1 member with rfl | later
    · exact ⟨entry.2, List.mem_cons.2 (.inl (Prod.ext first.1.symm rfl)), first.2⟩
    · obtain ⟨t, inside, blank⟩ := ih later
      exact ⟨t, List.mem_cons_of_mem _ inside, blank⟩

theorem allocate_cases (positive : 1 ≤ d.maxBatch) (input : d.input = some bound)
    {infos : List TensorInfo} (known : ∀ info ∈ infos, ∃ type, info.elementType = .known type) :
    ((∀ info ∈ infos, info.Sizable bound d.maxBatch) ∧ ∃ buffers,
        allocate d infos = (.ok (), infos.map (·.sizedFor bound d.maxBatch), buffers) ∧
        Buffers (infos.map (·.sizedFor bound d.maxBatch)) buffers) ∨
      (¬ ∀ info ∈ infos, info.Sizable bound d.maxBatch) ∧
        ∃ f, (allocate d infos).1 = .error f ∧ f.kind = .value := by
  induction infos with
  | nil => exact .inl ⟨by simp, [], rfl, .nil⟩
  | cons info rest ih =>
    obtain ⟨type, hint⟩ := known info List.mem_cons_self
    obtain ⟨fits, sizes, shape, batched, made⟩ | ⟨unfit, fails⟩ :=
      bufferShape_cases positive input hint
    · have blank : (info.sizedFor bound d.maxBatch).Blank (.zeros (.element type) sizes) :=
        ⟨type, sizes, by rw [TensorInfo.elementType_sizedFor, hint], shape, rfl⟩
      rw [allocate, batched]
      simp only [made, List.forall_mem_cons, fits, true_and]
      obtain ⟨all, buffers, same, each⟩ | ⟨unfit, f, fails, value⟩ :=
        ih fun other member => known other (List.mem_cons_of_mem _ member)
      · refine .inl ⟨all, (info.name, .zeros (.element type) sizes) :: buffers, ?_, ?_⟩
        · rw [same, info.with_shape_sizedFor]
          rfl
        · exact List.Forall₂.cons ⟨(info.name_sizedFor _ _).symm, blank⟩ each
      · exact .inr ⟨unfit, f, fails, value⟩
    · right
      refine ⟨fun all => unfit (all info List.mem_cons_self), ?_⟩
      rw [allocate]
      obtain ⟨f, fails, value⟩ | ⟨shape, f, batched, fails, value⟩ := fails
      · exact ⟨f, by rw [fails], value⟩
      · exact ⟨f, by rw [batched]; simp only [fails], value⟩

theorem load_accepted (positive : 1 ≤ d.maxBatch) (input : d.input = some bound)
    {fit : Act Descriptor.Fitting Unit} {network patched : Network}
    (accepts : fit.Ends (d₀, network) (.ok ()) (d, patched))
    (known : ∀ info ∈ patched.inputs, ∃ type, info.elementType = .known type) (e : Engine) :
    ((∀ info ∈ patched.inputs, info.Sizable bound d.maxBatch) ∧ ∃ buffers,
        Buffers (patched.inputs.map (·.sizedFor bound d.maxBatch)) buffers ∧
        (load fit).Ends ⟨d₀, network, e⟩ (.ok ())
          ⟨d, { patched with inputs := patched.inputs.map (·.sizedFor bound d.maxBatch) },
            e.withRequest { buffers := Entries.ofList buffers, declared := e.declared,
                            outputNames := patched.outputs.map (·.name) }⟩) ∨
      (¬ ∀ info ∈ patched.inputs, info.Sizable bound d.maxBatch) ∧ ∃ f inputs,
        (load fit).Ends ⟨d₀, network, e⟩ (.error f) ⟨d, { patched with inputs }, e⟩ ∧
          f.kind = .value := by
  have fits : (Loading.onFitting fit).Ends ⟨d₀, network, e⟩ (.ok ()) ⟨d, patched, e⟩ :=
    Act.ends_on.2 ⟨(d, patched), accepts, rfl⟩
  simp only [load, Act.ends_bind_of_ok fits, Act.ends_get_bind, Act.ends_set_bind]
  obtain ⟨all, buffers, same, each⟩ | ⟨unfit, f, fails, value⟩ :=
    allocate_cases positive input known
  · refine .inl ⟨all, buffers, each, ?_⟩
    rw [same, Act.ends_bind_of_ok (Act.ends_lift.2 ⟨rfl, rfl⟩)]
    refine (Act.ends_bind_of_ok (Act.ends_on.2 ⟨_, Act.ends_modify.2 ⟨rfl, rfl⟩, rfl⟩) _).2 ?_
    exact Act.ends_log.2 ⟨rfl, rfl⟩
  · refine .inr ⟨unfit, f, (allocate d patched.inputs).2.1, ?_, value⟩
    rw [fails]
    exact (Act.ends_bind_of_error (Act.ends_lift.2 ⟨rfl, rfl⟩) _).2 ⟨rfl, rfl⟩

/-- What a session that was opened knows of its graph: the names and shapes of the inputs, and the
types that are declared for them. -/
structure Opened (source : Source) (e : Engine) (network : Network) : Prop where
  unloaded : e.request = none
  inputs : network.inputs.map (fun info => (info.name, info.shape)) =
    source.inputs.map fun spec => (spec.name, spec.shape)
  types : ∀ info ∈ network.inputs, ∃ type, info.elementType = .known type
  declared : e.declared.map (fun (name, type) => (name, some type)) =
    source.inputs.map fun spec => (spec.name, elementTypes.lookup spec.type)

theorem discover_inputs {specs : List TensorSpec} {infos : List TensorInfo}
    (found : specs.mapM tensorInfo = .ok infos) :
    infos.map (fun info => (info.name, info.shape)) =
        specs.map (fun spec => (spec.name, spec.shape)) ∧
      (∀ info ∈ infos, ∃ type, info.elementType = .known type) ∧
      ∃ types, (infos.mapM fun info => (liftM info.elementType.type : Act Unit ElementType)).Ends ()
          (.ok types) () ∧
        ((infos.map (·.name)).zip types).map (fun (name, type) => (name, some type)) =
          specs.map fun spec => (spec.name, elementTypes.lookup spec.type) := by
  induction specs generalizing infos with
  | nil =>
    cases found
    exact ⟨rfl, nofun, [], Act.ends_pure.2 ⟨rfl, rfl⟩, rfl⟩
  | cons spec rest ih =>
    rw [List.mapM_cons] at found
    obtain ⟨info, first, found⟩ := bind_ok found
    obtain ⟨others, later, found⟩ := bind_ok found
    cases found
    obtain ⟨tensors, known, types, typed, declared⟩ := ih later
    unfold tensorInfo at first
    split at first
    · rename_i type listed
      cases first
      refine ⟨by simp [tensors], List.forall_mem_cons.2 ⟨⟨type, rfl⟩, known⟩, type :: types, ?_,
        by simp [declared, listed]⟩
      rw [List.mapM_cons]
      refine (Act.ends_bind_of_ok (Act.ends_lift.2 ⟨rfl, rfl⟩) _).2 ?_
      exact (Act.ends_bind_of_ok typed _).2 (Act.ends_pure.2 ⟨rfl, rfl⟩)
    · cases first

theorem opened_of_create {file device : String} {source : Source} {script : Script} {e : Engine}
    {network : Network} (created : (create file device source script ()).result = .ok (e, network))
    (distinct : (source.inputs.map (·.name)).Nodup) : Opened source e network := by
  have ends : (create file device source script).Ends () (.ok (e, network)) () := ⟨created, rfl⟩
  rw [create, Act.ends_log_bind, Act.ends_bind_of_ok (Act.ends_call.2 ⟨rfl, rfl⟩)] at ends
  split at ends
  · cases (Act.ends_fail.1 ends).1
  · obtain ⟨⟨inputs, outputs⟩, _, finds, ends⟩ := Act.ends_bind_ok.1 ends
    obtain ⟨infos, found, rest⟩ := bind_ok (Act.ends_lift.1 finds).1.symm
    obtain ⟨outs, _, rest⟩ := bind_ok rest
    cases rest
    obtain ⟨tensors, known, types, typed, declared⟩ := discover_inputs found
    have ends := (Act.ends_bind_of_ok typed _).1 ends
    cases (Act.ends_pure.1 ends).1
    have names : ((inputs.map (·.name)).zip types).map Prod.fst = source.inputs.map (·.name) := by
      have firsts := congrArg (List.map Prod.fst) declared
      simpa [List.map_map, Function.comp_def] using firsts
    refine ⟨rfl, tensors, known, ?_⟩
    show (Entries.ofList _).map _ = _
    rw [Entries.ofList_of_distinct (by rw [Entries.keys, names]; exact distinct), declared]

end Onnx

end FrameBatch
