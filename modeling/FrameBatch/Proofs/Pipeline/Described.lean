import FrameBatch.Proofs.Engine.Reloaded
import Mathlib.Data.List.Induction

namespace FrameBatch.Onnx

open Descriptor (Patching)
open TensorInfo (Sizes)

def Shaped (r : Request) (info : TensorInfo) : Prop :=
  ∃ buffer, r.buffers.get? info.name = some buffer ∧
    info.shape = buffer.shape.map fun (n : Nat) => some (n : Int)

/-- The request has a buffer of this shape and type for the input. -/
def Described (r : Request) (info : TensorInfo) : Prop :=
  ∃ buffer type, r.buffers.get? info.name = some buffer ∧
    info.shape = buffer.shape.map (fun (n : Nat) => some (n : Int)) ∧
    info.elementType = .known type ∧ buffer.type = .element type

theorem Described.shaped {r : Request} {info : TensorInfo} (described : Described r info) :
    Shaped r info := by
  obtain ⟨buffer, _, found, shape, -, -⟩ := described
  exact ⟨buffer, found, shape⟩

theorem Described.congr {r : Request} {info info' : TensorInfo} (described : Described r info)
    (name : info'.name = info.name) (shape : info'.shape = info.shape) :
    Described r info' ↔ info'.elementType = info.elementType := by
  obtain ⟨buffer, type, found, fits, hint, typed⟩ := described
  rw [Described, name, shape, hint]
  constructor
  · rintro ⟨buffer', type', found', -, hint', typed'⟩
    cases found.symm.trans found'
    cases typed.symm.trans typed'
    exact hint'
  · intro same
    exact ⟨buffer, type, found, fits, same, typed⟩

theorem closed_of_bufferShape {d : Descriptor} {info : TensorInfo} {shape : List Dim}
    (sized : bufferShape d info = .ok shape) : shape.any Option.isNone = false := by
  rw [bufferShape_eq] at sized
  obtain ⟨given, -, closed⟩ := bind_ok sized
  exact (closedShape_ok closed).2

theorem allocate_buffers {d : Descriptor} {infos infos' : List TensorInfo}
    {buffers : Entries String Tensor}
    (known : ∀ info ∈ infos, ∃ type, info.elementType = .known type)
    (allocates : allocate d infos = (.ok (), infos', buffers)) : Buffers infos' buffers := by
  induction infos generalizing infos' buffers with
  | nil =>
    cases allocates
    exact .nil
  | cons info rest ih =>
    obtain ⟨⟨type, hint⟩, known⟩ := List.forall_mem_cons.1 known
    rw [allocate] at allocates
    cases shaped : bufferShape d info with
    | error f =>
      rw [shaped] at allocates
      cases allocates
    | ok shape =>
      rw [shaped] at allocates
      dsimp only at allocates
      obtain ⟨sizes, dims, made⟩ | ⟨-, f, fails, -⟩ :=
        zerosOf_cases (closed_of_bufferShape shaped) type
      · rw [hint, made] at allocates
        rcases later : allocate d rest with ⟨r, others, more⟩
        rw [later] at allocates
        cases allocates
        exact .cons ⟨rfl, type, sizes, rfl, dims, rfl⟩ (ih known later)
      · rw [hint, fails] at allocates
        cases allocates

theorem described_of_buffers {infos : List TensorInfo} {r : Request}
    (each : Buffers infos r.buffers) (distinct : (infos.map (·.name)).Nodup) :
    ∀ info ∈ infos, Described r info := by
  intro info member
  obtain ⟨buffer, inside, type, sizes, hint, shape, rfl⟩ := each.of_mem member
  have found := Entries.get?_of_mem (by rw [each.keys]; exact distinct) inside
  exact ⟨_, type, found, shape, hint, rfl⟩

theorem sizes_of_closed {batches : List Int} {infos infos' : List TensorInfo}
    (sizes : List.Forall₂ (Sizes batches) infos infos')
    (closed : ∀ info ∈ infos, ∀ rest, info.shape ≠ none :: rest) :
    infos'.map (fun info => (info.name, info.shape)) =
      infos.map fun info => (info.name, info.shape) := by
  induction sizes with
  | nil => rfl
  | cons first _ ih =>
    obtain ⟨fixed, closed⟩ := List.forall_mem_cons.1 closed
    rcases first.shape with same | ⟨_, _, rest, opened, -⟩
    · rw [List.map_cons, List.map_cons, first.name, same, ih closed]
    · exact absurd opened (fixed rest)

section

variable {l l' : Loading Engine} {fit : Act Descriptor.Fitting Unit}

/-- What becomes of an engine and its network: the request stays, and so do the shapes if there is
one; or there is a new request, of which the network says all. -/
structure Touched (network : Network) (e : Engine) (network' : Network) (e' : Engine) : Prop where
  names : network'.inputNames = network.inputNames
  types : ∀ info ∈ network'.inputs, ∃ type, info.elementType = .known type
  request : (e'.request = e.request ∧ ∀ r, e.request = some r →
      (∀ info ∈ network.inputs, Shaped r info) →
        network'.inputs.map (fun info => (info.name, info.shape)) =
          network.inputs.map fun info => (info.name, info.shape)) ∨
    ∃ r, e'.request = some r ∧ ∀ info ∈ network'.inputs, Described r info

theorem touched_of_check (patching : Patching fit)
    (types : ∀ info ∈ l.network.inputs, ∃ type, info.elementType = .known type)
    {res : Except Fault Unit} {d : Descriptor} {network : Network}
    (fits : fit.Ends (l.descriptor, l.network) res (d, network)) :
    Touched l.network l.engine network l.engine := by
  obtain ⟨tensors, known⟩ := patching.keeps_tensors types fits
  exact ⟨TensorInfo.names_congr tensors, known, .inl ⟨rfl, fun _ _ _ => tensors⟩⟩

theorem touched_of_load (patching : Patching fit)
    (types : ∀ info ∈ l.network.inputs, ∃ type, info.elementType = .known type)
    (distinct : l.network.inputNames.Nodup) {res : Except Fault Unit}
    (h : (load fit).Ends l res l') : Touched l.network l.engine l'.network l'.engine := by
  cases load_ends h with
  | refused refuses => exact touched_of_check patching types refuses
  | @unsized _ d patched infos _ accepts fails =>
    obtain ⟨tensors, known⟩ := patching.keeps_tensors types accepts
    obtain ⟨sizes, typed⟩ := allocate_sizes (List.mem_singleton_self d.maxBatch) patched.inputs
    have names := (allocate_names d patched.inputs).1
    rw [fails] at sizes typed names
    refine ⟨names.trans (TensorInfo.names_congr tensors), known_of_types typed known,
      .inl ⟨rfl, fun r _ shaped => (sizes_of_closed sizes ?_).trans tensors⟩⟩
    -- an input with a buffer has no open dimension that the sizing could have filled
    intro info member rest opened
    have tensor : (info.name, info.shape) ∈
        l.network.inputs.map fun info => (info.name, info.shape) := by
      rw [← tensors]
      exact List.mem_map_of_mem member
    obtain ⟨old, inside, same⟩ := List.mem_map.1 tensor
    obtain ⟨buffer, -, fits⟩ := shaped old inside
    have shape : old.shape = none :: rest := (congrArg Prod.snd same).trans opened
    rw [shape] at fits
    cases dims : buffer.shape with
    | nil => rw [dims] at fits; cases fits
    | cons n _ => rw [dims] at fits; cases fits
  | @loaded d patched infos buffers accepts sizes =>
    obtain ⟨tensors, known⟩ := patching.keeps_tensors types accepts
    obtain ⟨-, typed⟩ := allocate_sizes (List.mem_singleton_self d.maxBatch) patched.inputs
    have names := (allocate_names d patched.inputs).1
    rw [sizes] at typed names
    have each := allocate_buffers known sizes
    replace names : infos.map (·.name) = l.network.inputNames :=
      names.trans (TensorInfo.names_congr tensors)
    have unique : (infos.map (·.name)).Nodup := by
      rw [names]
      exact distinct
    refine ⟨names, known_of_types typed known, .inr ⟨_, rfl, described_of_buffers ?_ unique⟩⟩
    rw [Entries.ofList_of_distinct (by rw [each.keys]; exact unique)]
    exact each

end

/-- What is done with an engine and descriptors for it: it is loaded for one, or attached to a
pipeline that has one. -/
inductive Turn
  | load (descriptor : String)
  | attach (pipeline : Pipeline)

variable {checks : String → Act Descriptor.Fitting Unit} {engine : String} {key : NetworkKey}

def Turn.act (checks : String → Act Descriptor.Fitting Unit) (engine : String) :
    Turn → Act (Bench Engine) Unit
  | load descriptor => Bench.onLoading engine descriptor (Onnx.load (checks descriptor))
  | attach p =>
    (Pipeline.loadEngineBy (checks p.descriptor) engine).on (⟨p, ·⟩) fun site _ => site.bench

def taken (checks : String → Act Descriptor.Fitting Unit) (engine : String) (bench : Bench Engine)
    (turns : List Turn) : Bench Engine :=
  turns.foldl (fun bench turn => (turn.act checks engine bench).state) bench

structure Serves (bench : Bench Engine) (engine : String) (key : NetworkKey) (network : Network)
    (e : Engine) : Prop where
  engine : bench.engines.get? engine = some (key, e)
  network : bench.networks.get? key = some network

variable {bench : Bench Engine} {network : Network} {e : Engine}

theorem Serves.withLoading (serves : Serves bench engine key network e) (descriptor : String)
    (l : Loading Engine) :
    Serves (bench.withLoading engine descriptor key l) engine key l.network l.engine where
  engine := by
    rw [Bench.withLoading, Entries.get?_adjust_self, serves.engine]
    rfl
  network := by
    rw [Bench.withLoading, Entries.get?_adjust_self, serves.network]
    rfl

theorem state_tensor (name : TensorName) (e : Engine) : (tensor name e).state = e := by
  have ends := (tensor name).ends_self e
  cases found : e.request with
  | none => exact (ends_theRequest_bind_of_none found ends).2
  | some r => exact (tensor_cases found ends).1

theorem keeps_tensor (name : TensorName) :
    (Site.onEngine engine (Backend.tensor name)).Keeps fun s : Site Engine =>
      Serves s.bench engine key network e := by
  intro s serves
  have held : s.bench.Holds engine e := ⟨key, serves.engine⟩
  obtain ⟨e', ends, after⟩ :=
    (Site.ends_onEngine held).1 ((Site.onEngine engine (Backend.tensor name)).ends_self s)
  have same : e' = e := ends.state.symm.trans (state_tensor name e)
  show Serves (Site.onEngine engine (Backend.tensor name) s).state.bench engine key network e
  rw [after, same]
  refine ⟨?_, serves.network⟩
  show (s.bench.engines.adjust engine _).get? engine = _
  rw [Entries.get?_adjust_self, serves.engine]
  rfl

theorem touches_onLoading (serves : Serves bench engine key network e)
    (types : ∀ info ∈ network.inputs, ∃ type, info.elementType = .known type)
    {x : Act (Loading Engine) Unit} (each : ∀ d res l', x.Ends ⟨d, network, e⟩ res l' →
      Touched network e l'.network l'.engine) (descriptor : String) :
    ∃ network' e', Serves (Bench.onLoading engine descriptor x bench).state engine key network' e' ∧
      Touched network e network' e' := by
  cases described : bench.descriptors.get? descriptor with
  | none =>
    refine ⟨network, e, ?_, rfl, types, .inl ⟨rfl, fun _ _ _ => rfl⟩⟩
    simp only [Bench.onLoading, serves.engine, described]
    exact serves
  | some d =>
    obtain ⟨l', ends, after⟩ := (Bench.ends_onLoading serves.engine described).1
      ((Bench.onLoading engine descriptor x).ends_self bench)
    have shown : bench.network key = network := by
      rw [Bench.network, serves.network]
      rfl
    rw [shown] at ends
    refine ⟨l'.network, l'.engine, ?_, each d _ l' ends⟩
    rw [after]
    exact serves.withLoading descriptor l'

theorem keeps_attaching (p : Pipeline) :
    Act.Keeps (fun s : Site Engine => Serves s.bench engine key network e) (do
      let d ← Site.descriptor
      let t ← Site.onEngine engine (Backend.tensor d.input)
      Pipeline.checkInput d.input p.maxBatch t
      Site.update fun p => { p.cleared with engine := some engine, results := [] }
      Pipeline.report .info
        (d.category ++ s!" pipeline ready (max batch size {p.maxBatch})")) := by
  apply Act.keeps_bind
  · refine Act.keeps_bind (Act.keeps_get _) fun s => ?_
    split
    · exact Act.keeps_pure _ _
    · exact Act.keeps_fail _ _
  · intro d
    refine Act.keeps_bind (keeps_tensor d.input) fun t => ?_
    refine Act.keeps_bind (Act.keeps_lift _ _) fun _ => ?_
    exact Act.keeps_bind (fun _ serves => serves) fun _ => Act.keeps_log _ _ _ _

theorem serves_attached (serves : Serves bench engine key network e)
    {fit : Act Descriptor.Fitting Unit} {p : Pipeline} {r : Except Fault Unit} {s : Site Engine}
    (ends : (Pipeline.loadEngineBy fit engine).Ends ⟨p, bench⟩ r s) {network' : Network}
    {e' : Engine} (fitted : Serves (Bench.onLoading engine p.descriptor
      (if Backend.isLoaded e then Loading.onFitting fit else Backend.load fit) bench).state engine
      key network' e') : Serves s.bench engine key network' e' := by
  rw [Pipeline.loadEngineBy, Act.ends_get_bind] at ends
  simp only [serves.engine] at ends
  rcases Act.ends_bind.1 ends with ⟨_, middle, placed, rest⟩ | ⟨f, _, placed⟩
  · obtain ⟨b, fits, rfl⟩ := Site.ends_onBench.1 placed
    have fitted : Serves b engine key network' e' := fits.state ▸ fitted
    exact (keeps_attaching p).ends rest fitted
  · obtain ⟨b, fits, rfl⟩ := Site.ends_onBench.1 placed
    exact fits.state ▸ fitted

theorem Turn.touches (patching : ∀ name, Patching (checks name))
    (serves : Serves bench engine key network e)
    (types : ∀ info ∈ network.inputs, ∃ type, info.elementType = .known type)
    (distinct : network.inputNames.Nodup) (turn : Turn) :
    ∃ network' e', Serves (turn.act checks engine bench).state engine key network' e' ∧
      Touched network e network' e' := by
  have loads (name : String) (d : Descriptor) (res : Except Fault Unit) (l' : Loading Engine)
      (ends : (Onnx.load (checks name)).Ends ⟨d, network, e⟩ res l') :
      Touched network e l'.network l'.engine :=
    touched_of_load (patching name) types distinct ends
  cases turn with
  | load descriptor => exact touches_onLoading serves types (loads descriptor) descriptor
  | attach p =>
    have fits (d : Descriptor) (res : Except Fault Unit) (l' : Loading Engine)
        (ends : (if Backend.isLoaded e then Loading.onFitting (checks p.descriptor)
          else Backend.load (checks p.descriptor)).Ends ⟨d, network, e⟩ res l') :
        Touched network e l'.network l'.engine := by
      split at ends
      · obtain ⟨⟨d', network'⟩, fits, rfl⟩ := Act.ends_on.1 ends
        exact touched_of_check (patching p.descriptor) types fits
      · exact loads p.descriptor d res l' ends
    obtain ⟨network', e', fitted, touched⟩ := touches_onLoading serves types fits p.descriptor
    have ends := (Pipeline.loadEngineBy (checks p.descriptor) engine).ends_self
      (⟨p, bench⟩ : Site Engine)
    exact ⟨network', e', serves_attached serves ends fitted, touched⟩

theorem Serves.unique {network' : Network} {e' : Engine}
    (serves : Serves bench engine key network e) (serves' : Serves bench engine key network' e') :
    network' = network ∧ e' = e := by
  have engines := serves'.engine.symm.trans serves.engine
  have networks := serves'.network.symm.trans serves.network
  cases engines
  cases networks
  exact ⟨rfl, rfl⟩

/-- The load that made a request is one of the turns. From then on the inputs have kept their names
and shapes. -/
structure MadeBy (checks : String → Act Descriptor.Fitting Unit) (engine : String)
    (key : NetworkKey) (bench : Bench Engine) (turns : List Turn) (network : Network) (r : Request)
    (made : Network) : Prop where
  turn : ∃ earlier later e, turns = earlier ++ later ∧
    Serves (taken checks engine bench earlier) engine key made e ∧ e.request = some r
  described : ∀ info ∈ made.inputs, Described r info
  tensors : network.inputs.map (fun info => (info.name, info.shape)) =
    made.inputs.map fun info => (info.name, info.shape)

theorem MadeBy.shaped {turns : List Turn} {r : Request} {made : Network}
    (by_load : MadeBy checks engine key bench turns network r made) :
    ∀ info ∈ network.inputs, Shaped r info := by
  intro info member
  have tensor : (info.name, info.shape) ∈ made.inputs.map fun info => (info.name, info.shape) := by
    rw [← by_load.tensors]
    exact List.mem_map_of_mem member
  obtain ⟨old, inside, same⟩ := List.mem_map.1 tensor
  obtain ⟨buffer, found, shape⟩ := (by_load.described old inside).shaped
  obtain ⟨name, same⟩ := Prod.mk.inj same
  exact ⟨buffer, name ▸ found, same ▸ shape⟩

theorem MadeBy.kept_types_iff {turns : List Turn} {r : Request} {made : Network}
    (by_load : MadeBy checks engine key bench turns network r made) :
    (∀ info ∈ network.inputs, Described r info) ↔
      network.inputs.map (·.elementType) = made.inputs.map (·.elementType) := by
  obtain ⟨-, described, tensors⟩ := by_load
  rcases network with ⟨infos, outputs⟩
  rcases made with ⟨infos', outputs'⟩
  change infos.map _ = infos'.map _ at tensors
  show (∀ info ∈ infos, Described r info) ↔ infos.map _ = infos'.map _
  induction infos generalizing infos' with
  | nil =>
    obtain rfl := List.map_eq_nil_iff.1 tensors.symm
    simp
  | cons info rest ih =>
    cases infos' with
    | nil => cases tensors
    | cons info' rest' =>
      obtain ⟨first, later⟩ := List.cons.inj tensors
      obtain ⟨name, shape⟩ := Prod.mk.inj first
      obtain ⟨described, others⟩ := List.forall_mem_cons.1 described
      rw [List.forall_mem_cons, List.map_cons, List.map_cons, List.cons.injEq,
        described.congr name shape, ih rest' others later]

theorem madeBy_of_turns (patching : ∀ name, Patching (checks name))
    (serves : Serves bench engine key network e) (unloaded : e.request = none)
    (types : ∀ info ∈ network.inputs, ∃ type, info.elementType = .known type)
    (distinct : network.inputNames.Nodup) (turns : List Turn) :
    ∃ now e', Serves (taken checks engine bench turns) engine key now e' ∧
      now.inputNames = network.inputNames ∧
      (∀ info ∈ now.inputs, ∃ type, info.elementType = .known type) ∧
      ∀ r, e'.request = some r → ∃ made, MadeBy checks engine key bench turns now r made := by
  induction turns using List.reverseRecOn with
  | nil =>
    refine ⟨network, e, serves, rfl, types, fun r loaded => ?_⟩
    rw [unloaded] at loaded
    cases loaded
  | append_singleton turns turn ih =>
    obtain ⟨before, e₁, serves₁, names, known, requests⟩ := ih
    have distinct₁ : before.inputNames.Nodup := by
      rw [names]
      exact distinct
    obtain ⟨now, e', serves', touched⟩ := turn.touches patching serves₁ known distinct₁
    have after : taken checks engine bench (turns ++ [turn]) =
        (turn.act checks engine (taken checks engine bench turns)).state := by
      rw [taken, List.foldl_append]
      rfl
    rw [← after] at serves'
    refine ⟨now, e', serves', touched.names.trans names, touched.types, fun r loaded => ?_⟩
    -- the request is the one from before the last turn, or that turn made it
    rcases touched.request with ⟨same, keeps⟩ | ⟨r', loaded', described⟩
    · rw [same] at loaded
      obtain ⟨made, by_load⟩ := requests r loaded
      obtain ⟨earlier, later, e₂, split, found⟩ := by_load.turn
      refine ⟨made, ⟨earlier, later ++ [turn], e₂, ?_, found⟩, by_load.described,
        (keeps r loaded by_load.shaped).trans by_load.tensors⟩
      rw [split, List.append_assoc]
    · cases loaded.symm.trans loaded'
      exact ⟨now, ⟨turns ++ [turn], [], e', (List.append_nil _).symm, serves', loaded⟩, described,
        rfl⟩

/-- However an engine is loaded and attached after it was created: if it has a request, this has a
buffer of the recorded shape for every input. The recorded types are those of the buffers if and
only if they still are what they were when the request was made. -/
theorem described_iff {file device : String} {source : Source} {script : Script}
    (created : (create file device source script ()).result = .ok (e, network))
    (distinct : (source.inputs.map (·.name)).Nodup) (patching : ∀ name, Patching (checks name))
    (serves : Serves bench engine key network e) (turns : List Turn) :
    ∃ now e', Serves (taken checks engine bench turns) engine key now e' ∧
      ∀ r, e'.request = some r → (∀ info ∈ now.inputs, Shaped r info) ∧
        ∃ made, MadeBy checks engine key bench turns now r made ∧
          ((∀ info ∈ now.inputs, Described r info) ↔
            now.inputs.map (·.elementType) = made.inputs.map (·.elementType)) := by
  have opened := opened_of_create created distinct
  have unique : network.inputNames.Nodup := by
    rw [opened.names, opened.keys]
    exact distinct
  obtain ⟨now, e', serves', -, -, requests⟩ :=
    madeBy_of_turns patching serves opened.unloaded opened.types unique turns
  refine ⟨now, e', serves', fun r loaded => ?_⟩
  obtain ⟨made, by_load⟩ := requests r loaded
  exact ⟨by_load.shaped, made, by_load, by_load.kept_types_iff⟩

def plateBench : Bench Engine where
  networks := [(.ofEngine "lpr", Descriptor.plateNetwork "prob")]
  descriptors := [("plates", Descriptor.sharedPlates),
    ("loose", { Descriptor.sharedPlates with family := .unchecked })]
  engines := [("lpr", .ofEngine "lpr", plateSession)]

def platePipeline : Pipeline where
  descriptor := "plates"
  decoder := default
  scale := .int 1
  maxBatch := 2

theorem described_plates :
    ∃ now e' r, Serves (taken (fun _ => Descriptor.accept) "lpr" plateBench
        [.load "plates", .attach platePipeline]) "lpr" (.ofEngine "lpr") now e' ∧
      e'.request = some r ∧ ∀ info ∈ now.inputs, Shaped r info := by
  have created : (create "lpr.onnx" "CPU" plateGraph { runs := [] } ()).result =
      .ok (plateSession, Descriptor.plateNetwork "prob") := rfl
  have serves : Serves plateBench "lpr" (.ofEngine "lpr") (Descriptor.plateNetwork "prob")
    plateSession := ⟨rfl, rfl⟩
  obtain ⟨now, e', found, requests⟩ := described_iff created (by decide)
    (fun _ => Descriptor.patching_accept) serves [.load "plates", .attach platePipeline]
  have loaded : ∃ now e' r, Serves (taken (fun _ => Descriptor.accept) "lpr" plateBench
      [.load "plates", .attach platePipeline]) "lpr" (.ofEngine "lpr") now e' ∧
    e'.request = some r := ⟨_, _, _, ⟨rfl, rfl⟩, rfl⟩
  obtain ⟨now', e'', r, found', loaded⟩ := loaded
  obtain ⟨rfl, rfl⟩ := found.unique found'
  exact ⟨_, _, r, found, loaded, (requests r loaded).1⟩

/-- An engine that is loaded for a descriptor that has nothing to say about storage, and then
attached to a pipeline for licence plates: the image input is one of bytes by then, and its buffer
one of floating-point numbers. -/
theorem stored_otherwise :
    let loaded := Turn.act (fun _ => Descriptor.accept) "lpr" (.load "loose") plateBench
    let attached := Turn.act (fun _ => Descriptor.accept) "lpr" (.attach platePipeline) loaded.state
    loaded.result = .ok () ∧ attached.result = .ok () ∧
      ∃ now e' r info, Serves attached.state "lpr" (.ofEngine "lpr") now e' ∧
        e'.request = some r ∧ info ∈ now.inputs ∧ info.elementType = .known .u8 ∧
        ∃ buffer, r.buffers.get? info.name = some buffer ∧ buffer.type = .element .f32 ∧
          ¬ Described r info := by
  refine ⟨rfl, rfl, _, _, _, _, ⟨rfl, rfl⟩, rfl, List.mem_cons_self, rfl, _, rfl, rfl, ?_⟩
  rintro ⟨buffer, type, found, -, hint, typed⟩
  cases found
  cases hint
  cases typed

end FrameBatch.Onnx
