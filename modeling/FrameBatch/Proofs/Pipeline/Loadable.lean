import FrameBatch.Proofs.Engine.Any
import FrameBatch.Proofs.Engine.Fed
import FrameBatch.Proofs.Pipeline.Attach

namespace FrameBatch

namespace Pipeline

variable {ε : Type} [Backend ε] {s : Site ε} {engine : String} {key : NetworkKey} {e e' : ε}
  {d d' : Descriptor} {again : Network} {t : Tensor} {fit : Act Descriptor.Fitting Unit}

/-- Attach an engine to a pipeline whose descriptor checks networks in a way of its own. -/
def loadEngineBy (fit : Act Descriptor.Fitting Unit) (engine : String) : Act (Site ε) Unit := do
  let s ← Act.get
  match s.bench.engines.get? engine with
  | none => missing engine
  | some (_, e) =>
    Site.onBench (Bench.onLoading engine s.pipeline.descriptor
      (if Backend.isLoaded e then Loading.onFitting fit else Backend.load fit))
    let d ← Site.descriptor
    let t ← Site.onEngine engine (Backend.tensor d.input)
    checkInput d.input s.pipeline.maxBatch t
    Site.update fun p => { p.cleared with engine := some engine, results := [] }
    report .info (d.category ++ s!" pipeline ready (max batch size {s.pipeline.maxBatch})")

theorem loadEngineBy_accept (engine : String) :
    loadEngineBy (ε := ε) Descriptor.accept engine = loadEngine engine :=
  rfl

theorem attach_loaded (found : s.bench.engines.get? engine = some (key, e))
    (described : s.descriptor? = some d) (loaded : Backend.isLoaded e = true)
    (accepts : fit.Ends (d, s.bench.network key) (.ok ()) (d', again))
    (reads : (Backend.tensor d'.input).Ends e (.ok t) e')
    (holds : checkInput d'.input s.pipeline.maxBatch t = .ok ()) :
    (loadEngineBy fit engine).Ends s (.ok ())
      { (s.withLoading engine key ⟨d', again, e⟩).withEngine engine e' with
        pipeline := s.pipeline.withEngine engine } := by
  let l : Loading ε := ⟨d', again, e⟩
  have held : s.bench.Holds engine e := ⟨key, found⟩
  have shown : (Loading.onFitting fit).Ends ⟨d, s.bench.network key, e⟩ (.ok ()) l :=
    Act.ends_on.2 ⟨(d', again), accepts, rfl⟩
  have loads : (Site.onBench (Bench.onLoading engine s.pipeline.descriptor
      (Loading.onFitting fit))).Ends s (.ok ()) (s.withLoading engine key l) :=
    Site.ends_onBench.2 ⟨_, (Bench.ends_onLoading found described).2 ⟨l, shown, rfl⟩, rfl⟩
  have named := Site.ends_descriptor_of_some (Site.descriptor?_withLoading described engine key l)
  have read := (Site.ends_onEngine (Site.holds_withLoading held key l)).2 ⟨e', reads, rfl⟩
  rw [loadEngineBy, Act.ends_get_bind, found]
  simp only [loaded, if_true]
  rw [Act.ends_bind_of_ok loads, Act.ends_bind_of_ok named, Act.ends_bind_of_ok read,
    Act.ends_bind_of_ok (Act.ends_lift.2 ⟨holds.symm, rfl⟩), Site.ends_update_bind]
  exact Act.ends_log.2 ⟨rfl, rfl⟩

theorem checkInput_blank {info : TensorInfo} {bound : String} {batch : Int} (name : TensorName)
    (fits : info.Sizable bound batch) (here : info.name = bound) (planar : info.rank = 4)
    (blank : (info.sizedFor bound batch).Blank t) : checkInput name batch t = .ok () := by
  obtain ⟨type, sizes, -, shape, rfl⟩ := blank
  obtain ⟨n, rest, lead, room⟩ := fits.lead here
  have four : sizes.length = 4 := by
    rw [← planar, ← info.rank_sizedFor bound batch, TensorInfo.rank, shape, List.length_map]
  obtain ⟨slots, channels, height, width, rfl⟩ : ∃ a b c e, sizes = [a, b, c, e] :=
    List.length_eq_four.1 four
  rw [lead, List.map_cons, List.cons.injEq] at shape
  have same : n = slots := Option.some.inj shape.1
  show (if (slots : Int) < batch then _ else _) = _
  rw [if_neg (by omega)]

end Pipeline

namespace Onnx

open Descriptor (Patching)

variable {d : Descriptor} {bound : String}

/-- How an engine and its network are after they were loaded for a descriptor with this bound input:
the network is the one that the check left, sized for a batch. -/
structure LoadedFor (source : Source) (discovered patched : Network) (d : Descriptor)
    (bound : String) (fit : Act Descriptor.Fitting Unit) (l : Loading Engine) : Prop where
  descriptor : l.descriptor = d
  network : l.network = { patched with inputs := patched.inputs.map (·.sizedFor bound d.maxBatch) }
  shapes : l.network.inputs.map (fun info => (info.name, info.shape)) =
    discovered.inputs.map fun info => (info.name, (info.sizedFor bound d.maxBatch).shape)
  buffers : ∃ r, l.engine.request = some r ∧ Buffers l.network.inputs r.buffers
  feeds (list : List Deed) (outputs : List String) (feeds : List Feed)
    (ran : .call (.run outputs feeds) ∈ (deeds list l).trail) :
    feeds.map (fun feed => (feed.name, some feed.type)) =
      source.inputs.map fun spec => (spec.name, (elementTypes.lookup spec.type).map .element)
  attaches {s : Site FrameBatch.Engine} {engine : String} {key : NetworkKey} {d' : Descriptor}
    {again : Network} (held : s.bench.engines.get? engine = some (key, .onnx l.engine))
    (shown : s.bench.network key = l.network) (described : s.descriptor? = some d)
    (batch : s.pipeline.maxBatch = d.maxBatch)
    (planar : ∀ info ∈ discovered.inputs, info.name = bound → info.rank = 4)
    (accepts : fit.Ends (d, l.network) (.ok ()) (d', again)) :
    ∃ s', (Pipeline.loadEngineBy fit engine).Ends s (.ok ()) s' ∧ s'.pipeline.engine = some engine

theorem FedWith.feeds {source : Source} {e : Engine} {network : Network}
    (opened : Opened source e network) {outputs : List String} {feeds : List Feed}
    (fed : FedWith e.declared (.call (.run outputs feeds))) :
    feeds.map (fun feed => (feed.name, some feed.type)) =
      source.inputs.map fun spec => (spec.name, (elementTypes.lookup spec.type).map .element) := by
  have declared : e.declared.map (fun entry => (entry.1, some entry.2)) =
      source.inputs.map fun spec => (spec.name, elementTypes.lookup spec.type) := opened.declared
  have fed : feeds.map (fun feed => (feed.name, feed.type)) =
      e.declared.map fun entry => (entry.1, .element entry.2) := fed
  calc feeds.map (fun feed => (feed.name, some feed.type))
      = (feeds.map fun feed => (feed.name, feed.type)).map
          fun entry => (entry.1, some entry.2) := by
        rw [List.map_map]
        rfl
    _ = (e.declared.map fun entry => (entry.1, some entry.2)).map
          fun entry => (entry.1, entry.2.map .element) := by
        rw [fed, List.map_map, List.map_map]
        rfl
    _ = source.inputs.map fun spec =>
          (spec.name, (elementTypes.lookup spec.type).map .element) := by
        rw [declared, List.map_map]
        rfl

theorem Opened.keys {source : Source} {e : Engine} {network : Network}
    (opened : Opened source e network) : e.declared.keys = source.inputs.map (·.name) := by
  have declared := congrArg (List.map Prod.fst) opened.declared
  rw [List.map_map, List.map_map] at declared
  exact declared

theorem Opened.names {source : Source} {e : Engine} {network : Network}
    (opened : Opened source e network) : network.inputNames = e.declared.keys := by
  have named := congrArg (List.map Prod.fst) opened.inputs
  rw [List.map_map, List.map_map] at named
  exact named.trans opened.keys.symm

theorem Opened.typed {source : Source} {e : Engine} {network : Network}
    (opened : Opened source e network) (d : Descriptor) :
    TypedLoading e.declared ⟨d, network, e⟩ where
  engine := ⟨rfl, fun r loaded => by rw [opened.unloaded] at loaded; cases loaded⟩
  inputs := opened.names

section

variable {source : Source} {e : Engine} {network patched : Network} {d₀ : Descriptor}
  {fit : Act Descriptor.Fitting Unit} {infos : List TensorInfo} {info : TensorInfo} {r : Request}

theorem tensor_blank {batch : Int} (loaded : e.request = some r)
    (each : Buffers (infos.map (·.sizedFor bound batch)) r.buffers)
    (distinct : (infos.map (·.name)).Nodup) (member : info ∈ infos) (here : info.name = bound) :
    ∃ t, (info.sizedFor bound batch).Blank t ∧
      (Backend.tensor (some bound)).Ends (FrameBatch.Engine.onnx e) (.ok t) (.onnx e) := by
  obtain ⟨t, inside, blank⟩ := each.of_mem (List.mem_map_of_mem member)
  rw [info.name_sizedFor, here] at inside
  have found := Entries.get?_of_mem (by rw [each.keys_sized]; exact distinct) inside
  have held : r.tensor? bound = some t := by rw [Request.tensor?, found, Option.some_or]
  have reads : (tensor (some bound)).Ends e (.ok t) e := tensor_of_found loaded held
  refine ⟨t, blank, reads.result, ?_⟩
  show FrameBatch.Engine.onnx (tensor (some bound) e).state = .onnx e
  rw [reads.state]

theorem attaches_sized (patching : Patching fit) (loaded : e.request = some r)
    (each : Buffers (infos.map (·.sizedFor bound d.maxBatch)) r.buffers)
    (distinct : (infos.map (·.name)).Nodup) (member : info ∈ infos) (here : info.name = bound)
    (fits : info.Sizable bound d.maxBatch) (planar : info.rank = 4) (input : d.input = some bound)
    {s : Site FrameBatch.Engine} {engine : String} {key : NetworkKey} {d' : Descriptor}
    {again : Network} (held : s.bench.engines.get? engine = some (key, .onnx e))
    (described : s.descriptor? = some d) (batch : s.pipeline.maxBatch = d.maxBatch)
    (accepts : fit.Ends (d, s.bench.network key) (.ok ()) (d', again)) :
    ∃ s', (Pipeline.loadEngineBy fit engine).Ends s (.ok ()) s' ∧
      s'.pipeline.engine = some engine := by
  have input' : d'.input = some bound := by
    have keeps := patching.keeps (d, s.bench.network key) .input bound input
    rwa [accepts.state] at keeps
  have isLoaded : Backend.isLoaded (FrameBatch.Engine.onnx e) = true := by
    show e.request.isSome = true
    rw [loaded]
    rfl
  obtain ⟨t, blank, reads⟩ := tensor_blank loaded each distinct member here
  have holds := Pipeline.checkInput_blank (some bound) fits here planar blank
  rw [← input', ← batch] at holds
  rw [← input'] at reads
  exact ⟨_, Pipeline.attach_loaded held described isLoaded accepts reads holds, rfl⟩

theorem loadedFor_of_sizable (opened : Opened source e network)
    (distinct : (source.inputs.map (·.name)).Nodup) (patching : Patching fit)
    (accepts : fit.Ends (d₀, network) (.ok ()) (d, patched)) (positive : 1 ≤ d.maxBatch)
    (input : d.input = some bound) (member : bound ∈ network.inputNames)
    (fits : ∀ info ∈ patched.inputs, info.Sizable bound d.maxBatch) :
    (load fit ⟨d₀, network, e⟩).result = .ok () ∧
      LoadedFor source network patched d bound fit (load fit ⟨d₀, network, e⟩).state := by
  obtain ⟨kept, known⟩ := patching.keeps_tensors opened.types accepts
  obtain ⟨-, buffers, each, loads⟩ | ⟨unfit, -⟩ := load_accepted positive input accepts known e
  · rw [← opened.keys] at distinct
    have typed := (upholds_load distinct patching).state (opened.typed d₀)
    have names : patched.inputs.map (·.name) = network.inputNames := TensorInfo.names_congr kept
    have unique : (patched.inputs.map (·.name)).Nodup := by
      rw [names, opened.names]
      exact distinct
    rw [Entries.ofList_of_distinct (by rw [each.keys_sized]; exact unique)] at loads
    refine ⟨loads.result, ?_⟩
    rw [loads.state] at typed ⊢
    constructor
    case descriptor => rfl
    case network => rfl
    case shapes =>
      rw [← (TensorInfo.sized_congr kept bound d.maxBatch).2, List.map_map]
      exact List.map_congr_left fun info _ => Prod.ext (info.name_sizedFor _ _) rfl
    case buffers => exact ⟨_, rfl, each⟩
    case feeds =>
      intro list outputs feeds ran
      exact FedWith.feeds opened ((upholds_deeds distinct list).trail typed _ ran)
    case attaches =>
      intro s engine key d' again held shown described batch planar accepts'
      rw [← names] at member
      obtain ⟨info, inside, here⟩ := List.mem_map.1 member
      have tensor : (info.name, info.shape) ∈
          network.inputs.map fun info => (info.name, info.shape) := by
        rw [← kept]
        exact List.mem_map_of_mem inside
      obtain ⟨original, discovered, same⟩ := List.mem_map.1 tensor
      obtain ⟨name, shape⟩ := Prod.mk.inj same
      have rank : info.rank = 4 := by
        rw [TensorInfo.rank, ← shape]
        exact planar original discovered (name.trans here)
      rw [← shown] at accepts'
      exact attaches_sized patching rfl each unique inside here (fits info inside) rank input held
        described batch accepts'
  · exact absurd fits unfit

theorem accepts_sized (plates : d₀.family = .plate) (distinct : network.inputNames.Nodup)
    (accepts : Descriptor.accept.Ends (d₀, network) (.ok ()) (d, patched))
    (input : d.input = some bound) :
    (∀ info ∈ network.inputs, info.name = bound → info.rank = 4) ∧
      ∃ again, Descriptor.accept.Ends
        (d, { patched with inputs := patched.inputs.map (·.sizedFor bound d.maxBatch) })
        (.ok ()) (d, again) := by
  obtain ⟨names, reads, rfl, before⟩ := Descriptor.accepted_plate plates accepts
  have bound_input : names .input = bound := by
    have part := before.bound .input
    rw [Option.map_some] at part
    exact Option.some.inj (part.symm.trans input)
  constructor
  · intro info member here
    exact reads.rank_of_input distinct member (here.trans bound_input.symm)
  · apply Descriptor.accepts_named before
    apply Network.ReadsPlates.map reads.patchPlate
    · exact fun info => info.name_sizedFor bound d.maxBatch
    · exact fun info => info.rank_sizedFor bound d.maxBatch
    · intro info n rest lead
      rw [TensorInfo.sizedFor_of_lead lead]

end

/-- A descriptor that accepts the network that an engine discovered, and is bound to one of its
inputs: the engine is loaded for it if all inputs can be sized, and is left unloaded otherwise. -/
theorem load_sizes_network {file device : String} {source : Source} {script : Script} {e : Engine}
    {network patched : Network} {d₀ d : Descriptor} {fit : Act Descriptor.Fitting Unit}
    (created : (create file device source script ()).result = .ok (e, network))
    (distinct : (source.inputs.map (·.name)).Nodup) (patching : Patching fit)
    (accepts : fit.Ends (d₀, network) (.ok ()) (d, patched)) (positive : 1 ≤ d.maxBatch)
    (input : d.input = some bound) (member : bound ∈ network.inputNames) :
    let loaded := load fit ⟨d₀, network, e⟩
    let fits := ∀ info ∈ network.inputs, info.Sizable bound d.maxBatch
    (loaded.result = .ok () ↔ fits) ∧
      (fits → LoadedFor source network patched d bound fit loaded.state) ∧
      (¬ fits → (∃ f, loaded.result = .error f ∧ f.kind = .value) ∧
        loaded.state.engine.request = none) ∧
      (fits → fit = Descriptor.accept → d₀.family = .plate →
        (∀ info ∈ network.inputs, info.name = bound → info.rank = 4) ∧
          ∃ again, fit.Ends (d, loaded.state.network) (.ok ()) (d, again)) := by
  intro loaded fits
  have opened := opened_of_create created distinct
  obtain ⟨kept, known⟩ := patching.keeps_tensors opened.types accepts
  have sizable : (∀ info ∈ patched.inputs, info.Sizable bound d.maxBatch) ↔ fits :=
    (TensorInfo.sized_congr kept bound d.maxBatch).1
  by_cases fit_all : fits
  · obtain ⟨loads, after⟩ := loadedFor_of_sizable opened distinct patching accepts positive input
      member (sizable.2 fit_all)
    refine ⟨iff_of_true loads fit_all, fun _ => after, absurd fit_all, ?_⟩
    rintro - rfl plates
    rw [after.network]
    apply accepts_sized plates _ accepts input
    rw [opened.names, opened.keys]
    exact distinct
  · obtain ⟨all, -⟩ | ⟨-, f, inputs, loads, value⟩ := load_accepted positive input accepts known e
    · exact absurd (sizable.1 all) fit_all
    · refine ⟨iff_of_false ?_ fit_all, (absurd · fit_all), fun _ => ⟨⟨f, loads.result, value⟩, ?_⟩,
        (absurd · fit_all)⟩
      · rw [loads.result]
        nofun
      · show (load fit ⟨d₀, network, e⟩).state.engine.request = none
        rw [loads.state]
        exact opened.unloaded

def plateGraph : Source where
  inputs := [⟨"data", "tensor(float)", [none, some 3, some 24, some 94]⟩,
    ⟨"seq", "tensor(float)", [some 88, some 1]⟩]
  outputs := [⟨"prob", "tensor(float)", [none, some 88]⟩]

theorem loaded_sharedPlates :
    let e : Engine := { device := "cpu", declared := [("data", .f32), ("seq", .f32)],
                        script := { runs := [] } }
    let l := (load Descriptor.accept
      ⟨Descriptor.sharedPlates, Descriptor.plateNetwork "prob", e⟩).state
    let site : Site FrameBatch.Engine := {
      pipeline := { descriptor := "plates", decoder := default, scale := .int 1, maxBatch := 2 }
      bench := {
        networks := [(.ofEngine "lpr", l.network)]
        descriptors := [("plates", l.descriptor)]
        engines := [("lpr", .ofEngine "lpr", .onnx l.engine)] } }
    l.network.inputs.map (fun info => (info.shape, info.elementType)) =
        [([some 2, some 3, some 24, some 94], .known .u8), ([some 88, some 1], .known .f32)] ∧
      (∃ feeds, .call (.run ["prob"] feeds) ∈ (deeds [.infer] l).trail ∧
        feeds.map (fun feed => (feed.name, some feed.type)) =
          [("data", some (.element .f32)), ("seq", some (.element .f32))]) ∧
      (Pipeline.loadEngine "lpr" site).result = .ok () := by
  intro e l site
  have created : (create "lpr.onnx" "CPU" plateGraph { runs := [] } ()).result =
      .ok (e, Descriptor.plateNetwork "prob") := rfl
  let d : Descriptor :=
    { Descriptor.sharedPlates with
      input := some "data", sequence := some "seq", output := some "prob" }
  have accepts : Descriptor.accept.Ends (Descriptor.sharedPlates, Descriptor.plateNetwork "prob")
      (.ok ()) (d, Descriptor.patchPlate (Descriptor.plateNetwork "prob")) := ⟨rfl, rfl⟩
  obtain ⟨-, loads, -, plates⟩ := load_sizes_network created (by decide) Descriptor.patching_accept
    accepts (by decide) (show d.input = some "data" from rfl) (by decide)
  have fits : ∀ info ∈ (Descriptor.plateNetwork "prob").inputs, info.Sizable "data" d.maxBatch := by
    intro info member
    rcases List.mem_cons.1 member with rfl | member
    · exact ⟨none, _, rfl, nofun, forall_fixed_iff.2 ⟨[3, 24, 94], rfl⟩⟩
    · cases List.mem_singleton.1 member
      exact forall_fixed_iff.2 ⟨[88, 1], rfl⟩
  have after := loads fits
  obtain ⟨planar, again, accepts'⟩ := plates fits rfl rfl
  have held : site.bench.engines.get? "lpr" = some (.ofEngine "lpr", .onnx l.engine) := rfl
  obtain ⟨s', ends, -⟩ := after.attaches held rfl rfl rfl planar accepts'
  have runs : ∃ feeds, .call (.run ["prob"] feeds) ∈ (deeds [.infer] l).trail :=
    ⟨_, List.mem_of_getElem? (i := 0) rfl⟩
  obtain ⟨feeds, ran⟩ := runs
  refine ⟨?_, ⟨feeds, ran, after.feeds [.infer] ["prob"] feeds ran⟩, ?_⟩
  · rw [after.network]
    rfl
  · rw [← Pipeline.loadEngineBy_accept]
    exact ends.result

end Onnx

end FrameBatch
