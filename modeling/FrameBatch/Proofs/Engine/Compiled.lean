import FrameBatch.Proofs.Engine.Mirrored

namespace FrameBatch.OpenVino

open Descriptor (Fitting Patching)

/-- An attempt to load an engine: the descriptor, the check that it makes, which binds an input when
it accepts, and why the model cannot be reshaped this time. -/
structure Attempt where
  descriptor : Descriptor
  check : Act Fitting Unit
  patching : Patching check
  binds (s s' : Fitting) : check.Ends s (.ok ()) s' → ∃ bound, s'.1.input = some bound
  obstacle : Option String := none

namespace Attempt

def start (attempt : Attempt) (l : Loading Engine) : Loading Engine :=
  { l with
    descriptor := attempt.descriptor
    engine := { l.engine with source := { l.engine.source with failReshape := attempt.obstacle } } }

def outcome (attempt : Attempt) (l : Loading Engine) : Outcome (Loading Engine) Unit :=
  load attempt.check (attempt.start l)

def after (l : Loading Engine) (attempt : Attempt) : Loading Engine := (attempt.outcome l).state

/-- The check accepts, and records another type for an input than was declared. -/
def Retypes (attempt : Attempt) (l : Loading Engine) (first : TensorInfo) : Prop :=
  ∃ d network, attempt.check.Ends (attempt.descriptor, l.network) (.ok ()) (d, network) ∧
    OpenVino.Retypes network first

end Attempt

def Retyped (first : TensorInfo) : Loading Engine → List Attempt → Prop
  | _, [] => False
  | l, attempt :: rest => attempt.Retypes l first ∨ Retyped first (attempt.after l) rest

section

variable {discovered : Network} {stale : TensorInfo → Prop} {l : Loading Engine} {m : Model}

theorem Typed.congr {stale' : TensorInfo → Prop} (typed : Typed discovered stale m)
    (same : ∀ first, stale first ↔ stale' first) : Typed discovered stale' m := by
  intro first declares t member here
  rw [← same]
  exact typed first declares t member here

theorem Mirrors.start (mirrors : Mirrors discovered l m) (attempt : Attempt) :
    Mirrors discovered (attempt.start l) m :=
  { mirrors with model := mirrors.model }

theorem Attempt.keeps (attempt : Attempt) (mirrors : Mirrors discovered l m)
    (typed : Typed discovered stale m) : ∃ m', Mirrors discovered (attempt.after l) m' ∧
      Typed discovered (fun first => stale first ∨ attempt.Retypes l first) m' := by
  have started := mirrors.start attempt
  have ends := load_ends started attempt.patching attempt.binds
    ((load attempt.check).ends_self (attempt.start l))
  have retypes {d : Descriptor} {network : Network}
      (accepts : attempt.check.Ends (attempt.descriptor, l.network) (.ok ()) (d, network))
      (first : TensorInfo) : stale first ∨ OpenVino.Retypes network first ↔
        stale first ∨ attempt.Retypes l first := by
    apply or_congr_right
    constructor
    · intro retypes
      exact ⟨d, network, accepts, retypes⟩
    · rintro ⟨_, _, accepts', retypes⟩
      cases accepts.state.symm.trans accepts'.state
      exact retypes
  show ∃ m', Mirrors discovered (load attempt.check (attempt.start l)).state m' ∧ _
  generalize load attempt.check (attempt.start l) = o at ends ⊢
  rcases o with ⟨r, l', trail⟩
  cases ends with
  | refused refuses =>
    -- what a check that refuses has recorded gets into the network, but not into the model
    refine ⟨m, started.checked attempt.patching refuses, typed.congr fun first => ?_⟩
    have none : ¬ attempt.Retypes l first := by
      rintro ⟨_, _, accepts, -⟩
      cases refuses.result.symm.trans accepts.result
    simp only [none, or_false]
  | unshaped accepts =>
    have checked := started.checked attempt.patching accepts
    exact ⟨_, checked.patched, (checked.typed typed).congr (retypes accepts)⟩
  | loaded accepts input reshapes =>
    have checked := started.checked attempt.patching accepts
    have shaped := checked.patched.reshaped reshapes
    exact ⟨_, { shaped with model := shaped.model },
      ((checked.typed typed).reshaped reshapes).congr (retypes accepts)⟩

theorem mirrors_of_attempts (earlier : List Attempt) (mirrors : Mirrors discovered l m)
    (typed : Typed discovered stale m) :
    ∃ m', Mirrors discovered (earlier.foldl Attempt.after l) m' ∧
      Typed discovered (fun first => stale first ∨ Retyped first l earlier) m' := by
  -- the inputs that are stale by now are those to begin with for the attempts that are left
  induction earlier generalizing l m stale with
  | nil => exact ⟨m, mirrors, typed.congr fun first => (or_false _).symm.to_iff⟩
  | cons attempt rest ih =>
    obtain ⟨m₁, mirrors₁, typed₁⟩ := attempt.keeps mirrors typed
    obtain ⟨m', mirrors', typed'⟩ := ih mirrors₁ typed₁
    exact ⟨m', mirrors', typed'.congr fun first => or_assoc⟩

end

section

variable {discovered : Network} {fit : Act Fitting Unit} {l : Loading Engine} {m : Model}

/-- An event with which no other shape is asked for, and nothing is compiled. -/
def Patches (event : Event) : Prop :=
  (∀ name dims, event ≠ .call (.reshape name dims)) ∧ ∀ device, event ≠ .call (.compile device)

theorem quiet_theModel {P : Event → Prop} : Act.Upholds.Any (fun _ => True) P theModel := by
  refine .bind .get fun l _ => ?_
  split
  · exact .pure trivial
  · exact .fail

theorem quiet_modify {σ : Type} {P : Event → Prop} (view : Loading Engine → σ)
    (update : σ → Loading Engine → Loading Engine) (f : σ → σ) :
    Act.Upholds.Any (fun _ => True) P ((Act.modify f).on view update) :=
  .on (I := fun _ => True) (.modify fun _ _ => trivial) (fun _ _ => trivial) fun _ _ _ _ => trivial

theorem quiet_setModel {P : Event → Prop} (m : Model) :
    Act.Upholds.Any (fun _ => True) P (setModel m) := by
  rw [setModel]
  exact quiet_modify _ _ _

theorem quiet_patchInput (info : TensorInfo) (m : Model) :
    Act.Upholds.Any (fun _ => True) Patches (patchInput info m) := by
  refine .bind .get fun l _ => .bind (.lift fun _ _ => trivial) fun type _ => ?_
  dsimp only
  split
  · refine .bind (.note ⟨nofun, nofun⟩) fun _ _ => ?_
    split
    · exact .bind (.note ⟨nofun, nofun⟩) fun _ _ =>
        .bind (.note ⟨nofun, nofun⟩) fun _ _ => .pure trivial
    · exact .pure trivial
  · split
    · exact .bind (.note ⟨nofun, nofun⟩) fun _ _ =>
        .bind (.note ⟨nofun, nofun⟩) fun _ _ => .pure trivial
    · exact .pure trivial

theorem quiet_patch : Act.Upholds.Any (fun _ => True) Patches patch := by
  refine .bind quiet_theModel fun m _ => .bind .get fun l _ =>
    .bind (.foldlM (fun acc info => ?_) _ _) fun (next, changed) _ => ?_
  · exact .bind (quiet_patchInput info acc.1) fun _ _ => .pure trivial
  · dsimp only
    split
    · exact .bind (.note ⟨nofun, nofun⟩) fun _ _ => quiet_setModel next
    · exact .pure trivial

theorem quiet_reshape : Act.Upholds.Any (fun _ => True)
    (fun event => ∀ device, event ≠ .call (.compile device)) reshape := by
  refine .bind .get fun l _ => .bind (.lift fun _ _ => trivial) fun info _ => ?_
  split
  · exact .fail
  · dsimp only
    split
    · refine .bind (.note nofun) fun _ _ => .bind quiet_theModel fun m _ =>
        .bind (.note nofun) fun _ _ => ?_
      split
      · exact .fail
      · exact .bind (quiet_setModel _) fun _ _ => quiet_modify _ _ _
    · exact .pure trivial

theorem quiet_compile : Act.Upholds.Any (fun _ => True)
    (fun event => ∀ name dims, event ≠ .call (.reshape name dims)) compile := by
  exact .bind quiet_theModel fun m _ => .bind .get fun l _ => .bind (.note nofun) fun _ _ =>
    .bind (quiet_modify _ _ _) fun _ _ => .note nofun

theorem reshape_refused {name text : String} {dims : List Int} (model : l.engine.model = some m)
    (obstacle : l.engine.source.failReshape = some text)
    (asked : .call (.reshape name dims) ∈ (reshape l).trail) :
    (reshape l).result = .error (.refused (.reshape l.descriptor.maxBatch text)) := by
  simp only [reshape, Act.bind_of_ok (Act.get_apply l)] at asked ⊢
  cases found : l.network.input (TensorName.text l.descriptor.input) with
  | error f =>
    rw [found] at asked
    cases asked
  | ok info =>
    rw [found] at asked
    have lifted : (liftM (.ok info : Except Fault TensorInfo) : Act (Loading Engine) TensorInfo) l =
        ⟨.ok info, l, []⟩ := rfl
    simp only [Act.bind_of_ok lifted] at asked ⊢
    cases shape : info.shape with
    | nil =>
      simp only [shape] at asked
      cases asked
    | cons lead rest =>
      simp only [shape] at asked ⊢
      split at asked
      · rename_i needed
        rw [if_pos needed]
        refine Act.Ends.result (?_ : Act.Ends _ l _ l)
        rw [Act.ends_log_bind, Act.ends_bind_of_ok (ends_theModel model),
          Act.ends_bind_of_ok (Act.ends_call.2 ⟨rfl, rfl⟩)]
        rw [obstacle]
        exact Act.ends_fail.2 ⟨rfl, rfl⟩
      · cases asked

theorem compile_returns {device : String} (compiles : .call (.compile device) ∈ (compile l).trail) :
    (compile l).result = .ok () := by
  cases model : l.engine.model with
  | some m => exact (ends_compile model).result
  | none =>
    have fails : theModel l = ⟨.error closedFault, l, []⟩ := by
      simp only [theModel, Act.bind_of_ok (Act.get_apply l), model]
      rfl
    rw [compile, Act.bind_of_error fails] at compiles
    cases compiles

theorem call_of_load {c : Call} (patching : Patching fit) (late : ¬ Patches (.call c))
    (asked : .call c ∈ (load fit l).trail) :
    ∃ l₁ l₂, (Loading.onFitting fit).Ends l (.ok ()) l₁ ∧ patch.Ends l₁ (.ok ()) l₂ ∧
      .call c ∈ ((reshape >>= fun _ => compile) l₂).trail ∧
      (load fit l).result = ((reshape >>= fun _ => compile) l₂).result := by
  rw [load] at asked ⊢
  rcases Act.mem_trail_bind asked with early | ⟨_, l₁, fits, asked, same⟩
  · exact absurd early (patching.silent (l.descriptor, l.network) c)
  · rcases Act.mem_trail_bind asked with early | ⟨_, l₂, patches, asked, same'⟩
    · exact absurd (quiet_patch.trail trivial _ early) late
    · exact ⟨l₁, l₂, fits, patches, asked, same.trans same'⟩

theorem load_returns {device : String} (patching : Patching fit)
    (compiles : .call (.compile device) ∈ (load fit l).trail) : (load fit l).result = .ok () := by
  have late : ¬ Patches (.call (.compile device)) := fun patches => patches.2 device rfl
  obtain ⟨l₁, l₂, -, -, asked, same⟩ := call_of_load patching late compiles
  rw [same]
  rcases Act.mem_trail_bind asked with early | ⟨_, l₃, -, asked, same⟩
  · exact absurd rfl (quiet_reshape.trail trivial _ early device)
  · rw [same]
    exact compile_returns asked

theorem load_refused {name text : String} {dims : List Int} (mirrors : Mirrors discovered l m)
    (patching : Patching fit) (obstacle : l.engine.source.failReshape = some text)
    (asked : .call (.reshape name dims) ∈ (load fit l).trail) :
    (load fit l).result =
      .error (.refused (.reshape (fit (l.descriptor, l.network)).state.1.maxBatch text)) := by
  have late : ¬ Patches (.call (.reshape name dims)) := fun patches => patches.1 name dims rfl
  obtain ⟨l₁, l₂, fits, patches, asked, same⟩ := call_of_load patching late asked
  rw [same]
  obtain rfl := fits.state
  have checked : Mirrors discovered (Loading.onFitting fit l).state m :=
    mirrors.checked patching (fit.ends_self (l.descriptor, l.network))
  obtain rfl := patches.state.symm.trans (ends_patch checked.model checked.known).state
  rcases Act.mem_trail_bind asked with asked | ⟨_, l₃, -, asked, -⟩
  · have refused := reshape_refused checked.patched.model obstacle asked
    exact ((Act.ends_bind_of_error ⟨refused, rfl⟩ _).2 ⟨rfl, rfl⟩).result
  · exact absurd rfl (quiet_compile.trail trivial _ asked name dims)

end

theorem discover_inputs {specs : List TensorSpec} {infos : List TensorInfo}
    (found : specs.mapM tensorInfo = .ok infos) :
    (specs.map TensorSpec.toModel).map (fun t => (t.name, t.shape)) =
        infos.map (fun info => (info.name, info.shape)) ∧
      (∀ info ∈ infos, info.layout = none ∧ ∃ type, info.elementType = .known type) ∧
      ∀ t ∈ specs.map TensorSpec.toModel, ∃ info ∈ infos,
        info.name = t.name ∧ t.Holds info.elementType := by
  induction specs generalizing infos with
  | nil =>
    cases found
    exact ⟨rfl, nofun, nofun⟩
  | cons spec rest ih =>
    rw [List.mapM_cons] at found
    obtain ⟨info, first, found⟩ := bind_ok found
    obtain ⟨others, later, found⟩ := bind_ok found
    cases found
    obtain ⟨tensors, known, holds⟩ := ih later
    unfold tensorInfo at first
    split at first
    · cases first
    · rename_i shape given
      obtain ⟨type, typed, same⟩ := bind_ok first
      cases same
      have stored : spec.type = .element type := by
        unfold NumberType.element? at typed
        split at typed
        · cases typed
          assumption
        · cases typed
      refine ⟨?_, List.forall_mem_cons.2 ⟨⟨rfl, type, rfl⟩, known⟩,
        List.forall_mem_cons.2 ⟨⟨_, List.mem_cons_self, rfl, type, rfl, stored⟩, ?_⟩⟩
      · rw [List.map_cons, List.map_cons, List.map_cons, tensors, TensorSpec.toModel, given]
        rfl
      · intro t member
        obtain ⟨info, inside, holds⟩ := holds t member
        exact ⟨info, List.mem_cons_of_mem _ inside, holds⟩

theorem mirrors_of_create {device file : String} {source : Source} {script : Script} {e : Engine}
    {network : Network} (created : (create device file source script ()).result = .ok (e, network))
    (distinct : network.inputNames.Nodup) (d : Descriptor) :
    ∃ m, Mirrors network ⟨d, network, e⟩ m ∧ Typed network (fun _ => False) m := by
  have ends : (create device file source script).Ends () (.ok (e, network)) () := ⟨created, rfl⟩
  rw [create, Act.ends_bind_of_ok (Act.ends_call.2 ⟨rfl, rfl⟩)] at ends
  obtain ⟨⟨inputs, outputs⟩, _, finds, ends⟩ := Act.ends_bind_ok.1 ends
  obtain ⟨infos, found, rest⟩ := bind_ok (Act.ends_lift.1 finds).1.symm
  obtain ⟨outs, _, rest⟩ := bind_ok rest
  cases rest
  rw [Act.ends_log_bind] at ends
  cases (Act.ends_pure.1 ends).1
  obtain ⟨tensors, known, holds⟩ := discover_inputs found
  refine ⟨_, ⟨distinct, fun first member => (known first member).1, rfl, ?_, tensors, rfl,
    fun info member => (known info member).2⟩, ?_⟩
  · apply Entries.ofList_of_distinct
    rw [Entries.keys, List.map_map]
    exact distinct
  · intro first declares t member here
    apply iff_of_true _ not_false
    obtain ⟨info, inside, name, held⟩ := holds t member
    rw [← List.inj_on_of_nodup_map distinct inside declares (name.trans here)]
    exact held

/-- However often an engine was loaded, a load that returns compiles a model with the inputs of the
network. Each has the layout and the shape that are recorded, the bound one with a batch as its
leading dimension, and it has the recorded type unless an earlier load recorded another one than was
declared and this load records the declared one again. A load that fails compiles nothing and keeps
the request, and a reshape that fails is one that cannot take the batch. -/
theorem compiled_as_recorded_iff {device file : String} {source : Source} {script : Script}
    {e : Engine} {network : Network}
    (created : (create device file source script ()).result = .ok (e, network))
    (distinct : network.inputNames.Nodup) (d : Descriptor) (earlier : List Attempt)
    (attempt : Attempt) :
    let opened : Loading Engine := ⟨d, network, e⟩
    let before := earlier.foldl Attempt.after opened
    let o := attempt.outcome before
    (o.result = .ok () → ∃ m bound, o.state.engine.model = some m ∧
      o.state.engine.request = some m.request ∧
      m.inputs.map (·.name) = network.inputNames ∧
      o.state.network.inputNames = network.inputNames ∧
      o.state.descriptor.input = some bound ∧ bound ∈ network.inputNames ∧
      ∀ first ∈ network.inputs, ∀ info ∈ o.state.network.inputs, ∀ t ∈ m.inputs,
        info.name = first.name → t.name = first.name →
        (t.Holds info.elementType ↔
          ¬ (info.elementType = first.elementType ∧ Retyped first opened earlier)) ∧
        (∀ layout, info.layout = some layout → t.layout = some layout) ∧
        t.shape = info.shape ∧
        (first.name = bound → ∃ lead rest, first.shape = lead :: rest ∧
          t.shape = some o.state.descriptor.maxBatch :: rest)) ∧
    (∀ f, o.result = .error f → o.state.engine.request = before.engine.request ∧
      ∀ device, .call (.compile device) ∉ o.trail) ∧
    ∀ name dims text, .call (.reshape name dims) ∈ o.trail → attempt.obstacle = some text →
      o.result = .error (.refused (.reshape o.state.descriptor.maxBatch text)) := by
  intro opened before o
  obtain ⟨m₀, mirrors₀, typed₀⟩ := mirrors_of_create created distinct d
  obtain ⟨m, mirrors, typed⟩ := mirrors_of_attempts earlier mirrors₀ typed₀
  have typed : Typed network (Retyped · opened earlier) m :=
    typed.congr fun first => (false_or _).to_iff
  have started := mirrors.start attempt
  have ends : LoadEnds attempt.check (attempt.start before) m o.result o.state :=
    load_ends started attempt.patching attempt.binds
      ((load attempt.check).ends_self (attempt.start before))
  refine ⟨fun returned => ?_, fun f failed => ⟨?_, fun device compiles => ?_⟩,
    fun name dims text asked obstacle => ?_⟩
  · rw [returned] at ends
    obtain ⟨m', bound, after, applies, request, input, info₀, member₀, here₀, rest, shape₀⟩ :=
      ends.compiled started attempt.patching typed
    have bounded : bound ∈ network.inputNames := by
      rw [← after.names, ← here₀]
      exact List.mem_map_of_mem member₀
    refine ⟨m', bound, after.model, request, after.modelNames, after.names, input, bounded, ?_⟩
    intro first declares info records t member here there
    have applied := applies first declares info records t member here there
    have shape := after.shape_eq records member (there.trans here.symm)
    refine ⟨applied.type, applied.layout, shape, fun leads => ?_⟩
    have same : info = info₀ := List.inj_on_of_nodup_map after.unique records member₀
      ((here.trans leads).trans here₀.symm)
    rw [same] at records here shape
    obtain ⟨lead, discovered⟩ :=
      TensorInfo.shape_of_opened (after.opened_eq declares records here) shape₀
    exact ⟨lead, rest, discovered, shape.trans shape₀⟩
  · rw [failed] at ends
    exact ends.failed.1
  · have returned : o.result = .ok () := load_returns attempt.patching compiles
    cases failed.symm.trans returned
  · have refused : o.result = _ := load_refused started attempt.patching obstacle asked
    rw [refused] at ends
    rw [refused, ends.failed.2]

theorem binds_of_accept {s s' : Fitting} (accepts : Descriptor.accept.Ends s (.ok ()) s') :
    ∃ bound, s'.1.input = some bound := by
  obtain ⟨bound, -, input⟩ := ((Descriptor.accept_cases accepts).2 rfl).input
  exact ⟨bound, input⟩

def Attempt.ofFamily (d : Descriptor) (obstacle : Option String) : Attempt where
  descriptor := d
  check := Descriptor.accept
  patching := Descriptor.patching_accept
  binds _ _ := binds_of_accept
  obstacle := obstacle

def plateSource : Source where
  inputs := [⟨"data", some [none, some 3, some 24, some 94], .element .f32⟩,
    ⟨"seq", some [some 88, some 1], .element .f32⟩]
  outputs := [⟨"prob", some [none, some 88], .element .f32⟩]

def plateEngine : Engine where
  device := "CPU"
  modelFile := "lpr.xml"
  source := plateSource
  model := some ⟨plateSource.inputs.map (·.toModel), plateSource.outputs.map (·.toModel)⟩
  declared := (Descriptor.plateNetwork "prob").inputs.map fun info => (info.name, info)
  script := { runs := [] }

theorem compiled_plates :
    let plates := Descriptor.sharedPlates
    let network := Descriptor.plateNetwork "prob"
    let before := [Attempt.ofFamily plates (some "static")].foldl Attempt.after
      ⟨plates, network, plateEngine⟩
    let o := (Attempt.ofFamily plates none).outcome before
    (create "CPU" "lpr.xml" plateSource { runs := [] } ()).result = .ok (plateEngine, network) ∧
      network.inputNames.Nodup ∧ o.result = .ok () ∧
      ∃ m, o.state.engine.model = some m ∧ ∀ t ∈ m.inputs, t.name = "data" →
        t.Holds (.known .u8) ∧ t.layout = some "NCHW" ∧
        t.shape = [some 2, some 3, some 24, some 94] := by
  have created : (create "CPU" "lpr.xml" plateSource { runs := [] } ()).result =
    .ok (plateEngine, Descriptor.plateNetwork "prob") := rfl
  have distinct : (Descriptor.plateNetwork "prob").inputNames.Nodup := by decide
  let image : TensorInfo := ⟨"data", [some 2, some 3, some 24, some 94], .known .u8, some "NCHW"⟩
  obtain ⟨returns, -, -⟩ := compiled_as_recorded_iff created distinct Descriptor.sharedPlates
    [Attempt.ofFamily Descriptor.sharedPlates (some "static")]
    (Attempt.ofFamily Descriptor.sharedPlates none)
  obtain ⟨m, bound, model, -, -, -, -, -, each⟩ := returns rfl
  refine ⟨created, distinct, rfl, m, model, fun t member here => ?_⟩
  obtain ⟨type, layout, shape, -⟩ := each _ List.mem_cons_self image List.mem_cons_self t member
    rfl here
  refine ⟨type.2 ?_, layout "NCHW" rfl, shape⟩
  rintro ⟨same, -⟩
  cases same

def storing (type : ElementType) : Act Fitting Unit := do
  Descriptor.accept
  Act.modify fun (d, network) => (d, { network with
    inputs := network.inputs.map fun info => { info with elementType := .known type } })

theorem patching_storing (type : ElementType) : Patching (storing type) := by
  have accepts := Descriptor.patching_accept
  -- the check ends as the one of the family does, but for the types when that accepts
  have ends (s : Fitting) : (storing type s).trail = (Descriptor.accept s).trail ∧
      (storing type s).state.1 = (Descriptor.accept s).state.1 ∧
      ((storing type s).state.2 = (Descriptor.accept s).state.2 ∨
        (storing type s).state.2.inputs = (Descriptor.accept s).state.2.inputs.map fun info =>
          { info with elementType := .known type }) := by
    rcases h : Descriptor.accept s with ⟨r, s', trail⟩
    cases r with
    | error f =>
      rw [storing, Act.bind_of_error h]
      exact ⟨rfl, rfl, .inl rfl⟩
    | ok a =>
      rw [storing, Act.bind_of_ok h]
      exact ⟨List.append_nil _, rfl, .inr rfl⟩
  constructor
  case keeps =>
    intro s
    rw [(ends s).2.1]
    exact accepts.keeps s
  case tensors =>
    intro s
    rw [← accepts.tensors s]
    obtain ⟨-, -, same | stored⟩ := ends s
    · rw [same]
    · rw [stored, List.map_map]
      rfl
  case types =>
    intro s known info member
    obtain ⟨-, -, same | stored⟩ := ends s
    · rw [same] at member
      exact accepts.types s known info member
    · rw [stored] at member
      obtain ⟨old, -, rfl⟩ := List.mem_map.1 member
      exact ⟨type, rfl⟩
  case silent =>
    intro s c
    rw [(ends s).1]
    exact accepts.silent s c

def Attempt.storing (d : Descriptor) (type : ElementType) : Attempt where
  descriptor := d
  check := OpenVino.storing type
  patching := patching_storing type
  binds s s' ends := by
    obtain ⟨_, s₁, accepts, stores⟩ := Act.ends_bind_ok.1 ends
    obtain ⟨-, rfl⟩ := Act.ends_modify.1 stores
    obtain ⟨bound, input⟩ := binds_of_accept accepts
    exact ⟨bound, input⟩

/-- An engine that is loaded for bytes, and then for floating-point numbers as were declared: the
second load returns as well, and compiles a model of bytes. -/
theorem declared_type_missed :
    let loose : Descriptor := { Descriptor.sharedPlates with family := .unchecked }
    let network := Descriptor.plateNetwork "prob"
    let first := (Attempt.storing loose .u8).outcome ⟨loose, network, plateEngine⟩
    let again := (Attempt.storing loose .f32).outcome first.state
    (create "CPU" "lpr.xml" plateSource { runs := [] } ()).result = .ok (plateEngine, network) ∧
      first.result = .ok () ∧ again.result = .ok () ∧
      ∃ m t info, again.state.engine.model = some m ∧
        again.state.engine.request = some m.request ∧ t ∈ m.inputs ∧
        info ∈ again.state.network.inputs ∧ t.name = info.name ∧
        info.elementType = .known .f32 ∧ t.type = .element .u8 ∧ ¬ t.Holds info.elementType := by
  refine ⟨rfl, rfl, rfl, _, _, _, rfl, rfl, List.mem_cons_self, List.mem_cons_self, rfl, rfl, rfl,
    ?_⟩
  rintro ⟨type, hint, typed⟩
  cases hint
  cases typed

end FrameBatch.OpenVino
