import FrameBatch.Proofs.Descriptor.Parts
import FrameBatch.Proofs.Engine.Fed
import FrameBatch.Proofs.Engine.OpenVino
import Mathlib.Data.List.Nodup

/-!
The model that an engine on the OpenVINO runtime keeps in memory. A load patches it for the types
and the layouts of the network, and gives the bound input room for a batch, so that the model
mirrors the network whether the load returns or not. An input whose declared type was patched away
once is stale: it does not get that type again.
-/

namespace FrameBatch

namespace TensorInfo

/-- The shape with its leading dimension left open. -/
def opened (info : TensorInfo) : List Dim := info.shape.modifyHead fun _ => none

theorem shape_of_opened {info first : TensorInfo} (same : info.opened = first.opened) {lead : Dim}
    {rest : List Dim} (shape : info.shape = lead :: rest) :
    ∃ lead', first.shape = lead' :: rest := by
  rw [opened, opened, shape] at same
  cases shape' : first.shape with
  | nil =>
    rw [shape'] at same
    cases same
  | cons lead' rest' =>
    rw [shape'] at same
    cases same
    exact ⟨lead', rfl⟩

end TensorInfo

namespace OpenVino

open Descriptor (Fitting Patching)

namespace ModelTensor

def Holds (t : ModelTensor) (hint : TypeHint) : Prop :=
  ∃ type, hint = .known type ∧ t.type = .element type

/-- An input after the patches that bring it from what was declared to what is recorded. -/
def hinted (declared info : TensorInfo) (t : ModelTensor) : ModelTensor where
  name := t.name
  shape := t.shape
  type := match info.elementType with
    | .known type => if info.elementType != declared.elementType then .element type else t.type
    | .unknown _ => t.type
  layout := if info.layout.isSome && info.layout != declared.layout then info.layout else t.layout

variable {declared info : TensorInfo} {t : ModelTensor}

theorem hinted_type {type : ElementType} (hint : info.elementType = .known type) :
    (t.hinted declared info).type =
      if info.elementType = declared.elementType then t.type else .element type := by
  simp only [hinted, hint, bne_iff_ne, ne_eq, ite_not]

theorem hinted_holds_iff (known : ∃ type, info.elementType = .known type) :
    (t.hinted declared info).Holds info.elementType ↔
      ¬ (info.elementType = declared.elementType ∧ ¬ t.Holds info.elementType) := by
  obtain ⟨type, hint⟩ := known
  have typed : (t.hinted declared info).type = _ := hinted_type hint
  by_cases same : info.elementType = declared.elementType
  · rw [if_pos same] at typed
    simp only [Holds, typed, same, true_and, not_not]
  · rw [if_neg same] at typed
    exact iff_of_true ⟨type, hint, typed⟩ fun both => same both.1

theorem hinted_holds_declared (known : ∃ type, info.elementType = .known type) :
    (t.hinted declared info).Holds declared.elementType ↔
      t.Holds declared.elementType ∧ info.elementType = declared.elementType := by
  obtain ⟨type, hint⟩ := known
  have typed : (t.hinted declared info).type = _ := hinted_type hint
  by_cases same : info.elementType = declared.elementType
  · rw [if_pos same] at typed
    simp only [Holds, typed, same, and_true]
  · rw [if_neg same] at typed
    refine iff_of_false ?_ fun both => same both.2
    rintro ⟨other, hint', typed'⟩
    cases typed.symm.trans typed'
    exact same (hint.trans hint'.symm)

theorem hinted_layout (bare : declared.layout = none) {layout : String}
    (recorded : info.layout = some layout) : (t.hinted declared info).layout = some layout := by
  simp [hinted, bare, recorded]

end ModelTensor

namespace Model

def hinted (declared : Entries String TensorInfo) (infos : List TensorInfo) (m : Model) : Model :=
  infos.foldl (fun m info =>
    m.adjustInput info.name (.hinted ((declared.get? info.name).getD info) info)) m

def request (m : Model) : Request where
  tensors := Entries.ofList ((m.inputs ++ m.outputs).map fun t => (t.name, t.zeros))
  inputNames := m.inputs.map (·.name)

variable {declared : Entries String TensorInfo} {infos : List TensorInfo} {m : Model}

theorem adjustInput_self {name : String} {f : ModelTensor → ModelTensor}
    (fixed : ∀ t ∈ m.inputs, t.name = name → f t = t) : m.adjustInput name f = m := by
  have inputs : m.inputs.map (fun t => if t.name = name then f t else t) = m.inputs := by
    apply List.map_congr_left (g := id) _ |>.trans (List.map_id _)
    intro t member
    by_cases here : t.name = name
    · rw [if_pos here, fixed t member here]
      rfl
    · rw [if_neg here]
      rfl
  rw [adjustInput, inputs]

theorem inputs_hinted (distinct : (infos.map (·.name)).Nodup) :
    (m.hinted declared infos).inputs = m.inputs.map fun t =>
      match infos.find? (·.name == t.name) with
      | some info => t.hinted ((declared.get? info.name).getD info) info
      | none => t := by
  induction infos generalizing m with
  | nil => exact (List.map_id' _).symm
  | cons info rest ih =>
    rw [List.map_cons, List.nodup_cons] at distinct
    show (hinted declared rest (m.adjustInput info.name _)).inputs = _
    rw [ih distinct.2, adjustInput, List.map_map]
    apply List.map_congr_left
    intro t _
    by_cases here : t.name = info.name
    · have found : (info.name == t.name) = true := by simp [here]
      -- names are distinct, so no later input patches this one again
      have absent : rest.find? (·.name == t.name) = none := by
        rw [List.find?_eq_none]
        intro other member same
        exact distinct.1 (List.mem_map.2 ⟨other, member, (eq_of_beq same).trans here⟩)
      simp only [Function.comp_apply, if_pos here, List.find?_cons, found]
      show (match rest.find? (·.name == t.name) with
        | some _ => _
        | none => _) = _
      rw [absent]
    · have apart : (info.name == t.name) = false := by simpa using Ne.symm here
      simp only [Function.comp_apply, if_neg here, List.find?_cons, apart]

theorem shapes_hinted (declared : Entries String TensorInfo) (infos : List TensorInfo)
    (m : Model) : (m.hinted declared infos).inputs.map (fun t => (t.name, t.shape)) =
      m.inputs.map fun t => (t.name, t.shape) := by
  induction infos generalizing m with
  | nil => rfl
  | cons info rest ih =>
    apply (ih _).trans
    show ((m.inputs.map _).map _) = _
    rw [List.map_map]
    apply List.map_congr_left
    intro t _
    rw [Function.comp_apply]
    split
    · rfl
    · rfl

theorem mem_hinted (distinct : (infos.map (·.name)).Nodup) {t : ModelTensor}
    (member : t ∈ (m.hinted declared infos).inputs) {info : TensorInfo} (recorded : info ∈ infos)
    (here : t.name = info.name) : ∃ old ∈ m.inputs, old.name = info.name ∧
      t = old.hinted ((declared.get? info.name).getD info) info := by
  rw [inputs_hinted distinct] at member
  obtain ⟨old, inside, rfl⟩ := List.mem_map.1 member
  refine ⟨old, inside, ?_⟩
  cases found : infos.find? (·.name == old.name) with
  | some other =>
    simp only [found] at here ⊢
    have same : other.name = old.name := by simpa using List.find?_some found
    have unique : other = info := List.inj_on_of_nodup_map distinct
      (List.mem_of_find?_eq_some found) recorded (same.trans here)
    rw [← unique]
    exact ⟨same.symm, rfl⟩
  | none =>
    simp only [found] at here
    exact absurd (beq_iff_eq.2 here.symm) (List.find?_eq_none.1 found info recorded)

end Model

def withHints (l : Loading Engine) (m : Model) : Loading Engine :=
  { l with engine := { l.engine with
      model := some (m.hinted l.engine.declared l.network.inputs) } }

section

variable {l : Loading Engine} {m : Model}

theorem ends_theModel (model : l.engine.model = some m) : theModel.Ends l (.ok m) l := by
  rw [theModel, Act.ends_get_bind, model]
  exact Act.ends_pure.2 ⟨rfl, rfl⟩

theorem ends_patchInput {declared info : TensorInfo}
    (first : (l.engine.declared.get? info.name).getD info = declared)
    (known : ∃ type, info.elementType = .known type) (m : Model) :
    ∃ changed, (patchInput info m).Ends l
        (.ok (m.adjustInput info.name (.hinted declared info), changed)) l ∧
      (changed = false → m.adjustInput info.name (.hinted declared info) = m) := by
  obtain ⟨type, hint⟩ := known
  have typed : (liftM info.elementType.type : Act (Loading Engine) ElementType).Ends l
      (.ok type) l := Act.ends_lift.2 ⟨by rw [hint]; rfl, rfl⟩
  have patched : ModelTensor.hinted declared info = fun t =>
      { t with
        type := if info.elementType != declared.elementType then .element type else t.type
        layout := if info.layout.isSome && info.layout != declared.layout then info.layout
          else t.layout } := by
    funext t
    simp only [ModelTensor.hinted, hint]
  simp only [patchInput, Act.ends_get_bind, Act.ends_bind_of_ok typed, first, patched]
  generalize (info.elementType != declared.elementType) = retype
  generalize (info.layout.isSome && info.layout != declared.layout) = relayout
  cases retype with
  | true => cases relayout <;> exact ⟨true, ⟨rfl, rfl⟩, (absurd · (by decide))⟩
  | false =>
    cases relayout with
    | true => exact ⟨true, ⟨rfl, rfl⟩, (absurd · (by decide))⟩
    | false => exact ⟨false, ⟨rfl, rfl⟩, fun _ => Model.adjustInput_self fun _ _ _ => rfl⟩

theorem ends_patchInputs {infos : List TensorInfo}
    (known : ∀ info ∈ infos, ∃ type, info.elementType = .known type) (m : Model) (was : Bool) :
    ∃ changed, (infos.foldlM (fun (acc : Model × Bool) info => do
          let (next, changed) ← patchInput info acc.1
          return (next, acc.2 || changed)) (m, was)).Ends l
        (.ok (m.hinted l.engine.declared infos, changed)) l ∧
      (changed = false → was = false ∧ m.hinted l.engine.declared infos = m) := by
  induction infos generalizing m was with
  | nil => exact ⟨was, Act.ends_pure.2 ⟨rfl, rfl⟩, fun none => ⟨none, rfl⟩⟩
  | cons info rest ih =>
    rw [List.forall_mem_cons] at known
    obtain ⟨changed, patches, same⟩ := ends_patchInput (l := l) rfl known.1 m
    obtain ⟨later, rests, same'⟩ := ih known.2 (m.adjustInput info.name _) (was || changed)
    refine ⟨later, ?_, fun none => ?_⟩
    · rw [List.foldlM_cons, bind_assoc]
      apply (Act.ends_bind_of_ok patches _).2
      exact rests
    · obtain ⟨none, kept⟩ := same' none
      rw [Bool.or_eq_false_iff] at none
      exact ⟨none.1, kept.trans (same none.2)⟩

theorem ends_patch (model : l.engine.model = some m)
    (known : ∀ info ∈ l.network.inputs, ∃ type, info.elementType = .known type) :
    patch.Ends l (.ok ()) (withHints l m) := by
  obtain ⟨changed, patches, same⟩ := ends_patchInputs (l := l) known m false
  rw [patch, Act.ends_bind_of_ok (ends_theModel model), Act.ends_get_bind,
    Act.ends_bind_of_ok patches]
  cases changed with
  | true => exact ⟨rfl, rfl⟩
  | false =>
    rw [withHints, (same rfl).2, ← model]
    exact ⟨rfl, rfl⟩

theorem ends_compile (model : l.engine.model = some m) :
    compile.Ends l (.ok ()) { l with engine := { l.engine with request := some m.request } } := by
  rw [compile, Act.ends_bind_of_ok (ends_theModel model)]
  exact ⟨rfl, rfl⟩

end

section

variable {l l' : Loading Engine} {m : Model} {bound : String} {res : Except Fault Unit}

/-- The input of a name gets another shape, in the network and in the model. -/
def sized (l : Loading Engine) (m : Model) (name : String) (target : List Dim) : Loading Engine :=
  { l with
    network := { l.network with
      inputs := l.network.inputs.map fun info =>
        if info.name = name then { info with shape := target } else info }
    engine := { l.engine with
      model := some (m.adjustInput name fun t => { t with shape := target }) } }

theorem resized_eq {infos : List TensorInfo} (distinct : (infos.map (·.name)).Nodup)
    (target : List Dim) : reshape.resized (some bound) target infos = infos.map fun info =>
      if info.name = bound then { info with shape := target } else info := by
  induction infos with
  | nil => rfl
  | cons info rest ih =>
    rw [List.map_cons, List.nodup_cons] at distinct
    by_cases here : info.name = bound
    · have others : rest.map (fun info =>
          if info.name = bound then { info with shape := target } else info) = rest := by
        apply List.map_congr_left (g := id) _ |>.trans (List.map_id _)
        intro other member
        apply if_neg
        intro same
        exact distinct.1 (List.mem_map.2 ⟨other, member, same.trans here.symm⟩)
      rw [reshape.resized, if_pos (congrArg some here), List.map_cons, if_pos here, others]
    · have apart : some info.name ≠ some bound := fun same => here (Option.some.inj same)
      rw [reshape.resized, if_neg apart, List.map_cons, if_neg here, ih distinct.2]

theorem mem_of_input {network : Network} {name : String} {info : TensorInfo}
    (found : network.input name = .ok info) : info ∈ network.inputs ∧ info.name = name := by
  unfold Network.input Network.input? at found
  split at found
  · rename_i first finds
    cases found
    exact ⟨List.mem_of_find?_eq_some finds, by simpa using List.find?_some finds⟩
  · cases found

/-- How a reshape ends, and with which model. A failing one leaves everything alone. -/
inductive ReshapeEnds (l : Loading Engine) (m : Model) (bound : String) :
    Except Fault Unit → Loading Engine → Model → Prop
  | failed {f : Fault} : ReshapeEnds l m bound (.error f) l m
  | fitting {info : TensorInfo} {rest : List Dim} (member : info ∈ l.network.inputs)
    (here : info.name = bound) (shape : info.shape = some l.descriptor.maxBatch :: rest) :
    ReshapeEnds l m bound (.ok ()) l m
  | sized {info : TensorInfo} {lead : Dim} {rest : List Dim} (member : info ∈ l.network.inputs)
    (here : info.name = bound) (shape : info.shape = lead :: rest) :
    ReshapeEnds l m bound (.ok ()) (sized l m bound (some l.descriptor.maxBatch :: rest))
      (m.adjustInput bound fun t => { t with shape := some l.descriptor.maxBatch :: rest })

theorem reshape_ends (model : l.engine.model = some m) (input : l.descriptor.input = some bound)
    (distinct : l.network.inputNames.Nodup) (h : reshape.Ends l res l') :
    ∃ m', ReshapeEnds l m bound res l' m' := by
  rw [reshape, Act.ends_get_bind, input] at h
  rcases Act.ends_bind.1 h with ⟨info, l₁, finds, h⟩ | ⟨f, rfl, finds⟩
  · obtain ⟨found, rfl⟩ := Act.ends_lift.1 finds
    obtain ⟨member, here⟩ := mem_of_input found.symm
    cases shape : info.shape with
    | nil =>
      simp only [shape] at h
      obtain ⟨rfl, rfl⟩ := Act.ends_fail.1 h
      exact ⟨m, .failed⟩
    | cons lead rest =>
      simp only [shape] at h
      by_cases fits : some l₁.descriptor.maxBatch :: rest = lead :: rest
      · simp only [fits, bne_self_eq_false, Bool.false_eq_true, if_false] at h
        obtain ⟨rfl, rfl⟩ := Act.ends_pure.1 h
        rw [← fits] at shape
        exact ⟨m, .fitting member here shape⟩
      · have needed : (some l₁.descriptor.maxBatch :: rest != lead :: rest) = true :=
          bne_iff_ne.2 fits
        simp only [needed, if_true, Act.ends_log_bind] at h
        rw [Act.ends_bind_of_ok (ends_theModel model),
          Act.ends_bind_of_ok (Act.ends_call.2 ⟨rfl, rfl⟩)] at h
        split at h
        · obtain ⟨rfl, rfl⟩ := Act.ends_fail.1 h
          exact ⟨m, .failed⟩
        · have same : sized l₁ m bound (some l₁.descriptor.maxBatch :: rest) = l' := by
            rw [← h.state, sized, ← resized_eq distinct, ← show info.name = bound from here]
            rfl
          obtain rfl : res = .ok () := h.result.symm
          rw [← same]
          exact ⟨_, .sized member here shape⟩
  · obtain ⟨_, rfl⟩ := Act.ends_lift.1 finds
    exact ⟨m, .failed⟩

end

/-- The model has the inputs of the network, and these are those that were discovered, up to leading
dimensions and how they are stored. -/
structure Mirrors (discovered : Network) (l : Loading Engine) (m : Model) : Prop where
  distinct : discovered.inputNames.Nodup
  bare : ∀ first ∈ discovered.inputs, first.layout = none
  model : l.engine.model = some m
  declared : l.engine.declared = discovered.inputs.map fun info => (info.name, info)
  shapes : m.inputs.map (fun t => (t.name, t.shape)) =
    l.network.inputs.map fun info => (info.name, info.shape)
  opened : l.network.inputs.map (fun info => (info.name, info.opened)) =
    discovered.inputs.map fun info => (info.name, info.opened)
  known : ∀ info ∈ l.network.inputs, ∃ type, info.elementType = .known type

section

variable {discovered : Network} {l l' : Loading Engine} {m : Model} {bound : String}
  {res : Except Fault Unit} {fit : Act Fitting Unit}

theorem Mirrors.names (mirrors : Mirrors discovered l m) :
    l.network.inputNames = discovered.inputNames := by
  have names := congrArg (List.map Prod.fst) mirrors.opened
  rwa [List.map_map, List.map_map] at names

theorem Mirrors.unique (mirrors : Mirrors discovered l m) :
    (l.network.inputs.map (·.name)).Nodup := by
  show l.network.inputNames.Nodup
  rw [mirrors.names]
  exact mirrors.distinct

theorem Mirrors.modelNames (mirrors : Mirrors discovered l m) :
    m.inputs.map (·.name) = discovered.inputNames := by
  have names := congrArg (List.map Prod.fst) mirrors.shapes
  rw [List.map_map, List.map_map] at names
  exact names.trans mirrors.names

theorem Mirrors.checked (mirrors : Mirrors discovered l m) (patching : Patching fit)
    {d : Descriptor} {network : Network}
    (fits : fit.Ends (l.descriptor, l.network) res (d, network)) :
    Mirrors discovered ⟨d, network, l.engine⟩ m := by
  obtain ⟨tensors, known⟩ := patching.keeps_tensors mirrors.known fits
  have opened := congrArg (List.map fun ((name : String), (shape : List Dim)) =>
    (name, shape.modifyHead fun _ => none)) tensors
  rw [List.map_map, List.map_map] at opened
  exact { mirrors with
    shapes := mirrors.shapes.trans tensors.symm
    opened := opened.trans mirrors.opened
    known := known }

theorem Mirrors.patched (mirrors : Mirrors discovered l m) :
    Mirrors discovered (withHints l m) (m.hinted l.engine.declared l.network.inputs) :=
  { mirrors with
    model := rfl
    shapes := (Model.shapes_hinted _ _ m).trans mirrors.shapes }

theorem Mirrors.sized (mirrors : Mirrors discovered l m) {info : TensorInfo} {lead lead' : Dim}
    {rest : List Dim} (member : info ∈ l.network.inputs) (here : info.name = bound)
    (shape : info.shape = lead :: rest) : Mirrors discovered (sized l m bound (lead' :: rest))
      (m.adjustInput bound fun t => { t with shape := lead' :: rest }) where
  distinct := mirrors.distinct
  bare := mirrors.bare
  model := rfl
  declared := mirrors.declared
  shapes := by
    have shapes := congrArg (List.map fun ((name : String), (shape : List Dim)) =>
      (name, if name = bound then lead' :: rest else shape)) mirrors.shapes
    rw [List.map_map, List.map_map] at shapes
    show (m.inputs.map _).map _ = (l.network.inputs.map _).map _
    rw [List.map_map, List.map_map]
    refine Eq.trans (List.map_congr_left fun t _ => ?_)
      (shapes.trans (List.map_congr_left fun info _ => ?_))
    · dsimp only [Function.comp_apply]
      split <;> rfl
    · dsimp only [Function.comp_apply]
      split <;> rfl
  opened := by
    show (l.network.inputs.map _).map _ = _
    rw [List.map_map, ← mirrors.opened]
    apply List.map_congr_left
    intro other inside
    dsimp only [Function.comp_apply]
    split
    · rename_i same
      have equal : other = info :=
        List.inj_on_of_nodup_map mirrors.unique inside member (same.trans here.symm)
      rw [equal]
      simp only [TensorInfo.opened, shape]
      rfl
    · rfl
  known := by
    intro info member
    obtain ⟨old, inside, rfl⟩ := List.mem_map.1 member
    have known := mirrors.known old inside
    split
    · exact known
    · exact known

end

/-- The inputs of a model that are not of their declared types are the stale ones. -/
def Typed (discovered : Network) (stale : TensorInfo → Prop) (m : Model) : Prop :=
  ∀ first ∈ discovered.inputs, ∀ t ∈ m.inputs, t.name = first.name →
    (t.Holds first.elementType ↔ ¬ stale first)

def Retypes (network : Network) (first : TensorInfo) : Prop :=
  ∃ info ∈ network.inputs, info.name = first.name ∧ info.elementType ≠ first.elementType

/-- An input of the model has the recorded layout, and the recorded type unless this is the declared
one and the input is stale. -/
structure Applied (stale : TensorInfo → Prop) (first info : TensorInfo) (t : ModelTensor) :
    Prop where
  type : t.Holds info.elementType ↔ ¬ (info.elementType = first.elementType ∧ stale first)
  layout : ∀ layout, info.layout = some layout → t.layout = some layout

/-- Every input of the model is as the network records it. -/
def Applies (discovered : Network) (stale : TensorInfo → Prop) (network : Network) (m : Model) :
    Prop :=
  ∀ first ∈ discovered.inputs, ∀ info ∈ network.inputs, ∀ t ∈ m.inputs,
    info.name = first.name → t.name = first.name → Applied stale first info t

section

variable {discovered : Network} {stale : TensorInfo → Prop} {l l' : Loading Engine} {m : Model}
  {bound : String} {res : Except Fault Unit}

theorem Mirrors.declaredFor (mirrors : Mirrors discovered l m) {first : TensorInfo}
    (member : first ∈ discovered.inputs) : l.engine.declared.get? first.name = some first := by
  rw [mirrors.declared]
  apply Entries.get?_of_mem
  · rw [Entries.keys, List.map_map]
    exact mirrors.distinct
  · exact List.mem_map.2 ⟨first, member, rfl⟩

theorem Mirrors.origin (mirrors : Mirrors discovered l m) {first info : TensorInfo}
    {t : ModelTensor} (declares : first ∈ discovered.inputs)
    (records : info ∈ l.network.inputs)
    (member : t ∈ (m.hinted l.engine.declared l.network.inputs).inputs)
    (here : info.name = first.name) (there : t.name = first.name) :
    ∃ old ∈ m.inputs, old.name = first.name ∧ t = old.hinted first info := by
  obtain ⟨old, inside, name, rfl⟩ :=
    Model.mem_hinted mirrors.unique member records (there.trans here.symm)
  refine ⟨old, inside, name.trans here, ?_⟩
  rw [here, mirrors.declaredFor declares]
  rfl

theorem Mirrors.applies (mirrors : Mirrors discovered l m) (typed : Typed discovered stale m) :
    Applies discovered stale (withHints l m).network
      (m.hinted l.engine.declared l.network.inputs) := by
  intro first declares info records t member here there
  obtain ⟨old, inside, name, rfl⟩ := mirrors.origin declares records member here there
  constructor
  · rw [ModelTensor.hinted_holds_iff (mirrors.known info records)]
    apply not_congr
    apply and_congr_right
    -- the declared type is not patched in, so only an input that is not stale has it
    intro same
    rw [same, typed first declares old inside name, not_not]
  · intro layout recorded
    exact ModelTensor.hinted_layout (mirrors.bare first declares) recorded

theorem Mirrors.typed (mirrors : Mirrors discovered l m) (typed : Typed discovered stale m) :
    Typed discovered (fun first => stale first ∨ Retypes l.network first)
      (m.hinted l.engine.declared l.network.inputs) := by
  intro first declares t member there
  have named : first.name ∈ l.network.inputNames := by
    rw [mirrors.names]
    exact List.mem_map_of_mem declares
  obtain ⟨info, records, here⟩ := List.mem_map.1 named
  obtain ⟨old, inside, name, rfl⟩ := mirrors.origin declares records member here there
  rw [ModelTensor.hinted_holds_declared (mirrors.known info records),
    typed first declares old inside name, not_or]
  apply and_congr_right
  intro _
  constructor
  · rintro same ⟨other, records', here', different⟩
    have equal : other = info :=
      List.inj_on_of_nodup_map mirrors.unique records' records (here'.trans here.symm)
    rw [equal] at different
    exact different same
  · intro unchanged
    by_contra different
    exact unchanged ⟨info, records, here, different⟩

theorem mem_sized {name : String} {target : List Dim} {t : ModelTensor}
    (member : t ∈ (m.adjustInput name fun t => { t with shape := target }).inputs) :
    ∃ old ∈ m.inputs, t.name = old.name ∧ t.type = old.type ∧ t.layout = old.layout := by
  obtain ⟨old, inside, rfl⟩ := List.mem_map.1 member
  refine ⟨old, inside, ?_⟩
  split
  · exact ⟨rfl, rfl, rfl⟩
  · exact ⟨rfl, rfl, rfl⟩

theorem Typed.sized (typed : Typed discovered stale m) (name : String) (target : List Dim) :
    Typed discovered stale (m.adjustInput name fun t => { t with shape := target }) := by
  intro first declares t member there
  obtain ⟨old, inside, same, type, -⟩ := mem_sized member
  have kept := typed first declares old inside (same.symm.trans there)
  unfold ModelTensor.Holds at kept ⊢
  rwa [type]

theorem Applies.sized (applies : Applies discovered stale l.network m) (name : String)
    (target : List Dim) : Applies discovered stale (sized l m name target).network
      (m.adjustInput name fun t => { t with shape := target }) := by
  intro first declares info records t member here there
  obtain ⟨recorded, within, rfl⟩ := List.mem_map.1 records
  obtain ⟨old, inside, same, type, layout⟩ := mem_sized member
  have kept (here : recorded.name = first.name) : Applied stale first recorded t := by
    have kept := applies first declares recorded within old inside here (same.symm.trans there)
    constructor
    · rw [← kept.type]
      unfold ModelTensor.Holds
      rw [type]
    · rw [layout]
      exact kept.layout
  split at here
  · rename_i found
    rw [if_pos found]
    exact ⟨(kept here).type, (kept here).layout⟩
  · rename_i absent
    rw [if_neg absent]
    exact kept here

theorem Mirrors.reshaped {m' : Model} (mirrors : Mirrors discovered l m)
    (ends : ReshapeEnds l m bound res l' m') : Mirrors discovered l' m' := by
  cases ends with
  | failed => exact mirrors
  | fitting => exact mirrors
  | sized member here shape => exact mirrors.sized member here shape

theorem Typed.reshaped {m' : Model} (typed : Typed discovered stale m)
    (ends : ReshapeEnds l m bound res l' m') : Typed discovered stale m' := by
  cases ends with
  | failed => exact typed
  | fitting => exact typed
  | sized => exact typed.sized _ _

theorem Applies.reshaped {m' : Model} (applies : Applies discovered stale l.network m)
    (ends : ReshapeEnds l m bound res l' m') : Applies discovered stale l'.network m' := by
  cases ends with
  | failed => exact applies
  | fitting => exact applies
  | sized => exact applies.sized _ _

/-- How a load of a descriptor with a bound input ends. -/
inductive LoadEnds (fit : Act Fitting Unit) (l : Loading Engine) (m : Model) :
    Except Fault Unit → Loading Engine → Prop
  | refused {f : Fault} {d : Descriptor} {network : Network}
    (refuses : fit.Ends (l.descriptor, l.network) (.error f) (d, network)) :
    LoadEnds fit l m (.error f) ⟨d, network, l.engine⟩
  | unshaped {f : Fault} {d : Descriptor} {network : Network}
    (accepts : fit.Ends (l.descriptor, l.network) (.ok ()) (d, network)) :
    LoadEnds fit l m (.error f) (withHints ⟨d, network, l.engine⟩ m)
  | loaded {d : Descriptor} {network : Network} {bound : String} {l₂ : Loading Engine} {m₂ : Model}
    (accepts : fit.Ends (l.descriptor, l.network) (.ok ()) (d, network))
    (input : d.input = some bound)
    (reshapes : ReshapeEnds (withHints ⟨d, network, l.engine⟩ m)
      (m.hinted l.engine.declared network.inputs) bound (.ok ()) l₂ m₂) :
    LoadEnds fit l m (.ok ())
      { l₂ with engine := { l₂.engine with request := some m₂.request } }

theorem load_ends {fit : Act Fitting Unit} (mirrors : Mirrors discovered l m)
    (patching : Patching fit)
    (binds : ∀ s s', fit.Ends s (.ok ()) s' → ∃ bound, s'.1.input = some bound)
    (h : (load fit).Ends l res l') : LoadEnds fit l m res l' := by
  rcases Act.ends_bind.1 h with ⟨_, l₁, fits, h⟩ | ⟨f, rfl, fits⟩
  · obtain ⟨⟨d, network⟩, accepts, rfl⟩ := Act.ends_on.1 fits
    obtain ⟨bound, input⟩ := binds _ _ accepts
    have checked := mirrors.checked patching accepts
    rw [Act.ends_bind_of_ok (ends_patch checked.model checked.known)] at h
    rcases Act.ends_bind.1 h with ⟨_, l₂, reshapes, h⟩ | ⟨f, rfl, reshapes⟩
    · obtain ⟨m₂, reshapes⟩ :=
        reshape_ends checked.patched.model input checked.patched.unique reshapes
      have compiles := ends_compile (checked.patched.reshaped reshapes).model
      obtain rfl := h.state.symm.trans compiles.state
      obtain rfl := h.result.symm.trans compiles.result
      exact .loaded accepts input reshapes
    · obtain ⟨m₂, reshapes⟩ :=
        reshape_ends checked.patched.model input checked.patched.unique reshapes
      cases reshapes
      exact .unshaped accepts
  · obtain ⟨⟨d, network⟩, refuses, rfl⟩ := Act.ends_on.1 fits
    exact .refused refuses

end

section

variable {discovered : Network} {l l' : Loading Engine} {m m' : Model} {bound : String}

theorem Mirrors.shape_eq (mirrors : Mirrors discovered l m) {info : TensorInfo} {t : ModelTensor}
    (records : info ∈ l.network.inputs) (member : t ∈ m.inputs) (same : t.name = info.name) :
    t.shape = info.shape := by
  have shaped : (t.name, t.shape) ∈ l.network.inputs.map fun info => (info.name, info.shape) := by
    rw [← mirrors.shapes]
    exact List.mem_map.2 ⟨t, member, rfl⟩
  obtain ⟨other, inside, equal⟩ := List.mem_map.1 shaped
  obtain ⟨name, shape⟩ := Prod.mk.inj equal
  rw [← shape, List.inj_on_of_nodup_map mirrors.unique inside records (name.trans same)]

theorem Mirrors.opened_eq (mirrors : Mirrors discovered l m) {first info : TensorInfo}
    (declares : first ∈ discovered.inputs) (records : info ∈ l.network.inputs)
    (same : info.name = first.name) : info.opened = first.opened := by
  have opened : (info.name, info.opened) ∈
      discovered.inputs.map fun info => (info.name, info.opened) := by
    rw [← mirrors.opened]
    exact List.mem_map.2 ⟨info, records, rfl⟩
  obtain ⟨other, inside, equal⟩ := List.mem_map.1 opened
  obtain ⟨name, shape⟩ := Prod.mk.inj equal
  rw [← shape, List.inj_on_of_nodup_map mirrors.distinct inside declares (name.trans same)]

theorem ReshapeEnds.leads (ends : ReshapeEnds l m bound (.ok ()) l' m') :
    l'.descriptor = l.descriptor ∧ ∃ info ∈ l'.network.inputs, info.name = bound ∧
      ∃ rest, info.shape = some l.descriptor.maxBatch :: rest := by
  cases ends with
  | fitting member here shape => exact ⟨rfl, _, member, here, _, shape⟩
  | @sized info _ rest member here _ =>
    refine ⟨rfl, { info with shape := some l.descriptor.maxBatch :: rest }, ?_, here, rest, rfl⟩
    exact List.mem_map.2 ⟨info, member, if_pos here⟩

theorem LoadEnds.compiled {stale : TensorInfo → Prop} {fit : Act Fitting Unit}
    (ends : LoadEnds fit l m (.ok ()) l') (mirrors : Mirrors discovered l m)
    (patching : Patching fit) (typed : Typed discovered stale m) :
    ∃ m' bound, Mirrors discovered l' m' ∧ Applies discovered stale l'.network m' ∧
      l'.engine.request = some m'.request ∧ l'.descriptor.input = some bound ∧
      ∃ info ∈ l'.network.inputs, info.name = bound ∧
        ∃ rest, info.shape = some l'.descriptor.maxBatch :: rest := by
  cases ends with
  | @loaded d network bound l₂ m' accepts input reshapes =>
    have checked := mirrors.checked patching accepts
    have shaped := checked.patched.reshaped reshapes
    have applies := (checked.applies typed).reshaped reshapes
    obtain ⟨same, info, member, here, rest, shape⟩ := reshapes.leads
    refine ⟨m', bound, { shaped with model := shaped.model }, applies, rfl, ?_, info, member, here,
      rest, ?_⟩
    · show l₂.descriptor.input = some bound
      rw [same]
      exact input
    · show info.shape = some l₂.descriptor.maxBatch :: rest
      rw [same]
      exact shape

theorem LoadEnds.failed {fit : Act Fitting Unit} {f : Fault}
    (ends : LoadEnds fit l m (.error f) l') : l'.engine.request = l.engine.request ∧
      l'.descriptor = (fit (l.descriptor, l.network)).state.1 := by
  cases ends with
  | refused refuses => exact ⟨rfl, congrArg Prod.fst refuses.state.symm⟩
  | unshaped accepts => exact ⟨rfl, congrArg Prod.fst accepts.state.symm⟩

end

end OpenVino

end FrameBatch
