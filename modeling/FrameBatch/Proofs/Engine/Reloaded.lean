import FrameBatch.Proofs.Descriptor.Parts
import FrameBatch.Proofs.Pipeline.Loadable

namespace FrameBatch

namespace Descriptor

/-- A check that changes nothing of a network but how inputs are stored, and nothing of a descriptor
but its bindings. -/
structure Hinting (fit : Act Fitting Unit) : Prop extends Patching fit where
  outputs (s : Fitting) : (fit s).state.2.outputs = s.2.outputs
  batch (s : Fitting) : (fit s).state.1.maxBatch = s.1.maxBatch

theorem hinting_accept : Hinting accept := by
  have kept (s : Fitting) :
      (accept s).state.2.outputs = s.2.outputs ∧ (accept s).state.1.maxBatch = s.1.maxBatch := by
    obtain ⟨d, network⟩ := s
    cases found : d.family.parts? network with
    | none =>
      obtain ⟨f, ends⟩ := accept_of_foreign found
      rw [ends.state]
      exact ⟨rfl, rfl⟩
    | some parts =>
      have binds := (accept_of_parts found).1 (accept.ends_self (d, network))
      have stored : (accept (d, network)).state.2 =
          { network with inputs := network.inputs.map d.family.stored } :=
        network_of_setBindings binds
      exact ⟨by rw [stored], maxBatch_of_setBindings binds⟩
  exact { patching_accept with
    outputs := fun s => (kept s).1
    batch := fun s => (kept s).2 }

end Descriptor

namespace TensorInfo

/-- The input, of which at most an open leading dimension has become one of these batches. -/
structure Sizes (batches : List Int) (info info' : TensorInfo) : Prop where
  name : info'.name = info.name
  shape : info'.shape = info.shape ∨
    ∃ batch ∈ batches, ∃ rest, info.shape = none :: rest ∧ info'.shape = some batch :: rest

variable {batches : List Int} {info info' info'' : TensorInfo}

theorem Sizes.refl (batches : List Int) (info : TensorInfo) : Sizes batches info info :=
  ⟨rfl, .inl rfl⟩

theorem Sizes.trans (first : Sizes batches info info') (second : Sizes batches info' info'') :
    Sizes batches info info'' := by
  constructor
  · exact second.name.trans first.name
  · rcases second.shape with same | ⟨batch, member, rest, opened, sized⟩
    · rw [same]
      exact first.shape
    · rcases first.shape with same | ⟨_, _, _, _, sized'⟩
      · exact .inr ⟨batch, member, rest, same ▸ opened, sized⟩
      · cases opened.symm.trans sized'

theorem Sizes.rank (sizes : Sizes batches info info') : info'.rank = info.rank := by
  rcases sizes.shape with same | ⟨_, _, rest, opened, sized⟩
  · exact congrArg List.length same
  · rw [TensorInfo.rank, TensorInfo.rank, opened, sized, List.length_cons, List.length_cons]

theorem Sizes.room (sizes : Sizes batches info info')
    (room : Descriptor.holdsSequence info = true) :
    Descriptor.holdsSequence info' = true := by
  rw [Descriptor.holdsSequence_iff] at room ⊢
  rcases sizes.shape with same | ⟨_, _, rest, opened, -⟩
  · rwa [same]
  · obtain ⟨rest', fixed⟩ := room
    cases opened.symm.trans fixed

end TensorInfo

namespace Onnx

open Descriptor (Hinting Takes accept)
open TensorInfo (Sizes)

/-- How a load ends. What the check and the sizing did to the network stays when either fails. -/
inductive LoadEnds (fit : Act Descriptor.Fitting Unit) (l : Loading Engine) :
    Except Fault Unit → Loading Engine → Prop
  | refused {f : Fault} {d : Descriptor} {network : Network}
    (refuses : fit.Ends (l.descriptor, l.network) (.error f) (d, network)) :
    LoadEnds fit l (.error f) ⟨d, network, l.engine⟩
  | unsized {f : Fault} {d : Descriptor} {patched : Network} {infos : List TensorInfo}
    {buffers : Entries String Tensor}
    (accepts : fit.Ends (l.descriptor, l.network) (.ok ()) (d, patched))
    (fails : allocate d patched.inputs = (.error f, infos, buffers)) :
    LoadEnds fit l (.error f) ⟨d, { patched with inputs := infos }, l.engine⟩
  | loaded {d : Descriptor} {patched : Network} {infos : List TensorInfo}
    {buffers : Entries String Tensor}
    (accepts : fit.Ends (l.descriptor, l.network) (.ok ()) (d, patched))
    (sizes : allocate d patched.inputs = (.ok (), infos, buffers)) :
    LoadEnds fit l (.ok ()) ⟨d, { patched with inputs := infos },
      l.engine.withRequest { buffers := Entries.ofList buffers, declared := l.engine.declared,
                             outputNames := patched.outputs.map (·.name) }⟩

theorem load_ends {fit : Act Descriptor.Fitting Unit} {l l' : Loading Engine}
    {res : Except Fault Unit} (h : (load fit).Ends l res l') : LoadEnds fit l res l' := by
  rcases Act.ends_bind.1 h with ⟨_, l₁, fits, h⟩ | ⟨f, rfl, fits⟩
  · obtain ⟨⟨d, patched⟩, accepts, rfl⟩ := Act.ends_on.1 fits
    simp only [Act.ends_get_bind, Act.ends_set_bind] at h
    rcases allocated : allocate d patched.inputs with ⟨_ | _, infos, buffers⟩
    · rw [allocated] at h
      obtain ⟨rfl, rfl⟩ := (Act.ends_bind_of_error (Act.ends_lift.2 ⟨rfl, rfl⟩) _).1 h
      exact .unsized accepts allocated
    · rw [allocated, Act.ends_bind_of_ok (Act.ends_lift.2 ⟨rfl, rfl⟩)] at h
      rcases Act.ends_bind.1 h with ⟨_, l₂, requests, h⟩ | ⟨f, rfl, requests⟩
      · obtain ⟨e', changes, rfl⟩ := Act.ends_on.1 requests
        obtain ⟨_, rfl⟩ := Act.ends_modify.1 changes
        obtain ⟨rfl, rfl⟩ := Act.ends_log.1 h
        exact .loaded accepts allocated
      · obtain ⟨e', changes, rfl⟩ := Act.ends_on.1 requests
        cases (Act.ends_modify.1 changes).1
  · obtain ⟨⟨d, network⟩, refuses, rfl⟩ := Act.ends_on.1 fits
    exact .refused refuses

section

variable {batches : List Int} {d : Descriptor} {network network' network'' : Network}
  {infos infos' infos'' : List TensorInfo}

theorem sizes_trans (first : List.Forall₂ (Sizes batches) infos infos')
    (second : List.Forall₂ (Sizes batches) infos' infos'') :
    List.Forall₂ (Sizes batches) infos infos'' := by
  induction first generalizing infos'' with
  | nil => exact second
  | cons head _ ih =>
    cases second with
    | cons head' rest => exact .cons (head.trans head') (ih rest)

theorem sizes_of_shapes (same : infos'.map (fun info => (info.name, info.shape)) =
      infos.map fun info => (info.name, info.shape)) :
    List.Forall₂ (Sizes batches) infos infos' := by
  have same := List.forall₂_eq_eq_eq ▸ same
  rw [List.forall₂_map_left_iff, List.forall₂_map_right_iff] at same
  apply List.Forall₂.flip
  apply same.imp
  intro info' info equal
  exact ⟨congrArg Prod.fst equal, .inl (congrArg Prod.snd equal)⟩

theorem closedShape_ok {info : TensorInfo} {given shape : List Dim}
    (closed : closedShape info given = .ok shape) :
    shape = given ∧ shape.any Option.isNone = false := by
  unfold closedShape at closed
  split at closed
  · cases closed
  · rename_i none
    cases closed
    exact ⟨rfl, Bool.eq_false_iff.2 none⟩

theorem sizes_of_bufferShape (member : d.maxBatch ∈ batches) {info : TensorInfo}
    {shape : List Dim} (sized : bufferShape d info = .ok shape) :
    Sizes batches info { info with shape } := by
  refine ⟨rfl, ?_⟩
  rw [bufferShape_eq] at sized
  split at sized
  · obtain ⟨given, batched, closed⟩ := bind_ok sized
    rw [(closedShape_ok closed).1]
    unfold TensorInfo.batchedShape at batched
    split at batched
    · cases batched
    · rename_i rest opened
      cases batched
      exact .inr ⟨d.maxBatch, member, rest, opened, rfl⟩
    · rename_i n rest fixed
      split at batched
      · cases batched
      · cases batched
        exact .inl fixed.symm
  · exact .inl (closedShape_ok sized).1

theorem allocate_sizes (member : d.maxBatch ∈ batches) (infos : List TensorInfo) :
    List.Forall₂ (Sizes batches) infos (allocate d infos).2.1 ∧
      (allocate d infos).2.1.map (·.elementType) = infos.map (·.elementType) := by
  induction infos with
  | nil => exact ⟨.nil, rfl⟩
  | cons info rest ih =>
    have kept : List.Forall₂ (Sizes batches) rest rest :=
      List.forall₂_same.2 fun info _ => .refl batches info
    rw [allocate]
    cases shaped : bufferShape d info with
    -- an input that cannot be sized ends the sizing, the later ones stay as they are
    | error f => exact ⟨.cons (.refl batches info) kept, rfl⟩
    | ok shape =>
      have first := sizes_of_bufferShape member shaped
      dsimp only
      cases zerosOf shape info.elementType with
      | error f => exact ⟨.cons first kept, rfl⟩
      | ok buffer => exact ⟨.cons first ih.1, congrArg (info.elementType :: ·) ih.2⟩

/-- The network, of which at most open leading dimensions have become batches, and inputs are
stored in another way. -/
structure Marked (batches : List Int) (network network' : Network) : Prop where
  inputs : List.Forall₂ (Sizes batches) network.inputs network'.inputs
  outputs : network'.outputs = network.outputs
  types : ∀ info ∈ network'.inputs, ∃ type, info.elementType = .known type

theorem known_of_types {infos infos' : List TensorInfo}
    (same : infos'.map (·.elementType) = infos.map (·.elementType))
    (known : ∀ info ∈ infos, ∃ type, info.elementType = .known type) :
    ∀ info ∈ infos', ∃ type, info.elementType = .known type := by
  intro info member
  have typed : info.elementType ∈ infos.map (·.elementType) := by
    rw [← same]
    exact List.mem_map_of_mem member
  obtain ⟨old, inside, equal⟩ := List.mem_map.1 typed
  rw [← equal]
  exact known old inside

end

structure Attempt where
  descriptor : Descriptor
  check : Act Descriptor.Fitting Unit
  hinting : Hinting check

def Attempt.after (l : Loading Engine) (attempt : Attempt) : Loading Engine :=
  (load attempt.check { l with descriptor := attempt.descriptor }).state

section

variable {batches : List Int} {l : Loading Engine}

theorem Attempt.marks {attempt : Attempt} (member : attempt.descriptor.maxBatch ∈ batches)
    (types : ∀ info ∈ l.network.inputs, ∃ type, info.elementType = .known type) :
    Marked batches l.network (attempt.after l).network := by
  let before : Descriptor.Fitting := (attempt.descriptor, l.network)
  have patches {r : Except Fault Unit} {d : Descriptor} {patched : Network}
      (fits : attempt.check.Ends before r (d, patched)) :
      List.Forall₂ (Sizes batches) l.network.inputs patched.inputs ∧
        patched.outputs = l.network.outputs ∧
        (∀ info ∈ patched.inputs, ∃ type, info.elementType = .known type) ∧
        d.maxBatch ∈ batches := by
    obtain ⟨tensors, known⟩ := attempt.hinting.keeps_tensors types fits
    have outputs := attempt.hinting.outputs before
    have batch := attempt.hinting.batch before
    rw [fits.state] at outputs batch
    refine ⟨sizes_of_shapes tensors, outputs, known, ?_⟩
    rw [batch]
    exact member
  have sized {r : Except Fault Unit} {d : Descriptor} {patched : Network}
      {infos : List TensorInfo} {buffers : Entries String Tensor}
      (fits : attempt.check.Ends before (.ok ()) (d, patched))
      (allocates : allocate d patched.inputs = (r, infos, buffers)) :
      Marked batches l.network { patched with inputs := infos } := by
    obtain ⟨inputs, outputs, known, member⟩ := patches fits
    obtain ⟨grown, typed⟩ := allocate_sizes member patched.inputs
    rw [allocates] at grown typed
    exact ⟨sizes_trans inputs grown, outputs, known_of_types typed known⟩
  have ends := load_ends
    ((load attempt.check).ends_self { l with descriptor := attempt.descriptor })
  show Marked batches l.network (load attempt.check _).state.network
  generalize load attempt.check _ = o at ends ⊢
  rcases o with ⟨r, l', trail⟩
  cases ends with
  | refused refuses =>
    obtain ⟨inputs, outputs, known, -⟩ := patches refuses
    exact ⟨inputs, outputs, known⟩
  | unsized accepts fails => exact sized accepts fails
  | loaded accepts sizes => exact sized accepts sizes

theorem marked_of_attempts {earlier : List Attempt}
    (members : ∀ attempt ∈ earlier, attempt.descriptor.maxBatch ∈ batches)
    (types : ∀ info ∈ l.network.inputs, ∃ type, info.elementType = .known type) :
    Marked batches l.network (earlier.foldl Attempt.after l).network := by
  induction earlier generalizing l with
  | nil => exact ⟨List.forall₂_same.2 fun info _ => .refl batches info, rfl, types⟩
  | cons attempt rest ih =>
    have first := Attempt.marks (members attempt List.mem_cons_self) types
    have later := ih (fun other member => members other (List.mem_cons_of_mem _ member)) first.types
    exact ⟨sizes_trans first.inputs later.inputs, later.outputs.trans first.outputs, later.types⟩

end

def outline (buffers : Entries String Tensor) : List (String × List Nat × NumberType) :=
  buffers.map fun (name, buffer) => (name, buffer.shape, buffer.type)

/-- The buffers that a load made, if it returned. -/
def granted (o : Outcome (Loading Engine) Unit) : Option (List (String × List Nat × NumberType)) :=
  match o.result with
  | .ok _ => o.state.engine.request.map fun r => outline r.buffers
  | .error _ => none

/-- What earlier loads left of an input is what the descriptor would make of it anyway. -/
structure Unspoiled (d : Descriptor) (info info' : TensorInfo) : Prop where
  shape : info'.shape = info.shape ∨
    some info.name = d.input ∧ info'.shape.head? = some (some d.maxBatch)
  type : info'.elementType = info.elementType ∨ d.family = .plate ∧ info.rank = 4

theorem blank_eq_iff {info info' : TensorInfo} {t t' : Tensor} (blank : info.Blank t)
    (blank' : info'.Blank t') : t.shape = t'.shape ∧ t.type = t'.type ↔
      info.shape = info'.shape ∧ info.elementType = info'.elementType := by
  obtain ⟨type, sizes, hint, shape, rfl⟩ := blank
  obtain ⟨type', sizes', hint', shape', rfl⟩ := blank'
  have dims : Function.Injective fun (n : Nat) => some (n : Int) := fun m n same =>
    Int.ofNat_inj.1 (Option.some.inj same)
  rw [hint, hint', shape, shape', (List.map_injective_iff.2 dims).eq_iff, TypeHint.known.injEq]
  show sizes = sizes' ∧ NumberType.element type = .element type' ↔ _
  rw [NumberType.element.injEq]

theorem outline_eq_iff {infos infos' : List TensorInfo} {buffers buffers' : Entries String Tensor}
    (each : Buffers infos buffers) (each' : Buffers infos' buffers') :
    outline buffers = outline buffers' ↔ List.Forall₂ (fun info info' =>
      info.name = info'.name ∧ info.shape = info'.shape ∧ info.elementType = info'.elementType)
      infos infos' := by
  induction each generalizing infos' buffers' with
  | nil =>
    cases each' with
    | nil => exact iff_of_true rfl .nil
    | cons _ _ => exact iff_of_false nofun nofun
  | @cons _ entry _ _ first _ ih =>
    cases each' with
    | nil => exact iff_of_false nofun nofun
    | @cons _ entry' _ _ first' rest' =>
      rw [List.forall₂_cons, ← ih rest', ← blank_eq_iff first.2 first'.2, ← first.1, ← first'.1]
      show (entry.1, entry.2.shape, entry.2.type) :: _ = (entry'.1, _, _) :: _ ↔ _
      rw [List.cons.injEq, Prod.mk.injEq, Prod.mk.injEq]
      rfl

section

variable {d d' : Descriptor} {bound : String} {network network' : Network} {batches : List Int}

theorem load_taken (positive : 1 ≤ d.maxBatch) (takes : d.Takes network d')
    (input : d'.input = some bound)
    (known : ∀ info ∈ network.inputs, ∃ type, info.elementType = .known type)
    (distinct : network.inputNames.Nodup) (e : Engine) :
    let o := load accept ⟨d, network, e⟩
    let fits := ∀ info ∈ network.inputs, info.Sizable bound d.maxBatch
    o.state.descriptor = d' ∧ (o.result = .ok () ↔ fits) ∧ (fits → ∃ buffers,
      granted o = some (outline buffers) ∧ Buffers
        (network.inputs.map fun info => (d.family.stored info).sizedFor bound d.maxBatch)
        buffers) := by
  intro o fits
  let patched : Network := { network with inputs := network.inputs.map d.family.stored }
  have accepts : accept.Ends (d, network) (.ok ()) (d', patched) :=
    Descriptor.accept_iff.2 ⟨takes, rfl⟩
  obtain ⟨tensors, known⟩ := Descriptor.patching_accept.keeps_tensors known accepts
  have same : (∀ info ∈ patched.inputs, info.Sizable bound d.maxBatch) ↔ fits :=
    (TensorInfo.sized_congr tensors bound d.maxBatch).1
  have names : patched.inputs.map (·.name) = network.inputNames := TensorInfo.names_congr tensors
  obtain ⟨-, batch⟩ := takes.keeps
  rw [← batch] at same positive
  obtain ⟨all, buffers, each, loads⟩ | ⟨unfit, f, infos, fails, -⟩ :=
    load_accepted positive input accepts known e
  · have unique : (Entries.keys buffers).Nodup := by
      rw [each.keys_sized, names]
      exact distinct
    rw [Entries.ofList_of_distinct unique] at loads
    refine ⟨congrArg (·.descriptor) loads.state, iff_of_true loads.result (same.1 all),
      fun _ => ⟨buffers, ?_, ?_⟩⟩
    · rw [granted, loads.result, loads.state]
      rfl
    · rwa [batch, List.map_map] at each
  · have unfit : ¬ fits := fun all => unfit (same.2 all)
    refine ⟨congrArg (·.descriptor) fails.state, iff_of_false ?_ unfit, fun all => absurd all unfit⟩
    intro ok
    cases fails.result.symm.trans ok

theorem takes_of_load {e : Engine} (loads : (load accept ⟨d, network, e⟩).result = .ok ()) :
    ∃ d', d.Takes network d' := by
  have ends := load_ends ((load accept).ends_self ⟨d, network, e⟩)
  generalize load accept ⟨d, network, e⟩ = o at loads ends
  rcases o with ⟨r, l, trail⟩
  cases ends with
  | refused => cases loads
  | unsized => cases loads
  | loaded accepts => exact ⟨_, (Descriptor.accept_iff.1 accepts).1⟩

theorem input_of_takes (takes : d.Takes network d') : ∃ bound, d'.input = some bound := by
  obtain ⟨bound, -, input⟩ := ((Descriptor.accept_cases
    (Descriptor.accept_iff.2 ⟨takes, rfl⟩)).2 rfl).input
  exact ⟨bound, input⟩

variable {info info' : TensorInfo}

theorem sizedFor_congr (name : info'.name = info.name) (shape : info'.shape = info.shape)
    (batch : Int) : (info'.sizedFor bound batch).shape = (info.sizedFor bound batch).shape := by
  have same : [info'].map (fun info => (info.name, info.shape)) =
      [info].map fun info => (info.name, info.shape) := by
    rw [List.map_singleton, List.map_singleton, name, shape]
  have sized := (TensorInfo.sized_congr same bound batch).2
  rw [List.map_singleton, List.map_singleton, List.singleton_inj, Prod.mk.injEq] at sized
  exact sized.2

theorem elementType_stored (family : Family) (info : TensorInfo) :
    (family.stored info).elementType =
      if family = .plate ∧ info.rank = 4 then .known .u8 else info.elementType := by
  unfold Family.stored
  split
  · rfl
  · rfl

theorem Unspoiled.sizable_iff (unspoiled : Unspoiled d info info')
    (sizes : Sizes batches info info') (input : d.input = some bound) :
    info'.Sizable bound d.maxBatch ↔ info.Sizable bound d.maxBatch := by
  rcases sizes.shape with same | ⟨batch, -, rest, opened, sized⟩
  · rw [TensorInfo.Sizable, TensorInfo.Sizable, sizes.name, same]
  · rcases unspoiled.shape with same | ⟨here, head⟩
    · cases opened.symm.trans (same.symm.trans sized)
    · have here : info.name = bound := Option.some.inj (here.trans input)
      rw [sized, List.head?_cons, Option.some.injEq, Option.some.injEq] at head
      rw [TensorInfo.Sizable, TensorInfo.Sizable, sizes.name, if_pos here, if_pos here, opened,
        sized, head]
      constructor
      · rintro ⟨lead, rest', same, -, fixed⟩
        cases same
        refine ⟨none, rest, rfl, ?_, fixed⟩
        intro _ absent
        cases absent
      · rintro ⟨lead, rest', same, -, fixed⟩
        cases same
        refine ⟨some d.maxBatch, rest, rfl, ?_, fixed⟩
        rintro _ ⟨⟩
        exact Int.le_refl _

theorem unspoiled_iff (sizes : Sizes batches info info') (input : d.input = some bound)
    (fits : info.Sizable bound d.maxBatch) :
    let sized := (d.family.stored info).sizedFor bound d.maxBatch
    let sized' := (d.family.stored info').sizedFor bound d.maxBatch
    (sized.name = sized'.name ∧ sized.shape = sized'.shape ∧
      sized.elementType = sized'.elementType) ↔ Unspoiled d info info' := by
  intro sized sized'
  have name : sized.name = sized'.name := by
    rw [TensorInfo.name_sizedFor, TensorInfo.name_sizedFor,
      (Descriptor.name_shape_stored _ _).1, (Descriptor.name_shape_stored _ _).1, sizes.name]
  have shape : sized.shape = sized'.shape ↔ (info'.shape = info.shape ∨
      some info.name = d.input ∧ info'.shape.head? = some (some d.maxBatch)) := by
    obtain ⟨name, shape⟩ := Descriptor.name_shape_stored d.family info
    obtain ⟨name', shape'⟩ := Descriptor.name_shape_stored d.family info'
    rw [sizedFor_congr name shape, sizedFor_congr name' shape']
    rcases sizes.shape with same | ⟨batch, -, rest, opened, sized⟩
    · exact iff_of_true (sizedFor_congr sizes.name same d.maxBatch).symm (.inl same)
    · have here : info.name = bound := by
        apply Decidable.byContradiction
        intro other
        rw [TensorInfo.Sizable, if_neg other, opened] at fits
        obtain ⟨_, absent⟩ := fits none List.mem_cons_self
        cases absent
      have resized : (info.sizedFor bound d.maxBatch).shape = some d.maxBatch :: rest := by
        rw [TensorInfo.sizedFor, opened]
        simp only [here, if_true]
      rw [resized, TensorInfo.sizedFor_of_lead sized, opened, sized, input, here]
      simp [eq_comm]
  have type : sized.elementType = sized'.elementType ↔
      (info'.elementType = info.elementType ∨ d.family = .plate ∧ info.rank = 4) := by
    rw [TensorInfo.elementType_sizedFor, TensorInfo.elementType_sizedFor, elementType_stored,
      elementType_stored, sizes.rank]
    by_cases image : d.family = .plate ∧ info.rank = 4
    · rw [if_pos image, if_pos image]
      exact iff_of_true rfl (.inr image)
    · rw [if_neg image, if_neg image, or_iff_left image, eq_comm]
  rw [shape, type]
  constructor
  · rintro ⟨-, shape, type⟩
    exact ⟨shape, type⟩
  · rintro ⟨shape, type⟩
    exact ⟨name, shape, type⟩

theorem takes_marked (takes : d.Takes network d') (marked : Marked batches network network') :
    d.Takes network' d' := by
  refine takes.alike (List.forall₂_iff_zip.2 ⟨marked.inputs.length_eq, ?_⟩) marked.outputs
  intro info info' pair
  have sizes := List.forall₂_zip marked.inputs pair
  refine ⟨sizes.name, sizes.rank, fun plates other => ?_⟩
  have room := takes.room plates (List.of_mem_zip pair).1 other
  rw [room, sizes.room room]

theorem takes_of_unspoiled (takes : d.Takes network' d') (marked : Marked batches network network')
    (distinct : network'.inputNames.Nodup)
    (unspoiled : List.Forall₂ (Unspoiled d') network.inputs network'.inputs) :
    d.Takes network d' := by
  refine takes.alike (List.Forall₂.flip (List.forall₂_iff_zip.2
    ⟨marked.inputs.length_eq, ?_⟩)) marked.outputs.symm
  intro info info' pair
  have sizes := List.forall₂_zip marked.inputs pair
  have member := (List.of_mem_zip pair).2
  refine ⟨sizes.name.symm, sizes.rank.symm, fun plates other => ?_⟩
  rcases (List.forall₂_zip unspoiled pair).shape with same | ⟨here, -⟩
  · rw [Descriptor.holdsSequence, Descriptor.holdsSequence, same]
  · rw [← sizes.name] at here
    exact absurd (takes.rank_of_input plates distinct member here) other

theorem fits_iff_of_unspoiled (input : d.input = some bound)
    (sizes : List.Forall₂ (Sizes batches) network.inputs network'.inputs)
    (unspoiled : List.Forall₂ (Unspoiled d) network.inputs network'.inputs) :
    (∀ info ∈ network'.inputs, info.Sizable bound d.maxBatch) ↔
      ∀ info ∈ network.inputs, info.Sizable bound d.maxBatch := by
  rcases network with ⟨infos, outputs⟩
  rcases network' with ⟨infos', outputs'⟩
  change List.Forall₂ (Sizes batches) infos infos' at sizes
  change List.Forall₂ (Unspoiled d) infos infos' at unspoiled
  show (∀ info ∈ infos', _) ↔ ∀ info ∈ infos, _
  induction sizes with
  | nil => exact Iff.rfl
  | cons first _ ih =>
    cases unspoiled with
    | cons first' rest' =>
      rw [List.forall_mem_cons, List.forall_mem_cons, first'.sizable_iff first input, ih rest']

theorem granted_eq_of_fits (marked : Marked batches network network')
    (known : ∀ info ∈ network.inputs, ∃ type, info.elementType = .known type)
    (distinct : network.inputNames.Nodup) (distinct' : network'.inputNames.Nodup)
    (positive : 1 ≤ d.maxBatch) (takes : d.Takes network d') (input : d'.input = some bound)
    (fits : ∀ info ∈ network.inputs, info.Sizable bound d.maxBatch)
    (fits' : ∀ info ∈ network'.inputs, info.Sizable bound d.maxBatch) (e e' : Engine) :
    granted (load accept ⟨d, network', e'⟩) = granted (load accept ⟨d, network, e⟩) ↔
      List.Forall₂ (Unspoiled d') network.inputs network'.inputs := by
  have takes' := takes_marked takes marked
  obtain ⟨-, -, makes⟩ := load_taken positive takes input known distinct e
  obtain ⟨-, -, makes'⟩ := load_taken positive takes' input marked.types distinct' e'
  obtain ⟨buffers, made, each⟩ := makes fits
  obtain ⟨buffers', made', each'⟩ := makes' fits'
  rw [made, made', Option.some.injEq, eq_comm, outline_eq_iff each each',
    List.forall₂_map_left_iff, List.forall₂_map_right_iff, List.forall₂_iff_zip,
    List.forall₂_iff_zip]
  obtain ⟨family, batch⟩ := takes.keeps
  rw [← family, ← batch]
  rw [← batch] at fits
  apply and_congr_right
  intro _
  have pairs {info info' : TensorInfo}
      (pair : (info, info') ∈ network.inputs.zip network'.inputs) :=
    unspoiled_iff (List.forall₂_zip marked.inputs pair) input (fits info (List.of_mem_zip pair).1)
  constructor
  · intro same info info' pair
    exact (pairs pair).1 (same pair)
  · intro unspoiled info info' pair
    exact (pairs pair).2 (unspoiled pair)

theorem isSome_granted_iff (fit : Act Descriptor.Fitting Unit) (l : Loading Engine) :
    (granted (load fit l)).isSome = true ↔ (load fit l).result = .ok () := by
  have ends := load_ends ((load fit).ends_self l)
  generalize load fit l = o at ends ⊢
  rcases o with ⟨r, l', trail⟩
  cases ends with
  | refused => exact iff_of_false nofun nofun
  | unsized => exact iff_of_false nofun nofun
  | loaded => exact iff_of_true rfl rfl

theorem Marked.names (marked : Marked batches network network') :
    network'.inputNames = network.inputNames := by
  have same : List.Forall₂ (· = ·) network'.inputNames network.inputNames := by
    rw [Network.inputNames, Network.inputNames, List.forall₂_map_left_iff,
      List.forall₂_map_right_iff]
    exact List.Forall₂.flip (marked.inputs.imp fun _ _ sizes => sizes.name)
  rwa [List.forall₂_eq_eq_eq] at same

theorem granted_eq_iff (marked : Marked batches network network')
    (known : ∀ info ∈ network.inputs, ∃ type, info.elementType = .known type)
    (distinct : network.inputNames.Nodup) (positive : 1 ≤ d.maxBatch) (e e' : Engine) :
    let again := load accept ⟨d, network', e'⟩
    let fresh := load accept ⟨d, network, e⟩
    granted again = granted fresh ↔ (again.result = .ok () ∨ fresh.result = .ok () →
      List.Forall₂ (Unspoiled again.state.descriptor) network.inputs network'.inputs) := by
  intro again fresh
  have distinct' : network'.inputNames.Nodup := by
    rw [marked.names]
    exact distinct
  have loads {d' : Descriptor} {bound : String} (takes : d.Takes network d')
      (input : d'.input = some bound) := load_taken positive takes input known distinct e
  have loads' {d' : Descriptor} {bound : String} (takes' : d.Takes network' d')
      (input : d'.input = some bound) := load_taken positive takes' input marked.types distinct' e'
  constructor
  · intro same returns
    have either : again.result = .ok () ↔ fresh.result = .ok () := by
      rw [← isSome_granted_iff, ← isSome_granted_iff]
      exact Iff.of_eq (congrArg (·.isSome = true) same)
    have fresh_ok : fresh.result = .ok () := returns.elim either.1 id
    obtain ⟨d', takes⟩ := takes_of_load fresh_ok
    obtain ⟨bound, input⟩ := input_of_takes takes
    obtain ⟨-, fits, -⟩ := loads takes input
    obtain ⟨now, fits', -⟩ := loads' (takes_marked takes marked) input
    rw [now]
    exact (granted_eq_of_fits marked known distinct distinct' positive takes input
      (fits.1 fresh_ok) (fits'.1 (either.2 fresh_ok)) e e').1 same
  · intro unspoiled
    by_cases returns : again.result = .ok () ∨ fresh.result = .ok ()
    · replace unspoiled := unspoiled returns
      obtain ⟨d', takes, now⟩ : ∃ d', d.Takes network d' ∧ again.state.descriptor = d' := by
        rcases returns with again_ok | fresh_ok
        · obtain ⟨d', takes'⟩ := takes_of_load again_ok
          obtain ⟨bound, input⟩ := input_of_takes takes'
          obtain ⟨now, -⟩ := loads' takes' input
          rw [now] at unspoiled
          exact ⟨d', takes_of_unspoiled takes' marked distinct' unspoiled, now⟩
        · obtain ⟨d', takes⟩ := takes_of_load fresh_ok
          obtain ⟨bound, input⟩ := input_of_takes takes
          exact ⟨d', takes, (loads' (takes_marked takes marked) input).1⟩
      obtain ⟨bound, input⟩ := input_of_takes takes
      rw [now] at unspoiled
      -- whichever of the loads returned, both networks can be sized
      have both := fits_iff_of_unspoiled input marked.inputs unspoiled
      rw [takes.keeps.2] at both
      have fits : ∀ info ∈ network.inputs, info.Sizable bound d.maxBatch := by
        rcases returns with again_ok | fresh_ok
        · exact both.1 ((loads' (takes_marked takes marked) input).2.1.1 again_ok)
        · exact (loads takes input).2.1.1 fresh_ok
      exact (granted_eq_of_fits marked known distinct distinct' positive takes input fits
        (both.2 fits) e e').2 unspoiled
    · have none {l : Loading Engine} (failed : ¬ (load accept l).result = .ok ()) :
          granted (load accept l) = none := by
        rwa [← isSome_granted_iff, Option.not_isSome_iff_eq_none] at failed
      rw [not_or] at returns
      rw [none returns.1, none returns.2]

end

/-- An engine on which loads for any descriptors were tried, next to a new one for the same file. Of
the network at most open leading dimensions have changed, into batches that were asked for, and how
inputs are stored. The next load makes the buffers that it makes on the new engine, or fails like
there, if and only if it fails on both or what the earlier ones left is what it asks for. -/
theorem load_again_iff {file device : String} {source : Source} {script : Script} {e : Engine}
    {network : Network} (created : (create file device source script ()).result = .ok (e, network))
    (distinct : (source.inputs.map (·.name)).Nodup) (earlier : List Attempt) {d : Descriptor}
    (positive : 1 ≤ d.maxBatch) :
    let spent := earlier.foldl Attempt.after ⟨d, network, e⟩
    let again := load accept { spent with descriptor := d }
    let fresh := load accept ⟨d, network, e⟩
    List.Forall₂ (Sizes (earlier.map (·.descriptor.maxBatch))) network.inputs
        spent.network.inputs ∧
      (granted again = granted fresh ↔ (again.result = .ok () ∨ fresh.result = .ok () →
        List.Forall₂ (Unspoiled again.state.descriptor) network.inputs spent.network.inputs)) := by
  intro spent again fresh
  have opened := opened_of_create created distinct
  have unique : network.inputNames.Nodup := by
    rw [opened.names, opened.keys]
    exact distinct
  have members (attempt : Attempt) (member : attempt ∈ earlier) :
      attempt.descriptor.maxBatch ∈ earlier.map (·.descriptor.maxBatch) :=
    List.mem_map_of_mem member
  have marked : Marked (earlier.map (·.descriptor.maxBatch)) network spent.network :=
    marked_of_attempts (l := ⟨d, network, e⟩) members opened.types
  exact ⟨marked.inputs, granted_eq_iff marked opened.types unique positive e spent.engine⟩

def plateSession : Engine where
  device := "cpu"
  declared := [("data", .f32), ("seq", .f32)]
  script := { runs := [] }

theorem loaded_twice :
    let network := Descriptor.plateNetwork "prob"
    let first : Attempt := ⟨Descriptor.sharedPlates, accept, Descriptor.hinting_accept⟩
    let spent := first.after ⟨Descriptor.sharedPlates, network, plateSession⟩
    spent.network ≠ network ∧
      granted (load accept { spent with descriptor := Descriptor.sharedPlates }) =
        granted (load accept ⟨Descriptor.sharedPlates, network, plateSession⟩) := by
  have created : (create "lpr.onnx" "CPU" plateGraph { runs := [] } ()).result =
      .ok (plateSession, Descriptor.plateNetwork "prob") := rfl
  obtain ⟨-, same⟩ := load_again_iff created (by decide)
    [⟨Descriptor.sharedPlates, accept, Descriptor.hinting_accept⟩]
    (show 1 ≤ Descriptor.sharedPlates.maxBatch by decide)
  refine ⟨by decide, same.2 fun _ => ?_⟩
  exact .cons ⟨.inr ⟨rfl, rfl⟩, .inr ⟨rfl, rfl⟩⟩ (.cons ⟨.inl rfl, .inl rfl⟩ .nil)

/-- An engine that was loaded for single plates is not loaded for batches of two any more, which a
new engine for the same file is. -/
theorem refused_after_single :
    ∃ e network, (create "lpr.onnx" "CPU" plateGraph { runs := [] } ()).result =
        .ok (e, network) ∧
      let single := { Descriptor.sharedPlates with maxBatch := 1 }
      let spent := (load accept ⟨single, network, e⟩).state
      (load accept ⟨Descriptor.sharedPlates, network, e⟩).result = .ok () ∧
        ∃ f, (load accept { spent with descriptor := Descriptor.sharedPlates }).result = .error f :=
  ⟨_, _, rfl, rfl, _, rfl⟩

end Onnx

end FrameBatch
