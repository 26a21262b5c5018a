import FrameBatch.Proofs.Descriptor.Binding

namespace FrameBatch.Descriptor

variable {d d' : Descriptor} {network network' : Network} {names : Role → String} {f : Fault}

def Contradicts (d : Descriptor) (names : Role → String) : Prop :=
  ∃ role old, d.bound role = some old ∧ old ≠ names role

theorem contradicts_of_conflict {found : Role × String × String}
    (conflict : d.conflict? (listed names) = some found) : d.Contradicts names := by
  obtain ⟨⟨role, name⟩, member, found⟩ := List.exists_of_findSome?_eq_some conflict
  cases mem_listed.1 member
  cases bound : d.bound role with
  | none => simp [bound] at found
  | some old =>
    refine ⟨role, old, bound, fun same => ?_⟩
    simp [bound, same] at found

theorem setBindings_refused
    (h : (setBindings (listed names)).Ends (d, network) (.error f) (d', network')) :
    f.kind = .value ∧ d' = d ∧ network' = network ∧ d.Contradicts names := by
  rw [setBindings, Act.ends_get_bind] at h
  cases conflict : d.conflict? (listed names) with
  | some contradiction =>
    simp only [conflict] at h
    obtain ⟨same, kept⟩ := Act.ends_fail.1 h
    cases same
    cases kept
    exact ⟨rfl, rfl, rfl, contradicts_of_conflict conflict⟩
  | none =>
    simp only [conflict, Act.ends_set_bind] at h
    cases (Act.ends_log.1 h).1

theorem patchPlate_keeps (network : Network) :
    (patchPlate network).outputs = network.outputs ∧
      (patchPlate network).inputs.map (fun info => (info.name, info.shape)) =
        network.inputs.map fun info => (info.name, info.shape) := by
  refine ⟨rfl, ?_⟩
  rw [patchPlate, List.map_map]
  apply List.map_congr_left
  intro info _
  show _ = (info.name, info.shape)
  by_cases image : info.rank = 4
  · simp [image, asPlateImage]
  · simp [image]

/-- A refused network changes no binding. It keeps its names and shapes, and everything else too,
unless it is one for licence plates with other names than the descriptor is bound to: then its image
input has been given the storage that plate networks take. -/
theorem refused_with_storage (plates : d.family = .plate)
    (refused : accept.Ends (d, network) (.error f) (d', network')) :
    f.kind = .value ∧ d' = d ∧ network'.outputs = network.outputs ∧
      network'.inputs.map (fun info => (info.name, info.shape)) =
        network.inputs.map (fun info => (info.name, info.shape)) ∧
      (network' = network ∨ network' = patchPlate network) ∧
      (network' ≠ network ↔
        patchPlate network ≠ network ∧
          ∃ names, network.ReadsPlates names ∧ d.Contradicts names) := by
  cases accept_plate_cases plates refused with
  | foreign value other =>
    refine ⟨value, rfl, rfl, rfl, .inl rfl, ?_⟩
    constructor
    · intro changed
      exact absurd rfl changed
    · rintro ⟨-, names, reads, -⟩
      exact absurd reads (other names)
  | @reads names _ _ reads binds =>
    obtain ⟨value, kept, rfl, contradicts⟩ := setBindings_refused binds
    obtain ⟨outputs, inputs⟩ := patchPlate_keeps network
    refine ⟨value, kept, outputs, inputs, .inr rfl, ?_⟩
    constructor
    · intro changed
      exact ⟨changed, names, reads, contradicts⟩
    · exact And.left

/-- A descriptor that is bound to the output "prob" refuses a network with the output "decode",
whose image input then is one of bytes and has a layout. -/
theorem patched_when_refused :
    let d := (accept (sharedPlates, plateNetwork "prob")).state.1
    let shown := accept (d, plateNetwork "decode")
    (∃ f, shown.result = .error f) ∧ shown.state.2 ≠ plateNetwork "decode" ∧
      shown.state.2.inputs.map (fun info => (info.elementType, info.layout)) =
        [(.known .u8, some "NCHW"), (.known .f32, none)] := by
  intro d shown
  refine ⟨⟨_, rfl⟩, ?_, rfl⟩
  decide

theorem storage_of_refused :
    let d := (accept (sharedPlates, plateNetwork "prob")).state.1
    (accept (d, plateNetwork "decode")).state = (d, patchPlate (plateNetwork "decode")) ∧
      (accept (d, {})).state = (d, {}) := by
  intro d
  have named : ∃ f, (accept (d, plateNetwork "decode")).result = .error f := ⟨_, rfl⟩
  have shapeless : ∃ f, (accept (d, {})).result = .error f := ⟨_, rfl⟩
  obtain ⟨f, fails⟩ := named
  obtain ⟨f', fails'⟩ := shapeless
  have ends {network : Network} {f : Fault} (fails : (accept (d, network)).result = .error f) :
      accept.Ends (d, network) (.error f)
        ((accept (d, network)).state.1, (accept (d, network)).state.2) :=
    ⟨fails, rfl⟩
  obtain ⟨-, kept, -, -, storage, changed⟩ := refused_with_storage rfl (ends fails)
  obtain ⟨-, kept', -, -, -, changed'⟩ := refused_with_storage rfl (ends fails')
  have reads : (plateNetwork "decode").ReadsPlates fun role =>
      if role = .input then "data" else if role = .sequence then "seq" else "decode" :=
    ⟨⟨_, _, .inl rfl, rfl, by decide, ⟨_, rfl⟩, rfl, rfl⟩, ⟨_, rfl, rfl⟩⟩
  constructor
  · refine Prod.ext kept ?_
    apply storage.resolve_left
    exact changed.2 ⟨by decide, _, reads, .output, "prob", rfl, by decide⟩
  · refine Prod.ext kept' ?_
    apply Decidable.byContradiction
    intro differ
    obtain ⟨-, names, reads, -⟩ := changed'.1 differ
    obtain ⟨_, _, inputs | inputs, _⟩ := reads.inputs
    · cases inputs
    · cases inputs

end FrameBatch.Descriptor
