import FrameBatch.Proofs.Descriptor.Patching
import Mathlib.Data.List.Forall2

namespace FrameBatch

/-- The parts that the tensors of a network play for a family, if the network is of that family. -/
def Family.parts? : Family → Network → Option (List (Role × String))
  | .plate, network =>
    match Descriptor.plateInputs? network, network.outputs with
    | some (image, sequence), [output] =>
      if Descriptor.holdsSequence sequence then
        some [(.input, image.name), (.sequence, sequence.name), (.output, output.name)]
      else none
    | _, _ => none
  | .single, network =>
    match network.inputs, network.outputs with
    | [input], [output] =>
      if input.rank = 4 then some [(.input, input.name), (.output, output.name)] else none
    | _, _ => none
  | .unchecked, network =>
    match network.inputs, network.outputs with
    | input :: _, output :: _ => some [(.input, input.name), (.output, output.name)]
    | _, _ => none

def Family.stored (family : Family) (info : TensorInfo) : TensorInfo :=
  if family = .plate ∧ info.rank = 4 then Descriptor.asPlateImage info else info

namespace Descriptor

def bindAll (d : Descriptor) (parts : List (Role × String)) : Descriptor :=
  parts.foldl (fun d (role, name) => d.bind role name) d

/-- The descriptor accepts the network, and is the other one then. -/
def Takes (d : Descriptor) (network : Network) (d' : Descriptor) : Prop :=
  ∃ parts, d.family.parts? network = some parts ∧ d.conflict? parts = none ∧ d' = d.bindAll parts

variable {d d' : Descriptor} {network network' old new : Network}

theorem maxBatch_bindAll (d : Descriptor) (parts : List (Role × String)) :
    (d.bindAll parts).maxBatch = d.maxBatch := by
  induction parts generalizing d with
  | nil => rfl
  | cons part rest ih =>
    obtain ⟨role, name⟩ := part
    apply (ih (d.bind role name)).trans
    cases role <;> rfl

theorem Takes.keeps (takes : d.Takes network d') :
    d'.family = d.family ∧ d'.maxBatch = d.maxBatch := by
  obtain ⟨parts, -, -, rfl⟩ := takes
  exact ⟨family_foldl parts d, maxBatch_bindAll d parts⟩

theorem ends_setBindings_iff {bindings : List (Role × String)} {s : Fitting} :
    (setBindings bindings).Ends (d, network) (.ok ()) s ↔
      d.conflict? bindings = none ∧ s = (d.bindAll bindings, network) := by
  rw [setBindings, Act.ends_get_bind]
  cases conflict : d.conflict? bindings with
  | some contradiction =>
    simp only [conflict, Act.ends_fail]
    simp
  | none =>
    simp only [conflict, Act.ends_set_bind, Act.ends_log, true_and]
    rfl

theorem maxBatch_of_setBindings {bindings : List (Role × String)} {r : Except Fault Unit}
    (h : (setBindings bindings).Ends (d, network) r (d', network')) :
    d'.maxBatch = d.maxBatch := by
  rw [setBindings, Act.ends_get_bind] at h
  cases conflict : d.conflict? bindings with
  | some contradiction =>
    simp only [conflict] at h
    exact congrArg (·.1.maxBatch) (Act.ends_fail.1 h).2
  | none =>
    simp only [conflict, Act.ends_set_bind] at h
    exact (congrArg (·.1.maxBatch) (Act.ends_log.1 h).2).trans (maxBatch_bindAll d bindings)

theorem stored_plate (network : Network) :
    { network with inputs := network.inputs.map Family.plate.stored } = patchPlate network := by
  unfold patchPlate Family.stored
  simp only [true_and]

theorem stored_of_ne {family : Family} (other : family ≠ .plate) (network : Network) :
    { network with inputs := network.inputs.map family.stored } = network := by
  have same : family.stored = id := by
    funext info
    rw [Family.stored, if_neg fun both => other both.1]
    rfl
  rw [same, List.map_id]

theorem name_shape_stored (family : Family) (info : TensorInfo) :
    (family.stored info).name = info.name ∧ (family.stored info).shape = info.shape := by
  unfold Family.stored
  split
  · exact ⟨rfl, rfl⟩
  · exact ⟨rfl, rfl⟩

theorem count_of_plateInputs {image sequence : TensorInfo}
    (found : plateInputs? network = some (image, sequence)) : network.inputs.length = 2 := by
  obtain ⟨inputs | inputs, -⟩ := plateInputs_eq_some_iff.1 found
  · rw [inputs]
    rfl
  · rw [inputs]
    rfl

theorem accept_of_foreign (foreign : d.family.parts? network = none) :
    ∃ f, accept.Ends (d, network) (.error f) (d, network) := by
  simp only [accept, Act.ends_get_bind]
  cases family : d.family with
  | plate =>
    rw [family] at foreign
    simp only [acceptPlate, Act.ends_get_bind, Act.ends_log_bind]
    by_cases count : network.inputs.length ≠ 2
    · simp only [if_pos count]
      exact ⟨_, Act.ends_fail_bind.2 ⟨rfl, rfl⟩⟩
    · simp only [if_neg count]
      cases found : plateInputs? network with
      | none => exact ⟨_, Act.ends_fail.2 ⟨rfl, rfl⟩⟩
      | some pair =>
        dsimp only
        by_cases short : (!holdsSequence pair.2) = true
        · simp only [if_pos short]
          exact ⟨_, Act.ends_fail_bind.2 ⟨rfl, rfl⟩⟩
        · simp only [if_neg short, Act.ends_log_bind]
          split
          · rename_i output outputs
            rw [Bool.not_eq_true, Bool.not_eq_false'] at short
            simp [Family.parts?, outputs, found, short] at foreign
          · exact ⟨_, Act.ends_fail.2 ⟨rfl, rfl⟩⟩
  | single =>
    rw [family] at foreign
    simp only [acceptSingle, Act.ends_get_bind]
    split
    · rename_i inputs outputs
      split
      · rename_i rank
        simp [Family.parts?, inputs, outputs, rank] at foreign
      · exact ⟨_, Act.ends_fail.2 ⟨rfl, rfl⟩⟩
    · exact ⟨_, Act.ends_fail.2 ⟨rfl, rfl⟩⟩
    · exact ⟨_, Act.ends_fail.2 ⟨rfl, rfl⟩⟩
  | unchecked =>
    rw [family] at foreign
    simp only [acceptUnchecked, Act.ends_get_bind]
    split
    · rename_i inputs outputs
      simp [Family.parts?, inputs, outputs] at foreign
    · exact ⟨_, Act.ends_fail.2 ⟨rfl, rfl⟩⟩

theorem accept_of_parts {parts : List (Role × String)} {r : Except Fault Unit} {s : Fitting}
    (found : d.family.parts? network = some parts) :
    accept.Ends (d, network) r s ↔ (setBindings parts).Ends
      (d, { network with inputs := network.inputs.map d.family.stored }) r s := by
  rw [accept, Act.ends_get_bind]
  cases family : d.family with
  | plate =>
    rw [family, Family.parts?] at found
    rw [stored_plate]
    split at found
    · rename_i image sequence output pair outputs
      split at found
      · rename_i room
        cases found
        have count : ¬ network.inputs.length ≠ 2 := not_not.2 (count_of_plateInputs pair)
        have room : ¬ (!holdsSequence sequence) = true := by rw [room]; decide
        simp only [acceptPlate, Act.ends_get_bind, Act.ends_log_bind, if_neg count, pair,
          if_neg room, outputs, Act.ends_set_bind]
      · cases found
    · cases found
  | single =>
    rw [family, Family.parts?] at found
    rw [stored_of_ne (by decide)]
    split at found
    · rename_i input output inputs outputs
      split at found
      · rename_i rank
        cases found
        simp only [acceptSingle, Act.ends_get_bind, inputs, outputs, if_pos rank]
      · cases found
    · cases found
  | unchecked =>
    rw [family, Family.parts?] at found
    rw [stored_of_ne (by decide)]
    split at found
    · rename_i input _ output _ inputs outputs
      cases found
      simp only [acceptUnchecked, Act.ends_get_bind, inputs, outputs]
    · cases found

/-- A network is accepted if it is of the family and contradicts no binding, and gets the storage of
the family. -/
theorem accept_iff : accept.Ends (d, network) (.ok ()) (d', network') ↔
    d.Takes network d' ∧
      network' = { network with inputs := network.inputs.map d.family.stored } := by
  cases found : d.family.parts? network with
  | none =>
    obtain ⟨f, ends⟩ := accept_of_foreign found
    apply iff_of_false
    · intro ok
      cases ends.result.symm.trans ok.result
    · simp [Takes, found]
  | some parts =>
    rw [accept_of_parts found, ends_setBindings_iff]
    simp [Takes, found, and_assoc]

/-- Two inputs that look the same to a family. -/
structure Alike (family : Family) (info info' : TensorInfo) : Prop where
  name : info'.name = info.name
  rank : info'.rank = info.rank
  room : family = .plate → info.rank ≠ 4 → holdsSequence info' = holdsSequence info

theorem plateInputs_alike {image sequence : TensorInfo}
    (alike : List.Forall₂ (Alike .plate) network.inputs network'.inputs)
    (found : plateInputs? network = some (image, sequence)) :
    ∃ image' sequence', plateInputs? network' = some (image', sequence') ∧
      Alike .plate image image' ∧ Alike .plate sequence sequence' ∧ sequence.rank ≠ 4 := by
  obtain ⟨inputs, rank, other⟩ := plateInputs_eq_some_iff.1 found
  have pair {image' sequence' : TensorInfo} (images : Alike .plate image image')
      (sequences : Alike .plate sequence sequence')
      (inputs' : network'.inputs = [image', sequence'] ∨ network'.inputs = [sequence', image']) :
      plateInputs? network' = some (image', sequence') :=
    plateInputs_eq_some_iff.2 ⟨inputs', images.rank.trans rank, sequences.rank.symm ▸ other⟩
  rcases inputs with inputs | inputs
  · simp only [inputs, List.forall₂_cons_left_iff, List.forall₂_nil_left_iff] at alike
    obtain ⟨image', _, images, ⟨sequence', _, sequences, rfl, rfl⟩, inputs'⟩ := alike
    exact ⟨image', sequence', pair images sequences (.inl inputs'), images, sequences, other⟩
  · simp only [inputs, List.forall₂_cons_left_iff, List.forall₂_nil_left_iff] at alike
    obtain ⟨sequence', _, sequences, ⟨image', _, images, rfl, rfl⟩, inputs'⟩ := alike
    exact ⟨image', sequence', pair images sequences (.inr inputs'), images, sequences, other⟩

theorem parts_alike {family : Family} {parts : List (Role × String)}
    (alike : List.Forall₂ (Alike family) network.inputs network'.inputs)
    (outputs : network'.outputs = network.outputs)
    (found : family.parts? network = some parts) : family.parts? network' = some parts := by
  cases family with
  | plate =>
    rw [Family.parts?] at found ⊢
    rw [outputs]
    split at found
    · rename_i image sequence output pair outputs
      obtain ⟨image', sequence', pair', images, sequences, other⟩ := plateInputs_alike alike pair
      rw [pair', outputs]
      dsimp only
      rw [sequences.room rfl other, images.name, sequences.name]
      exact found
    · cases found
  | single =>
    rw [Family.parts?] at found ⊢
    rw [outputs]
    split at found
    · rename_i input output inputs outputs
      simp only [inputs, List.forall₂_cons_left_iff, List.forall₂_nil_left_iff] at alike
      obtain ⟨input', _, first, rfl, inputs'⟩ := alike
      rw [inputs', outputs]
      dsimp only
      rw [first.name, first.rank]
      exact found
    · cases found
  | unchecked =>
    rw [Family.parts?] at found ⊢
    rw [outputs]
    split at found
    · rename_i input rest output others inputs outputs
      rw [inputs, List.forall₂_cons_left_iff] at alike
      obtain ⟨input', _, first, -, inputs'⟩ := alike
      rw [inputs', outputs]
      dsimp only
      rw [first.name]
      exact found
    · cases found

theorem Takes.alike (takes : d.Takes network d')
    (alike : List.Forall₂ (Alike d.family) network.inputs network'.inputs)
    (outputs : network'.outputs = network.outputs) : d.Takes network' d' := by
  obtain ⟨parts, found, agrees, same⟩ := takes
  exact ⟨parts, parts_alike alike outputs found, agrees, same⟩

theorem Takes.reads (takes : d.Takes network d') (plates : d.family = .plate) :
    ∃ names, network.ReadsPlates names ∧ d'.BoundTo (some names) := by
  obtain ⟨names, reads, -, bound⟩ := accepted_plate plates (accept_iff.2 ⟨takes, rfl⟩)
  exact ⟨names, reads, bound⟩

theorem Takes.room (takes : d.Takes network d') (plates : d.family = .plate) {info : TensorInfo}
    (member : info ∈ network.inputs) (other : info.rank ≠ 4) : holdsSequence info = true := by
  obtain ⟨names, reads, -⟩ := takes.reads plates
  obtain ⟨image, sequence, inputs, rank, -, room, -, -⟩ := reads.inputs
  have either : info = image ∨ info = sequence := by
    obtain inputs | inputs := inputs
    · simpa [inputs] using member
    · simpa [inputs, or_comm] using member
  rcases either with rfl | rfl
  · exact absurd rank other
  · exact holdsSequence_iff.2 room

theorem Takes.rank_of_input (takes : d.Takes network d') (plates : d.family = .plate)
    (distinct : network.inputNames.Nodup) {info : TensorInfo} (member : info ∈ network.inputs)
    (here : some info.name = d'.input) : info.rank = 4 := by
  obtain ⟨names, reads, bound⟩ := takes.reads plates
  have input : d'.input = some (names .input) := bound.bound .input
  exact reads.rank_of_input distinct member (Option.some.inj (here.trans input))

end Descriptor

end FrameBatch
