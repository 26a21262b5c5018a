import FrameBatch.Proofs.Act.Upholds
import FrameBatch.Proofs.Descriptor.Bound
import FrameBatch.Proofs.Descriptor.Refused

namespace FrameBatch.Descriptor

/-- A check of networks that binds parts for good, changes at most how inputs are stored, and asks
nothing of a runtime. -/
structure Patching (fit : Act Fitting Unit) : Prop where
  keeps (s : Fitting) : s.1.Extends (fit s).state.1
  tensors (s : Fitting) : (fit s).state.2.inputs.map (fun info => (info.name, info.shape)) =
    s.2.inputs.map fun info => (info.name, info.shape)
  types (s : Fitting) (known : ∀ info ∈ s.2.inputs, ∃ type, info.elementType = .known type) :
    ∀ info ∈ (fit s).state.2.inputs, ∃ type, info.elementType = .known type
  silent (s : Fitting) (c : Call) : .call c ∉ (fit s).trail

theorem Patching.keeps_tensors {fit : Act Fitting Unit} (patching : Patching fit)
    {d₀ d : Descriptor} {network patched : Network}
    (known : ∀ info ∈ network.inputs, ∃ type, info.elementType = .known type)
    {r : Except Fault Unit} (ends : fit.Ends (d₀, network) r (d, patched)) :
    patched.inputs.map (fun info => (info.name, info.shape)) =
        network.inputs.map (fun info => (info.name, info.shape)) ∧
      ∀ info ∈ patched.inputs, ∃ type, info.elementType = .known type := by
  have tensors := patching.tensors (d₀, network)
  have types := patching.types (d₀, network) known
  rw [ends.state] at tensors types
  exact ⟨tensors, types⟩

/-- The network differs from an earlier one in how inputs are stored at most. -/
structure Stores (network : Network) (s : Fitting) : Prop where
  tensors : s.2.inputs.map (fun info => (info.name, info.shape)) =
    network.inputs.map fun info => (info.name, info.shape)
  types (known : ∀ info ∈ network.inputs, ∃ type, info.elementType = .known type) :
    ∀ info ∈ s.2.inputs, ∃ type, info.elementType = .known type

variable {network : Network}

theorem upholds_setBindings (bindings : List (Role × String)) : (setBindings bindings).Upholds
    (Stores network) (fun event => ∀ c, event ≠ .call c) fun _ => True := by
  refine .bind .get fun (d, shown) stores => ?_
  cases conflict : d.conflict? bindings with
  | some contradiction =>
    simp only [conflict]
    exact .fail
  | none =>
    simp only [conflict]
    exact .bind (.set ⟨stores.tensors, stores.types⟩) fun _ _ => .note nofun

theorem Stores.patchPlate {s : Fitting} (stores : Stores network s) :
    Stores network (s.1, patchPlate s.2) where
  tensors := (patchPlate_keeps s.2).2.trans stores.tensors
  types known := by
    intro info member
    obtain ⟨old, inside, rfl⟩ := List.mem_map.1 member
    by_cases image : old.rank = 4
    · exact ⟨.u8, by rw [if_pos image]; rfl⟩
    · rw [if_neg image]
      exact stores.types known old inside

theorem upholds_acceptPlate : acceptPlate.Upholds (Stores network)
    (fun event => ∀ c, event ≠ .call c) fun _ => True := by
  refine .bind .get fun (d, shown) stores => .bind (.note nofun) fun _ _ => ?_
  by_cases count : shown.inputs.length ≠ 2
  · simp only [if_pos count]
    exact .fail_bind
  · simp only [if_neg count]
    split
    · exact .fail
    · rename_i image sequence _
      by_cases short : (!holdsSequence sequence) = true
      · simp only [if_pos short]
        exact .fail_bind
      · simp only [if_neg short]
        refine .bind (.note nofun) fun _ _ => ?_
        split
        · exact .bind (.set stores.patchPlate) fun _ _ => upholds_setBindings _
        · exact .fail

theorem upholds_accept : accept.Upholds (Stores network) (fun event => ∀ c, event ≠ .call c)
    fun _ => True := by
  refine .bind .get fun s _ => ?_
  split
  · exact upholds_acceptPlate
  · refine .bind .get fun (_, shown) _ => ?_
    dsimp only
    split
    · split
      · exact upholds_setBindings _
      · exact .fail
    · exact .fail
    · exact .fail
  · refine .bind .get fun (_, shown) _ => ?_
    dsimp only
    split
    · exact upholds_setBindings _
    · exact .fail

theorem patching_accept : Patching accept where
  keeps s := (accept_cases (accept.ends_self s)).1.keeps
  tensors s := (upholds_accept.state (s := s) ⟨rfl, id⟩).tensors
  types s := (upholds_accept.state (s := s) ⟨rfl, id⟩).types
  silent s c member := upholds_accept.trail (s := s) (I := Stores s.2) ⟨rfl, id⟩ _ member c rfl

variable {d₀ d : Descriptor} {names : Role → String} {patched : Network}

theorem network_of_setBindings {bindings : List (Role × String)} {r : Except Fault Unit}
    (h : (setBindings bindings).Ends (d₀, network) r (d, patched)) : patched = network := by
  rw [setBindings, Act.ends_get_bind] at h
  cases conflict : d₀.conflict? bindings with
  | some contradiction =>
    simp only [conflict] at h
    exact congrArg Prod.snd (Act.ends_fail.1 h).2
  | none =>
    simp only [conflict, Act.ends_set_bind] at h
    exact congrArg Prod.snd (Act.ends_log.1 h).2

theorem accepted_plate (plates : d₀.family = .plate)
    (accepts : accept.Ends (d₀, network) (.ok ()) (d, patched)) :
    ∃ names, network.ReadsPlates names ∧ patched = patchPlate network ∧
      d.BoundTo (some names) := by
  cases accept_plate_cases plates accepts with
  | @reads names _ _ reads binds =>
    obtain ⟨grows, parts⟩ := setBindings_cases binds
    refine ⟨names, reads, network_of_setBindings binds, grows.family.trans plates, fun role => ?_⟩
    obtain ⟨name, member, bound⟩ := parts rfl role ⟨names role, mem_listed.2 rfl⟩
    rw [bound, mem_listed.1 member]
    rfl

theorem accepts_named (before : d.BoundTo (some names)) (reads : network.ReadsPlates names) :
    ∃ again, accept.Ends (d, network) (.ok ()) (d, again) := by
  have ends := accept.ends_self (d, network)
  have ok := (accept_judged before ends).accepted_iff.2 ⟨names, reads, fun old same => by
    cases same
    rfl⟩
  have kept := accept_of_bound (by rw [before.isBound]; rfl) ends
  exact ⟨(accept (d, network)).state.2, ok, Prod.ext kept rfl⟩

end FrameBatch.Descriptor

namespace FrameBatch.Network

variable {network : Network} {names : Role → String}

theorem ReadsPlates.map (reads : network.ReadsPlates names) {change : TensorInfo → TensorInfo}
    (name : ∀ info, (change info).name = info.name) (rank : ∀ info, (change info).rank = info.rank)
    (shape : ∀ info n rest, info.shape = some n :: rest → (change info).shape = info.shape) :
    ({ network with inputs := network.inputs.map change } : Network).ReadsPlates names where
  inputs := by
    obtain ⟨image, sequence, inputs, image_rank, sequence_rank, ⟨rest, room⟩, input, seq⟩ :=
      reads.inputs
    refine ⟨change image, change sequence, ?_, (rank _).trans image_rank,
      (rank _).symm ▸ sequence_rank, ⟨rest, (shape _ _ _ room).trans room⟩,
      input.trans (name _).symm, seq.trans (name _).symm⟩
    rcases inputs with inputs | inputs
    · exact .inl (by rw [inputs]; rfl)
    · exact .inr (by rw [inputs]; rfl)
  output := reads.output

theorem ReadsPlates.patchPlate (reads : network.ReadsPlates names) :
    (Descriptor.patchPlate network).ReadsPlates names := by
  apply reads.map
  · intro info
    split
    · rfl
    · rfl
  · intro info
    split
    · rfl
    · rfl
  · intro info _ _ _
    split
    · rfl
    · rfl

theorem ReadsPlates.rank_of_input (reads : network.ReadsPlates names)
    (distinct : network.inputNames.Nodup) {info : TensorInfo} (member : info ∈ network.inputs)
    (here : info.name = names .input) : info.rank = 4 := by
  obtain ⟨image, sequence, inputs, rank, -, -, input, -⟩ := reads.inputs
  have apart : image.name ≠ sequence.name := by
    obtain inputs | inputs := inputs
    · simpa [inputNames, inputs] using distinct
    · simpa [inputNames, inputs, eq_comm] using distinct
  have either : info = image ∨ info = sequence := by
    obtain inputs | inputs := inputs
    · simpa [inputs] using member
    · simpa [inputs, or_comm] using member
  rcases either with rfl | rfl
  · exact rank
  · exact absurd (input.symm.trans here.symm) apart

end FrameBatch.Network
