import FrameBatch.Proofs.Act.Fails
import FrameBatch.Proofs.Descriptor.Accept

namespace FrameBatch

/-- A network for licence plates, and the names of the tensors that play the parts. -/
structure Network.ReadsPlates (network : Network) (names : Role → String) : Prop where
  inputs : ∃ image sequence,
    (network.inputs = [image, sequence] ∨ network.inputs = [sequence, image]) ∧
      image.rank = 4 ∧ sequence.rank ≠ 4 ∧ (∃ rest, sequence.shape = some 88 :: rest) ∧
      names .input = image.name ∧ names .sequence = sequence.name
  output : ∃ output, network.outputs = [output] ∧ names .output = output.name

namespace Descriptor

theorem plateInputs_eq_some_iff {network : Network} {image sequence : TensorInfo} :
    plateInputs? network = some (image, sequence) ↔
      (network.inputs = [image, sequence] ∨ network.inputs = [sequence, image]) ∧
        image.rank = 4 ∧ sequence.rank ≠ 4 := by
  unfold plateInputs?
  split <;> grind

theorem holdsSequence_iff {info : TensorInfo} :
    holdsSequence info = true ↔ ∃ rest, info.shape = some 88 :: rest := by
  rw [holdsSequence]
  cases info.shape with
  | nil => simp
  | cons dim rest => simp [Plate.maxSequence]

theorem readsPlates_unique {network : Network} {names names' : Role → String}
    (reads : network.ReadsPlates names) (reads' : network.ReadsPlates names') : names = names' := by
  obtain ⟨image, sequence, inputs, rank, other, _, input_eq, sequence_eq⟩ := reads.inputs
  obtain ⟨image', sequence', inputs', rank', other', _, input_eq', sequence_eq'⟩ := reads'.inputs
  obtain ⟨output, outputs, output_eq⟩ := reads.output
  obtain ⟨output', outputs', output_eq'⟩ := reads'.output
  have found := plateInputs_eq_some_iff.2 ⟨inputs, rank, other⟩
  have found' := plateInputs_eq_some_iff.2 ⟨inputs', rank', other'⟩
  cases found.symm.trans found'
  cases outputs.symm.trans outputs'
  funext role
  cases role with
  | input => rw [input_eq, input_eq']
  | sequence => rw [sequence_eq, sequence_eq']
  | output => rw [output_eq, output_eq']

/-- A descriptor for licence plates whose parts all have names, or none of them has one. -/
structure BoundTo (d : Descriptor) (known : Option (Role → String)) : Prop where
  family : d.family = .plate
  bound : ∀ role, d.bound role = known.map (· role)

def called (image sequence output : TensorInfo) : Role → String
  | .input => image.name
  | .sequence => sequence.name
  | .output => output.name

def listed (names : Role → String) : List (Role × String) :=
  [(.input, names .input), (.sequence, names .sequence), (.output, names .output)]

theorem mem_listed {names : Role → String} {role : Role} {name : String} :
    (role, name) ∈ listed names ↔ name = names role := by
  cases role <;> simp [listed]

theorem BoundTo.foldl_bind {d : Descriptor} {known : Option (Role → String)}
    (before : d.BoundTo known) (names : Role → String) :
    ((listed names).foldl (fun d (role, name) => d.bind role name) d).BoundTo (some names) where
  family := (family_foldl _ d).trans before.family
  bound role := by
    obtain ⟨name, member, bound⟩ := bound_foldl_of_mem ⟨names role, mem_listed.2 rfl⟩ d
    rw [bound, mem_listed.1 member, Option.map_some]

theorem BoundTo.conflict_eq_none_iff {d : Descriptor} {known : Option (Role → String)}
    (before : d.BoundTo known) {names : Role → String} :
    d.conflict? (listed names) = none ↔ ∀ old ∈ known, old = names := by
  constructor
  · intro agrees old given
    funext role
    have bound : d.bound role = some (old role) := by rw [before.bound, given, Option.map_some]
    exact (bound_of_no_conflict agrees (mem_listed.2 rfl) bound).symm
  · intro same
    simp only [conflict?, List.findSome?_eq_none_iff]
    rintro ⟨role, name⟩ member
    cases mem_listed.1 member
    rw [before.bound]
    cases known with
    | none => rfl
    | some old => simp [same old rfl]

/-- What becomes of a network that is shown to a descriptor whose parts have these names: it is
accepted if it gives the parts the same names, and refused with the descriptor as it was if not. -/
inductive Judged (d : Descriptor) (known : Option (Role → String)) (network : Network) :
    Except Fault Unit → Descriptor → Prop where
  | accepted {names d'} (reads : network.ReadsPlates names) (agrees : ∀ old ∈ known, old = names)
      (bound : d'.BoundTo (some names)) : Judged d known network (.ok ()) d'
  | refused {f} (value : f.kind = .value)
      (unfit : ¬ ∃ names, network.ReadsPlates names ∧ ∀ old ∈ known, old = names) :
      Judged d known network (.error f) d

theorem Judged.accepted_iff {d d' : Descriptor} {known : Option (Role → String)} {network : Network}
    {r : Except Fault Unit} (h : Judged d known network r d') :
    r = .ok () ↔ ∃ names, network.ReadsPlates names ∧ ∀ old ∈ known, old = names := by
  cases h with
  | @accepted names _ reads agrees _ => exact iff_of_true rfl ⟨names, reads, agrees⟩
  | refused _ unfit => exact iff_of_false nofun unfit

theorem Judged.refused_of_unfit {d d' : Descriptor} {known : Option (Role → String)}
    {network : Network} {r : Except Fault Unit} (h : Judged d known network r d')
    (unfit : ¬ ∃ names, network.ReadsPlates names ∧ ∀ old ∈ known, old = names) :
    ∃ f, r = .error f ∧ f.kind = .value := by
  cases h with
  | @accepted names _ reads agrees _ => exact absurd ⟨names, reads, agrees⟩ unfit
  | @refused f value _ => exact ⟨f, rfl, value⟩

theorem setBindings_judged {d d' : Descriptor} {known : Option (Role → String)}
    (before : d.BoundTo known) {network kept kept' : Network} {names : Role → String}
    (reads : network.ReadsPlates names) {r : Except Fault Unit}
    (h : (setBindings (listed names)).Ends (d, kept) r (d', kept')) :
    Judged d known network r d' := by
  rw [setBindings, Act.ends_get_bind] at h
  cases conflict : d.conflict? (listed names) with
  | some contradiction =>
    simp only [conflict] at h
    obtain ⟨rfl, same⟩ := Act.ends_fail.1 h
    cases same
    refine .refused rfl ?_
    rintro ⟨names', reads', agrees⟩
    cases readsPlates_unique reads reads'
    rw [before.conflict_eq_none_iff.2 agrees] at conflict
    cases conflict
  | none =>
    simp only [conflict, Act.ends_set_bind] at h
    obtain ⟨rfl, same⟩ := Act.ends_log.1 h
    cases same
    exact .accepted reads (before.conflict_eq_none_iff.1 conflict) (before.foldl_bind names)

/-- How a check of a network for licence plates ends: it is refused for its shapes and left as it
is, or it is given the storage of such networks and then bound by its names. -/
inductive PlateCheck (d : Descriptor) (network : Network) : Except Fault Unit → Fitting → Prop where
  | foreign {cause : Refusal} (value : cause.kind = .value)
    (other : ∀ names, ¬ network.ReadsPlates names) :
    PlateCheck d network (.error (.refused cause)) (d, network)
  | reads {names r s} (reads : network.ReadsPlates names)
    (binds : (setBindings (listed names)).Ends (d, patchPlate network) r s) :
    PlateCheck d network r s

theorem accept_plate_cases {d : Descriptor} (plates : d.family = .plate) {network : Network}
    {r : Except Fault Unit} {s : Fitting} (h : accept.Ends (d, network) r s) :
    PlateCheck d network r s := by
  have refused {cause : Refusal} (value : cause.kind = .value)
      (other : ∀ names, ¬ network.ReadsPlates names)
      (h : r = .error (.refused cause) ∧ s = (d, network)) : PlateCheck d network r s := by
    obtain ⟨rfl, rfl⟩ := h
    exact .foreign value other
  rw [accept, Act.ends_get_bind] at h
  simp only [plates, acceptPlate, Act.ends_get_bind, Act.ends_log_bind] at h
  split at h
  · rename_i count
    refine refused rfl (fun names reads => ?_) (Act.ends_fail_bind.1 h)
    obtain ⟨image, sequence, inputs | inputs, _⟩ := reads.inputs <;> simp [inputs] at count
  · split at h
    · rename_i none
      refine refused rfl (fun names reads => ?_) (Act.ends_fail.1 h)
      obtain ⟨image, sequence, inputs, rank, other, _⟩ := reads.inputs
      rw [plateInputs_eq_some_iff.2 ⟨inputs, rank, other⟩] at none
      cases none
    · rename_i image sequence found
      obtain ⟨inputs, rank, other⟩ := plateInputs_eq_some_iff.1 found
      split at h
      · rename_i short
        refine refused rfl (fun names reads => ?_) (Act.ends_fail_bind.1 h)
        obtain ⟨image', sequence', inputs', rank', other', room, _⟩ := reads.inputs
        cases found.symm.trans (plateInputs_eq_some_iff.2 ⟨inputs', rank', other'⟩)
        rw [holdsSequence_iff.2 room] at short
        cases short
      · rename_i room
        rw [Bool.not_eq_true, Bool.not_eq_false', holdsSequence_iff] at room
        rw [Act.ends_log_bind] at h
        split at h
        · rename_i output outputs
          have reads : network.ReadsPlates (called image sequence output) :=
            ⟨⟨image, sequence, inputs, rank, other, room, rfl, rfl⟩, ⟨output, outputs, rfl⟩⟩
          exact .reads reads (Act.ends_set_bind.1 h)
        · rename_i several
          refine refused rfl (fun names reads => ?_) (Act.ends_fail.1 h)
          obtain ⟨output, outputs, _⟩ := reads.output
          exact several output outputs

theorem accept_judged {d d' : Descriptor} {known : Option (Role → String)}
    (before : d.BoundTo known) {network network' : Network} {r : Except Fault Unit}
    (h : accept.Ends (d, network) r (d', network')) : Judged d known network r d' := by
  cases accept_plate_cases before.family h with
  | foreign value other => exact .refused value fun ⟨names, reads, _⟩ => other names reads
  | reads reads binds => exact setBindings_judged before reads binds

def after (d : Descriptor) (networks : List Network) : Descriptor :=
  networks.foldl (fun d network => (accept (d, network)).state.1) d

def firstAccepted? (d : Descriptor) : List Network → Option Network
  | [] => none
  | network :: rest =>
    match accept (d, network) with
    | ⟨.ok _, _, _⟩ => some network
    | ⟨.error _, (d', _), _⟩ => d'.firstAccepted? rest

theorem accept_judged_state {d : Descriptor} {known : Option (Role → String)}
    (before : d.BoundTo known) (network : Network) :
    Judged d known network (accept (d, network)).result (accept (d, network)).state.1 :=
  accept_judged before (accept.ends_self (d, network))

theorem BoundTo.after {d : Descriptor} {names : Role → String} (before : d.BoundTo (some names))
    (networks : List Network) : (d.after networks).BoundTo (some names) := by
  induction networks generalizing d with
  | nil => exact before
  | cons network rest ih =>
    have judged := accept_judged_state before network
    have kept : (accept (d, network)).state.1.BoundTo (some names) := by
      generalize accept (d, network) = outcome at judged ⊢
      rcases outcome with ⟨r, ⟨d', network'⟩, trail⟩
      cases judged with
      | accepted _ agrees bound => exact agrees names rfl ▸ bound
      | refused => exact before
    exact ih kept

theorem BoundTo.first {d : Descriptor} (before : d.BoundTo none) (networks : List Network) :
    (d.firstAccepted? networks = none ∧ (d.after networks).BoundTo none) ∨
      ∃ first names, d.firstAccepted? networks = some first ∧ first.ReadsPlates names ∧
        (d.after networks).BoundTo (some names) := by
  induction networks generalizing d with
  | nil => exact .inl ⟨rfl, before⟩
  | cons network rest ih =>
    have judged := accept_judged_state before network
    rw [firstAccepted?, Descriptor.after, List.foldl_cons]
    generalize accept (d, network) = outcome at judged
    rcases outcome with ⟨r, ⟨d', network'⟩, trail⟩
    cases judged with
    | @accepted names _ reads _ bound =>
      exact .inr ⟨network, names, rfl, reads, bound.after rest⟩
    | refused => exact ih before

theorem BoundTo.isBound {d : Descriptor} {known : Option (Role → String)} (h : d.BoundTo known) :
    d.isBound = known.isSome := by
  cases known <;> simp [Descriptor.isBound, inputRoles, h.family, h.bound]

theorem BoundTo.inputBindings {d : Descriptor} {known : Option (Role → String)}
    (h : d.BoundTo known) :
    d.inputBindings = known.elim [] fun names =>
      [(.input, names .input), (.sequence, names .sequence)] := by
  cases known <;> simp [Descriptor.inputBindings, bindings, inputRoles, h.family, h.bound]

theorem BoundTo.outputBindings {d : Descriptor} {known : Option (Role → String)}
    (h : d.BoundTo known) :
    d.outputBindings = known.elim [] fun names => [(.output, names .output)] := by
  cases known <;> simp [Descriptor.outputBindings, bindings, h.bound]

theorem boundTo_create {location maxBatch : Value} {category : Option String} {d : Descriptor}
    (fresh : create (some .plate) location maxBatch category = .ok d) : d.BoundTo none := by
  obtain ⟨low, _, fresh⟩ := bind_ok fresh
  cases low with
  | true => cases fresh
  | false =>
    obtain ⟨size, _, fresh⟩ := bind_ok fresh
    cases fresh
    exact ⟨rfl, fun role => by cases role <;> rfl⟩

/-- A new descriptor for licence plates, shown any networks: it is bound to the names of the first
network that it accepted, or to none before that, and the next network is accepted exactly if it is
one for licence plates with these names. All others are refused for their values. -/
theorem first_accepted_decides {location maxBatch : Value} {category : Option String}
    {d : Descriptor} (fresh : create (some .plate) location maxBatch category = .ok d)
    (earlier : List Network) (network : Network) :
    let now := d.after earlier
    let first := d.firstAccepted? earlier
    let fits := ∃ names, network.ReadsPlates names ∧ ∀ old ∈ first, old.ReadsPlates names
    ((accept (now, network)).result = .ok () ↔ fits) ∧
      (¬ fits → ∃ f, (accept (now, network)).result = .error f ∧ f.kind = .value) ∧
      ((first = none ∧ (∀ role, now.bound role = none) ∧ now.isBound = false ∧
          now.inputBindings = [] ∧ now.outputBindings = []) ∨
        ∃ old names, first = some old ∧ old.ReadsPlates names ∧
          (∀ role, now.bound role = some (names role)) ∧ now.isBound = true ∧
          now.inputBindings = [(.input, names .input), (.sequence, names .sequence)] ∧
          now.outputBindings = [(.output, names .output)]) := by
  intro now first fits
  obtain ⟨known, bound, same, bindings⟩ : ∃ known : Option (Role → String), now.BoundTo known ∧
      (fits ↔ ∃ names, network.ReadsPlates names ∧ ∀ old ∈ known, old = names) ∧
      ((first = none ∧ known = none) ∨
        ∃ old names, first = some old ∧ old.ReadsPlates names ∧ known = some names) := by
    rcases (boundTo_create fresh).first earlier with
      ⟨none, bound⟩ | ⟨old, names, some, reads, bound⟩
    · refine ⟨.none, bound, ?_, .inl ⟨none, rfl⟩⟩
      simp only [fits, first, none, Option.not_mem_none, false_implies, implies_true]
    · refine ⟨.some names, bound, ?_, .inr ⟨old, names, some, reads, rfl⟩⟩
      simp only [fits, first, some, Option.mem_some_iff, forall_eq']
      exact exists_congr fun names' => and_congr_right fun _ =>
        ⟨readsPlates_unique reads, fun agrees => agrees ▸ reads⟩
  have judged := accept_judged_state bound network
  refine ⟨judged.accepted_iff.trans same.symm,
    fun unfit => judged.refused_of_unfit (unfit ∘ same.2), ?_⟩
  rcases bindings with ⟨none, rfl⟩ | ⟨old, names, some, reads, rfl⟩
  · exact .inl ⟨none, bound.bound, bound.isBound, bound.inputBindings, bound.outputBindings⟩
  · exact .inr ⟨old, names, some, reads, bound.bound, bound.isBound, bound.inputBindings,
      bound.outputBindings⟩

def sharedPlates : Descriptor where
  family := .plate
  category := Family.plate.category
  location := "plates.onnx"
  maxBatch := 2

def plateNetwork (output : String) : Network where
  inputs := [⟨"data", [none, some 3, some 24, some 94], .known .f32, none⟩,
    ⟨"seq", [some 88, some 1], .known .f32, none⟩]
  outputs := [⟨output, [none, some 88], .known .f32, none⟩]

/-- A descriptor that refused two networks and took the one between them takes that one again, with
its inputs in the other order. -/
theorem decided_sharedPlates :
    create (some .plate) (.text "plates.onnx") (.int 2) none = .ok sharedPlates ∧
      sharedPlates.firstAccepted? [{}, plateNetwork "prob", plateNetwork "decode"]
        = some (plateNetwork "prob") ∧
      (accept (sharedPlates.after [{}, plateNetwork "prob", plateNetwork "decode"],
        { plateNetwork "prob" with inputs := (plateNetwork "prob").inputs.reverse })).result
        = .ok () := by
  have first : sharedPlates.firstAccepted? [{}, plateNetwork "prob", plateNetwork "decode"]
      = some (plateNetwork "prob") := by decide +kernel
  have fresh : create (some .plate) (.text "plates.onnx") (.int 2) none = .ok sharedPlates := rfl
  refine ⟨fresh, first, (first_accepted_decides fresh _ _).1.2 ⟨fun
    | .input => "data"
    | .sequence => "seq"
    | .output => "prob", ?_, ?_⟩⟩
  · exact ⟨⟨_, _, .inr rfl, rfl, by decide, ⟨_, rfl⟩, rfl, rfl⟩, ⟨_, rfl, rfl⟩⟩
  · rintro old member
    rw [first, Option.mem_some_iff] at member
    subst member
    exact ⟨⟨_, _, .inl rfl, rfl, by decide, ⟨_, rfl⟩, rfl, rfl⟩, ⟨_, rfl, rfl⟩⟩

end Descriptor

end FrameBatch
