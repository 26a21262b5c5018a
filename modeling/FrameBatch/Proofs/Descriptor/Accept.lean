import FrameBatch.Descriptor.Accept
import FrameBatch.Proofs.Act.Ends

namespace FrameBatch

namespace Network

def inputNames (network : Network) : List String := network.inputs.map (·.name)

end Network

namespace Descriptor

def Extends (d d' : Descriptor) : Prop :=
  ∀ role name, d.bound role = some name → d'.bound role = some name

theorem Extends.refl (d : Descriptor) : d.Extends d := fun _ _ bound => bound

theorem bound_bind_self (d : Descriptor) (role : Role) (name : String) :
    (d.bind role name).bound role = some name := by
  cases role <;> rfl

theorem bound_bind_of_ne {role other : Role} (different : other ≠ role) (d : Descriptor)
    (name : String) : (d.bind role name).bound other = d.bound other := by
  cases role <;> cases other <;> first | rfl | exact absurd rfl different

theorem bound_of_no_conflict {d : Descriptor} {bindings : List (Role × String)}
    (none : d.conflict? bindings = none) {role : Role} {name current : String}
    (member : (role, name) ∈ bindings) (bound : d.bound role = some current) : name = current := by
  simp only [conflict?, List.findSome?_eq_none_iff] at none
  have agrees := none _ member
  simp only [bound] at agrees
  split at agrees
  · rename_i same
    exact (eq_of_beq same).symm
  · cases agrees

theorem bound_foldl {bindings : List (Role × String)} {role : Role} {current : String}
    (agrees : ∀ name, (role, name) ∈ bindings → name = current) {d : Descriptor}
    (bound : d.bound role = some current) :
    (bindings.foldl (fun d (role, name) => d.bind role name) d).bound role = some current := by
  induction bindings generalizing d with
  | nil => exact bound
  | cons binding rest ih =>
    obtain ⟨other, name⟩ := binding
    refine ih (fun name member => agrees name (List.mem_cons_of_mem _ member)) ?_
    by_cases same : role = other
    · subst same
      rw [bound_bind_self, agrees name List.mem_cons_self]
    · rw [bound_bind_of_ne same, bound]

theorem bound_foldl_of_mem {bindings : List (Role × String)} {role : Role}
    (named : ∃ name, (role, name) ∈ bindings) (d : Descriptor) :
    ∃ name, (role, name) ∈ bindings ∧
      (bindings.foldl (fun d (role, name) => d.bind role name) d).bound role = some name := by
  induction bindings generalizing d with
  | nil => simp at named
  | cons binding rest ih =>
    obtain ⟨other, current⟩ := binding
    by_cases later : ∃ name, (role, name) ∈ rest
    · obtain ⟨name, member, bound⟩ := ih later (d.bind other current)
      exact ⟨name, List.mem_cons_of_mem _ member, bound⟩
    · obtain ⟨name, member⟩ := named
      rcases List.mem_cons.1 member with here | member
      · cases here
        have agrees (name : String) (member : (role, name) ∈ rest) : name = current :=
          absurd ⟨name, member⟩ later
        exact ⟨current, List.mem_cons_self, bound_foldl agrees (bound_bind_self d role current)⟩
      · exact absurd ⟨name, member⟩ later

theorem family_foldl (bindings : List (Role × String)) (d : Descriptor) :
    (bindings.foldl (fun d (role, name) => d.bind role name) d).family = d.family := by
  induction bindings generalizing d with
  | nil => rfl
  | cons binding rest ih =>
    obtain ⟨role, name⟩ := binding
    refine (ih _).trans ?_
    cases role <;> rfl

/-- More parts may be bound than before, to tensors of the same kind of network. -/
structure Grows (d d' : Descriptor) : Prop where
  keeps : d.Extends d'
  family : d'.family = d.family

theorem Grows.refl (d : Descriptor) : d.Grows d := ⟨.refl d, rfl⟩

theorem setBindings_cases {bindings : List (Role × String)} {d d' : Descriptor}
    {network network' : Network} {r : Except Fault Unit}
    (h : (setBindings bindings).Ends (d, network) r (d', network')) :
    d.Grows d' ∧ (r = .ok () → ∀ role, (∃ name, (role, name) ∈ bindings) →
      ∃ name, (role, name) ∈ bindings ∧ d'.bound role = some name) := by
  rw [setBindings, Act.ends_get_bind] at h
  cases conflict : d.conflict? bindings with
  | some contradiction =>
    simp only [conflict] at h
    obtain ⟨rfl, same⟩ := Act.ends_fail.1 h
    cases same
    exact ⟨.refl d, by simp⟩
  | none =>
    simp only [conflict, Act.ends_set_bind] at h
    obtain ⟨_, same⟩ := Act.ends_log.1 h
    cases same
    refine ⟨⟨fun role name bound => ?_, family_foldl bindings d⟩, fun _ role named => ?_⟩
    · exact bound_foldl (fun other member => bound_of_no_conflict conflict member bound) bound
    · exact bound_foldl_of_mem named d

/-- The input and the output are bound, and the sequence input if there is one. Inputs are bound to
inputs of the network, and to different ones if their names differ. -/
structure Plays (d : Descriptor) (network : Network) : Prop where
  input : ∃ name ∈ network.inputNames, d.input = some name
  output : ∃ name, d.output = some name
  sequence : d.family = .plate → ∃ name ∈ network.inputNames, d.sequence = some name
  apart : d.family = .plate → network.inputNames.Nodup → d.input ≠ d.sequence

theorem Plays.grows {d d' : Descriptor} {network : Network} (plays : d.Plays network)
    (grows : d.Grows d') : d'.Plays network where
  input := by
    obtain ⟨name, member, bound⟩ := plays.input
    exact ⟨name, member, grows.keeps .input name bound⟩
  output := by
    obtain ⟨name, bound⟩ := plays.output
    exact ⟨name, grows.keeps .output name bound⟩
  sequence plate := by
    obtain ⟨name, member, bound⟩ := plays.sequence (grows.family ▸ plate)
    exact ⟨name, member, grows.keeps .sequence name bound⟩
  apart plate distinct := by
    have plate' : d.family = .plate := grows.family ▸ plate
    obtain ⟨input, _, bound⟩ := plays.input
    obtain ⟨sequence, _, bound'⟩ := plays.sequence plate'
    have apart := plays.apart plate' distinct
    rw [bound, bound'] at apart
    have bound : d'.input = some input := grows.keeps .input input bound
    have bound' : d'.sequence = some sequence := grows.keeps .sequence sequence bound'
    rwa [bound, bound']

theorem plateInputs_cases {network : Network} {image sequence : TensorInfo}
    (h : plateInputs? network = some (image, sequence)) :
    image.name ∈ network.inputNames ∧ sequence.name ∈ network.inputNames ∧
      (network.inputNames.Nodup → image.name ≠ sequence.name) := by
  unfold plateInputs? at h
  split at h
  · rename_i a b inputs
    simp only [Network.inputNames, inputs, List.map_cons, List.map_nil]
    split at h
    · cases h
      exact ⟨by simp, by simp, by simp⟩
    · split at h
      · cases h
        refine ⟨by simp, by simp, ?_⟩
        simpa using fun different => Ne.symm different
      · cases h
  · cases h

theorem accept_cases {d d' : Descriptor} {network network' : Network} {r : Except Fault Unit}
    (h : accept.Ends (d, network) r (d', network')) :
    d.Grows d' ∧ (r = .ok () → d'.Plays network) := by
  have refused {f : Fault} {kept : Network} (h : r = .error f ∧ (d', network') = (d, kept)) :
      d.Grows d' ∧ (r = .ok () → d'.Plays network) := by
    obtain ⟨rfl, same⟩ := h
    cases same
    exact ⟨.refl d, by simp⟩
  have single (other : d.family ≠ .plate) {input output : TensorInfo}
      (member : input.name ∈ network.inputNames)
      (h : (setBindings [(.input, input.name), (.output, output.name)]).Ends (d, network) r
        (d', network')) : d.Grows d' ∧ (r = .ok () → d'.Plays network) := by
    obtain ⟨grows, binds⟩ := setBindings_cases h
    have family : d'.family ≠ .plate := grows.family ▸ other
    refine ⟨grows, fun ok => ⟨?_, ?_, fun plate => absurd plate family,
      fun plate => absurd plate family⟩⟩
    · obtain ⟨name, bound, input⟩ := binds ok .input ⟨_, List.mem_cons_self⟩
      exact ⟨name, by simp_all, input⟩
    · obtain ⟨name, _, output⟩ := binds ok .output ⟨output.name, by simp⟩
      exact ⟨name, output⟩
  rw [accept, Act.ends_get_bind] at h
  split at h
  · simp only [acceptPlate, Act.ends_get_bind, Act.ends_log_bind] at h
    split at h
    · exact refused (Act.ends_fail_bind.1 h)
    · split at h
      · exact refused (Act.ends_fail.1 h)
      · rename_i image sequence found
        obtain ⟨imageIn, sequenceIn, apart⟩ := plateInputs_cases found
        split at h
        · exact refused (Act.ends_fail_bind.1 h)
        · rw [Act.ends_log_bind] at h
          split at h
          · rename_i only _
            obtain ⟨grows, binds⟩ := setBindings_cases (Act.ends_set_bind.1 h)
            refine ⟨grows, fun ok => ?_⟩
            obtain ⟨input, hasInput, input_eq⟩ := binds ok .input ⟨image.name, by simp⟩
            obtain ⟨seq, hasSequence, sequence_eq⟩ := binds ok .sequence ⟨sequence.name, by simp⟩
            obtain ⟨output, _, output_eq⟩ := binds ok .output ⟨only.name, by simp⟩
            simp only [List.mem_cons, Prod.mk.injEq, true_and, reduceCtorEq, false_and,
              List.not_mem_nil, or_false, false_or] at hasInput hasSequence
            subst hasInput hasSequence
            refine ⟨⟨_, imageIn, input_eq⟩, ⟨_, output_eq⟩, fun _ => ⟨_, sequenceIn, sequence_eq⟩,
              fun _ distinct same => ?_⟩
            have names : some image.name = some sequence.name :=
              input_eq.symm.trans (same.trans sequence_eq)
            exact apart distinct (Option.some.inj names)
          · exact refused (Act.ends_fail.1 h)
  · rename_i family
    replace family : d.family = .single := family
    simp only [acceptSingle, Act.ends_get_bind] at h
    split at h
    · rename_i input output inputs _
      split at h
      · exact single (by rw [family]; decide) (by simp [Network.inputNames, inputs]) h
      · exact refused (Act.ends_fail.1 h)
    · exact refused (Act.ends_fail.1 h)
    · exact refused (Act.ends_fail.1 h)
  · rename_i family
    replace family : d.family = .unchecked := family
    simp only [acceptUnchecked, Act.ends_get_bind] at h
    split at h
    · rename_i input _ output _ inputs _
      exact single (by rw [family]; decide) (by simp [Network.inputNames, inputs]) h
    · exact refused (Act.ends_fail.1 h)

end Descriptor

end FrameBatch
