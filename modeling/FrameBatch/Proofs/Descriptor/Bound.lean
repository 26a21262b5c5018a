import FrameBatch.Proofs.Descriptor.Accept

namespace FrameBatch.Descriptor

variable {d d' : Descriptor} {network network' : Network} {r : Except Fault Unit}

theorem bind_of_bound {role : Role} {name : String} (bound : d.bound role = some name) :
    d.bind role name = d := by
  cases role
  all_goals
    simp only [Descriptor.bound] at bound
    simp only [bind, ← bound]

theorem foldl_of_bound {bindings : List (Role × String)}
    (bound : ∀ binding ∈ bindings, d.bound binding.1 = some binding.2) :
    bindings.foldl (fun d (role, name) => d.bind role name) d = d := by
  induction bindings with
  | nil => rfl
  | cons binding rest ih =>
    obtain ⟨role, name⟩ := binding
    have first : d.bound role = some name := bound (role, name) List.mem_cons_self
    rw [List.foldl_cons]
    simp only [bind_of_bound first]
    exact ih fun other member => bound other (List.mem_cons_of_mem _ member)

theorem setBindings_of_bound {bindings : List (Role × String)}
    (bound : ∀ binding ∈ bindings, (d.bound binding.1).isSome)
    (h : (setBindings bindings).Ends (d, network) r (d', network')) : d' = d := by
  rw [setBindings, Act.ends_get_bind] at h
  cases conflict : d.conflict? bindings with
  | some contradiction =>
    simp only [conflict] at h
    exact congrArg Prod.fst (Act.ends_fail.1 h).2
  | none =>
    simp only [conflict, Act.ends_set_bind] at h
    refine (congrArg Prod.fst (Act.ends_log.1 h).2).trans (foldl_of_bound ?_)
    rintro ⟨role, name⟩ member
    obtain ⟨current, known⟩ := Option.isSome_iff_exists.1 (bound _ member)
    rw [bound_of_no_conflict conflict member known]
    exact known

theorem accept_of_bound (bound : d.isBound = true)
    (h : accept.Ends (d, network) r (d', network')) : d' = d := by
  simp only [isBound, inputRoles, List.all_append, List.all_cons, List.all_nil, Bool.and_true,
    Bool.and_eq_true] at bound
  obtain ⟨inputs, output⟩ := bound
  have input : (d.bound .input).isSome = true := by
    split at inputs
    · exact (List.all_eq_true.1 inputs) .input (by simp)
    · exact (List.all_eq_true.1 inputs) .input (by simp)
  have pair {first second : TensorInfo} (h : (setBindings
      [(.input, first.name), (.output, second.name)]).Ends (d, network) r (d', network')) : d' = d := by
    refine setBindings_of_bound ?_ h
    simp only [List.mem_cons, List.not_mem_nil, or_false]
    rintro binding (rfl | rfl)
    · exact input
    · exact output
  have kept {kept : Network} {r' : Except Fault Unit} (h : r = r' ∧ (d', network') = (d, kept)) :
      d' = d :=
    congrArg Prod.fst h.2
  rw [accept, Act.ends_get_bind] at h
  split at h
  · rename_i family
    replace family : d.family = .plate := family
    have sequence : (d.bound .sequence).isSome = true := by
      rw [if_pos family] at inputs
      exact (List.all_eq_true.1 inputs) .sequence (by simp)
    simp only [acceptPlate, Act.ends_get_bind, Act.ends_log_bind] at h
    split at h
    · exact kept (Act.ends_fail_bind.1 h)
    · split at h
      · exact kept (Act.ends_fail.1 h)
      · split at h
        · exact kept (Act.ends_fail_bind.1 h)
        · rw [Act.ends_log_bind] at h
          split at h
          · refine setBindings_of_bound ?_ (Act.ends_set_bind.1 h)
            simp only [List.mem_cons, List.not_mem_nil, or_false]
            rintro binding (rfl | rfl | rfl)
            · exact input
            · exact sequence
            · exact output
          · exact kept (Act.ends_fail.1 h)
  · simp only [acceptSingle, Act.ends_get_bind] at h
    split at h
    · split at h
      · exact pair h
      · exact kept (Act.ends_fail.1 h)
    · exact kept (Act.ends_fail.1 h)
    · exact kept (Act.ends_fail.1 h)
  · simp only [acceptUnchecked, Act.ends_get_bind] at h
    split at h
    · exact pair h
    · exact kept (Act.ends_fail.1 h)

end FrameBatch.Descriptor
