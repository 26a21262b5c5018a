import FrameBatch.Plate.Reading
import FrameBatch.Proofs.Act.Ends
import FrameBatch.Proofs.Act.Fails

namespace FrameBatch.Plate

/-- A stretch whose sequence of symbols runs into an infinity or into a datum that is no number. -/
def Illegible (vs : List Scalar) : Prop :=
  ∃ before x after, vs = before ++ .real x :: after ∧ x.isFinite = false ∧
    ∀ v ∈ before, ∃ i, index v = .ok i ∧ isSymbol i = true

theorem index_fault {v : Scalar} {f : Fault} (h : index v = .error f) :
    ¬ f.OfRun ∧ ∃ x, v = .real x ∧ x.isFinite = false := by
  cases v with
  | whole z => cases h
  | real x =>
    simp only [index, Value.toInt] at h
    cases integer : x.truncate? with
    | some z => simp [integer] at h
    | none =>
      have infinite : x.isFinite = false := by rw [← x.truncate?_isSome, integer]; rfl
      simp only [integer] at h
      split at h <;> cases h <;> exact ⟨Fault.failed_not_ofRun (by decide) _, x, rfl, infinite⟩

theorem index_of_not_finite {x : Binary} (infinite : x.isFinite = false) :
    ∃ f, index (.real x) = .error f := by
  rw [← x.truncate?_isSome, Option.isSome_eq_false_iff, Option.isNone_iff_eq_none] at infinite
  simp only [index, Value.toInt, infinite]
  split <;> exact ⟨_, rfl⟩

theorem not_end_of_isSymbol {i : Int} (h : isSymbol i = true) : i ≠ sequenceEnd := by
  simp only [isSymbol, Bool.and_eq_true, decide_eq_true_eq] at h
  simp only [sequenceEnd]
  omega

theorem readStretch_fault {vs : List Scalar} {f : Fault} (h : readStretch vs = .error f) :
    ¬ f.OfRun ∧ Illegible vs := by
  induction vs with
  | nil => cases h
  | cons v rest ih =>
    rcases bind_error h with fault | ⟨i, found, h⟩
    · obtain ⟨other, x, rfl, infinite⟩ := index_fault fault
      exact ⟨other, [], x, rest, rfl, infinite, by simp⟩
    · split at h
      · cases h
      · split at h
        · cases h
        · rename_i symbol
          simp only [Bool.not_eq_true', Bool.not_eq_false] at symbol
          rcases bind_error h with fault | ⟨_, _, h⟩
          · obtain ⟨other, before, x, after, rfl, infinite, symbols⟩ := ih fault
            refine ⟨other, v :: before, x, after, rfl, infinite, ?_⟩
            intro u member
            rcases List.mem_cons.1 member with rfl | member
            · exact ⟨i, found, symbol⟩
            · exact symbols u member
          · cases h

theorem readStretch_of_illegible {vs : List Scalar} (h : Illegible vs) :
    ∃ f, readStretch vs = .error f := by
  obtain ⟨before, x, after, rfl, infinite, symbols⟩ := h
  induction before with
  | nil =>
    obtain ⟨f, fault⟩ := index_of_not_finite infinite
    exact ⟨f, by rw [List.nil_append, readStretch, fault]; rfl⟩
  | cons v before ih =>
    obtain ⟨i, found, symbol⟩ := symbols v List.mem_cons_self
    obtain ⟨f, fault⟩ := ih fun u member => symbols u (List.mem_cons_of_mem _ member)
    refine ⟨f, ?_⟩
    simp only [List.cons_append, readStretch, found, fault, symbol, not_end_of_isSymbol symbol,
      if_false, Bool.not_true, Bool.false_eq_true, bind, Except.bind]

theorem illegible_iff {vs : List Scalar} : Illegible vs ↔ ¬ (readStretch vs).isOk = true := by
  constructor
  · intro illegible
    obtain ⟨f, fault⟩ := readStretch_of_illegible illegible
    rw [fault]
    exact Bool.false_ne_true
  · intro bad
    cases read : readStretch vs with
    | error f => exact (readStretch_fault read).2
    | ok both =>
      rw [read] at bad
      exact absurd rfl bad

instance : DecidablePred Illegible := fun _ => decidable_of_iff' _ illegible_iff

theorem readOne_cases (output : Tensor) (size i : Nat) (r : Result) :
    (∃ r', (readOne output size i r).Ends () (.ok r') () ∧ r'.location = r.location ∧
        ¬ Illegible (stretch output size i)) ∨
      ∃ f, (readOne output size i r).Ends () (.error f) () ∧ ¬ f.OfRun ∧
        Illegible (stretch output size i) := by
  cases read : readStretch (stretch output size i) with
  | error f =>
    refine .inr ⟨f, ?_, readStretch_fault read⟩
    exact (Act.ends_bind_of_error (Act.ends_lift.2 ⟨read.symm, rfl⟩) _).2 ⟨rfl, rfl⟩
  | ok both =>
    have legible : ¬ Illegible (stretch output size i) := by
      intro illegible
      obtain ⟨f, fault⟩ := readStretch_of_illegible illegible
      cases read.symm.trans fault
    obtain ⟨sequence, stop⟩ := both
    refine .inl ⟨{ r with reading := some { license := license sequence, sequence } },
      ?_, rfl, legible⟩
    refine (Act.ends_bind_of_ok (Act.ends_lift.2 ⟨read.symm, rfl⟩) _).2 ?_
    cases stop with
    | none => exact ⟨rfl, rfl⟩
    | some symbol => exact ⟨rfl, rfl⟩

theorem readFrom_cases (output : Tensor) (size i : Nat) (rs others : List Result) :
    ∃ r rs', (readFrom output size i rs).Ends others r rs' ∧
      rs'.map (·.location) = rs.map (·.location) ∧
      (r = .ok () ∧ (∀ j < rs.length, ¬ Illegible (stretch output size (i + j))) ∨
        ∃ f, r = .error f ∧ ¬ f.OfRun ∧
          ∃ j < rs.length, Illegible (stretch output size (i + j))) := by
  induction rs generalizing i others with
  | nil => exact ⟨_, _, ⟨rfl, rfl⟩, rfl, .inl ⟨rfl, by simp⟩⟩
  | cons r rest ih =>
    rcases readOne_cases output size i r with
      ⟨r', ends, place, legible⟩ | ⟨f, ends, other, illegible⟩
    · obtain ⟨result, rs', ends', places, reason⟩ := ih (i + 1) rest
      refine ⟨result, r' :: rs', ?_, by simp [place, places], ?_⟩
      · simp only [Act.Ends, readFrom, ends.result, ends'.result, ends'.state, and_self]
      · rcases reason with ⟨rfl, all⟩ | ⟨f, rfl, other, j, inside, illegible⟩
        · refine .inl ⟨rfl, ?_⟩
          rintro (_ | j) inside
          · exact legible
          · rw [Nat.add_comm j 1, ← Nat.add_assoc]
            exact all j (by simpa using inside)
        · refine .inr ⟨f, rfl, other, j + 1, by simpa using inside, ?_⟩
          rwa [Nat.add_comm j 1, ← Nat.add_assoc]
    · refine ⟨.error f, r :: rest, ?_, rfl, .inr ⟨f, rfl, other, 0, by simp, illegible⟩⟩
      simp only [Act.Ends, readFrom, ends.result, and_self]

inductive ReadEnds (output : Tensor) (size count : Nat) : Except Fault Unit → Prop
  | short {f : Fault} (lacks : output.size < count * size) (runtime : f.isRuntime = true) :
    ReadEnds output size count (.error f)
  | illegible {f : Fault} {i : Nat} (holds : count * size ≤ output.size)
    (other : ¬ f.OfRun) (inside : i < count)
    (illegible : Illegible (stretch output size i)) : ReadEnds output size count (.error f)
  | read (holds : count * size ≤ output.size)
    (legible : ∀ i < count, ¬ Illegible (stretch output size i)) :
    ReadEnds output size count (.ok ())

theorem readAll_cases {name : String} {output : Tensor} {size : Nat} {rs rs' : List Result}
    {r : Except Fault Unit} (h : (readAll name output size).Ends rs r rs') :
    ReadEnds output size rs.length r ∧ rs'.map (·.location) = rs.map (·.location) := by
  rw [readAll, Act.ends_get_bind] at h
  split at h
  · rename_i lacks
    rw [Act.ends_bind_of_error (Act.ends_fail.2 ⟨rfl, rfl⟩)] at h
    obtain ⟨rfl, rfl⟩ := h
    exact ⟨.short lacks rfl, rfl⟩
  · rename_i holds
    have h : (readFrom output size 0 rs).Ends rs r rs' := h
    have holds := Nat.not_lt.1 holds
    obtain ⟨r', rs'', ends, places, reason⟩ := readFrom_cases output size 0 rs rs
    cases ends.result.symm.trans h.result
    cases ends.state.symm.trans h.state
    simp only [Nat.zero_add] at reason
    rcases reason with ⟨rfl, legible⟩ | ⟨f, rfl, other, i, inside, illegible⟩
    · exact ⟨.read holds legible, places⟩
    · exact ⟨.illegible holds other inside illegible, places⟩

end FrameBatch.Plate
