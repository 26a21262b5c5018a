import FrameBatch.Proofs.Pipeline.Cycle

namespace FrameBatch

def Output.Accepts (o : Output) : Prop := ∀ name batches, o ≠ .sink name .raising batches

theorem Output.Accepts.accept {o : Output} (accepts : o.Accepts) (results : List Result) :
    ∃ o', (Output.accept results).Ends o (.ok ()) o' ∧ o'.Accepts := by
  cases o with
  | log name level seen waiting =>
    exact ⟨.log name level (seen + results.length) (waiting ++ results), ⟨rfl, rfl⟩,
      by simp [Accepts]⟩
  | sink name kind batches =>
    cases kind with
    | collect => exact ⟨.sink name .collect (batches ++ [results]), ⟨rfl, rfl⟩, by simp [Accepts]⟩
    | greedy => exact ⟨.sink name .greedy (batches ++ [results]), ⟨rfl, rfl⟩, by simp [Accepts]⟩
    | raising => exact absurd rfl (accepts name batches)

namespace Pipeline

variable {ε : Type}

def withPending (s : Site ε) (pending : List Result) : Site ε :=
  { s with pipeline := { s.pipeline with pending } }

def withResults (s : Site ε) (results : List Result) : Site ε :=
  { s with pipeline := { s.pipeline.cleared with results, stage := .fetched } }

theorem deliver_frame {results : List Result} {names : List String} {s s' : Site ε}
    {r : Except Fault Unit} (h : (deliver results names).Ends s r s') :
    ∃ outputs, s' = { s with bench := { s.bench with outputs } } := by
  induction names generalizing s with
  | nil =>
    obtain ⟨_, rfl⟩ := Act.ends_pure.1 h
    exact ⟨_, rfl⟩
  | cons name rest ih =>
    have one : ∀ {r : Except Fault Unit} {b : Bench ε},
        (Bench.onOutput name (Output.accept results)).Ends s.bench r b →
          ∃ outputs, b = { s.bench with outputs } := by
      intro r b ends
      cases found : s.bench.outputs.get? name with
      | none =>
        obtain ⟨_, rfl⟩ := (Bench.ends_onOutput_of_none found).1 ends
        exact ⟨_, rfl⟩
      | some o =>
        obtain ⟨o', _, rfl⟩ := (Bench.ends_onOutput found).1 ends
        exact ⟨_, rfl⟩
    rcases Act.ends_bind.1 h with ⟨_, middle, first, others⟩ | ⟨f, _, first⟩
    · obtain ⟨b, ends, rfl⟩ := Site.ends_onBench.1 first
      obtain ⟨outputs, rfl⟩ := one ends
      obtain ⟨outputs', rfl⟩ := ih others
      exact ⟨outputs', rfl⟩
    · obtain ⟨b, ends, rfl⟩ := Site.ends_onBench.1 first
      obtain ⟨outputs, rfl⟩ := one ends
      exact ⟨outputs, rfl⟩

theorem deliver_congr {results : List Result} {names : List String} {s s' t t' : Site ε}
    {r r' : Except Fault Unit} (same : s.bench.outputs = t.bench.outputs)
    (h : (deliver results names).Ends s r s') (h' : (deliver results names).Ends t r' t') :
    s'.bench.outputs = t'.bench.outputs := by
  induction names generalizing s t with
  | nil =>
    obtain ⟨_, rfl⟩ := Act.ends_pure.1 h
    obtain ⟨_, rfl⟩ := Act.ends_pure.1 h'
    exact same
  | cons name rest ih =>
    rw [deliver] at h h'
    cases found : s.bench.outputs.get? name with
    | none =>
      have absent {u : Site ε} (found : u.bench.outputs.get? name = none) :=
        Site.ends_onBench.2 ⟨_, (Bench.ends_onOutput_of_none (x := Output.accept results) found).2
          ⟨rfl, rfl⟩, rfl⟩
      obtain ⟨_, rfl⟩ := (Act.ends_bind_of_error (absent found) _).1 h
      obtain ⟨_, rfl⟩ := (Act.ends_bind_of_error (absent (same ▸ found)) _).1 h'
      exact same
    | some o =>
      have taken {u : Site ε} (found : u.bench.outputs.get? name = some o) :=
        Site.ends_onBench.2
          ⟨_, (Bench.ends_onOutput found).2 ⟨_, (Output.accept results).ends_self o, rfl⟩, rfl⟩
      have first := taken found
      have first' := taken (same ▸ found)
      have same' : Entries.adjust name (fun _ => (Output.accept results o).state)
          s.bench.outputs = Entries.adjust name (fun _ => (Output.accept results o).state)
          t.bench.outputs := by rw [same]
      cases result : (Output.accept results o).result with
      | error f =>
        rw [result] at first first'
        obtain ⟨_, rfl⟩ := (Act.ends_bind_of_error first _).1 h
        obtain ⟨_, rfl⟩ := (Act.ends_bind_of_error first' _).1 h'
        exact same'
      | ok _ =>
        rw [result] at first first'
        exact ih same' ((Act.ends_bind_of_ok first _).1 h) ((Act.ends_bind_of_ok first' _).1 h')

/-- Every output of the pipeline is at the bench, and takes what it is given. -/
def Quiet (s : Site ε) : Prop :=
  ∀ name ∈ s.pipeline.outputs, ∃ o, s.bench.outputs.get? name = some o ∧ o.Accepts

theorem Quiet.withOutput {s : Site ε} (quiet : Quiet s) (name : String) {o' : Output}
    (accepts : o'.Accepts) :
    Quiet { s with bench :=
      { s.bench with outputs := s.bench.outputs.adjust name fun _ => o' } } := by
  intro other registered
  obtain ⟨o, found, takes⟩ := quiet other registered
  by_cases same : other = name
  · subst same
    exact ⟨o', by simp [Entries.get?_adjust_self, found], accepts⟩
  · exact ⟨o, by simp [Entries.get?_adjust_of_ne same, found], takes⟩

theorem deliver_quiet {results : List Result} {names : List String} {s s' : Site ε}
    {r : Except Fault Unit} (quiet : Quiet s)
    (registered : ∀ name ∈ names, name ∈ s.pipeline.outputs)
    (h : (deliver results names).Ends s r s') : r = .ok () ∧ Quiet s' := by
  induction names generalizing s with
  | nil =>
    obtain ⟨rfl, rfl⟩ := Act.ends_pure.1 h
    exact ⟨rfl, quiet⟩
  | cons name rest ih =>
    obtain ⟨o, found, accepts⟩ := quiet name (registered name List.mem_cons_self)
    obtain ⟨o', takes, accepts⟩ := accepts.accept results
    have first := Site.ends_onBench.2 ⟨_, (Bench.ends_onOutput found).2 ⟨o', takes, rfl⟩, rfl⟩
    rw [deliver, Act.ends_bind_of_ok first] at h
    refine ih (quiet.withOutput name accepts) ?_ h
    intro other later
    exact registered other (List.mem_cons_of_mem _ later)

inductive DecodeEnds [Backend ε] (s : Site ε) : Except Fault (List Result) → Site ε → Prop
  | unready {f : Fault} (unready : Unready s f) : DecodeEnds s (.error f) s
  | decoded {name : String} {d : Descriptor} {e e' : ε} {pending : List Result}
    {r : Except Fault (List Result)} (ready : Ready s name d e)
    (ends : (s.pipeline.decoder.decode d).Ends (e, s.pipeline.pending) r (e', pending)) :
    DecodeEnds s r (withPending (s.withEngine name e') pending)

inductive FetchEnds [Backend ε] (s : Site ε) : Except Fault Bool → Site ε → Prop
  | idle {r : Except Fault Bool} (resting : s.pipeline.stage ≠ .submitted) (empty : r ≠ .ok true) :
    FetchEnds s r s
  | early {r : Except Fault Bool} {s' : Site ε} (submitted : s.pipeline.stage = .submitted)
    (asks : isOver.Ends s r s') (empty : r ≠ .ok true) : FetchEnds s r s'
  | failed {f : Fault} {waited s' : Site ε} (submitted : s.pipeline.stage = .submitted)
    (asks : isOver.Ends s (.ok true) waited) (decodes : DecodeEnds waited (.error f) s')
    (runtime : f.isRuntime = true) : FetchEnds s (.ok false) (dropped s')
  | broken {f : Fault} {waited s' : Site ε} (submitted : s.pipeline.stage = .submitted)
    (asks : isOver.Ends s (.ok true) waited) (decodes : DecodeEnds waited (.error f) s')
    (other : f.isRuntime = false) : FetchEnds s (.error f) s'
  | fetched {results : List Result} {delivery : Except Fault Unit} {waited read s' : Site ε}
    (submitted : s.pipeline.stage = .submitted) (asks : isOver.Ends s (.ok true) waited)
    (decodes : DecodeEnds waited (.ok results) read)
    (delivers : (deliver results s.pipeline.outputs).Ends (withResults read results) delivery s') :
    FetchEnds s (delivery.map fun _ => true) s'

section

variable [Backend ε]

theorem decode_cases {s s' : Site ε} {r : Except Fault (List Result)}
    (h : decodeBatch.Ends s r s') : DecodeEnds s r s' := by
  unfold decodeBatch at h
  rcases requireEngine_cases s with ⟨name, d, e, ready, required⟩ | ⟨f, unready, required⟩
  · rw [Act.ends_bind_of_ok required,
      Act.ends_bind_of_ok (Site.ends_descriptor_of_some ready.described), Act.ends_get_bind] at h
    obtain ⟨key, found⟩ := ready.held
    have kept : (Site.onEngine name (Act.set
        (s.pipeline.decoder.decode d (e, s.pipeline.pending)).state.1)).Ends s (.ok ())
        (s.withEngine name (s.pipeline.decoder.decode d (e, s.pipeline.pending)).state.1) :=
      (Site.ends_onEngine ready.held).2 ⟨_, Act.ends_set.2 ⟨rfl, rfl⟩, rfl⟩
    simp only [found, Act.ends_bind_of_ok kept] at h
    obtain ⟨rfl, rfl⟩ := h
    exact .decoded ready (Act.ends_self _ _)
  · rw [Act.ends_bind_of_error required] at h
    obtain ⟨rfl, rfl⟩ := h
    exact .unready unready

theorem isOver_cases {s s' : Site ε} {r : Except Fault Bool}
    (submitted : s.pipeline.stage = .submitted) (h : isOver.Ends s r s') :
    WaitEnds s (.int 0) r s' := by
  rw [isOver, Act.ends_get_bind] at h
  split at h
  · rename_i done
    obtain ⟨rfl, rfl⟩ := Act.ends_pure.1 h
    exact .known submitted done
  · exact wait_cases h

theorem DecodeEnds.descriptor? {s s' : Site ε} {r : Except Fault (List Result)}
    (h : DecodeEnds s r s') : s'.descriptor? = s.descriptor? := by
  cases h <;> rfl

theorem DecodeEnds.described {s s' : Site ε} {f : Fault} (h : DecodeEnds s (.error f) s')
    (runtime : f.isRuntime = true) : ∃ d, s.descriptor? = some d := by
  cases h with
  | unready unready => exact unready.described runtime
  | decoded ready _ => exact ⟨_, ready.described⟩

theorem fetch_cases {s s' : Site ε} {r : Except Fault Bool} (h : fetch.Ends s r s') :
    FetchEnds s r s' := by
  simp only [fetch, Act.ends_get_bind] at h
  split at h
  · rename_i resting
    cases described : s.descriptor? with
    | none =>
      rw [Act.ends_bind_of_error (Site.ends_descriptor_of_none described)] at h
      obtain ⟨rfl, rfl⟩ := h
      exact .idle resting (by simp)
    | some d =>
      rw [Act.ends_bind_of_ok (Site.ends_descriptor_of_some described), report,
        Act.ends_log_bind] at h
      obtain ⟨rfl, rfl⟩ := Act.ends_pure.1 h
      exact .idle resting (by simp)
  · rename_i submitted
    have submitted := Decidable.not_not.1 submitted
    rcases Act.ends_bind.1 h with ⟨done, waited, asked, h⟩ | ⟨f, rfl, asked⟩
    · cases done with
      | false =>
        obtain ⟨rfl, rfl⟩ := Act.ends_pure.1 h
        exact .early submitted asked (by simp)
      | true =>
        simp only [Bool.not_true, Bool.false_eq_true, if_false] at h
        obtain ⟨answer, read, attempted, h⟩ | ⟨_, _, attempted⟩ := Act.ends_bind.1 h
        · obtain ⟨inner, same, decoding⟩ := Act.ends_attempt.1 attempted
          cases same
          have decodes := decode_cases decoding
          cases answer with
          | ok results =>
            simp only [Site.ends_update_bind] at h
            rcases Act.ends_bind.1 h with ⟨_, middle, delivers, h⟩ | ⟨f, rfl, delivers⟩
            · obtain ⟨rfl, rfl⟩ := Act.ends_pure.1 h
              exact .fetched submitted asked decodes delivers
            · exact .fetched submitted asked decodes delivers
          | error f =>
            have described := decodes.described
            rw [← decodes.descriptor?] at described
            rcases ends_giveUp described h with ⟨runtime, rfl, rfl⟩ | ⟨other, rfl, rfl⟩
            · exact .failed submitted asked decodes runtime
            · exact .broken submitted asked decodes other
        · obtain ⟨_, same, _⟩ := Act.ends_attempt.1 attempted
          cases same
    · exact .early submitted asked (by simp)

end

end Pipeline

end FrameBatch
