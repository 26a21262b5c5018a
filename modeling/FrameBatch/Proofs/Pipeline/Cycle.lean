import FrameBatch.Proofs.Pipeline.Bench

/-!
How the acts of a cycle can end. Each act has one relation, whose cases say what the pipeline and
its engine are afterwards and why; all that is proved about pipelines goes through these cases.
-/

namespace FrameBatch.Pipeline

variable {ε : Type}

def withFrame (p : Pipeline) (location : Rect) : Pipeline :=
  { p with
    pending := p.pending ++ [p.decoder.makeResult location]
    enqueued := p.enqueued + 1
    stage := .accumulating }

def withRun (p : Pipeline) (done : Bool) : Pipeline := { p with done, stage := .submitted }

def dropped (s : Site ε) : Site ε := { s with pipeline := s.pipeline.cleared }

def told (s : Site ε) (done : Bool) : Site ε :=
  { s with pipeline := { s.pipeline with done } }

theorem ends_canSubmit (category : String) (s : Site ε) :
    (canSubmit category).Ends s
      (.ok (decide (s.pipeline.stage ≠ .submitted ∧ s.pipeline.enqueued ≠ 0))) s := by
  simp only [canSubmit, Act.ends_get_bind]
  split
  · rename_i submitted
    rw [report, Act.ends_log_bind]
    exact Act.ends_pure.2 ⟨by simp [submitted], rfl⟩
  · rename_i resting
    split
    · rename_i empty
      rw [report, Act.ends_log_bind]
      exact Act.ends_pure.2 ⟨by simp [empty], rfl⟩
    · rename_i frames
      exact Act.ends_pure.2 ⟨by simp [resting, frames], rfl⟩

theorem ends_giveUp {s s' : Site ε} {f : Fault} {message : Descriptor → String}
    {r : Except Fault Bool}
    (described : f.isRuntime = true → ∃ d, s.descriptor? = some d)
    (h : (if f.isRuntime then do
        report .error (message (← Site.descriptor))
        Site.update cleared
        return false
      else Act.fail f : Act (Site ε) Bool).Ends s r s') :
    f.isRuntime = true ∧ r = .ok false ∧ s' = dropped s ∨
      f.isRuntime = false ∧ r = .error f ∧ s' = s := by
  cases runtime : f.isRuntime with
  | true =>
    obtain ⟨d, described⟩ := described runtime
    simp only [runtime, if_true, Act.ends_bind_of_ok (Site.ends_descriptor_of_some described),
      report, Act.ends_log_bind, Site.ends_update_bind] at h
    obtain ⟨rfl, rfl⟩ := Act.ends_pure.1 h
    exact .inl ⟨rfl, rfl, rfl⟩
  | false =>
    simp only [runtime, Bool.false_eq_true, if_false] at h
    obtain ⟨rfl, rfl⟩ := Act.ends_fail.1 h
    exact .inr ⟨rfl, rfl, rfl⟩

variable [Backend ε]

/-- The pipeline can use an engine: it is attached, at the bench, and loaded. -/
structure Ready (s : Site ε) (name : String) (d : Descriptor) (e : ε) : Prop where
  attached : s.pipeline.engine = some name
  described : s.descriptor? = some d
  held : s.bench.Holds name e
  loaded : Backend.isLoaded e = true

def attached? {ε : Type} (s : Site ε) : Option ε :=
  s.pipeline.engine.bind fun name => (s.bench.engines.get? name).map Prod.snd

theorem Ready.attached?_eq {s : Site ε} {name : String} {d : Descriptor} {e : ε}
    (ready : Ready s name d e) : attached? s = some e := by
  obtain ⟨key, found⟩ := ready.held
  simp [attached?, ready.attached, found]

inductive Unready (s : Site ε) : Fault → Prop
  | undescribed (absent : s.descriptor? = none) :
    Unready s (.refused (.absent s.pipeline.descriptor))
  | unloaded {d : Descriptor} (described : s.descriptor? = some d)
    (idle : ∀ name e, s.pipeline.engine = some name → s.bench.Holds name e →
      Backend.isLoaded e = false) : Unready s (.refused (.noEngine d.category))

theorem Unready.described {s : Site ε} {f : Fault} (h : Unready s f)
    (runtime : f.isRuntime = true) : ∃ d, s.descriptor? = some d := by
  cases h with
  | undescribed _ => cases runtime
  | unloaded described _ => exact ⟨_, described⟩

theorem requireEngine_cases (s : Site ε) :
    (∃ name d e, Ready s name d e ∧ requireEngine.Ends s (.ok name) s) ∨
      ∃ f, Unready s f ∧ requireEngine.Ends s (.error f) s := by
  cases described : s.descriptor? with
  | none =>
    refine .inr ⟨_, .undescribed described, ?_⟩
    rw [requireEngine, Act.ends_get_bind,
      Act.ends_bind_of_error (Site.ends_descriptor_of_none described)]
    exact ⟨rfl, rfl⟩
  | some d =>
    simp only [requireEngine, Act.ends_get_bind,
      Act.ends_bind_of_ok (Site.ends_descriptor_of_some described)]
    cases attached : s.pipeline.engine with
    | none =>
      refine .inr ⟨_, .unloaded described ?_, Act.ends_fail.2 ⟨rfl, rfl⟩⟩
      intro name e same
      rw [attached] at same
      cases same
    | some name =>
      cases found : s.bench.engines.get? name with
      | none =>
        refine .inr ⟨_, .unloaded described ?_, ?_⟩
        · rintro _ e same ⟨key, found'⟩
          cases attached.symm.trans same
          cases found.symm.trans found'
        · simp only [found]
          exact Act.ends_fail.2 ⟨rfl, rfl⟩
      | some entry =>
        cases loaded : Backend.isLoaded entry.2 with
        | false =>
          refine .inr ⟨_, .unloaded described ?_, ?_⟩
          · rintro _ e same held
            cases attached.symm.trans same
            exact (Bench.Holds.unique ⟨entry.1, found⟩ held) ▸ loaded
          · simp only [found, loaded, Bool.false_eq_true, if_false]
            exact Act.ends_fail.2 ⟨rfl, rfl⟩
        | true =>
          refine .inl ⟨name, d, entry.2, ⟨attached, described, ⟨entry.1, found⟩, loaded⟩, ?_⟩
          simp only [found, loaded, if_true]
          exact Act.ends_pure.2 ⟨rfl, rfl⟩

section

variable [Resizer]

def place (d : Descriptor) (frame : Frame) (scale : Value) (slot : Nat) : Act ε Unit := do
  let batch ← Backend.tensor d.input
  let batch ← batch.loadFrame frame scale (.int slot)
  Backend.setTensor d.input batch

theorem ends_place_bind {s s' : Site ε} {name : String} {e : ε} {d : Descriptor} {frame : Frame}
    {scale : Value} {slot : Nat} {r : Except Fault Bool} (held : s.bench.Holds name e)
    (next : Act (Site ε) Bool) :
    (do
      let batch ← Site.onEngine name (Backend.tensor d.input)
      let batch ← batch.loadFrame frame scale (.int slot)
      Site.onEngine name (Backend.setTensor d.input batch)
      next : Act (Site ε) Bool).Ends s r s' ↔
      (Site.onEngine name (place d frame scale slot) >>= fun _ => next).Ends s r s' := by
  rw [place, Site.ends_onEngine_bind held, Act.ends_bind, Act.ends_bind]
  refine or_congr_left (exists_congr fun batch => exists_congr fun middle =>
    and_congr_right fun read => ?_)
  obtain ⟨e', _, rfl⟩ := (Site.ends_onEngine held).1 read
  rw [Site.ends_onEngine_lift_bind (held.withEngine e')]

inductive EnqueueEnds (s : Site ε) (frame : Frame) (location : Value) :
    Except Fault Bool → Site ε → Prop
  | unready {f : Fault} (unready : Unready s f) : EnqueueEnds s frame location (.error f) s
  | refused {name : String} {d : Descriptor} {e : ε} (ready : Ready s name d e)
    (full : s.pipeline.stage = .submitted ∨ (s.pipeline.enqueued : Int) = s.pipeline.maxBatch) :
    EnqueueEnds s frame location (.ok false) s
  | misplaced {name : String} {d : Descriptor} {e : ε} {f : Fault} (ready : Ready s name d e)
    (resting : s.pipeline.stage ≠ .submitted)
    (room : (s.pipeline.enqueued : Int) ≠ s.pipeline.maxBatch)
    (unplaced : Rect.ofValue location = .error f) : EnqueueEnds s frame location (.error f) s
  | failed {name : String} {d : Descriptor} {e e' : ε} {rect : Rect} {f : Fault}
    (ready : Ready s name d e) (resting : s.pipeline.stage ≠ .submitted)
    (room : (s.pipeline.enqueued : Int) ≠ s.pipeline.maxBatch)
    (placed : Rect.ofValue location = .ok rect)
    (ends : (place d frame s.pipeline.scale s.pipeline.enqueued).Ends e (.error f) e') :
    EnqueueEnds s frame location (.error f) (s.withEngine name e')
  | accepted {name : String} {d : Descriptor} {e e' : ε} {rect : Rect} (ready : Ready s name d e)
    (resting : s.pipeline.stage ≠ .submitted)
    (room : (s.pipeline.enqueued : Int) ≠ s.pipeline.maxBatch)
    (placed : Rect.ofValue location = .ok rect)
    (ends : (place d frame s.pipeline.scale s.pipeline.enqueued).Ends e (.ok ()) e') :
    EnqueueEnds s frame location (.ok true)
      { s.withEngine name e' with pipeline := s.pipeline.withFrame rect }

theorem enqueue_cases {s s' : Site ε} {frame : Frame} {location : Value} {r : Except Fault Bool}
    (h : (enqueue frame location).Ends s r s') : EnqueueEnds s frame location r s' := by
  unfold enqueue at h
  rcases requireEngine_cases s with ⟨name, d, e, ready, required⟩ | ⟨f, unready, required⟩
  · rw [Act.ends_bind_of_ok required, Act.ends_get_bind,
      Act.ends_bind_of_ok (Site.ends_descriptor_of_some ready.described)] at h
    split at h
    · rename_i submitted
      rw [report, Act.ends_log_bind] at h
      obtain ⟨rfl, rfl⟩ := Act.ends_pure.1 h
      exact .refused ready (.inl submitted)
    · rename_i resting
      split at h
      · rename_i full
        rw [report, Act.ends_log_bind] at h
        obtain ⟨rfl, rfl⟩ := Act.ends_pure.1 h
        exact .refused ready (.inr full)
      · rename_i room
        cases placed : Rect.ofValue location with
        | error f =>
          rw [Act.ends_bind_of_error (Act.ends_lift.2 ⟨placed.symm, rfl⟩)] at h
          obtain ⟨rfl, rfl⟩ := h
          exact .misplaced ready resting room placed
        | ok rect =>
          rw [Act.ends_bind_of_ok (Act.ends_lift.2 ⟨placed.symm, rfl⟩),
            ends_place_bind ready.held] at h
          rcases Act.ends_bind.1 h with ⟨_, middle, ends, h⟩ | ⟨f, rfl, ends⟩
          · obtain ⟨e', placing, rfl⟩ := (Site.ends_onEngine ready.held).1 ends
            rw [Site.ends_update_bind, report, Act.ends_log_bind] at h
            obtain ⟨rfl, rfl⟩ := Act.ends_pure.1 h
            exact .accepted ready resting room placed placing
          · obtain ⟨e', placing, rfl⟩ := (Site.ends_onEngine ready.held).1 ends
            exact .failed ready resting room placed placing
  · rw [Act.ends_bind_of_error required] at h
    obtain ⟨rfl, rfl⟩ := h
    exact .unready unready

end

inductive ExecuteEnds (run : Act ε Unit) (done : Bool) (s : Site ε) :
    Except Fault Bool → Site ε → Prop
  | unready {f : Fault} (unready : Unready s f) : ExecuteEnds run done s (.error f) s
  | needless {name : String} {d : Descriptor} {e : ε} (ready : Ready s name d e)
    (nothing : s.pipeline.stage = .submitted ∨ s.pipeline.enqueued = 0) :
    ExecuteEnds run done s (.ok false) s
  | failed {name : String} {d : Descriptor} {e e' : ε} {f : Fault} (ready : Ready s name d e)
    (resting : s.pipeline.stage ≠ .submitted) (frames : s.pipeline.enqueued ≠ 0)
    (ends : (s.pipeline.decoder.prepare d >>= fun _ => run).Ends e (.error f) e') :
    ExecuteEnds run done s (if f.isRuntime then .ok false else .error f) (s.withEngine name e')
  | started {name : String} {d : Descriptor} {e e' : ε} (ready : Ready s name d e)
    (resting : s.pipeline.stage ≠ .submitted) (frames : s.pipeline.enqueued ≠ 0)
    (ends : (s.pipeline.decoder.prepare d >>= fun _ => run).Ends e (.ok ()) e') :
    ExecuteEnds run done s (.ok true)
      { s.withEngine name e' with pipeline := s.pipeline.withRun done }

theorem execute_cases {run : Act ε Unit} {done : Bool} {verb failure : String} {s s' : Site ε}
    {r : Except Fault Bool} (h : (execute run done verb failure).Ends s r s') :
    ExecuteEnds run done s r s' := by
  unfold execute at h
  rcases requireEngine_cases s with ⟨name, d, e, ready, required⟩ | ⟨f, unready, required⟩
  · rw [Act.ends_bind_of_ok required,
      Act.ends_bind_of_ok (Site.ends_descriptor_of_some ready.described),
      Act.ends_bind_of_ok (ends_canSubmit d.category s)] at h
    split at h
    · rename_i nothing
      simp only [Bool.not_eq_true', decide_eq_false_iff_not,
        Decidable.not_and_iff_not_or_not, Decidable.not_not]
        at nothing
      obtain ⟨rfl, rfl⟩ := Act.ends_pure.1 h
      exact .needless ready nothing
    · rename_i waiting
      simp only [Bool.not_eq_true', Bool.not_eq_false, decide_eq_true_eq] at waiting
      obtain ⟨resting, frames⟩ := waiting
      rw [Act.ends_get_bind] at h
      have attempted := (Site.onEngine name do s.pipeline.decoder.prepare d; run).ends_self s
      obtain ⟨e', ends, same⟩ := (Site.ends_onEngine ready.held).1 attempted
      rw [Act.ends_bind_of_ok (Act.ends_attempt.2 ⟨_, rfl, attempted⟩), same] at h
      cases result : ((Site.onEngine name do s.pipeline.decoder.prepare d; run) s).result with
      | ok _ =>
        rw [result] at h ends
        rw [Site.ends_update_bind, report, Act.ends_log_bind] at h
        obtain ⟨rfl, rfl⟩ := Act.ends_pure.1 h
        exact .started ready resting frames ends
      | error f =>
        rw [result] at h ends
        have answer : ExecuteEnds run done s _ _ := .failed ready resting frames ends
        cases runtime : f.isRuntime with
        | true =>
          simp only [runtime, if_true, report, Act.ends_log_bind] at h answer
          obtain ⟨rfl, rfl⟩ := Act.ends_pure.1 h
          exact answer
        | false =>
          simp only [runtime, Bool.false_eq_true, if_false] at h answer
          obtain ⟨rfl, rfl⟩ := Act.ends_fail.1 h
          exact answer
  · rw [Act.ends_bind_of_error required] at h
    obtain ⟨rfl, rfl⟩ := h
    exact .unready unready

inductive AskEnds {α : Type} (x : Act ε α) (s : Site ε) : Except Fault α → Site ε → Prop
  | unready {f : Fault} (unready : Unready s f) : AskEnds x s (.error f) s
  | asked {name : String} {d : Descriptor} {e e' : ε} {r : Except Fault α}
    (ready : Ready s name d e) (ends : x.Ends e r e') : AskEnds x s r (s.withEngine name e')

theorem ask_cases {α : Type} {x : Act ε α} {s s' : Site ε} {r : Except Fault α}
    (h : (requireEngine >>= fun engine => Site.onEngine engine x).Ends s r s') :
    AskEnds x s r s' := by
  rcases requireEngine_cases s with ⟨name, d, e, ready, required⟩ | ⟨f, unready, required⟩
  · rw [Act.ends_bind_of_ok required] at h
    obtain ⟨e', ends, rfl⟩ := (Site.ends_onEngine ready.held).1 h
    exact .asked ready ends
  · rw [Act.ends_bind_of_error required] at h
    obtain ⟨rfl, rfl⟩ := h
    exact .unready unready

theorem AskEnds.pipeline {α : Type} {x : Act ε α} {s s' : Site ε} {r : Except Fault α}
    (h : AskEnds x s r s') : s'.pipeline = s.pipeline := by
  cases h <;> rfl

theorem AskEnds.descriptor? {α : Type} {x : Act ε α} {s s' : Site ε} {r : Except Fault α}
    (h : AskEnds x s r s') : s'.descriptor? = s.descriptor? := by
  cases h <;> rfl

theorem AskEnds.described {α : Type} {x : Act ε α} {s s' : Site ε} {f : Fault}
    (h : AskEnds x s (.error f) s') (runtime : f.isRuntime = true) :
    ∃ d, s.descriptor? = some d := by
  cases h with
  | unready unready => exact unready.described runtime
  | asked ready _ => exact ⟨_, ready.described⟩

inductive WaitEnds (s : Site ε) (timeout : Value) : Except Fault Bool → Site ε → Prop
  | idle (resting : s.pipeline.stage ≠ .submitted) : WaitEnds s timeout (.ok false) s
  | known (submitted : s.pipeline.stage = .submitted) (done : s.pipeline.done = true) :
    WaitEnds s timeout (.ok true) s
  | answered {done : Bool} {s' : Site ε} (submitted : s.pipeline.stage = .submitted)
    (running : s.pipeline.done = false) (asks : AskEnds (Backend.wait timeout) s (.ok done) s') :
    WaitEnds s timeout (.ok done) (told s' done)
  | failed {f : Fault} {s' : Site ε} (submitted : s.pipeline.stage = .submitted)
    (running : s.pipeline.done = false) (asks : AskEnds (Backend.wait timeout) s (.error f) s')
    (runtime : f.isRuntime = true) : WaitEnds s timeout (.ok false) (dropped s')
  | broken {f : Fault} {s' : Site ε} (submitted : s.pipeline.stage = .submitted)
    (running : s.pipeline.done = false) (asks : AskEnds (Backend.wait timeout) s (.error f) s')
    (other : f.isRuntime = false) : WaitEnds s timeout (.error f) s'

theorem wait_cases {s s' : Site ε} {timeout : Value} {r : Except Fault Bool}
    (h : (wait timeout).Ends s r s') : WaitEnds s timeout r s' := by
  simp only [wait, Act.ends_get_bind] at h
  split at h
  · rename_i resting
    obtain ⟨rfl, rfl⟩ := Act.ends_pure.1 h
    exact .idle resting
  · rename_i submitted
    have submitted := Decidable.not_not.1 submitted
    split at h
    · rename_i done
      obtain ⟨rfl, rfl⟩ := Act.ends_pure.1 h
      exact .known submitted done
    · rename_i running
      have running := Bool.eq_false_iff.2 running
      obtain ⟨answer, after, attempted, h⟩ | ⟨_, _, attempted⟩ := Act.ends_bind.1 h
      · obtain ⟨inner, same, asking⟩ := Act.ends_attempt.1 attempted
        cases same
        have asks := ask_cases asking
        cases answer with
        | ok done =>
          rw [Site.ends_update_bind] at h
          obtain ⟨rfl, rfl⟩ := Act.ends_pure.1 h
          exact .answered submitted running asks
        | error f =>
          have described := asks.described
          rw [← asks.descriptor?] at described
          rcases ends_giveUp described h with ⟨runtime, rfl, rfl⟩ | ⟨other, rfl, rfl⟩
          · exact .failed submitted running asks runtime
          · exact .broken submitted running asks other
      · obtain ⟨_, same, _⟩ := Act.ends_attempt.1 attempted
        cases same

end FrameBatch.Pipeline
