import FrameBatch.Proofs.Act.Blind
import FrameBatch.Proofs.Pipeline.Moves
import FrameBatch.Tensor.Bilinear

namespace FrameBatch.Pipeline

def Command.Gathers : Command → Prop
  | .enqueue .. | .submit | .synchronize => True
  | _ => False

variable {ε : Type}

def withOutputs (outputs : Entries String Output) (s : Site ε) : Site ε :=
  { s with bench := { s.bench with outputs } }

section

variable [Backend ε] {s s' : Site ε}

theorem EnqueueEnds.pipeline [Resizer] {frame : Frame} {location : Value} {r : Except Fault Bool}
    (h : EnqueueEnds s frame location r s') (failed : r ≠ .ok true) :
    s'.pipeline = s.pipeline := by
  cases h with
  | accepted _ _ _ _ _ => exact absurd rfl failed
  | _ => rfl

theorem ExecuteEnds.pipeline {run : Act ε Unit} {done : Bool} {r : Except Fault Bool}
    (h : ExecuteEnds run done s r s') (failed : r ≠ .ok true) : s'.pipeline = s.pipeline := by
  cases h with
  | started _ _ _ _ => exact absurd rfl failed
  | _ => rfl

theorem Command.Gathers.pipeline [Resizer] {c : Command} (gathers : c.Gathers)
    {r : Except Fault Bool}
    (h : c.act.Ends s r s') (failed : r ≠ .ok true) : s'.pipeline = s.pipeline := by
  cases c with
  | enqueue frame location => exact (enqueue_cases h).pipeline failed
  | submit => exact (execute_cases h).pipeline failed
  | synchronize => exact (execute_cases h).pipeline failed
  | _ => exact gathers.elim

theorem WaitEnds.atomic {timeout : Value} (h : WaitEnds s timeout (.ok false) s') :
    s'.pipeline = s.pipeline ∨
      (∃ f asked, f.isRuntime = true ∧ AskEnds (Backend.wait timeout) s (.error f) asked) ∧
        s'.pipeline = s.pipeline.cleared := by
  cases h with
  | idle _ => exact .inl rfl
  | answered _ running asks =>
    refine .inl ?_
    rw [told, asks.pipeline, ← running]
  | failed _ _ asks runtime =>
    refine .inr ⟨⟨_, _, runtime, asks⟩, ?_⟩
    rw [dropped, asks.pipeline]

theorem FetchEnds.atomic (h : FetchEnds s (.ok false) s') :
    s'.pipeline = s.pipeline ∨
      (∃ f, f.isRuntime = true ∧
        ((∃ asked, AskEnds (Backend.wait (.int 0)) s (.error f) asked) ∨
          ∃ waited read, isOver.Ends s (.ok true) waited ∧
            DecodeEnds waited (.error f) read)) ∧
        s'.pipeline = s.pipeline.cleared := by
  generalize answer : (Except.ok false : Except Fault Bool) = r at h
  cases h with
  | idle _ _ => exact .inl rfl
  | early submitted asks _ =>
    subst answer
    rcases (isOver_cases submitted asks).atomic with same | ⟨⟨f, asked, runtime, asks⟩, cleared⟩
    · exact .inl same
    · exact .inr ⟨⟨f, runtime, .inl ⟨asked, asks⟩⟩, cleared⟩
  | failed submitted asks decodes runtime =>
    refine .inr ⟨⟨_, runtime, .inr ⟨_, _, asks, decodes⟩⟩, ?_⟩
    obtain ⟨pending, read⟩ := decodes.frame
    rw [dropped, read, (isOver_cases submitted asks).pipeline_of_ok]
    rfl
  | broken _ _ _ _ => cases answer
  | @fetched _ delivery _ _ _ _ _ _ _ => cases delivery <;> cases answer

end

section

variable (outputs : Entries String Output) (s : Site ε)

open Act (Blind)

theorem blind_onEngine {α : Type} (name : String) (x : Act ε α) :
    Blind (withOutputs outputs) (Site.onEngine name x) s := by
  simp only [Blind, Site.onEngine, Site.onBench, Act.on, Bench.onEngine, withOutputs]
  cases s.bench.engines.get? name <;> rfl

theorem blind_update (f : Pipeline → Pipeline) :
    Blind (withOutputs outputs) (Site.update f) s :=
  Act.blind_modify rfl

theorem blind_descriptor : Blind (withOutputs outputs) Site.descriptor s := by
  refine Act.blind_get_bind rfl ?_
  cases s.bench.descriptors.get? s.pipeline.descriptor <;> rfl

theorem blind_giveUp (f : Fault) (message : Descriptor → String) :
    Blind (withOutputs outputs) (if f.isRuntime then do
      report .error (message (← Site.descriptor))
      Site.update cleared
      return false
    else Act.fail f : Act (Site ε) Bool) s := by
  split
  · exact Act.blind_bind (blind_descriptor outputs s) fun _ _ => rfl
  · rfl

theorem blind_canSubmit (category : String) :
    Blind (withOutputs outputs) (canSubmit category) s := by
  refine Act.blind_get_bind rfl ?_
  dsimp only
  split
  · rfl
  · split <;> rfl

variable [Backend ε]

theorem blind_requireEngine : Blind (withOutputs outputs) requireEngine s := by
  refine Act.blind_get_bind rfl (Act.blind_bind (blind_descriptor outputs s) fun d _ => ?_)
  dsimp only
  split
  · exact Act.blind_fail _ _ _
  · split
    · split
      · exact Act.blind_pure _ _ _
      · exact Act.blind_fail _ _ _
    · exact Act.blind_fail _ _ _

theorem blind_enqueue [Resizer] (frame : Frame) (location : Value) :
    Blind (withOutputs outputs) (enqueue frame location) s := by
  refine Act.blind_bind (blind_requireEngine outputs s) fun engine _ =>
    Act.blind_get_bind rfl (Act.blind_bind (blind_descriptor outputs _) fun d _ => ?_)
  have declines (message : String) (s : Site ε) :
      Blind (withOutputs outputs) (do report .warning message; return false) s := rfl
  split
  · exact declines _ _
  · split
    · exact declines _ _
    · refine Act.blind_bind (Act.blind_lift _ _ _) fun rect _ =>
        Act.blind_bind (blind_onEngine outputs _ engine _) fun batch _ =>
        Act.blind_bind (Act.blind_lift _ _ _) fun loaded _ =>
        Act.blind_bind (blind_onEngine outputs _ engine _) fun _ _ =>
        Act.blind_bind (blind_update outputs _ _) fun _ _ => ?_
      rfl

theorem blind_execute (run : Act ε Unit) (done : Bool) (verb failure : String) :
    Blind (withOutputs outputs) (execute run done verb failure) s := by
  refine Act.blind_bind (blind_requireEngine outputs s) fun engine _ =>
    Act.blind_bind (blind_descriptor outputs _) fun d _ =>
    Act.blind_bind (blind_canSubmit outputs _ _) fun can _ => ?_
  split
  · rfl
  · refine Act.blind_get_bind rfl
      (Act.blind_bind (Act.blind_attempt (blind_onEngine outputs _ engine _)) fun answer _ => ?_)
    cases answer with
    | ok _ => rfl
    | error f =>
      dsimp only
      split <;> rfl

theorem blind_wait (timeout : Value) : Blind (withOutputs outputs) (wait timeout) s := by
  refine Act.blind_get_bind rfl ?_
  dsimp only
  split
  · rfl
  · split
    · rfl
    · refine Act.blind_bind (Act.blind_attempt (Act.blind_bind (blind_requireEngine outputs s)
        fun engine _ => blind_onEngine outputs _ engine _)) fun answer _ => ?_
      cases answer with
      | ok _ => rfl
      | error f => exact blind_giveUp outputs _ f _

theorem blind_isOver : Blind (withOutputs outputs) isOver s := by
  refine Act.blind_get_bind rfl ?_
  split
  · rfl
  · exact blind_wait outputs s _

theorem blind_decodeBatch : Blind (withOutputs outputs) decodeBatch s := by
  refine Act.blind_bind (blind_requireEngine outputs s) fun engine _ =>
    Act.blind_bind (blind_descriptor outputs _) fun d _ => Act.blind_get_bind rfl ?_
  split
  · rfl
  · exact Act.blind_bind (blind_onEngine outputs _ engine _) fun _ _ => rfl

theorem blind_fetch {s' : Site ε} (answer : fetch.Ends s (.ok false) s') :
    Blind (withOutputs outputs) fetch s := by
  rw [fetch, Act.ends_get_bind] at answer
  refine Act.blind_get_bind rfl ?_
  dsimp only at answer ⊢
  split
  · exact Act.blind_bind (blind_descriptor outputs s) fun _ _ => rfl
  · rename_i submitted
    rw [if_neg submitted] at answer
    refine Act.blind_bind (blind_isOver outputs s) fun ended asked => ?_
    rw [Act.ends_bind_of_ok ⟨asked, rfl⟩] at answer
    cases ended with
    | false => rfl
    | true =>
      refine Act.blind_bind (Act.blind_attempt (blind_decodeBatch outputs _))
        fun decoded attempted => ?_
      simp only [Bool.not_true, Bool.false_eq_true, if_false] at answer
      rw [Act.ends_bind_of_ok ⟨attempted, rfl⟩] at answer
      cases decoded with
      | error f => exact blind_giveUp outputs _ f _
      | ok results =>
        -- results that were decoded are given out, and then the answer is not false
        rw [Site.ends_update_bind] at answer
        rcases Act.ends_bind.1 answer with ⟨_, _, _, answer⟩ | ⟨_, same, _⟩
        · cases (Act.ends_pure.1 answer).1
        · cases same

theorem Command.blind [Resizer] {c : Command} (answer : (c.act s).result = .ok false) :
    Blind (withOutputs outputs) c.act s := by
  cases c with
  | attach engine =>
    obtain ⟨r, _, same⟩ := attach_command_cases ⟨answer, rfl⟩
    cases r <;> cases same
  | enqueue frame location => exact blind_enqueue outputs s frame location
  | submit => exact blind_execute outputs s _ _ _ _
  | synchronize => exact blind_execute outputs s _ _ _ _
  | wait timeout => exact blind_wait outputs s timeout
  | fetch => exact blind_fetch outputs s ⟨answer, rfl⟩
  | observe output =>
    simp only [Command.act, Act.bind_of_ok (Act.get_apply s)] at answer
    cases found : s.bench.outputs.get? output <;> simp only [found] at answer <;> cases answer

end

variable [Backend ε]

/-- An operation that gathers or submits frames and does not answer true, and an engine that cannot
be attached, leave the pipeline exactly as it was. A wait or a fetch that answers false does too,
unless the backend, the decoder or the lack of an engine failed at run time, which costs exactly the
batch. An operation that answers false goes the same way whatever the outputs at the bench are: it
gives nothing to any of them. -/
theorem failure_atomic [Resizer] (s : Site ε) :
    (∀ c : Command, c.Gathers → (c.act s).result ≠ .ok true →
      (c.act s).state.pipeline = s.pipeline) ∧
    (∀ engine f, (loadEngine engine s).result = .error f →
      (loadEngine engine s).state.pipeline = s.pipeline) ∧
    (∀ timeout, (wait timeout s).result = .ok false →
      (wait timeout s).state.pipeline = s.pipeline ∨
        (∃ f asked, f.isRuntime = true ∧ AskEnds (Backend.wait timeout) s (.error f) asked) ∧
          (wait timeout s).state.pipeline =
            { s.pipeline with stage := .idle, enqueued := 0, pending := [], done := false }) ∧
    ((fetch s).result = .ok false →
      (fetch s).state.pipeline = s.pipeline ∨
        (∃ f, f.isRuntime = true ∧
          ((∃ asked, AskEnds (Backend.wait (.int 0)) s (.error f) asked) ∨
            ∃ waited read, isOver.Ends s (.ok true) waited ∧
              DecodeEnds waited (.error f) read)) ∧
          (fetch s).state.pipeline =
            { s.pipeline with stage := .idle, enqueued := 0, pending := [], done := false }) ∧
    ∀ c : Command, (c.act s).result = .ok false → ∀ outputs,
      c.act (withOutputs outputs s) =
        ⟨.ok false, withOutputs outputs (c.act s).state, (c.act s).trail⟩ := by
  refine ⟨fun c gathers => gathers.pipeline (Act.ends_self _ _), ?_, ?_, ?_, ?_⟩
  · intro engine f fault
    exact (attach_cases ⟨fault, rfl⟩).pipeline
  · intro timeout answer
    exact (wait_cases ⟨answer, rfl⟩).atomic
  · intro answer
    exact (fetch_cases ⟨answer, rfl⟩).atomic
  · intro c answer outputs
    rw [← answer]
    exact Command.blind outputs s answer

def lostRun : Site Onnx.Engine :=
  (played [] (plateSite 1 [{ fail := some "device lost" }])
    [.command (.attach "cpu"), enqueueAt 0, .command .submit]).2

theorem atomic_lostRun :
    (Command.submit.act lostRun).result = .ok false ∧
      (Command.submit.act lostRun).state.pipeline = lostRun.pipeline ∧
    (loadEngine "gpu" lostRun).result = .error (.refused (.absent "gpu")) ∧
      (loadEngine "gpu" lostRun).state.pipeline = lostRun.pipeline ∧
    (wait .null lostRun).result = .ok false ∧
      (wait .null lostRun).state.pipeline =
        { lostRun.pipeline with stage := .idle, enqueued := 0, pending := [], done := false } ∧
    (fetch lostRun).result = .ok false ∧
      (fetch lostRun).state.pipeline =
        { lostRun.pipeline with stage := .idle, enqueued := 0, pending := [], done := false } ∧
    (Command.fetch.act (withOutputs [("sink", .toSink "sink" .raising)] lostRun)).result =
      .ok false := by
  obtain ⟨gathers, attaches, waits, fetches, unseen⟩ := failure_atomic lostRun
  have submitted : (Command.submit.act lostRun).result = .ok false := by decide +kernel
  have absent : (loadEngine "gpu" lostRun).result = .error (.refused (.absent "gpu")) := rfl
  have waited : (wait .null lostRun).result = .ok false := by decide +kernel
  have fetched : (fetch lostRun).result = .ok false := by decide +kernel
  have inFlight : lostRun.pipeline.stage = .submitted := by decide +kernel
  refine ⟨submitted, gathers .submit trivial (by simp [submitted]), absent, attaches _ _ absent,
    waited, ?_, fetched, ?_, ?_⟩
  · rcases waits .null waited with same | ⟨_, cleared⟩
    · have vacated : (wait .null lostRun).state.pipeline.stage = .idle := by decide +kernel
      rw [same, inFlight] at vacated
      cases vacated
    · exact cleared
  · rcases fetches fetched with same | ⟨_, cleared⟩
    · have vacated : (fetch lostRun).state.pipeline.stage = .idle := by decide +kernel
      rw [same, inFlight] at vacated
      cases vacated
    · exact cleared
  · rw [unseen .fetch fetched]

end FrameBatch.Pipeline
