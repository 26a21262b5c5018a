import FrameBatch.Proofs.Decoder.Prepared
import FrameBatch.Proofs.Engine.Functional
import FrameBatch.Proofs.Pipeline.Atomic
import FrameBatch.Proofs.Pipeline.Slots

/-!
Rounds of a pipeline. The frames of a batch are accepted, the batch is executed in one of two modes,
and fetched when its run is over; attempts that fail on the way are made again, and callers look at
the run as often as they like. Whatever the mode, the batch is decoded from the output of one run on
the inputs as they were prepared.
-/

namespace FrameBatch.Pipeline

open Backend (Lawful Inert Serve Steps Poll Polls Ran Functional contents)
open Decoder (Alike)

variable {ε : Type} [Backend ε]

section

variable [Resizer]

/-- A frame is not accepted, or the batch not executed. -/
inductive Attempt : Site ε → Site ε → Prop
  | fails {c : Command} {s s' : Site ε} {r : Except Fault Bool} (gathers : c.Gathers)
    (ends : c.act.Ends s r s') (failed : r ≠ .ok true) : Attempt s s'

abbrev Attempts : Site ε → Site ε → Prop := Relation.ReflTransGen Attempt

inductive Accepted : List (Frame × Value) → Site ε → Site ε → Prop
  | done {s s' : Site ε} (attempts : Attempts s s') : Accepted [] s s'
  | accepts {frame : Frame} {location : Value} {rest : List (Frame × Value)}
    {s s₁ s₂ s' : Site ε} (attempts : Attempts s s₁)
    (ends : (enqueue frame location).Ends s₁ (.ok true) s₂) (accepted : Accepted rest s₂ s') :
    Accepted ((frame, location) :: rest) s s'

end

/-- The batch is executed in one of the two modes. -/
inductive Executed : Site ε → Site ε → Prop
  | synchronously {s s' : Site ε} (ends : synchronize.Ends s (.ok true) s') : Executed s s'
  | asynchronously {s s' : Site ε} (ends : submit.Ends s (.ok true) s') : Executed s s'

section

variable [Resizer]

/-- A wait or a fetch leaves the batch in flight, or a held run ends. -/
inductive Look : Site ε → Site ε → Prop
  | waits {timeout : Value} {done : Bool} {s s' : Site ε}
    (ends : (wait timeout).Ends s (.ok done) s') (flying : s'.pipeline.stage = .submitted) :
    Look s s'
  | fetches {s s' : Site ε} (ends : fetch.Ends s (.ok false) s')
    (flying : s'.pipeline.stage = .submitted) : Look s s'
  | released {engine : String} {s s' : Site ε} {r : Except Fault Bool}
    (running : s.pipeline.done = false) (ends : (Turn.release engine).act.Ends s r s') : Look s s'

abbrev Looks : Site ε → Site ε → Prop := Relation.ReflTransGen Look

/-- A batch from its first frame to its results. -/
inductive Round (batch : List (Frame × Value)) : Site ε → Site ε → Prop
  | round {s s₁ s₂ s₃ s' : Site ε} (accepted : Accepted batch s s₁) (executed : Executed s₁ s₂)
    (looks : Looks s₂ s₃) (ends : fetch.Ends s₃ (.ok true) s') : Round batch s s'

inductive Rounds : List (List (Frame × Value)) → Site ε → List (Site ε) → Prop
  | done {s : Site ε} : Rounds [] s []
  | next {batch : List (Frame × Value)} {batches : List (List (Frame × Value))} {s s' : Site ε}
    {served : List (Site ε)} (round : Round batch s s') (rounds : Rounds batches s' served) :
    Rounds (batch :: batches) s (s' :: served)

end

/-- What a run has come to that was begun on an engine, and whether it is known to be over. -/
inductive Course (begun : ε) : Bool → ε → Prop
  | ended {e : ε} (ran : Ran begun e) : Course begun true e
  | going {e₁ e : ε} (starts : Backend.start.Ends begun (.ok ()) e₁) (polls : Polls e₁ e) :
    Course begun false e

/-- The batch of a site is in flight on an engine that was prepared for it. -/
structure Underway (origin : Site ε) (name : String) (d : Descriptor) (prepared : ε)
    (s : Site ε) : Prop where
  batch : s.pipeline = origin.pipeline.withRun s.pipeline.done
  outputs : s.bench.outputs = origin.bench.outputs
  flight : ∃ e, Ready s name d e ∧ Course prepared s.pipeline.done e

/-- A site that differs from another one in the engine alone, and of the inputs in no more than what
preparing a request writes. -/
structure Kept (inputs : List String) (name : String) (d : Descriptor) (e : ε) (s s' : Site ε) :
    Prop where
  pipeline : s'.pipeline = s.pipeline
  outputs : s'.bench.outputs = s.bench.outputs
  engine : ∃ e', Ready s' name d e' ∧ Steps inputs e e' ∧ ∀ input ∈ inputs,
    Alike s.pipeline.decoder d input (contents (some input) e') (contents (some input) e)

section

variable {origin s s' : Site ε} {name : String} {d : Descriptor} {e prepared : ε}

theorem ExecuteEnds.ok_cases {run : Act ε Unit} {done : Bool}
    (h : ExecuteEnds run done s (.ok true) s') :
    ∃ name d e e', Ready s name d e ∧
      (s.pipeline.decoder.prepare d >>= fun _ => run).Ends e (.ok ()) e' ∧
      s' = { s.withEngine name e' with pipeline := s.pipeline.withRun done } := by
  generalize answer : (Except.ok true : Except Fault Bool) = r at h
  cases h with
  | @failed _ _ _ _ f _ _ _ _ => split at answer <;> cases answer
  | started ready _ _ ends => exact ⟨_, _, _, _, ready, ends, rfl⟩
  | _ => cases answer

theorem Underway.submitted (flight : Underway origin name d prepared s) :
    s.pipeline.stage = .submitted := by
  rw [flight.batch]
  rfl

variable [Lawful ε]

theorem Attempt.kept [Resizer] {network : Network} (attempt : Attempt s s')
    (ready : Ready s name d e) (plays : d.Plays network) (inert : Inert network.inputNames e) :
    Kept network.inputNames name d e s s' := by
  have unchanged : Kept network.inputNames name d e s s :=
    ⟨rfl, rfl, e, ready, .refl, fun _ _ => .inl rfl⟩
  have executes {run : Act ε Unit} {done : Bool} {r : Except Fault Bool}
      (h : ExecuteEnds run done s r s') (failed : r ≠ .ok true)
      (serve : ∀ {e : ε} {r e'}, run.Ends e r e' → Serve e e') :
      Kept network.inputNames name d e s s' := by
    cases h with
    | unready unready => exact absurd unready ready.not_unready
    | needless _ _ => exact unchanged
    | failed ready' _ _ ends =>
      obtain ⟨rfl, rfl, rfl⟩ := ready.unique ready'
      obtain ⟨steps, alike⟩ := Decoder.alike_execute inert plays.sequence serve ends
      exact ⟨rfl, rfl, _, ready.withEngine steps.uses, steps, alike⟩
    | started _ _ _ _ => exact absurd rfl failed
  obtain @⟨c, _, _, r, gathers, ends, failed⟩ := attempt
  cases c with
  | submit => exact executes (execute_cases ends) failed .starts
  | synchronize => exact executes (execute_cases ends) failed .infers
  | enqueue frame location =>
    cases enqueue_cases ends with
    | unready unready => exact absurd unready ready.not_unready
    | refused _ _ => exact unchanged
    | misplaced _ _ _ _ => exact unchanged
    | failed ready' _ _ _ placing =>
      obtain ⟨rfl, rfl, rfl⟩ := ready.unique ready'
      obtain ⟨input, member, bound⟩ := plays.input
      obtain ⟨steps, same, _⟩ := inert_place inert bound member placing
      exact ⟨rfl, rfl, _, ready.withEngine (uses_place placing), steps,
        fun other member => .inl (same other member (.inr (by simp)))⟩
    | accepted _ _ _ _ _ => exact absurd rfl failed
  | _ => exact gathers.elim

theorem Executed.underway (executed : Executed s s') (ready : Ready s name d e) :
    ∃ prepared, (s.pipeline.decoder.prepare d).Ends e (.ok ()) prepared ∧
      Underway s name d prepared s' := by
  have begins {run : Act ε Unit} {done : Bool} (h : ExecuteEnds run done s (.ok true) s')
      (serve : ∀ {e e' : ε}, run.Ends e (.ok ()) e' → Serve e e')
      (flight : ∀ {e e' : ε}, run.Ends e (.ok ()) e' → Course e done e') :
      ∃ prepared, (s.pipeline.decoder.prepare d).Ends e (.ok ()) prepared ∧
        Underway s name d prepared s' := by
    obtain ⟨_, _, _, e', ready', ends, rfl⟩ := h.ok_cases
    obtain ⟨rfl, rfl, rfl⟩ := ready.unique ready'
    rcases Act.ends_bind.1 ends with ⟨_, prepared, prepares, runs⟩ | ⟨_, same, _⟩
    · have uses := (Decoder.uses_prepare prepares).tail (serve runs).use
      exact ⟨prepared, prepares, rfl, rfl, e', (ready.withEngine uses).congr rfl rfl rfl,
        flight runs⟩
    · cases same
  cases executed with
  | synchronously ends =>
    exact begins (execute_cases ends) .infers fun runs => .ended (.inferred runs)
  | asynchronously ends =>
    exact begins (execute_cases ends) .starts fun runs => .going runs .refl

namespace Underway

theorem wait {timeout : Value} {done : Bool} (flight : Underway origin name d prepared s)
    (h : WaitEnds s timeout (.ok done) s') (flying : s'.pipeline.stage = .submitted) :
    Underway origin name d prepared s' := by
  cases h with
  | idle resting => exact absurd flight.submitted resting
  | known _ _ => exact flight
  | failed _ _ _ _ => cases flying
  | answered _ running asks =>
    obtain ⟨e, ready, going⟩ := flight.flight
    cases asks with
    | asked ready' ends =>
      obtain ⟨rfl, rfl, rfl⟩ := ready.unique ready'
      have after := ready.withEngine (.single (.waits ends))
      refine ⟨?_, flight.outputs, _, after.congr rfl rfl rfl, ?_⟩
      · rw [told, Site.withEngine, flight.batch]
        rfl
      · rw [running] at going
        cases going with
        | going starts polls =>
          cases done with
          | true => exact .ended (.waited starts polls ends)
          | false => exact .going starts (polls.tail (.waits ends))

theorem look [Resizer] (flight : Underway origin name d prepared s) (look : Look s s') :
    Underway origin name d prepared s' := by
  cases look with
  | waits ends flying => exact flight.wait (wait_cases ends) flying
  | fetches ends flying =>
    have h := fetch_cases ends
    generalize answer : (Except.ok false : Except Fault Bool) = r at h
    cases h with
    | idle resting _ => exact absurd flight.submitted resting
    | early submitted asks _ =>
      -- the fetch came to no more than its wait
      subst answer
      exact flight.wait (isOver_cases submitted asks) flying
    | failed _ _ _ _ => cases flying
    | broken _ _ _ _ => cases answer
    | @fetched _ delivery _ _ _ _ _ _ _ => cases delivery <;> cases answer
  | @released engine _ _ _ running ends =>
    rcases release_cases ends with rfl | ⟨e₁, held, rfl⟩
    · exact flight
    · obtain ⟨e, ready, going⟩ := flight.flight
      by_cases here : name = engine
      · subst here
        cases held.unique ready.held
        refine ⟨flight.batch, flight.outputs, _, ready.withEngine (.single (.released e₁)), ?_⟩
        change Course prepared s.pipeline.done _
        rw [running] at going ⊢
        cases going with
        | going starts polls => exact .going starts (polls.tail (.released e₁))
      · exact ⟨flight.batch, flight.outputs, e, ⟨ready.attached, ready.described,
          ready.held.withEngine_of_ne here _, ready.loaded⟩, going⟩

theorem looks [Resizer] (flight : Underway origin name d prepared s) (looks : Looks s s') :
    Underway origin name d prepared s' := by
  induction looks with
  | refl => exact flight
  | tail _ look ih => exact ih.look look

theorem fetched (flight : Underway origin name d prepared s)
    (builtin : origin.pipeline.decoder.Builtin) (h : fetch.Ends s (.ok true) s') :
    ∃ ran e' pending results read, Ran prepared ran ∧
      (origin.pipeline.decoder.decode d).Ends (ran, origin.pipeline.pending) (.ok results)
        (e', pending) ∧
      Steps [] prepared e' ∧ Ready s' name d e' ∧
      s'.pipeline = { origin.pipeline.cleared with results, stage := .fetched } ∧
      (deliver results origin.pipeline.outputs).Ends read (.ok ()) s' ∧
      read.bench.outputs = origin.bench.outputs := by
  have h := fetch_cases h
  generalize answer : (Except.ok true : Except Fault Bool) = r at h
  cases h with
  | idle _ empty => exact absurd answer.symm empty
  | early _ _ empty => exact absurd answer.symm empty
  | failed _ _ _ _ => cases answer
  | broken _ _ _ _ => cases answer
  | @fetched results delivery waited read _ submitted asks decodes delivers =>
    obtain ⟨_, rfl⟩ : ∃ u, delivery = .ok u := by
      cases delivery with
      | error f => cases answer
      | ok u => exact ⟨u, rfl⟩
    -- the wait of the fetch is the last look, and found the run to be over
    have waits := isOver_cases submitted asks
    have known := waits.pipeline_of_ok
    have flight' := flight.wait waits (by rw [known, submitted])
    obtain ⟨e, ready, going⟩ := flight'.flight
    rw [known] at going
    cases going with
    | ended ran =>
      cases decodes with
      | @decoded _ _ _ e' pending _ ready' decodes =>
        obtain ⟨rfl, rfl, rfl⟩ := ready.unique ready'
        have same := flight'.batch
        have decoder : waited.pipeline.decoder = origin.pipeline.decoder := by rw [same]; rfl
        have slots : waited.pipeline.pending = origin.pipeline.pending := by rw [same]; rfl
        have registered : s.pipeline.outputs = origin.pipeline.outputs := by
          rw [flight.batch]
          rfl
        rw [decoder, slots] at decodes
        rw [registered] at delivers
        have watches := (builtin.decode_keeps decodes).1
        have reading : Steps [] e e' :=
          Relation.ReflTransGen.mono (fun _ _ watch => .serves (.watches watch)) _ _ watches
        have after := ready.withEngine reading.uses
        obtain ⟨outputs, rfl⟩ := deliver_frame delivers
        refine ⟨e, e', pending, results, _, ran, decodes, ran.steps.trans reading,
          after.congr rfl rfl rfl, ?_, delivers, flight'.outputs⟩
        simp only [withResults, withPending, Site.withEngine]
        rw [same]
        rfl

end Underway

end

end FrameBatch.Pipeline
