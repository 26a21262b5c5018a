import FrameBatch.Proofs.Output.Receiving
import FrameBatch.Proofs.Recognition.Course

/-!
What holds of a recognition between its acts: the pipeline rests, its engine can be used, and its
only output is a log that has passed on all it was given. Enqueueing and running a batch keep this.
-/

namespace FrameBatch.Recognition

open Pipeline (Ready Sound EnqueueEnds Settled cycle cycle_cases deliver deliver_frame)
open Backend (Uses)

variable {asynchronous : Bool} {s s' : State}

/-- The recognition goes on from where it was opened, and the log has seen so many results. -/
structure Going (opened : State) (d : Descriptor) (e₀ : Engine) (seen : Nat) (s : State) :
    Prop where
  journal : s.journal = opened.journal
  sound : Sound opened.site.pipeline s.site.pipeline
  resting : s.site.pipeline.stage ≠ .submitted
  ready : ∃ e, Ready s.site engineName d e ∧ Uses e₀ e
  registered : s.site.pipeline.outputs = [outputName]
  log : s.site.bench.outputs.get? outputName = some (.log outputName .info seen [])

theorem ofValue_place (img : Image) :
    Rect.ofValue (.tuple [.int 0, .int 0, .int img.width, .int img.height]) = .ok (place img) := rfl

theorem ends_handle {name : String} {level : Level} {seen : Nat} {results : List Result}
    {o : Output} {r : Except Fault Unit} :
    Output.handle.Ends (.log name level seen results) r o ↔
      r = .ok () ∧ o = .log name level seen [] := by
  rw [Act.Ends, Output.handle_log, eq_comm (a := r), eq_comm (a := o)]

theorem log_of_deliver {seen : Nat} {results : List Result} {t t' : Site Engine}
    (log : t.bench.outputs.get? outputName = some (.log outputName .info seen []))
    (delivers : (deliver results [outputName]).Ends t (.ok ()) t') :
    t'.bench.outputs.get? outputName =
      some (.log outputName .info (seen + results.length) results) := by
  have accepts : (Output.accept results).Ends (.log outputName .info seen []) (.ok ())
      (.log outputName .info (seen + results.length) results) := ⟨rfl, rfl⟩
  have delivered := Site.ends_onBench.2 ⟨_, (Bench.ends_onOutput log).2 ⟨_, accepts, rfl⟩, rfl⟩
  rw [deliver, Act.ends_bind_of_ok delivered] at delivers
  obtain ⟨_, rfl⟩ := Act.ends_pure.1 delivers
  simp [Entries.get?_adjust_self, log]

namespace Going

variable {opened : State} {d : Descriptor} {e₀ : Engine} {seen : Nat}

theorem length_batch (going : Going opened d e₀ seen s) :
    (batch s).length = s.site.pipeline.enqueued := by
  rw [batch, List.length_map, going.sound.matched]

theorem enqueued_ne_zero (going : Going opened d e₀ seen s) (frames : batch s ≠ []) :
    s.site.pipeline.enqueued ≠ 0 := by
  have some := List.length_pos_iff.2 frames
  have length := going.length_batch
  omega

theorem congr (going : Going opened d e₀ seen s) (journal : s'.journal = s.journal)
    (site : s'.site = s.site) : Going opened d e₀ seen s' := by
  refine ⟨journal.trans going.journal, ?_, ?_, ?_, ?_, ?_⟩ <;> rw [site]
  · exact going.sound
  · exact going.resting
  · exact going.ready
  · exact going.registered
  · exact going.log

theorem enqueue [Resizer] {img : Image} {accepted : Bool} (going : Going opened d e₀ seen s)
    (h : (enqueue img).Ends s (.ok accepted) s') :
    Going opened d e₀ seen s' ∧
      (accepted = true ∧ ((batch s).length : Int) ≠ opened.site.pipeline.maxBatch ∧
          batch s' = batch s ++ [place img] ∨
        accepted = false ∧ ((batch s).length : Int) = opened.site.pipeline.maxBatch ∧
          batch s' = batch s) := by
  obtain ⟨ends, journal⟩ := measures_onEnqueueing.around_onSite_cases h
  have capacity := going.sound.capacity_eq
  obtain ⟨e, ready, uses⟩ := going.ready
  rw [going.length_batch, ← capacity]
  have enqueues := Pipeline.enqueue_cases ends
  have sound := enqueues.sound going.sound
  generalize answer : (Except.ok accepted : Except Fault Bool) = r at enqueues
  generalize after : s'.site = site at enqueues sound
  cases enqueues with
  | unready _ => cases answer
  | misplaced _ _ _ _ => cases answer
  | failed _ _ _ _ _ => cases answer
  | refused _ full =>
    cases answer
    refine ⟨going.congr journal after, .inr ⟨rfl, full.resolve_left going.resting, ?_⟩⟩
    rw [batch, batch, after]
  | accepted ready' _ room placed places =>
    cases answer
    obtain ⟨rfl, rfl, rfl⟩ := ready.unique ready'
    cases (ofValue_place img).symm.trans placed
    have placing := Pipeline.uses_place places
    refine ⟨⟨journal.trans going.journal, ?_, ?_, ?_, ?_, ?_⟩, .inl ⟨rfl, room, ?_⟩⟩
    · rw [after]; exact sound
    · rw [after]; simp [Pipeline.withFrame]
    · rw [after]
      exact ⟨_, (ready.withEngine placing).congr rfl rfl rfl, uses.trans placing⟩
    · rw [after]; exact going.registered
    · rw [after]; exact going.log
    · rw [batch, batch, after]
      simp [Pipeline.withFrame, Decoder.location_makeResult]

/-- What a batch has come to when it has been run and its results have been passed on. -/
inductive Ran (s s' : State) : (taken fetched : Bool) → List Result → Prop
  | refused (kept : batch s' = batch s) : Ran s s' false false []
  | lost (empty : batch s' = []) : Ran s s' true false []
  | given {results : List Result} (places : results.map (·.location) = batch s)
    (empty : batch s' = []) : Ran s s' true true results

theorem runs {taken fetched : Bool} {handled : List Result} (going : Going opened d e₀ seen s)
    (frames : batch s ≠ []) (h : Runs asynchronous s taken fetched handled s') :
    Going opened d e₀ (seen + handled.length) s' ∧ Ran s s' taken fetched handled := by
  obtain ⟨e, ready, uses⟩ := going.ready
  have filled := going.enqueued_ne_zero frames
  obtain ⟨answer, cycles, handles⟩ := h
  rename_i middle
  obtain ⟨cycles, journal⟩ := measures_onInference.around_onSite_cases cycles
  have ends := cycle_cases ready going.resting filled cycles
  obtain ⟨e', ready', uses'⟩ := ends.ready going.sound.builtin ready
  have settled := ends.settled going.sound.builtin rfl
  -- what the log holds now is passed on, and it holds nothing afterwards
  have passing {now : Nat} {results : List Result}
      (held : middle.site.bench.outputs.get? outputName =
        some (.log outputName .info now results)) :
      waiting middle = results ∧ s'.journal = middle.journal ∧
        s'.site.pipeline = middle.site.pipeline ∧ Ready s'.site engineName d e' ∧
          s'.site.bench.outputs.get? outputName = some (.log outputName .info now []) := by
    obtain ⟨bench, changes, rfl⟩ := ends_onBench.1 handles
    obtain ⟨o, passes, rfl⟩ := (Bench.ends_onOutput held).1 changes
    obtain ⟨_, rfl⟩ := ends_handle.1 passes
    refine ⟨by simp only [waiting, held], rfl, rfl, ready'.congr rfl rfl rfl, ?_⟩
    simp [Entries.get?_adjust_self, held]
  have going' {now : Nat} {results : List Result}
      (held : middle.site.bench.outputs.get? outputName =
        some (.log outputName .info now results))
      (sound : Sound opened.site.pipeline middle.site.pipeline)
      (resting : middle.site.pipeline.stage ≠ .submitted)
      (registered : middle.site.pipeline.outputs = [outputName]) :
      waiting middle = results ∧ Going opened d e₀ now s' ∧ batch s' = batch middle := by
    obtain ⟨waits, journal', pipeline, ready', log⟩ := passing held
    refine ⟨waits, ⟨journal'.trans (journal.trans going.journal), ?_, ?_, ⟨e', ready',
      uses.trans uses'⟩, ?_, log⟩, ?_⟩
    · rw [pipeline]; exact sound
    · rw [pipeline]; exact resting
    · rw [pipeline]; exact registered
    · rw [batch, batch, pipeline]
  cases settled with
  | refused answer' pipeline outputs =>
    cases answer.symm.trans answer'
    obtain ⟨waits, going', kept⟩ := going' (outputs ▸ going.log) (pipeline ▸ going.sound)
      (pipeline ▸ going.resting) (pipeline ▸ going.registered)
    rw [waits]
    refine ⟨going', .refused ?_⟩
    rw [kept, batch, batch, pipeline]
  | lost answer' pipeline outputs =>
    cases answer.symm.trans answer'
    obtain ⟨waits, going', kept⟩ := going' (outputs ▸ going.log) (pipeline ▸ going.sound.cleared)
      (by rw [pipeline]; simp [Pipeline.cleared]) (by rw [pipeline]; exact going.registered)
    rw [waits]
    refine ⟨going', .lost ?_⟩
    rw [kept, batch, pipeline]
    rfl
  | @given results t answer' pipeline places outputs delivers =>
    cases answer.symm.trans answer'
    rw [going.registered] at delivers
    have held := log_of_deliver (outputs ▸ going.log) delivers
    obtain ⟨waits, going', kept⟩ := going' held (pipeline ▸ going.sound.withResults results)
      (by rw [pipeline]; simp) (by rw [pipeline]; exact going.registered)
    rw [waits]
    refine ⟨going', .given places ?_⟩
    rw [kept, batch, pipeline]
    rfl

end Going

end FrameBatch.Recognition
