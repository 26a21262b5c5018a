import FrameBatch.Proofs.Pipeline.Returns
import FrameBatch.Proofs.Recognition.Timing

namespace FrameBatch.Recognition

open Pipeline (Ready Settled Succeeds)
open Backend (Uses KeepsShape Shaped)

/-- The settings, the pictures and the inputs of the engine are such that pictures can be loaded and
runs can be prepared. -/
structure Able (settings : Settings) (files : Files) (paths : List String) (d : Descriptor)
    (e : Engine) : Prop where
  factor : ∃ x, settings.field "scale_factor" = .float x
  pictures : ∀ path ∈ paths, ∀ img, files.pixels? path = some img →
    Resizer.supports img.type = true ∧ 0 < img.height ∧ 0 < img.width
  planes : ∃ slots height width, 0 < height ∧ 0 < width ∧
    KeepsShape d.input [slots, 3, height, width] e
  sequence : ∃ length rest, 0 < volume (length :: rest) ∧
    KeepsShape d.sequence (length :: rest) e

theorem channels_of_pixels? {files : Files} {path : String} {img : Image}
    (read : files.pixels? path = some img) : img.channels = 3 := by
  unfold Files.pixels? at read
  split at read
  · split at read
    · cases read
      rfl
    · cases read
  · cases read

theorem Able.resizable {settings : Settings} {files : Files} {paths : List String} {d : Descriptor}
    {e : Engine} (able : Able settings files paths d e) {path : String} (member : path ∈ paths)
    {img : Image} (read : files.pixels? path = some img) : img.Resizable := by
  obtain ⟨supported, tall, wide⟩ := able.pictures path member img read
  have colours := channels_of_pixels? read
  exact ⟨supported, tall, wide, by rw [colours]; decide, by rw [colours]; decide⟩

variable {settings : Settings} {d : Descriptor} {e : Engine} {size : Int} {opened s s' : State}
  {paths : List String} {seen : Nat} {asynchronous : Bool}

theorem Opened.empty (starts : Opened settings d e size opened) : batch opened = [] := by
  rw [batch, starts.pipeline]
  rfl

theorem Opened.capacity (starts : Opened settings d e size opened) :
    opened.site.pipeline.maxBatch = size := by
  rw [starts.pipeline]
  rfl

theorem Opened.enough (starts : Opened settings d e size opened) {slots height width : Nat}
    (planes : Shaped d.input [slots, 3, height, width] e) : size ≤ (slots : Nat) := by
  obtain ⟨t, reads, slots', channels, height', width', shape, enough⟩ := starts.holds
  obtain ⟨t', e', reads', shape'⟩ := planes
  cases reads.result.symm.trans reads'.result
  cases shape.symm.trans shape'
  exact enough

theorem Going.enqueue_returns [Resizer] [LawfulResizer] (going : Going opened d e seen s)
    (starts : Opened settings d e size opened)
    (able : Able settings opened.journal.files paths d e) (ticks : Ticks s) {path : String}
    (member : path ∈ paths) {img : Image} (read : opened.journal.files.pixels? path = some img) :
    ∃ accepted s', (Recognition.enqueue img).Ends s (.ok accepted) s' ∧ Ticks s' := by
  obtain ⟨e', ready, uses⟩ := going.ready
  obtain ⟨slots, height, width, tall, wide, planes⟩ := able.planes
  obtain ⟨factor, real⟩ := able.factor
  have enough := starts.enough planes.shaped
  have sound := going.sound
  have scale : s.site.pipeline.scale = .float factor := by
    rw [sound.scale_eq, starts.pipeline, ← real]
    rfl
  obtain ⟨accepted, answer⟩ := Pipeline.enqueue_of_resizable ready sound.toConsistent
    (by rw [channels_of_pixels? read]; exact (planes.uses uses).shaped) tall wide
    (by rw [sound.capacity_eq, starts.capacity]; exact enough) (able.resizable member read) scale
    (ofValue_place img)
  obtain ⟨s', ends, _, ticks'⟩ := measures_onEnqueueing.around_onSite ticks ⟨answer, rfl⟩
  exact ⟨accepted, s', ends, ticks'⟩

/-- The engine that the recognition uses carries out a batch of the frames in the slots. -/
def BatchSucceeds (asynchronous : Bool) (d : Descriptor) (s : State) : Prop :=
  ∀ e, s.site.bench.Holds engineName e → Succeeds asynchronous d s.site.pipeline.enqueued e

theorem batchSucceeds_iff : BatchSucceeds asynchronous d s ↔
    ∀ entry ∈ s.site.bench.engines.get? engineName,
      Succeeds asynchronous d s.site.pipeline.enqueued entry.2 :=
  ⟨fun succeeds entry found => succeeds entry.2 ⟨entry.1, found⟩,
    fun seen _ ⟨key, found⟩ => seen (key, _) found⟩

instance : Decidable (BatchSucceeds asynchronous d s) := decidable_of_iff _ batchSucceeds_iff.symm

theorem Going.quiet (going : Going opened d e seen s) : Pipeline.Quiet s.site := by
  intro name registered
  rw [going.registered, List.mem_singleton] at registered
  subst registered
  exact ⟨_, going.log, nofun⟩

theorem Going.runs_returns (going : Going opened d e seen s)
    (starts : Opened settings d e size opened)
    (able : Able settings opened.journal.files paths d e) (ticks : Ticks s)
    (frames : batch s ≠ []) (succeeds : BatchSucceeds asynchronous d s) :
    ∃ handled s', Runs asynchronous s true true handled s' ∧ Ticks s' ∧
      Going opened d e (seen + handled.length) s' ∧ handled.map (·.location) = batch s ∧
        batch s' = [] := by
  obtain ⟨e', ready, uses⟩ := going.ready
  obtain ⟨length, rest, filled, sequence⟩ := able.sequence
  have sound := going.sound
  have enqueued := going.enqueued_ne_zero frames
  have plates : s.site.pipeline.decoder = .plate := by
    rw [sound.decoder_eq, starts.pipeline]
    rfl
  have fetches := Pipeline.cycle_of_succeeds ready sound.toConsistent going.resting enqueued plates
    starts.family going.quiet (sequence.uses uses).shaped filled (succeeds e' ready.held)
  have cycles : (Pipeline.cycle asynchronous).Ends s.site (.ok true)
      (Pipeline.cycle asynchronous s.site).state := ⟨fetches, rfl⟩
  obtain ⟨middle, measured, site, ticks₁⟩ := measures_onInference.around_onSite ticks cycles
  obtain ⟨taken, answer⟩ := Pipeline.launch_of_cycle cycles
  have settled := (Pipeline.cycle_cases ready going.resting enqueued cycles).settled
    sound.builtin rfl
  obtain ⟨results, held⟩ : ∃ results, middle.site.bench.outputs.get? outputName =
      some (.log outputName .info (seen + results.length) results) := by
    cases settled with
    | given _ _ _ outputs delivers =>
      rw [going.registered] at delivers
      rw [site]
      exact ⟨_, log_of_deliver (outputs ▸ going.log) delivers⟩
  have handles := ends_onBench.2
    ⟨_, (Bench.ends_onOutput held).2 ⟨_, ends_handle.2 ⟨rfl, rfl⟩, rfl⟩, rfl⟩
  have runs : Runs asynchronous s taken true (waiting middle) _ := .runs answer measured handles
  obtain ⟨going', ran⟩ := going.runs frames runs
  cases ran with
  | given places empty => exact ⟨_, _, runs, ticks₁.withSite _, going', places, empty⟩

end FrameBatch.Recognition
