import FrameBatch.Proofs.Decoder.Prepared
import FrameBatch.Proofs.Decoder.Rows
import FrameBatch.Proofs.Pipeline.Batch

namespace FrameBatch.Pipeline

open Backend (Lawful Compliant Shaped contents)

variable {ε : Type} [Backend ε]

variable {s : Site ε} {name : String} {d : Descriptor} {e : ε} {asynchronous : Bool}

theorem place_of_resizable [Resizer] [LawfulResizer] [Compliant ε]
    (loaded : Backend.isLoaded e = true) {img : Image} {slots height width slot : Nat}
    (planes : Shaped d.input [slots, img.channels, height, width] e) (tall : 0 < height)
    (wide : 0 < width) (below : slot < slots) (resizable : img.Resizable) {factor : Binary}
    {r : Except Fault Unit} {e' : ε}
    (h : (place d (.packed img.tensor) (.float factor) slot).Ends e r e') : r = .ok () := by
  obtain ⟨t, e₁, reads, shape⟩ := planes
  obtain rfl := Compliant.eq_of_read reads
  obtain ⟨full, loads⟩ :=
    Tensor.loadFrame_of_resizable shape tall wide below resizable factor
  rw [place, Act.ends_bind_of_ok reads, loads,
    Act.ends_bind_of_ok (Act.ends_lift.2 ⟨rfl, rfl⟩)] at h
  exact Compliant.write_ok loaded h

theorem enqueue_of_resizable [Resizer] [LawfulResizer] [Compliant ε] (ready : Ready s name d e)
    (consistent : Consistent s.pipeline) {img : Image} {slots height width : Nat}
    (planes : Shaped d.input [slots, img.channels, height, width] e) (tall : 0 < height)
    (wide : 0 < width) (enough : s.pipeline.maxBatch ≤ (slots : Nat)) (resizable : img.Resizable)
    {factor : Binary} (scale : s.pipeline.scale = .float factor) {location : Value} {rect : Rect}
    (placed : Rect.ofValue location = .ok rect) :
    ∃ accepted, (enqueue (.packed img.tensor) location s).result = .ok accepted := by
  have ends := (enqueue (.packed img.tensor) location).ends_self s
  generalize (enqueue (.packed img.tensor) location s).result = r at ends
  generalize (enqueue (.packed img.tensor) location s).state = s' at ends
  cases enqueue_cases ends with
  | unready unready => exact absurd unready ready.not_unready
  | refused _ _ => exact ⟨false, rfl⟩
  | misplaced _ _ _ unplaced => cases placed.symm.trans unplaced
  | failed ready' _ room _ ends =>
    obtain ⟨rfl, rfl, rfl⟩ := ready.unique ready'
    have below : s.pipeline.enqueued < slots := by
      have := consistent.bounded
      omega
    rw [scale] at ends
    cases place_of_resizable ready.loaded planes tall wide below resizable ends
  | accepted _ _ _ _ _ => exact ⟨true, rfl⟩

theorem prepare_of_filled [Compliant ε] (loaded : Backend.isLoaded e = true)
    (family : d.family = .plate) {length : Nat} {rest : List Nat}
    (sequence : Shaped d.sequence (length :: rest) e) (filled : 0 < volume (length :: rest)) :
    ∃ e', (Decoder.plate.prepare d).Ends e (.ok ()) e' := by
  obtain ⟨t, e₁, reads, shape⟩ := sequence
  obtain rfl := Compliant.eq_of_read reads
  obtain ⟨started, starts⟩ := Decoder.sequenceStart_of_filled shape filled
  have writes := (Backend.setTensor d.sequence started).ends_self e₁
  rw [Compliant.write_ok loaded writes] at writes
  exact ⟨_, (Decoder.ends_prepare_of_reads family reads starts).2 writes⟩

/-- Once it is prepared, the engine carries out its run, and yields 88 finite values or more for
each of so many frames. -/
def Succeeds (asynchronous : Bool) (d : Descriptor) (frames : Nat) (e : ε) : Prop :=
  ∀ e₁, (Decoder.plate.prepare d).Ends e (.ok ()) e₁ →
    ∃ e₂ t, (carryingOut asynchronous).Ends e₁ (.ok ()) e₂ ∧ contents d.output e₂ = .ok t ∧
      frames * Plate.maxSequence ≤ t.size ∧
        ∀ k < frames * Plate.maxSequence, (t.get k).truncate?.isSome

theorem succeeds_iff {frames : Nat} : Succeeds asynchronous d frames e ↔
    ((Decoder.plate.prepare d e).result = .ok () →
      (carryingOut asynchronous (Decoder.plate.prepare d e).state).result = .ok () ∧
        ∃ t ∈ (contents d.output
            (carryingOut asynchronous (Decoder.plate.prepare d e).state).state).toOption,
          frames * Plate.maxSequence ≤ t.size ∧
            ∀ k < frames * Plate.maxSequence, (t.get k).truncate?.isSome) := by
  constructor
  · intro succeeds prepared
    obtain ⟨e₂, t, runs, held, enough⟩ := succeeds _ ⟨prepared, rfl⟩
    rw [runs.state]
    exact ⟨runs.result, t, mem_toOption.2 held, enough⟩
  · rintro seen e₁ ⟨prepared, rfl⟩
    obtain ⟨runs, t, held, enough⟩ := seen prepared
    exact ⟨_, t, ⟨runs, rfl⟩, mem_toOption.1 held, enough⟩

instance {frames : Nat} : Decidable (Succeeds asynchronous d frames e) :=
  decidable_of_iff _ succeeds_iff.symm

theorem cycle_of_succeeds [Lawful ε] [Compliant ε] (ready : Ready s name d e)
    (consistent : Consistent s.pipeline) (resting : s.pipeline.stage ≠ .submitted)
    (frames : s.pipeline.enqueued ≠ 0) (plates : s.pipeline.decoder = .plate)
    (family : d.family = .plate) (quiet : Quiet s) {length : Nat} {rest : List Nat}
    (sequence : Shaped d.sequence (length :: rest) e) (filled : 0 < volume (length :: rest))
    (succeeds : Succeeds asynchronous d s.pipeline.enqueued e) :
    (cycle asynchronous s).result = .ok true := by
  obtain ⟨e₁, prepares⟩ := prepare_of_filled ready.loaded family sequence filled
  obtain ⟨e₂, t, runs, held, room, finite⟩ := succeeds e₁ prepares
  have through : (s.pipeline.decoder.prepare d >>= fun _ => carryingOut asynchronous).Ends e
      (.ok ()) e₂ := by
    rw [plates]
    exact (Act.ends_bind_of_ok prepares _).2 runs
  have decodes : ∃ results,
      (s.pipeline.decoder.decode d (e₂, s.pipeline.pending)).result = .ok results := by
    rw [plates]
    refine Decoder.decode_of_legible family held (by rw [consistent.matched]; exact room) ?_
    intro i inside
    rw [consistent.matched] at inside
    exact Plate.legible_of_finite finite room inside
  exact (cycle_cases ready resting frames ((cycle asynchronous).ends_self s)).fetched_of_runs
    through decodes quiet

end FrameBatch.Pipeline
