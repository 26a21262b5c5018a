import FrameBatch.Proofs.Engine.Onnx
import FrameBatch.Proofs.Pipeline.Moves
import FrameBatch.Proofs.Tensor.Bilinear

namespace FrameBatch.Pipeline

open Backend (Uses Lawful KeepsShape)

/-- The shape is one of slots × channels × height × width, and has slots for so many frames. -/
def Roomy (frames : Int) (shape : List Nat) : Prop :=
  ∃ slots channels height width, shape = [slots, channels, height, width] ∧ frames ≤ (slots : Nat)

theorem roomy_of_checkInput {name : TensorName} {frames : Int} {t : Tensor}
    (h : checkInput name frames t = .ok ()) : Roomy frames t.shape := by
  unfold checkInput at h
  split at h
  · rename_i slots channels height width shape
    split at h
    · cases h
    · rename_i enough
      exact ⟨slots, channels, height, width, shape, Int.not_lt.1 enough⟩
  · cases h

variable {ε : Type} [Backend ε]

/-- However the engine is used, its bound input has room for so many frames. -/
def KeepsRoom (frames : Int) (d : Descriptor) (e : ε) : Prop :=
  (∃ name, d.input = some name) ∧ ∃ shape, Roomy frames shape ∧ KeepsShape d.input shape e

theorem KeepsRoom.stable {frames : Int} {d d' : Descriptor} {e e' : ε}
    (room : KeepsRoom frames d e) (further : d.Extends d') (uses : Uses e e') :
    KeepsRoom frames d' e' := by
  obtain ⟨⟨name, bound⟩, shape, roomy, keeps⟩ := room
  have bound' : d'.input = some name := further .input name bound
  refine ⟨⟨name, bound'⟩, shape, roomy, ?_⟩
  rw [bound', ← bound]
  exact keeps.uses uses

/-- The engine that is attached keeps the shape that its bound input had when it was looked at, and
is neither reloaded nor closed by others. -/
structure Steady [Resizer] (entry : Entry ε) : Prop where
  keeps : ∀ {engine d e e' t}, entry.turn = .command (.attach engine) → entry.answer = .ok true →
    Ready entry.after engine d e' → (Backend.tensor d.input).Ends e (.ok t) e' →
      KeepsShape d.input t.shape e'
  undisturbed : Undisturbed entry

def buffersInput (s : Site Onnx.Engine) (engine : String) : Bool :=
  match s.descriptor?, s.bench.engines.get? engine with
  | some d, some (_, e) =>
    (d.input.bind fun name => e.request.bind fun r => r.buffers.get? name).isSome
  | _, _ => false

section

variable [Resizer]

theorem Steady.of_buffersInput {entry : Entry Onnx.Engine} (here : ∀ b, entry.turn ≠ .elsewhere b)
    (buffers : ∀ engine, entry.turn = .command (.attach engine) →
      buffersInput entry.after engine = true) : Steady entry := by
  refine ⟨?_, .of_here here⟩
  intro engine d e e' t attach _ ready reads
  have buffered := buffers engine attach
  obtain ⟨key, held⟩ := ready.held
  simp only [buffersInput, ready.described, held, Option.isSome_iff_exists,
    Option.bind_eq_some_iff] at buffered
  obtain ⟨old, name, bound, r, found, buffered⟩ := buffered
  rw [bound] at reads ⊢
  have same : e' = e := by
    cases found₀ : e.request with
    | some r₀ => exact (Onnx.tensor_cases found₀ reads).1
    | none =>
      obtain ⟨⟨_, fault⟩, _⟩ := Onnx.ends_theRequest_bind_of_none found₀ reads
      cases fault
  subst same
  have held := (Onnx.tensor_cases found reads).2.1 t rfl
  rw [Onnx.Request.tensor?, TensorName.text, buffered, Option.some_or] at held
  cases held
  exact Onnx.keepsShape_of_buffer found buffered

theorem History.roomy [Lawful ε] {start s : Site ε} {past : List (Entry ε)} (fresh : Fresh start)
    (history : History start past s) (steady : ∀ entry ∈ past, Steady entry) :
    Attached (KeepsRoom s.pipeline.maxBatch) s := by
  have capacity := (history.sound fresh).capacity_eq
  rw [capacity]
  refine history.attached KeepsRoom.stable fresh
    (fun entry member => (steady entry member).undisturbed) ?_
  intro entry member engine same ok
  obtain ⟨newer, older, rfl⟩ := List.append_of_mem member
  obtain ⟨d, e, t, e', _, _, ready, _, plays, reads, checks⟩ := Entry.ready_of_attach same ok
  obtain ⟨name, _, bound⟩ := plays.input
  refine ⟨engine, d, e', ready, ⟨name, bound⟩, t.shape, ?_,
    (steady entry member).keeps same ok ready reads⟩
  rw [← (Turn.sound entry.ends (history.earlier.sound fresh)).capacity_eq]
  exact roomy_of_checkInput checks

theorem EnqueueEnds.fits [LawfulResizer] [Lawful ε] {s s' : Site ε} {frame : Frame}
    {location : Value} {f : Fault}
    (h : EnqueueEnds s frame location (.error f) s') (consistent : Consistent s.pipeline)
    (roomy : Attached (KeepsRoom s.pipeline.maxBatch) s) : ¬ f.Misfit := by
  cases h with
  | unready unready =>
    cases unready <;> rintro (⟨_, same⟩ | ⟨_, _, same⟩) <;> cases same
  | misplaced _ _ _ unplaced => exact Rect.fits_ofValue location f unplaced
  | failed ready _ room _ ends =>
    rcases roomy with ⟨bare, _⟩ | ⟨name, d, e, ready', _, shape, planar, keeps⟩
    · cases bare.symm.trans ready.attached
    · obtain ⟨rfl, rfl, rfl⟩ := ready'.unique ready
      obtain ⟨t, e₁, reads, rfl⟩ := keeps.shaped
      obtain ⟨slots, channels, height, width, shape, enough⟩ := planar
      rw [place, Act.ends_bind_of_ok reads] at ends
      rcases Act.ends_bind.1 ends with ⟨loaded, e₂, loads, writes⟩ | ⟨f, same, loads⟩
      · exact Lawful.write_fault writes
      · cases same
        -- not all slots are in use, and the shape was checked for as many when it was attached
        have below : s.pipeline.enqueued < slots := by
          have := consistent.bounded
          omega
        exact Tensor.fits_loadFrame shape below frame _ f (Act.ends_lift.1 loads).1.symm

/-- In every state of a pipeline in use the slots, the results made for them and the stage agree. As
long as attached engines keep the shapes of their tensors, the bound input has room for a batch, and
no frame that is enqueued misses its slot. -/
theorem reachable_consistent [LawfulResizer] {start s : Site ε} {past : List (Entry ε)}
    (fresh : Fresh start) (history : History start past s) :
    Consistent s.pipeline ∧
      (Lawful ε → (∀ entry ∈ past, Steady entry) →
        (∀ name, s.pipeline.engine = some name → ∃ d e t e' slots channels height width,
          s.descriptor? = some d ∧ s.bench.Holds name e ∧
            (Backend.tensor d.input).Ends e (.ok t) e' ∧
              t.shape = [slots, channels, height, width] ∧
                s.pipeline.maxBatch ≤ (slots : Nat)) ∧
        ∀ frame location f, (enqueue frame location s).result = .error f → ¬ f.Misfit) := by
  have consistent := (history.sound fresh).toConsistent
  refine ⟨consistent, fun lawful steady => ?_⟩
  have roomy := history.roomy fresh steady
  constructor
  · intro name attached
    rcases roomy with ⟨bare, _⟩ | ⟨name', d, e, ready, _, shape, planar, keeps⟩
    · cases attached.symm.trans bare
    · cases attached.symm.trans ready.attached
      obtain ⟨t, e', reads, rfl⟩ := keeps.shaped
      obtain ⟨slots, channels, height, width, shape, enough⟩ := planar
      exact ⟨d, e, t, e', slots, channels, height, width, ready.described, ready.held, reads,
        shape, enough⟩
  · intro frame location f fault
    exact (enqueue_cases ⟨fault, rfl⟩).fits consistent roomy

end

def oneOfTwo : List (Entry Onnx.Engine) × Site Onnx.Engine :=
  played [] (plateSite 2 []) [.command (.attach "cpu"), enqueueAt 0]

theorem steady_oneOfTwo : ∀ entry ∈ oneOfTwo.1, Steady entry := by
  intro entry member
  rcases List.mem_cons.1 member with rfl | member
  · exact .of_buffersInput (by simp [enqueueAt]) (by simp [enqueueAt])
  · cases List.mem_singleton.1 member
    refine .of_buffersInput (by simp) ?_
    intro engine attach
    cases attach
    decide +kernel

theorem consistent_oneOfTwo :
    Consistent oneOfTwo.2.pipeline ∧
      (∀ name, oneOfTwo.2.pipeline.engine = some name →
        ∃ d e t e' slots channels height width,
          oneOfTwo.2.descriptor? = some d ∧ oneOfTwo.2.bench.Holds name e ∧
            (Backend.tensor d.input).Ends e (.ok t) e' ∧
              t.shape = [slots, channels, height, width] ∧
                oneOfTwo.2.pipeline.maxBatch ≤ (slots : Nat)) ∧
      ∀ frame location f, (enqueue frame location oneOfTwo.2).result = .error f → ¬ f.Misfit := by
  have fresh : Fresh (plateSite 2 []) := fresh_plateSite (by decide) []
  obtain ⟨consistent, room⟩ := reachable_consistent fresh (History.start.played
    [.command (.attach "cpu"), enqueueAt 0])
  exact ⟨consistent, room inferInstance steady_oneOfTwo⟩

end FrameBatch.Pipeline
