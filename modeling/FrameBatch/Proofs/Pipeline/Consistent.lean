import FrameBatch.Proofs.Pipeline.History

namespace FrameBatch.Pipeline

/-- The slots, the results made for them and the stage agree. -/
structure Consistent (p : Pipeline) : Prop where
  bounded : (p.enqueued : Int) ≤ p.maxBatch
  matched : p.pending.length = p.enqueued
  empty : (p.stage = .idle ∨ p.stage = .fetched) ↔ p.enqueued = 0
  filled : (p.stage = .accumulating ∨ p.stage = .submitted) ↔ 1 ≤ p.enqueued
  running : p.done = true → p.stage = .submitted

/-- A consistent pipeline with the decoder, the factor and the room for a batch that it was made
with. -/
structure Sound (origin p : Pipeline) : Prop extends Consistent p where
  room : 1 ≤ p.maxBatch
  capacity_eq : p.maxBatch = origin.maxBatch
  decoder_eq : p.decoder = origin.decoder
  scale_eq : p.scale = origin.scale
  builtin : p.decoder.Builtin

namespace Sound

variable {origin p : Pipeline}

theorem cleared (sound : Sound origin p) : Sound origin p.cleared where
  bounded := by
    have := sound.room
    simp only [Pipeline.cleared]
    omega
  matched := rfl
  empty := by simp [Pipeline.cleared]
  filled := by simp [Pipeline.cleared]
  running := nofun
  room := sound.room
  capacity_eq := sound.capacity_eq
  decoder_eq := sound.decoder_eq
  scale_eq := sound.scale_eq
  builtin := sound.builtin

theorem withFrame (sound : Sound origin p) (room : (p.enqueued : Int) ≠ p.maxBatch)
    (resting : p.stage ≠ .submitted) (location : Rect) : Sound origin (p.withFrame location) where
  bounded := by
    have := sound.bounded
    simp only [Pipeline.withFrame]
    omega
  matched := by simp [Pipeline.withFrame, sound.matched]
  empty := by simp [Pipeline.withFrame]
  filled := by simp [Pipeline.withFrame]
  running := by
    intro done
    exact absurd (sound.running done) resting
  room := sound.room
  capacity_eq := sound.capacity_eq
  decoder_eq := sound.decoder_eq
  scale_eq := sound.scale_eq
  builtin := sound.builtin

theorem withRun (sound : Sound origin p) (frames : p.enqueued ≠ 0) (done : Bool) :
    Sound origin (p.withRun done) where
  bounded := sound.bounded
  matched := sound.matched
  empty := by simp [Pipeline.withRun, frames]
  filled := by
    simp only [Pipeline.withRun, or_true, true_iff]
    omega
  running _ := rfl
  room := sound.room
  capacity_eq := sound.capacity_eq
  decoder_eq := sound.decoder_eq
  scale_eq := sound.scale_eq
  builtin := sound.builtin

theorem withDone (sound : Sound origin p) (submitted : p.stage = .submitted) (done : Bool) :
    Sound origin { p with done } where
  bounded := sound.bounded
  matched := sound.matched
  empty := sound.empty
  filled := sound.filled
  running _ := submitted
  room := sound.room
  capacity_eq := sound.capacity_eq
  decoder_eq := sound.decoder_eq
  scale_eq := sound.scale_eq
  builtin := sound.builtin

theorem withPending (sound : Sound origin p) {pending : List Result}
    (same : pending.length = p.pending.length) : Sound origin { p with pending } where
  bounded := sound.bounded
  matched := same.trans sound.matched
  empty := sound.empty
  filled := sound.filled
  running := sound.running
  room := sound.room
  capacity_eq := sound.capacity_eq
  decoder_eq := sound.decoder_eq
  scale_eq := sound.scale_eq
  builtin := sound.builtin

theorem withResults (sound : Sound origin p) (results : List Result) :
    Sound origin { p.cleared with results, stage := .fetched } where
  bounded := sound.cleared.bounded
  matched := rfl
  empty := by simp [Pipeline.cleared]
  filled := by simp [Pipeline.cleared]
  running := nofun
  room := sound.room
  capacity_eq := sound.capacity_eq
  decoder_eq := sound.decoder_eq
  scale_eq := sound.scale_eq
  builtin := sound.builtin

theorem withEngine (sound : Sound origin p) (engine : String) :
    Sound origin (p.withEngine engine) where
  bounded := sound.cleared.bounded
  matched := rfl
  empty := sound.cleared.empty
  filled := sound.cleared.filled
  running := nofun
  room := sound.room
  capacity_eq := sound.capacity_eq
  decoder_eq := sound.decoder_eq
  scale_eq := sound.scale_eq
  builtin := sound.builtin

theorem observe (sound : Sound origin p) (output : String) : Sound origin (p.observe output) := by
  unfold Pipeline.observe
  split
  · exact sound
  · exact { sound with }

end Sound

variable {ε : Type}

theorem Fresh.sound {s : Site ε} (fresh : Fresh s) :
    Sound s.pipeline s.pipeline := by
  have room := fresh.room
  have builtin := fresh.builtin
  rw [fresh.made] at room builtin ⊢
  refine ⟨⟨?_, rfl, by simp, by simp, by simp⟩, room, rfl, rfl, rfl, builtin⟩
  simp only at room ⊢
  omega

variable [Backend ε] {origin : Pipeline}

theorem EnqueueEnds.sound [Resizer] {s s' : Site ε} {frame : Frame} {location : Value}
    {r : Except Fault Bool} (h : EnqueueEnds s frame location r s')
    (sound : Sound origin s.pipeline) : Sound origin s'.pipeline := by
  cases h with
  | accepted _ resting room _ _ => exact sound.withFrame room resting _
  | _ => exact sound

theorem ExecuteEnds.sound {run : Act ε Unit} {done : Bool} {s s' : Site ε}
    {r : Except Fault Bool} (h : ExecuteEnds run done s r s') (sound : Sound origin s.pipeline) :
    Sound origin s'.pipeline := by
  cases h with
  | started _ _ frames _ => exact sound.withRun frames done
  | _ => exact sound

theorem WaitEnds.sound {s s' : Site ε} {timeout : Value} {r : Except Fault Bool}
    (h : WaitEnds s timeout r s') (sound : Sound origin s.pipeline) : Sound origin s'.pipeline := by
  cases h with
  | idle => exact sound
  | known => exact sound
  | answered submitted _ asks =>
    rw [told, asks.pipeline]
    exact sound.withDone submitted _
  | failed _ _ asks _ =>
    rw [dropped, asks.pipeline]
    exact sound.cleared
  | broken _ _ asks _ =>
    rw [asks.pipeline]
    exact sound

theorem DecodeEnds.sound {s s' : Site ε} {r : Except Fault (List Result)}
    (h : DecodeEnds s r s') (sound : Sound origin s.pipeline) : Sound origin s'.pipeline := by
  cases h with
  | unready => exact sound
  | decoded _ ends =>
    refine sound.withPending ?_
    have places := (sound.builtin.decode_keeps ends).2.1
    simpa using congrArg List.length places

theorem FetchEnds.sound {s s' : Site ε} {r : Except Fault Bool} (h : FetchEnds s r s')
    (sound : Sound origin s.pipeline) : Sound origin s'.pipeline := by
  cases h with
  | idle => exact sound
  | early submitted asks _ => exact (isOver_cases submitted asks).sound sound
  | failed submitted asks decodes _ =>
    exact (decodes.sound ((isOver_cases submitted asks).sound sound)).cleared
  | broken submitted asks decodes _ =>
    exact decodes.sound ((isOver_cases submitted asks).sound sound)
  | fetched submitted asks decodes delivers =>
    obtain ⟨outputs, rfl⟩ := deliver_frame delivers
    exact (decodes.sound ((isOver_cases submitted asks).sound sound)).withResults _

theorem AttachEnds.sound {s s' : Site ε} {engine : String} {r : Except Fault Unit}
    (h : AttachEnds s engine r s') (sound : Sound origin s.pipeline) :
    Sound origin s'.pipeline := by
  cases h with
  | attached _ _ _ _ _ => exact sound.withEngine engine
  | _ => exact sound

theorem Turn.sound [Resizer] {turn : Turn ε} {s s' : Site ε} {r : Except Fault Bool}
    (h : turn.act.Ends s r s') (sound : Sound origin s.pipeline) : Sound origin s'.pipeline := by
  cases turn with
  | command c =>
    cases c with
    | attach engine =>
      obtain ⟨_, attaches, _⟩ := attach_command_cases h
      exact attaches.sound sound
    | enqueue frame location => exact (enqueue_cases h).sound sound
    | submit => exact (execute_cases h).sound sound
    | synchronize => exact (execute_cases h).sound sound
    | wait timeout => exact (wait_cases h).sound sound
    | fetch => exact (fetch_cases h).sound sound
    | observe output =>
      rcases observe_command_cases h with rfl | ⟨_, rfl⟩
      · exact sound
      · exact sound.observe output
  | direct engine timeout =>
    rcases Site.onEngine_cases h with rfl | ⟨_, _, _, _, rfl⟩ <;> exact sound
  | release engine =>
    rcases release_cases h with rfl | ⟨_, _, rfl⟩ <;> exact sound
  | elsewhere b =>
    rw [elsewhere_state h]
    exact sound

theorem History.sound [Resizer] {start s : Site ε} {past : List (Entry ε)} (fresh : Fresh start)
    (history : History start past s) : Sound start.pipeline s.pipeline := by
  induction history with
  | start => exact fresh.sound
  | turn _ turn ih => exact Turn.sound (Entry.ends _) ih

end FrameBatch.Pipeline
