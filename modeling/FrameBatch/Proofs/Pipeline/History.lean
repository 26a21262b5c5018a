import FrameBatch.Engine.Onnx
import FrameBatch.Proofs.Decoder.Builtin
import FrameBatch.Proofs.Descriptor.Accept
import FrameBatch.Proofs.Pipeline.Attach
import FrameBatch.Proofs.Pipeline.Fetch

namespace FrameBatch.Pipeline

variable {ε : Type}

/-- A pipeline as it was made: without an engine, and with a decoder of the library. -/
structure Fresh (s : Site ε) : Prop where
  made : s.pipeline =
    { descriptor := s.pipeline.descriptor, decoder := s.pipeline.decoder,
      scale := s.pipeline.scale, maxBatch := s.pipeline.maxBatch }
  builtin : s.pipeline.decoder.Builtin
  room : 1 ≤ s.pipeline.maxBatch

variable [Backend ε]

inductive Command where
  | attach (engine : String)
  | enqueue (frame : Frame) (location : Value)
  | submit
  | synchronize
  | wait (timeout : Value)
  | fetch
  | observe (output : String)

/-- Carry out an operation. Those that give no answer answer true. -/
def Command.act [Resizer] : Command → Act (Site ε) Bool
  | .attach engine => do
    loadEngine engine
    return true
  | .enqueue frame location => Pipeline.enqueue frame location
  | .submit => Pipeline.submit
  | .synchronize => Pipeline.synchronize
  | .wait timeout => Pipeline.wait timeout
  | .fetch => Pipeline.fetch
  | .observe output => do
    let s ← Act.get
    match s.bench.outputs.get? output with
    | none => missing output
    | some _ =>
      Site.update fun p => p.observe output
      return true

inductive Turn (ε : Type) where
  | command (c : Command)
  /-- a caller waits for the request of an engine itself -/
  | direct (engine : String) (timeout : Value)
  /-- the held run of an engine ends -/
  | release (engine : String)
  /-- others change what is at the bench -/
  | elsewhere (b : Bench ε)

def Turn.act [Resizer] : Turn ε → Act (Site ε) Bool
  | .command c => c.act
  | .direct engine timeout => Site.onEngine engine (Backend.wait timeout)
  | .release engine => do
    Site.onEngine engine (Act.modify Backend.release)
    return true
  | .elsewhere b => do
    Act.modify fun s => { s with bench := b }
    return true

structure Entry (ε : Type) where
  turn : Turn ε
  before : Site ε

namespace Entry

variable [Resizer]

def answer (entry : Entry ε) : Except Fault Bool := (entry.turn.act entry.before).result

def after (entry : Entry ε) : Site ε := (entry.turn.act entry.before).state

theorem ends (entry : Entry ε) : entry.turn.act.Ends entry.before entry.answer entry.after :=
  ⟨rfl, rfl⟩

end Entry

section

variable [Resizer]

/-- The turns taken from a site on, the last one first. -/
inductive History (start : Site ε) : List (Entry ε) → Site ε → Prop
  | start : History start [] start
  | turn {past : List (Entry ε)} {s : Site ε} (earlier : History start past s) (turn : Turn ε) :
    History start (⟨turn, s⟩ :: past) (Entry.after ⟨turn, s⟩)

theorem History.earlier {start s : Site ε} {newer older : List (Entry ε)} {entry : Entry ε}
    (history : History start (newer ++ entry :: older) s) : History start older entry.before := by
  induction newer generalizing s with
  | nil =>
    cases history with
    | turn earlier _ => exact earlier
  | cons _ rest ih =>
    cases history with
    | turn earlier _ => exact ih earlier

theorem History.append {start middle s : Site ε} {past more : List (Entry ε)}
    (earlier : History start past middle) (later : History middle more s) :
    History start (more ++ past) s := by
  induction later with
  | start => exact earlier
  | turn _ turn ih => exact ih.turn turn

theorem attach_command_cases {s s' : Site ε} {engine : String} {r : Except Fault Bool}
    (h : (Command.attach engine).act.Ends s r s') :
    ∃ r', AttachEnds s engine r' s' ∧ r = r'.map fun _ => true := by
  rcases Act.ends_bind.1 h with ⟨_, middle, attaches, h⟩ | ⟨f, rfl, attaches⟩
  · obtain ⟨rfl, rfl⟩ := Act.ends_pure.1 h
    exact ⟨_, attach_cases attaches, rfl⟩
  · exact ⟨_, attach_cases attaches, rfl⟩

theorem release_cases {s s' : Site ε} {engine : String} {r : Except Fault Bool}
    (h : (Turn.release engine).act.Ends s r s') :
    s' = s ∨ ∃ e, s.bench.Holds engine e ∧ s' = s.withEngine engine (Backend.release e) := by
  have released : ∀ {r' : Except Fault Unit} {middle : Site ε},
      (Site.onEngine engine (Act.modify Backend.release)).Ends s r' middle →
        middle = s ∨
          ∃ e, s.bench.Holds engine e ∧ middle = s.withEngine engine (Backend.release e) := by
    intro r' middle ends
    rcases Site.onEngine_cases ends with rfl | ⟨e, e', held, changes, rfl⟩
    · exact .inl rfl
    · obtain ⟨_, rfl⟩ := Act.ends_modify.1 changes
      exact .inr ⟨e, held, rfl⟩
  rcases Act.ends_bind.1 h with ⟨_, middle, ends, h⟩ | ⟨f, _, ends⟩
  · obtain ⟨_, rfl⟩ := Act.ends_pure.1 h
    exact released ends
  · exact released ends

theorem elsewhere_state {s s' : Site ε} {b : Bench ε} {r : Except Fault Bool}
    (h : (Turn.elsewhere b).act.Ends s r s') : s' = { s with bench := b } := by
  rcases Act.ends_bind.1 h with ⟨_, middle, changes, h⟩ | ⟨f, _, changes⟩
  · obtain ⟨_, rfl⟩ := Act.ends_modify.1 changes
    exact (Act.ends_pure.1 h).2
  · exact (Act.ends_modify.1 changes).2

theorem observe_command_cases {s s' : Site ε} {output : String} {r : Except Fault Bool}
    (h : (Command.observe output).act.Ends s r s') :
    s' = s ∨ (∃ o, s.bench.outputs.get? output = some o) ∧
      s' = { s with pipeline := s.pipeline.observe output } := by
  rw [Command.act, Act.ends_get_bind] at h
  cases found : s.bench.outputs.get? output with
  | none =>
    simp only [found] at h
    exact .inl (Act.ends_fail.1 h).2
  | some o =>
    simp only [found, Site.ends_update_bind] at h
    exact .inr ⟨⟨o, rfl⟩, (Act.ends_pure.1 h).2⟩

def played (past : List (Entry ε)) (s : Site ε) : List (Turn ε) → List (Entry ε) × Site ε
  | [] => (past, s)
  | turn :: rest => played (⟨turn, s⟩ :: past) (Entry.after ⟨turn, s⟩) rest

theorem History.played {start s : Site ε} {past : List (Entry ε)} (earlier : History start past s)
    (turns : List (Turn ε)) :
    History start (played past s turns).1 (played past s turns).2 := by
  induction turns generalizing past s with
  | nil => exact earlier
  | cons turn rest ih => exact ih (.turn earlier turn)

theorem forall_played {P : Turn ε → Prop} {past : List (Entry ε)} {s : Site ε}
    {turns : List (Turn ε)} (before : ∀ entry ∈ past, P entry.turn)
    (each : ∀ turn ∈ turns, P turn) : ∀ entry ∈ (played past s turns).1, P entry.turn := by
  induction turns generalizing past s with
  | nil => exact before
  | cons turn rest ih =>
    refine ih ?_ fun other member => each other (List.mem_cons_of_mem _ member)
    intro entry member
    rcases List.mem_cons.1 member with rfl | member
    · exact each turn List.mem_cons_self
    · exact before entry member

theorem here_played {s : Site ε} {turns : List (Turn ε)}
    (each : ∀ turn ∈ turns, ∀ b, turn ≠ .elsewhere b) :
    ∀ entry ∈ (played [] s turns).1, ∀ b, entry.turn ≠ .elsewhere b :=
  forall_played (P := fun turn => ∀ b, turn ≠ .elsewhere b) (by simp) each

end

/-- A pipeline for plates in batches of so many frames, at a bench with one engine on the ONNX
runtime. -/
def plateSite (frames : Int) (runs : List RunPlan) : Site Onnx.Engine where
  pipeline := { descriptor := "plates", decoder := .plate, scale := .int 1, maxBatch := frames }
  bench.networks := [(.ofEngine "cpu", {
    inputs := [
      { name := "data", shape := [none, some 1, some 1, some 1] },
      { name := "seq", shape := [some Plate.maxSequence, some 1] }]
    outputs := [{ name := "prob", shape := [none, some Plate.maxSequence] }] })]
  bench.descriptors := [("plates", {
    family := .plate
    category := Family.plate.category
    location := "plates.onnx"
    maxBatch := frames })]
  bench.engines := [("cpu", .ofEngine "cpu", {
    device := "cpu"
    declared := [("data", .u8), ("seq", .f32)]
    script := { runs } })]

theorem fresh_plateSite {frames : Int} (room : 1 ≤ frames) (runs : List RunPlan) :
    Fresh (plateSite frames runs) :=
  ⟨rfl, .inr rfl, room⟩

/-- A run that yields the same first symbol for so many plates, and the end of the sequence after
it. -/
def yielding (plates : Nat) (first : Binary) : RunPlan where
  outputs := [("prob", .tensor (.ofFn (.element .f32) [plates, Plate.maxSequence] fun k =>
    .real (if k % Plate.maxSequence = 0 then first else .ofInt Plate.sequenceEnd)))]

def enqueueAt (x : Int) : Turn ε :=
  .command (.enqueue (.packed (.fill (.element .u8) [1, 1, 1] (.whole 7)))
    (.rect (.int x) (.int 0) (.int 1) (.int 1)))

def enqueuePixel (value : Int) (channels : Nat) : Turn ε :=
  .command (.enqueue (.packed (.fill (.element .u8) [1, 1, channels] (.whole value)))
    (.rect (.int 0) (.int 0) (.int 1) (.int 1)))

end FrameBatch.Pipeline
