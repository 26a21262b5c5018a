import FrameBatch.Proofs.Engine.Onnx
import FrameBatch.Proofs.Pipeline.Moves
import FrameBatch.Tensor.Bilinear

namespace FrameBatch.Pipeline

variable {ε : Type} [Backend ε]

/-- The result is a failure of a backend or of a decoder. -/
def brokeDown {α : Type} : Except Fault α → Bool
  | .error f => f.isRuntime
  | .ok _ => false

def runFails (s : Site ε) (timeout : Value) : Bool :=
  match s.pipeline.stage, s.pipeline.done, attached? s with
  | .submitted, false, some e => brokeDown (Backend.wait timeout e).result
  | _, _, _ => false

def decoderFails (s : Site ε) : Bool :=
  match attached? s, s.descriptor? with
  | some e, some d => brokeDown (s.pipeline.decoder.decode d (e, s.pipeline.pending)).result
  | _, _ => false

def decodingFails (s : Site ε) : Bool :=
  match s.pipeline.stage, (isOver s).result with
  | .submitted, .ok true => decoderFails (isOver s).state
  | _, _ => false

namespace Entry

variable [Resizer]

/-- The location of the frame that a turn took into a slot. -/
def admitted? (entry : Entry ε) : Option Value :=
  match entry.turn, entry.answer with
  | .command (.enqueue _ location), .ok true => some location
  | _, _ => none

/-- Whether a turn cleared the batch: an engine was attached, the batch was fetched, or it was
dropped after a failure of the backend or of the decoder. -/
def clears (entry : Entry ε) : Bool :=
  match entry.turn, entry.answer with
  | .command (.attach _), .ok true => true
  | .command .fetch, .ok true => true
  | .command .fetch, .ok false =>
    runFails entry.before (.int 0) || decodingFails entry.before
  | .command (.wait timeout), .ok false => runFails entry.before timeout
  | _, _ => false

end Entry

/-- A frame that was taken into a slot: how many had been before it, and its location. -/
structure Admission where
  number : Nat
  location : Value

section

variable [Resizer]

def admissions : List (Entry ε) → List Admission
  | [] => []
  | entry :: past =>
    match entry.admitted? with
    | some location => admissions past ++ [⟨(admissions past).length, location⟩]
    | none => admissions past

/-- The frames that were taken into slots since the batch was last cleared, in order. -/
def batch : List (Entry ε) → List Admission
  | [] => []
  | entry :: past =>
    if entry.clears then []
    else match entry.admitted? with
      | some location => batch past ++ [⟨(admissions past).length, location⟩]
      | none => batch past

/-- The turns that cleared a batch, each with the frames of the batch, in order. -/
def departures : List (Entry ε) → List (Entry ε × List Admission)
  | [] => []
  | entry :: past =>
    if entry.clears then departures past ++ [(entry, batch past)] else departures past

theorem admitted?_of_clears {entry : Entry ε} (clears : entry.clears = true) :
    entry.admitted? = none := by
  unfold Entry.clears at clears
  unfold Entry.admitted?
  split at clears <;> simp_all

theorem clears_cases {entry : Entry ε} (clears : entry.clears = true) :
    (entry.turn = .command .fetch ∧ entry.answer = .ok true) ∨
    (∃ engine, entry.turn = .command (.attach engine) ∧ entry.answer = .ok true) ∨
    (∃ timeout, entry.turn = .command (.wait timeout) ∧ entry.answer = .ok false ∧
      runFails entry.before timeout = true) ∨
    (entry.turn = .command .fetch ∧ entry.answer = .ok false ∧
      (runFails entry.before (.int 0) = true ∨ decodingFails entry.before = true)) := by
  unfold Entry.clears at clears
  split at clears
  · exact .inr (.inl ⟨_, ‹_›, ‹_›⟩)
  · exact .inl ⟨‹_›, ‹_›⟩
  · exact .inr (.inr (.inr ⟨‹_›, ‹_›, by simpa using clears⟩))
  · exact .inr (.inr (.inl ⟨_, ‹_›, ‹_›, clears⟩))
  · cases clears

theorem clears_of_mem {past : List (Entry ε)} {entry : Entry ε} {frames : List Admission}
    (member : (entry, frames) ∈ departures past) : entry.clears = true := by
  induction past with
  | nil => cases member
  | cons other past ih =>
    cases clears : other.clears with
    | false => exact ih (by simpa [departures, clears] using member)
    | true =>
      simp only [departures, clears, if_true, List.mem_append, List.mem_singleton] at member
      rcases member with earlier | last
      · exact ih earlier
      · cases last
        exact clears

theorem mem_departures {entry : Entry ε} (clears : entry.clears = true)
    (newer older : List (Entry ε)) :
    (entry, batch older) ∈ departures (newer ++ entry :: older) := by
  induction newer with
  | nil => simp [departures, clears]
  | cons other newer ih =>
    simp only [List.cons_append, departures]
    split
    · exact List.mem_append_left _ ih
    · exact ih

/-- Every frame that was taken into a slot left with one batch, or belongs to the present one. -/
theorem admissions_eq (past : List (Entry ε)) :
    admissions past = (departures past).flatMap Prod.snd ++ batch past := by
  induction past with
  | nil => rfl
  | cons entry past ih =>
    cases clears : entry.clears with
    | true => simp [admissions, departures, batch, clears, admitted?_of_clears clears, ih]
    | false =>
      cases admitted : entry.admitted? with
      | none => simp [admissions, departures, batch, clears, admitted, ih]
      | some location => simp [admissions, departures, batch, clears, admitted, ih]

theorem number_admissions (past : List (Entry ε)) :
    (admissions past).map (·.number) = List.range (admissions past).length := by
  induction past with
  | nil => rfl
  | cons entry past ih =>
    cases admitted : entry.admitted? with
    | none => simpa [admissions, admitted] using ih
    | some location => simp [admissions, admitted, ih, List.range_succ]

end

def Tallies (results : List Result) (frames : List Admission) : Prop :=
  results.map (fun r => Except.ok r.location) = frames.map fun a => Rect.ofValue a.location

theorem Tallies.of_locations {results results' : List Result} {frames : List Admission}
    (tallies : Tallies results frames)
    (same : results'.map (·.location) = results.map (·.location)) : Tallies results' frames := by
  have lifted := congrArg (List.map (Except.ok (ε := Fault))) same
  rw [List.map_map, List.map_map] at lifted
  exact lifted.trans tallies

theorem runFails_of_ready {s : Site ε} {timeout : Value} {name : String} {d : Descriptor}
    {e : ε} (submitted : s.pipeline.stage = .submitted) (running : s.pipeline.done = false)
    (ready : Ready s name d e) :
    runFails s timeout = brokeDown (Backend.wait timeout e).result := by
  simp [runFails, submitted, running, ready.attached?_eq]

theorem runFails_of_resting {s : Site ε} (resting : s.pipeline.stage ≠ .submitted)
    (timeout : Value) : runFails s timeout = false := by
  unfold runFails
  split
  · contradiction
  · rfl

/-- The slots hold the frames of the present batch, and the outputs take what they are given. -/
structure Ledger [Resizer] (past : List (Entry ε)) (s : Site ε) : Prop where
  quiet : Quiet s
  buffered : Tallies s.pipeline.pending (batch past)

namespace Ledger

variable [Resizer] {past : List (Entry ε)} {entry : Entry ε} {s' : Site ε}

theorem keep (ledger : Ledger past entry.before) (clears : entry.clears = false)
    (admitted : entry.admitted? = none) (quiet : Quiet s')
    (same : s'.pipeline.pending.map (·.location) =
      entry.before.pipeline.pending.map (·.location)) : Ledger (entry :: past) s' where
  quiet := quiet
  buffered := by
    simp only [batch, clears, Bool.false_eq_true, if_false, admitted]
    exact ledger.buffered.of_locations same

theorem used (ledger : Ledger past entry.before) (clears : entry.clears = false)
    (admitted : entry.admitted? = none)
    (moved : s' = entry.before ∨ ∃ engine e, s' = entry.before.withEngine engine e) :
    Ledger (entry :: past) s' := by
  rcases moved with rfl | ⟨engine, e, rfl⟩ <;>
    exact ledger.keep clears admitted ledger.quiet rfl

theorem clear (clears : entry.clears = true) (quiet : Quiet s')
    (empty : s'.pipeline.pending = []) : Ledger (entry :: past) s' where
  quiet := quiet
  buffered := by
    simp only [batch, clears, if_true, empty]
    rfl

end Ledger

section

variable {s s' : Site ε} {past : List (Entry ε)}

theorem EnqueueEnds.ledger [Resizer] {frame : Frame} {location : Value}
    (h : EnqueueEnds s frame location (Entry.answer ⟨.command (.enqueue frame location), s⟩) s')
    (ledger : Ledger past s) : Ledger (⟨.command (.enqueue frame location), s⟩ :: past) s' := by
  have clears : Entry.clears ⟨.command (.enqueue frame location), s⟩ = false := by
    simp [Entry.clears]
  have quiet := h.quiet ledger.quiet
  generalize answer : Entry.answer ⟨.command (.enqueue frame location), s⟩ = r at h
  cases h with
  | accepted ready resting room placed ends =>
    refine ⟨quiet, ?_⟩
    have admitted : Entry.admitted? ⟨.command (.enqueue frame location), s⟩ = some location := by
      simp [Entry.admitted?, answer]
    simp only [batch, clears, Bool.false_eq_true, if_false, admitted]
    simpa [Tallies, withFrame, Decoder.location_makeResult, placed] using ledger.buffered
  | unready _ =>
    exact ledger.keep clears (by simp [Entry.admitted?, answer]) quiet rfl
  | refused _ _ =>
    exact ledger.keep clears (by simp [Entry.admitted?, answer]) quiet rfl
  | misplaced _ _ _ _ =>
    exact ledger.keep clears (by simp [Entry.admitted?, answer]) quiet rfl
  | failed _ _ _ _ _ =>
    exact ledger.keep clears (by simp [Entry.admitted?, answer]) quiet rfl

theorem ExecuteEnds.pending {run : Act ε Unit} {done : Bool} {r : Except Fault Bool}
    (h : ExecuteEnds run done s r s') : s'.pipeline.pending = s.pipeline.pending := by
  cases h <;> rfl

theorem WaitEnds.outcome {timeout : Value} {r : Except Fault Bool} (h : WaitEnds s timeout r s')
    (ready : s.pipeline.stage = .submitted → ∃ name d e, Ready s name d e) :
    s'.pipeline.pending = s.pipeline.pending ∧ (r = .ok false → runFails s timeout = false) ∨
      s'.pipeline.pending = [] ∧ r = .ok false ∧ runFails s timeout = true := by
  cases h with
  | idle resting => exact .inl ⟨rfl, fun _ => runFails_of_resting resting timeout⟩
  | known _ _ => exact .inl ⟨rfl, by simp⟩
  | answered submitted running asks =>
    refine .inl ⟨by rw [told, asks.pipeline], fun _ => ?_⟩
    obtain ⟨name, d, e, ready⟩ := ready submitted
    cases asks with
    | asked ready' ends =>
      rw [runFails_of_ready submitted running ready', ends.result]
      rfl
  | failed submitted running asks runtime =>
    obtain ⟨name, d, e, ready⟩ := ready submitted
    cases asks with
    | unready unready => exact absurd unready ready.not_unready
    | asked ready' ends =>
      refine .inr ⟨rfl, rfl, ?_⟩
      rw [runFails_of_ready submitted running ready', ends.result]
      exact runtime
  | broken submitted running asks other =>
    exact .inl ⟨congrArg Pipeline.pending asks.pipeline, by simp⟩

theorem WaitEnds.ledger [Resizer] {timeout : Value}
    (h : WaitEnds s timeout (Entry.answer ⟨.command (.wait timeout), s⟩) s')
    (ready : s.pipeline.stage = .submitted → ∃ name d e, Ready s name d e)
    (ledger : Ledger past s) : Ledger (⟨.command (.wait timeout), s⟩ :: past) s' := by
  have quiet := h.quiet ledger.quiet
  rcases h.outcome ready with ⟨same, reported⟩ | ⟨empty, answer, fails⟩
  · refine ledger.keep ?_ (by simp [Entry.admitted?]) quiet (congrArg _ same)
    unfold Entry.clears
    split <;> simp_all
  · exact .clear (by simp [Entry.clears, answer, fails]) quiet empty

theorem decodingFails_of_resting (resting : s.pipeline.stage ≠ .submitted) :
    decodingFails s = false := by
  unfold decodingFails
  split
  · contradiction
  · rfl

theorem decodingFails_of_early {r : Except Fault Bool} (asks : isOver.Ends s r s')
    (empty : r ≠ .ok true) : decodingFails s = false := by
  unfold decodingFails
  split
  · rename_i fetched
    exact absurd (asks.result.symm.trans fetched) empty
  · rfl

theorem decodingFails_of_failed {waited : Site ε} {f : Fault} {name : String} {d : Descriptor}
    {e : ε} (submitted : s.pipeline.stage = .submitted) (asks : isOver.Ends s (.ok true) waited)
    (ready : Ready waited name d e) (decodes : DecodeEnds waited (.error f) s')
    (runtime : f.isRuntime = true) : decodingFails s = true := by
  simp only [decodingFails, submitted, asks.result, asks.state]
  cases decodes with
  | unready unready => exact absurd unready ready.not_unready
  | decoded ready' ends =>
    have described : waited.descriptor? = some _ := ready'.described
    simp only [decoderFails, ready'.attached?_eq, described, ends.result]
    exact runtime

theorem DecodeEnds.locations {r : Except Fault (List Result)} (h : DecodeEnds s r s')
    (builtin : s.pipeline.decoder.Builtin) :
    s'.pipeline.pending.map (·.location) = s.pipeline.pending.map (·.location) ∧
      ∀ results, r = .ok results →
        results.map (·.location) = s.pipeline.pending.map (·.location) := by
  cases h with
  | unready _ => exact ⟨rfl, by simp⟩
  | decoded _ ends => exact (builtin.decode_keeps ends).2

theorem FetchEnds.ledger [Resizer] [Backend.Lawful ε] {origin : Pipeline}
    (h : FetchEnds s (Entry.answer ⟨.command .fetch, s⟩) s') (sound : Sound origin s.pipeline)
    (ready : s.pipeline.stage = .submitted → ∃ name d e, Ready s name d e)
    (ledger : Ledger past s) :
    Ledger (⟨.command .fetch, s⟩ :: past) s' ∧
      (Entry.answer ⟨.command .fetch, s⟩ = .ok true →
        Tallies s'.pipeline.results (batch past)) := by
  have admitted : Entry.admitted? (⟨.command .fetch, s⟩ : Entry ε) = none := by
    simp [Entry.admitted?]
  have stands {waited : Site ε} {r : Except Fault Bool} (submitted : s.pipeline.stage = .submitted)
      (asks : isOver.Ends s r waited) :
      Quiet waited ∧ Sound origin waited.pipeline ∧ ∃ name d e, Ready waited name d e := by
    have waits := isOver_cases submitted asks
    obtain ⟨name, d, e, ready⟩ := ready submitted
    obtain ⟨e', ready', _⟩ := waits.ready ready
    exact ⟨waits.quiet ledger.quiet, waits.sound sound, name, d, e', ready'⟩
  have kept {waited : Site ε} (submitted : s.pipeline.stage = .submitted)
      (asks : isOver.Ends s (.ok true) waited) :
      waited.pipeline.pending = s.pipeline.pending := by
    rcases (isOver_cases submitted asks).outcome ready with ⟨same, _⟩ | ⟨_, early, _⟩
    · exact same
    · cases early
  generalize answer : Entry.answer (⟨.command .fetch, s⟩ : Entry ε) = r at h
  cases h with
  | idle resting empty =>
    refine ⟨ledger.keep ?_ admitted ledger.quiet rfl, fun fetched => absurd fetched empty⟩
    unfold Entry.clears
    split <;> simp_all [runFails_of_resting, decodingFails_of_resting]
  | early submitted asks empty =>
    have waits := isOver_cases submitted asks
    refine ⟨?_, fun fetched => absurd fetched empty⟩
    rcases waits.outcome ready with ⟨same, reported⟩ | ⟨none, rfl, fails⟩
    · refine ledger.keep ?_ admitted (stands submitted asks).1 (congrArg _ same)
      have decodes := decodingFails_of_early asks empty
      unfold Entry.clears
      split <;> simp_all
    · exact .clear (by simp [Entry.clears, answer, fails]) (stands submitted asks).1 none
  | failed submitted asks decodes runtime =>
    obtain ⟨quiet, _, name, d, e, ready⟩ := stands submitted asks
    have fails := decodingFails_of_failed submitted asks ready decodes runtime
    exact ⟨.clear (by simp [Entry.clears, answer, fails]) (decodes.quiet quiet) rfl, by simp⟩
  | broken submitted asks decodes other =>
    obtain ⟨quiet, sound, _⟩ := stands submitted asks
    refine ⟨ledger.keep (by simp [Entry.clears, answer]) admitted (decodes.quiet quiet) ?_, by simp⟩
    rw [(decodes.locations sound.builtin).1, kept submitted asks]
  | fetched submitted asks decodes delivers =>
    obtain ⟨quiet, sound, _⟩ := stands submitted asks
    have places := (decodes.locations sound.builtin).2 _ rfl
    rw [kept submitted asks] at places
    have waits := isOver_cases submitted asks
    obtain ⟨rfl, quiet'⟩ := delivers_quiet ledger.quiet waits decodes delivers
    obtain ⟨outputs, rfl⟩ := deliver_frame delivers
    exact ⟨.clear (by simp [Entry.clears, answer, Except.map]) quiet' rfl,
      fun _ => ledger.buffered.of_locations places⟩

theorem AttachEnds.ledger [Resizer] {engine : String} {r : Except Fault Unit}
    (h : AttachEnds s engine r s')
    (answer : Entry.answer ⟨.command (.attach engine), s⟩ = r.map fun _ => true)
    (ledger : Ledger past s) : Ledger (⟨.command (.attach engine), s⟩ :: past) s' := by
  have quiet := h.quiet ledger.quiet
  cases r with
  | ok _ =>
    refine .clear (by simp [Entry.clears, answer, Except.map]) quiet ?_
    cases h
    rfl
  | error f =>
    refine ledger.keep (by simp [Entry.clears, answer, Except.map]) (by simp [Entry.admitted?])
      quiet ?_
    rw [h.pipeline]

end

section

variable [Backend.Lawful ε] [Resizer] {start s : Site ε} {past : List (Entry ε)}

theorem Ledger.turn {origin : Pipeline} {turn : Turn ε} (ledger : Ledger past s)
    (sound : Sound origin s.pipeline)
    (ready : s.pipeline.stage = .submitted → ∃ name d e, Ready s name d e)
    (here : ∀ b, turn ≠ .elsewhere b)
    (accepts : ∀ output o, turn = .command (.observe output) →
      s.bench.outputs.get? output = some o → o.Accepts) :
    Ledger (⟨turn, s⟩ :: past) (Entry.after ⟨turn, s⟩) := by
  have ends := Entry.ends ⟨turn, s⟩
  cases turn with
  | command c =>
    cases c with
    | attach engine =>
      obtain ⟨r, attaches, answer⟩ := attach_command_cases ends
      exact attaches.ledger answer ledger
    | enqueue frame location => exact (enqueue_cases ends).ledger ledger
    | submit =>
      have executes := execute_cases ends
      exact ledger.keep (by simp [Entry.clears]) (by simp [Entry.admitted?])
        (executes.quiet ledger.quiet) (by rw [executes.pending])
    | synchronize =>
      have executes := execute_cases ends
      exact ledger.keep (by simp [Entry.clears]) (by simp [Entry.admitted?])
        (executes.quiet ledger.quiet) (by rw [executes.pending])
    | wait timeout => exact (wait_cases ends).ledger ready ledger
    | fetch => exact ((fetch_cases ends).ledger sound ready ledger).1
    | observe output =>
      refine ledger.keep (by simp [Entry.clears]) (by simp [Entry.admitted?]) ?_ ?_
      · rcases observe_command_cases ends with same | ⟨⟨o, found⟩, same⟩
        · rw [same]
          exact ledger.quiet
        · rw [same]
          have takes := accepts output o rfl found
          intro name registered
          simp only [observe] at registered
          split at registered
          · exact ledger.quiet name registered
          · rcases List.mem_append.1 registered with member | new
            · exact ledger.quiet name member
            · cases List.mem_singleton.1 new
              exact ⟨o, found, takes⟩
      · rcases observe_command_cases ends with same | ⟨_, same⟩
        · rw [same]
        · rw [same]
          simp only [observe]
          split <;> rfl
  | direct engine timeout =>
    refine ledger.used (by simp [Entry.clears]) (by simp [Entry.admitted?]) ?_
    rcases Site.onEngine_cases ends with same | ⟨_, e, _, _, same⟩
    · exact .inl same
    · exact .inr ⟨engine, e, same⟩
  | release engine =>
    refine ledger.used (by simp [Entry.clears]) (by simp [Entry.admitted?]) ?_
    rcases release_cases ends with same | ⟨e, _, same⟩
    · exact .inl same
    · exact .inr ⟨engine, _, same⟩
  | elsewhere b => exact absurd rfl (here b)

theorem History.ledger (fresh : Fresh start) (history : History start past s)
    (here : ∀ entry ∈ past, ∀ b, entry.turn ≠ .elsewhere b)
    (accepts : ∀ entry ∈ past, ∀ output o, entry.turn = .command (.observe output) →
      entry.before.bench.outputs.get? output = some o → o.Accepts) : Ledger past s := by
  induction history with
  | start =>
    constructor
    · intro name registered
      rw [fresh.made] at registered
      cases registered
    · rw [fresh.made]
      rfl
  | @turn past s earlier turn ih =>
    have here' := fun entry member => here entry (List.mem_cons_of_mem _ member)
    have ledger := ih here' fun entry member => accepts entry (List.mem_cons_of_mem _ member)
    have sound := earlier.sound fresh
    -- a batch in flight has its engine, so only a failure of the backend can drop it
    refine ledger.turn sound (fun submitted => ?_) (here _ List.mem_cons_self)
      (accepts _ List.mem_cons_self)
    exact earlier.ready fresh (fun entry member => .of_here (here' entry member))
      (sound.filled_of_submitted submitted)

end

/-- Frames are neither lost nor given out twice, and results come in the order of the frames. A
batch that was fetched had one result for each frame taken into a slot since the batch was last
cleared, in the order of the frames and at their locations. Every frame ever taken into a slot left
with exactly one batch, or is in its slot still; and a batch left by being fetched, by attaching an
engine, or by a wait or a fetch that answered no after the backend or the decoder had failed. -/
theorem frames_conserved [Resizer] [Backend.Lawful ε] {start s : Site ε} {past : List (Entry ε)}
    (fresh : Fresh start) (history : History start past s)
    (here : ∀ entry ∈ past, ∀ b, entry.turn ≠ .elsewhere b)
    (accepts : ∀ entry ∈ past, ∀ output o, entry.turn = .command (.observe output) →
      entry.before.bench.outputs.get? output = some o → o.Accepts) :
    (∀ newer entry older, past = newer ++ entry :: older → entry.turn = .command .fetch →
      entry.answer = .ok true → (entry, batch older) ∈ departures past ∧
        entry.after.pipeline.results.map (fun r => Except.ok r.location) =
          (batch older).map fun a => Rect.ofValue a.location) ∧
    (departures past).flatMap Prod.snd ++ batch past = admissions past ∧
    (admissions past).map (·.number) = List.range (admissions past).length ∧
    (∀ entry frames, (entry, frames) ∈ departures past →
      (entry.turn = .command .fetch ∧ entry.answer = .ok true) ∨
      (∃ engine, entry.turn = .command (.attach engine) ∧ entry.answer = .ok true) ∨
      (∃ timeout, entry.turn = .command (.wait timeout) ∧ entry.answer = .ok false ∧
        runFails entry.before timeout = true) ∨
      (entry.turn = .command .fetch ∧ entry.answer = .ok false ∧
        (runFails entry.before (.int 0) = true ∨ decodingFails entry.before = true))) ∧
    s.pipeline.pending.map (fun r => Except.ok r.location) =
      (batch past).map fun a => Rect.ofValue a.location := by
  refine ⟨?_, (admissions_eq past).symm, number_admissions past, ?_,
    (history.ledger fresh here accepts).buffered⟩
  · rintro newer ⟨turn, before⟩ older rfl fetch answer
    obtain rfl : turn = .command .fetch := fetch
    have clears : Entry.clears (⟨.command .fetch, before⟩ : Entry ε) = true := by
      simp [Entry.clears, answer]
    refine ⟨mem_departures clears newer older, ?_⟩
    have earlier := history.earlier
    have here' := fun entry (member : entry ∈ older) =>
      here entry (List.mem_append_right _ (List.mem_cons_of_mem _ member))
    have ledger := earlier.ledger fresh here' fun entry member =>
      accepts entry (List.mem_append_right _ (List.mem_cons_of_mem _ member))
    have sound := earlier.sound fresh
    refine ((fetch_cases (Entry.ends ⟨.command .fetch, before⟩)).ledger sound
      (fun submitted => ?_) ledger).2 answer
    exact earlier.ready fresh (fun entry member => .of_here (here' entry member))
      (sound.filled_of_submitted submitted)
  · intro entry frames member
    exact clears_cases (clears_of_mem member)

def threePlates : List (Turn Onnx.Engine) :=
  [.command (.attach "cpu"), enqueueAt 0, enqueueAt 1, .command .submit, .command .fetch,
    enqueueAt 2]

def afterThreePlates : List (Entry Onnx.Engine) × Site Onnx.Engine :=
  played [] (plateSite 2 [yielding 2 (.ofInt 5)]) threePlates

theorem conserved_threePlates :
    (admissions afterThreePlates.1).length = 3 ∧
      (departures afterThreePlates.1).map (fun left => left.2.length) = [0, 2] ∧
      (departures afterThreePlates.1).flatMap Prod.snd ++ batch afterThreePlates.1 =
        admissions afterThreePlates.1 ∧
      afterThreePlates.2.pipeline.pending.map (fun r => Except.ok r.location) =
        (batch afterThreePlates.1).map fun a => Rect.ofValue a.location := by
  have fresh : Fresh (plateSite 2 [yielding 2 (.ofInt 5)]) :=
    fresh_plateSite (by decide) _
  have history : History (plateSite 2 [yielding 2 (.ofInt 5)]) afterThreePlates.1
      afterThreePlates.2 := History.start.played threePlates
  have here : ∀ entry ∈ afterThreePlates.1, ∀ b, entry.turn ≠ .elsewhere b :=
    here_played (by simp [threePlates, enqueueAt])
  have accepts : ∀ entry ∈ afterThreePlates.1, ∀ output o,
      entry.turn = .command (.observe output) →
        entry.before.bench.outputs.get? output = some o → o.Accepts := by
    intro entry member output _ observe
    exact absurd observe (forall_played
      (P := fun turn => ∀ output, turn ≠ .command (.observe output)) (by simp)
      (by simp [threePlates, enqueueAt]) entry member output)
  obtain ⟨_, frames, _, _, pending⟩ := frames_conserved fresh history here accepts
  exact ⟨by decide +kernel, by decide +kernel, frames, pending⟩

end FrameBatch.Pipeline
