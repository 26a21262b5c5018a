import FrameBatch.Proofs.Engine.Onnx
import FrameBatch.Proofs.Pipeline.Moves
import FrameBatch.Tensor.Bilinear

namespace FrameBatch.Pipeline

open Backend (Lawful)

variable {ε : Type} [Backend ε]

/-- The run of the batch in flight has ended well; the engine is in the second state once that is
known. -/
inductive RunOver (s : Site ε) (e : ε) : ε → Prop
  | known (done : s.pipeline.done = true) : RunOver s e e
  | answered {e' : ε} (running : s.pipeline.done = false)
    (waits : (Backend.wait (.int 0)).Ends e (.ok true) e') : RunOver s e e'

section

variable [Resizer]

/-- The batch has left its pipeline, and no frame is turned away. -/
structure Vacated (stage : Stage) (s : Site ε) : Prop where
  stage : s.pipeline.stage = stage
  empty : s.pipeline.enqueued = 0 ∧ s.pipeline.pending = []
  takes : ∀ frame location, (enqueue frame location s).result ≠ .ok false

/-- The batch is in flight as it was before, and no other one gets in. -/
structure Blocked (before s : Site ε) : Prop where
  stage : s.pipeline.stage = .submitted
  kept : s.pipeline.enqueued = before.pipeline.enqueued
  takes : ∀ frame location, (enqueue frame location s).result ≠ .ok true
  submits : (submit s).result ≠ .ok true
  synchronizes : (synchronize s).result ≠ .ok true

theorem Vacated.of_empty {origin : Pipeline} {s : Site ε} {stage : Stage}
    (sound : Sound origin s.pipeline) (same : s.pipeline.stage = stage)
    (empty : s.pipeline.enqueued = 0 ∧ s.pipeline.pending = []) : Vacated stage s := by
  refine ⟨same, empty, ?_⟩
  intro frame location answer
  have ends := enqueue_cases ((enqueue frame location).ends_self s)
  generalize (enqueue frame location s).state = s' at ends
  rw [answer] at ends
  cases ends with
  | refused ready full =>
    have room := sound.room
    rcases full with submitted | full
    · exact sound.filled_of_submitted submitted empty.1
    · have := empty.1
      omega

theorem Blocked.of_submitted {before s : Site ε} (submitted : s.pipeline.stage = .submitted)
    (kept : s.pipeline.enqueued = before.pipeline.enqueued) : Blocked before s := by
  have executed {run : Act ε Unit} {done : Bool} {s' : Site ε} :
      ¬ ExecuteEnds run done s (.ok true) s' := by
    intro ends
    generalize answer : (Except.ok true : Except Fault Bool) = r at ends
    cases ends with
    | failed _ resting _ _ => exact resting submitted
    | started _ resting _ _ => exact resting submitted
    | _ => cases answer
  refine ⟨submitted, kept, ?_, ?_, ?_⟩
  · intro frame location answer
    have ends := enqueue_cases ((enqueue frame location).ends_self s)
    generalize (enqueue frame location s).state = s' at ends
    rw [answer] at ends
    cases ends with
    | accepted _ resting _ _ _ => exact resting submitted
  · intro answer
    have ends := execute_cases (submit.ends_self s)
    rw [answer] at ends
    exact executed ends
  · intro answer
    have ends := execute_cases (synchronize.ends_self s)
    rw [answer] at ends
    exact executed ends

end

section

variable {s s' waited : Site ε} {name : String} {d : Descriptor} {e e₁ e₂ : ε} {t : Tensor}

theorem RunOver.waits [Lawful ε] {r : Except Fault Bool} (ended : RunOver s e e₁)
    (ready : Ready s name d e) (submitted : s.pipeline.stage = .submitted)
    (h : WaitEnds s (.int 0) r waited) : r = .ok true ∧ Ready waited name d e₁ := by
  cases ended with
  | known done =>
    cases h with
    | known _ _ => exact ⟨rfl, ready⟩
    | _ => simp_all
  | answered running waits =>
    have asked {r' : Except Fault Bool} {s₁ : Site ε}
        (asks : AskEnds (Backend.wait (.int 0)) s r' s₁) :
        r' = .ok true ∧ Ready s₁ name d e₁ := by
      cases asks with
      | unready unready => exact absurd unready ready.not_unready
      | asked ready' ends =>
        obtain ⟨rfl, rfl, rfl⟩ := ready.unique ready'
        cases waits.state.symm.trans ends.state
        exact ⟨ends.result.symm.trans waits.result, ready.attached, ready.described,
          ready.held.withEngine _, Lawful.loaded_of_use ready.loaded (.waits waits)⟩
    cases h with
    | idle resting => exact absurd submitted resting
    | known _ done => cases running.symm.trans done
    | answered _ _ asks =>
      obtain ⟨same, ready'⟩ := asked asks
      exact ⟨same, ready'.attached, ready'.described, ready'.held, ready'.loaded⟩
    | failed _ _ asks _ => cases (asked asks).1
    | broken _ _ asks _ => cases (asked asks).1

/-- What becomes of a batch that is fetched, by what waiting and decoding ended in. -/
inductive Fate (s : Site ε) (answer : Except Fault Bool) (p : Pipeline) :
    Except Fault (List Result) → Prop
  | given {results : List Result} (quiet : Quiet s → answer = .ok true)
    (after : p = { s.pipeline.cleared with results, stage := .fetched }) :
    Fate s answer p (.ok results)
  | dropped {f : Fault} (runtime : f.isRuntime = true) (told : answer = .ok false)
    (after : p = s.pipeline.cleared) : Fate s answer p (.error f)
  | kept {f : Fault} {done : Bool} {pending : List Result} (other : f.isRuntime = false)
    (told : answer = .error f) (after : p = { s.pipeline with done, pending }) :
    Fate s answer p (.error f)

theorem FetchEnds.decoded [Lawful ε] {r : Except Fault Bool} (h : FetchEnds s r s')
    (submitted : s.pipeline.stage = .submitted) (ready : Ready s name d e)
    (ended : RunOver s e e₁) :
    ∃ waited read answer, waited.pipeline = { s.pipeline with done := true } ∧
      Ready waited name d e₁ ∧ DecodeEnds waited answer read ∧
        Fate s r s'.pipeline answer := by
  have settled {waited : Site ε} (asks : isOver.Ends s (.ok true) waited) :
      waited.pipeline = { s.pipeline with done := true } ∧ Ready waited name d e₁ :=
    have waits := isOver_cases submitted asks
    ⟨waits.pipeline_of_ok, (ended.waits ready submitted waits).2⟩
  cases h with
  | idle resting _ => exact absurd submitted resting
  | early _ asks empty =>
    exact absurd (ended.waits ready submitted (isOver_cases submitted asks)).1 empty
  | failed _ asks decodes runtime =>
    obtain ⟨same, ready'⟩ := settled asks
    obtain ⟨pending, frame⟩ := decodes.frame
    exact ⟨_, _, _, same, ready', decodes,
      .dropped runtime rfl (by rw [dropped, frame, same]; rfl)⟩
  | broken _ asks decodes other =>
    obtain ⟨same, ready'⟩ := settled asks
    obtain ⟨pending, frame⟩ := decodes.frame
    exact ⟨_, _, _, same, ready', decodes, .kept other rfl (by rw [frame, same])⟩
  | fetched _ asks decodes delivers =>
    obtain ⟨same, ready'⟩ := settled asks
    obtain ⟨pending, frame⟩ := decodes.frame
    refine ⟨_, _, _, same, ready', decodes, .given (fun quiet => ?_) ?_⟩
    · rw [(delivers_quiet quiet (isOver_cases submitted asks) decodes delivers).1]
      rfl
    · obtain ⟨outputs, rfl⟩ := deliver_frame delivers
      rw [withResults, frame, same]
      rfl

theorem FetchEnds.unread [Lawful ε] {r : Except Fault Bool} {f : Fault} (h : FetchEnds s r s')
    (plate : s.pipeline.decoder = .plate) (submitted : s.pipeline.stage = .submitted)
    (ready : Ready s name d e) (ended : RunOver s e e₁)
    (reads : (Backend.tensor d.output).Ends e₁ (.error f) e₂) :
    Fate s r s'.pipeline (.error f) := by
  obtain ⟨waited, read, answer, same, ready', decodes, fate⟩ :=
    h.decoded submitted ready ended
  cases decodes with
  | unready unready => exact absurd unready ready'.not_unready
  | decoded ready'' ends =>
    obtain ⟨rfl, rfl, rfl⟩ := ready'.unique ready''
    rw [same, plate] at ends
    cases Decoder.plate_cases ends with
    | unread fault =>
      cases fault.result.symm.trans reads.result
      exact fate
    | foreign reads' _ => cases reads'.result.symm.trans reads.result
    | read reads' _ _ => cases reads'.result.symm.trans reads.result

theorem FetchEnds.readings [Lawful ε] {r : Except Fault Bool} (h : FetchEnds s r s')
    (plate : s.pipeline.decoder = .plate) (submitted : s.pipeline.stage = .submitted)
    (ready : Ready s name d e) (family : d.family = .plate) (ended : RunOver s e e₁)
    (reads : (Backend.tensor d.output).Ends e₁ (.ok t) e₂) :
    ∃ r' results, Plate.ReadEnds t Plate.maxSequence s.pipeline.pending.length r' ∧
      Fate s r s'.pipeline (r'.map fun _ => results) := by
  obtain ⟨waited, read, answer, same, ready', decodes, fate⟩ :=
    h.decoded submitted ready ended
  cases decodes with
  | unready unready => exact absurd unready ready'.not_unready
  | decoded ready'' ends =>
    obtain ⟨rfl, rfl, rfl⟩ := ready'.unique ready''
    rw [same, plate] at ends
    cases Decoder.plate_cases ends with
    | unread fault => cases fault.result.symm.trans reads.result
    | foreign _ other => exact absurd family other
    | read reads' _ readings =>
      cases reads'.result.symm.trans reads.result
      exact ⟨_, _, (Plate.readAll_cases readings).1, fate⟩

theorem FetchEnds.unasked {r : Except Fault Bool} {f : Fault} (h : FetchEnds s r s')
    (submitted : s.pipeline.stage = .submitted) (running : s.pipeline.done = false)
    (asked : ∀ {r' s₁}, AskEnds (Backend.wait (.int 0)) s r' s₁ → r' = .error f) :
    Fate s r s'.pipeline (.error f) := by
  have early {r' : Except Fault Bool} {s₁ : Site ε} (h : WaitEnds s (.int 0) r' s₁) :
      Fate s r' s₁.pipeline (.error f) ∧ r' ≠ .ok true := by
    cases h with
    | idle resting => exact absurd submitted resting
    | known _ done => cases running.symm.trans done
    | answered _ _ asks => cases asked asks
    | failed _ _ asks runtime =>
      cases asked asks
      exact ⟨.dropped runtime rfl (by rw [dropped, asks.pipeline]), by simp⟩
    | broken _ _ asks other =>
      cases asked asks
      exact ⟨.kept other rfl asks.pipeline, by simp⟩
  cases h with
  | idle resting _ => exact absurd submitted resting
  | early _ asks _ => exact (early (isOver_cases submitted asks)).1
  | failed _ asks _ _ => exact absurd rfl (early (isOver_cases submitted asks)).2
  | broken _ asks _ _ => exact absurd rfl (early (isOver_cases submitted asks)).2
  | fetched _ asks _ _ => exact absurd rfl (early (isOver_cases submitted asks)).2

theorem FetchEnds.failure {r : Except Fault Bool} {f : Fault} (h : FetchEnds s r s')
    (submitted : s.pipeline.stage = .submitted) (ready : Ready s name d e)
    (running : s.pipeline.done = false) (waits : (Backend.wait (.int 0)).Ends e (.error f) e₁) :
    Fate s r s'.pipeline (.error f) := by
  refine h.unasked submitted running ?_
  intro r' s₁ asks
  cases asks with
  | unready unready => exact absurd unready ready.not_unready
  | asked ready' ends =>
    obtain ⟨rfl, rfl, rfl⟩ := ready.unique ready'
    exact ends.result.symm.trans waits.result

theorem FetchEnds.unready {r : Except Fault Bool} {f : Fault} (h : FetchEnds s r s')
    (submitted : s.pipeline.stage = .submitted) (unready : Unready s f) :
    Fate s r s'.pipeline (.error f) := by
  have known {waited : Site ε} (done : s.pipeline.done = true)
      (asks : isOver.Ends s (.ok true) waited) : waited = s := by
    cases isOver_cases submitted asks with
    | known _ _ => rfl
    | answered _ running _ => cases running.symm.trans done
  have decoded {s₁ : Site ε} {answer : Except Fault (List Result)}
      (decodes : DecodeEnds s answer s₁) : answer = .error f ∧ s₁ = s := by
    cases decodes with
    | unready unready' => exact ⟨by rw [unready.unique unready'], rfl⟩
    | decoded ready _ => exact absurd unready ready.not_unready
  cases done : s.pipeline.done with
  | false =>
    refine h.unasked submitted done ?_
    intro r' s₁ asks
    cases asks with
    | unready unready' => rw [unready.unique unready']
    | asked ready _ => exact absurd unready ready.not_unready
  | true =>
    cases h with
    | idle resting _ => exact absurd submitted resting
    | early _ asks empty =>
      cases isOver_cases submitted asks with
      | idle resting => exact absurd submitted resting
      | known _ _ => exact absurd rfl empty
      | answered _ running _ => cases running.symm.trans done
      | failed _ running _ _ => cases running.symm.trans done
      | broken _ running _ _ => cases running.symm.trans done
    | failed _ asks decodes runtime =>
      cases known done asks
      obtain ⟨same, rfl⟩ := decoded decodes
      cases same
      exact .dropped runtime rfl rfl
    | broken _ asks decodes other =>
      cases known done asks
      obtain ⟨same, rfl⟩ := decoded decodes
      cases same
      exact .kept other rfl rfl
    | fetched _ asks decodes _ =>
      cases known done asks
      cases (decoded decodes).1

end

/-- Fetching drops the batch if the failure is one of the backend; any other failure is passed on,
and the batch stays in flight. -/
def Reports [Resizer] (s : Site ε) (f : Fault) : Prop :=
  (f.isRuntime = true ∧ (fetch s).result = .ok false ∧ Vacated .idle (fetch s).state) ∨
    (f.isRuntime = false ∧ (fetch s).result = .error f ∧ Blocked s (fetch s).state)

section

variable [Resizer] {origin : Pipeline} {s : Site ε} {f : Fault}

theorem Fate.vacated {results : List Result} (sound : Sound origin (fetch s).state.pipeline)
    (fate : Fate s (fetch s).result (fetch s).state.pipeline (.ok results)) :
    Vacated .fetched (fetch s).state ∧ (Quiet s → (fetch s).result = .ok true) := by
  cases fate with
  | given quiet after =>
    exact ⟨.of_empty sound (by rw [after]) (by rw [after]; exact ⟨rfl, rfl⟩), quiet⟩

theorem Fate.reports (submitted : s.pipeline.stage = .submitted)
    (sound : Sound origin (fetch s).state.pipeline)
    (fate : Fate s (fetch s).result (fetch s).state.pipeline (.error f)) : Reports s f := by
  cases fate with
  | dropped runtime told after =>
    exact .inl ⟨runtime, told,
      .of_empty sound (by rw [after]; rfl) (by rw [after]; exact ⟨rfl, rfl⟩)⟩
  | kept other told after =>
    exact .inr ⟨other, told, .of_submitted (by rw [after, submitted]) (by rw [after])⟩

theorem Reports.dropped (reports : Reports s f) (runtime : f.isRuntime = true) :
    (fetch s).result = .ok false ∧ Vacated .idle (fetch s).state := by
  rcases reports with ⟨_, dropped⟩ | ⟨other, _⟩
  · exact dropped
  · cases runtime.symm.trans other

theorem Reports.kept (reports : Reports s f) (other : f.isRuntime = false) :
    (fetch s).result = .error f ∧ Blocked s (fetch s).state := by
  rcases reports with ⟨runtime, _⟩ | ⟨_, kept⟩
  · cases runtime.symm.trans other
  · exact kept

end

/-- Fetching a batch of plates whose run has ended makes room for the next batch, unless the run or
the reading of its output failed with something else than a failure of the backend, or the sequence
of some plate runs into an infinity or a datum that is no number: then it fails, and the batch stays
in flight. -/
theorem finished_batch_settles [Resizer] [Lawful ε] {start s : Site ε} {past : List (Entry ε)}
    {d : Descriptor} (fresh : Fresh start) (plate : start.pipeline.decoder = .plate)
    (history : History start past s) (submitted : s.pipeline.stage = .submitted)
    (described : s.descriptor? = some d) (family : d.family = .plate) :
    (∀ f, Unready s f → (fetch s).result = .ok false ∧ Vacated .idle (fetch s).state) ∧
    ∀ name e, Ready s name d e →
      (∀ f e', s.pipeline.done = false → (Backend.wait (.int 0)).Ends e (.error f) e' →
        Reports s f) ∧
      ∀ e' e'', RunOver s e e' →
        (∀ f, (Backend.tensor d.output).Ends e' (.error f) e'' → Reports s f) ∧
        ∀ t, (Backend.tensor d.output).Ends e' (.ok t) e'' →
          (t.size < s.pipeline.enqueued * Plate.maxSequence →
            (fetch s).result = .ok false ∧ Vacated .idle (fetch s).state) ∧
          (s.pipeline.enqueued * Plate.maxSequence ≤ t.size →
            (∀ i < s.pipeline.enqueued,
              ¬ Plate.Illegible (Plate.stretch t Plate.maxSequence i)) →
              Vacated .fetched (fetch s).state ∧ (Quiet s → (fetch s).result = .ok true)) ∧
          (s.pipeline.enqueued * Plate.maxSequence ≤ t.size →
            ∀ i < s.pipeline.enqueued, Plate.Illegible (Plate.stretch t Plate.maxSequence i) →
              ∃ f, (fetch s).result = .error f ∧ f.isRuntime = false ∧
                Blocked s (fetch s).state) := by
  have sound := history.sound fresh
  have fetches := fetch_cases (fetch.ends_self s)
  have after := fetches.sound sound
  have plate := sound.decoder_eq.trans plate
  constructor
  · intro f unready
    have reports := (fetches.unready submitted unready).reports submitted after
    exact reports.dropped (unready.runtime described)
  intro name e ready
  constructor
  · intro f e' running waits
    exact (fetches.failure submitted ready running waits).reports submitted after
  intro e' e'' ended
  constructor
  · intro f reads
    exact (fetches.unread plate submitted ready ended reads).reports submitted after
  intro t reads
  obtain ⟨r, results, readings, fate⟩ :=
    fetches.readings plate submitted ready family ended reads
  rw [sound.matched] at readings
  cases readings with
  | short lacks runtime =>
    refine ⟨fun _ => (fate.reports submitted after).dropped runtime, ?_, ?_⟩
    · intro holds
      omega
    · intro holds
      omega
  | illegible holds other inside illegible =>
    refine ⟨?_, ?_, ?_⟩
    · intro lacks
      omega
    · intro _ legible
      exact absurd illegible (legible _ inside)
    · intro _ _ _ _
      have other := Bool.eq_false_iff.2 fun runtime => other (.inl runtime)
      obtain ⟨fault, blocked⟩ := (fate.reports submitted after).kept other
      exact ⟨_, fault, other, blocked⟩
  | read holds legible =>
    refine ⟨?_, fun _ _ => fate.vacated after, ?_⟩
    · intro lacks
      omega
    · intro _ i inside illegible
      exact absurd illegible (legible i inside)

def onePlate : List (Turn Onnx.Engine) :=
  [.command (.attach "cpu"), enqueueAt 0, .command .submit]

def onePlateRead (first : Binary) : List (Entry Onnx.Engine) × Site Onnx.Engine :=
  played [] (plateSite 1 [yielding 1 first]) onePlate

def boundPlates : Descriptor where
  family := .plate
  category := Family.plate.category
  location := "plates.onnx"
  maxBatch := 1
  input := some "data"
  sequence := some "seq"
  output := some "prob"

theorem settled_onePlateRead :
    (fetch (onePlateRead (.ofInt 5)).2).result = .ok true ∧
      Vacated .fetched (fetch (onePlateRead (.ofInt 5)).2).state := by
  have fresh : Fresh (plateSite 1 [yielding 1 (.ofInt 5)]) := fresh_plateSite (by decide) _
  have undisturbed : ∀ entry ∈ (onePlateRead (.ofInt 5)).1, Undisturbed entry :=
    fun entry member => .of_here (here_played (by simp [onePlate, enqueueAt]) entry member)
  have single : (onePlateRead (.ofInt 5)).2.pipeline.enqueued = 1 := by decide +kernel
  have alone : (onePlateRead (.ofInt 5)).2.pipeline.outputs = [] := by decide +kernel
  have waits : (attached? (onePlateRead (.ofInt 5)).2).map (fun e =>
      decide ((Backend.wait (.int 0) e).result = .ok true)) = some true := by decide +kernel
  have legible : (attached? (onePlateRead (.ofInt 5)).2).map (fun e =>
      match (Backend.tensor boundPlates.output (Backend.wait (.int 0) e).state).result with
      | .ok t => decide (Plate.maxSequence ≤ t.size ∧
          ¬ Plate.Illegible (Plate.stretch t Plate.maxSequence 0))
      | .error _ => false) = some true := by decide +kernel
  have history : History (plateSite 1 [yielding 1 (.ofInt 5)]) (onePlateRead (.ofInt 5)).1
      (onePlateRead (.ofInt 5)).2 := History.start.played onePlate
  have described : (onePlateRead (.ofInt 5)).2.descriptor? = some boundPlates := by
    decide +kernel
  have submitted : (onePlateRead (.ofInt 5)).2.pipeline.stage = .submitted := by decide +kernel
  obtain ⟨name, d, e, ready⟩ := history.ready fresh undisturbed (by rw [single]; simp)
  cases described.symm.trans ready.described
  obtain ⟨_, settles⟩ := finished_batch_settles fresh rfl history submitted described rfl
  obtain ⟨_, settles⟩ := settles name e ready
  have found : attached? (onePlateRead (.ofInt 5)).2 = some e := ready.attached?_eq
  rw [found, Option.map_some, Option.some_inj] at waits legible
  split at legible
  · rename_i t read
    obtain ⟨holds, legible⟩ := of_decide_eq_true legible
    obtain ⟨_, settles⟩ := settles _ _
      (.answered (by decide +kernel) ⟨of_decide_eq_true waits, rfl⟩)
    obtain ⟨_, fetched, _⟩ := settles t ⟨read, rfl⟩
    obtain ⟨vacated, answer⟩ :=
      fetched (by rw [single]; omega) (by rw [single]; simpa using legible)
    exact ⟨answer (by rw [Quiet, alone]; simp), vacated⟩
  · cases legible

/-- The run has ended, but the plate cannot be read, and the pipeline takes no frames any more. -/
theorem blocked_onePlateRead_nan :
    ∃ (start : Site Onnx.Engine) (past : List (Entry Onnx.Engine)) (s : Site Onnx.Engine),
      Fresh start ∧ start.pipeline.decoder = .plate ∧ History start past s ∧
      s.pipeline.stage = .submitted ∧ s.descriptor? = some boundPlates ∧
      (∃ e e', attached? s = some e ∧ RunOver s e e') ∧
      (∃ f, (fetch s).result = .error f ∧ f.isRuntime = false) ∧
      (fetch s).state.pipeline.stage = .submitted ∧
      (enqueue (.packed (.fill (.element .u8) [1, 1, 1] (.whole 7)))
        (.rect (.int 1) (.int 0) (.int 1) (.int 1)) (fetch s).state).result = .ok false := by
  have finished : (attached? (onePlateRead .nan).2).map (fun e =>
      decide ((Backend.wait (.int 0) e).result = .ok true)) = some true := by decide +kernel
  have broken : (match (fetch (onePlateRead .nan).2).result with
      | .error f => f.isRuntime
      | .ok _ => true) = false := by decide +kernel
  obtain ⟨e, found, waits⟩ := Option.map_eq_some_iff.1 finished
  refine ⟨plateSite 1 [yielding 1 .nan], _, _, fresh_plateSite (by decide) _, rfl,
    History.start.played onePlate, by decide +kernel, by decide +kernel,
    ⟨e, _, found, .answered (by decide +kernel) ⟨of_decide_eq_true waits, rfl⟩⟩, ?_,
    by decide +kernel, by decide +kernel⟩
  split at broken
  · exact ⟨_, ‹_›, broken⟩
  · cases broken

end FrameBatch.Pipeline
