import FrameBatch.Proofs.Engine.Onnx
import FrameBatch.Proofs.Pipeline.Moves
import FrameBatch.Proofs.Tensor.Stamp
import FrameBatch.Tensor.Bilinear

namespace FrameBatch

namespace Bench

def inputNames {ε : Type} (b : Bench ε) (engine : String) : List String :=
  match b.engines.get? engine with
  | some (key, _) => (b.network key).inputNames
  | none => []

end Bench

namespace Pipeline

open Backend (Lawful Inert Serve Step Steps contents)

variable {ε : Type} [Backend ε]

section

variable [Resizer]

def Entry.frame? (entry : Entry ε) : Option Frame :=
  match entry.turn, entry.answer with
  | .command (.enqueue frame _), .ok true => some frame
  | _, _ => none

/-- The frames of the batch, in the order in which they were accepted. A batch is over when no slot
is in use any more. -/
def frames : List (Entry ε) → List Frame
  | [] => []
  | entry :: past =>
    if entry.after.pipeline.enqueued = 0 then []
    else frames past ++ entry.frame?.toList

theorem Entry.frame?_of_turn {entry : Entry ε}
    (other : ∀ frame location, entry.turn ≠ .command (.enqueue frame location)) :
    entry.frame? = none := by
  unfold Entry.frame?
  split
  · rename_i turn _
    exact absurd turn (other _ _)
  · rfl

theorem Entry.counts (entry : Entry ε) (used : entry.after.pipeline.enqueued ≠ 0) :
    entry.after.pipeline.enqueued =
      entry.before.pipeline.enqueued + entry.frame?.toList.length := by
  obtain ⟨turn, s⟩ := entry
  have ends := Entry.ends ⟨turn, s⟩
  have executed {run : Act ε Unit} {done : Bool} {r : Except Fault Bool} {s' : Site ε}
      (h : ExecuteEnds run done s r s') : s'.pipeline.enqueued = s.pipeline.enqueued := by
    cases h <;> rfl
  have waited {timeout : Value} {r : Except Fault Bool} {s' : Site ε}
      (h : WaitEnds s timeout r s') :
      s'.pipeline.enqueued = 0 ∨ s'.pipeline.enqueued = s.pipeline.enqueued := by
    cases h with
    | idle _ => exact .inr rfl
    | known _ _ => exact .inr rfl
    | answered _ _ asks => exact .inr (by rw [told, asks.pipeline])
    | failed _ _ _ _ => exact .inl rfl
    | broken _ _ asks _ => exact .inr (by rw [asks.pipeline])
  by_cases enqueues : ∃ frame location, turn = .command (.enqueue frame location)
  · obtain ⟨frame, location, rfl⟩ := enqueues
    generalize answer : Entry.answer ⟨.command (.enqueue frame location), s⟩ = r at ends
    generalize Entry.after ⟨.command (.enqueue frame location), s⟩ = s' at ends used ⊢
    simp only [Entry.frame?, answer]
    cases enqueue_cases ends <;> rfl
  · have other : Entry.frame? ⟨turn, s⟩ = none :=
      Entry.frame?_of_turn fun frame location same => enqueues ⟨frame, location, same⟩
    rw [other, Option.toList_none, List.length_nil, Nat.add_zero]
    generalize Entry.answer ⟨turn, s⟩ = r at ends
    generalize Entry.after ⟨turn, s⟩ = s' at ends used ⊢
    cases turn with
    | command c =>
      cases c with
      | attach engine =>
        obtain ⟨r', attaches, _⟩ := attach_command_cases ends
        cases r' with
        | ok _ =>
          cases attaches
          exact absurd rfl used
        | error f => rw [attaches.pipeline]
      | enqueue frame location => exact absurd ⟨_, _, rfl⟩ enqueues
      | submit => exact executed (execute_cases ends)
      | synchronize => exact executed (execute_cases ends)
      | wait timeout => exact (waited (wait_cases ends)).resolve_left used
      | fetch =>
        cases fetch_cases ends with
        | idle _ _ => rfl
        | early submitted asks _ =>
          exact (waited (isOver_cases submitted asks)).resolve_left used
        | failed _ _ _ _ => exact absurd rfl used
        | broken submitted asks decodes _ =>
          obtain ⟨_, frame⟩ := decodes.frame
          rw [frame] at used ⊢
          exact (waited (isOver_cases submitted asks)).resolve_left used
        | fetched _ _ _ delivers =>
          obtain ⟨outputs, rfl⟩ := deliver_frame delivers
          exact absurd rfl used
      | observe output =>
        rcases observe_command_cases ends with rfl | ⟨_, rfl⟩
        · rfl
        · simp only [observe]
          split <;> rfl
    | direct engine timeout =>
      rcases Site.onEngine_cases ends with rfl | ⟨_, _, _, _, rfl⟩ <;> rfl
    | release engine =>
      rcases release_cases ends with rfl | ⟨_, _, rfl⟩ <;> rfl
    | elsewhere b => rw [elsewhere_state ends]

end

section

variable {s s' : Site ε} {name : String} {d : Descriptor} {e : ε}

theorem Ready.withEngine [Lawful ε] {e' : ε} (ready : Ready s name d e)
    (uses : Backend.Uses e e') : Ready (s.withEngine name e') name d e' where
  attached := ready.attached
  described := ready.described
  held := ready.held.withEngine e'
  loaded := Backend.loaded_of_uses uses ready.loaded

theorem inert_place [Resizer] {inputs : List String} {input : String} {frame : Frame}
    {scale : Value} {slot : Nat} {e' : ε} {r : Except Fault Unit} (inert : Inert inputs e)
    (bound : d.input = some input) (member : input ∈ inputs)
    (h : (place d frame scale slot).Ends e r e') :
    Steps inputs e e' ∧
      (∀ name ∈ inputs, name ≠ input ∨ r ≠ .ok () →
        contents (some name) e' = contents (some name) e) ∧
      (r = .ok () → ∃ old loaded, contents d.input e = .ok old ∧
        old.loadFrame frame scale (.int slot) = .ok loaded ∧ contents d.input e' = .ok loaded) := by
  cases place_cases h with
  | unread reads =>
    have serve : Serve e e' := .watches (.reads reads)
    exact ⟨.single (.serves serve), fun _ other _ => inert.kept_of_serve serve other, by simp⟩
  | written reads loads ends =>
    rw [bound] at reads ends ⊢
    have type := Tensor.type_loadFrame loads
    have shape := Tensor.shape_loadFrame loads
    refine ⟨.single (.writes member reads type shape ends), fun name other apart => ?_, ?_⟩
    · exact inert.untouched .refl member reads type shape ends other apart
    · rintro rfl
      exact ⟨_, _, reads.1, loads, inert.written_of_reads member reads type shape ends⟩

/-- A turn that attaches no engine loads the bound input with the frame that it takes into the next
slot, and leaves it as it is if it takes none. -/
theorem Turn.loads [Resizer] [Lawful ε] {turn : Turn ε} {network : Network}
    (builtin : s.pipeline.decoder.Builtin) (here : ∀ b, turn ≠ .elsewhere b)
    (kept : ∀ engine, turn = .command (.attach engine) → Entry.answer ⟨turn, s⟩ ≠ .ok true)
    (ready : Ready s name d e) (plays : d.Plays network) (distinct : network.inputNames.Nodup)
    (inert : Inert network.inputNames e) :
    ∃ d' e', Ready (Entry.after ⟨turn, s⟩) name d' e' ∧ d.Grows d' ∧
      Steps network.inputNames e e' ∧
      (Entry.frame? ⟨turn, s⟩ = none → contents d.input e' = contents d.input e) ∧
      ∀ frame, Entry.frame? ⟨turn, s⟩ = some frame → ∃ old loaded,
        contents d.input e = .ok old ∧
          old.loadFrame frame s.pipeline.scale (.int s.pipeline.enqueued) = .ok loaded ∧
            contents d.input e' = .ok loaded := by
  obtain ⟨input, member, bound⟩ := plays.input
  have ends := Entry.ends ⟨turn, s⟩
  by_cases enqueues : ∃ frame location, turn = .command (.enqueue frame location)
  · obtain ⟨frame, location, rfl⟩ := enqueues
    generalize answer : Entry.answer ⟨.command (.enqueue frame location), s⟩ = r at ends
    generalize Entry.after ⟨.command (.enqueue frame location), s⟩ = s' at ends ⊢
    simp only [Entry.frame?, answer]
    cases enqueue_cases ends with
    | unready unready => exact absurd unready ready.not_unready
    | refused _ _ => exact ⟨d, e, ready, .refl d, .refl, fun _ => rfl, by simp⟩
    | misplaced _ _ _ _ => exact ⟨d, e, ready, .refl d, .refl, fun _ => rfl, by simp⟩
    | failed ready' _ _ _ placing =>
      obtain ⟨rfl, rfl, rfl⟩ := ready.unique ready'
      obtain ⟨steps, same, _⟩ := inert_place inert bound member placing
      refine ⟨d, _, ready.withEngine (uses_place placing), .refl d, steps, fun _ => ?_, by simp⟩
      rw [bound]
      exact same input member (.inr (by simp))
    | accepted ready' _ _ _ placing =>
      obtain ⟨rfl, rfl, rfl⟩ := ready.unique ready'
      obtain ⟨steps, _, loads⟩ := inert_place inert bound member placing
      have after := ready.withEngine (uses_place placing)
      refine ⟨d, _, after.congr rfl rfl rfl, .refl d, steps, by simp, ?_⟩
      intro other same
      cases same
      exact loads rfl
  · have other : Entry.frame? ⟨turn, s⟩ = none :=
      Entry.frame?_of_turn fun frame location same => enqueues ⟨frame, location, same⟩
    -- no other turn writes more than the sequence input, which is not the one for frames
    have sequences : ∀ input ∈ Decoder.sequenceInputs d,
        d.family = .plate ∧ d.sequence = some input := by
      intro input inside
      unfold Decoder.sequenceInputs at inside
      split at inside
      · exact ⟨‹_›, by simpa using inside⟩
      · simp at inside
    have part : Decoder.sequenceInputs d ⊆ network.inputNames := by
      intro input inside
      obtain ⟨plate, bound⟩ := sequences input inside
      obtain ⟨name, member, bound'⟩ := plays.sequence plate
      cases bound.symm.trans bound'
      exact member
    have outside : input ∉ Decoder.sequenceInputs d := by
      intro inside
      obtain ⟨plate, bound'⟩ := sequences input inside
      exact plays.apart plate distinct (bound.trans bound'.symm)
    have moves : Moves (Step (Decoder.sequenceInputs d)) name d e (Entry.after ⟨turn, s⟩) := by
      refine Turn.moves ends builtin here kept (fun watch => .serves (.watches watch)) ?_ ?_ ready
      · intro frame location enqueue
        exact absurd ⟨_, _, enqueue⟩ enqueues
      · intro run kind _ r e' runs
        have bound' (plate : d.family = .plate) : ∃ name, d.sequence = some name := by
          obtain ⟨name, _, bound⟩ := plays.sequence plate
          exact ⟨name, bound⟩
        rcases Act.ends_bind.1 runs with ⟨_, middle, prepares, runs⟩ | ⟨_, _, prepares⟩
        · refine (Decoder.steps_prepare bound' prepares).trans (.single (.serves ?_))
          rcases kind with ⟨_, rfl⟩ | ⟨_, rfl⟩
          · exact .starts runs
          · exact .infers runs
        · exact Decoder.steps_prepare bound' prepares
    obtain ⟨d', e', ready', grows, steps⟩ := moves.ready Step.use ready.loaded
    refine ⟨d', e', ready', grows, Steps.mono part steps, fun _ => ?_, by simp [other]⟩
    rw [bound]
    exact inert.kept_of_steps part steps member outside

end

def buffersInputs (names : List String) (s : Site Onnx.Engine) (engine : String) : Bool :=
  match s.bench.engines.get? engine with
  | some (_, e) => names.all fun name => (e.request.bind fun r => r.buffers.get? name).isSome
  | none => true

section

variable [Resizer]

/-- The inputs of the request are written by the pipeline alone. The engine that is attached has
inputs of different names and leaves them alone, and what others do with it writes no tensor. -/
structure SoleWriter (entry : Entry ε) : Prop where
  attached : ∀ engine e, entry.turn = .command (.attach engine) → entry.answer = .ok true →
    entry.after.bench.Holds engine e → (entry.before.bench.inputNames engine).Nodup ∧
      Inert (entry.before.bench.inputNames engine) e
  elsewhere : ∀ b name d e, entry.turn = .elsewhere b → Ready entry.before name d e →
    Moves Serve name d e entry.after

/-- The bound input shows these frames in its first slots, and only writing changes it. -/
structure Displays (scale : Value) (frames : List Frame) (d : Descriptor) (e : ε) : Prop where
  inputs : ∃ network : Network,
    d.Plays network ∧ network.inputNames.Nodup ∧ Inert network.inputNames e
  shown : ∀ i frame, frames[i]? = some frame →
    ∃ t, contents d.input e = .ok t ∧ t.Shows i frame scale

theorem Displays.turn [Lawful ε] {entry : Entry ε} {past : List (Entry ε)} {name : String}
    {d : Descriptor} {e : ε} {scale : Value}
    (displays : Displays scale (frames past) d e) (ready : Ready entry.before name d e)
    (builtin : entry.before.pipeline.decoder.Builtin)
    (factor : entry.before.pipeline.scale = scale)
    (length : (frames past).length = entry.before.pipeline.enqueued) (sole : SoleWriter entry)
    (kept : ∀ engine, entry.turn = .command (.attach engine) → entry.answer ≠ .ok true) :
    ∃ d' e', Ready entry.after name d' e' ∧ Displays scale (frames (entry :: past)) d' e' := by
  obtain ⟨network, plays, distinct, inert⟩ := displays.inputs
  obtain ⟨input, member, bound⟩ := plays.input
  have moved : ∃ d' e', Ready entry.after name d' e' ∧ d.Grows d' ∧
      Steps network.inputNames e e' ∧
      (entry.frame? = none → contents d.input e' = contents d.input e) ∧
      ∀ frame, entry.frame? = some frame → ∃ old loaded, contents d.input e = .ok old ∧
        old.loadFrame frame scale (.int entry.before.pipeline.enqueued) = .ok loaded ∧
          contents d.input e' = .ok loaded := by
    by_cases elsewhere : ∃ b, entry.turn = .elsewhere b
    · obtain ⟨b, turn⟩ := elsewhere
      obtain ⟨d', e', ready', grows, serves⟩ :=
        (sole.elsewhere b name d e turn ready).ready Serve.use ready.loaded
      have steps : Steps [] e e' := Relation.ReflTransGen.mono (fun _ _ => .serves) _ _ serves
      have other : entry.frame? = none := Entry.frame?_of_turn (by simp [turn])
      refine ⟨d', e', ready', grows, Steps.mono (by simp) steps, fun _ => ?_, by simp [other]⟩
      rw [bound]
      exact inert.kept_of_steps (by simp) steps member (by simp)
    · rw [← factor]
      exact Turn.loads builtin (fun b same => elsewhere ⟨b, same⟩) kept ready plays distinct inert
  obtain ⟨d', e', ready', grows, steps, still, loads⟩ := moved
  have bound' : d'.input = d.input := (grows.keeps .input input bound).trans bound.symm
  refine ⟨d', e', ready', ⟨network, plays.grows grows, distinct, inert.steps steps⟩, ?_⟩
  intro i frame found
  rw [bound']
  simp only [frames] at found
  split at found
  · simp at found
  · cases taken : entry.frame? with
    | none =>
      rw [taken, Option.toList_none, List.append_nil] at found
      rw [still taken]
      exact displays.shown i frame found
    | some last =>
      rw [taken, Option.toList_some] at found
      obtain ⟨old, loaded, held, loads, holds⟩ := loads last taken
      refine ⟨loaded, holds, ?_⟩
      -- the new frame went into the slot after all that were shown before
      rcases Nat.lt_or_ge i (frames past).length with earlier | here
      · rw [List.getElem?_append_left earlier] at found
        obtain ⟨t, held', shows⟩ := displays.shown i frame found
        cases held.symm.trans held'
        exact shows.loadFrame loads (by omega)
      · rw [List.getElem?_append_right here] at found
        obtain ⟨at_end, same⟩ := List.getElem?_eq_some_iff.1 found
        simp only [List.length_singleton, Nat.lt_one_iff] at at_end
        obtain rfl : i = entry.before.pipeline.enqueued := by omega
        simp only [List.getElem_singleton] at same
        subst same
        exact Tensor.shows_loadFrame loads

theorem History.displays [Lawful ε] {start s : Site ε} {past : List (Entry ε)}
    (fresh : Fresh start) (history : History start past s)
    (sole : ∀ entry ∈ past, SoleWriter entry) :
    (frames past).length = s.pipeline.enqueued ∧
      Attached (Displays start.pipeline.scale (frames past)) s := by
  induction history with
  | start =>
    rw [fresh.made]
    exact ⟨rfl, .inl ⟨by rw [fresh.made], by rw [fresh.made]⟩⟩
  | @turn past s earlier turn ih =>
    obtain ⟨length, before⟩ := ih fun entry member => sole entry (List.mem_cons_of_mem _ member)
    have sound := earlier.sound fresh
    have own := sole _ List.mem_cons_self
    refine ⟨?_, ?_⟩
    · simp only [frames]
      split
      · rename_i vacated
        exact vacated.symm
      · rename_i used
        rw [Entry.counts _ used, List.length_append, length]
    · by_cases attaches : ∃ engine, turn = .command (.attach engine) ∧
          Entry.answer ⟨turn, s⟩ = .ok true
      · obtain ⟨engine, rfl, ok⟩ := attaches
        let entry : Entry ε := ⟨.command (.attach engine), s⟩
        obtain ⟨d, e, t, e', key, e₀, ready, found, plays, _⟩ :=
          entry.ready_of_attach rfl ok
        obtain ⟨distinct, inert⟩ := own.attached engine e' rfl ok ready.held
        have names : s.bench.inputNames engine = (s.bench.network key).inputNames := by
          simp only [Bench.inputNames, show s.bench.engines.get? engine = _ from found]
        rw [names] at distinct inert
        refine .inr ⟨engine, d, e', ready, ⟨_, plays, distinct, inert⟩, ?_⟩
        have empty : (Entry.after ⟨.command (.attach engine), s⟩).pipeline.enqueued = 0 := by
          rw [Entry.pipeline_of_attach rfl ok]
          rfl
        simp [frames, empty]
      · have kept : ∀ engine, turn = .command (.attach engine) →
            Entry.answer ⟨turn, s⟩ ≠ .ok true := fun engine same ok => attaches ⟨engine, same, ok⟩
        rcases before with ⟨bare, empty⟩ | ⟨name, d, e, ready, displays⟩
        · exact .inl (Turn.unattached (Entry.ends ⟨turn, s⟩) sound bare empty kept)
        · obtain ⟨d', e', ready', displays'⟩ :=
            displays.turn ready sound.builtin sound.scale_eq length own kept
          exact .inr ⟨name, d', e', ready', displays'⟩

/-- In every state of a pipeline that alone writes the inputs of its request, the slots in use are
as many as the frames of the batch, and each holds exactly what loading its frame writes. -/
theorem slots_show_frames [Lawful ε] {start s : Site ε} {past : List (Entry ε)}
    (fresh : Fresh start) (history : History start past s)
    (sole : ∀ entry ∈ past, SoleWriter entry) :
    (frames past).length = s.pipeline.enqueued ∧
      ∀ i < s.pipeline.enqueued, ∃ frame name d e t e', (frames past)[i]? = some frame ∧
        s.pipeline.engine = some name ∧ s.descriptor? = some d ∧ s.bench.Holds name e ∧
          (Backend.tensor d.input).Ends e (.ok t) e' ∧ t.Shows i frame s.pipeline.scale := by
  obtain ⟨length, attached⟩ := history.displays fresh sole
  refine ⟨length, fun i used => ?_⟩
  rcases attached with ⟨_, empty⟩ | ⟨name, d, e, ready, displays⟩
  · omega
  · obtain ⟨frame, found⟩ : ∃ frame, (frames past)[i]? = some frame :=
      ⟨_, List.getElem?_eq_getElem (by omega)⟩
    obtain ⟨t, held, shows⟩ := displays.shown i frame found
    rw [← (history.sound fresh).scale_eq] at shows
    exact ⟨frame, name, d, e, t, _, found, ready.attached, ready.described, ready.held,
      ⟨held, rfl⟩, shows⟩

def writesAlone (entry : Entry Onnx.Engine) : Bool :=
  match entry.turn with
  | .command (.attach engine) =>
    decide (entry.before.bench.inputNames engine).Nodup &&
      buffersInputs (entry.before.bench.inputNames engine) entry.after engine
  | .elsewhere _ => false
  | _ => true

theorem SoleWriter.of_writesAlone {entry : Entry Onnx.Engine} (alone : writesAlone entry = true) :
    SoleWriter entry := by
  refine ⟨?_, ?_⟩
  · rintro engine e attach ok ⟨key, held⟩
    simp only [writesAlone, attach, Bool.and_eq_true, decide_eq_true_eq] at alone
    obtain ⟨distinct, buffered⟩ := alone
    refine ⟨distinct, ?_⟩
    have loaded : Backend.isLoaded e = true := by
      obtain ⟨_, _, _, _, _, _, ready, _⟩ := entry.ready_of_attach attach ok
      exact Bench.Holds.unique ready.held ⟨key, held⟩ ▸ ready.loaded
    obtain ⟨r, found⟩ := Option.isSome_iff_exists.1 loaded
    simp only [buffersInputs, held, found, Option.bind_some, List.all_eq_true,
      Option.isSome_iff_exists] at buffered
    exact Onnx.inert_of_buffers found buffered
  · intro b _ _ _ elsewhere _
    simp [writesAlone, elsewhere] at alone

end

/-- Two frames in a batch that is in flight at last: one frame was refused for its channels, a run
failed before the second frame came, and a third one came too late. -/
def twoInFlight : List (Turn Onnx.Engine) :=
  [.command (.attach "cpu"), enqueuePixel 7 1, enqueuePixel 8 3, .command .synchronize,
    enqueuePixel 9 1, .command .submit, .command (.wait (.int 0)), enqueuePixel 10 1]

def afterTwoInFlight : List (Entry Onnx.Engine) × Site Onnx.Engine :=
  played [] (plateSite 2 [{ fail := some "device lost" }, { hold := true }]) twoInFlight

theorem shown_twoInFlight :
    afterTwoInFlight.2.pipeline.stage = .submitted ∧
      afterTwoInFlight.2.pipeline.enqueued = 2 ∧ (frames afterTwoInFlight.1).length = 2 ∧
      ∀ i < 2, ∃ frame name d e t e', (frames afterTwoInFlight.1)[i]? = some frame ∧
        afterTwoInFlight.2.pipeline.engine = some name ∧
          afterTwoInFlight.2.descriptor? = some d ∧ afterTwoInFlight.2.bench.Holds name e ∧
          (Backend.tensor d.input).Ends e (.ok t) e' ∧
            t.Shows i frame afterTwoInFlight.2.pipeline.scale := by
  have history : History (plateSite 2 [{ fail := some "device lost" }, { hold := true }])
      afterTwoInFlight.1 afterTwoInFlight.2 := History.start.played twoInFlight
  have alone : ∀ entry ∈ afterTwoInFlight.1, writesAlone entry = true := by decide +kernel
  obtain ⟨length, shown⟩ := slots_show_frames (fresh_plateSite (by decide) _) history
    fun entry member => .of_writesAlone (alone entry member)
  have two : afterTwoInFlight.2.pipeline.enqueued = 2 := by decide +kernel
  rw [two] at length shown
  exact ⟨by decide +kernel, two, length, shown⟩

end Pipeline

end FrameBatch
