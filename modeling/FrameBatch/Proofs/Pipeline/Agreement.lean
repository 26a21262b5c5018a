import FrameBatch.Proofs.Pipeline.Rounds
import FrameBatch.Tensor.Bilinear
import Mathlib.Data.List.Forall2

namespace FrameBatch.Pipeline

open Backend (Lawful Steps Functional contents)
open Decoder (Alike)

variable {ε : Type} [Backend ε]

/-- Sites that no caller can tell apart: the pipelines are equal, results included, and all outputs
were given the same. -/
structure Twins (s t : Site ε) : Prop where
  pipeline : s.pipeline = t.pipeline
  outputs : s.bench.outputs = t.bench.outputs

/-- Twins whose engines compute the same function, of inputs that differ in no more than what
preparing a request writes. -/
structure InStep (network : Network)
    (yield : List (Except Fault Tensor) → Except Fault Tensor) (name : String) (d : Descriptor)
    (s t : Site ε) : Prop extends Twins s t where
  builtin : s.pipeline.decoder.Builtin
  plays : d.Plays network
  engines : ∃ e f, Ready s name d e ∧ Ready t name d f ∧
    Functional network.inputNames d.output yield e ∧
    Functional network.inputNames d.output yield f ∧
    ∀ input ∈ network.inputNames, Alike s.pipeline.decoder d input
      (contents (some input) e) (contents (some input) f)

namespace InStep

variable {network : Network} {yield : List (Except Fault Tensor) → Except Fault Tensor}
  {name : String} {d : Descriptor} {s s' t t' : Site ε} {batch : List (Frame × Value)}

theorem symm (inStep : InStep network yield name d s t) : InStep network yield name d t s := by
  obtain ⟨e, f, ready, ready', functional, functional', alike⟩ := inStep.engines
  have pipeline := inStep.pipeline
  refine ⟨⟨pipeline.symm, inStep.outputs.symm⟩, pipeline ▸ inStep.builtin, inStep.plays, f, e,
    ready', ready, functional', functional, fun input member => ?_⟩
  rw [← pipeline]
  exact (alike input member).symm

variable [Lawful ε] [Resizer]

theorem attempt (inStep : InStep network yield name d s t) (attempt : Attempt s s') :
    InStep network yield name d s' t := by
  obtain ⟨e, f, ready, ready', functional, functional', alike⟩ := inStep.engines
  have kept := attempt.kept ready inStep.plays functional.inert
  obtain ⟨e', ready'', steps, alike'⟩ := kept.engine
  refine ⟨⟨kept.pipeline.trans inStep.pipeline, kept.outputs.trans inStep.outputs⟩,
    kept.pipeline ▸ inStep.builtin, inStep.plays, e', f, ready'', ready', functional.steps steps,
    functional', fun input member => ?_⟩
  rw [kept.pipeline]
  exact (alike' input member).trans (alike input member)

theorem attempts (inStep : InStep network yield name d s t) (left : Attempts s s')
    (right : Attempts t t') : InStep network yield name d s' t' := by
  have one {s s' t : Site ε} (inStep : InStep network yield name d s t)
      (attempts : Attempts s s') : InStep network yield name d s' t := by
    induction attempts with
    | refl => exact inStep
    | tail _ attempt ih => exact ih.attempt attempt
  exact (one (one inStep left).symm right).symm

theorem accepts {frame : Frame} {location : Value} (inStep : InStep network yield name d s t)
    (h : (enqueue frame location).Ends s (.ok true) s')
    (h' : (enqueue frame location).Ends t (.ok true) t') :
    InStep network yield name d s' t' := by
  obtain ⟨e, f, ready, ready', functional, functional', alike⟩ := inStep.engines
  obtain ⟨input, member, bound⟩ := inStep.plays.input
  have pipeline := inStep.pipeline
  cases enqueue_cases h with
  | accepted at_s _ _ placed places =>
    cases enqueue_cases h' with
    | accepted at_t _ _ placed' places' =>
      obtain ⟨rfl, rfl, rfl⟩ := ready.unique at_s
      obtain ⟨rfl, rfl, rfl⟩ := ready'.unique at_t
      cases placed.symm.trans placed'
      obtain ⟨steps, kept, loads⟩ := inert_place functional.inert bound member places
      obtain ⟨steps', kept', loads'⟩ := inert_place functional'.inert bound member places'
      obtain ⟨old, loaded, held, loads, holds⟩ := loads rfl
      obtain ⟨old', loaded', held', loads', holds'⟩ := loads' rfl
      have after := ready.withEngine (uses_place places)
      have after' := ready'.withEngine (uses_place places')
      refine ⟨⟨congrArg (withFrame · _) pipeline, inStep.outputs⟩, inStep.builtin, inStep.plays,
        _, _, after.congr rfl rfl rfl, after'.congr rfl rfl rfl, functional.steps steps,
        functional'.steps steps', fun other member' => ?_⟩
      change Alike s.pipeline.decoder d other _ _
      by_cases here : other = input
      · subst here
        have before := alike other member
        rw [← bound, held, held'] at before
        have same := before.sameFrom
        rw [← bound, holds, holds']
        rw [pipeline] at loads
        refine .inr ⟨loaded, loaded', rfl, rfl, ?_⟩
        rw [Decoder.overwritten, Tensor.shape_loadFrame loads]
        exact same.loadFrame loads loads'
      · rw [kept other member' (.inl here), kept' other member' (.inl here)]
        exact alike other member'

theorem accepted (inStep : InStep network yield name d s t) (h : Accepted batch s s')
    (h' : Accepted batch t t') : InStep network yield name d s' t' := by
  -- the induction is on the frames, which are the same on both sides; the attempts are not
  induction h generalizing t with
  | done left =>
    cases h' with
    | done right => exact inStep.attempts left right
  | accepts left ends _ ih =>
    cases h' with
    | accepts right ends' rest => exact ih ((inStep.attempts left right).accepts ends ends') rest

theorem executed {s₁ s₂ t₁ t₂ : Site ε} (inStep : InStep network yield name d s t)
    (executed : Executed s s₁) (looks : Looks s₁ s₂) (fetched : fetch.Ends s₂ (.ok true) s')
    (executed' : Executed t t₁) (looks' : Looks t₁ t₂) (fetched' : fetch.Ends t₂ (.ok true) t') :
    InStep network yield name d s' t' := by
  obtain ⟨e, f, ready, ready', functional, functional', alike⟩ := inStep.engines
  have pipeline := inStep.pipeline
  have builtin := inStep.builtin
  obtain ⟨prepared, prepares, flight⟩ := executed.underway ready
  obtain ⟨prepared', prepares', flight'⟩ := executed'.underway ready'
  obtain ⟨ran, e', _, results, read, runs, decodes, unwritten, after, given, delivers, outputs⟩ :=
    (flight.looks looks).fetched builtin fetched
  obtain ⟨ran', f', _, results', read', runs', decodes', unwritten', after', given', delivers',
    outputs'⟩ := (flight'.looks looks').fetched (pipeline ▸ builtin) fetched'
  rw [← pipeline] at prepares' decodes' given' delivers'
  -- once both are prepared the requests hold the same inputs, on which both runs compute
  have sequence := inStep.plays.sequence
  have same := Decoder.eq_of_prepare functional.inert functional'.inert sequence alike prepares
    prepares'
  have computes := functional.steps (Decoder.alike_prepare functional.inert sequence prepares).1
  have computes' :=
    functional'.steps (Decoder.alike_prepare functional'.inert sequence prepares').1
  have yields := computes.agree computes' same runs runs'
  obtain rfl := builtin.decode_congr yields decodes decodes'
  -- no input was written since, so that the next batch finds them equal
  have none := List.nil_subset network.inputNames
  refine ⟨⟨given.trans given'.symm, ?_⟩, ?_, inStep.plays, e', f', after, after',
    computes.steps (Steps.mono none unwritten), computes'.steps (Steps.mono none unwritten'),
    fun input member => .inl ?_⟩
  · exact deliver_congr (outputs.trans (inStep.outputs.trans outputs'.symm)) delivers delivers'
  · rw [given]
    exact builtin
  · rw [computes.inert.kept_of_steps none unwritten member List.not_mem_nil,
      computes'.inert.kept_of_steps none unwritten' member List.not_mem_nil]
    exact same input member

theorem round (inStep : InStep network yield name d s t) (h : Round batch s s')
    (h' : Round batch t t') : InStep network yield name d s' t' := by
  obtain ⟨accepted, executed, looks, ends⟩ := h
  obtain ⟨accepted', executed', looks', ends'⟩ := h'
  exact (inStep.accepted accepted accepted').executed executed looks ends executed' looks' ends'

theorem rounds {batches : List (List (Frame × Value))} {served served' : List (Site ε)}
    (inStep : InStep network yield name d s t) (h : Rounds batches s served)
    (h' : Rounds batches t served') : List.Forall₂ Twins served served' := by
  induction h generalizing t served' with
  | done =>
    cases h'
    exact .nil
  | next round _ ih =>
    cases h' with
    | next round' rest =>
      have after := inStep.round round round'
      exact .cons after.toTwins (ih after rest)

end InStep

/-- From pipelines that are equal when an engine has been attached, two runs that accept the same
frames batch by batch have equal pipelines after every fetch, and the outputs were given the same:
in whatever mode each batch was executed, however many attempts failed before, and however often
somebody looked at its run. Of the engine it is assumed that it leaves its inputs alone, and that
its output is a function of them. -/
theorem modes_agree [Resizer] [Lawful ε] {engine : String}
    {yield : List (Except Fault Tensor) → Except Fault Tensor}
    {batches : List (List (Frame × Value))} {s₀ s t₀ t : Site ε} {served served' : List (Site ε)}
    (attached : (loadEngine engine).Ends s₀ (.ok ()) s)
    (attached' : (loadEngine engine).Ends t₀ (.ok ()) t)
    (builtin : s.pipeline.decoder.Builtin) (twins : Twins s t)
    (described : s.descriptor? = t.descriptor?)
    (functional : ∀ d e, Ready s engine d e →
      Functional (s₀.bench.inputNames engine) d.output yield e)
    (functional' : ∀ d f, Ready t engine d f →
      Functional (s₀.bench.inputNames engine) d.output yield f)
    (equal : ∀ e f, s.bench.Holds engine e → t.bench.Holds engine f →
      ∀ input ∈ s₀.bench.inputNames engine, contents (some input) e = contents (some input) f)
    (rounds : Rounds batches s served) (rounds' : Rounds batches t served') :
    List.Forall₂ Twins served served' := by
  obtain ⟨d, _, _, e, key, _, ready, found, plays, _⟩ := (attach_cases attached).ready
  obtain ⟨d', _, _, f, _, _, ready', _⟩ := (attach_cases attached').ready
  cases ready.described.symm.trans (described.trans ready'.described)
  have names : s₀.bench.inputNames engine = (s₀.bench.network key).inputNames := by
    simp only [Bench.inputNames, found]
  have computes := functional d e ready
  have computes' := functional' d f ready'
  have inputs := equal e f ready.held ready'.held
  rw [names] at computes computes' inputs
  have inStep : InStep (s₀.bench.network key) yield engine d s t :=
    ⟨twins, builtin, plays, e, f, ready, ready', computes, computes',
      fun input member => .inl (inputs input member)⟩
  exact inStep.rounds rounds rounds'

def mirrorSite (runs : List RunPlan) : Site Onnx.Engine where
  pipeline := {
    descriptor := "plates", decoder := .plate, scale := .int 1, maxBatch := 1
    outputs := ["sink"] }
  bench.networks := [(.ofEngine "cpu", {
    inputs := [
      { name := "data", shape := [none, some 1, some 1, some Plate.maxSequence] },
      { name := "seq", shape := [some Plate.maxSequence, some 1] }]
    outputs := [{ name := "prob", shape := [none, some Plate.maxSequence] }] })]
  bench.descriptors := [("plates", {
    family := .plate
    category := Family.plate.category
    location := "plates.onnx"
    maxBatch := 1 })]
  bench.engines := [("cpu", .ofEngine "cpu", {
    device := "cpu"
    declared := [("data", .f32), ("seq", .f32)]
    script := { runs } })]
  bench.outputs := [("sink", .sink "sink" .collect [])]

def mirrored : RunPlan where
  outputs := [("prob", .copy "data")]

def mirrorEngine (runs : List RunPlan) : Onnx.Engine where
  device := "cpu"
  declared := [("data", .f32), ("seq", .f32)]
  script := { runs }
  request := some {
    buffers := [("data", .zeros (.element .u8) [1, 1, 1, Plate.maxSequence]),
      ("seq", .zeros (.element .f32) [Plate.maxSequence, 1])]
    declared := [("data", .f32), ("seq", .f32)]
    outputNames := ["prob"] }

def mirrorAttached (runs : List RunPlan) : Site Onnx.Engine :=
  (loadEngine "cpu" (mirrorSite runs)).state

theorem holds_mirrorAttached {runs : List RunPlan} {e : Onnx.Engine}
    (held : (mirrorAttached runs).bench.Holds "cpu" e) : e = mirrorEngine runs := by
  have found : (mirrorAttached runs).bench.Holds "cpu" (mirrorEngine runs) :=
    ⟨.ofEngine "cpu", rfl⟩
  exact held.unique found

theorem functional_mirrorAttached {runs : List RunPlan} {d : Descriptor} {e : Onnx.Engine}
    (always : ({ runs } : Script).Always [("prob", .copy "data")])
    (ready : Ready (mirrorAttached runs) "cpu" d e) :
    Functional ["data", "seq"] d.output (Onnx.converted .f32) e := by
  have output : (mirrorAttached runs).descriptor?.map (·.output) = some (some "prob") := rfl
  rw [ready.described, Option.map_some, Option.some_inj] at output
  rw [output, holds_mirrorAttached ready.held]
  refine Onnx.Copies.functional ⟨always, _, _, rfl, rfl, rfl, rfl, by decide, rfl⟩ rfl ?_
  intro name member
  rcases List.mem_cons.1 member with rfl | member
  · exact ⟨_, rfl⟩
  · obtain rfl := List.mem_singleton.1 member
    exact ⟨_, rfl⟩

def rowOf (symbol : Int) : Frame :=
  .packed (.ofFn (.element .u8) [1, Plate.maxSequence, 1] fun k =>
    .whole (if k = 0 then symbol else 255))

def rowAt (symbol x : Int) : Frame × Value :=
  (rowOf symbol, .rect (.int x) (.int 0) (.int 1) (.int 1))

def enqueueRow (symbol x : Int) : Turn ε :=
  .command (.enqueue (rowAt symbol x).1 (rowAt symbol x).2)

def siteAfter [Resizer] (s : Site ε) (turns : List (Turn ε)) : Site ε := (played [] s turns).2

def losing : Site Onnx.Engine := mirrorAttached [{ fail := some "device lost" }, mirrored]

def holding : Site Onnx.Engine := mirrorAttached [{ mirrored with hold := true }, mirrored]

def losing₁ : Site Onnx.Engine :=
  siteAfter losing [enqueueRow 5 0, .command .synchronize, .command .synchronize, .command .fetch]

def losing₂ : Site Onnx.Engine :=
  siteAfter losing₁ [enqueueRow 7 2, .command .submit, .command (.wait .null), .command .fetch]

def holdingSubmitted : Site Onnx.Engine := siteAfter holding [enqueueRow 5 0, .command .submit]

def holdingReleased : Site Onnx.Engine :=
  siteAfter holdingSubmitted [.command (.wait (.int 0)), .command .fetch, .release "cpu"]

def holding₁ : Site Onnx.Engine := siteAfter holdingReleased [.command .fetch]

def holding₂ : Site Onnx.Engine :=
  siteAfter holding₁ [enqueueRow 7 2, .command .synchronize, .command .fetch]

def Answered [Resizer] (s : Site ε) : List (Turn ε × Bool) → Prop
  | [] => True
  | (turn, answer) :: rest =>
    Entry.answer ⟨turn, s⟩ = .ok answer ∧ Answered (Entry.after ⟨turn, s⟩) rest

instance decidableAnswered [Resizer] (s : Site ε) : (turns : List (Turn ε × Bool)) →
    Decidable (Answered s turns)
  | [] => inferInstanceAs (Decidable True)
  | (turn, _) :: rest =>
    have := decidableAnswered (Entry.after ⟨turn, s⟩) rest
    inferInstanceAs (Decidable (_ ∧ _))

theorem rounds_losing : Rounds [[rowAt 5 0], [rowAt 7 2]] losing [losing₁, losing₂] := by
  have answers : Answered losing [(enqueueRow 5 0, true), (.command .synchronize, false),
      (.command .synchronize, true), (.command .fetch, true), (enqueueRow 7 2, true),
      (.command .submit, true), (.command (.wait .null), true), (.command .fetch, true)] := by
    decide +kernel
  obtain ⟨enqueued, failed, inferred, fetched, enqueued', submitted, waited, fetched', _⟩ :=
    answers
  have first : Round [rowAt 5 0] losing losing₁ :=
    .round (.accepts .refl ⟨enqueued, rfl⟩
      (.done (.single (.fails (c := .synchronize) trivial ⟨failed, rfl⟩ (by simp)))))
      (.synchronously ⟨inferred, rfl⟩) .refl ⟨fetched, rfl⟩
  have waits : Look _ _ := .waits ⟨waited, rfl⟩ (by decide +kernel)
  have second : Round [rowAt 7 2] losing₁ losing₂ :=
    .round (.accepts .refl ⟨enqueued', rfl⟩ (.done .refl)) (.asynchronously ⟨submitted, rfl⟩)
      (.single waits) ⟨fetched', rfl⟩
  exact .next first (.next second .done)

theorem looks_holding : Looks holdingSubmitted holdingReleased := by
  have answers : Answered holdingSubmitted [(.command (.wait (.int 0)), false),
      (.command .fetch, false), (.release "cpu", true)] := by
    decide +kernel
  obtain ⟨waited, early, released, _⟩ := answers
  have waits : Look holdingSubmitted (siteAfter holdingSubmitted [.command (.wait (.int 0))]) :=
    .waits ⟨waited, rfl⟩ (by decide +kernel)
  exact ((Relation.ReflTransGen.single waits).tail (.fetches ⟨early, rfl⟩ (by decide +kernel))).tail
    (.released (by decide +kernel) ⟨released, rfl⟩)

theorem rounds_holding : Rounds [[rowAt 5 0], [rowAt 7 2]] holding [holding₁, holding₂] := by
  have answers : Answered holding [(enqueueRow 5 0, true), (.command .submit, true)] := by
    decide +kernel
  have answers' : Answered holdingReleased [(.command .fetch, true), (enqueueRow 7 2, true),
      (.command .synchronize, true), (.command .fetch, true)] := by
    decide +kernel
  obtain ⟨enqueued, submitted, _⟩ := answers
  obtain ⟨fetched, enqueued', inferred, fetched', _⟩ := answers'
  have first : Round [rowAt 5 0] holding holding₁ :=
    .round (.accepts .refl ⟨enqueued, rfl⟩ (.done .refl)) (.asynchronously ⟨submitted, rfl⟩)
      looks_holding ⟨fetched, rfl⟩
  have second : Round [rowAt 7 2] holding₁ holding₂ :=
    .round (.accepts .refl ⟨enqueued', rfl⟩ (.done .refl)) (.synchronously ⟨inferred, rfl⟩) .refl
      ⟨fetched', rfl⟩
  exact .next first (.next second .done)

def licenses (s : Site ε) : List String :=
  s.pipeline.results.filterMap fun result => result.reading.map (·.license)

theorem agree_mirrored :
    List.Forall₂ Twins [losing₁, losing₂] [holding₁, holding₂] ∧
      [losing₁, losing₂].map licenses = [["5"], ["7"]] := by
  have always (first : RunPlan) (copies : first.fault? = none → first.outputs = mirrored.outputs) :
      ({ runs := [first, mirrored] } : Script).Always [("prob", .copy "data")] := by
    refine ⟨List.cons_ne_nil _ _, fun plan member succeeds => ?_⟩
    rcases List.mem_cons.1 member with rfl | member
    · exact copies succeeds
    · obtain rfl := List.mem_singleton.1 member
      rfl
  have attached : (loadEngine "cpu").Ends (mirrorSite _) (.ok ()) losing :=
    ⟨by decide +kernel, rfl⟩
  have attached' : (loadEngine "cpu").Ends (mirrorSite _) (.ok ()) holding :=
    ⟨by decide +kernel, rfl⟩
  refine ⟨modes_agree attached attached' (.inr rfl) ⟨rfl, rfl⟩ rfl
    (fun d e => functional_mirrorAttached (always _ ?_))
    (fun d e => functional_mirrorAttached (always _ ?_)) ?_ rounds_losing rounds_holding,
    by decide +kernel⟩
  · simp [RunPlan.fault?]
  · exact fun _ => rfl
  · intro e f held held' input member
    rw [holds_mirrorAttached held, holds_mirrorAttached held']
    rcases List.mem_cons.1 member with rfl | member
    · rfl
    · obtain rfl := List.mem_singleton.1 member
      rfl

end FrameBatch.Pipeline
