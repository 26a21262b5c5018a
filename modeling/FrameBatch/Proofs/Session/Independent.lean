import FrameBatch.Proofs.Engine.Any
import FrameBatch.Proofs.Pipeline.Local
import FrameBatch.Session
import FrameBatch.Tensor.Bilinear

namespace FrameBatch.Session

open Pipeline (Command)

/-- What happens in a session: a pipeline is asked for an operation, or the held run of an engine
ends. -/
inductive Turn where
  | command (pipeline : String) (c : Command)
  | release (engine : String)

namespace Turn

def act [Resizer] : Turn → Act Session Bool
  | .command pipeline c => onPipeline pipeline c.act
  | .release engine => do
    Session.release engine
    return true

def pipeline (owner : String → String) : Turn → String
  | .command pipeline _ => pipeline
  | .release engine => owner engine

end Turn

/-- What comes of turns: each with what it answers and leaves in the log. -/
def replies [Resizer] (s : Session) : List Turn → List (Turn × Except Fault Bool × List Event)
  | [] => []
  | turn :: rest => (turn, (turn.act s).result, (turn.act s).trail) :: replies (turn.act s).state rest

def after [Resizer] (s : Session) : List Turn → Session
  | [] => s
  | turn :: rest => after (turn.act s).state rest

/-- The share of the pipeline of a name, if every engine and every network has an owner. -/
def shareOf (owner : String → String) (keeper : NetworkKey → String) (name : String) : Share where
  engine engine := owner engine = name
  network key := keeper key = name

/-- All pipelines of the session share one descriptor, which is bound, and each is attached to no
engine but one of its own. An engine is owned together with its network. -/
structure Sharing (descriptor : String) (owner : String → String) (keeper : NetworkKey → String)
    (s : Session) : Prop where
  bound : ∃ d, s.bench.descriptors.get? descriptor = some d ∧ d.isBound = true
  network : ∀ engine key e, s.bench.engines.get? engine = some (key, e) → keeper key = owner engine
  pipeline : ∀ name p, s.pipelines.get? name = some p →
    p.descriptor = descriptor ∧ ∀ engine, p.engine = some engine → owner engine = name

/-- The session is the same for the pipeline of a name. -/
structure Agrees (owner : String → String) (keeper : NetworkKey → String) (name : String)
    (s t : Session) : Prop where
  pipeline : t.pipelines.get? name = s.pipelines.get? name
  bench : (shareOf owner keeper name).Alike s.bench t.bench

variable {descriptor : String} {owner : String → String} {keeper : NetworkKey → String}

namespace Agrees

variable {name : String} {s t u : Session}

theorem refl (s : Session) : Agrees owner keeper name s s := ⟨rfl, .refl _ _⟩

theorem symm (agrees : Agrees owner keeper name s t) : Agrees owner keeper name t s :=
  ⟨agrees.pipeline.symm, agrees.bench.symm⟩

theorem trans (first : Agrees owner keeper name s t) (second : Agrees owner keeper name t u) :
    Agrees owner keeper name s u :=
  ⟨second.pipeline.trans first.pipeline, first.bench.trans second.bench⟩

theorem of_others {other : String} (different : other ≠ name)
    (pipeline : t.pipelines.get? other = s.pipelines.get? other)
    (alike : (shareOf owner keeper name).others.Alike s.bench t.bench) :
    Agrees owner keeper other s t :=
  ⟨pipeline, alike.mono (fun _ own mine => different (own.symm.trans mine))
    fun _ own mine => different (own.symm.trans mine)⟩

end Agrees

/-- A turn of a pipeline goes the same in two sessions that are the same for the pipeline. It leaves
the sharing as it is, and everything that other pipelines have. -/
structure Apart [Resizer] (descriptor : String) (owner : String → String)
    (keeper : NetworkKey → String) (turn : Turn) (s t : Session) : Prop where
  result : (turn.act t).result = (turn.act s).result
  trail : (turn.act t).trail = (turn.act s).trail
  agrees : Agrees owner keeper (turn.pipeline owner) (turn.act s).state (turn.act t).state
  sharing : (turn.act s).state.Sharing descriptor owner keeper
  others : ∀ other, other ≠ turn.pipeline owner → Agrees owner keeper other s (turn.act s).state

section

variable {s t : Session} {name : String}

theorem Sharing.twins (sharing : s.Sharing descriptor owner keeper)
    (agrees : Agrees owner keeper name s t) {p : Pipeline}
    (present : s.pipelines.get? name = some p) :
    (shareOf owner keeper name).Twins ⟨p, s.bench⟩ ⟨p, t.bench⟩ where
  owns :=
    { engine := (sharing.pipeline name p present).2
      network := fun engine key e own found => (sharing.network engine key e found).trans own
      bound := by
        obtain ⟨d, found, bound⟩ := sharing.bound
        refine ⟨d, ?_, bound⟩
        rwa [Site.descriptor?, (sharing.pipeline name p present).1] }
  pipeline := rfl
  bench := agrees.bench

theorem onPipeline_of_none (absent : s.pipelines.get? name = none) (x : Act (Site Engine) Bool) :
    onPipeline name x s = ⟨.error (.refused (.absent name)), s, []⟩ := by
  have missed : Session.pipeline name s = ⟨.error (.refused (.absent name)), s, []⟩ := by
    rw [Session.pipeline, Act.bind_of_ok (Act.get_apply s), absent]
    rfl
  exact Act.bind_of_error missed _

theorem onPipeline_of_some {p : Pipeline} (present : s.pipelines.get? name = some p)
    (x : Act (Site Engine) Bool) :
    onPipeline name x s =
      let o := x ⟨p, s.bench⟩
      ⟨o.result, { s with
        bench := o.state.bench
        pipelines := s.pipelines.put name o.state.pipeline }, o.trail⟩ := by
  have given : Session.pipeline name s = ⟨.ok p, s, []⟩ := by
    rw [Session.pipeline, Act.bind_of_ok (Act.get_apply s), present]
    rfl
  exact Act.bind_of_ok given _

variable [Resizer]

theorem command_apart (sharing : s.Sharing descriptor owner keeper)
    (agrees : Agrees owner keeper name s t) {c : Command}
    (own : (shareOf owner keeper name).Commands c) :
    Apart descriptor owner keeper (.command name c) s t := by
  cases present : s.pipelines.get? name with
  | none =>
    have here := onPipeline_of_none present c.act
    have there := onPipeline_of_none (agrees.pipeline.trans present) c.act
    refine ⟨?_, ?_, ?_, ?_, fun other _ => ?_⟩ <;> rw [Turn.act, here] <;> try rw [there]
    · exact agrees
    · exact sharing
    · exact .refl s
  | some p =>
    have goes := (sharing.twins agrees present).command own
    have here := onPipeline_of_some present c.act
    have there := onPipeline_of_some (agrees.pipeline.trans present) c.act
    refine ⟨?_, ?_, ?_, ?_, fun other different => ?_⟩ <;> rw [Turn.act, here] <;> try rw [there]
    · exact goes.result
    · exact goes.trail
    · refine ⟨?_, goes.twins.bench⟩
      simp only [Turn.pipeline, Entries.get?_put_self, goes.twins.pipeline]
    · refine ⟨?_, fun engine key e found => ?_, fun other p' found => ?_⟩
      · dsimp only
        rw [goes.others.descriptors]
        exact sharing.bound
      · by_cases mine : owner engine = name
        · exact (goes.twins.owns.network engine key e mine found).trans mine.symm
        · dsimp only at found
          rw [goes.others.engines engine mine] at found
          exact sharing.network engine key e found
      · by_cases mine : other = name
        · subst mine
          rw [Entries.get?_put_self] at found
          cases found
          exact ⟨goes.descriptor.trans (sharing.pipeline other p present).1,
            goes.twins.owns.engine⟩
        · rw [Entries.get?_put_of_ne mine] at found
          exact sharing.pipeline other p' found
    · exact .of_others different (Entries.get?_put_of_ne different _ _) goes.others

theorem release_of_none {engine : String} (absent : s.bench.engines.get? engine = none) :
    (Turn.release engine).act s = ⟨.error (.refused (.absent engine)), s, []⟩ := by
  have missed : Session.engine engine s = ⟨.error (.refused (.absent engine)), s, []⟩ := by
    rw [Session.engine, Act.bind_of_ok (Act.get_apply s), absent]
    rfl
  exact Act.bind_of_error (Act.bind_of_error missed _) _

theorem release_of_some {engine : String} {key : NetworkKey} {e : Engine}
    (present : s.bench.engines.get? engine = some (key, e)) :
    (Turn.release engine).act s =
      ⟨.ok true, { s with bench := s.bench.withEngine engine (Backend.release e) }, []⟩ := by
  have given : Session.engine engine s = ⟨.ok (key, e), s, []⟩ := by
    rw [Session.engine, Act.bind_of_ok (Act.get_apply s), present]
    rfl
  have released : onBench (Bench.onEngine engine (Act.modify Backend.release)) s =
      ⟨.ok (), { s with bench := s.bench.withEngine engine (Backend.release e) }, []⟩ := by
    simp only [onBench, Act.on, Bench.onEngine, present]
    rfl
  have whole := Act.bind_of_ok given
    fun _ => onBench (Bench.onEngine engine (Act.modify Backend.release))
  rw [released] at whole
  exact Act.bind_of_ok whole _

theorem release_apart {engine : String} (sharing : s.Sharing descriptor owner keeper)
    (agrees : Agrees owner keeper (owner engine) s t) :
    Apart descriptor owner keeper (.release engine) s t := by
  have same := agrees.bench.engines engine rfl
  cases present : s.bench.engines.get? engine with
  | none =>
    have here := release_of_none present
    have there := release_of_none (same.trans present)
    refine ⟨?_, ?_, ?_, ?_, fun other _ => ?_⟩ <;> rw [here] <;> try rw [there]
    · exact agrees
    · exact sharing
    · exact .refl s
  | some entry =>
    have here := release_of_some present
    have there := release_of_some (same.trans present)
    refine ⟨?_, ?_, ?_, ?_, fun other different => ?_⟩ <;> rw [here] <;> try rw [there]
    · exact ⟨agrees.pipeline, agrees.bench.withEngine engine _⟩
    · refine ⟨sharing.bound, fun other key e found => ?_, sharing.pipeline⟩
      obtain ⟨e₀, found⟩ := Bench.key_of_withEngine found
      exact sharing.network other key e₀ found
    · exact .of_others different rfl (.others_withEngine rfl s.bench _)

theorem Sharing.apart (sharing : s.Sharing descriptor owner keeper) {turn : Turn}
    (own : ∀ name engine, turn = .command name (.attach engine) → owner engine = name)
    (agrees : Agrees owner keeper (turn.pipeline owner) s t) :
    Apart descriptor owner keeper turn s t := by
  cases turn with
  | command name c =>
    refine command_apart sharing agrees ?_
    cases c with
    | attach engine => exact own name engine rfl
    | _ => trivial
  | release engine => exact release_apart sharing agrees

theorem Agrees.replies (agrees : Agrees owner keeper name s t)
    (sharing : s.Sharing descriptor owner keeper) {turns : List Turn}
    (own : ∀ name engine, Turn.command name (.attach engine) ∈ turns → owner engine = name) :
    (s.replies turns).filter (·.1.pipeline owner = name) =
        t.replies (turns.filter (·.pipeline owner = name)) ∧
      Agrees owner keeper name (s.after turns)
        (t.after (turns.filter (·.pipeline owner = name))) := by
  induction turns generalizing s t with
  | nil => exact ⟨rfl, agrees⟩
  | cons turn rest ih =>
    have here := fun name engine (attach : turn = .command name (.attach engine)) =>
      own name engine (attach ▸ List.mem_cons_self)
    have later := fun name engine member => own name engine (List.mem_cons_of_mem turn member)
    by_cases mine : turn.pipeline owner = name
    · -- the turn is made in both sessions
      subst mine
      have goes := sharing.apart here agrees
      obtain ⟨same, agrees⟩ := ih goes.agrees goes.sharing later
      simp only [Session.replies, Session.after, List.filter_cons, decide_true, if_true, same,
        goes.result, goes.trail]
      exact ⟨trivial, agrees⟩
    · -- the turn is made in the one session only, and leaves the pipeline of the name alone
      have goes := sharing.apart here (.refl s)
      obtain ⟨same, agrees⟩ :=
        ih ((goes.others name (Ne.symm mine)).symm.trans agrees) goes.sharing later
      simp only [Session.replies, Session.after, List.filter_cons, mine, decide_false,
        Bool.false_eq_true, if_false, same]
      exact ⟨trivial, agrees⟩

/-- Pipelines that share a bound descriptor, each with engines of its own, do not interfere. Whatever
they are asked for in turn, attaching an engine that is rejected included, and whenever the runs of
their engines end, each pipeline answers and logs the same as it does alone, and comes to the same
state and results, with its engines and thus their input tensors in the same state. -/
theorem pipelines_independent (sharing : s.Sharing descriptor owner keeper) (turns : List Turn)
    (own : ∀ name engine, Turn.command name (.attach engine) ∈ turns → owner engine = name)
    (name : String) :
    let alone := turns.filter (·.pipeline owner = name)
    (s.replies turns).filter (·.1.pipeline owner = name) = s.replies alone ∧
      (s.after turns).pipelines.get? name = (s.after alone).pipelines.get? name ∧
      (∀ engine, owner engine = name →
        (s.after turns).bench.engines.get? engine = (s.after alone).bench.engines.get? engine) ∧
      (∀ key, keeper key = name →
        (s.after turns).bench.networks.get? key = (s.after alone).bench.networks.get? key) ∧
      (s.after turns).bench.descriptors = (s.after alone).bench.descriptors := by
  have same : Agrees owner keeper name s s := .refl s
  obtain ⟨replies, pipeline, bench⟩ := same.replies sharing own
  exact ⟨replies, pipeline.symm, fun engine mine => (bench.engines engine mine).symm,
    fun key mine => (bench.networks key mine).symm, bench.descriptors.symm⟩

end

/-- Two lanes with an engine each, and a spare engine of the left one, which has another network. -/
def twoLanes : Session where
  files := default
  bench.networks :=
    let plates : Network := {
      inputs := [
        { name := "data", shape := [none, some 1, some 1, some 1] },
        { name := "seq", shape := [some Plate.maxSequence, some 1] }]
      outputs := [{ name := "prob", shape := [none, some Plate.maxSequence] }] }
    [(.ofEngine "left", plates), (.ofEngine "right", plates), (.ofEngine "spare", {})]
  bench.descriptors := [("plates", {
    family := .plate
    category := Family.plate.category
    location := "plates.onnx"
    maxBatch := 1
    input := some "data"
    sequence := some "seq"
    output := some "prob" })]
  bench.engines :=
    let engine (run : RunPlan) : Engine := .onnx {
      device := "cpu"
      declared := [("data", .u8), ("seq", .f32)]
      script := { runs := [run] } }
    [("left", .ofEngine "left", engine { Pipeline.yielding 1 (.ofInt 5) with hold := true }),
      ("right", .ofEngine "right", engine (Pipeline.yielding 1 (.ofInt 6))),
      ("spare", .ofEngine "spare", engine {})]
  pipelines :=
    let lane : Pipeline :=
      { descriptor := "plates", decoder := .plate, scale := .int 1, maxBatch := 1 }
    [("left", lane), ("right", lane)]

def laneOf (engine : String) : String := if engine = "spare" then "left" else engine

def laneOfNetwork : NetworkKey → String
  | .named name => name
  | .ofEngine engine => laneOf engine

def lanesInTurn : List Turn :=
  let frame (value : Int) : Frame := .packed (.fill (.element .u8) [1, 1, 1] (.whole value))
  let square : Value := .rect (.int 0) (.int 0) (.int 1) (.int 1)
  [.command "left" (.attach "left"), .command "right" (.attach "right"),
    .command "left" (.enqueue (frame 7) square), .command "left" .submit,
    .command "right" (.enqueue (frame 9) square), .command "left" (.attach "spare"),
    .command "right" .submit, .command "left" .fetch, .command "right" .fetch,
    .release "left", .command "left" .fetch]

theorem independent_lanes :
    let together := twoLanes.after lanesInTurn
    let alone := twoLanes.after (lanesInTurn.filter (·.pipeline laneOf = "left"))
    twoLanes.Sharing "plates" laneOf laneOfNetwork ∧
      (∀ name engine, Turn.command name (.attach engine) ∈ lanesInTurn → laneOf engine = name) ∧
      ((twoLanes.replies lanesInTurn).filter (·.1.pipeline laneOf = "left")).map
        (fun reply => reply.2.1.toOption) =
          [some true, some true, some true, none, some false, some true, some true] ∧
      (together.pipelines.get? "left").map (·.results.map (·.reading)) =
        some [some { license := "5", sequence := [5] }] ∧
      together.bench.engines.get? "left" = alone.bench.engines.get? "left" := by
  have sharing : twoLanes.Sharing "plates" laneOf laneOfNetwork := by
    refine ⟨⟨_, rfl, rfl⟩, fun engine key e found => ?_, fun name p found => ?_⟩
    · have member := Entries.mem_of_get? found
      simp only [twoLanes, List.mem_cons, List.not_mem_nil, or_false, Prod.mk.injEq] at member
      rcases member with ⟨rfl, rfl, -⟩ | ⟨rfl, rfl, -⟩ | ⟨rfl, rfl, -⟩ <;> rfl
    · have member := Entries.mem_of_get? found
      simp only [twoLanes, List.mem_cons, List.not_mem_nil, or_false, Prod.mk.injEq] at member
      rcases member with ⟨-, rfl⟩ | ⟨-, rfl⟩ <;> exact ⟨rfl, by simp⟩
  have own : ∀ name engine, Turn.command name (.attach engine) ∈ lanesInTurn →
      laneOf engine = name := by
    simp only [lanesInTurn, List.mem_cons, List.not_mem_nil, or_false, Turn.command.injEq,
      Command.attach.injEq, reduceCtorEq, and_false, false_or]
    rintro _ _ (⟨rfl, rfl⟩ | ⟨rfl, rfl⟩ | ⟨rfl, rfl⟩) <;> rfl
  obtain ⟨replies, pipeline, engines, _⟩ := pipelines_independent sharing lanesInTurn own "left"
  refine ⟨sharing, own, ?_, ?_, engines "left" rfl⟩
  · rw [replies]
    decide +kernel
  · rw [pipeline]
    decide +kernel

end FrameBatch.Session
