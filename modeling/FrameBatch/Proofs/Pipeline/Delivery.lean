import FrameBatch.Proofs.Output.Receiving
import FrameBatch.Proofs.Pipeline.Local
import FrameBatch.Tensor.Bilinear

namespace FrameBatch.Pipeline

variable {ε : Type}

def Takes (s : Site ε) (results : List Result) (name : String) : Prop :=
  ∃ o o', s.bench.outputs.get? name = some o ∧ (Output.accept results).Ends o (.ok ()) o'

theorem takes_iff {s : Site ε} {results : List Result} {name : String} :
    Takes s results name ↔ (s.bench.outputs.get? name).map Output.refuses = some false := by
  rw [Option.map_eq_some_iff]
  constructor
  · rintro ⟨o, o', found, accepts⟩
    have returned := accepts.result
    rw [(Output.accept_eq results o).1] at returned
    refine ⟨o, found, ?_⟩
    cases refuses : o.refuses with
    | false => rfl
    | true => simp [refuses] at returned
  · rintro ⟨o, found, takes⟩
    exact ⟨o, _, found, by rw [(Output.accept_eq results o).1, takes]; rfl, rfl⟩

instance (s : Site ε) (results : List Result) (name : String) : Decidable (Takes s results name) :=
  decidable_of_iff _ takes_iff.symm

theorem deliver_each {results : List Result} {names : List String} {s s' : Site ε}
    {r : Except Fault Unit} (distinct : names.Nodup) (takes : ∀ name ∈ names, Takes s results name)
    (h : (deliver results names).Ends s r s') :
    r = .ok () ∧ ∀ name o, s.bench.outputs.get? name = some o →
      ∃ o', s'.bench.outputs.get? name = some o' ∧
        o.Receives (if name ∈ names then [results] else []) [] o' := by
  induction names generalizing s with
  | nil =>
    obtain ⟨rfl, rfl⟩ := Act.ends_pure.1 h
    exact ⟨rfl, fun name o found => ⟨o, found, .start⟩⟩
  | cons first rest ih =>
    obtain ⟨o₁, o₂, found₁, accepts⟩ := takes first List.mem_cons_self
    obtain ⟨once, distinct⟩ := List.nodup_cons.1 distinct
    have delivered :=
      Site.ends_onBench.2 ⟨_, (Bench.ends_onOutput found₁).2 ⟨o₂, accepts, rfl⟩, rfl⟩
    rw [deliver, Act.ends_bind_of_ok delivered] at h
    have others {name : String} (different : name ≠ first) :
        (s.bench.outputs.adjust first fun _ => o₂).get? name = s.bench.outputs.get? name :=
      Entries.get?_adjust_of_ne different _ _
    obtain ⟨returned, each⟩ := ih distinct (fun name later => by
      obtain ⟨o, o', found, accepts⟩ := takes name (List.mem_cons_of_mem _ later)
      refine ⟨o, o', (others ?_).trans found, accepts⟩
      rintro rfl
      exact once later) h
    refine ⟨returned, fun name o found => ?_⟩
    by_cases same : name = first
    · subst same
      cases found₁.symm.trans found
      obtain ⟨o', found', receives⟩ := each name o₂ (by simp [Entries.get?_adjust_self, found])
      rw [if_neg once] at receives
      rw [if_pos List.mem_cons_self]
      exact ⟨o', found', (Output.Receives.start.accept accepts).append receives⟩
    · obtain ⟨o', found', receives⟩ := each name o ((others same).trans found)
      simp only [List.mem_cons, same, false_or]
      exact ⟨o', found', receives⟩

structure SameOutputs (s s' : Site ε) : Prop where
  registered : s'.pipeline.outputs = s.pipeline.outputs
  outputs : s'.bench.outputs = s.bench.outputs

namespace SameOutputs

variable {s s' s'' : Site ε}

theorem refl (s : Site ε) : SameOutputs s s := ⟨rfl, rfl⟩

theorem trans (first : SameOutputs s s') (rest : SameOutputs s' s'') : SameOutputs s s'' :=
  ⟨rest.registered.trans first.registered, rest.outputs.trans first.outputs⟩

end SameOutputs

section

variable [Backend ε] {s s' : Site ε}

theorem AttachEnds.sameOutputs {engine : String} {r : Except Fault Unit}
    (h : AttachEnds s engine r s') : SameOutputs s s' := by
  cases h <;> exact ⟨rfl, rfl⟩

theorem EnqueueEnds.sameOutputs [Resizer] {frame : Frame} {location : Value} {r : Except Fault Bool}
    (h : EnqueueEnds s frame location r s') : SameOutputs s s' := by
  cases h <;> exact ⟨rfl, rfl⟩

theorem ExecuteEnds.sameOutputs {run : Act ε Unit} {done : Bool} {r : Except Fault Bool}
    (h : ExecuteEnds run done s r s') : SameOutputs s s' := by
  cases h <;> exact ⟨rfl, rfl⟩

theorem AskEnds.sameOutputs {α : Type} {x : Act ε α} {r : Except Fault α} (h : AskEnds x s r s') :
    SameOutputs s s' := by
  cases h <;> exact ⟨rfl, rfl⟩

theorem WaitEnds.sameOutputs {timeout : Value} {r : Except Fault Bool}
    (h : WaitEnds s timeout r s') : SameOutputs s s' := by
  cases h with
  | idle | known => exact .refl s
  | answered _ _ asks => exact asks.sameOutputs.trans ⟨rfl, rfl⟩
  | failed _ _ asks _ => exact asks.sameOutputs.trans ⟨rfl, rfl⟩
  | broken _ _ asks _ => exact asks.sameOutputs

theorem DecodeEnds.sameOutputs {r : Except Fault (List Result)} (h : DecodeEnds s r s') :
    SameOutputs s s' := by
  cases h <;> exact ⟨rfl, rfl⟩

theorem FetchEnds.outputs_cases {r : Except Fault Bool} (h : FetchEnds s r s') :
    r ≠ .ok true ∧ SameOutputs s s' ∨
      ∃ results read delivery, s.pipeline.stage = .submitted ∧
        SameOutputs s (withResults read results) ∧
        (deliver results s.pipeline.outputs).Ends (withResults read results) delivery s' ∧
        r = delivery.map fun _ => true := by
  have waits {waited : Site ε} {r : Except Fault Bool} (submitted : s.pipeline.stage = .submitted)
      (asks : isOver.Ends s r waited) : SameOutputs s waited :=
    (isOver_cases submitted asks).sameOutputs
  cases h with
  | idle _ empty => exact .inl ⟨empty, .refl s⟩
  | early submitted asks empty => exact .inl ⟨empty, waits submitted asks⟩
  | failed submitted asks decodes _ =>
    exact .inl ⟨by simp, ((waits submitted asks).trans decodes.sameOutputs).trans ⟨rfl, rfl⟩⟩
  | broken submitted asks decodes _ =>
    exact .inl ⟨by simp, (waits submitted asks).trans decodes.sameOutputs⟩
  | fetched submitted asks decodes delivers =>
    have same := (waits submitted asks).trans decodes.sameOutputs
    exact .inr ⟨_, _, _, submitted, same.trans ⟨rfl, rfl⟩, delivers, rfl⟩

theorem FetchEnds.registered {r : Except Fault Bool} (h : FetchEnds s r s') :
    s'.pipeline.outputs = s.pipeline.outputs := by
  rcases h.outputs_cases with ⟨_, same⟩ | ⟨_, _, _, _, same, delivers, _⟩
  · exact same.registered
  · obtain ⟨_, rfl⟩ := deliver_frame delivers
    exact same.registered

/-- A fetch that answers true gives its results to each output of the pipeline, if none refuses
them; another fetch gives nothing to any output. -/
theorem FetchEnds.given {r : Except Fault Bool} (h : FetchEnds s r s')
    (distinct : s.pipeline.outputs.Nodup)
    (takes : s.pipeline.stage = .submitted → s'.pipeline.stage = .fetched →
      ∀ name ∈ s.pipeline.outputs, Takes s s'.pipeline.results name) :
    r ≠ .ok true ∧ s'.bench.outputs = s.bench.outputs ∨
      r = .ok true ∧ ∀ name o, s.bench.outputs.get? name = some o →
        ∃ o', s'.bench.outputs.get? name = some o' ∧
          o.Receives (if name ∈ s.pipeline.outputs then [s'.pipeline.results] else []) [] o' := by
  rcases h.outputs_cases with ⟨empty, same⟩ | ⟨results, read, _, submitted, same, delivers, rfl⟩
  · exact .inl ⟨empty, same.outputs⟩
  · obtain ⟨outputs, rfl⟩ := deliver_frame delivers
    have takes : ∀ name ∈ s.pipeline.outputs, Takes (withResults read results) results name := by
      intro name registered
      obtain ⟨o, o', found, accepts⟩ := takes submitted rfl name registered
      exact ⟨o, o', same.outputs ▸ found, accepts⟩
    obtain ⟨rfl, each⟩ := deliver_each distinct takes delivers
    exact .inr ⟨rfl, fun name o found => each name o (same.outputs ▸ found)⟩

end

inductive Doing (ε : Type) where
  | turn (turn : Turn ε)
  /-- an output passes on what it received -/
  | handle (output : String)

/-- Something that is done, and the site at which it is done. -/
structure Scene (ε : Type) where
  doing : Doing ε
  before : Site ε

/-- Others leave the output as it is. -/
def Scene.Leaves (name : String) (scene : Scene ε) : Prop :=
  ∀ b, scene.doing = .turn (.elsewhere b) →
    b.outputs.get? name = scene.before.bench.outputs.get? name

theorem mem_observe {p : Pipeline} {output name : String} :
    name ∈ (p.observe output).outputs ↔ name ∈ p.outputs ∨ output = name := by
  rw [observe]
  split
  · rename_i known
    have known := List.contains_iff_mem.1 known
    refine ⟨.inl, ?_⟩
    rintro (there | rfl)
    · exact there
    · exact known
  · simp [eq_comm]

theorem nodup_observe {p : Pipeline} (distinct : p.outputs.Nodup) (output : String) :
    (p.observe output).outputs.Nodup := by
  rw [observe]
  split
  · exact distinct
  · rename_i unknown
    refine List.nodup_append.2 ⟨distinct, by simp, ?_⟩
    rintro name there other new rfl
    cases List.mem_singleton.1 new
    exact unknown (List.contains_iff_mem.2 there)

section

variable [Backend ε] [Resizer]

def Doing.act : Doing ε → Act (Site ε) Bool
  | .turn t => t.act
  | .handle output => do
    Site.onBench (Bench.onOutput output Output.handle)
    return true

theorem Doing.handle_absent {s : Site ε} {output : String}
    (absent : s.bench.outputs.get? output = none) :
    (Doing.handle output).act s = ⟨.error (.refused (.absent output)), s, []⟩ := by
  simp [Doing.act, Site.onBench, Act.on, Bench.onOutput, absent, missing, bind, Act.bind]

theorem Doing.handle_eq {s : Site ε} {output : String} {o : Output}
    (found : s.bench.outputs.get? output = some o) :
    (Doing.handle output).act s =
      ⟨.ok true, { s with bench := { s.bench with
        outputs := s.bench.outputs.adjust output fun _ => (Output.handle o).state } },
        (Output.handle o).trail⟩ := by
  have first : (Site.onBench (Bench.onOutput output Output.handle) : Act (Site ε) Unit) s =
      ⟨.ok (), { s with bench := { s.bench with
        outputs := s.bench.outputs.adjust output fun _ => (Output.handle o).state } },
        (Output.handle o).trail⟩ := by
    simp [Site.onBench, Act.on, Bench.onOutput, found, Output.result_handle]
  rw [Doing.act, Act.bind_of_ok first]
  simp

namespace Scene

def answer (scene : Scene ε) : Except Fault Bool := (scene.doing.act scene.before).result

def after (scene : Scene ε) : Site ε := (scene.doing.act scene.before).state

def trail (scene : Scene ε) : List Event := (scene.doing.act scene.before).trail

theorem ends (scene : Scene ε) : scene.doing.act.Ends scene.before scene.answer scene.after :=
  ⟨rfl, rfl⟩

def registers (name : String) (scene : Scene ε) : Bool :=
  match scene.doing, scene.answer with
  | .turn (.command (.observe output)), .ok true => output == name
  | _, _ => false

/-- What the scene gives out: the results, if it is a successful fetch. -/
def gives (scene : Scene ε) : List (List Result) :=
  match scene.doing, scene.answer with
  | .turn (.command .fetch), .ok true => [scene.after.pipeline.results]
  | _, _ => []

def passes (name : String) (scene : Scene ε) : List Event :=
  match scene.doing with
  | .handle output => if output = name then scene.trail else []
  | _ => []

/-- No output refuses the results, when the batch in flight is fetched. -/
def Welcome (scene : Scene ε) : Prop :=
  scene.before.pipeline.stage = .submitted → scene.after.pipeline.stage = .fetched →
    ∀ name ∈ scene.before.pipeline.outputs, Takes scene.before scene.after.pipeline.results name

instance (scene : Scene ε) : Decidable scene.Welcome :=
  inferInstanceAs (Decidable (_ → _ → ∀ name ∈ _, _))

end Scene

/-- The scenes from a site on, the last one first. -/
inductive Story (start : Site ε) : List (Scene ε) → Site ε → Prop
  | start : Story start [] start
  | next {past : List (Scene ε)} {s : Site ε} (earlier : Story start past s) (doing : Doing ε) :
    Story start (⟨doing, s⟩ :: past) (Scene.after ⟨doing, s⟩)

/-- The lists that successful fetches gave out after the first registration of an output. -/
def received (name : String) : List (Scene ε) → List (List Result)
  | [] => []
  | scene :: past =>
    received name past ++ if past.any (Scene.registers name) then scene.gives else []

def passed (name : String) : List (Scene ε) → List Event
  | [] => []
  | scene :: past => passed name past ++ scene.passes name

inductive Scene.Does (scene : Scene ε) : Prop
  | nothing (same : SameOutputs scene.before scene.after) (gives : scene.gives = [])
    (passes : ∀ name, scene.passes name = []) (registers : ∀ name, scene.registers name = false)
  | fetches (doing : scene.doing = .turn (.command .fetch))
    (ends : FetchEnds scene.before scene.answer scene.after)
  | observes {output : String} (doing : scene.doing = .turn (.command (.observe output)))
    (answer : scene.answer = .ok true)
    (after : scene.after =
      { scene.before with pipeline := scene.before.pipeline.observe output })
  | elsewhere {b : Bench ε} (doing : scene.doing = .turn (.elsewhere b))
    (after : scene.after = { scene.before with bench := b })
  | handles {output : String} {o : Output} (doing : scene.doing = .handle output)
    (found : scene.before.bench.outputs.get? output = some o)
    (after : scene.after = { scene.before with bench := { scene.before.bench with
      outputs := scene.before.bench.outputs.adjust output fun _ => (Output.handle o).state } })
    (trail : scene.trail = (Output.handle o).trail)

theorem Turn.sameOutputs {turn : Turn ε} {s s' : Site ε} {r : Except Fault Bool}
    (h : turn.act.Ends s r s') (fetches : turn ≠ .command .fetch)
    (observes : ∀ output, turn ≠ .command (.observe output)) (here : ∀ b, turn ≠ .elsewhere b) :
    SameOutputs s s' := by
  cases turn with
  | command c =>
    cases c with
    | attach engine =>
      obtain ⟨_, attaches, _⟩ := attach_command_cases h
      exact attaches.sameOutputs
    | enqueue frame location => exact (enqueue_cases h).sameOutputs
    | submit => exact (execute_cases h).sameOutputs
    | synchronize => exact (execute_cases h).sameOutputs
    | wait timeout => exact (wait_cases h).sameOutputs
    | fetch => exact absurd rfl fetches
    | observe output => exact absurd rfl (observes output)
  | direct engine timeout =>
    rcases Site.onEngine_cases h with rfl | ⟨_, _, _, _, rfl⟩ <;> exact ⟨rfl, rfl⟩
  | release engine => rcases release_cases h with rfl | ⟨_, _, rfl⟩ <;> exact ⟨rfl, rfl⟩
  | elsewhere b => exact absurd rfl (here b)

theorem Scene.does (scene : Scene ε) : scene.Does := by
  rcases scene with ⟨doing, s⟩
  have ends := Scene.ends ⟨doing, s⟩
  cases doing with
  | turn turn =>
    have plain (fetches : turn ≠ .command .fetch)
        (observes : ∀ output, turn ≠ .command (.observe output))
        (here : ∀ b, turn ≠ .elsewhere b) : Scene.Does ⟨.turn turn, s⟩ := by
      refine .nothing (Turn.sameOutputs ends fetches observes here) ?_ (fun _ => rfl) fun _ => ?_
      · unfold Scene.gives
        split <;> simp_all
      · unfold Scene.registers
        split <;> simp_all
    cases turn with
    | command c =>
      cases c with
      | fetch => exact .fetches rfl (fetch_cases ends)
      | observe output =>
        change (Command.observe output).act.Ends _ _ _ at ends
        rw [Command.act, Act.ends_get_bind] at ends
        cases found : s.bench.outputs.get? output with
        | none =>
          simp only [found] at ends
          obtain ⟨answer, after⟩ := Act.ends_fail.1 ends
          refine .nothing ?_ rfl (fun _ => rfl) fun _ => by simp [Scene.registers, answer]
          rw [after]
          exact .refl s
        | some o =>
          simp only [found, Site.ends_update_bind] at ends
          obtain ⟨answer, after⟩ := Act.ends_pure.1 ends
          exact .observes rfl answer after
      | _ => exact plain (by simp) (by simp) (by simp)
    | elsewhere b => exact .elsewhere rfl (elsewhere_state ends)
    | _ => exact plain (by simp) (by simp) (by simp)
  | handle output =>
    cases found : s.bench.outputs.get? output with
    | none =>
      have fails := Doing.handle_absent found
      refine .nothing ?_ rfl (fun name => ?_) fun _ => rfl
      · rw [Scene.after, fails]
        exact .refl s
      · simp [Scene.passes, Scene.trail, fails]
    | some o =>
      have handled := Doing.handle_eq found
      exact .handles rfl found (congrArg Outcome.state handled) (congrArg Outcome.trail handled)

theorem Scene.registered (scene : Scene ε) :
    (scene.before.pipeline.outputs.Nodup → scene.after.pipeline.outputs.Nodup) ∧
      ∀ name, name ∈ scene.after.pipeline.outputs ↔
        name ∈ scene.before.pipeline.outputs ∨ scene.registers name = true := by
  have kept (same : scene.after.pipeline.outputs = scene.before.pipeline.outputs)
      (registers : ∀ name, scene.registers name = false) :
      (scene.before.pipeline.outputs.Nodup → scene.after.pipeline.outputs.Nodup) ∧
        ∀ name, name ∈ scene.after.pipeline.outputs ↔
          name ∈ scene.before.pipeline.outputs ∨ scene.registers name = true := by
    simp [same, registers]
  cases scene.does with
  | nothing same _ _ registers => exact kept same.registered registers
  | fetches doing ends => exact kept ends.registered (by simp [Scene.registers, doing])
  | elsewhere doing after => exact kept (by rw [after]) (by simp [Scene.registers, doing])
  | handles doing _ after _ => exact kept (by rw [after]) (by simp [Scene.registers, doing])
  | observes doing answer after =>
    rw [after]
    refine ⟨fun distinct => nodup_observe distinct _, fun name => ?_⟩
    simp [mem_observe, Scene.registers, doing, answer]

theorem Scene.receives {scene : Scene ε} {name : String} {o : Output}
    (distinct : scene.before.pipeline.outputs.Nodup)
    (found : scene.before.bench.outputs.get? name = some o) (leaves : scene.Leaves name)
    (welcome : scene.Welcome) :
    ∃ o', scene.after.bench.outputs.get? name = some o' ∧
      o.Receives (if name ∈ scene.before.pipeline.outputs then scene.gives else [])
        (scene.passes name) o' := by
  have kept (same : scene.after.bench.outputs.get? name = scene.before.bench.outputs.get? name)
      (gives : scene.gives = []) (passes : scene.passes name = []) :
      ∃ o', scene.after.bench.outputs.get? name = some o' ∧
        o.Receives (if name ∈ scene.before.pipeline.outputs then scene.gives else [])
          (scene.passes name) o' := by
    rw [gives, passes, ite_self]
    exact ⟨o, same.trans found, .start⟩
  cases scene.does with
  | nothing same gives passes _ => exact kept (by rw [same.outputs]) gives (passes name)
  | fetches doing ends =>
    have passes : scene.passes name = [] := by simp [Scene.passes, doing]
    rcases ends.given distinct welcome with ⟨empty, same⟩ | ⟨answer, each⟩
    · refine kept (by rw [same]) ?_ passes
      unfold Scene.gives
      split <;> simp_all
    · rw [passes]
      simpa [Scene.gives, doing, answer] using each name o found
  | observes doing answer after =>
    exact kept (by rw [after]) (by simp [Scene.gives, doing]) (by simp [Scene.passes, doing])
  | elsewhere doing after =>
    refine kept ?_ (by simp [Scene.gives, doing]) (by simp [Scene.passes, doing])
    rw [after]
    exact leaves _ doing
  | @handles output o₁ doing found₁ after trail =>
    have gives : scene.gives = [] := by simp [Scene.gives, doing]
    by_cases same : output = name
    · subst same
      cases found₁.symm.trans found
      refine ⟨(Output.handle o).state, ?_, ?_⟩
      · simp [after, Entries.get?_adjust_self, found]
      · simpa [gives, Scene.passes, doing, trail] using (Output.Receives.start (o := o)).handle
    · refine kept ?_ gives (by simp [Scene.passes, doing, same])
      rw [after]
      exact Entries.get?_adjust_of_ne (Ne.symm same) _ _

namespace Story

variable {start middle s : Site ε} {past : List (Scene ε)} {name : String} {o : Output}

theorem earlier {newer older : List (Scene ε)} {scene : Scene ε}
    (story : Story start (newer ++ scene :: older) s) : Story start older scene.before := by
  induction newer generalizing s with
  | nil =>
    cases story with
    | next earlier _ => exact earlier
  | cons _ rest ih =>
    cases story with
    | next earlier _ => exact ih earlier

theorem nodup_outputs (story : Story start past s) (distinct : start.pipeline.outputs.Nodup) :
    s.pipeline.outputs.Nodup := by
  induction story with
  | start => exact distinct
  | next _ doing ih => exact (Scene.registered ⟨doing, _⟩).1 ih

theorem mem_outputs (story : Story start past s) :
    name ∈ s.pipeline.outputs ↔
      name ∈ start.pipeline.outputs ∨ past.any (Scene.registers name) = true := by
  induction story with
  | start => simp
  | next _ doing ih =>
    rw [(Scene.registered ⟨doing, _⟩).2 name, ih, List.any_cons, Bool.or_eq_true, or_assoc,
      or_comm (a := Scene.registers name _ = true)]

theorem receives (story : Story start past s) (distinct : start.pipeline.outputs.Nodup)
    (unregistered : name ∉ start.pipeline.outputs)
    (found : start.bench.outputs.get? name = some o)
    (leaves : ∀ scene ∈ past, scene.Leaves name) (welcome : ∀ scene ∈ past, scene.Welcome) :
    ∃ o', s.bench.outputs.get? name = some o' ∧
      o.Receives (received name past) (passed name past) o' := by
  induction story with
  | start => exact ⟨o, found, .start⟩
  | @next past s earlier doing ih =>
    obtain ⟨o₁, found₁, receives₁⟩ :=
      ih (fun scene member => leaves scene (List.mem_cons_of_mem _ member))
        fun scene member => welcome scene (List.mem_cons_of_mem _ member)
    obtain ⟨o₂, found₂, receives₂⟩ := Scene.receives (earlier.nodup_outputs distinct) found₁
      (leaves _ List.mem_cons_self) (welcome _ List.mem_cons_self)
    have registered : name ∈ s.pipeline.outputs ↔ past.any (Scene.registers name) = true := by
      simp [earlier.mem_outputs, unregistered]
    simp only [registered] at receives₂
    exact ⟨o₂, found₂, receives₁.append receives₂⟩

end Story

/-- Outputs receive every batch once. From any moment on at which an output is there and was not yet
registered with a pipeline, and as long as no output refuses what it is given: the lists that the
output receives are those that the successful fetches gave out after its first registration, in
their order, each one once; and a fetch that fails changes no output. A sink holds exactly these
lists, after what it held. A log has seen their results, no more and no fewer, and what it wrote
when it was told to, followed by what waits, is what waited at first, followed by their results. -/
theorem outputs_receive_once {start middle s : Site ε} {older newer : List (Scene ε)}
    {name : String} {o : Output} (made : start.pipeline.outputs = [])
    (earlier : Story start older middle) (later : Story middle newer s)
    (unregistered : ∀ scene ∈ older, scene.registers name = false)
    (found : middle.bench.outputs.get? name = some o)
    (leaves : ∀ scene ∈ newer, scene.Leaves name) (welcome : ∀ scene ∈ newer, scene.Welcome) :
    (∀ scene ∈ newer, scene.doing = .turn (.command .fetch) → scene.answer ≠ .ok true →
      scene.after.bench.outputs = scene.before.bench.outputs) ∧
    ∃ o', s.bench.outputs.get? name = some o' ∧
      o.Receives (received name newer) (passed name newer) o' ∧
      (∀ label kind batches, o = .sink label kind batches →
        o' = .sink label kind (batches ++ received name newer)) ∧
      ∀ label level seen waiting, o = .log label level seen waiting →
        ∃ written rest,
          o' = .log label level (seen + (received name newer).flatten.length) rest ∧
          passed name newer = written.map (Output.entry label level) ∧
          written ++ rest = waiting ++ (received name newer).flatten := by
  have distinct : middle.pipeline.outputs.Nodup :=
    earlier.nodup_outputs (by rw [made]; exact List.nodup_nil)
  have absent : name ∉ middle.pipeline.outputs := by
    rw [earlier.mem_outputs, made]
    simpa using unregistered
  refine ⟨fun scene member fetches empty => ?_, ?_⟩
  · obtain ⟨before, past, rfl⟩ := List.append_of_mem member
    have distinct := later.earlier.nodup_outputs distinct
    cases scene.does with
    | fetches _ ends =>
      rcases ends.given distinct (welcome scene member) with ⟨_, same⟩ | ⟨answer, _⟩
      · exact same
      · exact absurd answer empty
    | nothing same _ _ _ => exact same.outputs
    | _ => simp_all
  · obtain ⟨o', found', receives⟩ := later.receives distinct absent found leaves welcome
    refine ⟨o', found', receives, ?_, ?_⟩
    · rintro label kind batches rfl
      exact receives.sink
    · rintro label level seen waiting rfl
      exact receives.log

def staged (past : List (Scene ε)) (s : Site ε) : List (Doing ε) → List (Scene ε) × Site ε
  | [] => (past, s)
  | doing :: rest => staged (⟨doing, s⟩ :: past) (Scene.after ⟨doing, s⟩) rest

theorem Story.staged {start s : Site ε} {past : List (Scene ε)} (earlier : Story start past s)
    (doings : List (Doing ε)) : Story start (staged past s doings).1 (staged past s doings).2 := by
  induction doings generalizing past s with
  | nil => exact earlier
  | cons doing rest ih => exact ih (.next earlier doing)

theorem doing_of_mem_staged {s : Site ε} {past : List (Scene ε)} {doings : List (Doing ε)}
    {scene : Scene ε} (member : scene ∈ (staged past s doings).1) :
    scene ∈ past ∨ scene.doing ∈ doings := by
  induction doings generalizing past s with
  | nil => exact .inl member
  | cons doing rest ih =>
    rcases ih member with earlier | later
    · rcases List.mem_cons.1 earlier with rfl | earlier
      · exact .inr List.mem_cons_self
      · exact .inl earlier
    · exact .inr (List.mem_cons_of_mem _ later)

end

/-- Two plates, the first one before the sink is registered. The log is registered twice, and passes
on what it received in between. -/
def twoPlates : List (Doing Onnx.Engine) :=
  [.turn (.command (.attach "cpu")), .turn (.command (.observe "log")), .turn (enqueueAt 0),
    .turn (.command .submit), .turn (.command .fetch), .handle "log",
    .turn (.command (.observe "sink")), .turn (.command (.observe "log")), .turn (enqueueAt 1),
    .turn (.command .synchronize), .turn (.command .fetch), .turn (.command .fetch)]

def beforeTwoPlates : Site Onnx.Engine :=
  { plateSite 1 [yielding 1 (.ofInt 5), yielding 1 (.ofInt 6)] with
    bench.outputs := [("log", .toLog "log" .info), ("sink", .toSink "sink" .collect)] }

def afterTwoPlates : List (Scene Onnx.Engine) × Site Onnx.Engine :=
  staged [] beforeTwoPlates twoPlates

def readAt (x : Int) (symbol : Nat) : Result where
  location := { x := .int x, y := .int 0, width := .int 1, height := .int 1 }
  reading := some { license := toString symbol, sequence := [symbol] }

theorem entry_readAt : Output.entry "log" .info (readAt 0 5) =
    .log ⟨.info, Output.logger, "[log] Rect(x=0, y=0, width=1, height=1): 5"⟩ :=
  congrArg (fun message => Event.log ⟨.info, Output.logger, message⟩) (by decide +kernel)

theorem received_twoPlates :
    received "log" afterTwoPlates.1 = [[readAt 0 5], [readAt 1 6]] ∧
    received "sink" afterTwoPlates.1 = [[readAt 1 6]] ∧
    passed "log" afterTwoPlates.1 =
      [.log ⟨.info, Output.logger, "[log] Rect(x=0, y=0, width=1, height=1): 5"⟩] ∧
    afterTwoPlates.2.bench.outputs.get? "sink" = some (.sink "sink" .collect [[readAt 1 6]]) ∧
    afterTwoPlates.2.bench.outputs.get? "log" = some (.log "log" .info 2 [readAt 1 6]) := by
  have story : Story beforeTwoPlates afterTwoPlates.1 afterTwoPlates.2 :=
    Story.start.staged twoPlates
  have leaves (name : String) : ∀ scene ∈ afterTwoPlates.1, scene.Leaves name := by
    intro scene member b elsewhere
    rcases doing_of_mem_staged member with earlier | doing
    · cases earlier
    · simp [elsewhere, twoPlates, enqueueAt] at doing
  have welcome : ∀ scene ∈ afterTwoPlates.1, scene.Welcome := by decide +kernel
  have toLog : received "log" afterTwoPlates.1 = [[readAt 0 5], [readAt 1 6]] := rfl
  have toSink : received "sink" afterTwoPlates.1 = [[readAt 1 6]] := rfl
  have made : beforeTwoPlates.pipeline.outputs = [] := rfl
  have sink : beforeTwoPlates.bench.outputs.get? "sink" = some (.sink "sink" .collect []) := rfl
  have log : beforeTwoPlates.bench.outputs.get? "log" = some (.log "log" .info 0 []) := rfl
  obtain ⟨_, _, sunk, _, sinks, _⟩ :=
    outputs_receive_once made .start story (by simp) sink (leaves "sink") welcome
  obtain ⟨_, _, logged, _, _, logs⟩ :=
    outputs_receive_once made .start story (by simp) log (leaves "log") welcome
  obtain ⟨written, rest, rfl, passes, whole⟩ := logs "log" .info 0 [] rfl
  have once : written.length = 1 := by
    rw [← List.length_map, ← passes]
    decide +kernel
  rw [toLog] at logged whole
  obtain ⟨rfl, rfl⟩ : written = [readAt 0 5] ∧ rest = [readAt 1 6] := List.append_inj whole once
  refine ⟨toLog, toSink, ?_, ?_, logged⟩
  · rw [passes, List.map_singleton, entry_readAt]
  · rw [sunk, sinks "sink" .collect [] rfl, List.nil_append, toSink]

end FrameBatch.Pipeline
