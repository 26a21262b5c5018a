import FrameBatch.Proofs.Descriptor.Bound
import FrameBatch.Proofs.Engine.Use
import FrameBatch.Proofs.Pipeline.History

/-!
Pipelines that keep to their share of a bench. An operation of a pipeline sees nothing of the bench
but its own engines with their networks, the descriptors, and which outputs refuse what they are
given; and it changes nothing but its own engines with their networks, and what outputs have seen.
-/

namespace FrameBatch

def Output.refuses : Output → Bool
  | .sink _ .raising _ => true
  | _ => false

theorem Output.accept_eq (results : List Result) (o : Output) :
    (Output.accept results o).result =
        (if o.refuses then .error (.refused (.reported .runtime "sink full")) else .ok ()) ∧
      (Output.accept results o).trail = [] ∧ (Output.accept results o).state.refuses = o.refuses := by
  cases o with
  | log => exact ⟨rfl, rfl, rfl⟩
  | sink name kind batches => cases kind <;> exact ⟨rfl, rfl, rfl⟩

theorem Bench.key_of_withEngine {ε : Type} {b : Bench ε} {name other : String} {key : NetworkKey}
    {e e' : ε} (found : (b.withEngine name e).engines.get? other = some (key, e')) :
    ∃ e₀, b.engines.get? other = some (key, e₀) := by
  by_cases same : other = name
  · subst same
    simp only [withEngine, Entries.get?_adjust_self, Option.map_eq_some_iff] at found
    obtain ⟨⟨key', e₀⟩, found, same⟩ := found
    cases same
    exact ⟨e₀, found⟩
  · rw [withEngine, Entries.get?_adjust_of_ne same] at found
    exact ⟨e', found⟩

def Bench.withNetwork {ε : Type} (b : Bench ε) (key : NetworkKey) (n : Network) : Bench ε :=
  { b with networks := b.networks.adjust key fun _ => n }

theorem Bench.withLoading_eq {ε : Type} {b : Bench ε} {l : Loading ε} {descriptor : String}
    (engine : String) (key : NetworkKey) (found : b.descriptors.get? descriptor = some l.descriptor) :
    b.withLoading engine descriptor key l =
      (b.withEngine engine l.engine).withNetwork key l.network := by
  have kept := Entries.adjust_of_get? (f := fun _ => l.descriptor) found rfl
  rw [withLoading, kept]
  rfl

/-- What a pipeline has for itself: engines, and the networks that they found. -/
structure Share where
  engine : String → Prop
  network : NetworkKey → Prop

namespace Share

variable {ε : Type}

def others (A : Share) : Share := ⟨fun name => ¬ A.engine name, fun key => ¬ A.network key⟩

/-- Two benches on which a share is the same. Outputs may have seen different results. -/
structure Alike (A : Share) (b b' : Bench ε) : Prop where
  engines : ∀ name, A.engine name → b'.engines.get? name = b.engines.get? name
  networks : ∀ key, A.network key → b'.networks.get? key = b.networks.get? key
  descriptors : b'.descriptors = b.descriptors
  outputs : ∀ name, (b'.outputs.get? name).map Output.refuses =
    (b.outputs.get? name).map Output.refuses

namespace Alike

variable {A B : Share} {b b' b'' : Bench ε}

theorem refl (A : Share) (b : Bench ε) : A.Alike b b :=
  ⟨fun _ _ => rfl, fun _ _ => rfl, rfl, fun _ => rfl⟩

theorem trans (first : A.Alike b b') (second : A.Alike b' b'') : A.Alike b b'' where
  engines name own := (second.engines name own).trans (first.engines name own)
  networks key own := (second.networks key own).trans (first.networks key own)
  descriptors := second.descriptors.trans first.descriptors
  outputs name := (second.outputs name).trans (first.outputs name)

theorem symm (alike : A.Alike b b') : A.Alike b' b where
  engines name own := (alike.engines name own).symm
  networks key own := (alike.networks key own).symm
  descriptors := alike.descriptors.symm
  outputs name := (alike.outputs name).symm

theorem mono (alike : A.Alike b b') (engines : ∀ name, B.engine name → A.engine name)
    (networks : ∀ key, B.network key → A.network key) : B.Alike b b' where
  engines name own := alike.engines name (engines name own)
  networks key own := alike.networks key (networks key own)
  descriptors := alike.descriptors
  outputs := alike.outputs

theorem withEngine (alike : A.Alike b b') (name : String) (e : ε) :
    A.Alike (b.withEngine name e) (b'.withEngine name e) where
  engines other mine := by
    by_cases same : other = name
    · subst same
      simp only [Bench.withEngine, Entries.get?_adjust_self, alike.engines other mine]
    · simp only [Bench.withEngine, Entries.get?_adjust_of_ne same, alike.engines other mine]
  networks := alike.networks
  descriptors := alike.descriptors
  outputs := alike.outputs

theorem others_withEngine {name : String} (own : A.engine name) (b : Bench ε) (e : ε) :
    A.others.Alike b (b.withEngine name e) where
  engines other mine := by
    have different : other ≠ name := fun same => mine (same ▸ own)
    rw [Bench.withEngine, Entries.get?_adjust_of_ne different]
  networks _ _ := rfl
  descriptors := rfl
  outputs _ := rfl

theorem withNetwork (alike : A.Alike b b') (key : NetworkKey) (n : Network) :
    A.Alike (b.withNetwork key n) (b'.withNetwork key n) where
  engines := alike.engines
  networks other mine := by
    by_cases same : other = key
    · subst same
      simp only [Bench.withNetwork, Entries.get?_adjust_self, alike.networks other mine]
    · simp only [Bench.withNetwork, Entries.get?_adjust_of_ne same, alike.networks other mine]
  descriptors := alike.descriptors
  outputs := alike.outputs

theorem others_withNetwork {key : NetworkKey} (own : A.network key) (b : Bench ε) (n : Network) :
    A.others.Alike b (b.withNetwork key n) where
  engines _ _ := rfl
  networks other mine := by
    have different : other ≠ key := fun same => mine (same ▸ own)
    rw [Bench.withNetwork, Entries.get?_adjust_of_ne different]
  descriptors := rfl
  outputs _ := rfl

end Alike

/-- The pipeline of a site keeps to its share: its engine and the networks of its engines are in it,
and its descriptor is bound. -/
structure Owns (A : Share) (s : Site ε) : Prop where
  engine : ∀ name, s.pipeline.engine = some name → A.engine name
  network : ∀ name key e, A.engine name → s.bench.engines.get? name = some (key, e) → A.network key
  bound : ∃ d, s.descriptor? = some d ∧ d.isBound = true

/-- Two sites that a pipeline cannot tell apart. -/
structure Twins (A : Share) (s t : Site ε) : Prop where
  owns : A.Owns s
  pipeline : t.pipeline = s.pipeline
  bench : A.Alike s.bench t.bench

/-- The act goes the same at two sites that differ outside of a share, and changes nothing there. -/
structure Local {α : Type} (A : Share) (x : Act (Site ε) α) (s t : Site ε) : Prop where
  result : (x t).result = (x s).result
  trail : (x t).trail = (x s).trail
  twins : A.Twins (x s).state (x t).state
  others : A.others.Alike s.bench (x s).state.bench
  descriptor : (x s).state.pipeline.descriptor = s.pipeline.descriptor

section

variable {α β : Type} {A : Share} {s t : Site ε}

theorem Twins.still (twins : A.Twins s t) {x : Act (Site ε) α} (here : (x s).state = s)
    (there : (x t).state = t) (result : (x t).result = (x s).result)
    (trail : (x t).trail = (x s).trail) : A.Local x s t where
  result := result
  trail := trail
  twins := by rwa [here, there]
  others := by rw [here]; exact .refl _ _
  descriptor := by rw [here]

theorem Twins.pure (twins : A.Twins s t) (a : α) : A.Local (Pure.pure a : Act (Site ε) α) s t :=
  twins.still rfl rfl rfl rfl

theorem Twins.fail (twins : A.Twins s t) (f : Fault) :
    A.Local (Act.fail f : Act (Site ε) α) s t :=
  twins.still rfl rfl rfl rfl

theorem Twins.lift (twins : A.Twins s t) (r : Except Fault α) :
    A.Local (liftM r : Act (Site ε) α) s t :=
  twins.still rfl rfl rfl rfl

theorem Twins.report (twins : A.Twins s t) (level : Level) (message : String) :
    A.Local (Pipeline.report level message) s t :=
  twins.still rfl rfl rfl rfl

theorem Local.bind {x : Act (Site ε) α} {f : α → Act (Site ε) β} (first : A.Local x s t)
    (rest : ∀ a, (x s).result = .ok a → A.Twins (x s).state (x t).state →
      A.Local (f a) (x s).state (x t).state) : A.Local (x >>= f) s t := by
  rcases hs : x s with ⟨result, s', events⟩
  rcases ht : x t with ⟨result', t', events'⟩
  obtain ⟨sameResult, sameTrail, twins, others, descriptor⟩ := first
  rw [hs] at rest
  rw [hs, ht] at sameResult sameTrail twins
  rw [ht] at rest
  rw [hs] at others descriptor
  cases sameResult
  cases sameTrail
  cases result with
  | error f =>
    refine ⟨?_, ?_, ?_, ?_, ?_⟩ <;> rw [Act.bind_of_error hs] <;> try rw [Act.bind_of_error ht]
    · exact twins
    · exact others
    · exact descriptor
  | ok a =>
    obtain ⟨result, trail, twins, others', descriptor'⟩ := rest a rfl twins
    refine ⟨?_, ?_, ?_, ?_, ?_⟩ <;> rw [Act.bind_of_ok hs] <;> try rw [Act.bind_of_ok ht]
    · exact result
    · exact congrArg (events ++ ·) trail
    · exact twins
    · exact others.trans others'
    · exact descriptor'.trans descriptor

theorem Local.get_bind {f : Site ε → Act (Site ε) β} (same : f t = f s)
    (rest : A.Local (f s) s t) : A.Local (Act.get >>= f) s t := by
  have there : (Act.get >>= f) t = f s t := by
    rw [Act.bind_of_ok (Act.get_apply t), same]
    rfl
  have here : (Act.get >>= f) s = f s s := by
    rw [Act.bind_of_ok (Act.get_apply s)]
    rfl
  obtain ⟨result, trail, twins, others, descriptor⟩ := rest
  exact ⟨by rw [here, there, result], by rw [here, there, trail], by rwa [here, there],
    by rwa [here], by rwa [here]⟩

theorem Local.attempt {x : Act (Site ε) α} (h : A.Local x s t) : A.Local x.attempt s t :=
  ⟨congrArg Except.ok h.result, h.trail, h.twins, h.others, h.descriptor⟩

theorem Twins.update (twins : A.Twins s t) {f : Pipeline → Pipeline}
    (descriptor : (f s.pipeline).descriptor = s.pipeline.descriptor)
    (engine : ∀ name, (f s.pipeline).engine = some name → A.engine name) :
    A.Local (Site.update f) s t where
  result := rfl
  trail := rfl
  twins :=
    { owns :=
        { engine := engine
          network := twins.owns.network
          bound := by
            obtain ⟨d, found, bound⟩ := twins.owns.bound
            refine ⟨d, ?_, bound⟩
            rw [Site.descriptor?] at found ⊢
            exact descriptor ▸ found }
      pipeline := congrArg f twins.pipeline
      bench := twins.bench }
  others := .refl _ _
  descriptor := descriptor

theorem Twins.descriptor (twins : A.Twins s t) : A.Local Site.descriptor s t := by
  refine Local.get_bind (by rw [twins.pipeline, twins.bench.descriptors]) ?_
  split
  · exact twins.pure _
  · exact twins.fail _

theorem Twins.withBench (twins : A.Twins s t) {b b' : Bench ε} (alike : A.Alike b b')
    (keys : ∀ {name key e}, b.engines.get? name = some (key, e) →
      ∃ e₀, s.bench.engines.get? name = some (key, e₀))
    (descriptors : b.descriptors = s.bench.descriptors) :
    A.Twins { s with bench := b } { t with bench := b' } where
  owns :=
    { engine := twins.owns.engine
      network := by
        intro name key e mine found
        obtain ⟨e₀, found⟩ := keys found
        exact twins.owns.network name key e₀ mine found
      bound := by
        obtain ⟨d, found, bound⟩ := twins.owns.bound
        refine ⟨d, ?_, bound⟩
        rw [Site.descriptor?] at found ⊢
        rwa [descriptors] }
  pipeline := twins.pipeline
  bench := alike

theorem Twins.onEngine (twins : A.Twins s t) {name : String} (own : A.engine name)
    (x : Act ε α) : A.Local (Site.onEngine name x) s t := by
  have applied {u : Site ε} {entry : NetworkKey × ε}
      (found : u.bench.engines.get? name = some entry) : Site.onEngine name x u =
        ⟨(x entry.2).result, u.withEngine name (x entry.2).state, (x entry.2).trail⟩ := by
    simp only [Site.onEngine, Site.onBench, Act.on, Bench.onEngine, found]
    rfl
  have there := twins.bench.engines name own
  cases found : s.bench.engines.get? name with
  | none =>
    rw [found] at there
    have absent {u : Site ε} (found : u.bench.engines.get? name = none) :
        Site.onEngine name x u = ⟨.error (.refused (.absent name)), u, []⟩ := by
      simp only [Site.onEngine, Site.onBench, Act.on, Bench.onEngine, found]
      rfl
    refine twins.still ?_ ?_ ?_ ?_ <;> simp only [absent found, absent there]
  | some entry =>
    rw [found] at there
    refine ⟨?_, ?_, ?_, ?_, ?_⟩ <;> rw [applied found] <;> try rw [applied there]
    · exact twins.withBench (twins.bench.withEngine name _) Bench.key_of_withEngine rfl
    · exact .others_withEngine own s.bench _
    · rfl

theorem Twins.onLoading (twins : A.Twins s t) {name : String} (own : A.engine name)
    {x : Act (Loading ε) α}
    (keeps : ∀ l, l.descriptor.isBound = true → (x l).state.descriptor = l.descriptor) :
    A.Local (Site.onBench (Bench.onLoading name s.pipeline.descriptor x)) s t := by
  obtain ⟨d, described, bound⟩ := twins.owns.bound
  have described' : t.descriptor? = some d := by
    rw [Site.descriptor?, twins.pipeline, twins.bench.descriptors]
    exact described
  have there := twins.bench.engines name own
  cases found : s.bench.engines.get? name with
  | none =>
    rw [found] at there
    have absent {u : Site ε} (found : u.bench.engines.get? name = none) :
        Site.onBench (Bench.onLoading name s.pipeline.descriptor x) u =
          ⟨.error (.refused (.absent name)), u, []⟩ := by
      simp only [Site.onBench, Act.on, Bench.onLoading, found]
      rfl
    refine twins.still ?_ ?_ ?_ ?_ <;> simp only [absent found, absent there]
  | some entry =>
    obtain ⟨key, e⟩ := entry
    rw [found] at there
    have mine := twins.owns.network name key e own found
    have network : t.bench.network key = s.bench.network key := by
      rw [Bench.network, Bench.network, twins.bench.networks key mine]
    generalize loading : (⟨d, s.bench.network key, e⟩ : Loading ε) = l
    have kept : (x l).state.descriptor = d := by
      rw [keeps l (by rw [← loading]; exact bound), ← loading]
    have applied {u : Site ε} (found : u.bench.engines.get? name = some (key, e))
        (pipeline : u.pipeline = s.pipeline) (described : u.descriptor? = some d)
        (network : u.bench.network key = s.bench.network key) :
        Site.onBench (Bench.onLoading name s.pipeline.descriptor x) u =
          ⟨(x l).result, { u with
            bench := (u.bench.withEngine name (x l).state.engine).withNetwork key
              (x l).state.network }, (x l).trail⟩ := by
      rw [Site.descriptor?, pipeline] at described
      rw [← Bench.withLoading_eq name key (by rw [kept]; exact described), ← loading, ← network]
      simp only [Site.onBench, Act.on, Bench.onLoading, found, described]
      rfl
    have here := applied found rfl described rfl
    have there := applied there twins.pipeline described' network
    refine ⟨?_, ?_, ?_, ?_, ?_⟩ <;> rw [here] <;> try rw [there]
    · exact twins.withBench ((twins.bench.withEngine name _).withNetwork key _)
        Bench.key_of_withEngine rfl
    · exact (Alike.others_withEngine own s.bench _).trans (.others_withNetwork mine _ _)

theorem alike_withOutput (B : Share) {name : String} {o o' : Output} {s : Site ε}
    (found : s.bench.outputs.get? name = some o) (refuses : o'.refuses = o.refuses) :
    B.Alike s.bench { s.bench with outputs := s.bench.outputs.adjust name fun _ => o' } where
  engines _ _ := rfl
  networks _ _ := rfl
  descriptors := rfl
  outputs other := by
    by_cases same : other = name
    · subst same
      simp only [Entries.get?_adjust_self, found, Option.map_some, refuses]
    · simp only [Entries.get?_adjust_of_ne same]

theorem Twins.onOutput (twins : A.Twins s t) (name : String) (results : List Result) :
    A.Local (Site.onBench (Bench.onOutput name (Output.accept results))) s t := by
  have kinds := twins.bench.outputs name
  have absent {u : Site ε} (found : u.bench.outputs.get? name = none) :
      Site.onBench (Bench.onOutput name (Output.accept results)) u =
        ⟨.error (.refused (.absent name)), u, []⟩ := by
    simp only [Site.onBench, Act.on, Bench.onOutput, found]
    rfl
  have applied {u : Site ε} {o : Output} (found : u.bench.outputs.get? name = some o) :
      Site.onBench (Bench.onOutput name (Output.accept results)) u =
        ⟨(Output.accept results o).result, { u with bench := { u.bench with
          outputs := u.bench.outputs.adjust name fun _ => (Output.accept results o).state } },
          (Output.accept results o).trail⟩ := by
    simp only [Site.onBench, Act.on, Bench.onOutput, found]
  cases found : s.bench.outputs.get? name with
  | none =>
    have there : t.bench.outputs.get? name = none := by simpa [found] using kinds
    refine twins.still ?_ ?_ ?_ ?_ <;> simp only [absent found, absent there]
  | some o =>
    obtain ⟨o', there, refuses⟩ : ∃ o', t.bench.outputs.get? name = some o' ∧
        o'.refuses = o.refuses := by simpa [found] using kinds
    obtain ⟨result, trail, kept⟩ := Output.accept_eq results o
    obtain ⟨result', trail', kept'⟩ := Output.accept_eq results o'
    have seen := alike_withOutput A found kept
    have seen' := alike_withOutput A there kept'
    refine ⟨?_, ?_, ?_, ?_, ?_⟩ <;> rw [applied found] <;> try rw [applied there]
    · rw [result, result', refuses]
    · rw [trail, trail']
    · exact twins.withBench ((seen.symm.trans twins.bench).trans seen') (fun found => ⟨_, found⟩)
        rfl
    · exact alike_withOutput _ found kept

theorem Twins.deliver (twins : A.Twins s t) (results : List Result) (names : List String) :
    A.Local (Pipeline.deliver results names) s t := by
  induction names generalizing s t with
  | nil => exact twins.pure ()
  | cons name rest ih =>
    exact (twins.onOutput name results).bind fun _ _ twins => ih twins

theorem Twins.canSubmit (twins : A.Twins s t) (category : String) :
    A.Local (Pipeline.canSubmit category) s t := by
  refine Local.get_bind (by rw [twins.pipeline]) ?_
  dsimp only
  split
  · exact (twins.report _ _).bind fun _ _ twins => twins.pure _
  · split
    · exact (twins.report _ _).bind fun _ _ twins => twins.pure _
    · exact twins.pure _

theorem Twins.giveUp (twins : A.Twins s t) (f : Fault) (message : Descriptor → String) :
    A.Local (if f.isRuntime then do
      Pipeline.report .error (message (← Site.descriptor))
      Site.update Pipeline.cleared
      return false
    else Act.fail f : Act (Site ε) Bool) s t := by
  split
  · exact twins.descriptor.bind fun _ _ twins => (twins.report _ _).bind fun _ _ twins =>
      (twins.update rfl twins.owns.engine).bind fun _ _ twins => twins.pure _
  · exact twins.fail _

variable [Backend ε]

theorem Twins.requireEngine (twins : A.Twins s t) :
    A.Local Pipeline.requireEngine s t := by
  refine Local.get_bind ?_ (twins.descriptor.bind fun d _ twins => ?_)
  · rw [twins.pipeline]
    cases attached : s.pipeline.engine with
    | none => rfl
    | some name => simp only [twins.bench.engines name (twins.owns.engine name attached)]
  · split
    · exact twins.fail _
    · split
      · split
        · exact twins.pure _
        · exact twins.fail _
      · exact twins.fail _

theorem Owns.required (owns : A.Owns s) {name : String}
    (required : (Pipeline.requireEngine s).result = .ok name) : A.engine name := by
  rcases Pipeline.requireEngine_cases s with ⟨name', d, e, ready, ends⟩ | ⟨f, _, ends⟩
  · cases required.symm.trans ends.result
    exact owns.engine name ready.attached
  · cases required.symm.trans ends.result

theorem Twins.enqueue [Resizer] (twins : A.Twins s t) (frame : Frame) (location : Value) :
    A.Local (Pipeline.enqueue frame location) s t := by
  refine twins.requireEngine.bind fun engine required twins' => ?_
  have own := twins.owns.required required
  refine Local.get_bind (by rw [twins'.pipeline]) (twins'.descriptor.bind fun d _ twins => ?_)
  split
  · exact (twins.report _ _).bind fun _ _ twins => twins.pure _
  · split
    · exact (twins.report _ _).bind fun _ _ twins => twins.pure _
    · refine (twins.lift _).bind fun rect _ twins => (twins.onEngine own _).bind fun batch _ twins =>
        (twins.lift _).bind fun loaded _ twins => (twins.onEngine own _).bind fun _ _ twins =>
        (twins.update rfl twins.owns.engine).bind fun _ _ twins =>
        (twins.report _ _).bind fun _ _ twins => twins.pure _

theorem Twins.execute (twins : A.Twins s t) (run : Act ε Unit) (done : Bool)
    (verb failure : String) : A.Local (Pipeline.execute run done verb failure) s t := by
  refine twins.requireEngine.bind fun engine required twins' => ?_
  have own := twins.owns.required required
  refine twins'.descriptor.bind fun d _ twins => (twins.canSubmit _).bind fun can _ twins => ?_
  split
  · exact twins.pure _
  · refine Local.get_bind (by rw [twins.pipeline])
      ((twins.onEngine own _).attempt.bind fun answer _ twins => ?_)
    cases answer with
    | ok _ =>
      exact (twins.update rfl twins.owns.engine).bind fun _ _ twins =>
        (twins.report _ _).bind fun _ _ twins => twins.pure _
    | error f =>
      dsimp only
      split
      · exact (twins.report _ _).bind fun _ _ twins => twins.pure _
      · exact twins.fail _

theorem Twins.wait (twins : A.Twins s t) (timeout : Value) :
    A.Local (Pipeline.wait timeout) s t := by
  refine Local.get_bind (by rw [twins.pipeline]) ?_
  dsimp only
  split
  · exact twins.pure _
  · split
    · exact twins.pure _
    · have asked : A.Local (do
          let engine ← Pipeline.requireEngine
          Site.onEngine engine (Backend.wait timeout)) s t :=
        twins.requireEngine.bind fun engine required twins' =>
          twins'.onEngine (twins.owns.required required) _
      refine asked.attempt.bind fun answer _ twins => ?_
      cases answer with
      | ok done => exact (twins.update rfl twins.owns.engine).bind fun _ _ twins => twins.pure _
      | error f => exact twins.giveUp f _

theorem Twins.isOver (twins : A.Twins s t) : A.Local Pipeline.isOver s t := by
  refine Local.get_bind (by rw [twins.pipeline]) ?_
  split
  · exact twins.pure _
  · exact twins.wait _

theorem Twins.decodeBatch (twins : A.Twins s t) : A.Local Pipeline.decodeBatch s t := by
  refine twins.requireEngine.bind fun engine required twins' => ?_
  have own := twins.owns.required required
  refine twins'.descriptor.bind fun d _ twins =>
    Local.get_bind (by rw [twins.pipeline, twins.bench.engines engine own]) ?_
  split
  · exact twins.fail _
  · exact (twins.onEngine own _).bind fun _ _ twins =>
      (twins.update rfl twins.owns.engine).bind fun _ _ twins => twins.still rfl rfl rfl rfl

theorem Twins.fetch (twins : A.Twins s t) : A.Local Pipeline.fetch s t := by
  refine Local.get_bind (by rw [twins.pipeline]) ?_
  dsimp only
  split
  · exact twins.descriptor.bind fun _ _ twins => (twins.report _ _).bind fun _ _ twins =>
      twins.pure _
  · refine twins.isOver.bind fun ended _ twins => ?_
    split
    · exact twins.pure _
    · refine twins.decodeBatch.attempt.bind fun decoded _ twins => ?_
      cases decoded with
      | error f => exact twins.giveUp f _
      | ok results =>
        exact (twins.update rfl twins.owns.engine).bind fun _ _ twins =>
          (twins.deliver results _).bind fun _ _ twins => twins.pure _

theorem fitting_keeps [Backend.Lawful ε] (e : ε) (l : Loading ε)
    (bound : l.descriptor.isBound = true) :
    (Pipeline.fitting e l).state.descriptor = l.descriptor := by
  rw [Pipeline.fitting]
  split
  · exact Descriptor.accept_of_bound bound (Act.ends_self Descriptor.accept (l.descriptor, l.network))
  · obtain ⟨_, _, fits, _⟩ := Backend.Lawful.load_fits
      (Act.ends_self (Backend.load Descriptor.accept) l)
    exact Descriptor.accept_of_bound bound fits

theorem Twins.loadEngine [Backend.Lawful ε] (twins : A.Twins s t) {engine : String}
    (own : A.engine engine) : A.Local (Pipeline.loadEngine engine) s t := by
  refine Local.get_bind (by rw [twins.pipeline, twins.bench.engines engine own]) ?_
  split
  · exact twins.fail _
  · rename_i e _
    exact (twins.onLoading own (fitting_keeps e)).bind fun _ _ twins =>
      twins.descriptor.bind fun d _ twins => (twins.onEngine own _).bind fun _ _ twins =>
      (twins.lift _).bind fun _ _ twins =>
      (twins.update rfl (by rintro _ ⟨⟩; exact own)).bind fun _ _ twins => twins.report _ _

def Commands (A : Share) : Pipeline.Command → Prop
  | .attach engine => A.engine engine
  | _ => True

/-- Every operation of a pipeline keeps to the share of the pipeline. -/
theorem Twins.command [Resizer] [Backend.Lawful ε] (twins : A.Twins s t) {c : Pipeline.Command}
    (own : A.Commands c) : A.Local c.act s t := by
  cases c with
  | attach engine => exact (twins.loadEngine own).bind fun _ _ twins => twins.pure _
  | enqueue frame location => exact twins.enqueue frame location
  | submit => exact twins.execute _ _ _ _
  | synchronize => exact twins.execute _ _ _ _
  | wait timeout => exact twins.wait timeout
  | fetch => exact twins.fetch
  | observe output =>
    have kinds := twins.bench.outputs output
    have kept (p : Pipeline) : (p.observe output).descriptor = p.descriptor ∧
        (p.observe output).engine = p.engine := by
      unfold Pipeline.observe
      split <;> exact ⟨rfl, rfl⟩
    refine Local.get_bind ?_ ?_
    · cases there : t.bench.outputs.get? output <;> cases here : s.bench.outputs.get? output <;>
        simp_all
    · split
      · exact twins.fail _
      · exact (twins.update (kept _).1 fun name attached =>
          twins.owns.engine name ((kept _).2 ▸ attached)).bind fun _ _ twins => twins.pure _

end

end Share

end FrameBatch
