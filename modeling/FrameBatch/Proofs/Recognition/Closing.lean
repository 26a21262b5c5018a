import FrameBatch.Proofs.Pipeline.Freeing
import FrameBatch.Proofs.Recognition.Timing

namespace FrameBatch

open Act (FreesNothing Tame)

namespace Stopwatch

@[grind ←]
theorem freesNothing_now : FreesNothing now := by
  unfold now
  grind

@[grind ←]
theorem freesNothing_update (f : Stopwatch → Stopwatch) : FreesNothing (update f) := by
  unfold update
  grind

theorem freesNothing_start : FreesNothing start := by
  unfold start
  grind

theorem freesNothing_stop : FreesNothing stop := by
  unfold stop
  grind

end Stopwatch

namespace Journal

@[grind ←]
theorem freesNothing_onFiles {α : Type} {x : Act Files α} (filing : FreesNothing x) :
    FreesNothing (onFiles x) :=
  filing.on_any

@[grind ←]
theorem freesNothing_update (f : Logger → Logger) : FreesNothing (update f) := by
  unfold update
  grind

@[grind ←]
theorem freesNothing_note (message : String) : FreesNothing (note message) := by
  unfold note
  grind

@[grind ←]
theorem freesNothing_addFile (given : Value) : FreesNothing (addFile given) := by
  have opens (path : String) : FreesNothing (Files.openAtEnd path) := by
    unfold Files.openAtEnd
    grind
  have makes (name : String) : FreesNothing (Files.makeFolder name) := by
    unfold Files.makeFolder
    grind
  have finds : FreesNothing (logPath given) := by
    unfold logPath
    grind
  unfold addFile
  grind

theorem freesNothing_setUp (o : Options) : FreesNothing (setUp o) := by
  unfold setUp
  split
  · grind
  · refine .bind (freesNothing_update _) fun _ => .bind (.lift _) fun level =>
      .bind (freesNothing_update _) fun _ => ?_
    dsimp only
    split
    · refine .bind (freesNothing_update _) fun _ => ?_
      grind
    · grind

end Journal

namespace Recognition

variable {α : Type} {there : Bool} {around : Surroundings} {words : List String}

def Places (there : Bool) (s : State) : Prop := s.site.Places engineName there

theorem freesNothing_of_tame {x : Act State α} (tame : ∀ there, Tame (Places there) x) :
    FreesNothing x where
  state _ := trivial
  trail {s} _ := (tame (s.site.bench.engines.get? engineName).isSome).trail rfl
  result _ _ _ := trivial

@[grind ←]
theorem tame_onSite {x : Act (Site Engine) α} (tame : Tame (Site.Places engineName there) x) :
    Tame (Places there) (onSite x) :=
  tame.on (fun _ before => before) fun _ _ _ after => after

theorem tame_onBench {x : Act (Bench Engine) α} (tame : Tame (Bench.Places engineName there) x) :
    Tame (Places there) (onBench x) :=
  tame_onSite (Site.tame_onBench tame)

theorem freesNothing_onBench {x : Act (Bench Engine) α} (changing : FreesNothing x) :
    FreesNothing (onBench x) := by
  unfold onBench onSite Site.onBench
  exact changing.on_any.on_any

@[grind ←]
theorem tame_onJournal {x : Act Journal α} (noting : FreesNothing x) :
    Tame (Places there) (onJournal x) :=
  noting.on (fun _ _ => trivial) fun _ _ before _ => before

@[grind ←]
theorem tame_aside {x : Act Unit α} (making : FreesNothing x) : Tame (Places there) (aside x) :=
  making.on (fun _ _ => trivial) fun _ _ before _ => before

@[grind ←]
theorem tame_say {I : State → Prop} (level : Level) (message : String) :
    Tame I (say level message) :=
  .log level logger message

theorem tame_wallTime {I : State → Prop} (kept : ∀ s wall, I s → I { s with wall }) :
    Tame I wallTime :=
  .get_bind fun s before => .bind (.set (kept s _ before)) fun _ => .pure _

theorem tame_around {I : State → Prop} {on : Act Timed Unit → Act State Unit}
    (measures : ∀ {x : Act Timed Unit}, FreesNothing x → Tame I (on x)) {x : Act State α}
    (tame : Tame I x) : Tame I (Stopwatch.around on x) :=
  .bind (measures Stopwatch.freesNothing_start) fun _ =>
    tame.andFinally (measures Stopwatch.freesNothing_stop)

theorem tame_onEnqueueing {x : Act Timed Unit} (timing : FreesNothing x) :
    Tame (Places there) (onEnqueueing x) :=
  timing.on (fun _ _ => trivial) fun _ _ before _ => before

theorem tame_onInference {x : Act Timed Unit} (timing : FreesNothing x) :
    Tame (Places there) (onInference x) :=
  timing.on (fun _ _ => trivial) fun _ _ before _ => before

theorem tame_configure : Tame (Places there) (configure words) := by
  refine .bind .get fun s => .bind (.lift _) fun settings =>
    .bind (tame_onJournal (Journal.freesNothing_setUp _)) fun _ => ?_
  grind

theorem tame_imagePaths (folder : Value) : Tame (Places there) (imagePaths folder) := by
  unfold imagePaths
  grind

theorem tame_runBatch (asynchronous : Bool) : Tame (Places there) (runBatch asynchronous) := by
  refine .bind (tame_around tame_onInference ?_) fun _ => .bind (tame_onBench
    (Bench.tame_onOutput outputName Output.freesNothing_handle)) fun _ => .pure _
  have running : Tame (Site.Places engineName there) (do
      if asynchronous then
        if ← Pipeline.submit then Pipeline.wait .null else return false
      else Pipeline.synchronize : Act (Site Engine) Bool) := by
    grind [Pipeline.tame_submit, Pipeline.tame_synchronize]
  refine .bind (tame_onSite running) fun submitted => ?_
  grind [Pipeline.tame_fetch]

section

variable [Resizer]

@[grind ←]
theorem tame_enqueue (img : Image) : Tame (Places there) (enqueue img) :=
  tame_around tame_onEnqueueing (tame_onSite (Pipeline.tame_enqueue _ _))

theorem tame_process (asynchronous : Bool) (t : Tally) (path : String) :
    Tame (Places there) (process asynchronous t path) := by
  unfold process
  grind [tame_runBatch]

theorem tame_processAll (asynchronous : Bool) (paths : List String) :
    Tame (Places there) (processAll asynchronous paths) := by
  refine .bind (.foldlM (tame_process asynchronous) _ _) fun t => ?_
  grind [tame_runBatch]

end

theorem tame_summarize {I : State → Prop} (t : Tally) (total : Binary) :
    Tame I (summarize t total) := by
  refine .bind .get fun s => .bind (tame_say _ _) fun _ => .bind (tame_say _ _) fun _ =>
    .bind (tame_say _ _) fun _ => .bind (.lift _) fun loading => .bind (tame_say _ _) fun _ =>
    .bind (.lift _) fun enqueueing => .bind (tame_say _ _) fun _ => .bind (.lift _) fun inference =>
    .bind (tame_say _ _) fun _ => .bind (tame_say _ _) fun _ => ?_
  dsimp only
  split <;> grind

/-! ### Closing -/

def Closed (s : State) : Prop :=
  ∃ e, s.site.bench.Holds engineName e ∧ Backend.isLoaded e = false

theorem closeEngine_of_places {s : State} (placed : Places true s) :
    freed (closeEngine s).trail = 1 ∧ Closed (closeEngine s).state := by
  obtain ⟨⟨key, e⟩, found⟩ := Option.isSome_iff_exists.1 placed
  have holds : s.site.bench.Holds engineName e := ⟨key, found⟩
  have told : (say .info "Closing engine and freeing resources").Ends s (.ok ()) s := ⟨rfl, rfl⟩
  have closing : onSite (Site.onEngine engineName Backend.close) s =
      ⟨((Backend.close : Act Engine Unit) e).result,
        { s with site := s.site.withEngine engineName ((Backend.close : Act Engine Unit) e).state },
        ((Backend.close : Act Engine Unit) e).trail⟩ := by
    simp only [onSite, Act.on, Site.onEngine, Site.onBench, Bench.onEngine, found,
      Site.withEngine, Bench.withEngine]
  constructor
  · rw [closeEngine, Act.freed_bind_of_ends told, closing, (tame_say _ _).freed_eq placed,
      Backend.Freeing.close]
  · have ends : closeEngine.Ends s _ _ :=
      (Act.ends_bind_of_ok told _).2 (Act.ends_self _ s)
    rw [ends.state, closing]
    exact ⟨_, holds.withEngine _, Backend.Freeing.unloaded_of_close e⟩

theorem finishing_of_places [Resizer] {settings : Settings} {time : Binary} {paths : List String}
    {s : State} (placed : Places true s) :
    freed (finishing settings time paths s).trail = 1 ∧
      Closed (finishing settings time paths s).state := by
  have placed₁ : Places true (processAll (asynchronous settings) paths s).state :=
    (tame_processAll _ _).keeps s placed
  obtain ⟨once, closed⟩ := closeEngine_of_places placed₁
  have rest {I : State → Prop} (kept : ∀ s wall, I s → I { s with wall }) (t : Tally) :
      Tame I (do
        let ended ← wallTime
        summarize t (Format.double.sub ended time)
        return 0 : Act State Nat) :=
    .bind (tame_wallTime kept) fun _ => .bind (tame_summarize _ _) fun _ => .pure _
  constructor
  · rw [finishing, Act.freed_bind_of_rest (rest fun _ _ _ => trivial), Act.freed_andFinally,
      (tame_processAll _ _).freed_eq placed, once]
  · rw [← Act.state_andFinally] at closed
    have ends := (finishing settings time paths).ends_self s
    rcases Act.ends_bind.1 ends with ⟨t, middle, processes, ends⟩ | ⟨_, _, processes⟩
    · rw [processes.state] at closed
      exact (rest (I := Closed) (fun _ _ given => given) t).keeps.ends ends closed
    · rwa [processes.state] at closed

/-! ### Opening -/

/-- Make the engine of the model, with a descriptor for it. Returns what is said of both once the
engine is attached. -/
def makingEngine (around : Surroundings) (s : Settings) :
    Act State (Descriptor × String × Engine × Network) := do
  let path ← modelPath (s.field "model")
  let files := (← Act.get).journal.files
  let kind ← EngineKind.ofPath files (.text path)
  let device := Device.forEngine (s.field "device") (.text kind.name) around.hasDevice
  let size ← Config.batchSize (s.field "batch_size")
  let d ← Descriptor.create (some .plate) (.text path) (.int size) none
  onBench (Act.modify fun b => { b with descriptors := b.descriptors.put modelName d })
  let made ← aside (around.runtime.makeEngine files (.text path) device (.kind kind))
  return (d, "Loaded " ++ d.category ++ " on " ++ device ++ " (" ++ kind.name ++ ")", made)

def placing (s : Settings) (d : Descriptor) (made : Engine × Network) : Act State Unit := do
  onBench (placeEngine made)
  let decoder ← (Decoder.forCategory d.category).on (fun _ => Decoder.builtin) fun _ st => st
  onSite (Site.update fun _ =>
    { descriptor := modelName, decoder, scale := s.field "scale_factor", maxBatch := d.maxBatch })

/-- All of opening a pipeline but for attaching the engine. -/
def preparing (around : Surroundings) (s : Settings) : Act State String := do
  let (d, text, made) ← makingEngine around s
  placing s d made
  return text

theorem openPipeline_eq (around : Surroundings) (s : Settings) :
    openPipeline around s = (do
      let text ← preparing around s
      onSite (Pipeline.loadEngine engineName)
      say .info text) := by
  simp only [openPipeline, preparing, makingEngine, placing, bind_assoc, pure_bind]

theorem tame_modelPath (given : Value) : Tame (Places there) (modelPath given) := by
  unfold modelPath
  grind

theorem tame_makingEngine (settings : Settings) :
    Tame (Places there) (makingEngine around settings) := by
  refine .bind (tame_modelPath _) fun path => .bind .get fun s => .bind (.lift _) fun kind =>
    .bind (.lift _) fun size => .bind (.lift _) fun d =>
    .bind (tame_onBench (.modify fun _ before => before)) fun _ => ?_
  grind [Runtime.freesNothing_makeEngine]

theorem ends_forCategory (category : String) (registry : Decoder.Registry) :
    ∃ decoder, (Decoder.forCategory category).Ends registry (.ok decoder) registry := by
  simp only [Decoder.forCategory, Act.ends_get_bind]
  cases registry.get? category with
  | some decoder => exact ⟨decoder, Act.ends_pure.2 ⟨rfl, rfl⟩⟩
  | none => exact ⟨.location, Act.ends_log_bind.2 (Act.ends_pure.2 ⟨rfl, rfl⟩)⟩

theorem ends_placing (settings : Settings) (d : Descriptor) (made : Engine × Network) (s : State) :
    ∃ s', (placing settings d made).Ends s (.ok ()) s' ∧ Places true s' := by
  have places : (onBench (placeEngine made)).Ends s (.ok ()) (onBench (placeEngine made) s).state :=
    ⟨rfl, rfl⟩
  obtain ⟨decoder, decodes⟩ := ends_forCategory d.category Decoder.builtin
  have decodes (s : State) : ((Decoder.forCategory d.category).on (fun _ => Decoder.builtin)
      fun _ st => st).Ends s (.ok decoder) s :=
    Act.ends_on.2 ⟨_, decodes, rfl⟩
  refine ⟨_, (Act.ends_bind_of_ok places _).2 ((Act.ends_bind_of_ok (decodes _) _).2
    (Act.ends_self _ _)), ?_⟩
  show (Entries.get? engineName (Entries.put engineName _ _)).isSome = true
  rw [Entries.get?_put_self, Option.isSome_some]

theorem preparing_cases {settings : Settings} {s s' : State} {r : Except Fault String}
    (vacant : Places false s) (h : (preparing around settings).Ends s r s') :
    (∃ f, r = .error f ∧ Places false s') ∨ ∃ text, r = .ok text ∧ Places true s' := by
  rcases Act.ends_bind.1 h with ⟨⟨d, text, made⟩, middle, _, returns⟩ | ⟨f, rfl, makes⟩
  · obtain ⟨s₁, places, placed⟩ := ends_placing settings d made middle
    rw [Act.ends_bind_of_ok places] at returns
    obtain ⟨rfl, rfl⟩ := Act.ends_pure.1 returns
    exact .inr ⟨text, rfl, placed⟩
  · exact .inl ⟨f, rfl, (tame_makingEngine settings).keeps.ends makes vacant⟩

theorem Measures.around_ends {on : Act Timed Unit → Act State Unit} (measures : Measures on)
    {x : Act State α} (keeps : x.Keeps Ticks) {s s' : State} (ticks : Ticks s)
    {r : Except Fault α} (h : (Stopwatch.around on x).Ends s r s') :
    ∃ s₁ s₂, Same s s₁ ∧ x.Ends s₁ r s₂ ∧ Same s₂ s' := by
  obtain ⟨s₁, starts, ticks₁⟩ := measures.ticks regular_start ticks
  obtain ⟨r₁, s₂, ends, stopped⟩ := Act.ends_andFinally.1 ((Act.ends_bind_of_ok starts _).1 h)
  obtain ⟨s₃, stops, _⟩ := measures.ticks regular_stop (keeps.ends ends ticks₁)
  rcases stopped with ⟨stops', rfl⟩ | ⟨_, failed, _⟩
  · exact ⟨s₁, s₂, measures.same starts, ends, measures.same stops'⟩
  · cases stops.result.symm.trans failed.result

theorem Same.trans {s s' s'' : State} (same : Same s s') (same' : Same s' s'') : Same s s'' :=
  ⟨same'.journal.trans same.journal, same'.site.trans same.site⟩

theorem Same.places {s s' : State} (same : Same s s') (before : Places there s) :
    Places there s' := by
  rw [Places, same.site]
  exact before

/-- An engine is made, and the pipeline for it refuses it. -/
inductive Refuses (around : Surroundings) (settings : Settings) (s : State) (f : Fault)
    (s' : State) : Prop
  | refused {placed : State} {text : String}
    (prepares : (preparing around settings).Ends s (.ok text) placed)
    (refuses : (onSite (Pipeline.loadEngine engineName)).Ends placed (.error f) s')

theorem ends_openPipeline {settings : Settings} {s s' : State} {r : Except Fault Unit}
    (vacant : Places false s) (h : (openPipeline around settings).Ends s r s') :
    (∃ f, r = .error f ∧ (Places false s' ∨ Refuses around settings s f s')) ∨
      r = .ok () ∧ Places true s' := by
  rw [openPipeline_eq] at h
  rcases Act.ends_bind.1 h with ⟨text, placed, prepares, attaches⟩ | ⟨f, rfl, prepares⟩
  · have places : Places true placed := by
      rcases preparing_cases vacant prepares with ⟨_, fault, _⟩ | ⟨_, _, places⟩
      · cases fault
      · exact places
    rcases Act.ends_bind.1 attaches with ⟨_, attached, loads, logs⟩ | ⟨f, rfl, loads⟩
    · obtain ⟨rfl, rfl⟩ := Act.ends_log.1 logs
      exact .inr ⟨rfl, (tame_onSite (Pipeline.tame_loadEngine engineName)).keeps.ends loads places⟩
    · exact .inl ⟨f, rfl, .inr (.refused prepares loads)⟩
  · rcases preparing_cases vacant prepares with ⟨_, _, none⟩ | ⟨_, fault, _⟩
    · exact .inl ⟨f, rfl, .inl none⟩
    · cases fault

theorem ends_registering {s s' : State} {begun : Binary} {r : Except Fault Binary}
    (h : (do
      onBench (Act.modify fun b =>
        { b with outputs := b.outputs.put outputName (.toLog outputName .info) })
      onSite (Site.update fun p => p.observe outputName)
      return begun : Act State Binary).Ends s r s') (places : Places there s) :
    r = .ok begun ∧ Places there s' := by
  have puts : (onBench (Act.modify fun b =>
      { b with outputs := b.outputs.put outputName (.toLog outputName .info) })).Ends s (.ok ())
        { s with site := { s.site with bench := { s.site.bench with
          outputs := s.site.bench.outputs.put outputName (.toLog outputName .info) } } } :=
    ⟨rfl, rfl⟩
  rw [Act.ends_bind_of_ok puts] at h
  exact ⟨h.result.symm.trans rfl, h.state ▸ places⟩

theorem opening_cases {settings : Settings} {s s' : State} {r : Except Fault Binary}
    (ticks : Ticks s) (vacant : Places false s) (h : (opening around settings).Ends s r s') :
    (∃ f, r = .error f ∧ (Places false s' ∨ ∃ s₁ s₂, Same s s₁ ∧
        Refuses around settings s₁ f s₂ ∧ Same s₂ s')) ∨
      ∃ time, r = .ok time ∧ Places true s' := by
  rw [opening] at h
  rcases Act.ends_bind.1 h with ⟨text, s₀, texts, opens⟩ | ⟨f, rfl, texts⟩
  · obtain ⟨_, rfl⟩ := Act.ends_lift.1 texts
    rw [ends_say_bind] at opens
    obtain ⟨time, s₁, clocks, same, ticks⟩ : ∃ time s₁, wallTime.Ends s₀ (.ok time) s₁ ∧
        Same s₀ s₁ ∧ Ticks s₁ :=
      ⟨_, _, wallTime.ends_self s₀, ⟨rfl, rfl⟩, keeps_ticks_wallTime s₀ ticks⟩
    rw [Act.ends_bind_of_ok clocks] at opens
    have measured {r : Except Fault Unit} {s₂ : State}
        (h : (Stopwatch.around onLoading (openPipeline around settings)).Ends s₁ r s₂) :
        ∃ s₃ s₄, Same s₀ s₃ ∧ (openPipeline around settings).Ends s₃ r s₄ ∧ Same s₄ s₂ := by
      obtain ⟨s₃, s₄, before, opens, after⟩ := measures_onLoading.around_ends
        (keeps_ticks_openPipeline around settings) ticks h
      exact ⟨s₃, s₄, same.trans before, opens, after⟩
    rcases Act.ends_bind.1 opens with ⟨_, s₂, loads, registers⟩ | ⟨f, rfl, loads⟩
    · obtain ⟨s₃, s₄, before, opens, after⟩ := measured loads
      rcases ends_openPipeline (before.places vacant) opens with ⟨_, fault, _⟩ | ⟨_, places⟩
      · cases fault
      · exact .inr ⟨time, ends_registering registers (after.places places)⟩
    · obtain ⟨s₃, s₄, before, opens, after⟩ := measured loads
      rcases ends_openPipeline (before.places vacant) opens with ⟨_, fault, ended⟩ | ⟨fault, _⟩
      · cases fault
        exact .inl ⟨f, rfl, ended.imp after.places fun refuses =>
          ⟨s₃, s₄, before, refuses, after⟩⟩
      · cases fault
  · obtain ⟨_, rfl⟩ := Act.ends_lift.1 texts
    exact .inl ⟨f, rfl, .inl vacant⟩

theorem freesNothing_placing (settings : Settings) (d : Descriptor) (made : Engine × Network) :
    FreesNothing (placing settings d made) := by
  have registered : FreesNothing (Decoder.forCategory d.category) := by
    unfold Decoder.forCategory
    grind
  have places : FreesNothing (placeEngine made) := .modify_any _
  exact .bind (freesNothing_onBench places) fun _ => .bind registered.on_any fun _ =>
    Tame.on_any (.modify_any _)

theorem freesNothing_preparing (settings : Settings) : FreesNothing (preparing around settings) :=
  .bind (freesNothing_of_tame fun _ => tame_makingEngine settings) fun _ =>
    .bind (freesNothing_placing _ _ _) fun _ => .pure _

theorem freesNothing_opening (settings : Settings) : FreesNothing (opening around settings) := by
  have loads : FreesNothing (onSite (Pipeline.loadEngine engineName)) :=
    freesNothing_of_tame fun _ => tame_onSite (Pipeline.tame_loadEngine engineName)
  have opens : FreesNothing (openPipeline around settings) := by
    rw [openPipeline_eq]
    exact .bind (freesNothing_preparing settings) fun _ => .bind loads fun _ => tame_say _ _
  have registers : FreesNothing (onBench (Act.modify fun b =>
      { b with outputs := b.outputs.put outputName (.toLog outputName .info) })) :=
    freesNothing_onBench (.modify_any _)
  exact .bind (.lift _) fun _ => .bind (tame_say _ _) fun _ =>
    .bind (tame_wallTime fun _ _ _ => trivial) fun _ =>
    .bind (tame_around (fun timing => timing.on_any) opens) fun _ => .bind registers fun _ =>
    .bind (.on_any (.modify_any _)) fun _ => .pure _

/-! ### Recognitions that make an engine -/

/-- How a recognition ends that made an engine and never began to read pictures. -/
inductive Stranded (around : Surroundings) (words : List String) (start : State) (f : Fault)
    (last : State) : Prop
  | refused {settings : Settings} {configured s s' : State}
    (configures : (configure words).Ends start (.ok (some settings)) configured)
    (opens : (opening around settings).Ends configured (.error f) last)
    (before : Same configured s) (refuses : Refuses around settings s f s') (after : Same s' last)
  | unlisted {settings : Settings} {configured opened : State} {time : Binary}
    (configures : (configure words).Ends start (.ok (some settings)) configured)
    (opens : (opening around settings).Ends configured (.ok time) opened)
    (lists : (imagePaths (settings.field "img_path")).Ends opened (.error f) last)

variable {start last : State} {f : Fault}

theorem Stranded.not_begun {settings : Settings} {time : Binary} {paths : List String}
    {opened : State} (stranded : Stranded around words start f last) :
    ¬ Begun around words start settings time paths opened := by
  rintro ⟨configures, opens, lists⟩
  cases stranded with
  | refused configures' opens' _ _ _ =>
    cases configures.1.symm.trans configures'.1
    cases configures.2.symm.trans configures'.2
    cases opens.1.symm.trans opens'.1
  | unlisted configures' opens' lists' =>
    cases configures.1.symm.trans configures'.1
    cases configures.2.symm.trans configures'.2
    cases opens.2.symm.trans opens'.2
    cases lists.1.symm.trans lists'.1

section

variable [Resizer]

theorem freed_run_of_configures {settings : Settings} {configured : State}
    (configures : (configure words).Ends start (.ok (some settings)) configured) :
    freed (run around words start).trail =
      freed ((do
        let begun ← opening around settings
        let paths ← imagePaths (settings.field "img_path")
        finishing settings begun paths : Act State Nat) configured).trail := by
  have configuring : FreesNothing (configure words) := freesNothing_of_tame fun _ => tame_configure
  rw [run_eq, Act.freed_bind_of_ends configures, configuring.freed_eq trivial, Nat.zero_add]

theorem Begun.freed_run {settings : Settings} {time : Binary} {paths : List String}
    {opened : State} (begun : Begun around words start settings time paths opened)
    (placed : Places true opened) :
    freed (run around words start).trail = 1 ∧ Closed (run around words start).state := by
  obtain ⟨once, closed⟩ : freed (finishing settings time paths opened).trail = 1 ∧
      Closed (finishing settings time paths opened).state := finishing_of_places placed
  have finishes := begun.ends_run.2 ((finishing settings time paths).ends_self opened)
  obtain ⟨configures, opens, lists⟩ := begun
  have listing : FreesNothing (imagePaths (settings.field "img_path")) :=
    freesNothing_of_tame fun _ => tame_imagePaths _
  constructor
  · rw [freed_run_of_configures configures, Act.freed_bind_of_ends opens,
      (freesNothing_opening settings).freed_eq trivial, Act.freed_bind_of_ends lists,
      listing.freed_eq trivial, once]
  · rwa [finishes.state]

theorem Stranded.freed_run (stranded : Stranded around words start f last) :
    freed (run around words start).trail = 0 := by
  cases stranded with
  | refused configures opens _ _ _ =>
    rw [freed_run_of_configures configures, Act.freed_bind_of_error opens,
      (freesNothing_opening _).freed_eq trivial]
  | unlisted configures opens lists =>
    rw [freed_run_of_configures configures, Act.freed_bind_of_ends opens,
      (freesNothing_opening _).freed_eq trivial, Act.freed_bind_of_error lists,
      (freesNothing_of_tame fun _ => tame_imagePaths _).freed_eq trivial]

/-- A run that makes an engine closes it once if it begins to read pictures, and then gives up the
request of the engine. Otherwise it fails, since the pipeline refuses the engine or the pictures
cannot be listed, and never closes the engine. -/
theorem closed_once_or_stranded {journal : Journal} {clock wall : Clock}
    (made : Places true (run around words (.start around journal clock wall)).state) :
    let start := State.start around journal clock wall
    let o := run around words start
    (∃ settings time paths opened, Begun around words start settings time paths opened) ∧
        freed o.trail = 1 ∧ Closed o.state ∨
      ∃ f, o.result = .error f ∧ Stranded around words start f o.state ∧ freed o.trail = 0 := by
  intro start o
  have vacant : Places false start := rfl
  have absent {s : State} (vacant : Places false s) (same : o.state = s) : False := by
    have made : Places true s := same ▸ made
    cases (made : (s.site.bench.engines.get? engineName).isSome = true).symm.trans vacant
  have strands {f : Fault} (stranded : Stranded around words start f o.state)
      (fails : o.result = .error f) : ∃ f, o.result = .error f ∧
        Stranded around words start f o.state ∧ freed o.trail = 0 :=
    ⟨f, fails, stranded, stranded.freed_run⟩
  have configuring : (configure words).Keeps (Places false) := tame_configure.keeps
  have ends : (run around words).Ends start o.result o.state := ⟨rfl, rfl⟩
  rw [run_eq] at ends
  rcases Act.ends_bind.1 ends with ⟨given, configured, configures, ends⟩ | ⟨f, fails, configures⟩
  · have unplaced := configuring.ends configures vacant
    cases given with
    | none => exact (absent unplaced (Act.ends_pure.1 ends).2).elim
    | some settings =>
      have ticks := (keeps_ticks_configure words).ends configures (ticks_start _ _ _ _)
      rcases Act.ends_bind.1 ends with ⟨time, opened, opens, ends⟩ | ⟨f, fails, opens⟩
      · have placed : Places true opened := by
          rcases opening_cases ticks unplaced opens with ⟨_, fault, _⟩ | ⟨_, _, placed⟩
          · cases fault
          · exact placed
        rcases Act.ends_bind.1 ends with ⟨paths, listed, lists, _⟩ | ⟨f, fails, lists⟩
        · obtain ⟨rfl, _⟩ := imagePaths_cases lists
          have begun : Begun around words start settings time paths listed :=
            .begun configures opens lists
          exact .inl ⟨⟨settings, time, paths, listed, begun⟩, begun.freed_run placed⟩
        · exact .inr (strands (.unlisted configures opens lists) fails)
      · rcases opening_cases ticks unplaced opens with ⟨_, fault, ended⟩ | ⟨_, fault, _⟩
        · cases fault
          rcases ended with unplaced | ⟨s, s', before, refuses, after⟩
          · exact (absent unplaced rfl).elim
          · exact .inr (strands (.refused configures opens before refuses after) fails)
        · cases fault
  · exact (absent (configuring.ends configures vacant) rfl).elim

end

instance decidableIsError {ε α : Type} : (r : Except ε α) → Decidable (∃ f, r = .error f)
  | .error f => .isTrue ⟨f, rfl⟩
  | .ok _ => .isFalse nofun

instance (there : Bool) (s : State) : Decidable (Places there s) := by
  unfold Places Site.Places Bench.Places
  infer_instance

/-- The plate of the first picture is read, and the output for the second one is no number. -/
def brokenSecond : List RunPlan := [Pipeline.yielding 1 (.ofInt 1), Pipeline.yielding 1 .nan]

def brokenSecondStart : State :=
  plateStart 1 [("a.png", smallPicture 1), ("b.png", smallPicture 2)] brokenSecond

set_option maxRecDepth 100000 in
theorem begun_brokenSecond : ∃ settings time opened,
    Begun (plateSurroundings 1 brokenSecond) plateWords brokenSecondStart settings time
      ["plates/a.png", "plates/b.png"] opened ∧
    let o := finishing settings time ["plates/a.png", "plates/b.png"] opened
    (∃ f, o.result = .error f) ∧ Places true o.state ∧ o.state.site.pipeline.results.length = 1 :=
  begun_of_any "plates" ["a.png", "b.png"] ["a.png", "b.png"] (by decide +kernel)
    (by decide +kernel)

/-- A run that fails while it reads pictures closes the engine once. -/
theorem closed_after_fault :
    let o := run (plateSurroundings 1 brokenSecond) plateWords brokenSecondStart
    (∃ f, o.result = .error f) ∧ o.state.site.pipeline.results.length = 1 ∧
      freed o.trail = 1 ∧ Closed o.state := by
  intro o
  obtain ⟨settings, time, opened, begun, fails, made, read⟩ := begun_brokenSecond
  have ends := begun.ends_run.2 (Act.ends_self _ opened)
  rw [← ends.result] at fails
  rw [← ends.state] at made read
  rcases closed_once_or_stranded made with ⟨_, once, closed⟩ | ⟨_, _, stranded, _⟩
  · exact ⟨fails, read, once, closed⟩
  · exact absurd begun stranded.not_begun

set_option maxRecDepth 100000 in
/-- Without the folder of the pictures, the engine was made and is not closed. -/
theorem unclosed_without_folder :
    let o := run (plateSurroundings 1 []) ["--model", "m.onnx", "--img_path", "nowhere"]
      (plateStart 1 [] [])
    Places true o.state ∧ freed o.trail = 0 ∧ ∃ f, o.result = .error f := by
  decide +kernel

end Recognition

end FrameBatch
