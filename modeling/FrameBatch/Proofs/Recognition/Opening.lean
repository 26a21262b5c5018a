import FrameBatch.Proofs.Files.Images
import FrameBatch.Proofs.Pipeline.Capacity
import FrameBatch.Proofs.Recognition.Going

namespace FrameBatch.Recognition

open Pipeline (Ready Sound Roomy attach_cases fitting_cases roomy_of_checkInput)
open Backend (Uses Compliant)

/-- Read a command line and set up the journal. There are no settings if a path is missing. -/
def configure (words : List String) : Act State (Option Settings) := do
  let s ← Settings.ofWords (← Act.get).journal.files words
  onJournal (Journal.setUp
    { enabled := true, level := s.field "log_level", toFile := (s.field "log_to_file").isTruthy })
  if !(← s.ask "img_path").isTruthy then
    say .error "img_path is required (via --img_path or config)"
    return none
  if !(← s.ask "model").isTruthy then
    say .error "model is required (via --model or config)"
    return none
  return some s

/-- Make the pipeline and register its output. Returns when that began. -/
def opening (around : Surroundings) (s : Settings) : Act State Binary := do
  let text ← s.text
  say .info ("Final config: " ++ text)
  let begun ← wallTime
  Stopwatch.around onLoading (openPipeline around s)
  onBench (Act.modify fun b =>
    { b with outputs := b.outputs.put outputName (.toLog outputName .info) })
  onSite (Site.update fun p => p.observe outputName)
  return begun

def asynchronous (settings : Settings) : Bool := (settings.field "async_mode").isTruthy

def finishing [Resizer] (settings : Settings) (begun : Binary)
    (paths : List String) : Act State Nat := do
  let t ← (processAll (asynchronous settings) paths).andFinally closeEngine
  let ended ← wallTime
  summarize t (Format.double.sub ended begun)
  return 0

theorem run_eq [Resizer] (around : Surroundings) (words : List String) :
    run around words = (do
      match ← configure words with
      | none => return 1
      | some s =>
        let begun ← opening around s
        let paths ← imagePaths (s.field "img_path")
        finishing s begun paths) := by
  simp only [run, configure, opening, finishing, recognize, asynchronous, bind_assoc, pure_bind]
  congr 1
  funext s
  congr 1
  funext settings
  congr 1
  funext _
  congr 1
  funext given
  split
  · simp only [bind_assoc, pure_bind]
  · simp only [bind_assoc]
    congr 1
    funext model
    split <;> simp only [bind_assoc, pure_bind]

/-- The recognition of a command line has begun: the pipeline is open, and the pictures are
listed. -/
inductive Begun (around : Surroundings) (words : List String) (start : State)
    (settings : Settings) (begun : Binary) (paths : List String) (opened : State) : Prop
  | begun {configured : State} (configures : (configure words).Ends start (.ok (some settings))
      configured) (opens : (opening around settings).Ends configured (.ok begun) opened)
    (lists : (imagePaths (settings.field "img_path")).Ends opened (.ok paths) opened)

theorem imagePaths_cases {folder : Value} {paths : List String} {s s' : State}
    (h : (imagePaths folder).Ends s (.ok paths) s') :
    s' = s ∧ ∃ path, folder = .text path ∧ s.journal.files.images path = .ok paths := by
  rw [imagePaths, Act.ends_get_bind] at h
  split at h
  · rename_i path
    obtain ⟨found, middle, lists, rest⟩ := Act.ends_bind_ok.1 h
    obtain ⟨images, rfl⟩ := Act.ends_lift.1 lists
    rw [ends_say_bind] at rest
    obtain ⟨same, rfl⟩ := Act.ends_pure.1 rest
    cases same
    exact ⟨rfl, path, rfl, images.symm⟩
  · obtain ⟨fault, _⟩ := Act.ends_lift.1 h
    cases fault

theorem ends_imagePaths {folder : String} {paths : List String} {s : State}
    (lists : s.journal.files.images folder = .ok paths) :
    (imagePaths (.text folder)).Ends s (.ok paths) s := by
  rw [imagePaths, Act.ends_get_bind]
  exact (Act.ends_bind_of_ok (Act.ends_lift.2 ⟨lists.symm, rfl⟩) _).2
    (ends_say_bind.2 (Act.ends_pure.2 ⟨rfl, rfl⟩))

section

variable [Resizer]

theorem Begun.ends_run {around : Surroundings} {words : List String} {start opened last : State}
    {settings : Settings} {time : Binary} {paths : List String}
    (begun : Begun around words start settings time paths opened) {r : Except Fault Nat} :
    (run around words).Ends start r last ↔ (finishing settings time paths).Ends opened r last := by
  obtain ⟨configures, opens, lists⟩ := begun
  rw [run_eq]
  simp only [Act.ends_bind_of_ok configures, Act.ends_bind_of_ok opens, Act.ends_bind_of_ok lists]

theorem Begun.result {around : Surroundings} {words : List String} {start opened : State}
    {settings : Settings} {time : Binary} {paths : List String}
    (begun : Begun around words start settings time paths opened) :
    (run around words start).result = (finishing settings time paths opened).result :=
  (begun.ends_run.2 ((finishing settings time paths).ends_self opened)).result

theorem run_iff {around : Surroundings} {words : List String} {start last : State} :
    (run around words).Ends start (.ok 0) last ↔
      ∃ settings begun paths opened, Begun around words start settings begun paths opened ∧
        (finishing settings begun paths).Ends opened (.ok 0) last := by
  constructor
  · intro h
    rw [run_eq] at h
    obtain ⟨given, configured, configures, h⟩ := Act.ends_bind_ok.1 h
    cases given with
    | none =>
      obtain ⟨same, _⟩ := Act.ends_pure.1 h
      cases same
    | some settings =>
      obtain ⟨begun, opened, opens, h⟩ := Act.ends_bind_ok.1 h
      obtain ⟨paths, listed, lists, rest⟩ := Act.ends_bind_ok.1 h
      obtain ⟨rfl, _⟩ := imagePaths_cases lists
      exact ⟨settings, begun, paths, listed, .begun configures opens lists, rest⟩
  · rintro ⟨settings, time, paths, opened, begun, h⟩
    exact begun.ends_run.2 h

end

theorem keeps_modelPath (given : Value) (s : State) : (modelPath given).Keeps (· = s) := by
  refine Act.keeps_bind (Act.keeps_get _) fun now => ?_
  split
  · have rest {text : String} : (do
        let path := now.journal.files.absolute text
        if !now.journal.files.exists? path then
          say .error ("Model file not found: " ++ path)
          Act.fail (.refused (.modelMissing path))
        return path : Act State String).Keeps (· = s) := by
      dsimp only
      split
      · exact Act.keeps_bind (Act.keeps_log _ _ _ _) fun _ =>
          Act.keeps_bind (Act.keeps_fail _ _) fun _ => Act.keeps_pure _ _
      · exact Act.keeps_pure _ _
    split
    · exact Act.keeps_bind (Act.keeps_lift _ _) fun _ => rest
    · exact rest
  · exact Act.keeps_lift _ _

theorem create_cases {location : Value} {size : Int} {d : Descriptor}
    (h : Descriptor.create (some .plate) location (.int size) none = .ok d) :
    d.family = .plate ∧ d.category = Family.plate.category ∧ d.maxBatch = size := by
  rw [Descriptor.create] at h
  obtain ⟨below, _, h⟩ := bind_ok h
  split at h
  · obtain ⟨_, fault, _⟩ := bind_ok h
    cases fault
  · obtain ⟨size', same, h⟩ := bind_ok h
    cases same
    cases h
    exact ⟨rfl, rfl, rfl⟩

theorem batchSize_positive {given : Value} {size : Int} (h : Config.batchSize given = .ok size) :
    1 ≤ size := by
  unfold Config.batchSize at h
  split at h
  · cases h
    decide
  · obtain ⟨whole, _, h⟩ := bind_ok h
    split at h
    · cases h
    · cases h
      omega

def openedPipeline (settings : Settings) (size : Int) : Pipeline :=
  let made : Pipeline :=
    { descriptor := modelName, decoder := .plate, scale := settings.field "scale_factor",
      maxBatch := size }
  made.withEngine engineName

@[simp] theorem stage_openedPipeline (settings : Settings) (size : Int) :
    (openedPipeline settings size).stage = .idle := rfl

@[simp] theorem enqueued_openedPipeline (settings : Settings) (size : Int) :
    (openedPipeline settings size).enqueued = 0 := rfl

theorem sound_openedPipeline (settings : Settings) {size : Int} (room : 1 ≤ size) :
    Sound (openedPipeline settings size) (openedPipeline settings size) where
  bounded := by
    show (0 : Int) ≤ size
    omega
  matched := rfl
  empty := by simp
  filled := by simp
  running := nofun
  room := room
  capacity_eq := rfl
  decoder_eq := rfl
  scale_eq := rfl
  builtin := .inr rfl

/-- A pipeline that was attached to the engine of the model. -/
structure Open (settings : Settings) (d : Descriptor) (e : Engine) (size : Int)
    (site : Site Engine) : Prop where
  sized : Config.batchSize (settings.field "batch_size") = .ok size
  family : d.family = .plate
  pipeline : site.pipeline = openedPipeline settings size
  ready : Ready site engineName d e
  holds : ∃ t, (Backend.tensor d.input).Ends e (.ok t) e ∧ Roomy size t.shape

theorem decoder_of_plates {registered : Decoder} {s s' : State}
    (h : ((Decoder.forCategory Family.plate.category).on (fun _ => Decoder.builtin)
      fun _ st => st).Ends s (.ok registered) s') : registered = .plate ∧ s' = s := by
  obtain ⟨registry, found, rfl⟩ := Act.ends_on.1 h
  have plates : Decoder.builtin.get? Family.plate.category = some .plate := by decide
  rw [Decoder.forCategory, Act.ends_get_bind, plates] at found
  exact ⟨Except.ok.inj (Act.ends_pure.1 found).1, rfl⟩

theorem open_of_attach {settings : Settings} {d : Descriptor} {size : Int}
    {site site' : Site Engine} (sized : Config.batchSize (settings.field "batch_size") = .ok size)
    (family : d.family = .plate)
    (described : site.bench.descriptors.get? modelName = some d)
    (made : site.pipeline = { descriptor := modelName, decoder := .plate,
                              scale := settings.field "scale_factor", maxBatch := size })
    (attaches : (Pipeline.loadEngine engineName).Ends site (.ok ()) site') :
    ∃ d e, Open settings d e size site' := by
  have described' : site.descriptor? = some d := by rw [Site.descriptor?, made, described]
  have attached := attach_cases attaches
  generalize answer : (Except.ok () : Except Fault Unit) = r at attached
  cases attached with
  | missing _ => cases answer
  | undescribed _ _ => cases answer
  | unfit _ _ _ => cases answer
  | unread _ _ _ _ => cases answer
  | rejected _ _ _ _ _ => cases answer
  | @attached e e' d₀ key l t found described₀ fits reads accepts =>
    cases described'.symm.trans described₀
    obtain ⟨grows, _, loads⟩ := fitting_cases fits
    obtain ⟨loaded, _⟩ := loads rfl
    obtain rfl := Compliant.eq_of_read reads
    have held : site.bench.Holds engineName e := ⟨key, found⟩
    rw [made] at accepts
    refine ⟨l.descriptor, l.engine, sized, grows.family.trans family, by rw [made]; rfl,
      ⟨rfl, ?_, ?_, loaded⟩, t, reads, roomy_of_checkInput accepts⟩
    · exact Site.descriptor?_withLoading described₀ engineName key l
    · exact (Site.holds_withLoading held key l).withEngine l.engine

theorem openPipeline_cases {around : Surroundings} {settings : Settings} {s s' : State}
    (h : (openPipeline around settings).Ends s (.ok ()) s') :
    ∃ d e size, Open settings d e size s'.site := by
  rw [openPipeline] at h
  obtain ⟨path, s₁, finds, h⟩ := Act.ends_bind_ok.1 h
  rw [Act.ends_get_bind] at h
  obtain ⟨kind, s₂, kinds, h⟩ := Act.ends_bind_ok.1 h
  obtain ⟨size, s₃, sizes, h⟩ := Act.ends_bind_ok.1 h
  have sized := (Act.ends_lift.1 sizes).1.symm
  obtain ⟨d, s₄, creates, h⟩ := Act.ends_bind_ok.1 h
  obtain ⟨family, category, capacity⟩ := create_cases (Act.ends_lift.1 creates).1.symm
  obtain ⟨_, s₅, describes, h⟩ := Act.ends_bind_ok.1 h
  have described : s₅.site.bench.descriptors.get? modelName = some d := by
    obtain ⟨bench, puts, rfl⟩ := ends_onBench.1 describes
    obtain ⟨_, rfl⟩ := Act.ends_modify.1 puts
    exact Entries.get?_put_self _ _ _
  obtain ⟨made, s₆, makes, h⟩ := Act.ends_bind_ok.1 h
  obtain ⟨_, _, same₆⟩ := Act.ends_on.1 makes
  obtain ⟨_, s₇, places, h⟩ := Act.ends_bind_ok.1 h
  have described₇ : s₇.site.bench.descriptors.get? modelName = some d := by
    obtain ⟨bench, puts, rfl⟩ := ends_onBench.1 places
    obtain ⟨_, rfl⟩ := Act.ends_modify.1 puts
    rw [same₆]
    exact described
  obtain ⟨decoder, s₈, decodes, h⟩ := Act.ends_bind_ok.1 h
  rw [category] at decodes
  obtain ⟨plates, same₈⟩ := decoder_of_plates decodes
  obtain ⟨_, s₉, updates, h⟩ := Act.ends_bind_ok.1 h
  obtain ⟨site₉, updates, same₉⟩ := ends_onSite.1 updates
  obtain ⟨_, updated⟩ := Site.ends_update.1 updates
  obtain ⟨_, s₁₀, loads, logs⟩ := Act.ends_bind_ok.1 h
  obtain ⟨site, attaches, same₁₀⟩ := ends_onSite.1 loads
  obtain ⟨_, same⟩ := Act.ends_log.1 logs
  have described₉ : site₉.bench.descriptors.get? modelName = some d := by
    rw [updated, same₈]
    exact described₇
  rw [same₉] at attaches
  rw [same, same₁₀]
  obtain ⟨d', e, opened⟩ := open_of_attach sized family described₉
    (by rw [updated, plates, capacity]) attaches
  exact ⟨d', e, size, opened⟩

/-- The state in which a recognition turns to its pictures. -/
structure Opened (settings : Settings) (d : Descriptor) (e : Engine) (size : Int)
    (opened : State) : Prop where
  sized : Config.batchSize (settings.field "batch_size") = .ok size
  family : d.family = .plate
  pipeline : opened.site.pipeline = (openedPipeline settings size).observe outputName
  ready : Ready opened.site engineName d e
  holds : ∃ t, (Backend.tensor d.input).Ends e (.ok t) e ∧ Roomy size t.shape
  going : Going opened d e 0 opened

theorem Begun.opened {around : Surroundings} {words : List String} {start opened : State}
    {settings : Settings} {time : Binary} {paths : List String}
    (begun : Begun around words start settings time paths opened) :
    ∃ d e size, Opened settings d e size opened := by
  obtain ⟨_, opens, _⟩ := begun
  obtain ⟨text, s₁, _, opens⟩ := Act.ends_bind_ok.1 opens
  rw [ends_say_bind] at opens
  obtain ⟨time', s₂, _, opens⟩ := Act.ends_bind_ok.1 opens
  obtain ⟨_, s₃, loads, opens⟩ := Act.ends_bind_ok.1 opens
  obtain ⟨s₄, s₅, _, pipeline, same⟩ := measures_onLoading.around_cases loads
  obtain ⟨d, e, size, opened₃⟩ := openPipeline_cases pipeline
  rw [← same.site] at opened₃
  obtain ⟨_, s₆, puts, opens⟩ := Act.ends_bind_ok.1 opens
  obtain ⟨bench, puts, same₆⟩ := ends_onBench.1 puts
  obtain ⟨_, put⟩ := Act.ends_modify.1 puts
  obtain ⟨_, s₇, observes, opens⟩ := Act.ends_bind_ok.1 opens
  obtain ⟨site, observes, same₇⟩ := ends_onSite.1 observes
  obtain ⟨_, observed⟩ := Site.ends_update.1 observes
  obtain ⟨_, last⟩ := Act.ends_pure.1 opens
  have pipeline : opened.site.pipeline = (openedPipeline settings size).observe outputName := by
    rw [last, same₇, observed, same₆]
    exact congrArg (·.observe outputName) opened₃.pipeline
  have bench : opened.site.bench = { s₃.site.bench with
      outputs := s₃.site.bench.outputs.put outputName (.toLog outputName .info) } := by
    rw [last, same₇, observed, same₆]
    exact put
  have sound := sound_openedPipeline settings (batchSize_positive opened₃.sized)
  have observed : (openedPipeline settings size).observe outputName =
      { openedPipeline settings size with outputs := [outputName] } := rfl
  have ready : Ready opened.site engineName d e := by
    refine opened₃.ready.congr ?_ ?_ ?_
    · rw [pipeline, opened₃.pipeline, observed]
    · rw [Site.descriptor?, Site.descriptor?, pipeline, bench, opened₃.pipeline, observed]
    · rw [bench]
  refine ⟨d, e, size, opened₃.sized, opened₃.family, pipeline, ready, opened₃.holds, ⟨rfl, ?_, ?_,
    ⟨e, ready, .refl⟩, ?_, ?_⟩⟩
  · rw [pipeline, observed]
    exact { sound with }
  · rw [pipeline, observed]
    simp
  · rw [pipeline, observed]
  · rw [bench]
    exact Entries.get?_put_self _ _ _

def beginning? (around : Surroundings) (words : List String) (start : State) :
    Option (Settings × Binary × State) :=
  match configure words start with
  | ⟨.ok (some settings), configured, _⟩ =>
    match opening around settings configured with
    | ⟨.ok begun, opened, _⟩ => some (settings, begun, opened)
    | _ => none
  | _ => none

theorem begun_of_beginning? {around : Surroundings} {words : List String} {start opened : State}
    {settings : Settings} {time : Binary} {folder : String} {paths : List String}
    (begins : beginning? around words start = some (settings, time, opened))
    (given : settings.field "img_path" = .text folder)
    (lists : opened.journal.files.images folder = .ok paths) :
    Begun around words start settings time paths opened := by
  rw [beginning?] at begins
  split at begins
  · rename_i _ configured _ configured'
    split at begins
    · rename_i _ _ opened'
      cases begins
      have configures : (configure words).Ends start (.ok (some settings)) configured :=
        ⟨by rw [configured'], by rw [configured']⟩
      have opens : (opening around settings).Ends configured (.ok time) opened :=
        ⟨by rw [opened'], by rw [opened']⟩
      exact .begun configures opens (given ▸ ends_imagePaths lists)
    · cases begins
  · cases begins

instance decidableEqText (text : String) : (v : Value) → Decidable (v = .text text)
  | .text t => decidable_of_iff (t = text) ⟨congrArg Value.text, Value.text.inj⟩
  | .null | .bool _ | .int _ | .float _ | .date _ | .moment _ | .engine _ | .list _ | .tuple _
  | .rect .. | .map _ | .record _ => .isFalse nofun

/-- A recognition that is seen to begin, and a fact that is seen of what it begins with. -/
theorem begun_of_any {around : Surroundings} {words : List String} {start : State}
    {paths : List String} {fact : Settings → Binary → State → Prop}
    [∀ settings time opened, Decidable (fact settings time opened)] (folder : String)
    (names sorted : List String)
    (begins : (beginning? around words start).any (fun (settings, time, opened) => decide
      (settings.field "img_path" = .text folder ∧
        opened.journal.files.list (Path.normal folder) = .ok names ∧
          fact settings time opened)) = true)
    (sorts : sorted.Perm (names.filter Files.isImageName) ∧ sorted.Pairwise (· ≤ ·) ∧
      paths = sorted.map (Path.join (Path.normal folder))) :
    ∃ settings time opened, Begun around words start settings time paths opened ∧
      fact settings time opened := by
  rw [Option.any_eq_true] at begins
  obtain ⟨⟨settings, time, opened⟩, begins, seen⟩ := begins
  obtain ⟨given, lists, holds⟩ := of_decide_eq_true seen
  exact ⟨settings, time, opened, begun_of_beginning? begins given
    (Files.images_eq_ok_iff.2 ⟨names, sorted, lists, sorts⟩), holds⟩

instance decidableReal : (v : Value) → Decidable (∃ x, v = .float x)
  | .float x => .isTrue ⟨x, rfl⟩
  | .null | .bool _ | .int _ | .text _ | .date _ | .moment _ | .engine _ | .list _ | .tuple _
  | .rect .. | .map _ | .record _ => .isFalse nofun

def plateFolder (plates : List (String × FileNode)) : Files where
  home := "/work"
  nodes := (["m.onnx"], .file .empty) :: (["plates"], .folder) ::
    plates.map fun plate => (["plates", plate.1], plate.2)

def smallPicture (value : Int) : FileNode :=
  .picture (.fill (.element .u8) [2, 2, 3] (.whole value))

/-- A model for plates on the ONNX runtime, by the second dimension of its sequence input, and what
its runs come to. -/
def plateSurroundings (steps : Nat) (runs : List RunPlan) : Surroundings where
  runtime.script.runs := runs
  runtime.onnx := {
    inputs := [
      { name := "data", type := "tensor(uint8)", shape := [none, some 3, some 2, some 2] },
      { name := "seq", type := "tensor(float)", shape := [some Plate.maxSequence, some steps] }]
    outputs := [
      { name := "prob", type := "tensor(float)", shape := [none, some Plate.maxSequence] }] }

def plateWords : List String := ["--model", "m.onnx", "--img_path", "plates"]

def stopped : Clock := ⟨fun _ => Format.double.zero, 0⟩

def plateStart (steps : Nat) (plates : List (String × FileNode)) (runs : List RunPlan) : State :=
  .start (plateSurroundings steps runs) (Journal.fresh (plateFolder plates) "<time>" "<time>")
    stopped stopped

end FrameBatch.Recognition
