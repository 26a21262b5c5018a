import FrameBatch.Device
import FrameBatch.Files.Images
import FrameBatch.Recognition.Basic
import FrameBatch.Recognition.Settings
import FrameBatch.Tensor.Bilinear

/-!
A recognition reads the pictures of a folder in the order of their names, runs them in batches, and
logs the plates and how long it all took.
-/

namespace FrameBatch.Recognition

/-- The names of the descriptor, the engine and the output at the bench. -/
def modelName : String := "model"
def engineName : String := "engine"
def outputName : String := "plates"

def placeEngine (made : Engine × Network) : Act (Bench Engine) Unit :=
  Act.modify fun b => { b with
    networks := b.networks.put (.ofEngine engineName) made.2
    engines := b.engines.put engineName (.ofEngine engineName, made.1) }

def modelPath (given : Value) : Act State String := do
  let files := (← Act.get).journal.files
  match given with
  | .text s =>
    if s.toList.contains '\x00' then Act.lift (.error (files.lookupFault s))
    let path := files.absolute s
    if !files.exists? path then
      say .error ("Model file not found: " ++ path)
      Act.fail (.refused (.modelMissing path))
    return path
  | v => Act.lift (wrongType ("expected str, bytes or os.PathLike object, not " ++ v.typeName))

def openPipeline (around : Surroundings) (s : Settings) : Act State Unit := do
  let path ← modelPath (s.field "model")
  let files := (← Act.get).journal.files
  let kind ← EngineKind.ofPath files (.text path)
  let device := Device.forEngine (s.field "device") (.text kind.name) around.hasDevice
  let size ← Config.batchSize (s.field "batch_size")
  let d ← Descriptor.create (some .plate) (.text path) (.int size) none
  onBench (Act.modify fun b => { b with descriptors := b.descriptors.put modelName d })
  let made ← aside (around.runtime.makeEngine files (.text path) device (.kind kind))
  onBench (placeEngine made)
  let decoder ← (Decoder.forCategory d.category).on (fun _ => Decoder.builtin) fun _ st => st
  onSite (Site.update fun _ =>
    { descriptor := modelName, decoder, scale := s.field "scale_factor", maxBatch := d.maxBatch })
  onSite (Pipeline.loadEngine engineName)
  say .info ("Loaded " ++ d.category ++ " on " ++ device ++ " (" ++ kind.name ++ ")")

structure Tally where
  batches : Nat := 0
  frames : Nat := 0

def runBatch (asynchronous : Bool) : Act State Bool := do
  let fetched ← Stopwatch.around onInference do
    let submitted ← onSite do
      if asynchronous then
        if ← Pipeline.submit then Pipeline.wait .null else return false
      else Pipeline.synchronize
    if submitted then onSite Pipeline.fetch else return false
  onBench (Bench.onOutput outputName Output.handle)
  return fetched

def enqueue [Resizer] (img : Image) : Act State Bool :=
  let location : Value := .tuple [.int 0, .int 0, .int img.width, .int img.height]
  Stopwatch.around onEnqueueing (onSite (Pipeline.enqueue (.packed img.tensor) location))

/-- Enqueue the picture at a path. If the batch is full it is run first. -/
def process [Resizer] (asynchronous : Bool) (t : Tally) (path : String) : Act State Tally := do
  match (← Act.get).journal.files.pixels? path with
  | none =>
    say .warning ("Could not read image " ++ path ++ ", skipping")
    return t
  | some img =>
    if ← enqueue img then return { t with frames := t.frames + 1 }
    let fetched ← runBatch asynchronous
    let accepted ← enqueue img
    return ⟨t.batches + fetched.toNat, t.frames + accepted.toNat⟩

/-- Enqueue all pictures, and run what is left at the end. -/
def processAll [Resizer] (asynchronous : Bool) (paths : List String) : Act State Tally := do
  let t ← paths.foldlM (process asynchronous) {}
  if 0 < (← Act.get).site.pipeline.enqueued then
    let fetched ← runBatch asynchronous
    return { t with batches := t.batches + fetched.toNat }
  return t

def closeEngine : Act State Unit := do
  say .info "Closing engine and freeing resources"
  onSite (Site.onEngine engineName Backend.close)

def millisecondsText (seconds : Binary) : String :=
  (Format.double.mul seconds (.ofInt 1000)).textOfTwoPlaces ++ " ms"

def totalText (w : Stopwatch) : Except Fault String := do
  return millisecondsText (← w.total.toReal)

def rule : String := String.ofList (List.replicate 60 '=')

def summarize (t : Tally) (total : Binary) : Act State Unit := do
  let s ← Act.get
  say .info rule
  say .info "PERFORMANCE SUMMARY"
  say .info rule
  say .info ("Model loading time:        " ++ (← totalText s.loading))
  say .info ("Enqueue time:              " ++ (← totalText s.enqueueing))
  say .info ("Inference time:            " ++ (← totalText s.inference))
  say .info ("Total pipeline time:       " ++ millisecondsText total)
  if 0 < t.frames then
    let rate ← s.inference.rate (.int t.frames)
    say .info ("Inference FPS:             " ++ rate.textOfTwoPlaces ++ " frames/sec")
    let mean ← s.inference.meanMilliseconds (.int t.batches)
    say .info ("Average inference time:    " ++ mean.textOfTwoPlaces ++ " ms/batch")
  match s.site.bench.outputs.get? outputName with
  | some (.log _ _ seen _) => say .info s!"Plates decoded:            {seen}"
  | _ => return
  say .info rule

def imagePaths (folder : Value) : Act State (List String) := do
  let files := (← Act.get).journal.files
  match folder with
  | .text s =>
    let paths ← files.images s
    say .info (s!"Processing {paths.length} images from " ++ s)
    return paths
  | v => Act.lift (wrongType ("expected str, bytes or os.PathLike object, not " ++ v.typeName))

def recognize [Resizer] (around : Surroundings) (s : Settings) : Act State Unit := do
  let text ← s.text
  say .info ("Final config: " ++ text)
  let begun ← wallTime
  Stopwatch.around onLoading (openPipeline around s)
  onBench (Act.modify fun b =>
    { b with outputs := b.outputs.put outputName (.toLog outputName .info) })
  onSite (Site.update fun p => p.observe outputName)
  let paths ← imagePaths (s.field "img_path")
  let t ← (processAll (s.field "async_mode").isTruthy paths).andFinally closeEngine
  let ended ← wallTime
  summarize t (Format.double.sub ended begun)

/-- Carry out a command line. Returns 0, or 1 if a setting is missing. -/
def run [Resizer] (around : Surroundings) (words : List String) : Act State Nat := do
  let s ← Settings.ofWords (← Act.get).journal.files words
  onJournal (Journal.setUp
    { enabled := true, level := s.field "log_level", toFile := (s.field "log_to_file").isTruthy })
  if !(← s.ask "img_path").isTruthy then
    say .error "img_path is required (via --img_path or config)"
    return 1
  if !(← s.ask "model").isTruthy then
    say .error "model is required (via --model or config)"
    return 1
  recognize around s
  return 0

def runProgram [Resizer] (around : Surroundings) (words : List String) : Act State Nat := do
  let logger := "program"
  match ← (run around words).attempt with
  | .ok code => return code
  | .error (.exit code) => return code
  | .error .interrupted =>
    Act.log .info logger "Process interrupted by user"
    return 1
  | .error f =>
    Act.log .error logger ("Process failed with error: " ++ f.shown)
    return 1

def journalOf {α : Type} (o : Outcome State α) : Journal := o.state.journal.writeAll o.trail

end FrameBatch.Recognition
