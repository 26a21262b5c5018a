import FrameBatch.Pipeline.Basic
import FrameBatch.Tensor.Slot

/-!
The cycle of a batch: frames are enqueued, the batch is submitted or run at once, waited for and
fetched. A failure of the backend is reported and costs the batch, never the pipeline; every other
failure goes to the caller.
-/

namespace FrameBatch.Pipeline

variable {ε : Type} [Backend ε]

def logger : String := "vinobatch.inferences.base_inference"

def report (level : Level) (message : String) : Act (Site ε) Unit := Act.log level logger message

/-- The name of the engine whose request runs the batches; it must be loaded. -/
def requireEngine : Act (Site ε) String := do
  let s ← Act.get
  let none' := Act.fail (.refused (.noEngine (← Site.descriptor).category))
  match s.pipeline.engine with
  | none => none'
  | some name =>
    match s.bench.engines.get? name with
    | some (_, e) => if Backend.isLoaded e then return name else none'
    | none => none'

/-- Check that an input holds slots × channels × height × width, and enough slots. -/
def checkInput (name : TensorName) (maxBatch : Int) (t : Tensor) : Except Fault Unit :=
  match t.shape with
  | [slots, _, _, _] =>
    if (slots : Int) < maxBatch then refuse (.inputTooSmall name.text slots maxBatch) else .ok ()
  | shape => refuse (.inputNotPlanar name.text shape)

/-- Attach an engine. It is loaded with the descriptor if it has no request yet, and checked against
the descriptor otherwise. A batch in progress and the results so far are dropped. -/
def loadEngine (engine : String) : Act (Site ε) Unit := do
  let s ← Act.get
  match s.bench.engines.get? engine with
  | none => missing engine
  | some (_, e) =>
    Site.onBench (Bench.onLoading engine s.pipeline.descriptor
      (if Backend.isLoaded e then Loading.onFitting Descriptor.accept
        else Backend.load Descriptor.accept))
    let d ← Site.descriptor
    let t ← Site.onEngine engine (Backend.tensor d.input)
    checkInput d.input s.pipeline.maxBatch t
    Site.update fun p => { p.cleared with engine := some engine, results := [] }
    report .info (d.category ++ s!" pipeline ready (max batch size {s.pipeline.maxBatch})")

/-- Put a frame into the next free slot. Refused, without a failure, while a run is in flight and
when all slots are in use. -/
def enqueue [Resizer] (frame : Frame) (location : Value) : Act (Site ε) Bool := do
  let engine ← requireEngine
  let p := (← Act.get).pipeline
  let d ← Site.descriptor
  if p.stage = .submitted then
    report .warning (d.category ++ " batch is in flight, fetch results before enqueueing")
    return false
  if (p.enqueued : Int) = p.maxBatch then
    report .warning ("Number of " ++ d.category
      ++ s!" input more than maximum({p.maxBatch}) processed by inference")
    return false
  let rect ← Rect.ofValue location
  let batch ← Site.onEngine engine (Backend.tensor d.input)
  let batch ← batch.loadFrame frame p.scale (.int p.enqueued)
  Site.onEngine engine (Backend.setTensor d.input batch)
  let count := p.enqueued + 1
  Site.update fun p => { p with
    pending := p.pending ++ [p.decoder.makeResult rect]
    enqueued := count
    stage := .accumulating }
  report .debug ("Enqueued " ++ d.category ++ s!" frame {count}/{p.maxBatch} at " ++ rect.text)
  return true

def canSubmit (category : String) : Act (Site ε) Bool := do
  let p := (← Act.get).pipeline
  if p.stage = .submitted then
    report .warning (category ++ " request already submitted")
    return false
  if p.enqueued = 0 then
    report .warning ("No " ++ category ++ " frames enqueued, nothing to submit")
    return false
  return true

/-- Prepare the request and hand the batch to `run`. A failure of the backend leaves the batch as it
is. -/
def execute (run : Act ε Unit) (done : Bool) (verb failure : String) : Act (Site ε) Bool := do
  let engine ← requireEngine
  let d ← Site.descriptor
  if !(← canSubmit d.category) then return false
  let p := (← Act.get).pipeline
  match ← (Site.onEngine engine do p.decoder.prepare d; run).attempt with
  | .ok _ =>
    Site.update fun p => { p with done, stage := .submitted }
    report .debug (verb ++ s!" {p.enqueued} " ++ d.category ++ " frame(s)")
    return true
  | .error e =>
    if e.isRuntime then
      report .error (d.category ++ " " ++ failure ++ " failed: " ++ e.shown)
      return false
    else Act.fail e

def submit : Act (Site ε) Bool := execute Backend.start false "Submitted" "request submission"

def synchronize : Act (Site ε) Bool := execute Backend.infer true "Inferred" "inference"

/-- Wait for the batch in flight up to a timeout, and tell whether its run is over. A failure of the
backend drops the batch. -/
def wait (timeout : Value) : Act (Site ε) Bool := do
  let p := (← Act.get).pipeline
  if p.stage ≠ .submitted then return false
  if p.done then return true
  let attempt := do
    let engine ← requireEngine
    Site.onEngine engine (Backend.wait timeout)
  match ← attempt.attempt with
  | .ok done =>
    Site.update fun p => { p with done }
    return done
  | .error e =>
    if e.isRuntime then
      report .error ((← Site.descriptor).category ++ " inference failed: " ++ e.shown)
      Site.update cleared
      return false
    else Act.fail e

/-- Decode the batch. The results made for its frames keep what was decoded before a failure. -/
def decodeBatch : Act (Site ε) (List Result) := do
  let engine ← requireEngine
  let d ← Site.descriptor
  let s ← Act.get
  match s.bench.engines.get? engine with
  | none => missing engine
  | some (_, e) =>
    let o := s.pipeline.decoder.decode d (e, s.pipeline.pending)
    Site.onEngine engine (Act.set o.state.1)
    Site.update fun p => { p with pending := o.state.2 }
    fun s => ⟨o.result, s, o.trail⟩

def deliver (results : List Result) : List String → Act (Site ε) Unit
  | [] => return
  | output :: rest => do
    Site.onBench (Bench.onOutput output (Output.accept results))
    deliver results rest

/-- Whether the run of the batch is over, asking the backend only if that is not known yet. -/
def isOver : Act (Site ε) Bool := do
  if (← Act.get).pipeline.done then return true else wait (.int 0)

def fetch : Act (Site ε) Bool := do
  let p := (← Act.get).pipeline
  if p.stage ≠ .submitted then
    report .debug ("No submitted " ++ (← Site.descriptor).category ++ " batch to fetch")
    return false
  if !(← isOver) then return false
  match ← decodeBatch.attempt with
  | .ok results =>
    Site.update fun p => { p.cleared with results, stage := .fetched }
    deliver results p.outputs
    return true
  | .error e =>
    if e.isRuntime then
      report .error ("Decoding " ++ (← Site.descriptor).category ++ " results failed: " ++ e.shown)
      Site.update cleared
      return false
    else Act.fail e

def result (p : Pipeline) (index : Value) : Except Fault Result := do
  let outOfRange := refuse (.resultIndex index p.results.length)
  match index.number? with
  | none =>
    wrongType ("'<=' not supported between instances of 'int' and '" ++ index.typeName ++ "'")
  | some i =>
    if !((Binary.ofInt 0).le i && i.lt (.ofInt p.results.length)) then outOfRange
    else match index with
      | .float _ => wrongType "list indices must be integers or slices, not float"
      | _ =>
        match p.results[(i.truncate?.getD 0).toNat]? with
        | some r => return r
        | none => outOfRange

def observe (p : Pipeline) (output : String) : Pipeline :=
  if p.outputs.contains output then p else { p with outputs := p.outputs ++ [output] }

end FrameBatch.Pipeline
