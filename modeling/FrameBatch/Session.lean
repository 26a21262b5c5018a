import FrameBatch.Engine.Factory
import FrameBatch.Pipeline.Cycle

namespace FrameBatch

structure Session where
  files : Files
  bench : Bench Engine := {}
  pipelines : Entries String Pipeline := []
  registry : Decoder.Registry := Decoder.builtin
  deriving Inhabited

namespace Session

variable {α : Type}

def onBench (x : Act (Bench Engine) α) : Act Session α :=
  x.on (·.bench) fun b s => { s with bench := b }

def onRegistry (x : Act Decoder.Registry α) : Act Session α :=
  x.on (·.registry) fun r s => { s with registry := r }

def aside (x : Act Unit α) : Act Session α := x.on (fun _ => ()) fun _ s => s

def found {β : Type} (name : String) : Option β → Act Session β
  | some x => return x
  | none => missing name

def network (name : String) : Act Session Network := do
  found name ((← Act.get).bench.networks.get? (.named name))

def descriptor (name : String) : Act Session Descriptor := do
  found name ((← Act.get).bench.descriptors.get? name)

def engine (name : String) : Act Session (NetworkKey × Engine) := do
  found name ((← Act.get).bench.engines.get? name)

def pipeline (name : String) : Act Session Pipeline := do
  found name ((← Act.get).pipelines.get? name)

def output (name : String) : Act Session Output := do
  found name ((← Act.get).bench.outputs.get? name)

def networkOf (engine : String) : Act Session Network := do
  let (key, _) ← Session.engine engine
  return ((← Act.get).bench.networks.get? key).getD {}

def addNetwork (name : String) (network : Network) : Act Session Unit :=
  onBench (Act.modify fun b => { b with networks := b.networks.put (.named name) network })

def addDescriptor (name : String) (d : Descriptor) : Act Session Unit :=
  onBench (Act.modify fun b => { b with descriptors := b.descriptors.put name d })

def addOutput (name : String) (o : Output) : Act Session Unit :=
  onBench (Act.modify fun b => { b with outputs := b.outputs.put name o })

def addRehearsal (name network : String) (e : Rehearsal) : Act Session Unit := do
  let _ ← Session.network network
  onBench (Act.modify fun b =>
    { b with engines := b.engines.put name (.named network, .rehearsal e) })

def addEngine (name : String) (open' : Files → Act Unit (Engine × Network)) :
    Act Session Engine := do
  let (e, network) ← aside (open' (← Act.get).files)
  onBench (Act.modify fun b => { b with
    networks := b.networks.put (.ofEngine name) network
    engines := b.engines.put name (.ofEngine name, e) })
  return e

def fit (descriptor network : String) : Act Session Unit := do
  let d ← Session.descriptor descriptor
  let n ← Session.network network
  onBench fun b =>
    let o := Descriptor.accept (d, n)
    ⟨o.result, { b with
      descriptors := b.descriptors.put descriptor o.state.1
      networks := b.networks.put (.named network) o.state.2 }, o.trail⟩

def load (engine descriptor : String) : Act Session Unit := do
  let _ ← Session.engine engine
  let _ ← Session.descriptor descriptor
  onBench (Bench.onLoading engine descriptor (Backend.load Descriptor.accept))

def onEngine (engine : String) (x : Act Engine α) : Act Session α := do
  let _ ← Session.engine engine
  onBench (Bench.onEngine engine x)

def onRequest (engine : String) (x : Act Engine α) : Act Session α := do
  let (_, e) ← Session.engine engine
  if Backend.isLoaded e then onBench (Bench.onEngine engine x) else missing "request"

def release (engine : String) : Act Session Unit :=
  onEngine engine (Act.modify Backend.release)

def close (engine : String) : Act Session Unit := do
  release engine
  onEngine engine Backend.close

def prepare (decoder : Decoder) (engine descriptor : String) : Act Session Unit := do
  let (_, e) ← Session.engine engine
  let d ← Session.descriptor descriptor
  if Backend.isLoaded e then onBench (Bench.onEngine engine (decoder.prepare d))
  else missing "request"

/-- Decode results for some locations from the request of an engine. Returns the results that the
decoder gives or its failure, and the results made for the locations as it left them. -/
def decode (decoder : Decoder) (engine descriptor : String) (locations : List Rect) :
    Act Session (Except Fault (List Result) × List Result) := do
  let (_, e) ← Session.engine engine
  let d ← Session.descriptor descriptor
  if Backend.isLoaded e then fun s =>
    let o := decoder.decode d (e, locations.map decoder.makeResult)
    ⟨.ok (o.result, o.state.2), s, o.trail⟩
  else missing "request"

/-- A pipeline for a descriptor, with the decoder of its category unless another one is given. -/
def addPipeline (name descriptor : String) (decoder : Option Decoder) (scale : Value) :
    Act Session Decoder := do
  let d ← Session.descriptor descriptor
  let decoder ← match decoder with
    | some decoder => pure decoder
    | none => onRegistry (Decoder.forCategory d.category)
  Act.modify fun s => { s with
    pipelines := s.pipelines.put name { descriptor, decoder, scale, maxBatch := d.maxBatch } }
  return decoder

def onPipeline (name : String) (x : Act (Site Engine) α) : Act Session α := do
  let p ← pipeline name
  fun s =>
    let o := x ⟨p, s.bench⟩
    ⟨o.result, { s with
      bench := o.state.bench
      pipelines := s.pipelines.put name o.state.pipeline }, o.trail⟩

def attach (pipeline engine : String) : Act Session Unit := do
  let _ ← Session.pipeline pipeline
  let _ ← Session.engine engine
  onPipeline pipeline (Pipeline.loadEngine engine)

def observe (pipeline output : String) : Act Session Unit := do
  let _ ← Session.pipeline pipeline
  let _ ← Session.output output
  onPipeline pipeline (Site.update fun p => p.observe output)

def onOutput (name : String) (x : Act Output α) : Act Session α := do
  let _ ← output name
  onBench (Bench.onOutput name x)

end Session

end FrameBatch
