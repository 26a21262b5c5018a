import FrameBatch.Decoder.Registry
import FrameBatch.Output

/-!
Pipelines: frames are gathered in the slots of an engine's input, run as one batch, and decoded into
results that stay until the next fetch.
-/

namespace FrameBatch

inductive Stage where
  | idle
  | accumulating
  | submitted
  | fetched
  deriving DecidableEq, Inhabited

namespace Stage

def name : Stage → String
  | .idle => "idle"
  | .accumulating => "accumulating"
  | .submitted => "submitted"
  | .fetched => "fetched"

end Stage

/-- A pipeline. Its descriptor, engine and outputs are shared with others and named here. -/
structure Pipeline where
  descriptor : String
  decoder : Decoder
  scale : Value
  maxBatch : Int
  engine : Option String := none
  stage : Stage := .idle
  enqueued : Nat := 0
  /-- the results made for the frames in the slots -/
  pending : List Result := []
  results : List Result := []
  /-- whether the run of the batch is known to be over -/
  done : Bool := false
  outputs : List String := []
  deriving Inhabited

namespace Pipeline

def cleared (p : Pipeline) : Pipeline :=
  { p with stage := .idle, enqueued := 0, pending := [], done := false }

end Pipeline

inductive NetworkKey where
  | named (name : String)
  | ofEngine (engine : String)
  deriving DecidableEq, Inhabited

structure Bench (ε : Type) where
  networks : Entries NetworkKey Network := []
  descriptors : Entries String Descriptor := []
  engines : Entries String (NetworkKey × ε) := []
  outputs : Entries String Output := []
  deriving Inhabited

structure Site (ε : Type) where
  pipeline : Pipeline
  bench : Bench ε
  deriving Inhabited

def missing {σ α : Type} (name : String) : Act σ α := Act.fail (.refused (.absent name))

namespace Bench

variable {ε α : Type}

def onEngine (name : String) (x : Act ε α) : Act (Bench ε) α := fun b =>
  match b.engines.get? name with
  | none => missing name b
  | some (_, e) =>
    let o := x e
    ⟨o.result, { b with engines := b.engines.adjust name fun (n, _) => (n, o.state) }, o.trail⟩

def onLoading (engine descriptor : String) (x : Act (Loading ε) α) : Act (Bench ε) α := fun b =>
  match b.engines.get? engine, b.descriptors.get? descriptor with
  | none, _ => missing engine b
  | _, none => missing descriptor b
  | some (network, e), some d =>
    let o := x ⟨d, (b.networks.get? network).getD {}, e⟩
    ⟨o.result, { b with
      networks := b.networks.adjust network fun _ => o.state.network
      descriptors := b.descriptors.adjust descriptor fun _ => o.state.descriptor
      engines := b.engines.adjust engine fun (n, _) => (n, o.state.engine) }, o.trail⟩

def onOutput (name : String) (x : Act Output α) : Act (Bench ε) α := fun b =>
  match b.outputs.get? name with
  | none => missing name b
  | some output =>
    let o := x output
    ⟨o.result, { b with outputs := b.outputs.adjust name fun _ => o.state }, o.trail⟩

end Bench

namespace Site

variable {ε α : Type}

def onBench (x : Act (Bench ε) α) : Act (Site ε) α :=
  x.on (·.bench) fun b s => { s with bench := b }

def onEngine (name : String) (x : Act ε α) : Act (Site ε) α := onBench (Bench.onEngine name x)

def update (f : Pipeline → Pipeline) : Act (Site ε) Unit :=
  Act.modify fun s => { s with pipeline := f s.pipeline }

def descriptor : Act (Site ε) Descriptor := do
  let s ← Act.get
  match s.bench.descriptors.get? s.pipeline.descriptor with
  | some d => return d
  | none => missing s.pipeline.descriptor

end Site

end FrameBatch
