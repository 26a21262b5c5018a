import FrameBatch.Engine.Factory
import FrameBatch.Log.SetUp
import FrameBatch.Pipeline.Cycle
import FrameBatch.Timing.Stopwatch

namespace FrameBatch.Recognition

structure Surroundings where
  runtime : Runtime
  /-- whether there is a device to compute on beside the processor -/
  hasDevice : Bool := false

structure State where
  journal : Journal
  site : Site Engine := default
  /-- the clock of the stopwatches -/
  clock : Clock
  /-- the clock of the whole run -/
  wall : Clock
  loading : Stopwatch := {}
  enqueueing : Stopwatch := {}
  inference : Stopwatch := {}

def State.start (around : Surroundings) (journal : Journal) (clock wall : Clock) : State :=
  let watch : Stopwatch := { waitsForDevice := around.hasDevice }
  { journal, clock, wall, loading := watch, enqueueing := watch, inference := watch }

variable {α : Type}

def onJournal (x : Act Journal α) : Act State α :=
  x.on (·.journal) fun journal s => { s with journal }

def onSite (x : Act (Site Engine) α) : Act State α := x.on (·.site) fun site s => { s with site }

def onBench (x : Act (Bench Engine) α) : Act State α := onSite (Site.onBench x)

def onLoading (x : Act Timed α) : Act State α :=
  x.on (fun s => ⟨s.clock, s.loading⟩) fun t s => { s with clock := t.clock, loading := t.watch }

def onEnqueueing (x : Act Timed α) : Act State α :=
  x.on (fun s => ⟨s.clock, s.enqueueing⟩) fun t s =>
    { s with clock := t.clock, enqueueing := t.watch }

def onInference (x : Act Timed α) : Act State α :=
  x.on (fun s => ⟨s.clock, s.inference⟩) fun t s =>
    { s with clock := t.clock, inference := t.watch }

def aside (x : Act Unit α) : Act State α := x.on (fun _ => ()) fun _ s => s

def wallTime : Act State Binary := do
  let s ← Act.get
  Act.set { s with wall := { s.wall with looks := s.wall.looks + 1 } }
  return s.wall.reading s.wall.looks

def logger : String := "vinobatch.detect"

def say (level : Level) (message : String) : Act State Unit := Act.log level logger message

end FrameBatch.Recognition
