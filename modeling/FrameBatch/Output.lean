import FrameBatch.Act
import FrameBatch.Result

namespace FrameBatch

inductive TrialSink where
  | collect
  /-- keeps every batch, and empties the list that it was given -/
  | greedy
  | raising
  deriving DecidableEq

inductive Output where
  | log (name : String) (level : Level) (seen : Nat) (waiting : List Result)
  | sink (name : String) (kind : TrialSink) (batches : List (List Result))
  deriving Inhabited

namespace Output

def logger : String := "vinobatch.outputs.log_output"

def toLog (name : String) (level : Level) : Output :=
  .log (if name = "" then "LogOutput" else name) level 0 []

def toSink (name : String) (kind : TrialSink) : Output :=
  .sink (if name = "" then "Sink" else name) kind []

def name : Output → String
  | .log name .. => name
  | .sink name .. => name

def accept (results : List Result) : Act Output Unit := do
  match ← Act.get with
  | .log name level seen waiting =>
    Act.set (.log name level (seen + results.length) (waiting ++ results))
  | .sink name .collect batches => Act.set (.sink name .collect (batches ++ [results]))
  | .sink name .greedy batches => Act.set (.sink name .greedy (batches ++ [results]))
  | .sink _ .raising _ => Act.fail (.refused (.reported .runtime "sink full"))

def line (name : String) (r : Result) : String :=
  "[" ++ name ++ "] " ++ r.location.text
    ++ (r.reading.map fun reading => ": " ++ reading.license).getD ""

/-- Pass on what was received since the last time. -/
def handle : Act Output Unit := do
  match ← Act.get with
  | .log name level seen waiting =>
    waiting.forM fun r => Act.log level logger (line name r)
    Act.set (.log name level seen [])
  | .sink .. => return

end Output

end FrameBatch
