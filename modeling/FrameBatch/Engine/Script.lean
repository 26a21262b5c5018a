import FrameBatch.Entries
import FrameBatch.Tensor.Broadcast

/-!
Scripts: how the runs of a backend go, one after the other. The last entry repeats.
-/

namespace FrameBatch

inductive RunOutput where
  | tensor (t : Tensor)
  | copy (input : String)

structure RunPlan where
  reject : Option String := none
  fail : Option String := none
  bug : Option String := none
  interrupt : Bool := false
  /-- the run goes on until it is released -/
  hold : Bool := false
  outputs : List (String × RunOutput) := []
  deriving Inhabited

structure Script where
  runs : List RunPlan
  started : Nat := 0
  deriving Inhabited

namespace Script

def plan (s : Script) : RunPlan := s.runs.getD (min s.started (s.runs.length - 1)) {}

def advance (s : Script) : Script := { s with started := s.started + 1 }

end Script

namespace RunPlan

def fault? (p : RunPlan) : Option Fault :=
  match p.fail, p.bug with
  | some text, _ => some (.refused (.reported .runtime text))
  | none, some text => some (.refused (.reported .value text))
  | none, none => if p.interrupt then some .interrupted else none

def value (inputs : Entries String Tensor) : RunOutput → Except Fault Tensor
  | .tensor t => .ok t
  | .copy input =>
    match inputs.get? input with
    | some t => .ok t
    | none => .error (.failed .key input)

end RunPlan

end FrameBatch
