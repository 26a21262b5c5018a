import FrameBatch.Act
import FrameBatch.Value.Arithmetic

/-!
Stopwatches: the time of the last measurement and of all of them, and rates made of it. A stopwatch
may wait for the device before it looks at the clock, so that work which is still queued there
counts.
-/

namespace FrameBatch

structure Clock where
  reading : Nat → Binary
  looks : Nat := 0

structure Stopwatch where
  waitsForDevice : Bool := false
  total : Value := .float (Format.double.zero)
  elapsed : Binary := Format.double.zero
  started : Binary := Format.double.zero

structure Timed where
  clock : Clock
  watch : Stopwatch

namespace Stopwatch

def now : Act Timed Binary := do
  let t ← Act.get
  if t.watch.waitsForDevice then Act.call .deviceSynchronize
  Act.set { t with clock := { t.clock with looks := t.clock.looks + 1 } }
  return t.clock.reading t.clock.looks

def update (f : Stopwatch → Stopwatch) : Act Timed Unit :=
  Act.modify fun t => { t with watch := f t.watch }

def start : Act Timed Unit := do
  let time ← now
  update fun w => { w with started := time }

def stop : Act Timed Unit := do
  let time ← now
  update fun w => { w with elapsed := Format.double.sub time w.started }
  let w := (← Act.get).watch
  let total ← w.total.plusReal w.elapsed
  update fun w => { w with total }

def reset : Act Timed Unit :=
  update fun w => { w with total := .float Format.double.zero, elapsed := Format.double.zero }

/-- An act that is measured, whether it fails or not. `on` tells where the stopwatch is. -/
def around {σ α : Type} (on : Act Timed Unit → Act σ Unit) (x : Act σ α) : Act σ α := do
  on start
  x.andFinally (on stop)

/-- How many there were per second, of so many in all; zero before any time was measured. -/
def rate (w : Stopwatch) (count : Value) : Except Fault Binary := do
  if ← w.total.isAbove 0 then count.quotient w.total else return Format.double.zero

/-- The mean time of one in milliseconds, of so many in all; zero if there were none. -/
def meanMilliseconds (w : Stopwatch) (count : Value) : Except Fault Binary := do
  if ← count.isAbove 0 then
    return Format.double.mul (← w.total.quotient count) (.ofInt 1000)
  else return Format.double.zero

end Stopwatch

end FrameBatch
