import FrameBatch.Log.SetUp
import FrameBatch.Proofs.Act.Ends

namespace FrameBatch.Journal

inductive Ask where
  | setUp (o : Options)
  | enable (name level : Value)
  | disable (name : Value)
  | log (r : Record)

def Ask.act : Ask → Act Journal Unit
  | .setUp o => Journal.setUp o
  | .enable name level => Journal.enable name level
  | .disable name => Journal.disable name
  | .log r => Act.modify (write r)

def after (j : Journal) (asks : List Ask) : Journal := asks.foldl (fun j a => (a.act j).state) j

theorem after_append (j : Journal) (earlier later : List Ask) :
    j.after (earlier ++ later) = (j.after earlier).after later :=
  List.foldl_append

theorem logger_adjust_self (name : String) (f : Logger → Logger) (j : Journal) :
    (adjust name f j).logger name = f (j.logger name) := by
  rw [logger, adjust, Entries.get?_put_self]
  rfl

theorem logger_adjust_of_ne {name other : String} (different : other ≠ name)
    (f : Logger → Logger) (j : Journal) : (adjust name f j).logger other = j.logger other := by
  rw [logger, adjust, Entries.get?_put_of_ne different]
  rfl

theorem loggers_hand (r : Record) (j : Journal) (h : Handler) :
    (hand r j h).loggers = j.loggers := by
  cases h <;> rfl

theorem loggers_write (r : Record) (j : Journal) : (write r j).loggers = j.loggers := by
  rw [write]
  generalize j.route r = handlers
  induction handlers generalizing j with
  | nil => rfl
  | cons h rest ih => exact (ih _).trans (loggers_hand r j h)

theorem state_setUp_of_off {o : Options} (off : o.enabled = false) (j : Journal) :
    (setUp o j).state = adjust libraryName (fun l => { l with disabled := true }) j := by
  rw [setUp, off]
  rfl

theorem state_disable (name : Value) (j : Journal) :
    (disable name j).state =
      match target name with
      | .ok name => adjust name (fun l => { l with disabled := true }) j
      | .error _ => j := by
  rw [disable]
  cases target name <;> rfl

theorem state_enable (name level : Value) (j : Journal) :
    (enable name level j).state =
      match target name, levelOf level with
      | .ok name, .ok level =>
        adjust name (fun l => { l with level }) (adjust name (fun l => { l with disabled := false }) j)
      | .ok name, .error _ => adjust name (fun l => { l with disabled := false }) j
      | .error _, _ => j := by
  rw [enable]
  cases target name with
  | error f => rfl
  | ok name => cases levelOf level <;> rfl

end FrameBatch.Journal
