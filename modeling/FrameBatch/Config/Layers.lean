import FrameBatch.Entries
import FrameBatch.Value.Record

/-!
The layers of a configuration: arguments go before the file, and the file before the defaults. What
is `null` in one layer leaves the key to the next.
-/

namespace FrameBatch.Config

abbrev Settings := Entries Value Value

def defaults : Settings := [
  (.text "model", .null),
  (.text "img_path", .null),
  (.text "device", .text "auto"),
  (.text "batch_size", .int 1),
  (.text "scale_factor", .float Format.double.one),
  (.text "async_mode", .bool false),
  (.text "log_level", .text "INFO"),
  (.text "log_to_file", .bool false)]

def overDefaults (settings : Settings) : Settings :=
  defaults.putAll (settings.filter fun entry => !entry.2.isNull)

/-- A configuration put over the defaults; an empty one counts as no settings. -/
def withDefaults (config : Value) : Except Fault Settings :=
  if !config.isTruthy then .ok (overDefaults [])
  else return overDefaults (← config.entriesBy "items")

/-- The arguments that are put over a file: all that are given, less the path of the file. -/
def given (args : List (String × Value)) : Settings :=
  args.filterMap fun (name, v) =>
    if v.isNull || name == "config" then none else some (.text name, v)

/-- The arguments put over a configuration, which is copied first. -/
def merge (args : List (String × Value)) (config : Value) : Except Fault Value :=
  match config with
  | .list items =>
    if (given args).isEmpty then .ok (.list items)
    else wrongType "list indices must be integers or slices, not str"
  | _ => do return .map ((← config.entriesBy "copy").putAll (given args))

def pick (values : List Value) : Value := (values.find? fun v => !v.isNull).getD .null

def batchSize (given : Value) : Except Fault Int :=
  if given.isNull then .ok 1
  else do
    let size ← given.toInt
    if size < 1 then refuse (.batchSize given) else return size

end FrameBatch.Config
