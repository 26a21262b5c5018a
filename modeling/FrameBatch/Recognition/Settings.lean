import FrameBatch.Arguments
import FrameBatch.Config.Load
import FrameBatch.Value.Record

namespace FrameBatch.Recognition

abbrev Settings := Entries Value Value

namespace Settings

def ofWords (files : Files) (words : List String) : Except Fault Settings := do
  let given ← Arguments.read words
  let file ← Config.load files ((Entries.get? "config" given).getD .null)
  let merged ← Config.merge given file
  Value.asFields (← Config.withDefaults merged)

def field (s : Settings) (name : String) : Value := (s.get? (.text name)).getD .null

def ask (s : Settings) (name : String) : Except Fault Value := do
  return Settings.field (← (Value.record s).entriesBy "get") name

def text (s : Settings) : Except Fault String := do
  return (← (Value.record s).plain).shown

end Settings

end FrameBatch.Recognition
