import FrameBatch.Act

namespace FrameBatch.Level

/-- The name of a severity in a record; one without a name shows its rank. -/
def name (level : Level) : String :=
  if level = debug then "DEBUG"
  else if level = info then "INFO"
  else if level = warning then "WARNING"
  else if level = error then "ERROR"
  else if level = critical then "CRITICAL"
  else if level.rank = 0 then "NOTSET"
  else s!"Level {level.rank}"

def names : List (String × Level) := [
  ("CRITICAL", critical), ("FATAL", critical), ("ERROR", error), ("WARN", warning),
  ("WARNING", warning), ("INFO", info), ("DEBUG", debug), ("NOTSET", ⟨0⟩)]

end FrameBatch.Level
