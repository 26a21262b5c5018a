import FrameBatch.Decoder.Basic

namespace FrameBatch.Decoder

abbrev Registry := Entries String Decoder

def logger : String := "vinobatch.inferences.decoders"

def builtin : Registry := [("License Plate Detection", .plate)]

/-- Register a decoder; one that replaces another is reported. -/
def register (category : String) (decoder : Decoder) : Act Registry Unit := do
  let registry ← Act.get
  match registry.get? category with
  | some old =>
    if old ≠ decoder then
      Act.log .warning logger ("Replacing decoder for " ++ category ++ ": " ++ old.typeName
        ++ " -> " ++ decoder.typeName)
  | none => pure ()
  Act.set (registry.put category decoder)

/-- The decoder of a category; without one, results are locations only. -/
def forCategory (category : String) : Act Registry Decoder := do
  match (← Act.get).get? category with
  | some decoder => return decoder
  | none =>
    Act.log .debug logger
      ("No decoder registered for " ++ category ++ ", using location-only results")
    return .location

end FrameBatch.Decoder
