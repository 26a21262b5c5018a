import FrameBatch.Text.Case
import FrameBatch.Value.Text

namespace FrameBatch.Device

/-- One runtime resolves its own automatic choice and wants capitals. For the other the automatic
choice is made here, and all else is in small letters. -/
def forEngine (device engine : Value) (hasDevice : Bool) : String :=
  let device : Value := match device with
    | .null => .text "auto"
    | d => d
  if Text.lower engine.shown = "openvino" then Text.upper device.shown
  else if device.sameScalar (.text "auto") then (if hasDevice then "cuda" else "cpu")
  else Text.lower device.shown

end FrameBatch.Device
