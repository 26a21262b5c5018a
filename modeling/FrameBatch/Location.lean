import FrameBatch.Value.Convert

namespace FrameBatch

/-- A rectangle along the axes. Its sides are kept as they were given. -/
structure Rect where
  x : Value
  y : Value
  width : Value
  height : Value
  deriving Inhabited

namespace Rect

def toValue (r : Rect) : Value := .rect r.x r.y r.width r.height

def text (r : Rect) : String := r.toValue.shown

def ofInts (x y width height : Int) : Rect := ⟨.int x, .int y, .int width, .int height⟩

def ofValue (location : Value) : Except Fault Rect :=
  match location with
  | .rect x y width height => .ok ⟨x, y, width, height⟩
  | _ => do
    match ← location.members with
    | [x, y, width, height] =>
      return .ofInts (← x.toInt) (← y.toInt) (← width.toInt) (← height.toInt)
    | _ => refuse (.locationSize location)

end Rect

end FrameBatch
