import FrameBatch.Tensor.Image

/-!
Images brought to another size. Resizing is left to a library of image functions: it takes an image,
a width and a height, and hands back an array in which a single channel has no axis of its own.
-/

namespace FrameBatch

/-- A library's way to resize an image to a width and a height. -/
class Resizer where
  resize : Image → Nat × Nat → Except Fault Tensor

namespace Resizer

def supports : NumberType → Bool
  | .element .u8 | .element .u16 | .element .i16 | .element .f32 | .element .f64 => true
  | _ => false

def maxChannels : Nat := 512

end Resizer

namespace Image

/-- A resized array as an image. Without an axis for the channels there is one channel. -/
def ofResized (t : Tensor) : Except Fault Image :=
  match h : t.shape with
  | [height, width] =>
    have size : t.data.size = volume [height, width, 1] := by rw [t.size_eq, h]; simp [volume]
    .ok ⟨⟨t.type, [height, width, 1], t.data, size⟩, height, width, 1, rfl⟩
  | [height, width, channels] => .ok ⟨t, height, width, channels, h⟩
  | _ => .error (.failed .value "axes don't match array")

def fitted [Resizer] (img : Image) (height width : Nat) : Except Fault Image :=
  if img.height = height && img.width = width then .ok img
  else do ofResized (← Resizer.resize img (width, height))

end Image

end FrameBatch
