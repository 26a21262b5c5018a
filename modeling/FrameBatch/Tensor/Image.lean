import FrameBatch.Tensor.Gather
import FrameBatch.Tensor.View

namespace FrameBatch

inductive Frame where
  | packed (t : Tensor)
  /-- a tensor that may live on a device -/
  | onDevice (t : Tensor)
  /-- any other value, such as lists inside lists -/
  | loose (v : Value)

structure Image where
  tensor : Tensor
  height : Nat
  width : Nat
  channels : Nat
  shape_eq : tensor.shape = [height, width, channels]

namespace Image

def ofTensor (t : Tensor) : Except Fault Image :=
  match h : t.shape with
  | [height, width, channels] => .ok ⟨t, height, width, channels, h⟩
  | shape => refuse (.notAnImage shape)

def type (img : Image) : NumberType := img.tensor.type

def pixel (img : Image) (row column channel : Nat) : Scalar :=
  img.tensor.pixel img.width img.channels row column channel

def natPixel (img : Image) (row column channel : Nat) : Nat :=
  match img.pixel row column channel with
  | .whole z => z.toNat
  | .real _ => 0

def ofFn (type : NumberType) (height width channels : Nat)
    (f : Nat → Nat → Nat → Scalar) : Image :=
  ⟨.ofPixels type height width channels f, height, width, channels, rfl⟩

end Image

namespace Frame

/-- The array of a frame; only a packed one is used as it is. -/
def tensor : Frame → Except Fault Tensor
  | .packed t => .ok t
  | .onDevice t => .ok t
  | .loose v => do
    match ← Gathered.ofValue v with
    | .numbers t => .ok t
    | .texts shape _ | .others shape _ =>
      if shape.length = 3 then wrongType "the frame holds no numbers"
      else refuse (.notAnImage shape)

def image (f : Frame) : Except Fault Image := do Image.ofTensor (← f.tensor)

def isPacked : Frame → Bool
  | .packed _ => true
  | _ => false

end Frame

end FrameBatch
