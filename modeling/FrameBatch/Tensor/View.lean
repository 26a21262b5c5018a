import FrameBatch.Tensor.Basic
import FrameBatch.Value.Basic

namespace FrameBatch.Tensor

inductive ImageView where
  | plain
  | flipRows
  | flipColumns
  | flipChannels
  | transposed
  | cropped

def pixel (t : Tensor) (width channels row column channel : Nat) : Scalar :=
  t.get ((row * width + column) * channels + channel)

def ofPixels (type : NumberType) (height width channels : Nat)
    (f : Nat → Nat → Nat → Scalar) : Tensor :=
  ofFn type [height, width, channels] fun k =>
    f (k / (width * channels)) (k / channels % width) (k % channels)

/-- The view of an image; arrays of another rank have none but the plain one. -/
def viewed (t : Tensor) (view : ImageView) : Tensor :=
  match view, t.shape with
  | .plain, _ => t
  | .flipRows, [h, w, c] => ofPixels t.type h w c fun y x k => t.pixel w c (h - 1 - y) x k
  | .flipColumns, [h, w, c] => ofPixels t.type h w c fun y x k => t.pixel w c y (w - 1 - x) k
  | .flipChannels, [h, w, c] => ofPixels t.type h w c fun y x k => t.pixel w c y x (c - 1 - k)
  | .transposed, [h, w, c] => ofPixels t.type w h c fun y x k => t.pixel w c x y k
  | .cropped, [h, w, c] =>
    ofPixels t.type (h - 2) (w - 2) c fun y x k => t.pixel w c (y + 1) (x + 1) k
  | _, _ => t

def valueOf (type : NumberType) (v : Scalar) : Value :=
  match v with
  | .whole z => if type = .truth then .bool (z != 0) else .int z
  | .real x => .float x

def nestedFrom (t : Tensor) : List Nat → Nat → Value
  | [], start => valueOf t.type (t.get start)
  | n :: ns, start => .list ((List.range n).map fun i => nestedFrom t ns (start + i * volume ns))

def nested (t : Tensor) : Value := t.nestedFrom t.shape 0

end FrameBatch.Tensor
