import FrameBatch.Tensor.Resizer

/-!
Bilinear resizing. An exact halving of both sides takes the mean of each block of four. Otherwise
every target place looks at two source places on each axis; 8-bit images weigh them by fixed-point
numbers of eleven bits, all others by weights in single precision. It is exact on bytes.
-/

namespace FrameBatch.Bilinear

/-- The two neighbours on an axis, and how far the place lies from the first to the second. -/
structure Tap where
  low : Nat
  high : Nat
  fraction : Binary

def halfPast (n : Nat) : Binary := .finite false (2 * n + 1) (-1)

def step (source target : Nat) : Binary :=
  Format.double.div (Format.double.one) (Format.double.ofQuotient false target source 0)

def centre (source target place : Nat) : Binary :=
  let d := Format.double
  Format.single.round (d.sub (d.mul (halfPast place) (step source target)) (halfPast 0))

def clamp (length : Nat) (i : Int) : Nat := min i.toNat (length - 1)

/-- The neighbours along a row: past the border only the border counts. -/
def columnTap (source target place : Nat) : Tap :=
  let c := centre source target place
  let i := c.floor?.getD 0
  if i < 0 then ⟨0, clamp source 1, Format.single.round (.ofInt 0)⟩
  else if (source : Int) - 1 ≤ i then ⟨source - 1, source - 1, Format.single.round (.ofInt 0)⟩
  else ⟨i.toNat, clamp source (i + 1), Format.single.sub c (.ofInt i)⟩

/-- The neighbours along a column: the rows are clamped and the fraction is kept. -/
def rowTap (source target place : Nat) : Tap :=
  let c := centre source target place
  let i := c.floor?.getD 0
  ⟨clamp source i, clamp source (i + 1), Format.single.sub c (.ofInt i)⟩

/-- The weights of both neighbours in units of `1 / 2048`. -/
def Tap.weights (t : Tap) : Nat × Nat :=
  let units (x : Binary) : Nat := ((x.mul (.ofInt 2048)).nearest?.getD 0).toNat
  (units (Format.single.sub Format.single.one t.fraction), units t.fraction)

def fixedPoint (img : Image) (row column : Tap) (c : Nat) : Scalar :=
  let (a0, a1) := column.weights
  let (b0, b1) := row.weights
  let along (y : Nat) := img.natPixel y column.low c * a0 + img.natPixel y column.high c * a1
  let upper := (b0 * (along row.low >>> 4)) >>> 16
  let lower := (b1 * (along row.high >>> 4)) >>> 16
  .whole ((upper + lower + 2) >>> 2 : Nat)

def mix (f : Format) (t : Tap) (x y : Binary) : Binary :=
  f.add (f.mul x (Format.single.sub Format.single.one t.fraction)) (f.mul y t.fraction)

/-- The value between four pixels; past the right border there is only the border. -/
def interpolate (f : Format) (img : Image) (row column : Tap) (c : Nat) : Binary :=
  let along (y : Nat) : Binary :=
    let first := f.round (img.pixel y column.low c).toBinary
    if column.low = column.high then first
    else mix f column first (f.round (img.pixel y column.high c).toBinary)
  mix f row (along row.low) (along row.high)

def working (type : NumberType) : Format := if type = .element .f64 then .double else .single

/-- A real as a pixel: whole types take the nearest number in their range. -/
def store (type : NumberType) (x : Binary) : Scalar :=
  match type.storage with
  | .whole signed bits =>
    let (least, greatest) := wholeRange signed bits
    .whole (max least (min greatest (x.nearest?.getD 0)))
  | _ => type.cast (.real x)

/-- The mean of a block of four pixels. Whole numbers of one, three or four channels are rounded up
at a half, all others to even. -/
def blockMean (img : Image) (y x c : Nat) : Scalar :=
  let corners := [img.pixel (2 * y) (2 * x) c, img.pixel (2 * y) (2 * x + 1) c,
    img.pixel (2 * y + 1) (2 * x) c, img.pixel (2 * y + 1) (2 * x + 1) c]
  let sum := (corners.map Scalar.toBinary).foldl Binary.add (.ofInt 0)
  match img.type.storage with
  | .whole .. =>
    if img.channels = 1 || img.channels = 3 || img.channels = 4 then
      .whole ((sum.truncate?.getD 0 + 2) / 4)
    else store img.type (sum.mul (.finite false 1 (-2)))
  | _ => store img.type (sum.mul (.finite false 1 (-2)))

def resized (img : Image) (height width : Nat) : Image :=
  if img.height = 2 * height && img.width = 2 * width then
    .ofFn img.type height width img.channels (blockMean img)
  else
    let columns := (Array.range width).map (columnTap img.width width)
    let rows := (Array.range height).map (rowTap img.height height)
    let tap (taps : Array Tap) (k : Nat) : Tap := taps.getD k ⟨0, 0, .ofInt 0⟩
    .ofFn img.type height width img.channels fun y x c =>
      if img.type = .element .u8 then fixedPoint img (tap rows y) (tap columns x) c
      else store img.type (interpolate (working img.type) img (tap rows y) (tap columns x) c)

/-- The array of an image. A single channel gets no axis. -/
def array (img : Image) : Tensor :=
  if one : img.channels = 1 then
    { type := img.type, shape := [img.height, img.width], data := img.tensor.data,
      size_eq := by rw [img.tensor.size_eq, img.shape_eq]; simp [volume, one] }
  else img.tensor

def resize (img : Image) (size : Nat × Nat) : Except Fault Tensor :=
  let (width, height) := size
  if !Resizer.supports img.type || img.channels = 0 || Resizer.maxChannels < img.channels
      || height = 0 || width = 0 || img.height = 0 || img.width = 0 then
    .error (.failed .picture "the image cannot be resized")
  else .ok (array (resized img height width))

instance : Resizer := ⟨resize⟩

end FrameBatch.Bilinear
