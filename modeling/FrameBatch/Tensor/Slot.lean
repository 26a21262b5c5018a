import FrameBatch.Tensor.Resizer
import FrameBatch.Tensor.Scale

namespace FrameBatch

namespace Image

/-- The image with its channels as planes: channels × height × width. -/
def planar (img : Image) : Tensor :=
  .ofFn img.type [img.channels, img.height, img.width] fun k =>
    img.pixel (k / img.width % img.height) (k % img.width) (k / (img.height * img.width))

end Image

inductive SlotChoice where
  | one (slot : Nat)
  | all
  | none

namespace SlotChoice

/-- The slots named by a value that lies in the range: a truth value names all slots or none. -/
def ofValue : Value → Except Fault SlotChoice
  | .int z => .ok (.one z.toNat)
  | .bool true => .ok .all
  | .bool false => .ok .none
  | _ => .error (.failed .index
      "only integers, slices, ellipsis and integer or boolean arrays are valid indices")

end SlotChoice

namespace Tensor

def slotInRange (index : Value) (slots : Nat) : Except Fault Bool :=
  match index.number? with
  | some i => .ok ((Binary.ofInt 0).le i && i.lt (.ofInt slots))
  | none => wrongType "'<=' not supported between the index and an integer"

/-- The batch with `source`, stretched over the slot, in one slot. -/
def writeSlot (batch : Tensor) (slotShape : List Nat) (slot : Nat) (source : Tensor) : Tensor :=
  let n := volume slotShape
  batch.mapPlaces batch.type fun k old =>
    if k / n = slot then
      batch.type.cast
        (source.get (Broadcast.place source.shape.reverse slotShape.reverse (k % n)))
    else old

def writeSlots (batch : Tensor) (slotShape : List Nat) (choice : SlotChoice)
    (source : Tensor) : Except Fault Tensor :=
  let mismatch := .error (.failed .value ("could not broadcast input array from shape "
    ++ Text.ofShapeTight source.shape ++ " into shape " ++ Text.ofShapeTight slotShape))
  match choice with
  | .one slot =>
    if Broadcast.fits source.shape.reverse slotShape.reverse then
      .ok (batch.writeSlot slotShape slot source)
    else mismatch
  | .all =>
    if Broadcast.fits source.shape.reverse (slotShape.reverse ++ [batch.shape.headD 0, 1]) then
      .ok (batch.mapPlaces batch.type fun k _ => batch.type.cast
        (source.get (Broadcast.place source.shape.reverse batch.shape.reverse k)))
    else mismatch
  | .none =>
    if Broadcast.fits source.shape.reverse (slotShape.reverse ++ [batch.shape.headD 0, 0]) then
      .ok batch
    else mismatch

def loadFrame [Resizer] (batch : Tensor) (frame : Frame)
    (factor index : Value) : Except Fault Tensor := do
  let img ← frame.image
  match batch.shape with
  | [slots, channels, height, width] =>
    if !(← slotInRange index slots) then
      refuse (.slotOutOfRange index slots)
    else if img.height = 0 || img.width = 0 then
      refuse (.frameEmpty img.tensor.shape)
    else if img.channels ≠ channels then
      refuse (.channelMismatch img.channels channels)
    else
      let fitted ← img.fitted height width
      let scaled ← fitted.planar.scale factor
      batch.writeSlots [channels, height, width] (← SlotChoice.ofValue index) scaled
  | shape => refuse (.notPlanar shape)

end Tensor

end FrameBatch
