import FrameBatch.Proofs.Tensor.Stamp
import Mathlib.Tactic.Ring

namespace FrameBatch

theorem Broadcast.place_self {shape : List Nat} {k : Nat} (inside : k < volume shape) :
    place shape shape k = k := by
  induction shape generalizing k with
  | nil =>
    simp only [volume] at inside
    rw [place]
    omega
  | cons n rest ih =>
    rw [volume] at inside
    rw [place, ih (Nat.div_lt_of_lt_mul inside)]
    split
    · rename_i one
      subst one
      simp
    · exact Nat.mod_add_div k n

/-- Where the element of a row and a column lies in the plane of a channel, if planes of a height
and a width follow one another. -/
def planePlace (height width c y x : Nat) : Nat := (c * height + y) * width + x

section

variable {channels height width c y x : Nat}

theorem mul_add_div_of_lt {i j n : Nat} (below : j < n) : (i * n + j) / n = i := by
  rw [Nat.mul_comm, Nat.mul_add_div (by omega), Nat.div_eq_of_lt below, Nat.add_zero]

theorem mul_add_mod_of_lt {i j n : Nat} (below : j < n) : (i * n + j) % n = j := by
  rw [Nat.mul_comm, Nat.mul_add_mod, Nat.mod_eq_of_lt below]

theorem mul_add_lt {i j m n : Nat} (row : i < m) (column : j < n) : i * n + j < m * n :=
  calc i * n + j < (i + 1) * n := by
        rw [Nat.add_mul]
        omega
    _ ≤ m * n := Nat.mul_le_mul_right n row

theorem planePlace_lt (channel : c < channels) (row : y < height) (column : x < width) :
    planePlace height width c y x < channels * height * width :=
  mul_add_lt (mul_add_lt channel row) column

theorem planePlace_slot (slot : Nat) :
    planePlace height width (slot * channels + c) y x =
      slot * (channels * height * width) + planePlace height width c y x := by
  simp only [planePlace]
  ring

theorem exists_planePlace {slots k : Nat} (inside : k < slots * (channels * height * width)) :
    ∃ slot < slots, ∃ c < channels, ∃ y < height, ∃ x < width,
      k = planePlace height width (slot * channels + c) y x := by
  have some_element : 0 < channels * height * width := Nat.pos_of_ne_zero fun none => by
    rw [none] at inside
    omega
  have wide : 0 < width := Nat.pos_of_mul_pos_left some_element
  have planes : 0 < channels * height := Nat.pos_of_mul_pos_right some_element
  have tall : 0 < height := Nat.pos_of_mul_pos_left planes
  have deep : 0 < channels := Nat.pos_of_mul_pos_right planes
  have slot : k / width / height / channels < slots := by
    rw [Nat.div_div_eq_div_mul, Nat.div_div_eq_div_mul]
    refine Nat.div_lt_of_lt_mul ?_
    calc k < slots * (channels * height * width) := inside
      _ = width * (height * channels) * slots := by ring
  refine ⟨_, slot, _, Nat.mod_lt (k / width / height) deep, _, Nat.mod_lt (k / width) tall, _,
    Nat.mod_lt k wide, ?_⟩
  rw [planePlace, Nat.div_add_mod', Nat.div_add_mod', Nat.div_add_mod']

theorem volume_planes : volume [channels, height, width] = channels * height * width := by
  simp only [volume]
  ring

end

theorem Image.get_planar (img : Image) {c y x : Nat} (channel : c < img.channels)
    (row : y < img.height) (column : x < img.width) :
    img.planar.get (planePlace img.height img.width c y x) = img.pixel y x c := by
  have inside := planePlace_lt channel row column
  rw [← volume_planes] at inside
  rw [planar, Tensor.get_ofFn _ _ _ inside, Nat.mul_comm img.height, ← Nat.div_div_eq_div_mul,
    planePlace, mul_add_div_of_lt column, mul_add_mod_of_lt column, mul_add_div_of_lt row,
    mul_add_mod_of_lt row]

namespace Tensor

def cell (t : Tensor) (channels height width slot c y x : Nat) : Scalar :=
  t.get (planePlace height width (slot * channels + c) y x)

/-- A batch of images with one slot written: what the slot holds by channel, row and column, and all
else as it was. -/
structure WrittenAt (batch written : Tensor) (slots channels height width slot : Nat)
    (value : Nat → Nat → Nat → Scalar) : Prop where
  type : written.type = batch.type
  shape : written.shape = [slots, channels, height, width]
  here : ∀ c < channels, ∀ y < height, ∀ x < width,
    written.cell channels height width slot c y x = value c y x
  elsewhere : ∀ other < slots, other ≠ slot → ∀ c < channels, ∀ y < height, ∀ x < width,
    written.cell channels height width other c y x = batch.cell channels height width other c y x

theorem writtenAt_writeSlot {batch source : Tensor} {slots channels height width slot : Nat}
    (shape : batch.shape = [slots, channels, height, width]) (inside : slot < slots)
    (fits : source.shape = [channels, height, width]) :
    batch.WrittenAt (batch.writeSlot [channels, height, width] slot source) slots channels height
      width slot fun c y x => batch.type.cast (source.get (planePlace height width c y x)) := by
  have size : batch.size = slots * (channels * height * width) := by
    rw [size_eq_volume, shape, volume, volume_planes]
  have written {other c y x : Nat} (known : other < slots) (channel : c < channels)
      (row : y < height) (column : x < width) :
      (batch.writeSlot [channels, height, width] slot source).cell channels height width other c y x
        = if other = slot then batch.type.cast (source.get (planePlace height width c y x))
          else batch.cell channels height width other c y x := by
    have place := planePlace_lt channel row column
    have stretched : Broadcast.place source.shape.reverse [channels, height, width].reverse
        (planePlace height width c y x) = planePlace height width c y x := by
      rw [fits]
      refine Broadcast.place_self ?_
      calc _ < channels * height * width := place
        _ = volume [channels, height, width].reverse := by
          simp only [List.reverse_cons, List.reverse_nil, List.nil_append, List.cons_append, volume]
          ring
    rw [cell, planePlace_slot, get_writeSlot _ _ _ _ (by rw [size]; exact mul_add_lt known place),
      volume_planes, mul_add_div_of_lt place, mul_add_mod_of_lt place, stretched, cell,
      planePlace_slot]
  refine ⟨rfl, shape, fun c channel y row x column => ?_,
    fun other known apart c channel y row x column => ?_⟩
  · rw [written inside channel row column, if_pos rfl]
  · rw [written known channel row column, if_neg apart]

theorem WrittenAt.congr {batch written : Tensor} {slots channels height width slot : Nat}
    {value value' : Nat → Nat → Nat → Scalar}
    (h : batch.WrittenAt written slots channels height width slot value)
    (same : ∀ c < channels, ∀ y < height, ∀ x < width, value c y x = value' c y x) :
    batch.WrittenAt written slots channels height width slot value' where
  type := h.type
  shape := h.shape
  here c channel y row x column :=
    (h.here c channel y row x column).trans (same c channel y row x column)
  elsewhere := h.elsewhere

theorem WrittenAt.eq_iff {batch written written' : Tensor}
    {slots channels height width slot : Nat} {value value' : Nat → Nat → Nat → Scalar}
    (h : batch.WrittenAt written slots channels height width slot value)
    (h' : batch.WrittenAt written' slots channels height width slot value') :
    written = written' ↔
      ∀ c < channels, ∀ y < height, ∀ x < width, value c y x = value' c y x := by
  refine ⟨fun equal c channel y row x column => ?_, fun same => ?_⟩
  · rw [← h.here c channel y row x column, equal, h'.here c channel y row x column]
  refine (SameFrom.of_inside (h.type.trans h'.type.symm) (h.shape.trans h'.shape.symm)
    fun k inside _ => ?_).eq
  rw [size_eq_volume, h.shape, volume, volume_planes] at inside
  obtain ⟨i, known, c, channel, y, row, x, column, rfl⟩ := exists_planePlace inside
  show written.cell channels height width i c y x = written'.cell channels height width i c y x
  by_cases here : i = slot
  · rw [here, h.here c channel y row x column, h'.here c channel y row x column,
      same c channel y row x column]
  · rw [h.elsewhere i known here c channel y row x column,
      h'.elsewhere i known here c channel y row x column]

end Tensor

namespace Tensor

/-- An image of the right channels is brought to the size of a slot and scaled, and its planes are
written over the slot. -/
theorem loadFrame_of_image [Resizer] {batch : Tensor} {frame : Frame} {img : Image} {factor : Value}
    {slots height width slot : Nat} (image : frame.image = .ok img) (tall : 0 < img.height)
    (wide : 0 < img.width) (shape : batch.shape = [slots, img.channels, height, width])
    (inside : slot < slots) :
    batch.loadFrame frame factor (.int slot) = (do
      let r ← img.fitted height width
      let scaled ← r.planar.scale factor
      batch.writeSlots [img.channels, height, width] (.one slot) scaled) := by
  have filled : ¬ (img.height = 0 || img.width = 0) = true := by
    simp
    omega
  rw [loadFrame, image]
  simp only [ok_bind, shape, slotInRange_of_lt inside, Bool.not_true, Bool.false_eq_true, if_false,
    if_neg filled, ne_eq, not_true_eq_false]
  rfl

theorem writeSlots_of_fits {batch source : Tensor} {slotShape : List Nat}
    (fits : source.shape = slotShape) (slot : Nat) :
    batch.writeSlots slotShape (.one slot) source = .ok (batch.writeSlot slotShape slot source) := by
  simp only [writeSlots, fits, Broadcast.fits_self, if_true]

end Tensor

end FrameBatch
