import FrameBatch.Proofs.Tensor.Bilinear
import FrameBatch.Proofs.Tensor.Nested

namespace FrameBatch

/-- A number of an array times a real: formed in the type of the array if that is real, else in
64-bit reals. A factor equal to one multiplies nothing. -/
def NumberType.scaled (type : NumberType) (factor : Binary) (v : Scalar) : Scalar :=
  if factor.same (.ofInt 1) then v
  else
    let times (f : Format) : Scalar := .real (f.mul (f.round v.toBinary) (f.round factor))
    match type.storage with
    | .real f => times f
    | .complex => times .single
    | _ => times .double

namespace Tensor

theorem product_timesReal (type : NumberType) (v : Scalar) {factor : Binary}
    (apart : factor.same (.ofInt 1) = false) :
    product type.timesReal v (.real factor) = type.scaled factor v := by
  rw [NumberType.scaled, if_neg (by simp [apart])]
  cases type with
  | element t => cases t <;> rfl
  | _ => rfl

theorem scale_float (t : Tensor) (factor : Binary) :
    ∃ scaled, t.scale (.float factor) = .ok scaled ∧ scaled.shape = t.shape ∧
      ∀ k < t.size, scaled.get k = t.type.scaled factor (t.get k) := by
  cases one : factor.same (.ofInt 1) with
  | true =>
    have given : (Value.float factor).sameScalar (.int 1) = true := one
    refine ⟨t, by rw [scale, Factor.ofValue, given]; rfl, rfl, fun k _ => ?_⟩
    rw [NumberType.scaled, if_pos one]
  | false =>
    have given : (Value.float factor).sameScalar (.int 1) = false := one
    refine ⟨t.timesScalar t.type.timesReal (.real factor), ?_, rfl, fun k inside => ?_⟩
    · rw [scale, Factor.ofValue, given]
      rfl
    · rw [timesScalar, get_mapPlaces _ _ _ inside, product_timesReal _ _ one]

theorem loadFrame_of_scale [Resizer] [LawfulResizer] {batch : Tensor} {frame : Frame}
    {img r : Image} {factor : Value}
    {slots height width slot : Nat} {scaled : Tensor} (value : Scalar → Scalar)
    (image : frame.image = .ok img) (tall : 0 < img.height) (wide : 0 < img.width)
    (shape : batch.shape = [slots, img.channels, height, width]) (inside : slot < slots)
    (fits : img.fitted height width = .ok r) (scales : r.planar.scale factor = .ok scaled)
    (kept : scaled.shape = r.planar.shape)
    (each : ∀ k < r.planar.size, scaled.get k = value (r.planar.get k)) :
    ∃ loaded, batch.loadFrame frame factor (.int slot) = .ok loaded ∧
      batch.WrittenAt loaded slots img.channels height width slot
        fun c y x => batch.type.cast (value (r.pixel y x c)) := by
  obtain ⟨rfl, rfl, channels, -⟩ := Image.fitted_cases fits
  have same : scaled.shape = [img.channels, r.height, r.width] := by
    rw [kept, ← channels]
    rfl
  have written := writtenAt_writeSlot shape inside same
  refine ⟨_, ?_, written.type, written.shape, fun c channel y row x column => ?_, written.elsewhere⟩
  · rw [loadFrame_of_image image tall wide shape inside, fits]
    simp only [ok_bind, scales, writeSlots_of_fits same]
  · rw [← channels] at channel
    have place : planePlace r.height r.width c y x < r.planar.size := by
      rw [size_eq_volume]
      exact volume_planes ▸ planePlace_lt channel row column
    rw [written.here c (channels ▸ channel) y row x column, each _ place,
      r.get_planar channel row column]

/-- A frame loaded with a real factor puts each of its pixels, resized if need be, at the same row
and column of the plane of its channel in one slot, times the factor and in the type of the batch,
and leaves the other slots as they are. Only a frame that the library fails to resize is refused. -/
theorem pixels_loaded [Resizer] [LawfulResizer] {batch : Tensor} {frame : Frame} {img : Image}
    {slots height width slot : Nat} (factor : Binary) (depicts : frame.Depicts img)
    (tall : 0 < img.height) (wide : 0 < img.width)
    (shape : batch.shape = [slots, img.channels, height, width]) (inside : slot < slots) :
    (∀ loaded, batch.loadFrame frame (.float factor) (.int slot) = .ok loaded →
      ∃ r, img.Fitting height width r ∧
        batch.WrittenAt loaded slots img.channels height width slot
          fun c y x => batch.type.cast (img.type.scaled factor (r.pixel y x c))) ∧
    (∀ f, batch.loadFrame frame (.float factor) (.int slot) = .error f →
      ¬ (img.height = height ∧ img.width = width) ∧
        Resizer.resize img (width, height) = .error f) := by
  have image := depicts.image tall wide
  cases fits : img.fitted height width with
  | error f =>
    have fails : batch.loadFrame frame (.float factor) (.int slot) = .error f := by
      rw [loadFrame_of_image image tall wide shape inside, fits]
      rfl
    simp only [fails, reduceCtorEq, false_implies, implies_true, true_and, Except.error.injEq]
    rintro _ rfl
    exact Image.fitted_error fits
  | ok r =>
    obtain ⟨scaled, scales, kept, each⟩ := r.planar.scale_float factor
    obtain ⟨-, -, -, type⟩ := Image.fitted_cases fits
    obtain ⟨loaded, loads, written⟩ :=
      loadFrame_of_scale _ image tall wide shape inside fits scales kept each
    have same : r.planar.type = img.type := type
    rw [same] at written
    simp only [loads, Except.ok.injEq, reduceCtorEq, false_implies, implies_true, and_true]
    rintro _ rfl
    exact ⟨r, Image.fitting_of_fitted fits, written⟩

def threeRows : Image := .ofFn (.element .u8) 3 2 1 fun y x _ => .whole (40 * y + x)

theorem loaded_threeRows :
    let blank := zeros (.element .f32) [2, 1, 1, 2]
    let half := Binary.finite false 1 (-1)
    (0 < threeRows.height ∧ 0 < threeRows.width) ∧
      blank.shape = [2, threeRows.channels, 1, 2] ∧
      ∃ loaded, blank.loadFrame (.packed threeRows.tensor) (.float half) (.int 1) = .ok loaded ∧
        loaded.cell 1 1 2 1 0 0 1 = .real (.finite false 10747904 (-19)) ∧
        loaded.cell 1 1 2 0 0 0 1 = blank.cell 1 1 2 0 0 0 1 := by
  intro blank half
  have tall : 0 < threeRows.height := by decide
  have wide : 0 < threeRows.width := by decide
  have shape : blank.shape = [2, threeRows.channels, 1, 2] := rfl
  have depicts : (Frame.packed threeRows.tensor).Depicts threeRows := .packed
  have second : 1 < 2 := by decide
  obtain ⟨returned, refused⟩ := pixels_loaded half depicts tall wide shape second
  refine ⟨⟨tall, wide⟩, shape, ?_⟩
  cases loads : blank.loadFrame (.packed threeRows.tensor) (.float half) (.int 1) with
  | error f => cases (refused f loads).2
  | ok loaded =>
    obtain ⟨r, fitting, written⟩ := returned loaded loads
    refine ⟨loaded, rfl, (written.here 0 (by decide) 0 (by decide) 1 (by decide)).trans ?_,
      written.elsewhere 0 (by decide) (by decide) 0 (by decide) 0 (by decide) 1 (by decide)⟩
    cases fitting with
    | same high => exact absurd high (by decide)
    | resized _ resizes _ wide channels _ _ get =>
      cases resizes
      rw [Image.pixel, Tensor.pixel, wide, channels, get]
      decide +kernel

end Tensor

end FrameBatch
