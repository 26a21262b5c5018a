import FrameBatch.Fault
import FrameBatch.Proofs.Act.Fails
import FrameBatch.Tensor.Resizer

/-!
What is promised of a library that resizes images, and what follows for an image that is brought to
the size of a batch.
-/

namespace FrameBatch

/-- Every element is a number of the type of the array. -/
def Tensor.Stored (t : Tensor) : Prop := ∀ k < t.size, t.type.cast (t.get k) = t.get k

/-- An image that can be resized to any size. -/
structure Image.Resizable (img : Image) : Prop where
  supported : Resizer.supports img.type = true
  tall : 0 < img.height
  wide : 0 < img.width
  colours : 0 < img.channels
  few : img.channels ≤ Resizer.maxChannels

/-- The library keeps the type and the channels of an image and gives it the size that was asked
for, makes bytes of bytes, fails in its own way only, and takes the images that it supports. -/
class LawfulResizer [Resizer] : Prop where
  shape {img : Image} {width height : Nat} {t : Tensor} :
    Resizer.resize img (width, height) = .ok t →
      t.shape = if img.channels = 1 then [height, width] else [height, width, img.channels]
  type {img : Image} {size : Nat × Nat} {t : Tensor} :
    Resizer.resize img size = .ok t → t.type = img.type
  stored {img : Image} {size : Nat × Nat} {t : Tensor} :
    Resizer.resize img size = .ok t → img.type = .element .u8 → img.tensor.Stored → t.Stored
  fault {img : Image} {size : Nat × Nat} {f : Fault} :
    Resizer.resize img size = .error f → ∃ text, f = .failed .picture text
  takes {img : Image} {width height : Nat} :
    img.Resizable → 0 < width → 0 < height → ∃ t, Resizer.resize img (width, height) = .ok t

namespace Image

/-- The image itself if it has the size, and else what the library makes of it, row by row. -/
inductive Fitting [Resizer] (img : Image) (height width : Nat) (r : Image) : Prop
  | same (high : img.height = height) (wide : img.width = width) (same : r = img)
  | resized {t : Tensor} (apart : ¬ (img.height = height ∧ img.width = width))
    (resizes : Resizer.resize img (width, height) = .ok t) (high : r.height = height)
    (wide : r.width = width) (channels : r.channels = img.channels)
    (type : r.tensor.type = t.type) (size : r.tensor.size = t.size)
    (get : ∀ k, r.tensor.get k = t.get k)

variable {img r : Image} {height width : Nat}

theorem ofResized_flat {t : Tensor} (shape : t.shape = [height, width]) :
    ∃ r, ofResized t = .ok r ∧ r.height = height ∧ r.width = width ∧ r.channels = 1 ∧
      r.tensor.type = t.type ∧ r.tensor.data = t.data := by
  obtain ⟨type, dims, data, size⟩ := t
  subst shape
  exact ⟨_, rfl, rfl, rfl, rfl, rfl, rfl⟩

theorem ofResized_deep {t : Tensor} {channels : Nat} (shape : t.shape = [height, width, channels]) :
    ∃ r, ofResized t = .ok r ∧ r.height = height ∧ r.width = width ∧ r.channels = channels ∧
      r.tensor.type = t.type ∧ r.tensor.data = t.data := by
  obtain ⟨type, dims, data, size⟩ := t
  subst shape
  exact ⟨_, rfl, rfl, rfl, rfl, rfl, rfl⟩

variable [Resizer]

theorem fitted_self (img : Image) : img.fitted img.height img.width = .ok img := by
  simp [fitted]

theorem fitted_of_apart (apart : ¬ (img.height = height ∧ img.width = width)) :
    img.fitted height width = (do ofResized (← Resizer.resize img (width, height))) := by
  rw [fitted, if_neg (by simpa using apart)]

variable [LawfulResizer]

theorem fitted_of_resize {t : Tensor} (apart : ¬ (img.height = height ∧ img.width = width))
    (resizes : Resizer.resize img (width, height) = .ok t) :
    ∃ r, img.fitted height width = .ok r ∧ img.Fitting height width r := by
  have shape := LawfulResizer.shape resizes
  obtain ⟨r, made, high, wide, channels, type, data⟩ :
      ∃ r, ofResized t = .ok r ∧ r.height = height ∧ r.width = width ∧
        r.channels = img.channels ∧ r.tensor.type = t.type ∧ r.tensor.data = t.data := by
    split at shape
    · rename_i one
      rw [one]
      exact ofResized_flat shape
    · exact ofResized_deep shape
  refine ⟨r, by rw [fitted_of_apart apart, resizes, ok_bind, made], ?_⟩
  refine .resized apart resizes high wide channels type (congrArg Array.size data) fun k => ?_
  rw [Tensor.get, Tensor.get, data, type]

theorem fitted_error {f : Fault} (fails : img.fitted height width = .error f) :
    ¬ (img.height = height ∧ img.width = width) ∧
      Resizer.resize img (width, height) = .error f := by
  have apart : ¬ (img.height = height ∧ img.width = width) := by
    rintro ⟨rfl, rfl⟩
    rw [fitted_self] at fails
    cases fails
  refine ⟨apart, ?_⟩
  cases resizes : Resizer.resize img (width, height) with
  | error g =>
    rw [fitted_of_apart apart, resizes] at fails
    cases fails
    rfl
  | ok t =>
    obtain ⟨r, fits, -⟩ := fitted_of_resize apart resizes
    cases fits.symm.trans fails

theorem fitting_of_fitted (h : img.fitted height width = .ok r) : img.Fitting height width r := by
  by_cases same : img.height = height ∧ img.width = width
  · obtain ⟨rfl, rfl⟩ := same
    rw [fitted_self] at h
    cases h
    exact .same rfl rfl rfl
  · cases resizes : Resizer.resize img (width, height) with
    | error f =>
      rw [fitted_of_apart same, resizes] at h
      cases h
    | ok t =>
      obtain ⟨r', fits, fitting⟩ := fitted_of_resize same resizes
      cases h.symm.trans fits
      exact fitting

theorem fitted_cases (h : img.fitted height width = .ok r) :
    r.height = height ∧ r.width = width ∧ r.channels = img.channels ∧ r.type = img.type := by
  cases fitting_of_fitted h with
  | same high wide same => exact ⟨same ▸ high, same ▸ wide, same ▸ rfl, same ▸ rfl⟩
  | resized _ resizes high wide channels type =>
    exact ⟨high, wide, channels, type.trans (LawfulResizer.type resizes)⟩

theorem fitted_stored (u8 : img.type = .element .u8) (stored : img.tensor.Stored)
    (h : img.fitted height width = .ok r) : r.tensor.Stored := by
  cases fitting_of_fitted h with
  | same _ _ same => exact same ▸ stored
  | resized _ resizes _ _ _ type size get =>
    intro k inside
    rw [type, get]
    exact LawfulResizer.stored resizes u8 stored k (size ▸ inside)

theorem Resizable.fitted (resizable : img.Resizable) (tall : 0 < height) (wide : 0 < width) :
    ∃ r, img.fitted height width = .ok r := by
  cases fits : img.fitted height width with
  | ok r => exact ⟨r, rfl⟩
  | error f =>
    obtain ⟨t, resizes⟩ := LawfulResizer.takes resizable wide tall
    cases resizes.symm.trans (fitted_error fits).2

end Image

end FrameBatch
