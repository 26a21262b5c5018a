import FrameBatch.Location
import FrameBatch.Proofs.Tensor.Resizer
import FrameBatch.Tensor.Slot

namespace FrameBatch

variable {α : Type}

namespace Fault

/-- A batch of frames was no batch of images, or had no slot for a frame. -/
def Misfit (f : Fault) : Prop :=
  (∃ shape, f = .refused (.notPlanar shape)) ∨
    ∃ index slots, f = .refused (.slotOutOfRange index slots)

theorem failed_not_misfit (kind : FaultKind) (text : String) :
    ¬ (Fault.failed kind text).Misfit := by
  rintro (⟨_, same⟩ | ⟨_, _, same⟩) <;> cases same

end Fault

abbrev Fits (x : Except Fault α) : Prop := Fails (fun f => ¬ f.Misfit) x

theorem fits_failed (kind : FaultKind) (text : String) :
    Fits (.error (.failed kind text) : Except Fault α) :=
  fails_error (Fault.failed_not_misfit kind text)

theorem fits_toInt (v : Value) : Fits v.toInt := by
  unfold Value.toInt
  split
  · exact fails_ok _ _
  · exact fails_ok _ _
  · split
    · exact fails_ok _ _
    · split <;> exact fits_failed _ _
  · split <;> first | exact fails_ok _ _ | exact fits_failed _ _
  · exact fits_failed _ _

theorem fits_members (v : Value) : Fits v.members := by
  cases v <;> first | exact fails_ok _ _ | exact fits_failed _ _

theorem Rect.fits_ofValue (location : Value) : Fits (Rect.ofValue location) := by
  unfold Rect.ofValue
  split
  · exact fails_ok _ _
  · refine (fits_members location).bind fun items _ => ?_
    split
    · exact (fits_toInt _).bind fun _ _ => (fits_toInt _).bind fun _ _ =>
        (fits_toInt _).bind fun _ _ => (fits_toInt _).bind fun _ _ => fails_ok _ _
    · refine fails_error ?_
      rintro (⟨_, same⟩ | ⟨_, _, same⟩) <;> cases same

theorem fits_gathered (v : Value) : Fits (Gathered.ofValue v) := by
  unfold Gathered.ofValue
  split
  · exact fits_failed _ _
  · split <;> exact fails_ok _ _

theorem Frame.fits_image (frame : Frame) : Fits frame.image := by
  have tensor : Fits frame.tensor := by
    cases frame with
    | packed t => exact fails_ok _ _
    | onDevice t => exact fails_ok _ _
    | loose v =>
      refine (fits_gathered v).bind fun gathered _ => ?_
      split
      · exact fails_ok _ _
      all_goals
        split
        · exact fits_failed _ _
        · refine fails_error ?_
          rintro (⟨_, same⟩ | ⟨_, _, same⟩) <;> cases same
  refine tensor.bind fun t _ => ?_
  unfold Image.ofTensor
  split
  · exact fails_ok _ _
  · refine fails_error ?_
    rintro (⟨_, same⟩ | ⟨_, _, same⟩) <;> cases same

theorem Image.fits_fitted [Resizer] [LawfulResizer] (img : Image) (height width : Nat) :
    Fits (img.fitted height width) := by
  intro f fails
  obtain ⟨text, rfl⟩ := LawfulResizer.fault (fitted_error fails).2
  exact Fault.failed_not_misfit _ _

theorem Factor.fits_ofValue (v : Value) : Fits (Factor.ofValue v) := by
  unfold Factor.ofValue
  split
  · exact fails_ok _ _
  · split
    · exact fails_ok _ _
    · exact fails_ok _ _
    · exact fails_ok _ _
    · refine (fits_gathered _).bind fun gathered _ => ?_
      split <;> exact fails_ok _ _

theorem Image.ofTensor_tensor (img : Image) : Image.ofTensor img.tensor = .ok img := by
  obtain ⟨t, height, width, channels, shape⟩ := img
  unfold Image.ofTensor
  split
  · rename_i shape'
    cases shape.symm.trans shape'
    rfl
  · rename_i other
    exact absurd shape (other _ _ _)

theorem Broadcast.fits_self (shape : List Nat) : Broadcast.fits shape shape = true := by
  induction shape with
  | nil => rfl
  | cons n rest ih => simp [Broadcast.fits, ih]

namespace Tensor

theorem fits_wholeFactor (type : NumberType) (z : Int) : Fits (wholeFactor type z) := by
  unfold wholeFactor
  split
  · dsimp only
    split
    · exact fails_ok _ _
    · exact fits_failed _ _
  · split
    · exact fails_ok _ _
    · exact fits_failed _ _

theorem fits_scaleBy (t : Tensor) (factor : Factor) : Fits (t.scaleBy factor) := by
  cases factor with
  | one => exact fails_ok _ _
  | real x => exact fails_ok _ _
  | truth b => exact fails_ok _ _
  | whole z => exact (fits_wholeFactor _ z).bind fun _ _ => fails_ok _ _
  | array u =>
    simp only [scaleBy]
    split
    · exact fails_ok _ _
    · exact fits_failed _ _
  | texts length => exact fits_failed _ _
  | others shape typeName =>
    simp only [scaleBy]
    split
    · exact fits_failed _ _
    · split
      · exact fails_ok _ _
      · exact fits_failed _ _

theorem fits_scale (t : Tensor) (factor : Value) : Fits (t.scale factor) :=
  (Factor.fits_ofValue factor).bind fun f _ => fits_scaleBy t f

theorem fits_writeSlots (batch : Tensor) (slotShape : List Nat) (choice : SlotChoice)
    (source : Tensor) : Fits (batch.writeSlots slotShape choice source) := by
  unfold writeSlots
  split <;> split <;> first | exact fails_ok _ _ | exact fits_failed _ _

theorem slotInRange_of_lt {k slots : Nat} (below : k < slots) :
    slotInRange (.int k) slots = .ok true := by
  have least : (0 : Int) ≤ k := by omega
  have most : (k : Int) < slots := by omega
  simp [slotInRange, Value.number?, Binary.le_ofInt, Binary.lt_ofInt, least, most]

theorem fits_loadFrame [Resizer] [LawfulResizer] {batch : Tensor}
    {slots channels height width k : Nat}
    (planar : batch.shape = [slots, channels, height, width]) (below : k < slots) (frame : Frame)
    (factor : Value) : Fits (batch.loadFrame frame factor (.int k)) := by
  refine (Frame.fits_image frame).bind fun img _ => ?_
  rw [planar]
  refine Fails.bind (by rw [slotInRange_of_lt below]; exact fails_ok _ _) fun inside found => ?_
  cases (slotInRange_of_lt below).symm.trans found
  simp only [Bool.not_true, Bool.false_eq_true, if_false]
  split
  · refine fails_error ?_
    rintro (⟨_, same⟩ | ⟨_, _, same⟩) <;> cases same
  · split
    · refine fails_error ?_
      rintro (⟨_, same⟩ | ⟨_, _, same⟩) <;> cases same
    · have rest (fitted : Image) : Fits (do
          let scaled ← fitted.planar.scale factor
          batch.writeSlots [channels, height, width] (← SlotChoice.ofValue (.int k)) scaled) :=
        (fits_scale _ factor).bind fun scaled _ =>
          Fails.bind (fails_ok _ _) fun choice _ => fits_writeSlots _ _ choice scaled
      exact (Image.fits_fitted img height width).bind fun fitted _ => rest fitted

theorem shape_writeSlots {batch batch' source : Tensor} {slotShape : List Nat}
    {choice : SlotChoice} (h : batch.writeSlots slotShape choice source = .ok batch') :
    batch'.shape = batch.shape := by
  unfold writeSlots at h
  split at h <;> split at h <;> cases h <;> rfl

theorem shape_loadFrame [Resizer] {batch batch' : Tensor} {frame : Frame} {factor index : Value}
    (h : batch.loadFrame frame factor index = .ok batch') : batch'.shape = batch.shape := by
  obtain ⟨img, _, h⟩ := bind_ok h
  split at h
  · obtain ⟨inside, _, h⟩ := bind_ok h
    have written {fitted : Image} {slotShape : List Nat} (h : (do
        let scaled ← fitted.planar.scale factor
        batch.writeSlots slotShape (← SlotChoice.ofValue index) scaled) = .ok batch') :
        batch'.shape = batch.shape := by
      obtain ⟨scaled, _, h⟩ := bind_ok h
      obtain ⟨choice, _, h⟩ := bind_ok h
      exact shape_writeSlots h
    split at h
    · cases h
    · split at h
      · cases h
      · split at h
        · cases h
        · obtain ⟨fitted, _, h⟩ := bind_ok h
          exact written h
  · cases h

theorem scale_of_real (t : Tensor) (x : Binary) :
    ∃ scaled, t.scale (.float x) = .ok scaled ∧ scaled.shape = t.shape := by
  cases one : (Value.float x).sameScalar (.int 1) with
  | true => exact ⟨t, by rw [scale, Factor.ofValue, one]; rfl, rfl⟩
  | false =>
    refine ⟨t.timesScalar t.type.timesReal (.real x), ?_, rfl⟩
    rw [scale, Factor.ofValue, one]
    rfl

theorem loadFrame_of_resizable [Resizer] [LawfulResizer] {batch : Tensor}
    {slots height width k : Nat} {img : Image}
    (planar : batch.shape = [slots, img.channels, height, width]) (tall : 0 < height)
    (wide : 0 < width) (below : k < slots) (resizable : img.Resizable) (factor : Binary) :
    ∃ loaded, batch.loadFrame (.packed img.tensor) (.float factor) (.int k) = .ok loaded := by
  have image : Frame.image (.packed img.tensor) = .ok img := img.ofTensor_tensor
  have positive : ¬ (img.height = 0 || img.width = 0) = true := by
    have := resizable.tall
    have := resizable.wide
    simp
    omega
  obtain ⟨fitted, fits⟩ := resizable.fitted tall wide
  obtain ⟨high, broad, channels, -⟩ := Image.fitted_cases fits
  obtain ⟨scaled, scales, shape⟩ := fitted.planar.scale_of_real factor
  have same : scaled.shape = [img.channels, height, width] := by
    rw [shape, ← channels, ← high, ← broad]
    rfl
  refine ⟨batch.writeSlot [img.channels, height, width] k scaled, ?_⟩
  rw [loadFrame, image]
  simp only [ok_bind, planar, slotInRange_of_lt below, Bool.not_true, Bool.false_eq_true,
    if_false, if_neg positive, ne_eq, not_true_eq_false, fits, scales]
  show batch.writeSlots _ (.one k) scaled = _
  simp only [writeSlots, same, Broadcast.fits_self, if_true]

end Tensor

end FrameBatch
