import FrameBatch.Proofs.Act.Ends
import FrameBatch.Proofs.Tensor.Factors

namespace FrameBatch

namespace NumberType

def IsWhole (type : NumberType) : Prop := ∃ signed bits, type.storage = .whole signed bits

def InRange (type : NumberType) (k : Int) : Prop :=
  ∃ signed bits, type.storage = .whole signed bits ∧
    (wholeRange signed bits).1 ≤ k ∧ k ≤ (wholeRange signed bits).2

theorem inRange_one {type : NumberType} (whole : type.IsWhole) : type.InRange 1 := by
  obtain ⟨signed, bits, stored⟩ := whole
  refine ⟨signed, bits, stored, ?_⟩
  cases type with
  | element t => cases t <;> cases stored <;> decide
  | truth => cases stored
  | u32 => cases stored; decide
  | u64 => cases stored; decide
  | complex => cases stored

end NumberType

theorem Image.eq_of_tensor {img img' : Image} (same : img.tensor = img'.tensor) : img = img' := by
  have read := img.ofTensor_tensor
  rw [same, img'.ofTensor_tensor] at read
  exact (Except.ok.inj read).symm

namespace Tensor

/-- Why a batch cannot take an array of numbers in a slot, times a factor. -/
inductive Unfit [Resizer] (batch t : Tensor) (factor : Value) (index : Int) : Prop
  | noImage (other : t.rank ≠ 3)
  | notPlanar (other : batch.rank ≠ 4)
  | noSlot {slots : Nat} {rest : List Nat} (shape : batch.shape = slots :: rest)
    (outside : index < 0 ∨ slots ≤ index)
  | empty {height width channels : Nat} (shape : t.shape = [height, width, channels])
    (nothing : height = 0 ∨ width = 0)
  | channels {height width channels slots planes : Nat} {rest : List Nat}
    (shape : t.shape = [height, width, channels]) (planar : batch.shape = slots :: planes :: rest)
    (differ : channels ≠ planes)
  | unresized {img : Image} {slots planes height width : Nat} {f : Fault} (image : img.tensor = t)
    (planar : batch.shape = [slots, planes, height, width])
    (needed : img.height ≠ height ∨ img.width ≠ width)
    (fails : Resizer.resize img (width, height) = .error f)
  | factor {k : Int} (whole : factor = .int k) (outside : ¬ t.type.InRange k)

section

variable {batch t : Tensor} {frame : Frame} {factor : Value} {index : Int}

theorem scale_whole (whole : t.type.IsWhole) (k : Int) :
    (t.type.InRange k → ∃ scaled, t.scale (.int k) = .ok scaled ∧ scaled.shape = t.shape) ∧
      (¬ t.type.InRange k → ∃ f, t.scale (.int k) = .error f) := by
  obtain ⟨signed, bits, stored⟩ := whole
  rw [scale, Factor.ofValue, sameScalar_one]
  by_cases one : k = 1
  · subst one
    have inside := NumberType.inRange_one ⟨signed, bits, stored⟩
    exact ⟨fun _ => ⟨t, rfl, rfl⟩, fun outside => absurd inside outside⟩
  · have numbers : t.type ≠ .truth := by
      intro truth
      rw [truth] at stored
      cases stored
    simp only [one, decide_false, Bool.false_eq_true, if_false, ok_bind, scaleBy, numbers,
      wholeFactor, stored, Bool.and_eq_true, decide_eq_true_eq]
    constructor
    · rintro ⟨signed', bits', stored', inside⟩
      cases stored.symm.trans stored'
      rw [if_pos inside]
      exact ⟨_, rfl, rfl⟩
    · intro outside
      rw [if_neg fun inside => outside ⟨signed, bits, stored, inside⟩]
      exact ⟨_, rfl⟩

theorem slotInRange_int (index : Int) (slots : Nat) :
    slotInRange (.int index) slots = .ok (decide (0 ≤ index) && decide (index < slots)) := by
  simp [slotInRange, Value.number?, Binary.le_ofInt, Binary.lt_ofInt]

theorem loadFrame_ok [Resizer] {loaded : Tensor}
    (h : batch.loadFrame frame factor (.int index) = .ok loaded) :
    ∃ (img r : Image) (slots height width : Nat) (scaled : Tensor), frame.image = .ok img ∧
      batch.shape = [slots, img.channels, height, width] ∧ (0 ≤ index ∧ index < slots) ∧
      (img.height ≠ 0 ∧ img.width ≠ 0) ∧ img.fitted height width = .ok r ∧
      r.planar.scale factor = .ok scaled := by
  obtain ⟨img, image, h⟩ := bind_ok h
  split at h
  · rename_i slots channels height width shape
    simp only [slotInRange_int, ok_bind] at h
    split at h
    · cases h
    · rename_i inside
      split at h
      · cases h
      · rename_i filled
        split at h
        · cases h
        · rename_i same
          have h : (do
              let r ← img.fitted height width
              let scaled ← r.planar.scale factor
              batch.writeSlots [channels, height, width] (← SlotChoice.ofValue (.int index))
                scaled) = .ok loaded := h
          obtain ⟨r, fits, h⟩ := bind_ok h
          obtain ⟨scaled, scales, -⟩ := bind_ok h
          simp only [Bool.not_eq_true', Bool.not_eq_false, Bool.and_eq_true, decide_eq_true_eq]
            at inside
          simp only [Bool.or_eq_true, decide_eq_true_eq, not_or] at filled
          refine ⟨img, r, slots, height, width, scaled, image, ?_, inside, filled, fits, scales⟩
          rw [shape, Decidable.not_not.1 same]
  · cases h

theorem image_of_tensor (array : frame.tensor = .ok t) {img : Image}
    (image : frame.image = .ok img) : img.tensor = t := by
  rw [Frame.image, array, ok_bind] at image
  unfold Image.ofTensor at image
  split at image
  · cases image
    rfl
  · cases image

theorem exists_image (array : frame.tensor = .ok t) (rank : t.rank = 3) :
    ∃ img : Image, frame.image = .ok img ∧ img.tensor = t := by
  obtain ⟨height, width, channels, shape⟩ := List.length_eq_three.1 rank
  let img : Image := ⟨t, height, width, channels, shape⟩
  refine ⟨img, ?_, rfl⟩
  rw [Frame.image, array, ok_bind]
  exact img.ofTensor_tensor

theorem Unfit.refused [Resizer] [LawfulResizer] (unfit : batch.Unfit t factor index)
    (array : frame.tensor = .ok t)
    (number : (∃ x, factor = .float x) ∨ t.type.IsWhole ∧ ∃ k, factor = .int k) :
    ∃ f, batch.loadFrame frame factor (.int index) = .error f := by
  cases loads : batch.loadFrame frame factor (.int index) with
  | error f => exact ⟨f, rfl⟩
  | ok loaded =>
    exfalso
    obtain ⟨img, r, slots, height, width, scaled, image, shape, inside, filled, fits, scales⟩ :=
      loadFrame_ok loads
    obtain rfl := image_of_tensor array image
    have dims := img.shape_eq
    cases unfit with
    | noImage other =>
      apply other
      rw [rank, dims]
      rfl
    | notPlanar other =>
      apply other
      rw [rank, shape]
      rfl
    | noSlot shape' outside =>
      cases shape.symm.trans shape'
      omega
    | empty shape' nothing =>
      cases dims.symm.trans shape'
      omega
    | channels shape' planar differ =>
      cases shape.symm.trans planar
      cases dims.symm.trans shape'
      exact differ rfl
    | @unresized img' _ _ _ _ f same planar needed fails =>
      obtain rfl := Image.eq_of_tensor same
      cases shape.symm.trans planar
      have apart : ¬ (img'.height = height ∧ img'.width = width) := by omega
      rw [Image.fitted_of_apart apart, fails] at fits
      cases fits
    | @factor k whole outside =>
      subst whole
      obtain ⟨x, other⟩ | ⟨type, -⟩ := number
      · cases other
      · have same : r.planar.type = img.tensor.type := (Image.fitted_cases fits).2.2.2
        rw [← same] at type outside
        obtain ⟨f, refused⟩ := (scale_whole type k).2 outside
        cases scales.symm.trans refused

theorem loadFrame_of_fit [Resizer] [LawfulResizer] (fit : ¬ batch.Unfit t factor index)
    (array : frame.tensor = .ok t)
    (number : (∃ x, factor = .float x) ∨ t.type.IsWhole ∧ ∃ k, factor = .int k) :
    ∃ loaded, batch.loadFrame frame factor (.int index) = .ok loaded := by
  have rank : t.rank = 3 := by
    by_contra other
    exact fit (.noImage other)
  obtain ⟨img, image, rfl⟩ := exists_image array rank
  have dims := img.shape_eq
  obtain ⟨slots, planes, height, width, shape⟩ : ∃ slots planes height width,
      batch.shape = [slots, planes, height, width] := by
    apply List.length_eq_four.1
    by_contra other
    exact fit (.notPlanar other)
  have inside : 0 ≤ index ∧ index < slots := by
    by_contra outside
    exact fit (.noSlot shape (by omega))
  have filled : img.height ≠ 0 ∧ img.width ≠ 0 := by
    by_contra nothing
    exact fit (.empty dims (by omega))
  have same : img.channels = planes := by
    by_contra differ
    exact fit (.channels dims shape differ)
  subst same
  obtain ⟨r, fits⟩ : ∃ r, img.fitted height width = .ok r := by
    cases fits : img.fitted height width with
    | ok r => exact ⟨r, rfl⟩
    | error f =>
      obtain ⟨apart, fails⟩ := Image.fitted_error fits
      exact absurd (.unresized rfl shape (by omega) fails) fit
  obtain ⟨high, wide, channels, type⟩ := Image.fitted_cases fits
  obtain ⟨scaled, scales, kept⟩ :
      ∃ scaled, r.planar.scale factor = .ok scaled ∧ scaled.shape = r.planar.shape := by
    obtain ⟨x, rfl⟩ | ⟨whole, k, rfl⟩ := number
    · exact r.planar.scale_of_real x
    · have same : r.planar.type = img.tensor.type := type
      rw [← same] at whole
      apply (scale_whole whole k).1
      by_contra outside
      rw [same] at outside
      exact fit (.factor rfl outside)
  have slot : index = (index.toNat : Int) := by omega
  have planar : scaled.shape = [img.channels, height, width] := by
    rw [kept, ← high, ← wide, ← channels]
    rfl
  refine ⟨batch.writeSlot [img.channels, height, width] index.toNat scaled, ?_⟩
  rw [slot, loadFrame_of_image image (by omega) (by omega) shape (by omega), fits]
  simp only [ok_bind, scales, writeSlots_of_fits planar, Int.toNat_natCast]

end

def put (t : Tensor) (place : Nat) (v : Scalar) : Tensor :=
  t.mapPlaces t.type fun k old => if k = place then t.type.cast v else old

/-- The element of a source that is meant for a place in a slot. -/
def elementFor (source : Tensor) (slotShape : List Nat) (place : Nat) : Scalar :=
  source.get (Broadcast.place source.shape.reverse slotShape.reverse place)

def storeEach (slotShape : List Nat) (slot : Nat) (source : Tensor) : List Nat → Act Tensor Unit
  | [] => return
  | place :: rest => do
    Act.modify fun batch =>
      batch.put (slot * volume slotShape + place) (source.elementFor slotShape place)
    storeEach slotShape slot source rest

/-- A frame loaded into a batch where it stands: once its planes are made and fit a slot, the
elements of the slot are stored one after the other. -/
def load [Resizer] (frame : Frame) (factor : Value) (index : Int) : Act Tensor Unit := do
  let batch ← Act.get
  let slotShape := batch.shape.tail
  let source ← planes batch.shape frame factor (.int index)
  if Broadcast.fits source.shape.reverse slotShape.reverse then
    storeEach slotShape index.toNat source (List.range (volume slotShape))
  else
    Act.fail (.failed .value ("could not broadcast input array from shape "
      ++ Text.ofShapeTight source.shape ++ " into shape " ++ Text.ofShapeTight slotShape))

section

variable {batch batch' : Tensor} {slotShape : List Nat}

theorem get_put (t : Tensor) (place : Nat) (v : Scalar) {k : Nat} (inside : k < t.size) :
    (t.put place v).get k = if k = place then t.type.cast v else t.get k :=
  get_mapPlaces _ _ _ inside

theorem storeEach_ends {places : List Nat} (within : ∀ place ∈ places, place < volume slotShape)
    (slot : Nat) (source batch : Tensor) :
    ∃ stored, (storeEach slotShape slot source places).Ends batch (.ok ()) stored ∧
      stored.type = batch.type ∧ stored.shape = batch.shape ∧ ∀ k < batch.size, stored.get k =
        if k / volume slotShape = slot ∧ k % volume slotShape ∈ places then
          batch.type.cast (source.elementFor slotShape (k % volume slotShape))
        else batch.get k := by
  induction places generalizing batch with
  | nil => exact ⟨batch, Act.ends_pure.2 ⟨rfl, rfl⟩, rfl, rfl, by simp⟩
  | cons place rest ih =>
    have below := within place List.mem_cons_self
    obtain ⟨stored, ends, type, shape, holds⟩ := ih
      (fun other member => within other (List.mem_cons_of_mem _ member))
      (batch.put (slot * volume slotShape + place) (source.elementFor slotShape place))
    refine ⟨stored, ?_, type, shape, fun k inside => ?_⟩
    · rw [storeEach, Act.ends_bind_of_ok (Act.ends_modify.2 ⟨rfl, rfl⟩)]
      exact ends
    · have here : k = slot * volume slotShape + place ↔
          k / volume slotShape = slot ∧ k % volume slotShape = place := by
        constructor
        · rintro rfl
          exact ⟨mul_add_div_of_lt below, mul_add_mod_of_lt below⟩
        · rintro ⟨rfl, rfl⟩
          exact (Nat.div_add_mod' _ _).symm
      rw [holds k (by simpa [put, mapPlaces, size] using inside), get_put _ _ _ inside]
      by_cases same : k / volume slotShape = slot
      · by_cases first : k % volume slotShape = place
        · simp [here, same, first, put, mapPlaces]
        · simp [here, same, first, put, mapPlaces]
      · simp [here, same]

theorem storeEach_slot (shape : batch.shape.tail = slotShape) (slot : Nat) (source : Tensor) :
    (storeEach slotShape slot source (List.range (volume slotShape))).Ends batch (.ok ())
      (batch.writeSlot slotShape slot source) := by
  have within : ∀ place ∈ List.range (volume slotShape), place < volume slotShape :=
    fun place member => List.mem_range.1 member
  obtain ⟨stored, ends, type, kept, holds⟩ := storeEach_ends within slot source batch
  suffices same : SameFrom 0 stored (batch.writeSlot slotShape slot source) by rwa [← same.eq]
  refine .of_inside type kept fun k inside _ => ?_
  rw [size_eq_volume, kept, ← size_eq_volume] at inside
  have room : 0 < volume slotShape := by
    refine Nat.pos_of_ne_zero fun none => ?_
    rw [size_eq_volume] at inside
    cases dims : batch.shape with
    | nil =>
      rw [dims] at shape
      subst shape
      cases none
    | cons slots rest =>
      rw [dims] at shape inside
      subst shape
      rw [volume] at inside
      rw [List.tail_cons] at none
      rw [none, Nat.mul_zero] at inside
      omega
  rw [holds k inside, get_writeSlot _ _ _ _ inside]
  simp [elementFor, Nat.mod_lt k room]

/-- Loaded in place, a batch ends up as what loading makes of it, or stays as it is. -/
theorem load_ends [Resizer] {frame : Frame} {factor : Value} {index : Int} {r : Except Fault Unit} :
    (load frame factor index).Ends batch r batch' ↔
      batch.loadFrame frame factor (.int index) = .ok batch' ∧ r = .ok () ∨
        ∃ f, batch.loadFrame frame factor (.int index) = .error f ∧ r = .error f ∧
          batch' = batch := by
  rw [load, Act.ends_get_bind, loadFrame_eq]
  cases made : planes batch.shape frame factor (.int index) with
  | error f =>
    rw [Act.ends_bind_of_error (Act.ends_lift.2 ⟨rfl, rfl⟩)]
    simp [bind, Except.bind]
  | ok source =>
    rw [Act.ends_bind_of_ok (Act.ends_lift.2 ⟨rfl, rfl⟩)]
    simp only [ok_bind, SlotChoice.ofValue, writeSlots]
    split
    · have stores := storeEach_slot (rfl : batch.shape.tail = _) index.toNat source
      constructor
      · intro ends
        exact .inl ⟨congrArg Except.ok (stores.state.symm.trans ends.state),
          ends.result.symm.trans stores.result⟩
      · rintro (⟨same, rfl⟩ | ⟨f, same, -⟩)
        · cases same
          exact stores
        · cases same
    · rw [Act.ends_fail]
      simp

end

/-- A batch takes a frame, times a real or a whole number, unless it is unfit for one of the reasons
listed. Loaded in place it then stays as it is, and else becomes what loading makes of it. -/
theorem load_all_or_nothing [Resizer] [LawfulResizer] (batch : Tensor) {t : Tensor} {frame : Frame}
    {factor : Value} (index : Int) (array : frame.tensor = .ok t)
    (number : (∃ x, factor = .float x) ∨ t.type.IsWhole ∧ ∃ k, factor = .int k) :
    ((∃ f, (load frame factor index batch).result = .error f) ↔ batch.Unfit t factor index) ∧
      (∀ f, (load frame factor index batch).result = .error f →
        (load frame factor index batch).state = batch ∧
          batch.loadFrame frame factor (.int index) = .error f) ∧
      ∀ loaded, (load frame factor index).Ends batch (.ok ()) loaded ↔
        batch.loadFrame frame factor (.int index) = .ok loaded := by
  have fails (f : Fault) (failed : (load frame factor index batch).result = .error f) :
      (load frame factor index batch).state = batch ∧
        batch.loadFrame frame factor (.int index) = .error f := by
    obtain ⟨-, same⟩ | ⟨f', loads, same, kept⟩ := load_ends.1 ⟨failed, rfl⟩
    · cases same
    · cases same
      exact ⟨kept, loads⟩
  refine ⟨⟨?_, ?_⟩, fails, fun loaded => ?_⟩
  · rintro ⟨f, failed⟩
    by_contra fit
    obtain ⟨loaded, loads⟩ := loadFrame_of_fit fit array number
    cases loads.symm.trans (fails f failed).2
  · intro unfit
    obtain ⟨f, refused⟩ := unfit.refused array number
    exact ⟨f, (load_ends.2 (.inr ⟨f, refused, rfl, rfl⟩)).result⟩
  · rw [load_ends]
    simp

theorem nothing_of_threeRows :
    let blank := zeros (.element .f32) [1, 1, 3, 2]
    let frame := Frame.packed threeRows.tensor
    let half := Value.float (.finite false 1 (-1))
    frame.tensor = .ok threeRows.tensor ∧ threeRows.tensor.type.IsWhole ∧
      (∃ loaded, (load frame half 0).Ends blank (.ok ()) loaded) ∧
      (∃ f, (load frame (.int 300) 0 blank).result = .error f) ∧
      (load frame (.int 300) 0 blank).state = blank ∧
      (∃ f, (load frame half (-1) blank).result = .error f) ∧
      (load frame half (-1) blank).state = blank := by
  intro blank frame half
  have array : frame.tensor = .ok threeRows.tensor := rfl
  have whole : threeRows.tensor.type.IsWhole := ⟨false, 8, rfl⟩
  have wide : blank.Unfit threeRows.tensor (.int 300) 0 := by
    refine .factor rfl ?_
    rintro ⟨signed, bits, stored, -, most⟩
    cases stored
    revert most
    decide
  have below : blank.Unfit threeRows.tensor half (-1) := .noSlot rfl (.inl (by decide))
  obtain ⟨-, -, taken⟩ := load_all_or_nothing blank 0 array (.inl ⟨_, rfl⟩)
  obtain ⟨refused, kept, -⟩ := load_all_or_nothing blank 0 array (.inr ⟨whole, 300, rfl⟩)
  obtain ⟨refused', kept', -⟩ := load_all_or_nothing blank (-1) array (.inl ⟨_, rfl⟩)
  obtain ⟨f, fails⟩ := refused.2 wide
  obtain ⟨f', fails'⟩ := refused'.2 below
  have loads : ∃ loaded, blank.loadFrame frame half (.int 0) = .ok loaded := ⟨_, rfl⟩
  obtain ⟨loaded, loads⟩ := loads
  exact ⟨array, whole, ⟨loaded, (taken loaded).2 loads⟩, ⟨f, fails⟩, (kept f fails).1, ⟨f', fails'⟩,
    (kept' f' fails').1⟩

end Tensor

end FrameBatch
