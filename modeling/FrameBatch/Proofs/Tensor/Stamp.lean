import FrameBatch.Proofs.Tensor.Slot

namespace FrameBatch.Tensor

def slot (t : Tensor) (i : Nat) : List Scalar :=
  (List.range (volume t.shape.tail)).map fun j => t.get (i * volume t.shape.tail + j)

/-- A slot of the batch holds what loading a frame into it writes, whatever the batch held. -/
def Shows [Resizer] (t : Tensor) (i : Nat) (frame : Frame) (factor : Value) : Prop :=
  ∀ blank : Tensor, blank.type = t.type → blank.shape = t.shape →
    ∃ loaded, blank.loadFrame frame factor (.int i) = .ok loaded ∧ loaded.slot i = t.slot i

theorem get_of_le {t : Tensor} {k : Nat} (past : t.size ≤ k) : t.get k = t.type.zero := by
  have outside : ¬ k < t.data.size := Nat.not_lt.2 past
  simp [get, Array.getD, outside]

theorem slot_congr {t t' : Tensor} {i : Nat} (type : t.type = t'.type) (shape : t.shape = t'.shape)
    (same : ∀ k < t.size, k / volume t.shape.tail = i → t.get k = t'.get k) :
    t.slot i = t'.slot i := by
  unfold slot
  rw [← shape]
  refine List.map_congr_left fun j inside => ?_
  have inside := List.mem_range.1 inside
  by_cases bound : i * volume t.shape.tail + j < t.size
  · refine same _ bound ?_
    rw [Nat.mul_comm, Nat.mul_add_div (by omega), Nat.div_eq_of_lt inside, Nat.add_zero]
  · have bound := Nat.not_lt.1 bound
    have bound' : t'.size ≤ i * volume t.shape.tail + j := by
      rwa [size_eq_volume, ← shape, ← size_eq_volume]
    rw [get_of_le bound, get_of_le bound', type]

theorem get_writeSlot (batch source : Tensor) (slotShape : List Nat) (slot : Nat) {k : Nat}
    (inside : k < batch.size) :
    (batch.writeSlot slotShape slot source).get k =
      if k / volume slotShape = slot then
        batch.type.cast (source.get
          (Broadcast.place source.shape.reverse slotShape.reverse (k % volume slotShape)))
      else batch.get k :=
  get_mapPlaces _ _ _ inside

section

variable [Resizer]

/-- What a frame becomes for a slot of a batch of a shape: its planes in the height and width of the
batch, each value times a factor. -/
def planes (shape : List Nat) (frame : Frame) (factor index : Value) : Except Fault Tensor := do
  let img ← frame.image
  match shape with
  | [slots, channels, height, width] =>
    if !(← slotInRange index slots) then refuse (.slotOutOfRange index slots)
    else if img.height = 0 || img.width = 0 then refuse (.frameEmpty img.tensor.shape)
    else if img.channels ≠ channels then refuse (.channelMismatch img.channels channels)
    else
      let fitted ← img.fitted height width
      fitted.planar.scale factor
  | shape => refuse (.notPlanar shape)

/-- Of a batch, only its shape decides what a frame becomes and whether it is refused. -/
theorem loadFrame_eq (batch : Tensor) (frame : Frame) (factor index : Value) :
    batch.loadFrame frame factor index = (do
      let source ← planes batch.shape frame factor index
      batch.writeSlots batch.shape.tail (← SlotChoice.ofValue index) source) := by
  unfold loadFrame planes
  cases frame.image with
  | error f => rfl
  | ok img =>
    rcases batch.shape with
      _ | ⟨slots, _ | ⟨channels, _ | ⟨height, _ | ⟨width, _ | ⟨_, _⟩⟩⟩⟩⟩
    case cons.cons.cons.cons.nil =>
      simp only [bind, Except.bind, List.tail_cons]
      cases slotInRange index slots with
      | error f => rfl
      | ok inside =>
        dsimp only
        split
        · rfl
        · split
          · rfl
          · split
            · rfl
            · cases img.fitted height width <;> rfl
    all_goals rfl

theorem loadFrame_cases {batch loaded : Tensor} {frame : Frame} {factor : Value} {i : Nat}
    (h : batch.loadFrame frame factor (.int i) = .ok loaded) :
    ∃ source, ∀ blank : Tensor, blank.shape = batch.shape →
      blank.loadFrame frame factor (.int i) = .ok (blank.writeSlot batch.shape.tail i source) := by
  rw [loadFrame_eq] at h
  obtain ⟨source, becomes, h⟩ := bind_ok h
  obtain ⟨choice, chosen, h⟩ := bind_ok h
  cases chosen
  simp only [writeSlots, Int.toNat_natCast] at h
  split at h
  · rename_i stretches
    refine ⟨source, fun blank same => ?_⟩
    rw [loadFrame_eq, same, becomes]
    simp only [bind, Except.bind, SlotChoice.ofValue, writeSlots, Int.toNat_natCast, stretches,
      if_true]
  · cases h

theorem type_loadFrame {batch loaded : Tensor} {frame : Frame} {factor : Value} {i : Nat}
    (h : batch.loadFrame frame factor (.int i) = .ok loaded) : loaded.type = batch.type := by
  obtain ⟨source, loads⟩ := loadFrame_cases h
  cases h.symm.trans (loads batch rfl)
  rfl

theorem shows_loadFrame {batch loaded : Tensor} {frame : Frame} {factor : Value} {i : Nat}
    (h : batch.loadFrame frame factor (.int i) = .ok loaded) : loaded.Shows i frame factor := by
  obtain ⟨source, loads⟩ := loadFrame_cases h
  cases h.symm.trans (loads batch rfl)
  intro blank type shape
  refine ⟨_, loads blank shape, slot_congr type shape ?_⟩
  intro k inside here
  replace shape : blank.shape = batch.shape := shape
  replace here : k / volume batch.shape.tail = i := by rwa [← shape]
  replace inside : k < blank.size := by rwa [size_eq_volume] at inside ⊢
  have inside' : k < batch.size := by rwa [size_eq_volume, ← shape, ← size_eq_volume]
  rw [get_writeSlot _ _ _ _ inside, get_writeSlot _ _ _ _ inside', if_pos here, if_pos here, type]
  rfl

theorem Shows.loadFrame {batch loaded : Tensor} {shown frame : Frame} {factor factor' : Value}
    {i k : Nat} (shows : batch.Shows i shown factor)
    (h : batch.loadFrame frame factor' (.int k) = .ok loaded) (other : i ≠ k) :
    loaded.Shows i shown factor := by
  obtain ⟨source, loads⟩ := loadFrame_cases h
  cases h.symm.trans (loads batch rfl)
  intro blank type shape
  obtain ⟨written, loads', same⟩ := shows blank type shape
  refine ⟨written, loads', same.trans (slot_congr rfl rfl ?_)⟩
  intro k' inside here
  replace inside : k' < batch.size := inside
  have elsewhere : k' / volume batch.shape.tail ≠ k := here.symm ▸ other
  rw [get_writeSlot _ _ _ _ inside, if_neg elsewhere]

end

/-- Two tensors of one type and shape with the same elements from a place on. -/
structure SameFrom (k : Nat) (t t' : Tensor) : Prop where
  type : t.type = t'.type
  shape : t.shape = t'.shape
  get : ∀ i, k ≤ i → t.get i = t'.get i

namespace SameFrom

variable {k : Nat} {t t' t'' : Tensor}

theorem refl (k : Nat) (t : Tensor) : SameFrom k t t := ⟨rfl, rfl, fun _ _ => rfl⟩

theorem symm (same : SameFrom k t t') : SameFrom k t' t :=
  ⟨same.type.symm, same.shape.symm, fun i from_k => (same.get i from_k).symm⟩

theorem trans (same : SameFrom k t t') (same' : SameFrom k t' t'') : SameFrom k t t'' :=
  ⟨same.type.trans same'.type, same.shape.trans same'.shape,
    fun i from_k => (same.get i from_k).trans (same'.get i from_k)⟩

theorem size (same : SameFrom k t t') : t.size = t'.size := by
  rw [size_eq_volume, size_eq_volume, same.shape]

theorem of_inside (type : t.type = t'.type) (shape : t.shape = t'.shape)
    (get : ∀ i < t.size, k ≤ i → t.get i = t'.get i) : SameFrom k t t' := by
  refine ⟨type, shape, fun i from_k => ?_⟩
  by_cases inside : i < t.size
  · exact get i inside from_k
  · have outside := Nat.not_lt.1 inside
    have outside' : t'.size ≤ i := by rwa [size_eq_volume, ← shape, ← size_eq_volume]
    rw [get_of_le outside, get_of_le outside', type]

theorem eq (same : SameFrom 0 t t') : t = t' := by
  have sizes : t.data.size = t'.data.size := same.size
  have elements := same.get
  obtain ⟨type, shape, data, size_eq⟩ := t
  obtain ⟨type', shape', data', size_eq'⟩ := t'
  cases same.type
  cases same.shape
  have data_eq : data = data' := by
    refine Array.ext sizes fun i inside inside' => ?_
    have element := elements i (Nat.zero_le i)
    simp only [Tensor.get, Array.getD, inside, inside', dif_pos] at element
    exact element
  cases data_eq
  rfl

theorem loadFrame [Resizer] (same : SameFrom k t t') {frame : Frame} {factor : Value} {slot : Nat}
    {loaded loaded' : Tensor} (h : t.loadFrame frame factor (.int slot) = .ok loaded)
    (h' : t'.loadFrame frame factor (.int slot) = .ok loaded') : SameFrom k loaded loaded' := by
  obtain ⟨source, loads⟩ := loadFrame_cases h
  cases h.symm.trans (loads t rfl)
  cases h'.symm.trans (loads t' same.shape.symm)
  refine of_inside same.type same.shape fun i inside from_k => ?_
  replace inside : i < t.size := by rwa [size_eq_volume] at inside ⊢
  rw [get_writeSlot _ _ _ _ inside, get_writeSlot _ _ _ _ (same.size ▸ inside), same.type,
    same.get i from_k]

end SameFrom

end FrameBatch.Tensor
