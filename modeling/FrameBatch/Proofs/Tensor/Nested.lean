import FrameBatch.Proofs.Tensor.Planes

namespace FrameBatch

def Value.rows (height width channels : Nat) (number : Nat → Nat → Nat → Value) : Value :=
  .list ((List.range height).map fun y => .list ((List.range width).map fun x =>
    .list ((List.range channels).map fun c => number y x c)))

namespace Gather

def leaf : Value → Leaf
  | .bool b => .truth b
  | .int z => .whole z
  | .float x => .real x
  | v => .other v.typeName

def leaves (height width channels : Nat) (number : Nat → Nat → Nat → Value) : List Leaf :=
  (List.range height).flatMap fun y => (List.range width).flatMap fun x =>
    (List.range channels).map fun c => leaf (number y x c)

theorem collect_number {v : Value} (number : v.number?.isSome) : collect v = some
    ([], [leaf v]) := by
  cases v with
  | bool | int | float => rw [collect]; rfl
  | _ => cases number

section

variable {α : Type} {shape : List Nat} {items : List α} {item : α → Value} {below : α → List Leaf}

theorem collectEach_map (each : ∀ a ∈ items, collect (item a) = some (shape, below a)) :
    collectEach (items.map item) = some (items.map fun a => (shape, below a)) := by
  induction items with
  | nil => rw [List.map_nil, collectEach, List.map_nil]
  | cons a rest ih =>
    rw [List.map_cons, collectEach, each a List.mem_cons_self,
      ih fun b member => each b (List.mem_cons_of_mem a member)]
    rfl

theorem stack_map (some_item : items ≠ [] ∨ shape = []) :
    stack (items.map fun a => (shape, below a)) =
      some (items.length :: shape, items.flatMap below) := by
  cases items with
  | nil =>
    have shape := some_item.resolve_left fun h => h rfl
    subst shape
    rfl
  | cons a rest =>
    have alike : (rest.map fun a => (shape, below a)).all (·.1 == shape) = true := by simp
    rw [List.map_cons, stack, if_pos alike, List.flatMap_cons, List.flatMap_map, List.length_cons,
      List.length_map, List.flatMap_cons]
    rfl

theorem collect_list (each : ∀ a ∈ items, collect (item a) = some (shape, below a))
    (some_item : items ≠ [] ∨ shape = []) :
    collect (.list (items.map item)) = some (items.length :: shape, items.flatMap below) := by
  rw [collect, collectItems, collectEach_map each]
  exact stack_map some_item

end

section

variable {height width channels : Nat} {number : Nat → Nat → Nat → Value}

theorem length_flatMap_range {α : Type} (n : Nat) {m : Nat} {f : Nat → List α}
    (length : ∀ i < n, (f i).length = m) : ((List.range n).flatMap f).length = n * m := by
  rw [List.length_flatMap, List.map_congr_left fun i member => length i (List.mem_range.1 member),
    List.map_const', List.sum_replicate_nat, List.length_range]

theorem getElem?_flatMap_range {α : Type} {n m i j : Nat} {f : Nat → List α}
    (length : ∀ i < n, (f i).length = m) (row : i < n) (column : j < m) :
    ((List.range n).flatMap f)[i * m + j]? = (f i)[j]? := by
  induction n with
  | zero => omega
  | succ n ih =>
    have earlier : ∀ i < n, (f i).length = m := fun i h => length i (by omega)
    have before := length_flatMap_range n earlier
    rw [List.range_succ, List.flatMap_append, List.flatMap_singleton]
    by_cases last : i = n
    · subst last
      rw [List.getElem?_append_right (by omega), before, Nat.add_sub_cancel_left]
    · have inside : i * m + j < n * m := mul_add_lt (by omega) column
      rw [List.getElem?_append_left (by omega), ih earlier (by omega)]

theorem collect_rows (tall : 0 < height) (wide : 0 < width)
    (numbers : ∀ y < height, ∀ x < width, ∀ c < channels, (number y x c).number?.isSome) :
    collect (Value.rows height width channels number) =
      some ([height, width, channels], leaves height width channels number) := by
  have nonempty {n : Nat} (positive : 0 < n) : List.range n ≠ [] := by
    simpa using Nat.ne_of_gt positive
  have pixel (y : Nat) (row : y < height) (x : Nat) (column : x < width) :
      collect (.list ((List.range channels).map (number y x))) =
        some ([(List.range channels).length],
          (List.range channels).flatMap fun c => [leaf (number y x c)]) :=
    collect_list
      (fun c member => collect_number (numbers y row x column c (List.mem_range.1 member)))
      (.inr rfl)
  have row (y : Nat) (inside : y < height) :=
    collect_list (fun x member => pixel y inside x (List.mem_range.1 member))
      (.inl (nonempty wide))
  have all := collect_list (fun y member => row y (List.mem_range.1 member)) (.inl (nonempty tall))
  simpa only [List.length_range, ← List.map_eq_flatMap, Value.rows, leaves] using all

theorem getElem?_leaves {y x c : Nat} (row : y < height) (column : x < width)
    (channel : c < channels) :
    (leaves height width channels number)[(y * width + x) * channels + c]? =
      some (leaf (number y x c)) := by
  have pixels (y x : Nat) :
      ((List.range channels).map fun c => leaf (number y x c)).length = channels := by simp
  have rows (y : Nat) (_ : y < height) := length_flatMap_range width fun x _ => pixels y x
  have place : (y * width + x) * channels + c = y * (width * channels) + (x * channels + c) := by
    ring
  rw [leaves, place, getElem?_flatMap_range rows row (mul_add_lt column channel),
    getElem?_flatMap_range (fun x _ => pixels y x) column channel]
  simp [channel]

theorem forall_leaves {p : Leaf → Prop}
    (each : ∀ y < height, ∀ x < width, ∀ c < channels, p (leaf (number y x c))) :
    ∀ l ∈ leaves height width channels number, p l := by
  simp only [leaves, List.mem_flatMap, List.mem_map, List.mem_range]
  rintro l ⟨y, row, x, column, c, channel, rfl⟩
  exact each y row x column c channel

end

theorem otherType?_eq_none {leaves : List Leaf} (numbers : ∀ l ∈ leaves, ∃ v : Value,
    v.number?.isSome ∧ l = leaf v) : otherType? leaves = none := by
  rw [otherType?, List.findSome?_eq_none_iff]
  intro l member
  obtain ⟨v, number, rfl⟩ := numbers l member
  cases v <;> first | rfl | cases number

theorem textLength?_eq_none {leaves : List Leaf} (numbers : ∀ l ∈ leaves, ∃ v : Value,
    v.number?.isSome ∧ l = leaf v) : textLength? leaves = none := by
  rw [textLength?, List.max?_eq_none_iff, List.filterMap_eq_nil_iff]
  intro l member
  obtain ⟨v, number, rfl⟩ := numbers l member
  cases v <;> rfl

end Gather

/-- The frame holds an image: an array in the memory of the host or of a device, or the numbers of
the pixels in lists inside lists, converted to the type that they have in common. -/
inductive Frame.Depicts (img : Image) : Frame → Prop
  | packed : Depicts img (.packed img.tensor)
  | onDevice : Depicts img (.onDevice img.tensor)
  | nested {number : Nat → Nat → Nat → Value}
      (numbers : ∀ y < img.height, ∀ x < img.width, ∀ c < img.channels,
        (number y x c).number?.isSome)
      (type : Gather.typeOf (Gather.leaves img.height img.width img.channels number) =
        some img.type)
      (pixels : ∀ y < img.height, ∀ x < img.width, ∀ c < img.channels,
        img.pixel y x c = img.type.cast (Gather.leaf (number y x c)).scalar) :
      Depicts img (.loose (Value.rows img.height img.width img.channels number))

theorem Tensor.eq_of_pixels {t : Tensor} {img : Image} (type : t.type = img.type)
    (shape : t.shape = [img.height, img.width, img.channels])
    (pixels : ∀ y < img.height, ∀ x < img.width, ∀ c < img.channels,
      t.pixel img.width img.channels y x c = img.pixel y x c) : t = img.tensor := by
  refine (SameFrom.of_inside type (shape.trans img.shape_eq.symm) fun k inside _ => ?_).eq
  rw [size_eq_volume, shape, volume_planes] at inside
  have wide : 0 < img.width := by
    refine Nat.pos_of_ne_zero fun none => ?_
    simp [none] at inside
  have deep : 0 < img.channels := by
    refine Nat.pos_of_ne_zero fun none => ?_
    simp [none] at inside
  have row : k / img.channels / img.width < img.height :=
    Nat.div_lt_of_lt_mul (Nat.div_lt_of_lt_mul (by
      rwa [Nat.mul_comm img.width, Nat.mul_comm img.channels]))
  have pixel := pixels _ row _ (Nat.mod_lt (k / img.channels) wide) _ (Nat.mod_lt k deep)
  rw [Image.pixel, Tensor.pixel, Tensor.pixel, Nat.div_add_mod', Nat.div_add_mod'] at pixel
  exact pixel

theorem Frame.Depicts.image {img : Image} {frame : Frame} (depicts : frame.Depicts img)
    (tall : 0 < img.height) (wide : 0 < img.width) : frame.image = .ok img := by
  cases depicts with
  | packed => exact img.ofTensor_tensor
  | onDevice => exact img.ofTensor_tensor
  | @nested number numbers type pixels =>
    have each := Gather.forall_leaves (p := fun l => ∃ v : Value, v.number?.isSome ∧ l = Gather.leaf v)
      fun y row x column c channel => ⟨number y x c, numbers y row x column c channel, rfl⟩
    rw [Frame.image, Frame.tensor, Gathered.ofValue, Gather.collect_rows tall wide numbers]
    simp only [Gather.otherType?_eq_none each, Gather.textLength?_eq_none each, type, ok_bind]
    refine (congrArg Image.ofTensor (?_ : _ = img.tensor)).trans img.ofTensor_tensor
    refine Tensor.eq_of_pixels (by rfl) (by rfl) ?_
    intro y row x column c channel
    have inside : (y * img.width + x) * img.channels + c <
        volume [img.height, img.width, img.channels] := by
      rw [volume_planes]
      exact mul_add_lt (mul_add_lt row column) channel
    have found : (Gather.leaves img.height img.width img.channels number)[
        (y * img.width + x) * img.channels + c]? = some (Gather.leaf (number y x c)) :=
      Gather.getElem?_leaves row column channel
    rw [Tensor.pixel, Tensor.get_ofFn _ _ _ inside, pixels y row x column c channel]
    simp [found]

end FrameBatch
