import FrameBatch.Proofs.Number.Rounding
import FrameBatch.Proofs.Tensor.Bytes
import FrameBatch.Tensor.Bilinear

namespace FrameBatch

theorem Binary.add_ofInt (a b : Int) : (ofInt a).add (ofInt b) = ofInt (a + b) := by
  simp only [ofInt, add, Int.min_self, scaledTo_ofInt]
  split_ifs with zero
  · rw [zero]
    congr 1
    simp
    omega
  · rfl

theorem Binary.truncate?_ofInt (z : Int) : (ofInt z).truncate? = some z := by
  have unshifted : (0 : Int).toNat = 0 := rfl
  simp only [ofInt, truncate?, le_refl, if_true, unshifted, Nat.shiftLeft_zero, decide_eq_true_eq]
  congr 1
  split_ifs <;> omega

namespace Bilinear

open Format

/-- How far rounding in single precision may move a number below four. -/
def slack : ℚ := 2 ^ (-23 : ℤ)

theorem single_near {x : Binary} (finite : x.isFinite) (below : |x.value| < 4) :
    (single.round x).isFinite ∧ |(single.round x).value - x.value| ≤ slack := by
  have near := round_near (f := single) (k := 2) finite (by decide) (by norm_num [below])
    (by decide) (by decide)
  refine ⟨near.1, near.2.trans ?_⟩
  norm_num [single, slack]

theorem fraction_near (c : Binary) (finite : (single.sub c (.ofInt (c.floor?.getD 0))).isFinite) :
    -slack ≤ (single.sub c (.ofInt (c.floor?.getD 0))).value ∧
      (single.sub c (.ofInt (c.floor?.getD 0))).value ≤ 1 + slack := by
  cases c with
  | nan => cases finite
  | infinite s => cases finite
  | finite s m e =>
    obtain ⟨i, floor, below, above⟩ := Binary.floor?_finite (x := .finite s m e) rfl
    rw [floor, Option.getD_some, Format.sub]
    obtain ⟨exact, value⟩ := Binary.sub_finite (x := .finite s m e) (y := .ofInt i) rfl rfl
    rw [Binary.value_ofInt] at value
    have near := (single_near exact (by rw [value, abs_lt]; constructor <;> linarith)).2
    rw [value, abs_le] at near
    constructor <;> linarith

/-- A number in whole units of `1 / 2048`, if it is not below zero. -/
def units (x : Binary) : Nat := ((x.mul (.ofInt 2048)).nearest?.getD 0).toNat

theorem units_le {x : Binary} (finite : x.isFinite) :
    (units x : ℚ) ≤ max 0 (2048 * x.value + 1 / 2) := by
  obtain ⟨exact, value⟩ := Binary.mul_finite finite (y := .ofInt 2048) rfl
  obtain ⟨n, nearest, near⟩ := Binary.nearest?_finite exact
  rw [value, Binary.value_ofInt, abs_le] at near
  rw [units, nearest, Option.getD_some]
  have cast : ((n.toNat : Nat) : ℚ) = max 0 (n : ℚ) := by
    rw [← Int.cast_natCast, Int.toNat_eq_max, max_comm]
    push_cast
    rfl
  rw [cast]
  refine max_le_max le_rfl ?_
  push_cast at near
  linarith

theorem weights_le {t : Tap} (near : t.fraction.isFinite → -slack ≤ t.fraction.value ∧
    t.fraction.value ≤ 1 + slack) : t.weights.1 + t.weights.2 ≤ 2049 := by
  show units (single.sub single.one t.fraction) + units t.fraction ≤ 2049
  generalize t.fraction = x at near ⊢
  cases x with
  | nan => decide
  | infinite s => cases s <;> decide
  | finite s m e =>
    obtain ⟨low, high⟩ := near rfl
    generalize hx : Binary.finite s m e = x at low high
    have finite : x.isFinite := hx ▸ rfl
    have one : single.one.isFinite ∧ single.one.value = 1 := by
      have written : single.one = .finite false (2 ^ 23) (-23) := by decide +kernel
      rw [written]
      norm_num [Binary.isFinite, Binary.value]
    obtain ⟨exact, value⟩ := Binary.sub_finite one.1 finite
    rw [one.2] at value
    have small : slack < 1 / 2 ^ 20 := by norm_num [slack]
    obtain ⟨kept, moved⟩ := single_near exact (by
      rw [value, abs_lt]
      constructor <;> linarith)
    rw [value, abs_le] at moved
    have first := units_le kept
    have second := units_le finite
    have sum : ((units (single.sub single.one x) + units x : Nat) : ℚ) < 2050 := by
      rw [Format.sub]
      push_cast
      rcases le_max_iff.1 first with none | first <;> rcases le_max_iff.1 second with none' | second
      all_goals linarith
    exact Nat.le_of_lt_succ (by exact_mod_cast sum)

theorem columnTap_weights (source target place : Nat) :
    (columnTap source target place).weights.1 +
      (columnTap source target place).weights.2 ≤ 2049 := by
  refine weights_le fun finite => ?_
  have border : -slack ≤ (single.round (.ofInt 0)).value ∧
      (single.round (.ofInt 0)).value ≤ 1 + slack := by
    norm_num [single, Binary.ofInt, Format.round, Binary.value, slack]
  unfold columnTap at finite ⊢
  dsimp only at finite ⊢
  split_ifs at finite ⊢
  · exact border
  · exact border
  · exact fraction_near _ finite

theorem rowTap_weights (source target place : Nat) :
    (rowTap source target place).weights.1 + (rowTap source target place).weights.2 ≤ 2049 :=
  weights_le fun finite => fraction_near _ finite

theorem weights_getD {f : Nat → Tap} (each : ∀ i, (f i).weights.1 + (f i).weights.2 ≤ 2049)
    (n k : Nat) :
    (((Array.range n).map f).getD k ⟨0, 0, .ofInt 0⟩).weights.1 +
      (((Array.range n).map f).getD k ⟨0, 0, .ofInt 0⟩).weights.2 ≤ 2049 := by
  by_cases inside : k < n
  · simpa [Array.getD, inside] using each k
  · simp only [Array.getD, Array.size_map, Array.size_range, inside, dif_neg, not_false_eq_true]
    decide +kernel

variable {img : Image} {height width : Nat}

/-- Numbers that weights of hardly more than one average are not exceeded. -/
theorem mix_le {p q a b : Nat} {bound : Nat} (hp : p ≤ bound) (hq : q ≤ bound)
    (sum : a + b ≤ 2049) : p * a + q * b ≤ bound * 2049 :=
  calc p * a + q * b ≤ bound * a + bound * b :=
        Nat.add_le_add (Nat.mul_le_mul_right a hp) (Nat.mul_le_mul_right b hq)
    _ = bound * (a + b) := (Nat.mul_add _ _ _).symm
    _ ≤ bound * 2049 := Nat.mul_le_mul_left bound sum

theorem fixedPoint_byte (bytes : img.Bytes) {row column : Tap}
    (rows : row.weights.1 + row.weights.2 ≤ 2049)
    (columns : column.weights.1 + column.weights.2 ≤ 2049) (c : Nat) :
    ∃ n < 256, fixedPoint img row column c = .whole (n : Nat) := by
  let along (y : Nat) : Nat := (img.natPixel y column.low c * column.weights.1 +
    img.natPixel y column.high c * column.weights.2) >>> 4
  have line (y : Nat) : along y ≤ 32655 := by
    have := mix_le (Nat.le_of_lt_succ (bytes.natPixel_lt y column.low c))
      (Nat.le_of_lt_succ (bytes.natPixel_lt y column.high c)) columns
    simp only [along, Nat.shiftRight_eq_div_pow]
    omega
  have mixed := mix_le (line row.low) (line row.high) rows
  refine ⟨(((row.weights.1 * along row.low) >>> 16 + (row.weights.2 * along row.high) >>> 16 + 2)
    >>> 2), ?_, rfl⟩
  rw [Nat.mul_comm (along row.low), Nat.mul_comm (along row.high)] at mixed
  generalize row.weights.1 * along row.low = upper at mixed
  generalize row.weights.2 * along row.high = lower at mixed
  simp only [Nat.shiftRight_eq_div_pow]
  omega

theorem store_byte (x : Binary) : ∃ n < 256, store (.element .u8) x = .whole (n : Nat) := by
  have range : wholeRange false 8 = (0, 255) := by decide
  simp only [store, NumberType.storage, ElementType.storage, range]
  refine ⟨(max 0 (min 255 (x.nearest?.getD 0))).toNat, by omega, ?_⟩
  congr 1
  omega

theorem blockMean_byte (bytes : img.Bytes) (type : img.type = .element .u8) (y x c : Nat) :
    ∃ n < 256, blockMean img y x c = .whole (n : Nat) := by
  have storage : img.type.storage = .whole false 8 := by rw [type]; rfl
  rw [blockMean]
  simp only [storage]
  split_ifs
  · obtain ⟨p, hp, first⟩ := bytes (2 * y) (2 * x) c
    obtain ⟨q, hq, second⟩ := bytes (2 * y) (2 * x + 1) c
    obtain ⟨r, hr, third⟩ := bytes (2 * y + 1) (2 * x) c
    obtain ⟨s, hs, fourth⟩ := bytes (2 * y + 1) (2 * x + 1) c
    refine ⟨(p + q + r + s + 2) / 4, by omega, ?_⟩
    simp only [first, second, third, fourth, List.map_cons, List.map_nil, List.foldl_cons,
      List.foldl_nil, Scalar.toBinary, Binary.add_ofInt, Binary.truncate?_ofInt, Option.getD_some]
    congr 1
    omega
  · rw [type]
    exact store_byte _

theorem stored_resized (bytes : img.Bytes) (type : img.type = .element .u8) (height width : Nat) :
    (resized img height width).tensor.Stored := by
  unfold resized
  split
  · rw [type]
    exact Image.stored_ofFn fun y x c => blockMean_byte bytes type y x c
  · simp only [type]
    exact Image.stored_ofFn fun y x c => fixedPoint_byte bytes
      (weights_getD (rowTap_weights _ _) _ _) (weights_getD (columnTap_weights _ _) _ _) c

theorem resized_cases (img : Image) (height width : Nat) :
    (resized img height width).height = height ∧ (resized img height width).width = width ∧
      (resized img height width).channels = img.channels ∧
      (resized img height width).type = img.type := by
  unfold resized
  split <;> exact ⟨rfl, rfl, rfl, rfl⟩

theorem array_cases (img : Image) :
    (array img).shape = (if img.channels = 1 then [img.height, img.width]
        else [img.height, img.width, img.channels]) ∧
      (array img).type = img.type ∧ (array img).data = img.tensor.data := by
  unfold array
  split
  · exact ⟨rfl, rfl, rfl⟩
  · exact ⟨img.shape_eq, rfl, rfl⟩

theorem stored_array (stored : img.tensor.Stored) : (array img).Stored := by
  obtain ⟨-, type, data⟩ := array_cases img
  have type : (array img).type = img.tensor.type := type
  intro k inside
  simp only [Tensor.size, Tensor.get, type, data] at inside ⊢
  exact stored k inside

theorem resize_ok {t : Tensor} (h : resize img (width, height) = .ok t) :
    t = array (resized img height width) := by
  unfold resize at h
  dsimp only at h
  split at h
  · cases h
  · cases h
    rfl

instance : LawfulResizer where
  shape {img width height t} h := by
    obtain ⟨high, wide, channels, -⟩ := resized_cases img height width
    rw [resize_ok h, (array_cases _).1, high, wide, channels]
  type {img size t} h := by
    obtain ⟨width, height⟩ := size
    rw [resize_ok h, (array_cases _).2.1]
    exact (resized_cases img height width).2.2.2
  stored {img size t} h u8 stored := by
    obtain ⟨width, height⟩ := size
    rw [resize_ok h]
    exact stored_array (stored_resized (Image.bytes_of_stored u8 stored) u8 height width)
  fault {img size f} h := by
    obtain ⟨width, height⟩ := size
    unfold Resizer.resize instResizer resize at h
    dsimp only at h
    split at h
    · cases h
      exact ⟨_, rfl⟩
    · cases h
  takes {img width height} resizable wide tall := by
    obtain ⟨supported, tall', wide', colours, few⟩ := resizable
    refine ⟨array (resized img height width), ?_⟩
    unfold Resizer.resize instResizer resize
    exact if_neg (by simp [supported]; omega)

end Bilinear

end FrameBatch
