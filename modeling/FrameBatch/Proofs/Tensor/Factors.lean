import FrameBatch.Proofs.Tensor.Loaded
import FrameBatch.Value.Arithmetic

namespace FrameBatch

open Binary Format

/-- Bits of a mantissa that a product of a byte and a factor of forty bits needs, at most. -/
theorem byte_times_lt {n : Nat} {k : Int} (byte : n < 256) (small : k.natAbs ≤ 2 ^ 40) :
    n * k.natAbs < 2 ^ 53 :=
  calc n * k.natAbs ≤ 255 * 2 ^ 40 := Nat.mul_le_mul (Nat.le_of_lt_succ byte) small
    _ < 2 ^ 53 := by decide

theorem double_writes {s : Bool} {m : Nat} (digits : m < 2 ^ 53) :
    (Format.double.round (.finite s m 0)).Writes s m 0 :=
  round_writes (f := .double) digits (by decide) (by decide)

theorem double_ofInt {k : Int} (digits : k.natAbs < 2 ^ 53) :
    (Format.double.round (.ofInt k)).isFinite ∧ (Format.double.round (.ofInt k)).value = k := by
  have writes := double_writes (s := decide (k < 0)) digits
  exact ⟨writes.isFinite, writes.value.trans (value_ofInt k)⟩

theorem toReal_int {k : Int} (small : k.natAbs ≤ 2 ^ 40) :
    (Value.int k).toReal = .ok (Format.double.round (.ofInt k)) := by
  have finite := (double_ofInt (Nat.lt_of_le_of_lt small (by decide))).1
  simp [Value.toReal, Value.toReal.whole, Format.ofInt?, finite]

theorem cast_real {type : ElementType} {f : Format} (real : type.storage = .real f) (v : Scalar) :
    (NumberType.element type).cast v = .real (f.round v.toBinary) := by
  rw [NumberType.cast, NumberType.storage, real]
  rfl

theorem scaled_byte {type : ElementType} {f : Format} (real : type.storage = .real f) {n : Nat}
    {k : Int} (byte : n < 256) (small : k.natAbs ≤ 2 ^ 40) :
    (NumberType.element type).cast
        ((NumberType.element .u8).scaled (Format.double.round (.ofInt k)) (.whole n)) =
      (NumberType.element type).cast (.real ((ofInt n).mul (.ofInt k))) := by
  have few : k.natAbs < 2 ^ 53 := Nat.lt_of_le_of_lt small (by decide)
  obtain ⟨finite, value⟩ := double_ofInt few
  rw [NumberType.scaled]
  split_ifs with one
  · have unit := (same_iff finite rfl).1 one
    rw [value, value_ofInt, Int.cast_inj] at unit
    subst unit
    simp [cast_real real, Scalar.toBinary, ofInt, Binary.mul]
  · have left := double_writes (s := decide ((n : Int) < 0)) (m := n) (by omega)
    have right := double_writes (s := decide (k < 0)) few
    rw [← round_of_writes right] at right
    have product := left.mul right
    rw [Int.add_zero] at product
    have rounded := double_writes (s := decide ((n : Int) < 0) != decide (k < 0))
      (byte_times_lt byte small)
    rw [← round_of_writes product] at rounded
    rw [cast_real real, cast_real real]
    exact congrArg Scalar.real (round_of_writes rounded)

theorem cast_mul_ofInt {type : ElementType} {f : Format} (real : type.storage = .real f)
    (n m : Nat) :
    (NumberType.element type).cast (.real ((ofInt n).mul (.ofInt m))) =
      (NumberType.element type).cast (.whole (n * m : Nat)) := by
  have positive (a : Nat) : decide ((a : Int) < 0) = false := by simp
  rw [cast_real real, cast_real real]
  simp only [Scalar.toBinary, ofInt, Binary.mul, positive, Int.natAbs_natCast]
  rfl

/-- A narrow real holds each number of up to sixteen bits in a way of its own. -/
theorem cast_whole_inj {type : ElementType} (real : type = .f32 ∨ type = .f64) {a b : Nat}
    (ha : a < 2 ^ 16) (hb : b < 2 ^ 16)
    (same : (NumberType.element type).cast (.whole a) = (NumberType.element type).cast (.whole b)) :
    a = b := by
  have writes {f : Format} (wide : 2 ^ 16 ≤ 2 ^ f.precision) (low : f.minExponent ≤ 0)
      (high : 0 ≤ f.maxExponent) {n : Nat} (small : n < 2 ^ 16) :
      (f.round (ofInt n)).value = n :=
    (round_writes (Nat.lt_of_lt_of_le small wide) low high).value.trans (value_ofInt n)
  obtain ⟨f, stored, wide, low, high⟩ : ∃ f : Format, type.storage = .real f ∧
      2 ^ 16 ≤ 2 ^ f.precision ∧ f.minExponent ≤ 0 ∧ 0 ≤ f.maxExponent := by
    rcases real with rfl | rfl
    · exact ⟨.single, rfl, by decide, by decide, by decide⟩
    · exact ⟨.double, rfl, by decide, by decide, by decide⟩
  rw [cast_real stored, cast_real stored, Scalar.real.injEq] at same
  have values := congrArg Binary.value same
  simp only [Scalar.toBinary] at values
  rw [writes wide low high ha, writes wide low high hb] at values
  exact_mod_cast values

/-- What a product of two bytes leaves of itself when it wraps is stored like the product if and only
if the product is a byte. -/
theorem cast_wrapped_iff {type : ElementType} (narrow : type = .f32 ∨ type = .f64) {n : Nat}
    {k : Int} (byte : n < 256) (low : 0 ≤ k) (high : k ≤ 255) :
    (NumberType.element type).cast (.whole (n * k % 256)) =
      (NumberType.element type).cast (.real ((ofInt n).mul (.ofInt k))) ↔ n * k ≤ 255 := by
  obtain ⟨f, real⟩ : ∃ f, type.storage = .real f := by
    rcases narrow with rfl | rfl
    · exact ⟨.single, rfl⟩
    · exact ⟨.double, rfl⟩
  obtain ⟨m, rfl⟩ := Int.eq_ofNat_of_zero_le low
  have product : n * m ≤ 255 * 255 := Nat.mul_le_mul (by omega) (by omega)
  rw [cast_mul_ofInt real, ← Int.natCast_mul]
  generalize n * m = p at product
  have remainder : ((p : Int) % 256) = ((p % 256 : Nat) : Int) := by omega
  rw [remainder]
  refine ⟨fun same => ?_, fun small => ?_⟩
  · have unwrapped := cast_whole_inj narrow (by omega) (by omega) same
    omega
  · congr 2
    omega

namespace Tensor

theorem u8_cast (z : Int) : (NumberType.element .u8).cast (.whole z) = .whole (z % 256) := rfl

theorem product_byte {n : Nat} {k : Int} (byte : n < 256) (low : 0 ≤ k) (high : k ≤ 255) :
    product (.element .u8) (.whole n) (.whole k) = .whole (n * k % 256) := by
  have left : (n : Int) % 256 = n := Int.emod_eq_of_lt (by omega) (by omega)
  have right : k % 256 = k := Int.emod_eq_of_lt low (by omega)
  rw [product, u8_cast, u8_cast, left, right]
  exact u8_cast (n * k)

theorem sameScalar_one (k : Int) : (Value.int k).sameScalar (.int 1) = decide (k = 1) := by
  simp only [Value.sameScalar, Value.number?, same, compare?_ofInt]
  by_cases one : k = 1
  · simp [one]
  · simp [one]

theorem scale_int {t : Tensor} {k : Int} (type : t.type = .element .u8) (other : k ≠ 1) :
    t.scale (.int k) = (do
      return t.timesScalar (.element .u8) (← wholeFactor (.element .u8) k)) := by
  rw [scale, Factor.ofValue, sameScalar_one, decide_eq_false other]
  simp only [Bool.false_eq_true, if_false, ok_bind, scaleBy, type, reduceCtorEq]

theorem wholeFactor_u8 (k : Int) :
    wholeFactor (.element .u8) k =
      if 0 ≤ k ∧ k ≤ 255 then .ok (.whole k)
      else .error (.failed .overflow
        ("Python integer " ++ toString k ++ " out of bounds for uint8")) := by
  have range : wholeRange false 8 = (0, 255) := by decide
  have ending : " out of bounds for " ++ (NumberType.element .u8).arrayName =
    " out of bounds for uint8" := by decide +kernel
  simp only [wholeFactor, NumberType.storage, ElementType.storage, range, Bool.and_eq_true,
    decide_eq_true_eq, String.append_assoc, ending]

theorem scale_of_byte {t : Tensor} {k : Int} (type : t.type = .element .u8)
    (bytes : ∀ i < t.size, ∃ n < 256, t.get i = .whole (n : Nat)) (low : 0 ≤ k) (high : k ≤ 255) :
    ∃ scaled, t.scale (.int k) = .ok scaled ∧ scaled.shape = t.shape ∧
      ∀ i < t.size, scaled.get i = product (.element .u8) (t.get i) (.whole k) := by
  by_cases one : k = 1
  · subst one
    refine ⟨t, rfl, rfl, fun i inside => ?_⟩
    obtain ⟨n, byte, element⟩ := bytes i inside
    rw [element, product_byte byte low high]
    congr 1
    omega
  · refine ⟨t.timesScalar (.element .u8) (.whole k), ?_, rfl,
      fun i inside => get_mapPlaces _ _ _ inside⟩
    rw [scale_int type one, wholeFactor_u8, if_pos ⟨low, high⟩]
    rfl

theorem scale_of_no_byte {t : Tensor} {k : Int} (type : t.type = .element .u8)
    (outside : ¬ (0 ≤ k ∧ k ≤ 255)) :
    t.scale (.int k) = .error (.failed .overflow
      ("Python integer " ++ toString k ++ " out of bounds for uint8")) := by
  rw [scale_int type (by omega), wholeFactor_u8, if_neg outside]
  rfl

section

variable [Resizer] [LawfulResizer] {batch : Tensor} {frame : Frame} {img r : Image}
  {slots height width slot : Nat} {k : Int}

theorem loadFrame_real_factor {type : ElementType} {f : Format} (image : frame.image = .ok img)
    (stored : img.tensor.Stored) (u8 : img.type = .element .u8) (tall : 0 < img.height)
    (wide : 0 < img.width) (shape : batch.shape = [slots, img.channels, height, width])
    (inside : slot < slots) (held : batch.type = .element type) (real : type.storage = .real f)
    (small : k.natAbs ≤ 2 ^ 40) (fits : img.fitted height width = .ok r) :
    ∃ loaded, batch.loadFrame frame (.float (Format.double.round (.ofInt k))) (.int slot) =
        .ok loaded ∧
      batch.WrittenAt loaded slots img.channels height width slot fun c y x =>
        batch.type.cast (.real ((ofInt (r.natPixel y x c)).mul (.ofInt k))) := by
  obtain ⟨scaled, scales, kept, each⟩ := r.planar.scale_float (Format.double.round (.ofInt k))
  obtain ⟨loaded, loads, written⟩ :=
    loadFrame_of_scale _ image tall wide shape inside fits scales kept each
  refine ⟨loaded, loads, written.congr fun c _ y _ x _ => ?_⟩
  have type' : r.planar.type = .element .u8 := (Image.fitted_cases fits).2.2.2.trans u8
  have bytes := Image.bytes_of_stored type' (Image.fitted_stored u8 stored fits)
  rw [type', held, bytes.pixel_eq, scaled_byte real (bytes.natPixel_lt y x c) small]

theorem loadFrame_whole_factor (image : frame.image = .ok img)
    (stored : img.tensor.Stored) (u8 : img.type = .element .u8) (tall : 0 < img.height)
    (wide : 0 < img.width) (shape : batch.shape = [slots, img.channels, height, width])
    (inside : slot < slots) (low : 0 ≤ k) (high : k ≤ 255)
    (fits : img.fitted height width = .ok r) :
    ∃ loaded, batch.loadFrame frame (.int k) (.int slot) = .ok loaded ∧
      batch.WrittenAt loaded slots img.channels height width slot fun c y x =>
        batch.type.cast (.whole (r.natPixel y x c * k % 256)) := by
  have type : r.planar.type = .element .u8 := (Image.fitted_cases fits).2.2.2.trans u8
  have bytes := Image.bytes_of_stored type (Image.fitted_stored u8 stored fits)
  have planes : ∀ i < r.planar.size, ∃ n < 256, r.planar.get i = .whole (n : Nat) := by
    intro i known
    obtain ⟨n, byte, pixel⟩ := bytes (i / r.width % r.height) (i % r.width) (i / (r.height * r.width))
    exact ⟨n, byte, (get_ofFn _ _ _ (r.planar.size_eq_volume ▸ known)).trans pixel⟩
  obtain ⟨scaled, scales, kept, each⟩ := scale_of_byte type planes low high
  obtain ⟨loaded, loads, written⟩ := loadFrame_of_scale
    (fun v => product (.element .u8) v (.whole k)) image tall wide shape inside fits scales kept each
  refine ⟨loaded, loads, written.congr fun c _ y _ x _ => ?_⟩
  rw [bytes.pixel_eq, product_byte (bytes.natPixel_lt y x c) low high]

theorem loadFrame_no_byte (image : frame.image = .ok img) (u8 : img.type = .element .u8)
    (tall : 0 < img.height) (wide : 0 < img.width)
    (shape : batch.shape = [slots, img.channels, height, width]) (inside : slot < slots)
    (outside : ¬ (0 ≤ k ∧ k ≤ 255)) (fits : img.fitted height width = .ok r) :
    batch.loadFrame frame (.int k) (.int slot) = .error (.failed .overflow
      ("Python integer " ++ toString k ++ " out of bounds for uint8")) := by
  have type : r.planar.type = .element .u8 := (Image.fitted_cases fits).2.2.2.trans u8
  rw [loadFrame_of_image image tall wide shape inside, fits]
  simp only [ok_bind, scale_of_no_byte type outside]
  rfl

/-- A byte and a factor of forty bits, as a whole number and as the same real. The real multiplies
exactly. The whole number is refused unless it is a byte, and its products wrap, so that both write
the same only if no product exceeds a byte. Of a frame that cannot be resized both are refused. -/
theorem factors_agree_iff (depicts : frame.Depicts img) (u8 : img.type = .element .u8)
    (stored : img.tensor.Stored) (tall : 0 < img.height) (wide : 0 < img.width)
    (shape : batch.shape = [slots, img.channels, height, width]) (inside : slot < slots)
    (narrow : batch.type = .element .f32 ∨ batch.type = .element .f64) (small : |k| ≤ 2 ^ 40) :
    ∃ x, (Value.int k).toReal = .ok x ∧
      (∀ f, img.fitted height width = .error f →
        batch.loadFrame frame (.float x) (.int slot) = .error f ∧
          batch.loadFrame frame (.int k) (.int slot) = .error f) ∧
      ∀ r, img.fitted height width = .ok r →
        (∃ loaded, batch.loadFrame frame (.float x) (.int slot) = .ok loaded ∧
          batch.WrittenAt loaded slots img.channels height width slot fun c y x =>
            batch.type.cast (.real ((ofInt (r.natPixel y x c)).mul (.ofInt k)))) ∧
        (0 ≤ k ∧ k ≤ 255 → ∃ loaded, batch.loadFrame frame (.int k) (.int slot) = .ok loaded ∧
          batch.WrittenAt loaded slots img.channels height width slot fun c y x =>
            batch.type.cast (.whole (r.natPixel y x c * k % 256))) ∧
        (¬ (0 ≤ k ∧ k ≤ 255) → batch.loadFrame frame (.int k) (.int slot) =
          .error (.failed .overflow
            ("Python integer " ++ toString k ++ " out of bounds for uint8"))) ∧
        (batch.loadFrame frame (.int k) (.int slot) = batch.loadFrame frame (.float x) (.int slot) ↔
          0 ≤ k ∧ k ≤ 255 ∧ ∀ c < img.channels, ∀ y < height, ∀ x < width,
            r.natPixel y x c * k ≤ 255) := by
  have image := depicts.image tall wide
  have small : k.natAbs ≤ 2 ^ 40 := by
    rw [Int.abs_eq_natAbs] at small
    exact_mod_cast small
  obtain ⟨type, f, held, real, narrow'⟩ : ∃ type f, batch.type = .element type ∧
      type.storage = .real f ∧ (type = .f32 ∨ type = .f64) := by
    rcases narrow with narrow | narrow
    · exact ⟨.f32, .single, narrow, rfl, .inl rfl⟩
    · exact ⟨.f64, .double, narrow, rfl, .inr rfl⟩
  refine ⟨_, toReal_int small, fun f fails => ?_, fun r fits => ?_⟩
  · constructor
    all_goals
      rw [loadFrame_of_image image tall wide shape inside, fails]
      rfl
  obtain ⟨exact, loadsExact, writtenExact⟩ :=
    loadFrame_real_factor image stored u8 tall wide shape inside held real small fits
  have wraps (low : 0 ≤ k) (high : k ≤ 255) :=
    loadFrame_whole_factor image stored u8 tall wide shape inside low high fits
  have refuses (outside : ¬ (0 ≤ k ∧ k ≤ 255)) :=
    loadFrame_no_byte image u8 tall wide shape inside outside fits
  refine ⟨⟨exact, loadsExact, writtenExact⟩, fun range => wraps range.1 range.2, refuses, ?_⟩
  rw [loadsExact]
  by_cases range : 0 ≤ k ∧ k ≤ 255
  · obtain ⟨low, high⟩ := range
    have bytes := Image.bytes_of_stored ((Image.fitted_cases fits).2.2.2.trans u8)
      (Image.fitted_stored u8 stored fits)
    obtain ⟨wrapped, loadsWrapped, writtenWrapped⟩ := wraps low high
    have pixels (y x c : Nat) :=
      cast_wrapped_iff narrow' (bytes.natPixel_lt y x c) low high
    simp only [loadsWrapped, Except.ok.injEq, low, high, true_and, writtenWrapped.eq_iff writtenExact,
      held, pixels]
  · rw [refuses range]
    simp only [reduceCtorEq, false_iff]
    exact fun all => range ⟨all.1, all.2.1⟩

end

def bright : Image := .ofFn (.element .u8) 1 1 1 fun _ _ _ => .whole 200

theorem stored_bright : bright.tensor.Stored := by
  intro k inside
  have inside : k < 1 := inside
  obtain rfl : k = 0 := by omega
  decide +kernel

theorem factors_of_bright :
    let blank := zeros (.element .f32) [1, bright.channels, 1, 1]
    bright.type = .element .u8 ∧ bright.tensor.Stored ∧ (0 < bright.height ∧ 0 < bright.width) ∧
      |(1 : Int)| ≤ 2 ^ 40 ∧ |(-1 : Int)| ≤ 2 ^ 40 ∧
      (∃ x, (Value.int 1).toReal = .ok x ∧
        blank.loadFrame (.packed bright.tensor) (.int 1) (.int 0) =
          blank.loadFrame (.packed bright.tensor) (.float x) (.int 0)) ∧
      blank.loadFrame (.packed bright.tensor) (.int (-1)) (.int 0) =
        .error (.failed .overflow "Python integer -1 out of bounds for uint8") := by
  intro blank
  have tall : 0 < bright.height := by decide
  have wide : 0 < bright.width := by decide
  have shape : blank.shape = [1, bright.channels, bright.height, bright.width] := rfl
  have one : |(1 : Int)| ≤ 2 ^ 40 := by decide
  have minus : |(-1 : Int)| ≤ 2 ^ 40 := by decide
  have depicts : (Frame.packed bright.tensor).Depicts bright := .packed
  have first : 0 < 1 := by decide
  refine ⟨rfl, stored_bright, ⟨tall, wide⟩, one, minus, ?_, ?_⟩
  · obtain ⟨x, real, -, fitted⟩ := factors_agree_iff depicts rfl stored_bright tall wide shape
      first (.inl rfl) one
    obtain ⟨-, -, -, agree⟩ := fitted bright bright.fitted_self
    refine ⟨x, real, agree.2 ⟨by decide, by decide, fun c channel y row x column => ?_⟩⟩
    obtain rfl : c = 0 := Nat.lt_one_iff.1 channel
    obtain rfl : y = 0 := Nat.lt_one_iff.1 row
    obtain rfl : x = 0 := Nat.lt_one_iff.1 column
    decide +kernel
  · obtain ⟨x, real, -, fitted⟩ := factors_agree_iff depicts rfl stored_bright tall wide shape
      first (.inl rfl) minus
    obtain ⟨-, -, refused, -⟩ := fitted bright bright.fitted_self
    have text : "Python integer " ++ toString (-1 : Int) ++ " out of bounds for uint8" =
      "Python integer -1 out of bounds for uint8" := by decide +kernel
    rw [← text]
    exact refused (by decide)

/-- Twice a bright pixel: as a whole number the factor makes 144 of 200, as a real 400. -/
theorem doubled_apart :
    let blank := zeros (.element .f32) [1, bright.channels, 1, 1]
    bright.type = .element .u8 ∧ bright.tensor.Stored ∧ |(2 : Int)| ≤ 2 ^ 40 ∧
      (Value.int 2).toReal = .ok (.finite false (2 ^ 52) (-51)) ∧
      ∃ wrapped exact,
        blank.loadFrame (.packed bright.tensor) (.int 2) (.int 0) = .ok wrapped ∧
        blank.loadFrame (.packed bright.tensor) (.float (.finite false (2 ^ 52) (-51))) (.int 0) =
          .ok exact ∧
        wrapped.cell 1 1 1 0 0 0 0 = (NumberType.element .f32).cast (.whole 144) ∧
        exact.cell 1 1 1 0 0 0 0 = (NumberType.element .f32).cast (.whole 400) ∧
        wrapped ≠ exact := by
  intro blank
  have apart : (NumberType.element .f32).cast (.whole 144) ≠
    (NumberType.element .f32).cast (.whole 400) := by decide +kernel
  have wrapped : ∃ t, blank.loadFrame (.packed bright.tensor) (.int 2) (.int 0) = .ok t ∧
      t.cell 1 1 1 0 0 0 0 = (NumberType.element .f32).cast (.whole 144) :=
    ⟨_, rfl, by decide +kernel⟩
  have exact : ∃ t, blank.loadFrame (.packed bright.tensor) (.float (.finite false (2 ^ 52) (-51)))
      (.int 0) = .ok t ∧ t.cell 1 1 1 0 0 0 0 = (NumberType.element .f32).cast (.whole 400) :=
    ⟨_, rfl, by decide +kernel⟩
  obtain ⟨t, loads, cell⟩ := wrapped
  obtain ⟨u, loads', cell'⟩ := exact
  refine ⟨rfl, stored_bright, by decide, by rfl, t, u, loads, loads', cell, cell', ?_⟩
  rintro rfl
  exact apart (cell.symm.trans cell')

end Tensor

end FrameBatch
