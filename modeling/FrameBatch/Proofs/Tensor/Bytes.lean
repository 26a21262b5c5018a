import FrameBatch.Proofs.Tensor.Stamp

namespace FrameBatch

theorem cast_byte (v : Scalar) :
    ∃ n < 256, (NumberType.element .u8).cast v = .whole (n : Nat) := by
  refine ⟨((v.truncate?.getD 0) % (1 <<< 8 : Nat)).toNat, ?_, ?_⟩
  · have bits : ((1 <<< 8 : Nat) : Int) = 256 := rfl
    rw [bits]
    omega
  · have nonneg : 0 ≤ (v.truncate?.getD 0) % ((1 <<< 8 : Nat) : Int) :=
      Int.emod_nonneg _ (by decide)
    rw [Int.toNat_of_nonneg nonneg]
    rfl

theorem cast_of_byte {n : Nat} (small : n < 256) :
    (NumberType.element .u8).cast (.whole n) = .whole n := by
  show Scalar.whole ((n : Int) % (1 <<< 8 : Nat)) = _
  rw [Int.emod_eq_of_lt (by omega) (by exact_mod_cast small)]

namespace Image

def Bytes (img : Image) : Prop := ∀ y x c, ∃ n < 256, img.pixel y x c = .whole (n : Nat)

variable {img : Image}

theorem Bytes.natPixel_lt (bytes : img.Bytes) (y x c : Nat) : natPixel img y x c < 256 := by
  obtain ⟨n, small, pixel⟩ := bytes y x c
  rw [natPixel, pixel]
  simpa using small

theorem Bytes.pixel_eq (bytes : img.Bytes) (y x c : Nat) :
    img.pixel y x c = .whole (natPixel img y x c) := by
  obtain ⟨n, small, pixel⟩ := bytes y x c
  rw [natPixel, pixel]
  rfl

theorem bytes_of_stored (type : img.type = .element .u8)
    (stored : img.tensor.Stored) : img.Bytes := by
  intro y x c
  have type : img.tensor.type = .element .u8 := type
  rw [pixel, Tensor.pixel]
  generalize (y * img.width + x) * img.channels + c = k
  by_cases inside : k < img.tensor.size
  · rw [← stored k inside, type]
    exact cast_byte _
  · rw [Tensor.get_of_le (Nat.not_lt.1 inside), type]
    exact cast_byte _

theorem stored_ofFn {f : Nat → Nat → Nat → Scalar} {height width channels : Nat}
    (bytes : ∀ y x c, ∃ n < 256, f y x c = .whole (n : Nat)) :
    (Image.ofFn (.element .u8) height width channels f).tensor.Stored := by
  intro k inside
  rw [Tensor.size_eq_volume] at inside
  obtain ⟨n, small, element⟩ := bytes (k / (width * channels)) (k / channels % width) (k % channels)
  have held : (Image.ofFn (.element .u8) height width channels f).tensor.get k = .whole n :=
    (Tensor.get_ofFn _ _ _ inside).trans element
  rw [held]
  exact cast_of_byte small

end Image

end FrameBatch
