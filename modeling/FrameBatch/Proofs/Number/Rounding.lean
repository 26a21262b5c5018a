import FrameBatch.Proofs.Number.Exact

namespace FrameBatch

namespace Binary

/-- The datum is `(-1)^s · m · 2^e`, written in this unit or in a finer one. -/
def Writes (x : Binary) (s : Bool) (m : Nat) (e : Int) : Prop :=
  ∃ j : Nat, x = .finite s (m * 2 ^ j) (e - j)

variable {x y : Binary} {s t : Bool} {m n : Nat} {e g : Int}

theorem Writes.isFinite (writes : x.Writes s m e) : x.isFinite := by
  obtain ⟨j, rfl⟩ := writes
  rfl

theorem Writes.value (writes : x.Writes s m e) : x.value = (finite s m e).value := by
  obtain ⟨j, rfl⟩ := writes
  have shift := two_zpow_shift (by omega : e - j ≤ e)
  rw [Int.sub_sub_self, Int.toNat_natCast] at shift
  rw [Binary.value, Binary.value, ← shift]
  push_cast
  ring

theorem Writes.mul (hx : x.Writes s m e) (hy : y.Writes t n g) :
    (x.mul y).Writes (s != t) (m * n) (e + g) := by
  obtain ⟨j, rfl⟩ := hx
  obtain ⟨k, rfl⟩ := hy
  refine ⟨j + k, ?_⟩
  rw [Binary.mul, Binary.finite.injEq]
  exact ⟨rfl, by ring, by push_cast; ring⟩

end Binary

theorem halfEven_scaled (num den : Nat) {k : Nat} (positive : 0 < k) :
    halfEven (num * k) (den * k) = halfEven num den := by
  rw [halfEven, halfEven, Nat.mul_div_mul_right _ _ positive, Nat.mul_mod_mul_right]
  simp only [← Nat.mul_assoc, Nat.mul_lt_mul_right positive]

theorem halfEven_exact (num : Nat) {den : Nat} (positive : 0 < den) :
    halfEven (num * den) den = num := by
  rw [halfEven, Nat.mul_div_cancel _ positive, Nat.mul_mod_left, if_pos (by omega)]

namespace Format

open Binary

variable {f : Format} {x : Binary} {s : Bool} {m j : Nat} {e : Int}

theorem log2_mul_two_pow (nonzero : m ≠ 0) (j : Nat) : (m * 2 ^ j).log2 = m.log2 + j := by
  rw [Nat.log2_eq_iff (Nat.mul_ne_zero nonzero (Nat.two_pow_pos j).ne')]
  constructor
  · rw [Nat.pow_add]
    exact Nat.mul_le_mul_right _ (Nat.log2_self_le nonzero)
  · rw [Nat.add_right_comm, Nat.pow_add]
    exact Nat.mul_lt_mul_of_pos_right Nat.lt_log2_self (Nat.two_pow_pos j)

theorem unitsOf_shift (m j : Nat) (e u : Int) : unitsOf (m * 2 ^ j) (e - j) u = unitsOf m e u := by
  rw [unitsOf, unitsOf]
  split_ifs with fine coarse coarse
  · have split : (e - u).toNat = j + (e - j - u).toNat := by omega
    rw [Nat.shiftLeft_eq, Nat.shiftLeft_eq, split, Nat.pow_add, Nat.mul_assoc]
  · omega
  · have split : j = (e - u).toNat + (u - (e - j)).toNat := by omega
    generalize (u - (e - j)).toNat = k at split
    rw [split, Nat.pow_add, ← Nat.mul_assoc, Nat.one_shiftLeft,
      halfEven_exact _ (Nat.two_pow_pos _), Nat.shiftLeft_eq]
  · have split : (u - (e - j)).toNat = (u - e).toNat + j := by omega
    rw [split, Nat.one_shiftLeft, Nat.one_shiftLeft, Nat.pow_add,
      halfEven_scaled _ _ (Nat.two_pow_pos j)]

theorem round_of_ne (nonzero : m ≠ 0) :
    f.round (.finite s m e) = f.pack s (unitsOf m e (f.unit m e)) (f.unit m e) := by
  cases m with
  | zero => exact absurd rfl nonzero
  | succ m => rfl

theorem pack_of_lt (small : m < 2 ^ f.precision) (high : e ≤ f.maxExponent) :
    f.pack s m e = .finite s m e := by
  have kept : (m == 1 <<< f.precision) = false := by
    rw [Nat.one_shiftLeft]
    simpa using small.ne
  simp [pack, kept, high.not_gt]

theorem round_shift (s : Bool) (m j : Nat) (e : Int) :
    f.round (.finite s (m * 2 ^ j) (e - j)) = f.round (.finite s m e) := by
  by_cases zero : m = 0
  · rw [zero, Nat.zero_mul]
    rfl
  · have unit : f.unit (m * 2 ^ j) (e - j) = f.unit m e := by
      rw [Format.unit, Format.unit, log2_mul_two_pow zero]
      congr 1
      omega
    rw [round_of_ne (Nat.mul_ne_zero zero (Nat.two_pow_pos j).ne'), round_of_ne zero, unit,
      unitsOf_shift]

theorem round_of_writes (writes : x.Writes s m e) : f.round x = f.round (.finite s m e) := by
  obtain ⟨j, rfl⟩ := writes
  exact round_shift s m j e

theorem round_writes (digits : m < 2 ^ f.precision) (low : f.minExponent ≤ e)
    (high : e ≤ f.maxExponent) : (f.round (.finite s m e)).Writes s m e := by
  by_cases zero : m = 0
  · subst zero
    refine ⟨(e - f.minExponent).toNat, ?_⟩
    rw [Nat.zero_mul]
    show Binary.finite _ _ _ = _
    congr 1
    omega
  · have short : m.log2 < f.precision := (Nat.log2_lt zero).2 digits
    have fine : f.unit m e ≤ e := by
      rw [Format.unit]
      omega
    have bits : m.log2 + (e - f.unit m e).toNat < f.precision := by
      rw [Format.unit] at fine ⊢
      omega
    have packed : m * 2 ^ (e - f.unit m e).toNat < 2 ^ f.precision := by
      refine (Nat.log2_lt (Nat.mul_ne_zero zero (Nat.two_pow_pos _).ne')).1 ?_
      rwa [log2_mul_two_pow zero]
    refine ⟨(e - f.unit m e).toNat, ?_⟩
    rw [round_of_ne zero, unitsOf, if_pos fine, Nat.shiftLeft_eq, pack_of_lt packed (by omega)]
    congr 1
    omega

theorem pack_value (positive : 0 < f.precision) (high : e < f.maxExponent) :
    (f.pack s m e).isFinite ∧ (f.pack s m e).value = (finite s m e).value := by
  rw [pack]
  by_cases carried : m = 1 <<< f.precision
  · have even : m = m >>> 1 * 2 := by
      obtain ⟨p, last⟩ : ∃ p, f.precision = p + 1 := ⟨f.precision - 1, by omega⟩
      rw [carried, last, Nat.shiftRight_one, Nat.one_shiftLeft, Nat.pow_succ,
        Nat.mul_div_cancel _ (by omega)]
    have next : ¬ f.maxExponent < e + 1 := by omega
    simp only [carried, beq_self_eq_true, if_true, if_neg next]
    rw [← carried]
    refine ⟨rfl, ?_⟩
    rw [value, value, zpow_add_one₀ (by norm_num : (2 : ℚ) ≠ 0)]
    nth_rewrite 2 [even]
    push_cast
    ring
  · have next : ¬ f.maxExponent < e := by omega
    simp [carried, next, isFinite]

theorem abs_value (s : Bool) (m : Nat) (e : Int) : |(finite s m e).value| = m * 2 ^ e := by
  have positive : (0 : ℚ) ≤ m * 2 ^ e := by positivity
  cases s <;> simp [value, abs_of_nonneg positive]

theorem unit_le {k : Int} (nonzero : m ≠ 0) (below : |(finite s m e).value| < 2 ^ k)
    (coarse : f.minExponent + f.precision ≤ k) : f.unit m e ≤ k - f.precision := by
  rw [abs_value] at below
  have leading : (2 : ℚ) ^ ((m.log2 : Int) + e) < 2 ^ k :=
    calc (2 : ℚ) ^ ((m.log2 : Int) + e) = (2 ^ m.log2 : Nat) * 2 ^ e := by
          rw [zpow_add₀ (by norm_num : (2 : ℚ) ≠ 0), zpow_natCast, Nat.cast_pow, Nat.cast_two]
      _ ≤ m * 2 ^ e := by
          have := Nat.log2_self_le nonzero
          gcongr
      _ < 2 ^ k := below
  have := (zpow_lt_zpow_iff_right₀ (by norm_num : (1 : ℚ) < 2)).1 leading
  rw [Format.unit]
  omega

theorem round_near {k : Int} (finite : x.isFinite) (positive : 0 < f.precision)
    (below : |x.value| < 2 ^ k) (coarse : f.minExponent + f.precision ≤ k)
    (high : k < f.maxExponent + f.precision) :
    (f.round x).isFinite ∧ |(f.round x).value - x.value| ≤ 2 ^ (k - f.precision) / 2 := by
  obtain ⟨s, m, e, rfl⟩ := isFinite_iff.1 finite
  by_cases zero : m = 0
  · subst zero
    refine ⟨rfl, ?_⟩
    have still : (f.round (.finite s 0 e)).value = (Binary.finite s 0 e).value := by
      simp [round, value]
    rw [still, sub_self, abs_zero]
    positivity
  · have fine := unit_le zero below coarse
    obtain ⟨kept, same⟩ := pack_value (f := f) (s := s) (m := unitsOf m e (f.unit m e)) positive
      (show f.unit m e < f.maxExponent by omega)
    rw [round_of_ne zero]
    refine ⟨kept, ?_⟩
    rw [same]
    calc |(Binary.finite s (unitsOf m e (f.unit m e)) (f.unit m e)).value
            - (Binary.finite s m e).value|
        = |(unitsOf m e (f.unit m e) : ℚ) * 2 ^ f.unit m e - m * 2 ^ e| := by
          cases s
          · simp [value]
          · rw [← abs_neg]
            simp [value, neg_add_eq_sub]
      _ ≤ 2 ^ f.unit m e / 2 := unitsOf_near m e _
      _ ≤ 2 ^ (k - f.precision) / 2 := by
          gcongr
          norm_num

end Format

end FrameBatch
