import FrameBatch.Number.Format
import Mathlib.Algebra.Order.Field.Power
import Mathlib.Data.Rat.Floor
import Mathlib.Tactic.Linarith
import Mathlib.Tactic.NormNum
import Mathlib.Tactic.Positivity
import Mathlib.Tactic.Ring

namespace FrameBatch

theorem two_zpow_shift {low e : Int} (below : low ≤ e) :
    (2 : ℚ) ^ (e - low).toNat * 2 ^ low = 2 ^ e := by
  rw [← zpow_natCast, ← zpow_add₀ (by norm_num : (2 : ℚ) ≠ 0)]
  congr 1
  omega

theorem halfEven_near (num : Nat) {den : Nat} (positive : 0 < den) :
    2 * num ≤ 2 * (halfEven num den * den) + den ∧ 2 * (halfEven num den * den) ≤ 2 * num + den := by
  have split := Nat.div_add_mod' num den
  have below := Nat.mod_lt num positive
  rw [halfEven]
  generalize num / den = q at split
  generalize num % den = r at split below
  split_ifs
  · omega
  · rw [Nat.add_mul, Nat.one_mul]
    omega
  · rw [Nat.add_mul]
    rcases Nat.mod_two_eq_zero_or_one q with even | odd
    · rw [even, Nat.zero_mul]
      omega
    · rw [odd, Nat.one_mul]
      omega

theorem Format.unitsOf_near (m : Nat) (e u : Int) :
    |(unitsOf m e u : ℚ) * 2 ^ u - m * 2 ^ e| ≤ 2 ^ u / 2 := by
  have unit (k : Int) : (0 : ℚ) < 2 ^ k := zpow_pos (by norm_num) k
  rw [unitsOf]
  split_ifs with fine
  · rw [Nat.shiftLeft_eq, Nat.cast_mul, Nat.cast_pow, Nat.cast_two, mul_assoc,
      two_zpow_shift fine, sub_self, abs_zero]
    exact (half_pos (unit u)).le
  · have shift := two_zpow_shift (by omega : e ≤ u)
    rw [← Nat.cast_two, ← Nat.cast_pow, ← Nat.one_shiftLeft, Nat.cast_two] at shift
    have positive : 0 < 1 <<< (u - e).toNat := by
      rw [Nat.one_shiftLeft]
      exact Nat.two_pow_pos _
    generalize 1 <<< (u - e).toNat = d at shift positive
    obtain ⟨below, above⟩ := halfEven_near m positive
    generalize halfEven m d = q at below above
    have below : 2 * (m : ℚ) ≤ 2 * (q * d) + d := by exact_mod_cast below
    have above : 2 * ((q : ℚ) * d) ≤ 2 * m + d := by exact_mod_cast above
    have near : |(q : ℚ) * d - m| ≤ d / 2 := abs_le.2 ⟨by linarith, by linarith⟩
    calc |(q : ℚ) * 2 ^ u - m * 2 ^ e| = |(q : ℚ) * d - m| * 2 ^ e := by
          rw [← shift, ← abs_of_pos (unit e), ← abs_mul, abs_of_pos (unit e)]
          ring_nf
      _ ≤ d / 2 * 2 ^ e := mul_le_mul_of_nonneg_right near (unit e).le
      _ = 2 ^ u / 2 := by rw [← shift]; ring

def towardZero (q : ℚ) : Int := if 0 ≤ q then ⌊q⌋ else ⌈q⌉

theorem towardZero_neg (q : ℚ) : towardZero (-q) = -towardZero q := by
  rcases lt_trichotomy q 0 with below | rfl | above
  · rw [towardZero, towardZero, if_pos (by linarith), if_neg (by linarith), Int.floor_neg]
  · simp [towardZero]
  · rw [towardZero, towardZero, if_neg (by linarith), if_pos above.le, Int.ceil_neg]

theorem towardZero_intCast (z : Int) : towardZero z = z := by
  simp [towardZero]

theorem towardZero_natCast_div (m d : Nat) : towardZero ((m : ℚ) / d) = (m / d : Nat) := by
  have nonneg : (0 : ℚ) ≤ m / d := by positivity
  rw [towardZero, if_pos nonneg, Rat.floor_natCast_div_natCast, Int.natCast_ediv]

namespace Binary

/-- The number that a finite datum stands for; zero for any other datum. -/
def value : Binary → ℚ
  | .finite s m e => (if s then -1 else 1) * m * 2 ^ e
  | _ => 0

variable {x y : Binary}

theorem isFinite_iff : x.isFinite ↔ ∃ s m e, x = .finite s m e := by
  cases x <;> simp [isFinite]

theorem value_scaledTo (s : Bool) (m : Nat) {e low : Int} (below : low ≤ e) :
    (scaledTo s m e low : ℚ) * 2 ^ low = (finite s m e).value := by
  rw [scaledTo, value, ← two_zpow_shift below, Nat.shiftLeft_eq]
  cases s
  · simp [mul_assoc]
  · simp [mul_assoc]

theorem value_of_int (z : Int) (e : Int) :
    (finite (decide (z < 0)) z.natAbs e).value = z * 2 ^ e := by
  have magnitude : (if z < 0 then -1 else 1) * (z.natAbs : ℚ) = z := by
    rw [Nat.cast_natAbs]
    split_ifs with negative
    · rw [abs_of_neg negative]
      simp
    · rw [abs_of_nonneg (Int.not_lt.1 negative), one_mul]
  simp only [value, decide_eq_true_eq, magnitude]

theorem value_ofInt (z : Int) : (ofInt z).value = z := by
  rw [ofInt, value_of_int]
  simp

theorem value_neg (x : Binary) : x.neg.value = -x.value := by
  cases x with
  | finite s m e => cases s <;> simp [neg, value]
  | _ => simp [neg, value]

theorem add_finite (hx : x.isFinite) (hy : y.isFinite) :
    (x.add y).isFinite ∧ (x.add y).value = x.value + y.value := by
  obtain ⟨s, m, e, rfl⟩ := isFinite_iff.1 hx
  obtain ⟨t, n, g, rfl⟩ := isFinite_iff.1 hy
  have sum := congrArg₂ (· + ·) (value_scaledTo s m (Int.min_le_left e g))
    (value_scaledTo t n (Int.min_le_right e g))
  simp only [← add_mul, ← Int.cast_add] at sum
  simp only [add]
  split_ifs with zero
  · refine ⟨rfl, ?_⟩
    rw [← sum, zero]
    simp [value]
  · exact ⟨rfl, (value_of_int _ _).trans sum⟩

theorem isFinite_neg (hx : x.isFinite) : x.neg.isFinite := by
  obtain ⟨s, m, e, rfl⟩ := isFinite_iff.1 hx
  rfl

theorem sub_finite (hx : x.isFinite) (hy : y.isFinite) :
    (x.sub y).isFinite ∧ (x.sub y).value = x.value - y.value := by
  obtain ⟨finite, value⟩ := add_finite hx (isFinite_neg hy)
  exact ⟨finite, by rw [sub, value, value_neg, sub_eq_add_neg]⟩

theorem mul_finite (hx : x.isFinite) (hy : y.isFinite) :
    (x.mul y).isFinite ∧ (x.mul y).value = x.value * y.value := by
  obtain ⟨s, m, e, rfl⟩ := isFinite_iff.1 hx
  obtain ⟨t, n, g, rfl⟩ := isFinite_iff.1 hy
  refine ⟨rfl, ?_⟩
  rw [mul, value, value, value, zpow_add₀ (by norm_num : (2 : ℚ) ≠ 0)]
  cases s <;> cases t <;> push_cast <;> simp <;> ring

theorem same_iff (hx : x.isFinite) (hy : y.isFinite) : x.same y ↔ x.value = y.value := by
  obtain ⟨s, m, e, rfl⟩ := isFinite_iff.1 hx
  obtain ⟨t, n, g, rfl⟩ := isFinite_iff.1 hy
  have nonzero : (2 : ℚ) ^ min e g ≠ 0 := zpow_ne_zero _ (by norm_num)
  rw [← value_scaledTo s m (Int.min_le_left e g), ← value_scaledTo t n (Int.min_le_right e g),
    mul_left_inj' nonzero, Int.cast_inj]
  simp [same, compare?]

theorem floor?_finite (hx : x.isFinite) :
    ∃ i : Int, x.floor? = some i ∧ i ≤ x.value ∧ x.value < i + 1 := by
  obtain ⟨s, m, e, rfl⟩ := isFinite_iff.1 hx
  rw [floor?]
  split_ifs with whole
  · refine ⟨_, rfl, ?_⟩
    rw [← value_scaledTo s m whole]
    simp
  · refine ⟨_, rfl, ?_⟩
    rw [← value_scaledTo s m (Int.le_refl e)]
    generalize scaledTo s m e e = n
    have unit : ((1 <<< (-e).toNat : Nat) : ℚ) * 2 ^ e = 1 := by
      have shift := two_zpow_shift (by omega : e ≤ 0)
      rw [Int.zero_sub, zpow_zero] at shift
      rw [Nat.one_shiftLeft, Nat.cast_pow, Nat.cast_two, shift]
    have positive : 0 < 1 <<< (-e).toNat := by
      rw [Nat.one_shiftLeft]
      exact Nat.two_pow_pos _
    have down : (0 : ℚ) < 2 ^ e := zpow_pos (by norm_num) e
    generalize 1 <<< (-e).toNat = d at unit positive
    have below := Int.ediv_mul_le n (b := d) (by omega)
    have above := Int.lt_ediv_add_one_mul_self n (b := d) (by omega)
    generalize n / (d : Int) = q at below above
    have below : (q : ℚ) * d ≤ n := by exact_mod_cast below
    have above : (n : ℚ) < (q + 1) * d := by exact_mod_cast above
    constructor
    · calc (q : ℚ) = q * d * 2 ^ e := by rw [mul_assoc, unit, mul_one]
        _ ≤ n * 2 ^ e := mul_le_mul_of_nonneg_right below down.le
    · calc (n : ℚ) * 2 ^ e < (q + 1) * d * 2 ^ e := mul_lt_mul_of_pos_right above down
        _ = q + 1 := by rw [mul_assoc, unit, mul_one]

theorem nearest?_finite (hx : x.isFinite) :
    ∃ n : Int, x.nearest? = some n ∧ |n - x.value| ≤ 1 / 2 := by
  obtain ⟨s, m, e, rfl⟩ := isFinite_iff.1 hx
  have near := Format.unitsOf_near m e 0
  rw [zpow_zero, mul_one] at near
  have same : (if 0 ≤ e then m <<< e.toNat else halfEven m (1 <<< (-e).toNat)) =
      Format.unitsOf m e 0 := by
    simp [Format.unitsOf]
  rw [nearest?, same, value]
  refine ⟨_, rfl, ?_⟩
  cases s
  · simpa using near
  · rw [← abs_neg]
    simpa [neg_add_eq_sub] using near

theorem truncate?_finite (hx : x.isFinite) : x.truncate? = some (towardZero x.value) := by
  obtain ⟨s, m, e, rfl⟩ := isFinite_iff.1 hx
  have magnitude : towardZero (m * 2 ^ e) =
      ((if 0 ≤ e then m <<< e.toNat else m >>> (-e).toNat : Nat) : Int) := by
    split_ifs with whole
    · obtain ⟨k, rfl⟩ := Int.eq_ofNat_of_zero_le whole
      have exact : (m * 2 ^ (k : Int) : ℚ) = ((m * 2 ^ k : Nat) : Int) := by
        push_cast
        rw [zpow_natCast]
      rw [exact, towardZero_intCast, Int.toNat_natCast, Nat.shiftLeft_eq]
    · obtain ⟨k, same⟩ := Int.eq_ofNat_of_zero_le (by omega : 0 ≤ -e)
      have exact : (m * 2 ^ e : ℚ) = m / (2 ^ k : Nat) := by
        rw [show e = -(k : Int) by omega, zpow_neg, zpow_natCast, div_eq_mul_inv]
        push_cast
        rfl
      rw [exact, towardZero_natCast_div, same, Int.toNat_natCast, Nat.shiftRight_eq_div_pow]
  rw [truncate?, value]
  cases s
  · simp [magnitude]
  · simp [towardZero_neg, magnitude]

end Binary

end FrameBatch
