import FrameBatch.Text.Case
import Mathlib.Data.List.Forall2

namespace FrameBatch.Text

def IsLetterCode (n : Nat) : Prop := 65 ≤ n ∧ n ≤ 90 ∨ 97 ≤ n ∧ n ≤ 122

instance (n : Nat) : Decidable (IsLetterCode n) :=
  inferInstanceAs (Decidable (65 ≤ n ∧ n ≤ 90 ∨ 97 ≤ n ∧ n ≤ 122))

theorem IsLetterCode.ascii {n : Nat} (letter : IsLetterCode n) : n < 128 := by
  rw [IsLetterCode] at letter
  omega

/-- The two characters are one, or the two cases of one ASCII letter. -/
def Alike (c d : Char) : Prop := c.toLower = d.toLower

/-- The two texts differ in the case of ASCII letters alone. -/
def SameButCase (s t : String) : Prop := s.toList.map Char.toLower = t.toList.map Char.toLower

instance (s t : String) : Decidable (SameButCase s t) :=
  inferInstanceAs (Decidable (s.toList.map Char.toLower = t.toList.map Char.toLower))

theorem toNat_toLower (c : Char) :
    c.toLower.toNat = if 65 ≤ c.toNat ∧ c.toNat ≤ 90 then c.toNat + 32 else c.toNat := by
  have bounds : c.val ≥ 'A'.val ∧ c.val ≤ 'Z'.val ↔ 65 ≤ c.toNat ∧ c.toNat ≤ 90 := Iff.rfl
  unfold Char.toLower
  split <;> rename_i capital
  · have capital := bounds.1 capital
    rw [if_pos capital]
    exact (UInt32.toNat_add _ _).trans (Nat.mod_eq_of_lt (by
      have : c.val.toNat = c.toNat := rfl
      have : ('a'.val - 'A'.val).toNat = 32 := rfl
      omega))
  · rw [if_neg fun capital' => capital (bounds.2 capital')]

namespace Alike

variable {c d : Char}

theorem eq_or_letters (alike : Alike c d) :
    c = d ∨ IsLetterCode c.toNat ∧ IsLetterCode d.toNat := by
  have codes : c.toLower.toNat = d.toLower.toNat := congrArg Char.toNat alike
  rw [toNat_toLower, toNat_toLower] at codes
  by_cases same : c.toNat = d.toNat
  · exact .inl (Char.toNat_inj.1 same)
  · right
    rw [IsLetterCode, IsLetterCode]
    split at codes <;> split at codes <;> omega

theorem congr {p : Nat → Bool} (alike : Alike c d) (value : Bool)
    (letters : ∀ n < 128, IsLetterCode n → p n = value) : p c.toNat = p d.toNat := by
  rcases alike.eq_or_letters with rfl | ⟨letter, letter'⟩
  · rfl
  · rw [letters _ letter.ascii letter, letters _ letter'.ascii letter']

theorem isCased (alike : Alike c d) : isCased c = isCased d := alike.congr true (by decide +kernel)

theorem isPassedOver (alike : Alike c d) : isPassedOver c = isPassedOver d :=
  alike.congr false (by decide +kernel)

theorem eq_sigma_iff (alike : Alike c d) : c = sigma ↔ d = sigma := by
  have codes := alike.congr (p := (· == sigma.toNat)) false (by decide)
  simpa [Char.toNat_inj] using codes

theorem lowerChar (alike : Alike c d) : lowerChar c = lowerChar d := by
  rcases alike.eq_or_letters with rfl | ⟨letter, letter'⟩
  · rfl
  · rw [Text.lowerChar, Text.lowerChar, if_pos letter.ascii, if_pos letter'.ascii, alike]

end Alike

variable {cs ds before before' : List Char}

theorem meetsCased_congr (alike : List.Forall₂ Alike cs ds) : meetsCased cs = meetsCased ds := by
  induction alike with
  | nil => rfl
  | @cons c d _ _ first _ ih =>
    rw [meetsCased, meetsCased, List.dropWhile_cons, List.dropWhile_cons, first.isPassedOver]
    by_cases skips : isPassedOver d = true
    · rw [if_pos skips, if_pos skips]
      exact ih
    · rw [if_neg skips, if_neg skips]
      exact first.isCased

theorem lowerAfter_congr (around : List.Forall₂ Alike before before')
    (alike : List.Forall₂ Alike cs ds) : lowerAfter before cs = lowerAfter before' ds := by
  induction alike generalizing before before' with
  | nil => rfl
  | cons first rest ih =>
    simp only [lowerAfter, ih (.cons first around), first.lowerChar, first.eq_sigma_iff,
      lowerSigma, meetsCased_congr around, meetsCased_congr rest]

namespace SameButCase

variable {s t : String}

theorem characters (same : SameButCase s t) : List.Forall₂ Alike s.toList t.toList := by
  rw [SameButCase, ← List.forall₂_eq_eq_eq, List.forall₂_map_left_iff,
    List.forall₂_map_right_iff] at same
  exact same

theorem lower (same : SameButCase s t) : lower s = lower t := by
  rw [Text.lower, Text.lower, lowerAfter_congr .nil same.characters]

end SameButCase

end FrameBatch.Text
