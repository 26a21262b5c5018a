import FrameBatch.Files.Images
import FrameBatch.Proofs.Act.Fails

namespace FrameBatch.Files

def Listed (files : Files) (folder : String) (paths : List String) : Prop :=
  ∃ names sorted : List String, files.list (Path.normal folder) = .ok names ∧
    sorted.Perm (names.filter isImageName) ∧ sorted.Pairwise (· ≤ ·) ∧
      paths = sorted.map (Path.join (Path.normal folder))

theorem pairwise_sorted (names : List String) :
    (names.mergeSort fun a b => decide (a ≤ b)).Pairwise (· ≤ ·) := by
  have trans (a b c : String) (first : decide (a ≤ b) = true) (second : decide (b ≤ c) = true) :
      decide (a ≤ c) = true :=
    decide_eq_true (String.le_trans (of_decide_eq_true first) (of_decide_eq_true second))
  have total (a b : String) : (decide (a ≤ b) || decide (b ≤ a)) = true := by
    simpa using String.le_total a b
  exact (List.pairwise_mergeSort trans total names).imp of_decide_eq_true

theorem images_eq_ok_iff {files : Files} {folder : String} {paths : List String} :
    files.images folder = .ok paths ↔ files.Listed folder paths := by
  constructor
  · intro lists
    obtain ⟨names, list, lists⟩ := bind_ok lists
    cases lists
    exact ⟨names, _, list, List.mergeSort_perm _ _, pairwise_sorted _, rfl⟩
  · rintro ⟨names, sorted, list, perm, pairwise, rfl⟩
    have same : (names.filter isImageName).mergeSort (fun a b => decide (a ≤ b)) = sorted :=
      List.Perm.eq_of_pairwise (fun _ _ _ _ => String.le_antisymm) (pairwise_sorted _) pairwise
        ((List.mergeSort_perm _ _).trans perm.symm)
    simp only [images, list, ok_bind, same]
    rfl

end FrameBatch.Files
