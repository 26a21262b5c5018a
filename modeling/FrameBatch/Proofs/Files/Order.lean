import FrameBatch.Proofs.Files.Place

namespace FrameBatch.Files

/-- The same nodes below the same working folder, met in another order. -/
structure Reordered (files files' : Files) : Prop where
  home : files'.home = files.home
  nodes : files'.nodes.Perm files.nodes

namespace Reordered

theorem refl (files : Files) : files.Reordered files := ⟨rfl, .refl _⟩

variable {files files' : Files}

variable (same : files.Reordered files') (regular : files.Regular)

include same in
theorem namesBelow (p : Place) : (files'.namesBelow p).Perm (files.namesBelow p) := by
  cases p with
  | outside => exact .refl _
  | inside parts => exact same.nodes.filterMap _

include same regular

theorem node? (p : Place) : files'.node? p = files.node? p := by
  cases p with
  | outside => rfl
  | inside parts =>
    cases parts with
    | nil => rfl
    | cons part rest => exact Entries.get?_perm same.nodes regular.distinct (part :: rest)

theorem isFolderAt (p : Place) : files'.isFolderAt p = files.isFolderAt p := by
  rw [Files.isFolderAt, Files.isFolderAt, same.node? regular]

theorem step : files'.step = files.step := by
  funext p part
  simp only [Files.step, same.isFolderAt regular, same.node? regular]

theorem find? (path : String) : files'.find? path = files.find? path := by
  rw [Files.find?, Files.find?, same.home, same.step regular]

theorem list {path : String} {names : List String} (listed : files.list path = .ok names) :
    ∃ names', files'.list path = .ok names' ∧ names'.Perm names := by
  obtain ⟨p, found, folder, rfl⟩ := list_eq_ok_iff.1 listed
  refine ⟨files'.namesBelow p, list_eq_ok_iff.2 ⟨p, ?_, ?_, rfl⟩, same.namesBelow p⟩
  · rw [same.find? regular, found]
  · rw [same.isFolderAt regular, folder]

theorem keeps_regular : files'.Regular where
  absolute := same.home ▸ regular.absolute
  shortest := same.home ▸ regular.shortest
  inner := same.home ▸ regular.inner
  distinct := (same.nodes.map Prod.fst).nodup_iff.2 regular.distinct

end Reordered

/-- Any name of a folder can be the first one listed. -/
theorem exists_first {files : Files} (regular : files.Regular) {path name : String}
    {names : List String} (listed : files.list path = .ok names) (among : name ∈ names) :
    ∃ files' others, files.Reordered files' ∧ files'.list path = .ok (name :: others) := by
  obtain ⟨p, found, folder, rfl⟩ := list_eq_ok_iff.1 listed
  cases p with
  | outside => cases among
  | inside parts =>
    obtain ⟨⟨key, node⟩, member, named⟩ := List.mem_filterMap.1 among
    have first : (if key.dropLast == parts then key.getLast? else none) = some name := named
    obtain ⟨before, after, split⟩ := List.append_of_mem member
    let files' : Files := { files with nodes := (key, node) :: (before ++ after) }
    have same : files.Reordered files' := ⟨rfl, split ▸ List.perm_middle.symm⟩
    refine ⟨files', { files with nodes := before ++ after }.namesBelow (.inside parts), same,
      list_eq_ok_iff.2 ⟨.inside parts, ?_, ?_, ?_⟩⟩
    · rw [same.find? regular, found]
    · rw [same.isFolderAt regular, folder]
    · simp only [files', namesBelow, List.filterMap_cons, first]

end FrameBatch.Files
