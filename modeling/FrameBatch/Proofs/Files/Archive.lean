import FrameBatch.Files.Archive
import FrameBatch.Proofs.Files.Place

namespace FrameBatch.Files

variable {files : Files}

theorem distinct_with_above (distinct : (Entries.keys files.nodes).Nodup) (parts : List String) :
    (Entries.keys (files.nodes ++ (List.range parts.length).filterMap fun n =>
      if n = 0 || files.nodes.has (parts.take n) then none
      else some (parts.take n, FileNode.folder))).Nodup := by
  have apart : (Entries.keys ((List.range parts.length).filterMap fun n =>
      if n = 0 || files.nodes.has (parts.take n) then none
      else some (parts.take n, FileNode.folder))).Nodup := by
    rw [Entries.keys, List.Nodup, List.pairwise_map, List.pairwise_filterMap]
    refine List.Pairwise.imp_of_mem ?_ List.nodup_range
    -- the parts above of different numbers differ in length
    intro n m inside inside' different above made above' made' same
    rw [List.mem_range] at inside inside'
    split at made <;> cases made
    split at made' <;> cases made'
    have lengths := congrArg List.length same
    simp only [List.length_take] at lengths
    omega
  rw [Entries.keys, List.map_append, List.nodup_append]
  refine ⟨distinct, apart, ?_⟩
  rintro key present _ added rfl
  obtain ⟨_, member, rfl⟩ := List.mem_map.1 added
  obtain ⟨n, _, made⟩ := List.mem_filterMap.1 member
  split at made
  · cases made
  · rename_i absent
    cases made
    have absent : files.nodes.get? (parts.take n) = none := by
      simp only [Entries.has, Bool.or_eq_true, decide_eq_true_eq, not_or, Bool.not_eq_true,
        Option.isSome_eq_false_iff, Option.isNone_iff_eq_none] at absent
      exact absent.2
    exact Entries.get?_eq_none_iff.1 absent present

theorem Regular.put (regular : files.Regular) (parts : List String) (node : FileNode) :
    (files.put parts node).Regular where
  absolute := regular.absolute
  shortest := regular.shortest
  inner := regular.inner
  distinct := Entries.distinct_put (distinct_with_above regular.distinct parts) parts node

theorem Regular.putFrom (regular : files.Regular) (bytes : ByteArray) (blocks start : Nat) :
    (Archive.putFrom bytes blocks start files).Regular := by
  induction blocks generalizing start files with
  | zero => exact regular
  | succ blocks ih =>
    rw [Archive.putFrom]
    split
    · exact regular
    · refine ih ?_ _
      split
      · exact regular.put _ _
      · exact regular

theorem regular_ofArchive {home : String} (absolute : home.startsWith "/" = true)
    (shortest : Path.normal home = home) (inner : Path.parts home ≠ []) (bytes : ByteArray) :
    (ofArchive home bytes).Regular := by
  have start : Regular { home } := ⟨absolute, shortest, inner, .nil⟩
  rw [ofArchive]
  exact start.putFrom bytes _ 0

end FrameBatch.Files
