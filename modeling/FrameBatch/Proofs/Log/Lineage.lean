import FrameBatch.Proofs.Log.Calls

namespace FrameBatch.Journal

def Below (name : String) : Prop := ∃ rest, name.toList = libraryName.toList ++ '.' :: rest

theorem not_below_library : ¬ Below libraryName := by
  rintro ⟨rest, same⟩
  have lengths := congrArg List.length same
  simp only [List.length_append, List.length_cons] at lengths
  omega

theorem mem_starts {start cs : List Char} (member : start ∈ starts cs) :
    ∃ front, cs = front ++ '.' :: start := by
  fun_induction starts cs with
  | case1 c rest ih =>
    rcases List.mem_cons.1 member with rfl | later
    · exact ⟨[], rfl⟩
    · obtain ⟨front, rfl⟩ := ih later
      exact ⟨'.' :: c :: front, rfl⟩
  | case2 c rest _ ih =>
    obtain ⟨front, rfl⟩ := ih member
    exact ⟨c :: front, rfl⟩
  | case3 => cases member

theorem starts_split {own cs : List Char} (member : own ∈ starts cs) :
    ∃ lower, starts cs = lower ++ own :: starts own.tail ∧
      ∀ start ∈ lower, ∃ front, start = front ++ '.' :: own := by
  fun_induction starts cs with
  | case1 c rest ih =>
    by_cases first : c :: rest = own
    · subst first
      exact ⟨[], rfl, nofun⟩
    · have later : own ∈ starts rest := (List.mem_cons.1 member).resolve_left (Ne.symm first)
      obtain ⟨lower, split, below⟩ := ih later
      obtain ⟨front, rest_eq⟩ := mem_starts later
      refine ⟨(c :: rest) :: lower, by rw [split, List.cons_append], fun start among => ?_⟩
      rcases List.mem_cons.1 among with rfl | among
      · exact ⟨c :: front, by rw [rest_eq, List.cons_append]⟩
      · exact below start among
  | case2 c rest _ ih => exact ih member
  | case3 => cases member

/-- Between a logger of the library and the root are loggers below the library's own one, and then
that one. -/
theorem chain_of_library {name : String} (member : libraryName ∈ chain name) :
    ∃ lower, chain name = lower ++ [libraryName, rootName] ∧ ∀ n ∈ lower, Below n := by
  by_cases root : name = rootName
  · subst root
    exact absurd member (by decide +kernel)
  by_cases own : name = libraryName
  · subst own
    exact ⟨[], by decide +kernel, nofun⟩
  have written : (fun start : List Char => String.ofList start.reverse)
      libraryName.toList.reverse = libraryName := by decide +kernel
  have among : libraryName.toList.reverse ∈ starts name.toList.reverse := by
    simp only [chain, if_neg root, List.cons_append, List.mem_cons, List.mem_append, List.mem_map,
      List.not_mem_nil, or_false] at member
    rcases member with same | ⟨start, among, same⟩ | same
    · exact absurd same.symm own
    · rw [← same]
      simpa using among
    · exact absurd same (by decide)
  -- the library's own name has no point, so that the root follows it
  obtain ⟨lower, split, below⟩ := starts_split among
  have ended : starts libraryName.toList.reverse.tail = [] := by decide +kernel
  refine ⟨name :: lower.map fun start => String.ofList start.reverse, ?_, fun n member => ?_⟩
  · simp only [chain, if_neg root, split, ended, List.map_append, List.map_cons, List.map_nil,
      written, List.append_assoc, List.cons_append, List.nil_append]
  · rcases List.mem_cons.1 member with rfl | mapped
    · obtain ⟨front, same⟩ := mem_starts among
      exact ⟨front.reverse, by simpa using congrArg List.reverse same⟩
    · obtain ⟨start, among, rfl⟩ := List.mem_map.1 mapped
      obtain ⟨front, rfl⟩ := below start among
      exact ⟨front.reverse, by simp⟩

end FrameBatch.Journal
