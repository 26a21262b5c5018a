import FrameBatch.Files.Tree

namespace FrameBatch

theorem mem_of_mem_splitOn {a c : Char} {cs part : List Char} (among : part ∈ cs.splitOn a)
    (member : c ∈ part) : c ∈ cs ∧ c ≠ a := by
  induction cs generalizing part with
  | nil =>
    rw [List.splitOn_nil, List.mem_singleton] at among
    rw [among] at member
    cases member
  | cons d rest ih =>
    rw [List.splitOn_cons_eq_if_modifyHead] at among
    split at among
    · rcases List.mem_cons.1 among with rfl | among
      · cases member
      · exact ⟨List.mem_cons_of_mem d (ih among member).1, (ih among member).2⟩
    · rename_i other
      -- the first character goes to the first part
      obtain ⟨first, others, split⟩ := List.exists_cons_of_ne_nil (List.splitOn_ne_nil a rest)
      rw [split, List.modifyHead_cons, List.mem_cons] at among
      rw [split] at ih
      rcases among with rfl | among
      · rcases List.mem_cons.1 member with rfl | member
        · exact ⟨List.mem_cons_self, fun same => other (beq_iff_eq.2 same)⟩
        · have inside := ih List.mem_cons_self member
          exact ⟨List.mem_cons_of_mem d inside.1, inside.2⟩
      · have inside := ih (List.mem_cons_of_mem first among) member
        exact ⟨List.mem_cons_of_mem d inside.1, inside.2⟩

namespace Path

def counts (part : String) : Bool := part != "" && part != "."

theorem parts_eq (path : String) : parts path = (pieces path).filter counts := rfl

theorem pieces_append (s t : String) : pieces (s ++ "/" ++ t) = pieces s ++ pieces t := by
  have cut : (s ++ "/" ++ t).toList = s.toList ++ '/' :: t.toList := by
    simp [String.toList_append]
  rw [pieces, cut, List.splitOn_append_cons_self, List.map_append]
  rfl

theorem parts_append (s t : String) : parts (s ++ "/" ++ t) = parts s ++ parts t := by
  rw [parts_eq, pieces_append, List.filter_append]
  rfl

theorem mem_of_mem_pieces {path part : String} {c : Char} (among : part ∈ pieces path)
    (member : c ∈ part.toList) : c ∈ path.toList ∧ c ≠ '/' := by
  obtain ⟨cs, split, rfl⟩ := List.mem_map.1 among
  rw [String.toList_ofList] at member
  exact mem_of_mem_splitOn split member

theorem mem_of_mem_parts {path part : String} {c : Char} (among : part ∈ parts path)
    (member : c ∈ part.toList) : c ∈ path.toList ∧ c ≠ '/' :=
  mem_of_mem_pieces (List.mem_filter.1 among).1 member

theorem pieces_intercalate {parts : List String} (some : parts ≠ [])
    (whole : ∀ part ∈ parts, '/' ∉ part.toList) : pieces ("/".intercalate parts) = parts := by
  have characters : ("/".intercalate parts).toList = ['/'].intercalate (parts.map String.toList) :=
    String.toList_intercalate
  have whole : ∀ cs ∈ parts.map String.toList, '/' ∉ cs := by
    intro cs among
    obtain ⟨part, given, rfl⟩ := List.mem_map.1 among
    exact whole part given
  rw [pieces, characters, List.splitOn_intercalate '/' whole (by simpa using some), List.map_map]
  simp [Function.comp_def]

theorem slash_not_mem {path part : String} (among : part ∈ parts path) : '/' ∉ part.toList :=
  fun member => (mem_of_mem_parts among member).2 rfl

theorem pieces_joined {path : String} (some : parts path ≠ []) :
    pieces ("/".intercalate (parts path)) = parts path :=
  pieces_intercalate some fun _ among => slash_not_mem among

theorem joined_ne_empty {path : String} (some : parts path ≠ []) :
    "/".intercalate (parts path) ≠ "" := by
  intro empty
  have single : parts path = [""] := by
    rw [← pieces_joined some, empty]
    rfl
  have counted := (List.mem_filter.1 (single ▸ List.mem_cons_self : "" ∈ parts path)).2
  cases counted

theorem joined_relative {path : String} (some : parts path ≠ []) :
    ("/".intercalate (parts path)).startsWith "/" = false := by
  rw [String.startsWith_string_eq_false_iff]
  rintro ⟨rest, start⟩
  have cut : "/".intercalate (parts path) = "" ++ "/" ++ String.ofList rest := by
    rw [← String.toList_inj, ← start]
    simp
  have among : "" ∈ parts path := by
    rw [← pieces_joined some, cut, pieces_append]
    exact List.mem_append_left _ List.mem_cons_self
  cases (List.mem_filter.1 among).2

theorem mem_intercalate {parts : List String} {c : Char}
    (member : c ∈ ("/".intercalate parts).toList) : c = '/' ∨ ∃ part ∈ parts, c ∈ part.toList := by
  induction parts with
  | nil => cases member
  | cons part others ih =>
    by_cases last : others = []
    · subst last
      rw [String.intercalate_singleton] at member
      exact .inr ⟨part, List.mem_cons_self, member⟩
    · rw [String.intercalate_cons_of_ne_nil last, String.toList_append, String.toList_append,
        List.mem_append, List.mem_append] at member
      rcases member with (member | member) | member
      · exact .inr ⟨part, List.mem_cons_self, member⟩
      · exact .inl (List.mem_singleton.1 member)
      · exact (ih member).imp_right fun ⟨other, among, member⟩ =>
          ⟨other, List.mem_cons_of_mem part among, member⟩

theorem exists_character {path : String} (some : parts path ≠ []) :
    ∃ c ∈ path.toList, c ≠ '/' := by
  obtain ⟨part, others, eq⟩ := List.exists_cons_of_ne_nil some
  have among : part ∈ parts path := eq ▸ List.mem_cons_self
  have counted := (List.mem_filter.1 among).2
  have inhabited : part.toList ≠ [] := fun empty => by
    simp [String.toList_eq_nil_iff.1 empty] at counted
  obtain ⟨c, rest, eq⟩ := List.exists_cons_of_ne_nil inhabited
  exact ⟨c, mem_of_mem_parts among (eq ▸ List.mem_cons_self)⟩

/-- What stands after the parts of a path does not count for the slashes at its start. -/
theorem startsWith_append {slashes s : String} (only : ∀ c ∈ slashes.toList, c = '/')
    (some : parts s ≠ []) (t : String) :
    (s ++ t).startsWith slashes = s.startsWith slashes := by
  rw [Bool.eq_iff_iff, String.startsWith_string_iff, String.startsWith_string_iff,
    String.toList_append]
  constructor
  · intro start
    rcases List.prefix_or_prefix_of_prefix start (List.prefix_append s.toList t.toList) with
      inside | beyond
    · exact inside
    · obtain ⟨c, member, other⟩ := exists_character some
      exact absurd (only c (beyond.subset member)) other
  · exact fun start => start.trans (List.prefix_append _ _)

theorem root_append {s : String} (some : parts s ≠ []) (t : String) : root (s ++ t) = root s := by
  rw [root, root, startsWith_append (by simp) some, startsWith_append (by simp) some,
    startsWith_append (by simp) some]

theorem root_of_relative {path : String} (relative : path.startsWith "/" = false) :
    root path = "" := by
  have single : path.startsWith "//" = false := by
    rw [String.startsWith_string_eq_false_iff] at relative ⊢
    have shorter : "/".toList <+: "//".toList := ⟨['/'], rfl⟩
    exact fun start => relative (shorter.trans start)
  rw [root, single, relative]
  rfl

theorem root_of_absolute {path : String} (absolute : path.startsWith "/" = true) :
    root path = "/" ∨ root path = "//" := by
  rw [root, absolute]
  split
  · exact .inr rfl
  · exact .inl rfl

theorem normal_of_parts {path : String} (some : parts path ≠ []) :
    normal path = root path ++ "/".intercalate (parts path) :=
  if_neg fun empty => joined_ne_empty some (String.append_eq_empty_iff.1 empty).2

theorem normal_of_no_parts {path : String} (none : parts path = []) :
    normal path = if root path = "" then "." else root path := by
  rw [normal, none, String.intercalate_nil, String.append_empty]

theorem mem_normal {path : String} {c : Char} (member : c ∈ (normal path).toList) :
    c = '/' ∨ c = '.' ∨ c ∈ path.toList := by
  have start (member : c ∈ (root path).toList) : c = '/' := by
    rw [root] at member
    split at member
    · simpa using member
    · split at member
      · simpa using member
      · cases member
  by_cases none : parts path = []
  · rw [normal_of_no_parts none] at member
    split at member
    · exact .inr (.inl (List.mem_singleton.1 member))
    · exact .inl (start member)
  · rw [normal_of_parts none, String.toList_append, List.mem_append] at member
    rcases member with member | member
    · exact .inl (start member)
    · rcases mem_intercalate member with rfl | ⟨part, among, member⟩
      · exact .inl rfl
      · exact .inr (.inr (mem_of_mem_parts among member).1)

end Path

end FrameBatch
