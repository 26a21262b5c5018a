import FrameBatch.Proofs.Files.Path

namespace FrameBatch.Files

/-- The working folder is given by an absolute path in its shortest spelling and is not the root
itself, and no path has two nodes. -/
structure Regular (files : Files) : Prop where
  absolute : files.home.startsWith "/" = true
  shortest : Path.normal files.home = files.home
  inner : Path.parts files.home ≠ []
  distinct : (Entries.keys files.nodes).Nodup

variable {files : Files} {path rest : String} {p q : Place}

theorem Regular.named (regular : files.Regular) : files.home ≠ "" := by
  intro empty
  have absolute := regular.absolute
  rw [empty, String.startsWith_string_iff] at absolute
  exact absurd absolute (by decide)

/-- What is left of a path below the working folder; none for a path elsewhere. -/
def below? (files : Files) (path : String) : Option String :=
  if path = files.home then some ""
  else if path.startsWith (files.home ++ "/") then
    some (path.drop (files.home.length + 1)).toString
  else if path.startsWith "/" then none
  else some path

def walk (files : Files) (rest : String) : Option Place :=
  (Path.pieces rest).foldlM files.step (.inside [])

theorem find?_eq (files : Files) (path : String) : files.find? path =
    if path = "" || path.toList.contains '\x00' then none
    else match files.below? path with
      | some rest => files.walk rest
      | none => if (Path.parts path).isEmpty then some .outside else none := rfl

theorem find?_of_below (named : path ≠ "") (legal : '\x00' ∉ path.toList)
    (below : files.below? path = some rest) : files.find? path = files.walk rest := by
  rw [find?_eq, if_neg (by simp [named, legal]), below]

theorem named_of_find? (found : files.find? path = some p) :
    path ≠ "" ∧ '\x00' ∉ path.toList := by
  rw [find?_eq] at found
  split at found
  · cases found
  · rename_i named
    simpa using named

theorem step_of_uncounted {part : String} (uncounted : Path.counts part = false)
    (steps : files.step p part = some q) : q = p := by
  have empty : part = "" ∨ part = "." := by
    rw [Path.counts, Bool.and_eq_false_iff] at uncounted
    exact uncounted.imp bne_eq_false_iff_eq.1 bne_eq_false_iff_eq.1
  unfold step at steps
  split at steps
  · cases steps
  · rw [if_pos (by simpa using empty)] at steps
    cases steps
    rfl

theorem foldlM_step_counted {pieces : List String}
    (leads : pieces.foldlM files.step p = some q) :
    (pieces.filter Path.counts).foldlM files.step p = some q := by
  induction pieces generalizing p with
  | nil => exact leads
  | cons part others ih =>
    rw [List.foldlM_cons] at leads
    obtain ⟨middle, first, others⟩ := Option.bind_eq_some_iff.1 leads
    rw [List.filter_cons]
    split
    · rw [List.foldlM_cons, first]
      exact ih others
    · rename_i uncounted
      obtain rfl := step_of_uncounted (by simpa using uncounted) first
      exact ih others

theorem walk_parts (leads : files.walk rest = some p) :
    (Path.parts rest).foldlM files.step (.inside []) = some p :=
  foldlM_step_counted leads

theorem walk_joined (some : Path.parts rest ≠ []) (leads : files.walk rest = Option.some p) :
    files.walk ("/".intercalate (Path.parts rest)) = Option.some p := by
  rw [walk, Path.pieces_joined some]
  exact walk_parts leads

theorem walk_of_no_parts (none : Path.parts rest = []) (leads : files.walk rest = some p) :
    p = .inside [] := by
  have stays := walk_parts leads
  rw [none] at stays
  exact (Option.some.inj stays).symm

theorem below?_home (files : Files) : files.below? files.home = some "" := if_pos rfl

theorem below?_joined (files : Files) (rest : String) :
    files.below? (files.home ++ "/" ++ rest) = some rest := by
  have longer : files.home ++ "/" ++ rest ≠ files.home := by
    intro same
    have lengths := congrArg String.length same
    simp only [String.length_append] at lengths
    have : "/".length = 1 := rfl
    omega
  have start : (files.home ++ "/" ++ rest).startsWith (files.home ++ "/") = true := by
    rw [String.startsWith_string_iff, String.toList_append (s := files.home ++ "/")]
    exact List.prefix_append _ _
  have dropped : ((files.home ++ "/" ++ rest).drop (files.home.length + 1)).toString = rest := by
    rw [String.Slice.toString_eq, ← String.toList_inj, String.toList_copy_drop,
      String.toList_append (s := files.home ++ "/")]
    exact List.drop_left' (by simp [String.length_toList])
  rw [below?, if_neg longer, if_pos start, dropped]

theorem absolute_of_below (regular : files.Regular)
    (start : path.startsWith (files.home ++ "/") = true) : path.startsWith "/" = true := by
  have absolute := regular.absolute
  rw [String.startsWith_string_iff] at start absolute ⊢
  rw [String.toList_append] at start
  exact absolute.trans ((List.prefix_append _ _).trans start)

theorem below?_of_relative (regular : files.Regular) (relative : path.startsWith "/" = false) :
    files.below? path = some path := by
  have elsewhere : path ≠ files.home := by
    rintro rfl
    cases regular.absolute.symm.trans relative
  have outside : ¬ path.startsWith (files.home ++ "/") = true := fun start => by
    cases (absolute_of_below regular start).symm.trans relative
  rw [below?, if_neg elsewhere, if_neg outside, if_neg (by simp [relative])]

theorem below?_cases (files : Files) (path : String) :
    path = files.home ∨ (∃ rest, path = files.home ++ "/" ++ rest) ∨
      path.startsWith "/" = false ∨ path.startsWith "/" = true ∧ files.below? path = none := by
  by_cases here : path = files.home
  · exact .inl here
  · by_cases start : path.startsWith (files.home ++ "/") = true
    · obtain ⟨rest, same⟩ := String.startsWith_string_iff.1 start
      refine .inr (.inl ⟨String.ofList rest, ?_⟩)
      rw [← String.toList_inj, ← same, String.toList_append (s := files.home ++ "/"),
        String.toList_ofList]
    · cases absolute : path.startsWith "/" with
      | false => exact .inr (.inr (.inl rfl))
      | true =>
        refine .inr (.inr (.inr ⟨rfl, ?_⟩))
        rw [below?, if_neg here, if_neg start, if_pos absolute]

theorem normal_joined (regular : files.Regular) (rest : String) :
    Path.normal (files.home ++ "/" ++ rest) =
      if Path.parts rest = [] then files.home
      else files.home ++ "/" ++ "/".intercalate (Path.parts rest) := by
  have home : Path.root files.home ++ "/".intercalate (Path.parts files.home) = files.home := by
    rw [← Path.normal_of_parts regular.inner, regular.shortest]
  have some : Path.parts (files.home ++ "/" ++ rest) ≠ [] := by
    rw [Path.parts_append]
    exact fun none => regular.inner (List.append_eq_nil_iff.1 none).1
  have root : Path.root (files.home ++ "/" ++ rest) = Path.root files.home := by
    rw [String.append_assoc]
    exact Path.root_append regular.inner _
  rw [Path.normal_of_parts some, root, Path.parts_append]
  split
  · rename_i none
    rw [none, List.append_nil, home]
  · rename_i inside
    rw [String.intercalate_append_of_ne_nil regular.inner inside, ← String.append_assoc,
      ← String.append_assoc, home]

theorem legal_normal (legal : '\x00' ∉ path.toList) : '\x00' ∉ (Path.normal path).toList := by
  intro member
  rcases Path.mem_normal member with same | same | member
  · cases same
  · cases same
  · exact legal member

theorem find?_normal_joined (regular : files.Regular)
    (found : files.find? (files.home ++ "/" ++ rest) = some p) :
    files.find? (Path.normal (files.home ++ "/" ++ rest)) = some p := by
  obtain ⟨named, legal⟩ := named_of_find? found
  rw [find?_of_below named legal (below?_joined files rest)] at found
  have legal := legal_normal legal
  rw [normal_joined regular] at legal ⊢
  split at legal
  · rename_i none
    obtain rfl := walk_of_no_parts none found
    rw [if_pos none, find?_of_below regular.named legal (below?_home files)]
    rfl
  · rename_i inside
    have named : files.home ++ "/" ++ "/".intercalate (Path.parts rest) ≠ "" := fun empty =>
      Path.joined_ne_empty inside (String.append_eq_empty_iff.1 empty).2
    rw [if_neg inside, find?_of_below named legal (below?_joined files _),
      walk_joined inside found]

theorem find?_normal_of_relative (regular : files.Regular) (relative : path.startsWith "/" = false)
    (found : files.find? path = some p) : files.find? (Path.normal path) = some p := by
  obtain ⟨named, legal⟩ := named_of_find? found
  rw [find?_of_below named legal (below?_of_relative regular relative)] at found
  have legal := legal_normal legal
  by_cases none : Path.parts path = []
  · have point : Path.normal path = "." := by
      rw [Path.normal_of_no_parts none, if_pos (Path.root_of_relative relative)]
    have relative : ".".startsWith "/" = false := by
      rw [String.startsWith_string_eq_false_iff]
      decide
    obtain rfl := walk_of_no_parts none found
    rw [point] at legal ⊢
    rw [find?_of_below (by decide) legal (below?_of_relative regular relative)]
    rfl
  · have joined : Path.normal path = "/".intercalate (Path.parts path) := by
      rw [Path.normal_of_parts none, Path.root_of_relative relative, String.empty_append]
    rw [joined] at legal ⊢
    rw [find?_of_below (Path.joined_ne_empty none) legal
      (below?_of_relative regular (Path.joined_relative none)), walk_joined none found]

theorem find?_of_elsewhere (elsewhere : files.below? path = none)
    (found : files.find? path = some p) : Path.parts path = [] ∧ p = .outside := by
  rw [find?_eq, if_neg (by simp [named_of_find? found]), elsewhere] at found
  simp only [List.isEmpty_iff] at found
  split at found
  · rename_i none
    exact ⟨none, (Option.some.inj found).symm⟩
  · cases found

theorem find?_root (regular : files.Regular) {slashes : String}
    (root : slashes = "/" ∨ slashes = "//") : files.find? slashes = some .outside := by
  have bare : Path.parts slashes = [] := by rcases root with rfl | rfl <;> decide +kernel
  have absolute : slashes.startsWith "/" = true := by
    rw [String.startsWith_string_iff]
    rcases root with rfl | rfl <;> decide
  have elsewhere : files.below? slashes = none := by
    rcases files.below?_cases slashes with rfl | ⟨rest, rfl⟩ | relative | ⟨-, elsewhere⟩
    · exact absurd bare regular.inner
    · rw [Path.parts_append] at bare
      exact absurd (List.append_eq_nil_iff.1 bare).1 regular.inner
    · cases absolute.symm.trans relative
    · exact elsewhere
  have named : ¬ (slashes = "" || slashes.toList.contains '\x00') = true := by
    rcases root with rfl | rfl <;> decide
  rw [find?_eq, if_neg named, elsewhere, bare]
  rfl

/-- The shortest spelling of a path leads to the place to which the path leads. -/
theorem find?_normal (regular : files.Regular) (found : files.find? path = some p) :
    files.find? (Path.normal path) = some p := by
  rcases files.below?_cases path with rfl | ⟨rest, rfl⟩ | relative | ⟨absolute, elsewhere⟩
  · rwa [regular.shortest]
  · exact find?_normal_joined regular found
  · exact find?_normal_of_relative regular relative found
  · obtain ⟨none, rfl⟩ := find?_of_elsewhere elsewhere found
    have slashes := Path.root_of_absolute absolute
    have root : Path.normal path = Path.root path := by
      rw [Path.normal_of_no_parts none, if_neg]
      rcases slashes with same | same <;> rw [same] <;> decide
    rw [root, find?_root regular slashes]

theorem list_eq_ok_iff {names : List String} : files.list path = .ok names ↔
    ∃ p, files.find? path = some p ∧ files.isFolderAt p = true ∧ names = files.namesBelow p := by
  rw [list]
  cases files.find? path with
  | none => simp
  | some p =>
    cases folder : files.isFolderAt p with
    | false => simp [folder]
    | true => simp [folder, eq_comm (a := files.namesBelow p)]

theorem isFolder_iff : files.isFolder path = true ↔ ∃ names, files.list path = .ok names := by
  simp only [list_eq_ok_iff, isFolder]
  cases files.find? path with
  | none => simp
  | some p => simp

theorem list_normal (regular : files.Regular) {names : List String}
    (listed : files.list path = .ok names) : files.list (Path.normal path) = .ok names := by
  obtain ⟨p, found, folder, rfl⟩ := list_eq_ok_iff.1 listed
  exact list_eq_ok_iff.2 ⟨p, find?_normal regular found, folder, rfl⟩

end FrameBatch.Files
