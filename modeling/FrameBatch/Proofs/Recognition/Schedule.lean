import FrameBatch.Proofs.Recognition.Course

namespace FrameBatch.Recognition

def Deed.accepted? : Deed → Option (String × Rect)
  | .enqueued path place true => some (path, place)
  | _ => none

def Deed.batch? : Deed → Option (List Rect)
  | .ran batch _ _ => some batch
  | .enqueued .. => none

def Deed.handled : Deed → List Result
  | .ran _ _ handled => handled
  | .enqueued .. => []

def readable (files : Files) (paths : List String) : List (String × Rect) :=
  paths.filterMap fun path => (files.pixels? path).map fun img => (path, place img)

/-- Every picture among the paths was accepted once and in order; all went through in batches of a
size, the last of which may be smaller, and their results were passed on in the same order. -/
structure Complete (files : Files) (size : Nat) (paths : List String) (deeds : List Deed)
    (t : Tally) : Prop where
  accepted : deeds.filterMap Deed.accepted? = readable files paths
  places : (deeds.filterMap Deed.batch?).flatten = (readable files paths).map Prod.snd
  full : ∀ batch ∈ (deeds.filterMap Deed.batch?).dropLast, batch.length = size
  filled : ∀ batch ∈ deeds.filterMap Deed.batch?, 0 < batch.length ∧ batch.length ≤ size
  count : (deeds.filterMap Deed.batch?).length = ((readable files paths).length + size - 1) / size
  taken : ∀ batch handled, .ran batch false handled ∉ deeds
  handled : (deeds.flatMap Deed.handled).map (·.location) = (readable files paths).map Prod.snd
  batches : t.batches = (deeds.filterMap Deed.batch?).length
  frames : t.frames = (readable files paths).length

/-- The books of a recognition that has visited some paths, and has these frames in the slots. -/
structure Books (files : Files) (size : Nat) (visited : List String) (deeds : List Deed)
    (left : List Rect) (t : Tally) : Prop where
  accepted : deeds.filterMap Deed.accepted? = readable files visited
  places : (deeds.filterMap Deed.batch?).flatten ++ left = (readable files visited).map Prod.snd
  full : ∀ batch ∈ deeds.filterMap Deed.batch?, batch.length = size
  taken : ∀ batch handled, .ran batch false handled ∉ deeds
  handled : (deeds.flatMap Deed.handled).map (·.location) = (deeds.filterMap Deed.batch?).flatten
  batches : t.batches = (deeds.filterMap Deed.batch?).length
  frames : t.frames = (readable files visited).length

section

variable {files : Files} {size : Nat} {visited : List String} {deeds : List Deed} {left : List Rect}
  {t : Tally} {path : String}

theorem readable_of_none (none : files.pixels? path = none) :
    readable files (visited ++ [path]) = readable files visited := by
  simp [readable, none]

theorem readable_of_some {img : Image} (read : files.pixels? path = some img) :
    readable files (visited ++ [path]) = readable files visited ++ [(path, place img)] := by
  simp [readable, read]

theorem length_flatten_of_full {batches : List (List Rect)}
    (full : ∀ batch ∈ batches, batch.length = size) :
    batches.flatten.length = batches.length * size := by
  induction batches with
  | nil => simp
  | cons first rest ih =>
    have later := ih fun batch member => full batch (List.mem_cons_of_mem _ member)
    rw [List.flatten_cons, List.length_append, later, full first List.mem_cons_self,
      List.length_cons, Nat.succ_mul, Nat.add_comm]

namespace Books

theorem start (files : Files) (size : Nat) : Books files size [] [] [] {} where
  accepted := rfl
  places := rfl
  full := by simp
  taken := by simp
  handled := rfl
  batches := rfl
  frames := rfl

theorem unreadable (books : Books files size visited deeds left t)
    (none : files.pixels? path = none) : Books files size (visited ++ [path]) deeds left t := by
  have same : readable files (visited ++ [path]) = readable files visited := readable_of_none none
  exact { books with
    accepted := same ▸ books.accepted
    places := same ▸ books.places
    frames := same ▸ books.frames }

theorem enqueued (books : Books files size visited deeds left t) {img : Image}
    (read : files.pixels? path = some img) :
    Books files size (visited ++ [path]) (deeds ++ [.enqueued path (place img) true])
      (left ++ [place img]) { t with frames := t.frames + 1 } := by
  have more : readable files (visited ++ [path]) = readable files visited ++ [(path, place img)] :=
    readable_of_some read
  have batches : (deeds ++ [Deed.enqueued path (place img) true]).filterMap Deed.batch? =
      deeds.filterMap Deed.batch? := by
    simp [Deed.batch?]
  constructor
  · simp [more, books.accepted, Deed.accepted?]
  · rw [more, batches, ← List.append_assoc, books.places, List.map_append]
    rfl
  · rw [batches]
    exact books.full
  · simpa using books.taken
  · rw [batches, List.flatMap_append, ← books.handled]
    simp [Deed.handled]
  · rw [batches]
    exact books.batches
  · rw [more, List.length_append, ← books.frames]
    rfl

theorem rejected (books : Books files size visited deeds left t) (path : String) (place : Rect) :
    Books files size visited (deeds ++ [.enqueued path place false]) left t := by
  have same : (deeds ++ [Deed.enqueued path place false]).filterMap Deed.batch? =
      deeds.filterMap Deed.batch? := by
    simp [Deed.batch?]
  constructor
  · simp [books.accepted, Deed.accepted?]
  · rw [same]
    exact books.places
  · rw [same]
    exact books.full
  · simpa using books.taken
  · rw [same, List.flatMap_append, ← books.handled]
    simp [Deed.handled]
  · rw [same]
    exact books.batches
  · exact books.frames

theorem ran (books : Books files size visited deeds left t) (full : left.length = size)
    {handled : List Result} (places : handled.map (·.location) = left) :
    Books files size visited (deeds ++ [.ran left true handled]) []
      { t with batches := t.batches + 1 } := by
  have more : (deeds ++ [Deed.ran left true handled]).filterMap Deed.batch? =
      deeds.filterMap Deed.batch? ++ [left] := by
    simp [Deed.batch?]
  constructor
  · simp [books.accepted, Deed.accepted?]
  · rw [more, List.append_nil, List.flatten_append, List.flatten_singleton, books.places]
  · rw [more, List.forall_mem_append]
    exact ⟨books.full, List.forall_mem_singleton.2 full⟩
  · simpa using books.taken
  · rw [more, List.flatMap_append, List.map_append, books.handled, List.flatten_append,
      List.flatten_singleton, ← places]
    simp [Deed.handled]
  · rw [more, List.length_append, books.batches]
    rfl
  · exact books.frames

theorem complete_of_empty (books : Books files size visited deeds [] t) (room : 0 < size) :
    Complete files size visited deeds t := by
  have places := books.places
  rw [List.append_nil] at places
  have total : (readable files visited).length = t.batches * size := by
    rw [books.batches, ← length_flatten_of_full books.full, places, List.length_map]
  refine ⟨books.accepted, places, ?_, ?_, ?_, books.taken, books.handled.trans places,
    books.batches, books.frames⟩
  · exact fun batch member => books.full batch ((List.dropLast_sublist _).mem member)
  · intro batch member
    have full := books.full batch member
    omega
  · rw [total, ← books.batches]
    refine (Nat.div_eq_of_lt_le ?_ ?_).symm
    · omega
    · rw [Nat.succ_mul]
      omega

theorem complete_of_left (books : Books files size visited deeds left t) (some : 0 < left.length)
    (few : left.length ≤ size) {handled : List Result}
    (places : handled.map (·.location) = left) :
    Complete files size visited (deeds ++ [.ran left true handled])
      { t with batches := t.batches + 1 } := by
  have more : (deeds ++ [Deed.ran left true handled]).filterMap Deed.batch? =
      deeds.filterMap Deed.batch? ++ [left] := by
    simp [Deed.batch?]
  have total : (readable files visited).length = t.batches * size + left.length := by
    rw [books.batches, ← length_flatten_of_full books.full, ← List.length_append, books.places,
      List.length_map]
  constructor
  · simp [books.accepted, Deed.accepted?]
  · rw [more, List.flatten_append, List.flatten_singleton, books.places]
  · rw [more, List.dropLast_concat]
    exact books.full
  · rw [more, List.forall_mem_append]
    refine ⟨fun batch member => ?_, List.forall_mem_singleton.2 ⟨some, few⟩⟩
    have full := books.full batch member
    omega
  · rw [more, List.length_append, List.length_singleton, total, ← books.batches]
    refine (Nat.div_eq_of_lt_le ?_ ?_).symm
    · rw [Nat.succ_mul]
      omega
    · rw [Nat.succ_mul, Nat.succ_mul]
      omega
  · simpa using books.taken
  · rw [List.flatMap_append, List.map_append, books.handled, ← books.places, ← places]
    simp [Deed.handled]
  · rw [more, List.length_append, ← books.batches]
    rfl
  · exact books.frames

end Books

end

end FrameBatch.Recognition
