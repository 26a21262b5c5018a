namespace FrameBatch

abbrev Entries (κ ν : Type) := List (κ × ν)

namespace Entries

variable {κ ν : Type} [BEq κ]

def get? (key : κ) : Entries κ ν → Option ν
  | [] => none
  | (k, v) :: rest => if k == key then some v else get? key rest

def has (key : κ) (entries : Entries κ ν) : Bool := (get? key entries).isSome

/-- Set the value under a key: in place if the key is present, else at the end. -/
def put (key : κ) (value : ν) : Entries κ ν → Entries κ ν
  | [] => [(key, value)]
  | (k, v) :: rest => if k == key then (k, value) :: rest else (k, v) :: put key value rest

def putAll (entries later : Entries κ ν) : Entries κ ν :=
  later.foldl (fun acc (k, v) => put k v acc) entries

/-- Entries given in any order with keys repeated: the first place and the last value of each. -/
def ofList (pairs : List (κ × ν)) : Entries κ ν := putAll [] pairs

def keys (entries : Entries κ ν) : List κ := entries.map Prod.fst

def adjust (key : κ) (f : ν → ν) : Entries κ ν → Entries κ ν
  | [] => []
  | (k, v) :: rest => if k == key then (k, f v) :: rest else (k, v) :: adjust key f rest

theorem get?_put_self [LawfulBEq κ] (key : κ) (value : ν) (entries : Entries κ ν) :
    get? key (put key value entries) = some value := by
  induction entries with
  | nil => simp [put, get?]
  | cons entry rest ih =>
    by_cases same : entry.1 == key
    · simp [put, get?, same]
    · simp [put, get?, same, ih]

theorem get?_put_of_ne [LawfulBEq κ] {key other : κ} (different : other ≠ key) (value : ν)
    (entries : Entries κ ν) : get? other (put key value entries) = get? other entries := by
  induction entries with
  | nil => simp [put, get?, different.symm]
  | cons entry rest ih =>
    by_cases same : entry.1 == key
    · have apart : ¬ entry.1 == other := fun h =>
        different ((eq_of_beq h).symm.trans (eq_of_beq same))
      simp [put, get?, same, apart]
    · simp [put, get?, same, ih]

/-- A present key keeps its place, and a new one comes last. -/
theorem keys_put (key : κ) (value : ν) (entries : Entries κ ν) :
    keys (put key value entries) =
      if has key entries then keys entries else keys entries ++ [key] := by
  induction entries with
  | nil => rfl
  | cons entry rest ih =>
    by_cases same : entry.1 == key
    · simp [put, keys, has, get?, same]
    · simp only [keys, has] at ih
      simp only [put, keys, has, get?, same, Bool.false_eq_true, if_false, List.map_cons, ih]
      split <;> rename_i present <;> simp [present]

theorem mem_of_get? [LawfulBEq κ] {key : κ} {value : ν} {entries : Entries κ ν}
    (found : get? key entries = some value) : (key, value) ∈ entries := by
  induction entries with
  | nil => cases found
  | cons entry rest ih =>
    by_cases same : entry.1 == key
    · simp only [get?, same, if_true, Option.some.injEq] at found
      rw [← eq_of_beq same, ← found]
      exact List.mem_cons_self
    · simp only [get?, same, Bool.false_eq_true, if_false] at found
      exact List.mem_cons_of_mem entry (ih found)

theorem get?_adjust_self [LawfulBEq κ] (key : κ) (f : ν → ν) (entries : Entries κ ν) :
    get? key (adjust key f entries) = (get? key entries).map f := by
  induction entries with
  | nil => rfl
  | cons entry rest ih =>
    by_cases same : entry.1 == key
    · simp [adjust, get?, same]
    · simp [adjust, get?, same, ih]

theorem get?_adjust_of_ne [LawfulBEq κ] {key other : κ} (different : other ≠ key) (f : ν → ν)
    (entries : Entries κ ν) : get? other (adjust key f entries) = get? other entries := by
  induction entries with
  | nil => rfl
  | cons entry rest ih =>
    by_cases same : entry.1 == key
    · have apart : ¬ entry.1 == other := fun h =>
        different ((eq_of_beq h).symm.trans (eq_of_beq same))
      simp [adjust, get?, same, apart]
    · simp [adjust, get?, same, ih]

theorem adjust_of_get? {key : κ} {value : ν} {f : ν → ν} {entries : Entries κ ν}
    (found : get? key entries = some value) (fixed : f value = value) :
    adjust key f entries = entries := by
  induction entries with
  | nil => rfl
  | cons entry rest ih =>
    by_cases same : entry.1 == key
    · simp only [get?, same, if_true, Option.some.injEq] at found
      obtain ⟨k, v⟩ := entry
      subst found
      simp [adjust, same, fixed]
    · simp only [get?, same, Bool.false_eq_true, if_false] at found
      simp [adjust, same, ih found]

theorem adjust_adjust (key : κ) (f g : ν → ν) (entries : Entries κ ν) :
    adjust key f (adjust key g entries) = adjust key (f ∘ g) entries := by
  induction entries with
  | nil => rfl
  | cons entry rest ih =>
    by_cases same : entry.1 == key
    · simp [adjust, same]
    · simp [adjust, same, ih]

theorem get?_map {μ : Type} [LawfulBEq κ] (key : κ) (f : κ → ν → μ) (entries : Entries κ ν) :
    get? key (entries.map fun (k, v) => (k, f k v)) = (get? key entries).map (f key) := by
  induction entries with
  | nil => rfl
  | cons entry rest ih =>
    by_cases same : entry.1 == key
    · simp [get?, eq_of_beq same]
    · simp [get?, same, ih]

theorem get?_filter [LawfulBEq κ] {key : κ} {value : ν} {p : κ × ν → Bool} {entries : Entries κ ν}
    (found : get? key entries = some value) (kept : p (key, value) = true) :
    get? key (entries.filter p) = some value := by
  induction entries with
  | nil => cases found
  | cons entry rest ih =>
    by_cases same : entry.1 == key
    · obtain ⟨k, v⟩ := entry
      obtain rfl := eq_of_beq same
      simp only [get?, beq_self_eq_true, if_true, Option.some.injEq] at found
      subst found
      simp [kept, get?]
    · simp only [get?, same, Bool.false_eq_true, if_false] at found
      rw [List.filter_cons]
      split
      · simp [get?, same, ih found]
      · exact ih found

theorem get?_eq_none_iff [LawfulBEq κ] {key : κ} {entries : Entries κ ν} :
    get? key entries = none ↔ key ∉ keys entries := by
  induction entries with
  | nil => simp [get?, keys]
  | cons entry rest ih =>
    rw [keys, List.map_cons, List.mem_cons, not_or, get?]
    by_cases same : entry.1 = key
    · simp [same]
    · rw [beq_eq_false_iff_ne.2 same]
      exact ih.trans ⟨fun absent => ⟨Ne.symm same, absent⟩, fun absent => absent.2⟩

theorem get?_of_mem [LawfulBEq κ] {entries : Entries κ ν} (distinct : (keys entries).Nodup)
    {key : κ} {value : ν} (member : (key, value) ∈ entries) : get? key entries = some value := by
  induction entries with
  | nil => cases member
  | cons entry rest ih =>
    rw [keys, List.map_cons, List.nodup_cons] at distinct
    rcases List.mem_cons.1 member with rfl | later
    · simp [get?]
    · have apart : (entry.1 == key) = false := by
        rw [beq_eq_false_iff_ne]
        rintro rfl
        exact distinct.1 (List.mem_map.2 ⟨_, later, rfl⟩)
      rw [get?, apart]
      exact ih distinct.2 later

theorem get?_perm [LawfulBEq κ] {entries entries' : Entries κ ν} (same : entries'.Perm entries)
    (distinct : (keys entries).Nodup) (key : κ) : get? key entries' = get? key entries := by
  have sameKeys : (keys entries').Perm (keys entries) := same.map Prod.fst
  cases found : get? key entries with
  | some value =>
    exact get?_of_mem (sameKeys.nodup_iff.2 distinct) (same.mem_iff.2 (mem_of_get? found))
  | none =>
    rw [get?_eq_none_iff] at found ⊢
    exact fun among => found (sameKeys.mem_iff.1 among)

theorem put_of_absent [LawfulBEq κ] {key : κ} (value : ν) {entries : Entries κ ν}
    (absent : key ∉ keys entries) : put key value entries = entries ++ [(key, value)] := by
  induction entries with
  | nil => rfl
  | cons entry rest ih =>
    rw [keys, List.map_cons, List.mem_cons, not_or] at absent
    have apart : (entry.1 == key) = false := by simpa using Ne.symm absent.1
    rw [put, apart, ih absent.2]
    rfl

theorem putAll_of_distinct [LawfulBEq κ] {entries later : Entries κ ν}
    (distinct : (keys (entries ++ later)).Nodup) :
    putAll entries later = entries ++ later := by
  induction later generalizing entries with
  | nil => rw [putAll, List.foldl_nil, List.append_nil]
  | cons entry rest ih =>
    have absent : entry.1 ∉ keys entries := by
      intro member
      rw [keys, List.map_append, List.nodup_append] at distinct
      exact distinct.2.2 _ member entry.1 List.mem_cons_self rfl
    have first : putAll entries (entry :: rest) = putAll (put entry.1 entry.2 entries) rest := rfl
    rw [first, put_of_absent _ absent, ih (by rwa [List.append_assoc]), List.append_assoc]
    rfl

theorem ofList_of_distinct [LawfulBEq κ] {pairs : Entries κ ν} (distinct : (keys pairs).Nodup) :
    ofList pairs = pairs :=
  putAll_of_distinct distinct

theorem distinct_put [LawfulBEq κ] {entries : Entries κ ν} (distinct : (keys entries).Nodup)
    (key : κ) (value : ν) : (keys (put key value entries)).Nodup := by
  rw [keys_put]
  split
  · exact distinct
  · rename_i absent
    have absent : key ∉ keys entries := get?_eq_none_iff.1 (by simpa [has] using absent)
    refine List.nodup_append.2 ⟨distinct, by simp, fun other among last member => ?_⟩
    rw [List.mem_singleton.1 member]
    exact fun same => absent (same ▸ among)

theorem distinct_putAll [LawfulBEq κ] {entries : Entries κ ν} (distinct : (keys entries).Nodup)
    (later : Entries κ ν) : (keys (putAll entries later)).Nodup := by
  induction later generalizing entries with
  | nil => exact distinct
  | cons entry rest ih => exact ih (distinct_put distinct entry.1 entry.2)

omit [BEq κ] in
theorem distinct_filter {entries : Entries κ ν} (distinct : (keys entries).Nodup)
    (p : κ × ν → Bool) : (keys (entries.filter p)).Nodup :=
  distinct.sublist (List.filter_sublist.map Prod.fst)

/-- What is put later counts first. -/
theorem get?_putAll [LawfulBEq κ] (entries : Entries κ ν) {later : Entries κ ν}
    (distinct : (keys later).Nodup) (key : κ) :
    get? key (putAll entries later) = (get? key later).or (get? key entries) := by
  induction later generalizing entries with
  | nil => rfl
  | cons entry rest ih =>
    obtain ⟨absent, distinct⟩ := List.nodup_cons.1 distinct
    have first : putAll entries (entry :: rest) = putAll (put entry.1 entry.2 entries) rest := rfl
    rw [first, ih _ distinct, get?]
    by_cases same : entry.1 = key
    · subst same
      rw [get?_eq_none_iff.2 absent, get?_put_self, beq_self_eq_true]
      rfl
    · rw [get?_put_of_ne (Ne.symm same), beq_eq_false_iff_ne.2 same]
      rfl

theorem get?_filter_of_distinct [LawfulBEq κ] {entries : Entries κ ν}
    (distinct : (keys entries).Nodup) (p : κ × ν → Bool) (key : κ) :
    get? key (entries.filter p) = (get? key entries).filter fun value => p (key, value) := by
  induction entries with
  | nil => rfl
  | cons entry rest ih =>
    obtain ⟨absent, distinct⟩ := List.nodup_cons.1 distinct
    specialize ih distinct
    obtain ⟨k, value⟩ := entry
    by_cases same : k = key
    · subst same
      rw [get?_eq_none_iff.2 absent] at ih
      rw [List.filter_cons]
      split <;> rename_i kept
      · simp only [get?, beq_self_eq_true, if_true, Option.filter, kept]
      · simp only [get?, beq_self_eq_true, if_true, Option.filter, kept, Bool.false_eq_true,
          if_false, ih]
    · have skip (others : Entries κ ν) : get? key ((k, value) :: others) = get? key others := by
        rw [get?, beq_eq_false_iff_ne.2 same]
        rfl
      rw [List.filter_cons, skip]
      split
      · rw [skip, ih]
      · exact ih

end Entries

end FrameBatch
