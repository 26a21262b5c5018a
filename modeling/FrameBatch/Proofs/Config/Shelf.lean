import FrameBatch.Proofs.Act.Ends
import FrameBatch.Proofs.Config.Layers

/-!
The layers as mappings that can be changed in place, each at a place of its own, and the steps by
which one is put over another: a copy is made, and only the copy is changed. So the mappings that
were there before stay as they were, and what comes of the steps is what the layers are said to
give.
-/

namespace FrameBatch.Config

/-- The mappings by their places. A new one gets the next place. -/
abbrev Shelf := List Settings

namespace Shelf

def read (place : Nat) : Act Shelf Settings := do
  return ((← Act.get)[place]?).getD []

def make (settings : Settings) : Act Shelf Nat := do
  let shelf ← Act.get
  Act.set (shelf ++ [settings])
  return shelf.length

def copy (place : Nat) : Act Shelf Nat := do make (← read place)

def assign (place : Nat) (key v : Value) : Act Shelf Unit :=
  Act.modify fun shelf => shelf.modify place (Entries.put key v)

def assignEach (place : Nat) (counts : Value × Value → Bool) (entries : Settings) :
    Act Shelf Unit :=
  forM entries fun entry => if counts entry then assign place entry.1 entry.2 else pure ()

def merge (args : Named) (config : Nat) : Act Shelf Nat := do
  let merged ← copy config
  assignEach merged (fun (name, v) => !v.isNull && name != .text "config") (texts args)
  return merged

def update (place source : Nat) : Act Shelf Unit := do
  assignEach place (fun _ => true) (← read source)

def orEmpty (config : Nat) : Act Shelf Nat := do
  if (← read config).isEmpty then make [] else return config

def select (counts : Value × Value → Bool) (config : Nat) : Act Shelf Nat := do
  let entries ← read config
  let selected ← make []
  assignEach selected counts entries
  return selected

def withDefaults (defaults config : Nat) : Act Shelf Nat := do
  let merged ← copy defaults
  let kept ← select (fun (_, v) => !v.isNull) (← orEmpty config)
  update merged kept
  return merged

variable {shelf later : Shelf}

theorem ends_read {place : Nat} {r : Except Fault Settings} :
    (read place).Ends shelf r later ↔ r = .ok (shelf[place]?.getD []) ∧ later = shelf := by
  rw [read, Act.ends_get_bind, Act.ends_pure]

theorem ends_make {settings : Settings} {r : Except Fault Nat} :
    (make settings).Ends shelf r later ↔
      r = .ok shelf.length ∧ later = shelf ++ [settings] := by
  rw [make, Act.ends_get_bind, Act.ends_set_bind, Act.ends_pure]

theorem ends_copy {place : Nat} {r : Except Fault Nat} :
    (copy place).Ends shelf r later ↔
      r = .ok shelf.length ∧ later = shelf ++ [shelf[place]?.getD []] := by
  rw [copy, Act.ends_bind_of_ok (ends_read.2 ⟨rfl, rfl⟩), ends_make]

theorem ends_assignEach {place : Nat} {counts : Value × Value → Bool} {entries : Settings}
    {r : Except Fault Unit} :
    (assignEach place counts entries).Ends shelf r later ↔
      r = .ok () ∧ later = shelf.modify place (Entries.putAll · (entries.filter counts)) := by
  rw [assignEach]
  induction entries generalizing shelf with
  | nil =>
    rw [List.forM_nil, Act.ends_pure]
    exact Iff.of_eq (congrArg _ (congrArg _ (List.modify_id place shelf).symm))
  | cons entry rest ih =>
    rw [List.forM_cons, List.filter_cons]
    split
    · -- both assignments are to one place, so they are one change of it
      rw [assign, Act.ends_bind_of_ok (Act.ends_modify.2 ⟨rfl, rfl⟩), ih, List.modify_modify_eq]
      rfl
    · rw [Act.ends_bind_of_ok (Act.ends_pure.2 ⟨rfl, rfl⟩), ih]

theorem ends_update {place source : Nat} {r : Except Fault Unit} :
    (update place source).Ends shelf r later ↔
      r = .ok () ∧ later = shelf.modify place (Entries.putAll · (shelf[source]?.getD [])) := by
  rw [update, Act.ends_bind_of_ok (ends_read.2 ⟨rfl, rfl⟩), ends_assignEach,
    List.filter_eq_self.2 fun _ _ => rfl]

theorem stays {place : Nat} {settings : Settings} (found : shelf[place]? = some settings)
    (others : Shelf) : (shelf ++ others)[place]? = some settings := by
  rw [List.getElem?_append_left (List.getElem?_eq_some_iff.1 found).1, found]

theorem modify_append (before last : Shelf) (place : Nat) (f : Settings → Settings) :
    (before ++ last).modify (before.length + place) f = before ++ last.modify place f :=
  List.modifyTailIdx_add _ _ _ _

theorem modify_last (before : Shelf) (settings : Settings) (f : Settings → Settings) :
    (before ++ [settings]).modify before.length f = before ++ [f settings] :=
  modify_append before [settings] 0 f

theorem ends_merge {args : Named} {config : Nat} {r : Except Fault Nat} :
    (merge args config).Ends shelf r later ↔ r = .ok shelf.length ∧
      later = shelf ++ [(shelf[config]?.getD []).putAll (texts (counted args))] := by
  rw [merge, Act.ends_bind_of_ok (ends_copy.2 ⟨rfl, rfl⟩),
    Act.ends_bind_of_ok (ends_assignEach.2 ⟨rfl, rfl⟩), Act.ends_pure, modify_last, filter_texts]
  rfl

theorem ends_orEmpty {config : Nat} {settings : Settings}
    (found : shelf[config]? = some settings) :
    ∃ place rest, (orEmpty config).Ends shelf (.ok place) (shelf ++ rest) ∧
      (shelf ++ rest)[place]? = some settings := by
  rw [orEmpty]
  simp only [Act.ends_bind_of_ok (ends_read.2 ⟨rfl, rfl⟩), found, Option.getD_some]
  split
  · rename_i empty
    exact ⟨_, [[]], ends_make.2 ⟨rfl, rfl⟩, by simp [List.isEmpty_iff.1 empty]⟩
  · exact ⟨config, [], Act.ends_pure.2 ⟨rfl, List.append_nil _⟩, by rwa [List.append_nil]⟩

theorem ends_select {counts : Value × Value → Bool} {config : Nat} {r : Except Fault Nat} :
    (select counts config).Ends shelf r later ↔ r = .ok shelf.length ∧
      later = shelf ++ [Entries.ofList ((shelf[config]?.getD []).filter counts)] := by
  rw [select, Act.ends_bind_of_ok (ends_read.2 ⟨rfl, rfl⟩),
    Act.ends_bind_of_ok (ends_make.2 ⟨rfl, rfl⟩),
    Act.ends_bind_of_ok (ends_assignEach.2 ⟨rfl, rfl⟩), Act.ends_pure, modify_last]
  rfl

theorem ofList_texts {named : Named} (distinct : named.keys.Nodup) :
    Entries.ofList (texts named) = texts named :=
  (putAll_texts [] named).trans (congrArg texts (Entries.ofList_of_distinct distinct))

theorem ends_withDefaults {place config : Nat} {named : Named}
    (last : shelf[place]? = some defaults) (found : shelf[config]? = some (texts named))
    (distinct : named.keys.Nodup) :
    ∃ rest, (withDefaults place config).Ends shelf (.ok shelf.length)
      (shelf ++ texts (standard.putAll (kept named)) :: rest) := by
  obtain ⟨source, rest, sources, holds⟩ := ends_orEmpty (stays found [defaults])
  refine ⟨rest ++ [texts (kept named)], ?_⟩
  have selected : Entries.ofList ((texts named).filter fun (_, v) => !v.isNull) =
      texts (kept named) := by
    rw [filter_texts]
    exact ofList_texts (Entries.distinct_filter distinct _)
  have merges : defaults.putAll (texts (kept named)) = texts (standard.putAll (kept named)) :=
    putAll_texts standard (kept named)
  rw [withDefaults, Act.ends_bind_of_ok (ends_copy.2 ⟨rfl, rfl⟩), last, Option.getD_some,
    Act.ends_bind_of_ok sources, Act.ends_bind_of_ok (ends_select.2 ⟨rfl, rfl⟩), holds,
    Option.getD_some, selected, Act.ends_bind_of_ok (ends_update.2 ⟨rfl, rfl⟩), Act.ends_pure,
    List.getElem?_concat_length, Option.getD_some, List.append_assoc, List.append_assoc]
  -- the copy of the defaults is the first of the new mappings
  have filled := modify_append shelf (defaults :: (rest ++ [texts (kept named)])) 0
    (Entries.putAll · (texts (kept named)))
  rw [List.modify_zero_cons, merges] at filled
  exact ⟨rfl, filled.symm⟩

theorem ends_layers (args : Named) {file : Named} (distinct : file.keys.Nodup) {last config : Nat}
    (holdsLast : shelf[last]? = some defaults) (holds : shelf[config]? = some (texts file)) :
    ∃ rest, (do withDefaults last (← merge args config)).Ends shelf (.ok (shelf.length + 1))
      (shelf ++ texts (file.putAll (counted args)) :: texts (layered args file) :: rest) := by
  have merges : (merge args config).Ends shelf (.ok shelf.length)
      (shelf ++ [texts (file.putAll (counted args))]) := by
    rw [ends_merge, holds, Option.getD_some, putAll_texts]
    exact ⟨rfl, rfl⟩
  obtain ⟨rest, fills⟩ := ends_withDefaults (stays holdsLast _) List.getElem?_concat_length
    (Entries.distinct_putAll distinct (counted args))
  rw [List.length_append, List.append_assoc] at fills
  exact ⟨rest, (Act.ends_bind_of_ok merges _).2 fills⟩

end Shelf

/-- Arguments put over a configuration, and both over the defaults. What comes of it has under each
name the first value that is not `null`, from the arguments to the defaults, where the path of the
file does not count as an argument. Without one it has `null` under a name of the defaults, and
nothing under any other. It is a new mapping; those that there were, the configuration and the
defaults among them, are as before. -/
theorem first_layer_counts {args file : Named} (distinctArgs : args.keys.Nodup)
    (distinctFile : file.keys.Nodup) {shelf : Shelf} {last config : Nat}
    (holdsLast : shelf[last]? = some defaults) (holds : shelf[config]? = some (texts file)) :
    ∃ result : Named, result.keys.Nodup ∧
      (do withDefaults (← merge args (.map (texts file)))) = .ok (texts result) ∧
      (∀ key, (texts result).get? (.text key) =
        (firstGiven args file key).or (if standard.has key then some .null else none)) ∧
      ∃ place later, shelf.length ≤ place ∧ later[place]? = some (texts result) ∧
        (do Shelf.withDefaults last (← Shelf.merge args config)).Ends shelf (.ok place) later ∧
        ∀ old < shelf.length, later[old]? = shelf[old]? := by
  obtain ⟨rest, ends⟩ := Shelf.ends_layers args distinctFile holdsLast holds
  refine ⟨layered args file, distinct_layered args file, layers_texts args file, fun key => ?_,
    _, _, Nat.le_succ _, ?_, ends, fun old inside => List.getElem?_append_left inside⟩
  · rw [get?_texts, get?_layered distinctArgs distinctFile]
  · rw [List.getElem?_append_right (Nat.le_succ _), Nat.succ_sub (Nat.le_refl _), Nat.sub_self]
    rfl

theorem first_layer_of_each :
    let args : Named := [("config", .text "c.yml"), ("device", .text "cpu"), ("batch_size", .null),
      ("async_mode", .bool false)]
    let file : Named := [("note", .text ""), ("batch_size", .int 0), ("device", .text "gpu"),
      ("async_mode", .bool true), ("log_level", .null)]
    ∃ result : Named, (do withDefaults (← merge args (.map (texts file)))) = .ok (texts result) ∧
      (texts result).get? (.text "device") = some (.text "cpu") ∧
      (texts result).get? (.text "batch_size") = some (.int 0) ∧
      (texts result).get? (.text "async_mode") = some (.bool false) ∧
      (texts result).get? (.text "note") = some (.text "") ∧
      (texts result).get? (.text "log_level") = some (.text "INFO") ∧
      (texts result).get? (.text "model") = some .null ∧
      (texts result).get? (.text "config") = none := by
  intro args file
  have distinctArgs : args.keys.Nodup := by decide +kernel
  have distinctFile : file.keys.Nodup := by decide +kernel
  let shelf : Shelf := [defaults, texts file]
  have holdsLast : shelf[0]? = some defaults := rfl
  have holds : shelf[1]? = some (texts file) := rfl
  obtain ⟨result, _, gives, each, _⟩ := first_layer_counts distinctArgs distinctFile holdsLast holds
  exact ⟨result, gives, each "device", each "batch_size", each "async_mode", each "note",
    each "log_level", each "model", each "config"⟩

/-- A name of the defaults for which no layer has a value is there all the same. -/
theorem there_without_value :
    firstGiven [] [] "model" = none ∧
      (do withDefaults (← merge [] (.map []))) = .ok defaults ∧
      defaults.get? (.text "model") = some .null :=
  ⟨rfl, rfl, rfl⟩

end FrameBatch.Config
