import FrameBatch.Config.Layers
import FrameBatch.Proofs.Act.Fails

/-!
Settings whose keys are all texts. On them, unlike on arbitrary settings, the keys are told apart by
equality, so that a layer that is put over another one hides just the keys that it gives.
-/

namespace FrameBatch.Config

abbrev Named := Entries String Value

def texts (named : Named) : Settings := named.map fun (key, v) => (.text key, v)

theorem beq_text (s t : String) : ((.text s : Value) == .text t) = (s == t) := by
  simp [BEq.beq, Value.same, Value.sameScalar, Value.number?]

theorem get?_texts (named : Named) (key : String) :
    (texts named).get? (.text key) = named.get? key := by
  induction named with
  | nil => rfl
  | cons entry rest ih =>
    obtain ⟨k, v⟩ := entry
    rw [texts, List.map_cons, Entries.get?, Entries.get?, beq_text, ← ih]
    rfl

theorem put_texts (key : String) (v : Value) (named : Named) :
    (texts named).put (.text key) v = texts (named.put key v) := by
  induction named with
  | nil => rfl
  | cons entry rest ih =>
    obtain ⟨k, w⟩ := entry
    rw [texts, List.map_cons, Entries.put, Entries.put, beq_text]
    cases k == key with
    | true => rfl
    | false => exact congrArg ((.text k, w) :: ·) ih

theorem putAll_texts (named later : Named) :
    (texts named).putAll (texts later) = texts (named.putAll later) := by
  induction later generalizing named with
  | nil => rfl
  | cons entry rest ih =>
    obtain ⟨k, v⟩ := entry
    have first : (texts named).putAll (texts ((k, v) :: rest)) =
      ((texts named).put (.text k) v).putAll (texts rest) := rfl
    rw [first, put_texts, ih]
    rfl

theorem filter_texts (p : Value × Value → Bool) (named : Named) :
    (texts named).filter p = texts (named.filter fun (key, v) => p (.text key, v)) :=
  List.filter_map

def kept (named : Named) : Named := named.filter fun (_, v) => !v.isNull

/-- The arguments that count: those that are not `null`, less the path of the file. -/
def counted (args : Named) : Named := args.filter fun (name, v) => !v.isNull && name != "config"

theorem given_eq (args : Named) : given args = texts (counted args) := by
  induction args with
  | nil => rfl
  | cons entry rest ih =>
    obtain ⟨name, v⟩ := entry
    rw [given] at ih ⊢
    rw [List.filterMap_cons, ih, counted, counted, List.filter_cons]
    cases null : v.isNull <;> cases path : name == "config" <;> simp [null, path, texts, bne]

def standard : Named := defaults.filterMap fun
  | (.text key, v) => some (key, v)
  | _ => none

theorem texts_standard : texts standard = defaults := rfl

theorem distinct_standard : standard.keys.Nodup := by decide +kernel

def layered (args file : Named) : Named := standard.putAll (kept (file.putAll (counted args)))

theorem merge_texts (args file : Named) :
    merge args (.map (texts file)) = .ok (.map (texts (file.putAll (counted args)))) := by
  rw [← putAll_texts, ← given_eq]
  rfl

theorem overDefaults_texts (named : Named) :
    overDefaults (texts named) = texts (standard.putAll (kept named)) := by
  rw [overDefaults, filter_texts, ← texts_standard, putAll_texts]
  rfl

theorem withDefaults_texts (named : Named) :
    withDefaults (.map (texts named)) = .ok (texts (standard.putAll (kept named))) := by
  rw [← overDefaults_texts]
  cases named <;> rfl

theorem layers_texts (args file : Named) :
    (do withDefaults (← merge args (.map (texts file)))) = .ok (texts (layered args file)) := by
  rw [merge_texts, ok_bind, withDefaults_texts]
  rfl

def layer (named : Named) (key : String) : Option Value :=
  (named.get? key).filter fun v => !v.isNull

/-- The first value of a key that is not `null`, from the arguments to the defaults. -/
def firstGiven (args file : Named) (key : String) : Option Value :=
  ((if key = "config" then none else layer args key).or (layer file key)).or (layer standard key)

theorem layer_or (named : Named) (key : String) :
    (layer named key).or (named.get? key) = named.get? key := by
  rw [layer]
  cases named.get? key with
  | none => rfl
  | some v => cases given : v.isNull <;> simp [Option.filter, given]

theorem get?_of_layer_none {named : Named} {key : String} (ungiven : layer named key = none) :
    named.get? key = if named.has key then some .null else none := by
  rw [layer] at ungiven
  rw [Entries.has]
  cases found : named.get? key with
  | none => rfl
  | some v =>
    cases v with
    | null => rfl
    | _ => simp [found, Option.filter, Value.isNull] at ungiven

theorem filter_or {a b : Option Value} {p : Value → Bool} (passes : a.filter p = a) :
    (a.or b).filter p = a.or (b.filter p) := by
  cases a with
  | none => rfl
  | some v => exact passes

theorem get?_counted {args : Named} (distinct : args.keys.Nodup) (key : String) :
    (counted args).get? key = if key = "config" then none else layer args key := by
  rw [counted, Entries.get?_filter_of_distinct distinct, layer]
  by_cases path : key = "config"
  · simp [path]
  · simp [path, bne_iff_ne.2 path]

theorem get?_layered {args file : Named} (distinctArgs : args.keys.Nodup)
    (distinctFile : file.keys.Nodup) (key : String) :
    (layered args file).get? key =
      (firstGiven args file key).or (if standard.has key then some .null else none) := by
  have merged := Entries.distinct_putAll distinctFile (counted args)
  have distinct : (kept (file.putAll (counted args))).keys.Nodup := Entries.distinct_filter merged _
  have distinct' : (counted args).keys.Nodup := Entries.distinct_filter distinctArgs _
  -- no argument that counts is `null`, so all of them pass the second filter
  have passes : Option.filter (fun v => !v.isNull) ((counted args).get? key) =
      (counted args).get? key := by
    rw [get?_counted distinctArgs]
    split <;> simp [layer]
  have all : (layered args file).get? key = (firstGiven args file key).or (standard.get? key) := by
    rw [layered, Entries.get?_putAll _ distinct, kept, Entries.get?_filter_of_distinct merged,
      Entries.get?_putAll _ distinct', filter_or passes, get?_counted distinctArgs, firstGiven]
    simp only [Option.or_assoc, layer_or]
    rfl
  rw [all]
  cases first : firstGiven args file key with
  | some v => rfl
  | none =>
    rw [firstGiven, Option.or_eq_none_iff] at first
    rw [get?_of_layer_none first.2]

theorem distinct_layered (args file : Named) : (layered args file).keys.Nodup :=
  Entries.distinct_putAll distinct_standard _

end FrameBatch.Config
