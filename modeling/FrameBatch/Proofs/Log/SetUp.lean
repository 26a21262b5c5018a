import FrameBatch.Proofs.Log.Calls
import FrameBatch.Proofs.Act.Fails

/-!
All that a set-up can do to the library's logger. It turns the logger on, then gives it a level and
the handler for the console, then the handler for a file, and last keeps its records from the
loggers above. It may fail after the first of these stages, for the level, and after the second one,
for the file.
-/

namespace FrameBatch

namespace Files

def HasFile (files : Files) (parts : List String) : Prop :=
  ∃ node, files.nodes.get? parts = some node ∧ node ≠ .folder

variable {files files' : Files}

theorem partsBelow?_congr (home : files'.home = files.home) (path : String) :
    files'.partsBelow? path = files.partsBelow? path := by
  rw [partsBelow?, partsBelow?, home]

theorem nodes_append (files : Files) (parts other : List String) (text : String) :
    (files.append parts text).nodes.get? other =
      if other = parts then (files.nodes.get? other).map (FileNode.extend text)
      else files.nodes.get? other := by
  split
  · rename_i same
    subst same
    exact Entries.get?_adjust_self _ _ _
  · rename_i different
    exact Entries.get?_adjust_of_ne different _ _

theorem HasFile.append {parts : List String} (there : files.HasFile parts) (other : List String)
    (text : String) : (files.append other text).HasFile parts := by
  obtain ⟨node, found, noFolder⟩ := there
  rw [HasFile, nodes_append, found]
  split
  · refine ⟨_, rfl, ?_⟩
    cases node with
    | folder => exact absurd rfl noFolder
    | file => nofun
    | picture => nofun
  · exact ⟨node, rfl, noFolder⟩

theorem openAtEnd_cases {path : String} {r : Except Fault (List String)}
    (ends : (openAtEnd path).Ends files r files') :
    (∃ f, r = .error f) ∨
      ∃ parts, r = .ok parts ∧ files.partsBelow? path = some parts ∧ files'.HasFile parts := by
  rw [openAtEnd, Act.ends_get_bind] at ends
  split at ends
  · exact .inl ⟨_, (Act.ends_fail.1 ends).1⟩
  · rename_i parts named
    split at ends
    · exact .inl ⟨_, (Act.ends_fail.1 ends).1⟩
    · rename_i node noFolder found
      obtain ⟨rfl, rfl⟩ := Act.ends_pure.1 ends
      refine .inr ⟨parts, rfl, named, node, ?_, noFolder⟩
      cases parts with
      | nil =>
        cases found
        exact absurd rfl noFolder
      | cons first rest => exact found
    · split at ends
      · exact .inl ⟨_, (Act.ends_fail_bind.1 ends).1⟩
      · obtain ⟨rfl, rfl⟩ : r = .ok parts ∧ files' = files.put parts (.file .empty) :=
          ⟨ends.1.symm, ends.2.symm⟩
        refine .inr ⟨parts, rfl, named, .file .empty, ?_, nofun⟩
        exact Entries.get?_put_self _ _ _

theorem home_of_makeFolder {name : String} {r : Except Fault Unit}
    (ends : (makeFolder name).Ends files r files') : files'.home = files.home := by
  rw [makeFolder, Act.ends_get_bind] at ends
  split at ends
  · rw [(Act.ends_pure.1 ends).2]
  · rw [(Act.ends_fail.1 ends).2]
  · rw [(Act.ends_set.1 ends).2]
    rfl

end Files

namespace Journal

def Options.file? (o : Options) (j : Journal) : Option (List String) :=
  if o.toFile then
    match o.path with
    | .null => j.files.partsBelow? ("logs/vinobatch_" ++ j.fileTime ++ ".log")
    | .text path => j.files.partsBelow? path
    | _ => none
  else none

def Options.sinks (o : Options) (file : Option (List String)) : List Handler :=
  (if o.toConsole then [.console] else []) ++ (file.map Handler.file).toList

/-- From `j` to `k` a logger was changed by `f`, and no other one was. -/
structure Changed (name : String) (f : Logger → Logger) (j k : Journal) : Prop where
  own : k.logger name = f (j.logger name)
  others : ∀ other ≠ name, k.logger other = j.logger other

variable {o : Options} {j k l : Journal} {name : String} {f g : Logger → Logger}

namespace Changed

theorem trans (first : Changed name f j k) (later : Changed name g k l) :
    Changed name (fun logger => g (f logger)) j l where
  own := later.own.trans (congrArg g first.own)
  others other different := (later.others other different).trans (first.others other different)

theorem of_loggers (same : k.loggers = j.loggers) : Changed name id j k where
  own := by rw [logger, logger, same, id]
  others other _ := by rw [logger, logger, same]

theorem of_adjust (name : String) (f : Logger → Logger) (j : Journal) :
    Changed name f j (adjust name f j) where
  own := logger_adjust_self name f j
  others _ different := logger_adjust_of_ne different f j

end Changed

theorem onFiles_cases {α : Type} {x : Act Files α} {r : Except Fault α}
    (ends : (onFiles x).Ends j r k) : ∃ files, x.Ends j.files r files ∧ k = { j with files } :=
  Act.ends_on.1 ends

theorem logPath_cases {r : Except Fault String} (asked : o.toFile = true)
    (ends : (logPath o.path).Ends j r k) :
    k.loggers = j.loggers ∧ k.files.home = j.files.home ∧
      ∀ path, r = .ok path → o.file? j = j.files.partsBelow? path := by
  unfold logPath at ends
  split at ends
  · rename_i noPath
    rw [Options.file?, if_pos asked, noPath]
    rcases Act.ends_bind.1 ends with ⟨_, middle, folder, rest⟩ | ⟨f, rfl, folder⟩
    · obtain ⟨files, makes, rfl⟩ := onFiles_cases folder
      have rest := Act.ends_get_bind.1 rest
      obtain ⟨rfl, rfl⟩ := Act.ends_pure.1 rest
      refine ⟨rfl, Files.home_of_makeFolder makes, fun path same => ?_⟩
      cases same
      rfl
    · obtain ⟨files, makes, rfl⟩ := onFiles_cases folder
      exact ⟨rfl, Files.home_of_makeFolder makes, nofun⟩
  · rename_i path given
    rw [Options.file?, if_pos asked, given]
    obtain ⟨rfl, rfl⟩ := Act.ends_pure.1 ends
    refine ⟨rfl, rfl, fun path same => ?_⟩
    cases same
    rfl
  · obtain ⟨rfl, rfl⟩ := Act.ends_lift.1 ends
    exact ⟨rfl, rfl, nofun⟩

theorem addFile_cases {r : Except Fault String} (asked : o.toFile = true)
    (ends : (addFile o.path).Ends j r k) :
    (∃ f, r = .error f ∧ k.loggers = j.loggers) ∨
      ∃ path parts, r = .ok path ∧ o.file? j = some parts ∧ k.files.HasFile parts ∧
        Changed libraryName (fun l => { l with handlers := l.handlers ++ [.file parts] }) j k := by
  rw [addFile] at ends
  rcases Act.ends_bind.1 ends with ⟨path, named, names, ends⟩ | ⟨f, rfl, names⟩
  · obtain ⟨loggers, home, file⟩ := logPath_cases asked names
    rcases Act.ends_bind.1 ends with ⟨parts, opened, opens, ends⟩ | ⟨f, rfl, opens⟩
    · obtain ⟨files, ends', rfl⟩ := onFiles_cases opens
      rcases Files.openAtEnd_cases ends' with ⟨f, failed⟩ | ⟨_, same, found, there⟩
      · cases failed
      · cases same
        rw [update, Act.ends_bind_of_ok (Act.ends_modify.2 ⟨rfl, rfl⟩)] at ends
        obtain ⟨rfl, rfl⟩ := Act.ends_pure.1 ends
        rw [Files.partsBelow?_congr home, ← file path rfl] at found
        have kept : Changed libraryName id j { named with files } := .of_loggers loggers
        have added := kept.trans (.of_adjust libraryName
          (fun l => { l with handlers := l.handlers ++ [.file parts] }) _)
        exact .inr ⟨path, parts, rfl, found, there, added⟩
    · obtain ⟨files, ends', rfl⟩ := onFiles_cases opens
      exact .inl ⟨f, rfl, loggers⟩
  · exact .inl ⟨f, rfl, (logPath_cases asked names).1⟩

theorem hasFile_write {parts : List String} (there : j.files.HasFile parts) (r : Record) :
    (write r j).files.HasFile parts := by
  rw [write]
  generalize j.route r = handlers
  induction handlers generalizing j with
  | nil => exact there
  | cons h rest ih =>
    refine ih ?_
    cases h with
    | file other => exact there.append other _
    | silent | console | lastResort => exact there

/-! The stages of a set-up -/

namespace Options

def addConsole (o : Options) : Act Journal Unit :=
  if o.toConsole then update fun l => { l with handlers := [.console] } else pure ()

def openFile (o : Options) : Act Journal (Option String) :=
  if o.toFile then some <$> addFile o.path else pure none

/-- The last stage, after which the library's records are its own matter. -/
def finish (o : Options) (path : Option String) : Act Journal Unit := do
  update fun l => { l with passesOn := false }
  note ("vinobatch logging initialized - Level: " ++ o.level.shown)
  match path with
  | some path => note ("Log file: " ++ path)
  | none => return

end Options

theorem setUp_of_on (on : o.enabled = true) :
    setUp o = (do
      update fun l => { l with disabled := false }
      let level ← levelOf o.level
      update fun l => { l with level, handlers := [] }
      o.addConsole
      let path ← o.openFile
      o.finish path) := by
  simp only [setUp, on, Options.addConsole, Options.openFile]
  cases o.toConsole <;> cases o.toFile <;> rfl

theorem addConsole_cases {r : Except Fault Unit} (ends : o.addConsole.Ends j r k) :
    r = .ok () ∧
      Changed libraryName (fun l => if o.toConsole then { l with handlers := [.console] } else l)
        j k ∧ k.files = j.files ∧ k.fileTime = j.fileTime := by
  unfold Options.addConsole at ends
  split at ends <;> rename_i asked
  · obtain ⟨rfl, rfl⟩ := Act.ends_modify.1 ends
    simp only [asked, if_true, true_and]
    exact ⟨.of_adjust _ _ j, rfl, rfl⟩
  · obtain ⟨rfl, rfl⟩ := Act.ends_pure.1 ends
    simp only [asked, true_and, and_true]
    exact Changed.of_loggers rfl

theorem openFile_cases {r : Except Fault (Option String)} (ends : o.openFile.Ends j r k) :
    (∃ f, r = .error f ∧ o.toFile = true ∧ k.loggers = j.loggers) ∨
      ∃ path, r = .ok path ∧ (o.file? j).isSome = o.toFile ∧
        (∀ parts, o.file? j = some parts → k.files.HasFile parts) ∧
        Changed libraryName (fun l =>
          { l with handlers := l.handlers ++ ((o.file? j).map Handler.file).toList }) j k := by
  unfold Options.openFile at ends
  split at ends <;> rename_i asked
  · rw [map_eq_pure_bind] at ends
    rcases Act.ends_bind.1 ends with ⟨_, _, adds, gives⟩ | ⟨f, rfl, adds⟩
    · obtain ⟨rfl, rfl⟩ := Act.ends_pure.1 gives
      rcases addFile_cases asked adds with ⟨f, failed, _⟩ | ⟨_, parts, _, found, there, added⟩
      · cases failed
      · refine .inr ⟨_, rfl, ?_, ?_, ?_⟩
        · rw [found, asked]
          rfl
        · intro _ same
          cases found.symm.trans same
          exact there
        · rw [found]
          exact added
    · rcases addFile_cases asked adds with ⟨_, _, same⟩ | ⟨_, _, gives, _⟩
      · exact .inl ⟨f, rfl, asked, same⟩
      · cases gives
  · obtain ⟨rfl, rfl⟩ := Act.ends_pure.1 ends
    have none : o.file? k = none := by rw [Options.file?, if_neg asked]
    refine .inr ⟨_, rfl, ?_, ?_, ?_⟩
    · rw [none]
      simpa using asked
    · rw [none]
      nofun
    · simp only [none, Option.map_none, Option.toList_none, List.append_nil]
      exact Changed.of_loggers rfl

theorem finish_cases {path : Option String} {r : Except Fault Unit}
    (ends : (o.finish path).Ends j r k) :
    r = .ok () ∧ Changed libraryName (fun l => { l with passesOn := false }) j k ∧
      ∀ parts, j.files.HasFile parts → k.files.HasFile parts := by
  unfold Options.finish update note at ends
  rw [Act.ends_bind_of_ok (Act.ends_modify.2 ⟨rfl, rfl⟩),
    Act.ends_bind_of_ok (Act.ends_modify.2 ⟨rfl, rfl⟩)] at ends
  have noted (message : String) :
      Changed libraryName id (adjust libraryName (fun l => { l with passesOn := false }) j)
        (write ⟨.info, libraryName, message⟩
          (adjust libraryName (fun l => { l with passesOn := false }) j)) :=
    .of_loggers (loggers_write _ _)
  have changed := Changed.of_adjust libraryName (fun l => { l with passesOn := false }) j
  split at ends
  · obtain ⟨rfl, rfl⟩ := Act.ends_modify.1 ends
    exact ⟨rfl, changed.trans ((noted _).trans (.of_loggers (loggers_write _ _))),
      fun parts there => hasFile_write (hasFile_write (j := adjust _ _ j) there _) _⟩
  · obtain ⟨rfl, rfl⟩ := Act.ends_pure.1 ends
    exact ⟨rfl, changed.trans (noted _),
      fun parts there => hasFile_write (j := adjust _ _ j) there _⟩

/-- How a set-up that turns the library's logger on ends. -/
inductive SetUpEnds (o : Options) (j : Journal) : Except Fault Unit → Journal → Prop
  | unknownLevel {f : Fault} {k : Journal} (unknown : levelOf o.level = .error f)
    (changed : Changed libraryName (fun l => { l with disabled := false }) j k) :
    SetUpEnds o j (.error f) k
  | noFile {f : Fault} {level : Level} {k : Journal} (known : levelOf o.level = .ok level)
    (asked : o.toFile = true)
    (changed : Changed libraryName
      (fun l => { l with disabled := false, level, handlers := o.sinks none }) j k) :
    SetUpEnds o j (.error f) k
  | done {level : Level} {k : Journal} (known : levelOf o.level = .ok level)
    (file : (o.file? j).isSome = o.toFile)
    (there : ∀ parts, o.file? j = some parts → k.files.HasFile parts)
    (changed : Changed libraryName
      (fun _ => { disabled := false, level, passesOn := false, handlers := o.sinks (o.file? j) })
      j k) :
    SetUpEnds o j (.ok ()) k

theorem setUp_cases {r : Except Fault Unit} (on : o.enabled = true) (ends : (setUp o).Ends j r k) :
    SetUpEnds o j r k := by
  rw [setUp_of_on on, update, Act.ends_bind_of_ok (Act.ends_modify.2 ⟨rfl, rfl⟩)] at ends
  rcases Act.ends_bind.1 ends with ⟨level, middle, lifts, ends⟩ | ⟨f, rfl, lifts⟩
  · obtain ⟨known, rfl⟩ := Act.ends_lift.1 lifts
    rw [update, Act.ends_bind_of_ok (Act.ends_modify.2 ⟨rfl, rfl⟩)] at ends
    have levelled := (Changed.of_adjust libraryName (fun l => { l with disabled := false }) j).trans
      (Changed.of_adjust libraryName (fun l => { l with level, handlers := [] }) _)
    rcases Act.ends_bind.1 ends with ⟨_, middle, adds, ends⟩ | ⟨f, _, adds⟩
    · obtain ⟨-, added, files, fileTime⟩ := addConsole_cases adds
      have asks : o.file? middle = o.file? j := by
        rw [Options.file?, Options.file?, files, fileTime]
        rfl
      have begun : Changed libraryName
          (fun l => { l with disabled := false, level, handlers := o.sinks none }) j middle := by
        have all := levelled.trans added
        cases console : o.toConsole <;> simp only [Options.sinks, console] at all ⊢ <;> exact all
      rcases Act.ends_bind.1 ends with ⟨path, opened, opens, ends⟩ | ⟨f, rfl, opens⟩
      · rcases openFile_cases opens with ⟨f, failed, _⟩ | ⟨_, _, file, there, last⟩
        · cases failed
        · rw [asks] at file there last
          obtain ⟨rfl, finished, kept⟩ := finish_cases ends
          refine .done known.symm file (fun parts found => kept parts (there parts found)) ?_
          have all := (begun.trans last).trans finished
          simp only [Options.sinks, Option.map_none, Option.toList_none, List.append_nil] at all
          exact all
      · rcases openFile_cases opens with ⟨_, _, asked, same⟩ | ⟨_, gives, _⟩
        · exact .noFile known.symm asked (begun.trans (.of_loggers same))
        · cases gives
    · cases (addConsole_cases adds).1
  · obtain ⟨unknown, rfl⟩ := Act.ends_lift.1 lifts
    exact .unknownLevel unknown.symm (.of_adjust _ _ _)

theorem setUp_returned (on : o.enabled = true) (ends : (setUp o).Ends j (.ok ()) k) {level : Level}
    (known : levelOf o.level = .ok level) :
    (o.file? j).isSome = o.toFile ∧ (∀ parts, o.file? j = some parts → k.files.HasFile parts) ∧
      Changed libraryName
        (fun _ => { disabled := false, level, passesOn := false, handlers := o.sinks (o.file? j) })
        j k := by
  have cases := setUp_cases on ends
  generalize same : (.ok () : Except Fault Unit) = r at cases
  cases cases with
  | unknownLevel | noFile => cases same
  | done known' file there changed =>
    cases known.symm.trans known'
    exact ⟨file, there, changed⟩

end Journal

end FrameBatch
