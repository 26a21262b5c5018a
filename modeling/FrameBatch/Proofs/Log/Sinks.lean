import FrameBatch.Proofs.Log.Lineage
import FrameBatch.Proofs.Log.SetUp
import FrameBatch.Proofs.Log.Silence

namespace FrameBatch.Journal

variable {o : Options} {j k : Journal} {r : Record}

/-- The loggers below the library's own one have no handlers of their own, and pass records on. -/
def Plain (j : Journal) : Prop :=
  ∀ name, Below name → (j.logger name).handlers = [] ∧ (j.logger name).passesOn = true

namespace Plain

theorem of_changed {name : String} {f : Logger → Logger} (plain : j.Plain)
    (changed : Changed name f j k) (keeps : Below name → ∀ l : Logger,
      (f l).handlers = l.handlers ∧ (f l).passesOn = l.passesOn) : k.Plain := by
  intro other below
  by_cases same : other = name
  · subst same
    rw [changed.own, (keeps below _).1, (keeps below _).2]
    exact plain other below
  · rw [changed.others other same]
    exact plain other below

theorem of_own {f : Logger → Logger} (plain : j.Plain) (changed : Changed libraryName f j k) :
    k.Plain :=
  plain.of_changed changed fun below => absurd below not_below_library

theorem adjust (plain : j.Plain) {name : String} {f : Logger → Logger}
    (keeps : ∀ l : Logger, (f l).handlers = l.handlers ∧ (f l).passesOn = l.passesOn) :
    (adjust name f j).Plain :=
  plain.of_changed (.of_adjust name f j) fun _ => keeps

theorem act (plain : j.Plain) (a : Ask) : (a.act j).state.Plain := by
  cases a with
  | setUp o =>
    by_cases on : o.enabled = true
    · have ends : SetUpEnds o j _ (setUp o j).state := setUp_cases on ((setUp o).ends_self j)
      generalize (setUp o j).result = r at ends
      cases ends with
      | unknownLevel _ changed | noFile _ _ changed | done _ _ _ changed =>
        exact plain.of_own changed
    · rw [Ask.act, state_setUp_of_off (by simpa using on)]
      exact plain.of_own (.of_adjust _ _ _)
  | disable name =>
    rw [Ask.act, state_disable]
    split
    · exact plain.adjust fun _ => ⟨rfl, rfl⟩
    · exact plain
  | enable name level =>
    rw [Ask.act, state_enable]
    split
    · refine Plain.adjust ?_ ?_
      · exact plain.adjust fun _ => ⟨rfl, rfl⟩
      · exact fun _ => ⟨rfl, rfl⟩
    · exact plain.adjust fun _ => ⟨rfl, rfl⟩
    · exact plain
  | log r => exact plain.of_own (.of_loggers (loggers_write r j))

theorem after (plain : j.Plain) (asks : List Ask) : (j.after asks).Plain := by
  induction asks generalizing j with
  | nil => exact plain
  | cons a rest ih => exact ih (plain.act a)

end Plain

theorem not_below_root : ¬ Below rootName := by
  rintro ⟨rest, same⟩
  cases congrArg List.head? same

theorem plain_fresh (files : Files) (time fileTime : String) :
    (fresh files time fileTime).Plain := by
  intro name below
  have notRoot : rootName ≠ name := fun same => not_below_root (same ▸ below)
  have notLibrary : libraryName ≠ name := fun same => not_below_library (same ▸ below)
  simp [logger, fresh, Entries.get?, notRoot, notLibrary]

/-! What a record of the library meets -/

theorem gather_append {lower upper : List Logger}
    (plain : ∀ l ∈ lower, l.handlers = [] ∧ l.passesOn = true) :
    gather (lower ++ upper) = gather upper := by
  induction lower with
  | nil => rfl
  | cons l rest ih =>
    obtain ⟨handlers, passesOn⟩ := plain l List.mem_cons_self
    rw [List.cons_append, gather, handlers, passesOn, if_pos rfl, List.nil_append,
      ih fun l member => plain l (List.mem_cons_of_mem _ member)]

theorem handlersOf_library (plain : j.Plain) {name : String} (member : libraryName ∈ chain name)
    (own : (j.logger libraryName).passesOn = false) :
    j.handlersOf name = (j.logger libraryName).handlers := by
  obtain ⟨lower, split, below⟩ := chain_of_library member
  have lowers : ∀ l ∈ lower.map j.logger, l.handlers = [] ∧ l.passesOn = true := by
    intro l mapped
    obtain ⟨n, among, rfl⟩ := List.mem_map.1 mapped
    exact plain n (below n among)
  rw [handlersOf, split, List.map_append, gather_append lowers]
  simp [gather, own]

/-- The least rank of the records that a level of the library's logger lets through. A level of zero
leaves it to the root, and no record of rank zero is ever taken. -/
def threshold (j : Journal) (level : Level) : Int :=
  max 1 (if level.rank = 0 then (j.logger rootName).level.rank else level.rank)

/-- No level is set on the logger, nor between it and the library's own one. -/
def Unset (j : Journal) (name : String) : Prop :=
  ∀ n ∈ chain name, Below n → (j.logger n).level.rank = 0

theorem rank_effectiveLevel {name : String} (member : libraryName ∈ chain name)
    (unset : j.Unset name) : (j.effectiveLevel name).rank =
      if (j.logger libraryName).level.rank = 0 then (j.logger rootName).level.rank
      else (j.logger libraryName).level.rank := by
  obtain ⟨lower, split, below⟩ := chain_of_library member
  have unsets : (lower.map fun n => (j.logger n).level).find? (fun level => level.rank != 0) =
      none := by
    rw [List.find?_eq_none]
    intro level mapped
    obtain ⟨n, among, rfl⟩ := List.mem_map.1 mapped
    have zero := unset n (split ▸ List.mem_append_left _ among) (below n among)
    simp [zero]
  rw [effectiveLevel, split, List.map_append, List.find?_append, unsets, Option.none_or]
  simp only [List.map_cons, List.map_nil, List.find?_cons, List.find?_nil]
  by_cases own : (j.logger libraryName).level.rank = 0
  · by_cases root : (j.logger rootName).level.rank = 0
    · simp [own, root]
    · simp [own, bne_iff_ne.2 root]
  · simp [own, bne_iff_ne.2 own]

theorem takes_iff {name : String} (member : libraryName ∈ chain name) (unset : j.Unset name)
    (enabled : (j.logger name).disabled = false) (level : Level) :
    j.takes name level = true ↔ j.threshold (j.logger libraryName).level ≤ level.rank := by
  rw [threshold, ← rank_effectiveLevel member unset, takes, enabled]
  simp only [Bool.not_false, Bool.true_and, Bool.and_eq_true, decide_eq_true_eq]
  omega

theorem route_library (plain : j.Plain) (member : libraryName ∈ chain r.logger)
    (own : (j.logger libraryName).passesOn = false) (unset : j.Unset r.logger)
    (enabled : (j.logger r.logger).disabled = false)
    (severe : j.threshold (j.logger libraryName).level ≤ r.level.rank) :
    j.route r = match (j.logger libraryName).handlers with
      | [] => if Level.warning.rank ≤ r.level.rank then [.lastResort] else []
      | handlers => handlers := by
  rw [route, (takes_iff member unset enabled r.level).2 severe, handlersOf_library plain member own]
  rfl

/-- The record is written once to each sink that was asked for, and nowhere else. -/
structure Delivered (o : Options) (file : Option (List String)) (r : Record) (j : Journal) :
    Prop where
  chosen : file.isSome = o.toFile
  meets : j.route r = o.sinks file
  there : ∀ parts, file = some parts → j.files.HasFile parts
  console : (write r j).console =
    j.console ++ if o.toConsole then (j.line r).splitOn "\n" else []
  files : ∀ parts, (write r j).files.nodes.get? parts =
    if file = some parts then (j.files.nodes.get? parts).map (FileNode.extend (j.line r ++ "\n"))
    else j.files.nodes.get? parts

theorem delivered_of_route {file : Option (List String)} (chosen : file.isSome = o.toFile)
    (there : ∀ parts, file = some parts → j.files.HasFile parts)
    (reaches : j.route r = o.sinks file) : Delivered o file r j where
  chosen := chosen
  meets := reaches
  there := there
  console := by
    rw [write, reaches, Options.sinks]
    cases o.toConsole <;> cases file <;> simp [hand]
  files parts := by
    rw [write, reaches, Options.sinks]
    cases file with
    | none => cases o.toConsole <;> rfl
    | some own =>
      simp only [Option.some.injEq, eq_comm (a := own)]
      cases o.toConsole <;> exact Files.nodes_append _ _ _ _

theorem splitOnAux_ne_nil (s separator : String) (b i j : String.Pos.Raw) (parts : List String) :
    s.splitOnAux separator b i j parts ≠ [] := by
  fun_induction String.splitOnAux s separator b i j parts with
  | case1 => simp
  | case2 => assumption
  | case3 => assumption
  | case4 => assumption

theorem splitOn_ne_nil (s separator : String) : s.splitOn separator ≠ [] := by
  rw [String.splitOn]
  split
  · exact List.cons_ne_nil _ _
  · exact splitOnAux_ne_nil _ _ _ _ _ _

theorem loggers_logged (j : Journal) (logged : List Record) :
    (j.after (logged.map .log)).loggers = j.loggers := by
  induction logged generalizing j with
  | nil => rfl
  | cons r rest ih => exact (ih _).trans (loggers_write r j)

theorem hasFile_logged {parts : List String} (there : j.files.HasFile parts)
    (logged : List Record) : (j.after (logged.map .log)).files.HasFile parts := by
  induction logged generalizing j with
  | nil => exact there
  | cons r rest ih => exact ih (hasFile_write there r)

/-- A sink was asked for, or the record is no warning, so that it is not shown without one. -/
def Options.Covers (o : Options) (r : Record) : Prop :=
  o.toConsole = true ∨ o.toFile = true ∨ r.level.rank < Level.warning.rank

instance (o : Options) (r : Record) : Decidable (o.Covers r) :=
  inferInstanceAs (Decidable (_ ∨ _ ∨ _))

theorem reached_of_sinks {file : Option (List String)} (chosen : file.isSome = o.toFile) :
    (match o.sinks file with
      | [] => if Level.warning.rank ≤ r.level.rank then [.lastResort] else []
      | handlers => handlers) = if o.Covers r then o.sinks file else [.lastResort] := by
  cases console : o.toConsole with
  | true =>
    have covered : o.Covers r := .inl console
    rw [if_pos covered, Options.sinks, console]
    rfl
  | false =>
    cases file with
    | some parts =>
      have covered : o.Covers r := .inr (.inl chosen.symm)
      rw [if_pos covered, Options.sinks, console]
      rfl
    | none =>
      have noFile : o.toFile = false := chosen.symm
      have noSink : o.sinks none = [] := by
        rw [Options.sinks, console]
        rfl
      simp only [noSink, Options.Covers, console, noFile, Bool.false_eq_true, false_or]
      by_cases warns : Level.warning.rank ≤ r.level.rank
      · rw [if_pos warns, if_neg (Int.not_lt.2 warns)]
      · rw [if_neg warns, if_pos (Int.not_le.1 warns)]

theorem delivered_iff_of_route {file : Option (List String)} (chosen : file.isSome = o.toFile)
    (there : ∀ parts, file = some parts → j.files.HasFile parts)
    (reaches : j.route r = if o.Covers r then o.sinks file else [.lastResort]) :
    (Delivered o file r j ↔ o.Covers r) ∧
      (¬ o.Covers r → write r j = { j with console := j.console ++ r.message.splitOn "\n" }) := by
  by_cases covered : o.Covers r
  · rw [if_pos covered] at reaches
    exact ⟨iff_of_true (delivered_of_route chosen there reaches) covered, absurd covered⟩
  · rw [if_neg covered] at reaches
    have shown : write r j = { j with console := j.console ++ r.message.splitOn "\n" } := by
      rw [write, reaches]
      rfl
    have noConsole : o.toConsole ≠ true := fun console => covered (.inl console)
    refine ⟨iff_of_false (fun delivered => ?_) covered, fun _ => shown⟩
    have same := delivered.console
    rw [shown, if_neg noConsole] at same
    exact splitOn_ne_nil r.message "\n" (List.append_cancel_left same)

/-- After a set-up that returned, whatever was done before it, every record of the library that is
severe enough is written once to each sink that was asked for and nowhere else, just if there is
such a sink or the record is no warning. A warning without one is shown on the console. -/
theorem each_sink_once_iff {j : Journal} (plain : j.Plain) (earlier : List Ask) {o : Options}
    (on : o.enabled = true) {k : Journal}
    (returns : (setUp o).Ends (j.after earlier) (.ok ()) k) (logged : List Record) {level : Level}
    (asked : levelOf o.level = .ok level) {r : Record} (member : libraryName ∈ chain r.logger)
    (enabled : (k.logger r.logger).disabled = false) (unset : k.Unset r.logger)
    (severe : k.threshold level ≤ r.level.rank) :
    let now := k.after (logged.map .log)
    (Delivered o (o.file? (j.after earlier)) r now ↔ o.Covers r) ∧
      (¬ o.Covers r →
        write r now = { now with console := now.console ++ r.message.splitOn "\n" }) := by
  intro now
  obtain ⟨chosen, there, changed⟩ := setUp_returned on returns asked
  have same (name : String) : now.logger name = k.logger name := by
    rw [logger, logger, loggers_logged]
  -- neither the set-up nor later records give a logger below a handler, so only the own ones count
  have plain' : now.Plain := (returns.state ▸ (plain.after earlier).act (.setUp o)).after _
  have passesOn : (now.logger libraryName).passesOn = false := by rw [same, changed.own]
  have level' : (now.logger libraryName).level = level := by rw [same, changed.own]
  have threshold : now.threshold level = k.threshold level := by
    rw [Journal.threshold, Journal.threshold, same]
  have reaches := route_library plain' member passesOn
    (fun n above below => (same n).symm ▸ unset n above below) ((same _).symm ▸ enabled)
    (level'.symm ▸ threshold.symm ▸ severe)
  rw [same, changed.own, reached_of_sinks chosen] at reaches
  exact delivered_iff_of_route chosen (fun parts found => hasFile_logged (there parts found) logged)
    reaches

theorem each_sink_once :
    let rooted := adjust rootName
      (fun l => { l with level := .info, handlers := [.console, .file ["root.log"]] }) bare
    let earlier : List Ask := [
      .setUp { enabled := true, toFile := true, path := .text "old.log" },
      .disable (.text "vinobatch.engines"),
      .setUp { enabled := true, level := .text "loud" }]
    let o : Options :=
      { enabled := true, level := .text "debug", toFile := true, path := .text "run.log" }
    let logged : List Record := [⟨.info, "vinobatch.detect", "first"⟩]
    let r : Record := ⟨.debug, "vinobatch.outputs.log_output", "plate"⟩
    (setUp o (rooted.after earlier)).result = .ok () ∧ o.Covers r ∧
      Delivered o (some ["run.log"]) r
        ((setUp o (rooted.after earlier)).state.after (logged.map .log)) := by
  intro rooted earlier o logged r
  have plain : rooted.Plain := by
    refine (plain_fresh _ _ _).of_changed (.of_adjust _ _ _) fun below => ?_
    exact absurd below not_below_root
  have returned : (setUp o (rooted.after earlier)).result = .ok () := by decide +kernel
  have covered : o.Covers r := .inl rfl
  have unset : (setUp o (rooted.after earlier)).state.Unset r.logger := by
    have levels : ∀ n ∈ chain r.logger, n ≠ libraryName → n ≠ rootName →
        ((setUp o (rooted.after earlier)).state.logger n).level.rank = 0 := by decide +kernel
    refine fun n above below => levels n above (fun same => ?_) fun same => ?_
    · exact not_below_library (same ▸ below)
    · exact not_below_root (same ▸ below)
  have chosen : o.file? (rooted.after earlier) = some ["run.log"] := by decide +kernel
  have asked : levelOf o.level = .ok .debug := by decide +kernel
  have once := each_sink_once_iff plain earlier rfl ⟨returned, rfl⟩ logged asked
    (by decide +kernel) (by decide +kernel) unset (by decide +kernel)
  rw [chosen] at once
  exact ⟨returned, covered, once.1.2 covered⟩

/-- A warning is shown on the console after a set-up that asked for no sink. -/
theorem shown_without_sink :
    let o : Options := { enabled := true, toConsole := false }
    let j := (setUp o bare).state
    let r : Record := ⟨.warning, "vinobatch.detect", "lost"⟩
    (setUp o bare).result = .ok () ∧ libraryName ∈ chain r.logger ∧
      j.route r = [.lastResort] ∧ ¬ Delivered o none r j := by
  intro o j r
  have last : j.route r = [.lastResort] := by decide +kernel
  refine ⟨by decide +kernel, by decide +kernel, last, fun delivered => ?_⟩
  have same := delivered.console
  rw [write, last] at same
  exact splitOn_ne_nil r.message "\n" (List.append_cancel_left same)

end FrameBatch.Journal
