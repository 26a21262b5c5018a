import FrameBatch.Proofs.Log.Calls

namespace FrameBatch.Journal

namespace Ask

def Silences : Ask → Prop
  | .setUp o => o.enabled = false
  | .disable name => target name = .ok libraryName
  | _ => False

def Wakes : Ask → Prop
  | .setUp o => o.enabled = true
  | .enable name _ => target name = .ok libraryName
  | _ => False

end Ask

/-- The loggers of `k` are those of `j`, with the library's own one turned off. -/
structure Muted (j k : Journal) : Prop where
  off : k.logger libraryName = { j.logger libraryName with disabled := true }
  others : ∀ name, name ≠ libraryName → k.logger name = j.logger name

namespace Muted

variable {j k : Journal}

theorem of_adjust (j : Journal) :
    Muted j (adjust libraryName (fun l => { l with disabled := true }) j) where
  off := logger_adjust_self _ _ j
  others _ different := logger_adjust_of_ne different _ j

theorem adjust (muted : Muted j k) {name : String} {f : Logger → Logger}
    (commutes : name = libraryName → ∀ l : Logger,
      f { l with disabled := true } = { f l with disabled := true }) :
    Muted (adjust name f j) (Journal.adjust name f k) where
  off := by
    by_cases same : name = libraryName
    · rw [← same, logger_adjust_self, logger_adjust_self, same, muted.off, commutes same]
    · rw [logger_adjust_of_ne (Ne.symm same), logger_adjust_of_ne (Ne.symm same), muted.off]
  others other different := by
    by_cases same : other = name
    · subst same
      rw [logger_adjust_self, logger_adjust_self, muted.others other different]
    · rw [logger_adjust_of_ne same, logger_adjust_of_ne same, muted.others other different]

theorem of_loggers {j' k' : Journal} (muted : Muted j k) (same : j'.loggers = j.loggers)
    (same' : k'.loggers = k.loggers) : Muted j' k' := by
  have logger (name : String) : j'.logger name = j.logger name := by rw [logger, same]; rfl
  have logger' (name : String) : k'.logger name = k.logger name := by
    rw [Journal.logger, same']; rfl
  exact ⟨by rw [logger, logger', muted.off],
    fun name different => by rw [logger, logger', muted.others name different]⟩

theorem settings (muted : Muted j k) (name : String) :
    (k.logger name).level = (j.logger name).level ∧
      (k.logger name).passesOn = (j.logger name).passesOn ∧
      (k.logger name).handlers = (j.logger name).handlers := by
  by_cases same : name = libraryName
  · subst same
    simp [muted.off]
  · simp [muted.others name same]

theorem effectiveLevel (muted : Muted j k) (name : String) :
    k.effectiveLevel name = j.effectiveLevel name := by
  simp only [Journal.effectiveLevel, (muted.settings _).1]

theorem handlersOf (muted : Muted j k) (name : String) : k.handlersOf name = j.handlersOf name := by
  simp only [Journal.handlersOf]
  induction chain name with
  | nil => rfl
  | cons first above ih =>
    obtain ⟨_, passesOn, handlers⟩ := muted.settings first
    simp only [List.map_cons, gather, passesOn, handlers, ih]

theorem route (muted : Muted j k) (r : Record) :
    k.route r = if r.logger = libraryName then [] else j.route r := by
  split
  · rename_i own
    simp [Journal.route, takes, own, muted.off]
  · rename_i other
    rw [Journal.route, Journal.route, takes, takes, muted.others _ other, muted.effectiveLevel,
      muted.handlersOf]

end Muted

theorem Ask.Silences.muted {a : Ask} (silences : a.Silences) (j : Journal) :
    Muted j (a.act j).state := by
  cases a with
  | setUp o =>
    have off : o.enabled = false := silences
    rw [act, state_setUp_of_off off]
    exact .of_adjust j
  | disable name =>
    have named : target name = .ok libraryName := silences
    rw [act, state_disable, named]
    exact .of_adjust j
  | enable => exact silences.elim
  | log => exact silences.elim

/-- Until the library's logging is turned on, every call does the same whether it is on or off. -/
theorem Muted.act {j k : Journal} (muted : Muted j k) {a : Ask} (asleep : ¬ a.Wakes) :
    Muted (a.act j).state (a.act k).state := by
  cases a with
  | setUp o =>
    have off : o.enabled = false := by simpa [Ask.Wakes] using asleep
    simp only [Ask.act, state_setUp_of_off off]
    exact muted.adjust fun _ _ => rfl
  | disable name =>
    simp only [Ask.act, state_disable]
    split
    · exact muted.adjust fun _ _ => rfl
    · exact muted
  | enable name level =>
    simp only [Ask.act, state_enable]
    have other {n : String} (named : target name = .ok n) : n ≠ libraryName := fun same =>
      asleep (named.trans (by rw [same]))
    split
    · rename_i n _ named _
      have other := other named
      exact (muted.adjust fun same => absurd same other).adjust fun same => absurd same other
    · rename_i n _ named _
      exact muted.adjust fun same => absurd same (other named)
    · exact muted
  | log r => exact muted.of_loggers (loggers_write r j) (loggers_write r k)

theorem Muted.after {j k : Journal} (muted : Muted j k) {asks : List Ask}
    (asleep : ∀ a ∈ asks, ¬ a.Wakes) : Muted (j.after asks) (k.after asks) := by
  induction asks generalizing j k with
  | nil => exact muted
  | cons a rest ih =>
    exact ih (muted.act (asleep a List.mem_cons_self)) fun b member =>
      asleep b (List.mem_cons_of_mem a member)

/-- After the library's logging was turned off, and until it is turned on again, the records of the
library's own logger reach no handler. The records of every other logger, those below it included,
reach the handlers that they would reach if it had not been turned off. -/
theorem silenced_logger_alone (j : Journal) (earlier later : List Ask) {last : Ask}
    (silences : last.Silences) (asleep : ∀ a ∈ later, ¬ a.Wakes) (r : Record) :
    (j.after (earlier ++ last :: later)).route r =
      if r.logger = libraryName then [] else (j.after (earlier ++ later)).route r := by
  rw [after_append, after_append]
  exact ((silences.muted _).after asleep).route r

def bare : Journal := fresh { home := "/work" } "2024-05-01 12:00:00,000" "20240501_120000"

theorem silenced_after_setUp :
    let rest : List Ask := [.disable (.text "vinobatch.engines"), .log ⟨.error, libraryName, "lost"⟩,
      .enable (.text "vinobatch.outputs") (.text "DEBUG")]
    (∀ a ∈ rest, ¬ a.Wakes) ∧
      (bare.after ([.setUp { enabled := true }] ++ .disable .null :: rest)).route
          ⟨.critical, libraryName, "lost"⟩ = [] ∧
      (bare.after ([.setUp { enabled := true }] ++ .disable .null :: rest)).route
          ⟨.debug, "vinobatch.outputs", "plate"⟩ = [.console] := by
  intro rest
  have off : (Ask.disable .null).Silences := rfl
  have asleep : ∀ a ∈ rest, ¬ a.Wakes := by
    simp only [rest, List.mem_cons, List.not_mem_nil, or_false]
    rintro a (rfl | rfl | rfl)
    · exact id
    · exact id
    · exact fun woken : Except.ok "vinobatch.outputs" = Except.ok libraryName =>
        absurd (Except.ok.inj woken) (by decide)
  have heard := silenced_logger_alone bare [.setUp { enabled := true }] rest off asleep
  exact ⟨asleep, heard _, (heard _).trans (by decide +kernel)⟩

/-- A logger below the library's one is still heard on the console after the library's logging was
turned off, in either way. -/
theorem heard_below_silenced :
    (Ask.disable .null).Silences ∧ (Ask.setUp { enabled := false }).Silences ∧
      libraryName ∈ chain "vinobatch.detect" ∧
      (bare.after [.setUp { enabled := true }, .disable .null]).route
        ⟨.info, "vinobatch.detect", "still here"⟩ = [.console] ∧
      (bare.after [.setUp { enabled := true }, .setUp { enabled := false }]).route
        ⟨.info, "vinobatch.detect", "still here"⟩ = [.console] :=
  ⟨rfl, rfl, by decide +kernel, by decide +kernel, by decide +kernel⟩

end FrameBatch.Journal
