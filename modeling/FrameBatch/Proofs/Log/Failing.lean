import FrameBatch.Proofs.Log.SetUp
import FrameBatch.Proofs.Log.Silence

namespace FrameBatch.Journal

variable {j k : Journal} {f : Fault}

theorem on_of_failed_setUp {o : Options} (fails : (setUp o).Ends j (.error f) k) :
    o.enabled = true := by
  cases on : o.enabled with
  | true => rfl
  | false =>
    unfold setUp at fails
    rw [on] at fails
    cases (Act.ends_modify.1 fails).1

theorem failed_setUp {o : Options} (fails : (setUp o).Ends j (.error f) k) :
    levelOf o.level = .error f ∧ Changed libraryName (fun l => { l with disabled := false }) j k ∨
      ∃ level, levelOf o.level = .ok level ∧ o.toFile = true ∧ Changed libraryName
        (fun l => { l with disabled := false, level, handlers := o.sinks none }) j k := by
  have cases := setUp_cases (on_of_failed_setUp fails) fails
  generalize same : (.error f : Except Fault Unit) = r at cases
  cases cases with
  | unknownLevel unknown changed =>
    cases same
    exact .inl ⟨unknown, changed⟩
  | noFile known asked changed => exact .inr ⟨_, known, asked, changed⟩
  | done => cases same

theorem failed_enable {name level : Value} (fails : (enable name level).Ends j (.error f) k) :
    target name = .error f ∧ k = j ∨
      ∃ n, target name = .ok n ∧ levelOf level = .error f ∧
        Changed n (fun l => { l with disabled := false }) j k := by
  rw [enable] at fails
  rcases Act.ends_bind.1 fails with ⟨n, _, names, rest⟩ | ⟨_, same, names⟩
  · obtain ⟨named, rfl⟩ := Act.ends_lift.1 names
    rw [Act.ends_bind_of_ok (Act.ends_modify.2 ⟨rfl, rfl⟩)] at rest
    rcases Act.ends_bind.1 rest with ⟨_, _, _, sets⟩ | ⟨_, same, lifts⟩
    · cases (Act.ends_modify.1 sets).1
    · cases same
      obtain ⟨unknown, rfl⟩ := Act.ends_lift.1 lifts
      exact .inr ⟨n, named.symm, unknown.symm, .of_adjust _ _ _⟩
  · cases same
    obtain ⟨unnamed, rfl⟩ := Act.ends_lift.1 names
    exact .inl ⟨unnamed.symm, rfl⟩

/-- A call that fails leaves the logger it configures with the stages before the failure, and every
other logger as it was. A set-up fails for its level, when it has turned the logger on, or for its
file, when it has also set the level and replaced the handlers by the one for the console. Turning
on a logger fails for its name, when nothing has changed, or for the level, when the logger is on. -/
theorem failed_call_leaves (j : Journal) (f : Fault) (k : Journal) :
    (∀ o : Options, (setUp o).Ends j (.error f) k →
      levelOf o.level = .error f ∧ Changed libraryName (fun l => { l with disabled := false }) j k ∨
      ∃ level, levelOf o.level = .ok level ∧ o.toFile = true ∧ Changed libraryName
        (fun l => { l with disabled := false, level, handlers := o.sinks none }) j k) ∧
    (∀ name level : Value, (enable name level).Ends j (.error f) k →
      target name = .error f ∧ k = j ∨
      ∃ n, target name = .ok n ∧ levelOf level = .error f ∧
        Changed n (fun l => { l with disabled := false }) j k) :=
  ⟨fun _ => failed_setUp, fun _ _ => failed_enable⟩

theorem ends_error {x : Act Journal Unit} (unreturned : (x j).result ≠ .ok ()) :
    ∃ f, x.Ends j (.error f) (x j).state := by
  cases result : (x j).result with
  | ok => exact absurd result unreturned
  | error f => exact ⟨f, result, rfl⟩

theorem left_by_failures :
    let loud : Options := { enabled := true, level := .text "loud" }
    let astray : Options := { enabled := true, toFile := true, path := .text "missing/run.log" }
    let off := bare.after [.disable .null]
    (∃ f k, (setUp loud).Ends off (.error f) k ∧
      Changed libraryName (fun l => { l with disabled := false }) off k) ∧
    (∃ f k, (setUp astray).Ends off (.error f) k ∧ Changed libraryName
      (fun l => { l with disabled := false, level := .info, handlers := [.console] }) off k) ∧
    (∃ f k, (enable .null (.text "loud")).Ends off (.error f) k ∧
      Changed libraryName (fun l => { l with disabled := false }) off k) := by
  intro loud astray off
  obtain ⟨f₁, first⟩ := ends_error (x := setUp loud) (j := off) (by decide +kernel)
  obtain ⟨f₂, second⟩ := ends_error (x := setUp astray) (j := off) (by decide +kernel)
  obtain ⟨f₃, third⟩ := ends_error (x := enable .null (.text "loud")) (j := off) (by decide +kernel)
  refine ⟨⟨f₁, _, first, ?_⟩, ⟨f₂, _, second, ?_⟩, ⟨f₃, _, third, ?_⟩⟩
  · obtain ⟨_, changed⟩ | ⟨_, known, _⟩ := (failed_call_leaves off _ _).1 loud first
    · exact changed
    · cases known
  · obtain ⟨unknown, _⟩ | ⟨_, known, _, changed⟩ := (failed_call_leaves off _ _).1 astray second
    · cases unknown
    · cases known
      exact changed
  · obtain ⟨unnamed, _⟩ | ⟨_, named, _, changed⟩ := (failed_call_leaves off _ _).2 _ _ third
    · cases unnamed
    · cases named
      exact changed

/-- Calls that fail turn the library's logger on, and the one whose file cannot be opened also takes
away the handlers that there were. -/
theorem failed_calls_change :
    let loud : Options := { enabled := true, level := .text "loud" }
    let astray : Options := { enabled := true, toFile := true, path := .text "missing/run.log" }
    let off := bare.after [.disable .null]
    (off.logger libraryName).disabled = true ∧ (off.logger libraryName).handlers = [.silent] ∧
      (setUp loud off).result ≠ .ok () ∧
      ((setUp loud off).state.logger libraryName).disabled = false ∧
      (setUp astray off).result ≠ .ok () ∧
      ((setUp astray off).state.logger libraryName).handlers = [.console] ∧
      (enable .null (.text "loud") off).result ≠ .ok () ∧
      ((enable .null (.text "loud") off).state.logger libraryName).disabled = false := by
  decide +kernel

end FrameBatch.Journal
