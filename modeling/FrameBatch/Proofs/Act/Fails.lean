import FrameBatch.Fault

namespace FrameBatch

variable {α β : Type}

theorem ok_bind (a : α) (g : α → Except Fault β) : ((.ok a : Except Fault α) >>= g) = g a := rfl

theorem bind_ok {x : Except Fault α} {g : α → Except Fault β} {b : β} (h : (x >>= g) = .ok b) :
    ∃ a, x = .ok a ∧ g a = .ok b := by
  cases x with
  | ok a => exact ⟨a, rfl, h⟩
  | error f => cases h

theorem bind_error {x : Except Fault α} {g : α → Except Fault β} {f : Fault}
    (h : (x >>= g) = .error f) : x = .error f ∨ ∃ a, x = .ok a ∧ g a = .error f := by
  cases x with
  | ok a => exact .inr ⟨a, rfl, h⟩
  | error f' =>
    cases h
    exact .inl rfl

theorem mem_toOption {α β : Type} {x : Except α β} {b : β} : b ∈ x.toOption ↔ x = .ok b := by
  cases x with
  | ok a => simp [Except.toOption]
  | error e => simp [Except.toOption]

instance decidableEqOk [DecidableEq β] (x : Except α β) (b : β) : Decidable (x = .ok b) :=
  match x with
  | .ok a => decidable_of_iff (a = b) (by simp)
  | .error _ => isFalse nofun

/-- Every fault that the computation ends in is of this kind. -/
def Fails (P : Fault → Prop) (x : Except Fault α) : Prop := ∀ f, x = .error f → P f

theorem fails_ok (P : Fault → Prop) (a : α) : Fails P (.ok a) := nofun

theorem fails_error {P : Fault → Prop} {f : Fault} (h : P f) :
    Fails P (.error f : Except Fault α) := by
  intro _ same
  cases same
  exact h

theorem Fails.bind {P : Fault → Prop} {x : Except Fault α} {g : α → Except Fault β}
    (first : Fails P x) (rest : ∀ a, x = .ok a → Fails P (g a)) : Fails P (x >>= g) := by
  intro f h
  rcases bind_error h with fault | ⟨a, found, fault⟩
  · exact first f fault
  · exact rest a found f fault

/-- A fault that a run may end in: a failure of the backend, or an interruption by the user. -/
def Fault.OfRun (f : Fault) : Prop := f.isRuntime = true ∨ f = .interrupted

theorem Fault.failed_not_ofRun {kind : FaultKind} (other : kind ≠ .runtime) (text : String) :
    ¬ (Fault.failed kind text).OfRun := by
  rintro (runtime | same)
  · exact other (eq_of_beq runtime)
  · cases same

end FrameBatch
