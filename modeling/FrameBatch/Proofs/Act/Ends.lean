import FrameBatch.Act

namespace FrameBatch.Act

variable {σ τ α β : Type}

/-- The act ends with this result in this state. -/
def Ends (x : Act σ α) (s : σ) (r : Except Fault α) (s' : σ) : Prop :=
  (x s).result = r ∧ (x s).state = s'

theorem ends_self (x : Act σ α) (s : σ) : x.Ends s (x s).result (x s).state := ⟨rfl, rfl⟩

theorem Ends.result {x : Act σ α} {s s' : σ} {r : Except Fault α} (h : x.Ends s r s') :
    (x s).result = r := h.1

theorem Ends.state {x : Act σ α} {s s' : σ} {r : Except Fault α} (h : x.Ends s r s') :
    (x s).state = s' := h.2

theorem ends_bind {x : Act σ α} {f : α → Act σ β} {s s' : σ} {r : Except Fault β} :
    (x >>= f).Ends s r s' ↔
      (∃ a middle, x.Ends s (.ok a) middle ∧ (f a).Ends middle r s') ∨
        ∃ e, r = .error e ∧ x.Ends s (.error e) s' := by
  rcases h : x s with ⟨result, state, trail⟩
  cases result with
  | error e =>
    simp only [Ends, bind_of_error h, h]
    constructor
    · rintro ⟨rfl, rfl⟩
      exact .inr ⟨e, rfl, rfl, rfl⟩
    · rintro (⟨a, middle, ⟨same, _⟩, _⟩ | ⟨e', rfl, same, rfl⟩)
      · cases same
      · cases same
        exact ⟨rfl, rfl⟩
  | ok a =>
    simp only [Ends, bind_of_ok h, h]
    constructor
    · intro ends
      exact .inl ⟨a, state, ⟨rfl, rfl⟩, ends⟩
    · rintro (⟨b, middle, ⟨same, rfl⟩, ends⟩ | ⟨e, _, same, _⟩)
      · cases same
        exact ends
      · cases same

theorem ends_bind_of_ok {x : Act σ α} {s middle s' : σ} {a : α} {r : Except Fault β}
    (first : x.Ends s (.ok a) middle) (f : α → Act σ β) :
    (x >>= f).Ends s r s' ↔ (f a).Ends middle r s' := by
  rw [ends_bind]
  constructor
  · rintro (⟨b, other, first', rest⟩ | ⟨e, _, first'⟩)
    · cases first.1.symm.trans first'.1
      cases first.2.symm.trans first'.2
      exact rest
    · cases first.1.symm.trans first'.1
  · intro rest
    exact .inl ⟨a, middle, first, rest⟩

theorem ends_bind_of_error {x : Act σ α} {s middle s' : σ} {e : Fault} {r : Except Fault β}
    (first : x.Ends s (.error e) middle) (f : α → Act σ β) :
    (x >>= f).Ends s r s' ↔ r = .error e ∧ s' = middle := by
  rw [ends_bind]
  constructor
  · rintro (⟨b, other, first', _⟩ | ⟨e', rfl, first'⟩)
    · cases first.1.symm.trans first'.1
    · cases first.1.symm.trans first'.1
      exact ⟨rfl, first'.2.symm.trans first.2⟩
  · rintro ⟨rfl, rfl⟩
    exact .inr ⟨e, rfl, first⟩

theorem ends_bind_ok {x : Act σ α} {f : α → Act σ β} {s s' : σ} {b : β} :
    (x >>= f).Ends s (.ok b) s' ↔
      ∃ a middle, x.Ends s (.ok a) middle ∧ (f a).Ends middle (.ok b) s' := by
  rw [ends_bind]
  constructor
  · rintro (returned | ⟨_, fault, _⟩)
    · exact returned
    · cases fault
  · exact .inl

theorem ends_pure {a : α} {s s' : σ} {r : Except Fault α} :
    (pure a : Act σ α).Ends s r s' ↔ r = .ok a ∧ s' = s := by
  simp [Ends, eq_comm]

theorem ends_get {s s' : σ} {r : Except Fault σ} : get.Ends s r s' ↔ r = .ok s ∧ s' = s := by
  simp [Ends, eq_comm]

theorem ends_set {s s' t : σ} {r : Except Fault Unit} :
    (set t).Ends s r s' ↔ r = .ok () ∧ s' = t := by
  simp [Ends, eq_comm]

theorem ends_modify {f : σ → σ} {s s' : σ} {r : Except Fault Unit} :
    (modify f).Ends s r s' ↔ r = .ok () ∧ s' = f s := by
  simp [Ends, eq_comm]

theorem ends_fail {f : Fault} {s s' : σ} {r : Except Fault α} :
    (fail f : Act σ α).Ends s r s' ↔ r = .error f ∧ s' = s := by
  simp [Ends, eq_comm]

theorem ends_lift {x r : Except Fault α} {s s' : σ} :
    (liftM x : Act σ α).Ends s r s' ↔ r = x ∧ s' = s := by
  rw [eq_comm (a := r), eq_comm (a := s')]
  exact Iff.rfl

theorem ends_note {event : Event} {s s' : σ} {r : Except Fault Unit} :
    (note event).Ends s r s' ↔ r = .ok () ∧ s' = s := by
  simp [Ends, eq_comm]

theorem ends_log {level : Level} {logger message : String} {s s' : σ} {r : Except Fault Unit} :
    (log level logger message).Ends s r s' ↔ r = .ok () ∧ s' = s := by
  simp [Ends, log, eq_comm]

theorem ends_call {c : Call} {s s' : σ} {r : Except Fault Unit} :
    (call c).Ends s r s' ↔ r = .ok () ∧ s' = s := by
  simp [Ends, call, eq_comm]

@[simp]
theorem ends_get_bind {f : σ → Act σ β} {s s' : σ} {r : Except Fault β} :
    (get >>= f).Ends s r s' ↔ (f s).Ends s r s' :=
  ends_bind_of_ok (ends_get.2 ⟨rfl, rfl⟩) f

@[simp]
theorem ends_set_bind {t : σ} {f : Unit → Act σ β} {s s' : σ} {r : Except Fault β} :
    (set t >>= f).Ends s r s' ↔ (f ()).Ends t r s' :=
  ends_bind_of_ok (ends_set.2 ⟨rfl, rfl⟩) f

@[simp]
theorem ends_fail_bind {f : Fault} {g : α → Act σ β} {s s' : σ} {r : Except Fault β} :
    (fail f >>= g).Ends s r s' ↔ r = .error f ∧ s' = s :=
  ends_bind_of_error (ends_fail.2 ⟨rfl, rfl⟩) g

theorem ends_note_bind {event : Event} {f : Unit → Act σ β} {s s' : σ} {r : Except Fault β} :
    (note event >>= f).Ends s r s' ↔ (f ()).Ends s r s' :=
  ends_bind_of_ok (ends_note.2 ⟨rfl, rfl⟩) f

@[simp]
theorem ends_log_bind {level : Level} {logger message : String} {f : Unit → Act σ β} {s s' : σ}
    {r : Except Fault β} : (log level logger message >>= f).Ends s r s' ↔ (f ()).Ends s r s' :=
  ends_bind_of_ok (ends_log.2 ⟨rfl, rfl⟩) f

theorem ends_attempt {x : Act σ α} {s s' : σ} {r : Except Fault (Except Fault α)} :
    x.attempt.Ends s r s' ↔ ∃ inner, r = .ok inner ∧ x.Ends s inner s' := by
  constructor
  · rintro ⟨rfl, rfl⟩
    exact ⟨_, rfl, rfl, rfl⟩
  · rintro ⟨inner, rfl, rfl, rfl⟩
    exact ⟨rfl, rfl⟩

theorem ends_on {view : τ → σ} {update : σ → τ → τ} {x : Act σ α} {t t' : τ} {r : Except Fault α} :
    (x.on view update).Ends t r t' ↔ ∃ s', x.Ends (view t) r s' ∧ t' = update s' t := by
  constructor
  · rintro ⟨rfl, rfl⟩
    exact ⟨_, ⟨rfl, rfl⟩, rfl⟩
  · rintro ⟨s', ⟨rfl, rfl⟩, rfl⟩
    exact ⟨rfl, rfl⟩

theorem ends_andFinally {x : Act σ α} {last : Act σ Unit} {s s' : σ} {r : Except Fault α} :
    (x.andFinally last).Ends s r s' ↔
      ∃ r₁ s₁, x.Ends s r₁ s₁ ∧
        (last.Ends s₁ (.ok ()) s' ∧ r = r₁ ∨ ∃ e, last.Ends s₁ (.error e) s' ∧ r = .error e) := by
  simp only [Ends, andFinally]
  constructor
  · intro h
    refine ⟨_, _, ⟨rfl, rfl⟩, ?_⟩
    split at h
    · rename_i ended
      exact .inl ⟨⟨ended, h.2⟩, h.1.symm⟩
    · rename_i e failed
      exact .inr ⟨e, ⟨failed, h.2⟩, h.1.symm⟩
  · rintro ⟨_, _, ⟨rfl, rfl⟩, ⟨⟨ended, rfl⟩, rfl⟩ | ⟨e, ⟨failed, rfl⟩, rfl⟩⟩
    · simp only [ended, and_self]
    · simp only [failed, and_self]

/-- The act leaves what holds of the state, however it ends. -/
def Keeps (P : σ → Prop) (x : Act σ α) : Prop := ∀ s, P s → P (x s).state

theorem Keeps.ends {P : σ → Prop} {x : Act σ α} {s s' : σ} {r : Except Fault α} (keeps : x.Keeps P)
    (h : x.Ends s r s') (before : P s) : P s' :=
  h.2 ▸ keeps s before

theorem keeps_bind {P : σ → Prop} {x : Act σ α} {f : α → Act σ β} (first : x.Keeps P)
    (rest : ∀ a, (f a).Keeps P) : (x >>= f).Keeps P := by
  intro s before
  rcases ends_bind.1 ((x >>= f).ends_self s) with ⟨a, middle, ends, ends'⟩ | ⟨e, _, ends⟩
  · exact (rest a).ends ends' (first.ends ends before)
  · exact first.ends ends before

theorem keeps_pure (P : σ → Prop) (a : α) : (pure a : Act σ α).Keeps P := fun _ before => before

theorem keeps_get (P : σ → Prop) : (get : Act σ σ).Keeps P := fun _ before => before

theorem keeps_fail (P : σ → Prop) (f : Fault) : (fail f : Act σ α).Keeps P := fun _ before => before

theorem keeps_lift (P : σ → Prop) (r : Except Fault α) : (liftM r : Act σ α).Keeps P :=
  fun _ before => before

theorem keeps_call (P : σ → Prop) (c : Call) : (call c : Act σ Unit).Keeps P :=
  fun _ before => before

theorem keeps_log (P : σ → Prop) (level : Level) (logger message : String) :
    (log level logger message : Act σ Unit).Keeps P := fun _ before => before

theorem keeps_on {P : τ → Prop} {view : τ → σ} {update : σ → τ → τ} {x : Act σ α}
    (each : ∀ t s', P t → P (update s' t)) : (x.on view update).Keeps P :=
  fun t before => each t _ before

theorem keeps_andFinally {P : σ → Prop} {x : Act σ α} {last : Act σ Unit} (first : x.Keeps P)
    (rest : last.Keeps P) : (x.andFinally last).Keeps P := by
  intro s before
  obtain ⟨_, middle, ends, ⟨lasts, _⟩ | ⟨_, lasts, _⟩⟩ :=
    ends_andFinally.1 ((x.andFinally last).ends_self s)
  · exact rest.ends lasts (first.ends ends before)
  · exact rest.ends lasts (first.ends ends before)

theorem keeps_foldlM {P : σ → Prop} {f : β → α → Act σ β} (each : ∀ b a, (f b a).Keeps P)
    (b : β) (l : List α) : (l.foldlM f b).Keeps P := by
  induction l generalizing b with
  | nil => exact keeps_pure P b
  | cons a rest ih => exact keeps_bind (each b a) ih

end FrameBatch.Act
