import FrameBatch.Act

namespace FrameBatch.Act

variable {σ α β : Type} {u : σ → σ} {s : σ}

/-- From a state on, the act goes as it does after the change `u`, and keeps the change. -/
def Blind (u : σ → σ) (x : Act σ α) (s : σ) : Prop :=
  x (u s) = ⟨(x s).result, u (x s).state, (x s).trail⟩

theorem blind_pure (u : σ → σ) (a : α) (s : σ) : Blind u (pure a : Act σ α) s := rfl

theorem blind_fail (u : σ → σ) (f : Fault) (s : σ) : Blind u (fail f : Act σ α) s := rfl

theorem blind_lift (u : σ → σ) (r : Except Fault α) (s : σ) : Blind u (liftM r : Act σ α) s := rfl

theorem blind_modify {f : σ → σ} (commutes : f (u s) = u (f s)) : Blind u (modify f) s := by
  simp only [Blind, modify_apply, commutes]

theorem blind_bind {x : Act σ α} {f : α → Act σ β} (first : Blind u x s)
    (rest : ∀ a, (x s).result = .ok a → Blind u (f a) (x s).state) : Blind u (x >>= f) s := by
  rcases h : x s with ⟨result, state, trail⟩
  rw [Blind, h] at first
  cases result with
  | error e => rw [Blind, bind_of_error h, bind_of_error first]
  | ok a =>
    have rest := rest a (by rw [h])
    rw [Blind, h] at rest
    rw [Blind, bind_of_ok h, bind_of_ok first, rest]

theorem blind_get_bind {f : σ → Act σ β} (same : f (u s) = f s) (rest : Blind u (f s) s) :
    Blind u (get >>= f) s := by
  have rest' : f (u s) (u s) = ⟨(f s s).result, u (f s s).state, (f s s).trail⟩ := by
    rw [same]
    exact rest
  rw [Blind, bind_of_ok (get_apply s), bind_of_ok (get_apply (u s)), rest']

theorem blind_attempt {x : Act σ α} (blind : Blind u x s) : Blind u x.attempt s := by
  rw [Blind] at blind
  simp only [Blind, attempt, blind]

end FrameBatch.Act
