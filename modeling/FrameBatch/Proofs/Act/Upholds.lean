import FrameBatch.Proofs.Act.Ends

namespace FrameBatch.Act

variable {σ τ α β : Type} {I : σ → Prop} {P : Event → Prop} {Q : α → Prop}

structure Upholds (I : σ → Prop) (P : Event → Prop) (Q : α → Prop) (x : Act σ α) : Prop where
  state {s : σ} (before : I s) : I (x s).state
  trail {s : σ} (before : I s) : ∀ event ∈ (x s).trail, P event
  result {s : σ} (before : I s) : ∀ a, (x s).result = .ok a → Q a

namespace Upholds

abbrev Any (I : σ → Prop) (P : Event → Prop) (x : Act σ α) : Prop := Upholds I P (fun _ => True) x

theorem any {x : Act σ α} (upholds : Upholds I P Q x) : Any I P x where
  state := upholds.state
  trail := upholds.trail
  result _ _ _ := trivial

theorem pure {a : α} (good : Q a) : Upholds I P Q (Pure.pure a) where
  state before := before
  trail _ := nofun
  result _ b same := by
    cases same
    exact good

theorem get : Upholds I P I Act.get where
  state before := before
  trail _ := nofun
  result before s same := by
    cases same
    exact before

theorem set {t : σ} (after : I t) : Any I P (Act.set t) where
  state _ := after
  trail _ := nofun
  result _ _ _ := trivial

theorem modify {f : σ → σ} (keeps : ∀ s, I s → I (f s)) : Any I P (Act.modify f) where
  state before := keeps _ before
  trail _ := nofun
  result _ _ _ := trivial

theorem fail {f : Fault} : Upholds I P Q (Act.fail f) where
  state before := before
  trail _ := nofun
  result _ _ same := nomatch same

theorem lift {r : Except Fault α} (good : ∀ a, r = .ok a → Q a) : Upholds I P Q (liftM r) where
  state before := before
  trail _ := nofun
  result _ := good

theorem note {event : Event} (allowed : P event) : Any I P (Act.note event) where
  state before := before
  trail _ other member := by
    cases List.mem_singleton.1 member
    exact allowed
  result _ _ _ := trivial

theorem bind {R : β → Prop} {x : Act σ α} {f : α → Act σ β} (first : Upholds I P Q x)
    (rest : ∀ a, Q a → Upholds I P R (f a)) : Upholds I P R (x >>= f) := by
  have whole {s : σ} (before : I s) : I ((x >>= f) s).state ∧
      (∀ event ∈ ((x >>= f) s).trail, P event) ∧ ∀ b, ((x >>= f) s).result = .ok b → R b := by
    have state := first.state before
    have trail := first.trail before
    have result := first.result before
    rcases h : x s with ⟨r, s', events⟩
    rw [h] at state trail result
    cases r with
    | error f =>
      rw [bind_of_error h]
      exact ⟨state, trail, nofun⟩
    | ok a =>
      have later := rest a (result a rfl)
      rw [bind_of_ok h]
      refine ⟨later.state state, fun event member => ?_, later.result state⟩
      rcases List.mem_append.1 member with here | there
      · exact trail event here
      · exact later.trail state event there
  exact ⟨fun before => (whole before).1, fun before => (whole before).2.1,
    fun before => (whole before).2.2⟩

theorem fail_bind {f : Fault} {g : α → Act σ β} {R : β → Prop} :
    Upholds I P R (Act.fail f >>= g) where
  state before := before
  trail _ := nofun
  result _ _ same := nomatch same

theorem on {J : τ → Prop} {view : τ → σ} {update : σ → τ → τ} {x : Act σ α}
    (upholds : Upholds I P Q x) (part : ∀ t, J t → I (view t))
    (whole : ∀ t s', J t → I s' → J (update s' t)) : Upholds J P Q (x.on view update) where
  state before := whole _ _ before (upholds.state (part _ before))
  trail before := upholds.trail (part _ before)
  result before := upholds.result (part _ before)

theorem attempt {x : Act σ α} (upholds : Upholds I P Q x) : Any I P x.attempt where
  state before := upholds.state before
  trail before := upholds.trail before
  result _ _ _ := trivial

theorem foldlM {f : β → α → Act σ β} (each : ∀ b a, Any I P (f b a)) (b : β) (l : List α) :
    Any I P (l.foldlM f b) := by
  induction l generalizing b with
  | nil => exact .pure trivial
  | cons a rest ih => exact .bind (each b a) fun next _ => ih next

end Upholds

theorem mem_trail_bind {x : Act σ α} {f : α → Act σ β} {s : σ} {event : Event}
    (member : event ∈ ((x >>= f) s).trail) : event ∈ (x s).trail ∨
      ∃ a s', x.Ends s (.ok a) s' ∧ event ∈ (f a s').trail ∧
        ((x >>= f) s).result = (f a s').result := by
  rcases h : x s with ⟨r, s', trail⟩
  cases r with
  | error e =>
    rw [bind_of_error h] at member
    exact .inl member
  | ok a =>
    rw [bind_of_ok h] at member ⊢
    rcases List.mem_append.1 member with here | there
    · exact .inl here
    · exact .inr ⟨a, s', ⟨congrArg Outcome.result h, congrArg Outcome.state h⟩, there, rfl⟩

end FrameBatch.Act
