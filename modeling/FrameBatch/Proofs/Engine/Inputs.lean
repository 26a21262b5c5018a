import FrameBatch.Proofs.Engine.Use

namespace FrameBatch.Backend

variable {ε : Type} [Backend ε]

def contents (name : TensorName) (e : ε) : Except Fault Tensor := (Backend.tensor name e).result

/-- One use that writes, if anything, one of these inputs in its own type and shape. -/
inductive Step (inputs : List String) : ε → ε → Prop
  | serves {e e' : ε} (serve : Serve e e') : Step inputs e e'
  | writes {name : String} {e e₁ e₂ : ε} {t old : Tensor} {r : Except Fault Unit}
    (input : name ∈ inputs) (reads : (Backend.tensor (some name)).Ends e (.ok old) e₁)
    (type : t.type = old.type) (shape : t.shape = old.shape)
    (ends : (Backend.setTensor (some name) t).Ends e₁ r e₂) : Step inputs e e₂

abbrev Steps (inputs : List String) : ε → ε → Prop := Relation.ReflTransGen (Step inputs)

theorem Step.mono {some all : List String} (part : some ⊆ all) {e e' : ε}
    (step : Step some e e') : Step all e e' := by
  cases step with
  | serves serve => exact .serves serve
  | writes input reads type shape ends => exact .writes (part input) reads type shape ends

theorem Steps.mono {some all : List String} (part : some ⊆ all) {e e' : ε}
    (steps : Steps some e e') : Steps all e e' :=
  Relation.ReflTransGen.mono (fun _ _ => Step.mono part) _ _ steps

theorem Step.use {inputs : List String} {e e' : ε} (step : Step inputs e e') : Use e e' := by
  cases step with
  | serves serve => exact serve.use
  | writes _ reads _ shape ends => exact .writes reads ends shape

theorem Steps.uses {inputs : List String} {e e' : ε} (steps : Steps inputs e e') : Uses e e' :=
  Relation.ReflTransGen.mono (fun _ _ => Step.use) _ _ steps

/-- From this state on the engine leaves these inputs alone: what is written to one is what it
holds, until it is written to again. -/
structure Inert (inputs : List String) (e : ε) : Prop where
  kept {e₁ e₂ : ε} {name : String} (earlier : Steps inputs e e₁) (serve : Serve e₁ e₂)
    (input : name ∈ inputs) : contents (some name) e₂ = contents (some name) e₁
  written {e₁ e₂ e₃ : ε} {name : String} {t old : Tensor} (earlier : Steps inputs e e₁)
    (input : name ∈ inputs) (reads : (Backend.tensor (some name)).Ends e₁ (.ok old) e₂)
    (type : t.type = old.type) (shape : t.shape = old.shape)
    (ends : (Backend.setTensor (some name) t).Ends e₂ (.ok ()) e₃) :
    contents (some name) e₃ = .ok t
  untouched {e₁ e₂ e₃ : ε} {name other : String} {t old : Tensor} {r : Except Fault Unit}
    (earlier : Steps inputs e e₁) (input : name ∈ inputs)
    (reads : (Backend.tensor (some name)).Ends e₁ (.ok old) e₂)
    (type : t.type = old.type) (shape : t.shape = old.shape)
    (ends : (Backend.setTensor (some name) t).Ends e₂ r e₃) (input' : other ∈ inputs)
    (apart : other ≠ name ∨ r ≠ .ok ()) : contents (some other) e₃ = contents (some other) e₁

namespace Inert

variable {inputs : List String} {e e' : ε}

theorem steps (inert : Inert inputs e) (steps : Steps inputs e e') : Inert inputs e' where
  kept earlier := inert.kept (steps.trans earlier)
  written earlier := inert.written (steps.trans earlier)
  untouched earlier := inert.untouched (steps.trans earlier)

theorem kept_of_serve (inert : Inert inputs e) (serve : Serve e e') {name : String}
    (input : name ∈ inputs) : contents (some name) e' = contents (some name) e :=
  inert.kept .refl serve input

theorem kept_of_steps (inert : Inert inputs e) {some : List String} (part : some ⊆ inputs)
    (steps : Steps some e e') {name : String} (input : name ∈ inputs) (outside : name ∉ some) :
    contents (Option.some name) e' = contents (Option.some name) e := by
  induction steps with
  | refl => rfl
  | @tail e₁ e₂ earlier step ih =>
    have earlier : Steps inputs e e₁ := Steps.mono part earlier
    rw [← ih]
    cases step with
    | serves serve => exact inert.kept earlier serve input
    | writes input' reads type shape ends =>
      have apart := fun same : name = _ => outside (same ▸ input')
      exact inert.untouched earlier (part input') reads type shape ends input (.inl apart)

theorem written_of_reads (inert : Inert inputs e) {name : String} (input : name ∈ inputs)
    {e₁ e₂ : ε} {t old : Tensor} (reads : (Backend.tensor (some name)).Ends e (.ok old) e₁)
    (type : t.type = old.type) (shape : t.shape = old.shape)
    (ends : (Backend.setTensor (some name) t).Ends e₁ (.ok ()) e₂) :
    contents (some name) e₂ = .ok t :=
  inert.written .refl input reads type shape ends

end Inert

/-- An engine leaves its inputs alone if what they hold is a part of its state that only writing
changes. -/
theorem inert_of_invariant {inputs : List String} {P : ε → Prop}
    (keeps : ∀ {e e'}, P e → Step inputs e e' → P e')
    (serves : ∀ {e e' name}, P e → Serve e e' → name ∈ inputs →
      contents (some name) e' = contents (some name) e)
    (writes : ∀ {e e₁ e₂ name t r}, P e → name ∈ inputs →
      (Backend.setTensor (some name) t).Ends e₁ r e₂ →
      (∃ old, (Backend.tensor (some name)).Ends e (.ok old) e₁) →
      r = .ok () ∧ contents (some name) e₂ = .ok t ∧
        ∀ other ∈ inputs, other ≠ name → contents (some other) e₂ = contents (some other) e)
    {e : ε} (initially : P e) : Inert inputs e := by
  have always {e' : ε} (steps : Steps inputs e e') : P e' := by
    induction steps with
    | refl => exact initially
    | tail _ step ih => exact keeps ih step
  refine ⟨fun earlier serve input => serves (always earlier) serve input, ?_, ?_⟩
  · intro e₁ e₂ e₃ name t old earlier input reads _ _ ends
    exact (writes (always earlier) input ends ⟨old, reads⟩).2.1
  · intro e₁ e₂ e₃ name other t old r earlier input reads _ _ ends input' apart
    obtain ⟨good, _, others⟩ := writes (always earlier) input ends ⟨old, reads⟩
    rcases apart with apart | failed
    · exact others other input' apart
    · exact absurd good failed

end FrameBatch.Backend
