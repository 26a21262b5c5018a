import FrameBatch.Engine.Backend
import FrameBatch.Proofs.Act.Ends
import FrameBatch.Proofs.Tensor.Slot
import Mathlib.Logic.Relation

namespace FrameBatch

namespace Backend

variable {ε : Type} [Backend ε]

inductive Use : ε → ε → Prop
  | reads {name : TensorName} {e e' : ε} {r : Except Fault Tensor}
    (ends : (Backend.tensor name).Ends e r e') : Use e e'
  | writes {name : TensorName} {e e₁ e₂ : ε} {t old : Tensor} {r : Except Fault Unit}
    (reads : (Backend.tensor name).Ends e (.ok old) e₁)
    (ends : (Backend.setTensor name t).Ends e₁ r e₂) (same : t.shape = old.shape) : Use e e₂
  | starts {e e' : ε} {r : Except Fault Unit} (ends : Backend.start.Ends e r e') : Use e e'
  | waits {timeout : Value} {e e' : ε} {r : Except Fault Bool}
    (ends : (Backend.wait timeout).Ends e r e') : Use e e'
  | infers {e e' : ε} {r : Except Fault Unit} (ends : Backend.infer.Ends e r e') : Use e e'
  | released (e : ε) : Use e (Backend.release e)

abbrev Uses : ε → ε → Prop := Relation.ReflTransGen Use

/-- One use that neither writes a tensor nor begins a run. -/
inductive Watch : ε → ε → Prop
  | reads {name : TensorName} {e e' : ε} {r : Except Fault Tensor}
    (ends : (Backend.tensor name).Ends e r e') : Watch e e'
  | waits {timeout : Value} {e e' : ε} {r : Except Fault Bool}
    (ends : (Backend.wait timeout).Ends e r e') : Watch e e'
  | released (e : ε) : Watch e (Backend.release e)

abbrev Watches : ε → ε → Prop := Relation.ReflTransGen Watch

theorem Watch.use {e e' : ε} (watch : Watch e e') : Use e e' := by
  cases watch with
  | reads ends => exact .reads ends
  | waits ends => exact .waits ends
  | released => exact .released e

/-- One use that writes no tensor. -/
inductive Serve : ε → ε → Prop
  | watches {e e' : ε} (watch : Watch e e') : Serve e e'
  | starts {e e' : ε} {r : Except Fault Unit} (ends : Backend.start.Ends e r e') : Serve e e'
  | infers {e e' : ε} {r : Except Fault Unit} (ends : Backend.infer.Ends e r e') : Serve e e'

theorem Serve.use {e e' : ε} (serve : Serve e e') : Use e e' := by
  cases serve with
  | watches watch => exact watch.use
  | starts ends => exact .starts ends
  | infers ends => exact .infers ends

def Shaped (name : TensorName) (shape : List Nat) (e : ε) : Prop :=
  ∃ t e', (Backend.tensor name).Ends e (.ok t) e' ∧ t.shape = shape

/-- The tensor of a name has this shape however the engine is used. -/
def KeepsShape (name : TensorName) (shape : List Nat) (e : ε) : Prop :=
  ∀ e', Uses e e' → Shaped name shape e'

theorem KeepsShape.uses {name : TensorName} {shape : List Nat} {e e' : ε}
    (keeps : KeepsShape name shape e) (uses : Uses e e') : KeepsShape name shape e' :=
  fun e'' more => keeps e'' (uses.trans more)

theorem KeepsShape.shaped {name : TensorName} {shape : List Nat} {e : ε}
    (keeps : KeepsShape name shape e) : Shaped name shape e :=
  keeps e .refl

theorem keepsShape_of_invariant {name : TensorName} {shape : List Nat} {P : ε → Prop}
    (step : ∀ {e e'}, P e → Use e e' → P e') (shaped : ∀ {e}, P e → Shaped name shape e) {e : ε}
    (initially : P e) : KeepsShape name shape e := by
  intro e' uses
  have kept : P e' := by
    induction uses with
    | refl => exact initially
    | tail _ use ih => exact step ih use
  exact shaped kept

end Backend

/-- A backend whose engines are loaded by loading, stay loaded in use, and leave descriptors to the
check that they are given. -/
class Backend.Lawful (ε : Type) [Backend ε] : Prop where
  loaded_of_load {fit : Act Descriptor.Fitting Unit} {l l' : Loading ε}
    (ends : (Backend.load fit).Ends l (.ok ()) l') : Backend.isLoaded l'.engine = true
  load_fits {fit : Act Descriptor.Fitting Unit} {l l' : Loading ε} {r : Except Fault Unit}
    (ends : (Backend.load fit).Ends l r l') :
    ∃ r' network, fit.Ends (l.descriptor, l.network) r' (l'.descriptor, network) ∧
      (r = .ok () → r' = .ok ())
  loaded_of_use {e e' : ε} (loaded : Backend.isLoaded e = true) (use : Backend.Use e e') :
    Backend.isLoaded e' = true
  write_fault {name : TensorName} {t : Tensor} {e e' : ε} {f : Fault}
    (ends : (Backend.setTensor name t).Ends e (.error f) e') : ¬ f.Misfit

namespace Backend

theorem loaded_of_uses {ε : Type} [Backend ε] [Lawful ε] {e e' : ε} (uses : Uses e e')
    (loaded : isLoaded e = true) : isLoaded e' = true := by
  induction uses with
  | refl => exact loaded
  | tail _ use ih => exact Lawful.loaded_of_use ih use

end Backend

end FrameBatch
