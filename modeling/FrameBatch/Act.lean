import FrameBatch.Tensor.ElementType

/-!
Acts: steps on a state that may fail, change the state either way, and leave a trail of events. The
trail of a step does not depend on what happened before it.
-/

namespace FrameBatch

structure Level where
  rank : Int
  deriving DecidableEq, Inhabited

namespace Level

def debug : Level := ⟨10⟩
def info : Level := ⟨20⟩
def warning : Level := ⟨30⟩
def error : Level := ⟨40⟩
def critical : Level := ⟨50⟩

end Level

structure Record where
  level : Level
  logger : String
  message : String
  deriving DecidableEq, Inhabited

structure Feed where
  name : String
  type : NumberType
  shape : List Nat

inductive Call where
  | session (file : String) (providers : List String)
  | run (outputs : List String) (feeds : List Feed)
  | setProperty (device : String) (property : Value)
  | readModel (file : String)
  | setElementType (input : String) (type : ElementType)
  | setTensorLayout (input layout : String)
  | setModelLayout (input layout : String)
  | build
  | reshape (input : String) (dims : List Int)
  | compile (device : String)
  | startAsync
  | infer
  | wait
  | waitFor (milliseconds : Int)
  | deviceSynchronize

inductive Event where
  | log (record : Record)
  | call (call : Call)
  /-- an engine gave back what it held -/
  | freed

structure Outcome (σ α : Type) where
  result : Except Fault α
  state : σ
  trail : List Event

def Act (σ α : Type) : Type := σ → Outcome σ α

namespace Act

variable {σ τ α β : Type}

protected def pure (a : α) : Act σ α := fun s => ⟨.ok a, s, []⟩

protected def bind (x : Act σ α) (f : α → Act σ β) : Act σ β := fun s =>
  match x s with
  | ⟨.error e, s', trail⟩ => ⟨.error e, s', trail⟩
  | ⟨.ok a, s', trail⟩ =>
    let next := f a s'
    ⟨next.result, next.state, trail ++ next.trail⟩

instance : Monad (Act σ) where
  pure := Act.pure
  bind := Act.bind

def fail (f : Fault) : Act σ α := fun s => ⟨.error f, s, []⟩

def lift (r : Except Fault α) : Act σ α := fun s => ⟨r, s, []⟩

instance : MonadLift (Except Fault) (Act σ) := ⟨lift⟩

def get : Act σ σ := fun s => ⟨.ok s, s, []⟩

def set (s : σ) : Act σ Unit := fun _ => ⟨.ok (), s, []⟩

def modify (f : σ → σ) : Act σ Unit := fun s => ⟨.ok (), f s, []⟩

def note (e : Event) : Act σ Unit := fun s => ⟨.ok (), s, [e]⟩

def call (c : Call) : Act σ Unit := note (.call c)

def log (level : Level) (logger message : String) : Act σ Unit :=
  note (.log ⟨level, logger, message⟩)

def attempt (x : Act σ α) : Act σ (Except Fault α) := fun s =>
  let o := x s
  ⟨.ok o.result, o.state, o.trail⟩

def on (view : τ → σ) (update : σ → τ → τ) (x : Act σ α) : Act τ α := fun t =>
  let o := x (view t)
  ⟨o.result, update o.state t, o.trail⟩

/-- The act, after which `last` runs whether it failed or not. A failure of `last` counts more. -/
def andFinally (x : Act σ α) (last : Act σ Unit) : Act σ α := fun s =>
  let first := x s
  let second := last first.state
  match second.result with
  | .ok _ => ⟨first.result, second.state, first.trail ++ second.trail⟩
  | .error e => ⟨.error e, second.state, first.trail ++ second.trail⟩

@[simp]
theorem pure_apply (a : α) (s : σ) : (pure a : Act σ α) s = ⟨.ok a, s, []⟩ := rfl

@[simp]
theorem get_apply (s : σ) : (get : Act σ σ) s = ⟨.ok s, s, []⟩ := rfl

@[simp]
theorem set_apply (s t : σ) : set t s = ⟨.ok (), t, []⟩ := rfl

@[simp]
theorem modify_apply (f : σ → σ) (s : σ) : modify f s = ⟨.ok (), f s, []⟩ := rfl

@[simp]
theorem fail_apply (f : Fault) (s : σ) : (fail f : Act σ α) s = ⟨.error f, s, []⟩ := rfl

@[simp]
theorem lift_apply (r : Except Fault α) (s : σ) : lift r s = ⟨r, s, []⟩ := rfl

@[simp]
theorem note_apply (e : Event) (s : σ) : note e s = ⟨.ok (), s, [e]⟩ := rfl

theorem bind_of_ok {x : Act σ α} {s s' : σ} {a : α} {trail : List Event}
    (h : x s = ⟨.ok a, s', trail⟩) (f : α → Act σ β) :
    (x >>= f) s = ⟨(f a s').result, (f a s').state, trail ++ (f a s').trail⟩ := by
  simp [bind, Act.bind, h]

theorem bind_of_error {x : Act σ α} {s s' : σ} {e : Fault} {trail : List Event}
    (h : x s = ⟨.error e, s', trail⟩) (f : α → Act σ β) : (x >>= f) s = ⟨.error e, s', trail⟩ := by
  simp [bind, Act.bind, h]

instance : LawfulMonad (Act σ) := LawfulMonad.mk' (Act σ)
  (fun x => by
    funext s
    cases h : x s with
    | mk r s' trail => cases r <;> simp [Functor.map, Act.bind, Act.pure, h])
  (fun a f => rfl)
  (fun x f g => by
    funext s
    cases h : x s with
    | mk r s' trail =>
      cases r with
      | error e => simp [bind, Act.bind, h]
      | ok a =>
        cases h' : f a s' with
        | mk r s'' later => cases r <;> simp [bind, Act.bind, h, h'])

end Act

end FrameBatch
