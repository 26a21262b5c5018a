import FrameBatch.Proofs.Act.Upholds

namespace FrameBatch

/-- How often engines gave back what they held. -/
def freed (trail : List Event) : Nat := trail.countP fun | .freed => true | _ => false

@[simp] theorem freed_append (trail trail' : List Event) :
    freed (trail ++ trail') = freed trail + freed trail' :=
  List.countP_append

theorem freed_eq_zero {trail : List Event} (never : ∀ event ∈ trail, event ≠ .freed) :
    freed trail = 0 := by
  refine List.countP_eq_zero.2 fun event member => ?_
  cases event with
  | log _ => nofun
  | call _ => nofun
  | freed => exact absurd rfl (never _ member)

namespace Act

variable {σ τ α β : Type} {I : σ → Prop} {x : Act σ α}

/-- The act keeps what holds of the state, and frees nothing. -/
def Tame (I : σ → Prop) (x : Act σ α) : Prop := Upholds.Any I (· ≠ .freed) x

abbrev FreesNothing (x : Act σ α) : Prop := Tame (fun _ => True) x

namespace Tame

theorem keeps (tame : Tame I x) : x.Keeps I := fun _ before => tame.state before

theorem freed_eq (tame : Tame I x) {s : σ} (before : I s) : freed (x s).trail = 0 :=
  freed_eq_zero (tame.trail before)

@[grind ←]
theorem pure (a : α) : Tame I (Pure.pure a) := Upholds.pure trivial

@[grind ←]
theorem get : Tame I (Act.get : Act σ σ) := Upholds.get.any

theorem set {s : σ} (after : I s) : Tame I (Act.set s) := Upholds.set after

@[grind ←]
theorem set_any (s : σ) : FreesNothing (Act.set s) := set trivial

theorem modify {f : σ → σ} (keeps : ∀ s, I s → I (f s)) : Tame I (Act.modify f) :=
  Upholds.modify keeps

@[grind ←]
theorem modify_any (f : σ → σ) : FreesNothing (Act.modify f) := modify fun _ _ => trivial

@[grind ←]
theorem fail (f : Fault) : Tame I (Act.fail f : Act σ α) := Upholds.fail

@[grind ←]
theorem lift (r : Except Fault α) : Tame I (Act.lift r) :=
  Upholds.lift (Q := fun _ => True) fun _ _ => trivial

@[grind ←]
theorem liftM (r : Except Fault α) : Tame I (liftM r : Act σ α) := lift r

@[grind ←]
theorem log (level : Level) (logger message : String) : Tame I (Act.log level logger message) :=
  Upholds.note nofun

@[grind ←]
theorem call (c : Call) : Tame I (Act.call c) := Upholds.note nofun

@[grind ←]
theorem bind {f : α → Act σ β} (first : Tame I x) (rest : ∀ a, Tame I (f a)) :
    Tame I (x >>= f) :=
  Upholds.bind first fun a _ => rest a

@[grind ←]
theorem fail_bind (f : Fault) (g : α → Act σ β) : Tame I (Act.fail f >>= g) := Upholds.fail_bind

@[grind ←]
theorem map (f : α → β) (tame : Tame I x) : Tame I (f <$> x) := by
  rw [map_eq_pure_bind]
  exact bind tame fun _ => pure _

theorem get_bind {f : σ → Act σ β} (rest : ∀ s, I s → Tame I (f s)) : Tame I (Act.get >>= f) :=
  Upholds.bind Upholds.get rest

@[grind ←]
theorem attempt (tame : Tame I x) : Tame I x.attempt := Upholds.attempt tame

theorem on {J : τ → Prop} {view : τ → σ} {update : σ → τ → τ} (tame : Tame I x)
    (part : ∀ t, J t → I (view t)) (whole : ∀ t s', J t → I s' → J (update s' t)) :
    Tame J (x.on view update) :=
  Upholds.on tame part whole

@[grind ←]
theorem on_any {view : τ → σ} {update : σ → τ → τ} (frees : FreesNothing x) :
    FreesNothing (x.on view update) :=
  on frees (fun _ _ => trivial) fun _ _ _ _ => trivial

@[grind ←]
theorem foldlM {f : β → α → Act σ β} (each : ∀ b a, Tame I (f b a)) (b : β) (l : List α) :
    Tame I (l.foldlM f b) :=
  Upholds.foldlM each b l

@[grind ←]
theorem forM {f : α → Act σ PUnit} (each : ∀ a, Tame I (f a)) (l : List α) :
    Tame I (l.forM f) := by
  induction l with
  | nil => exact pure ()
  | cons a rest ih => exact bind (each a) fun _ => ih

@[grind ←]
theorem mapM {f : α → Act σ β} (each : ∀ a, Tame I (f a)) (l : List α) : Tame I (l.mapM f) := by
  induction l with
  | nil => exact pure []
  | cons a rest ih =>
    rw [List.mapM_cons]
    exact bind (each a) fun _ => bind ih fun _ => pure _

@[grind ←]
theorem andFinally {last : Act σ Unit} (first : Tame I x) (rest : Tame I last) :
    Tame I (x.andFinally last) where
  state := keeps_andFinally first.keeps rest.keeps _
  trail {s} before event member := by
    have whole : event ∈ (x s).trail ++ (last (x s).state).trail := by
      unfold Act.andFinally at member
      dsimp only at member
      split at member <;> exact member
    rcases List.mem_append.1 whole with here | there
    · exact first.trail before event here
    · exact rest.trail (first.state before) event there
  result _ _ _ := trivial

end Tame

theorem freed_bind_of_ends {f : α → Act σ β} {s s' : σ} {a : α} (first : x.Ends s (.ok a) s') :
    freed ((x >>= f) s).trail = freed (x s).trail + freed (f a s').trail := by
  rcases h : x s with ⟨r, middle, trail⟩
  cases (congrArg Outcome.result h).symm.trans first.result
  cases (congrArg Outcome.state h).symm.trans first.state
  rw [bind_of_ok h, freed_append]

theorem freed_bind_of_rest {f : α → Act σ β} (rest : ∀ a, FreesNothing (f a)) (s : σ) :
    freed ((x >>= f) s).trail = freed (x s).trail := by
  rcases h : x s with ⟨r, middle, trail⟩
  cases r with
  | error e => rw [bind_of_error h]
  | ok a => rw [bind_of_ok h, freed_append, (rest a).freed_eq trivial, Nat.add_zero]

theorem freed_bind_of_error {f : α → Act σ β} {s s' : σ} {e : Fault}
    (first : x.Ends s (.error e) s') : freed ((x >>= f) s).trail = freed (x s).trail := by
  rcases h : x s with ⟨r, middle, trail⟩
  cases (congrArg Outcome.result h).symm.trans first.result
  rw [bind_of_error h]

theorem freed_andFinally (x : Act σ α) (last : Act σ Unit) (s : σ) :
    freed ((x.andFinally last) s).trail =
      freed (x s).trail + freed (last (x s).state).trail := by
  unfold andFinally
  dsimp only
  split <;> exact freed_append _ _

theorem state_andFinally (x : Act σ α) (last : Act σ Unit) (s : σ) :
    ((x.andFinally last) s).state = (last (x s).state).state := by
  unfold andFinally
  dsimp only
  split <;> rfl

end Act

end FrameBatch
