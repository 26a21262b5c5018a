import FrameBatch.Pipeline.Cycle
import FrameBatch.Proofs.Act.Ends

namespace FrameBatch

variable {ε α : Type}

namespace Bench

def Holds (b : Bench ε) (name : String) (e : ε) : Prop :=
  ∃ key, b.engines.get? name = some (key, e)

def network (b : Bench ε) (key : NetworkKey) : Network := (b.networks.get? key).getD {}

def withEngine (b : Bench ε) (name : String) (e : ε) : Bench ε :=
  { b with engines := b.engines.adjust name fun (key, _) => (key, e) }

theorem Holds.unique {b : Bench ε} {name : String} {e e' : ε} (h : b.Holds name e)
    (h' : b.Holds name e') : e = e' := by
  obtain ⟨key, found⟩ := h
  obtain ⟨key', found'⟩ := h'
  rw [found] at found'
  cases found'
  rfl

theorem Holds.withEngine {b : Bench ε} {name : String} {e : ε} (h : b.Holds name e) (e' : ε) :
    (b.withEngine name e').Holds name e' := by
  obtain ⟨key, found⟩ := h
  exact ⟨key, by simp [Bench.withEngine, Entries.get?_adjust_self, found]⟩

theorem Holds.withEngine_of_ne {b : Bench ε} {name other : String} {e : ε} (h : b.Holds other e)
    (different : other ≠ name) (e' : ε) : (b.withEngine name e').Holds other e := by
  obtain ⟨key, found⟩ := h
  exact ⟨key, by simp [Bench.withEngine, Entries.get?_adjust_of_ne different, found]⟩

theorem Holds.of_withEngine {b : Bench ε} {name other : String} {e e' : ε}
    (held : (b.withEngine name e').Holds other e) (different : other ≠ name) : b.Holds other e := by
  obtain ⟨key, found⟩ := held
  simp only [Bench.withEngine, Entries.get?_adjust_of_ne different] at found
  exact ⟨key, found⟩

theorem withEngine_withEngine (b : Bench ε) (name : String) (e e' : ε) :
    (b.withEngine name e).withEngine name e' = b.withEngine name e' := by
  simp only [withEngine, Entries.adjust_adjust]
  rfl

theorem ends_onEngine {x : Act ε α} {b b' : Bench ε} {name : String} {e : ε}
    {r : Except Fault α} (held : b.Holds name e) :
    (onEngine name x).Ends b r b' ↔ ∃ e', x.Ends e r e' ∧ b' = b.withEngine name e' := by
  obtain ⟨key, found⟩ := held
  simp only [Act.Ends, onEngine, found]
  constructor
  · rintro ⟨rfl, rfl⟩
    exact ⟨_, ⟨rfl, rfl⟩, rfl⟩
  · rintro ⟨e', ⟨rfl, rfl⟩, rfl⟩
    exact ⟨rfl, rfl⟩

def withLoading (b : Bench ε) (engine descriptor : String) (network : NetworkKey)
    (l : Loading ε) : Bench ε :=
  { b with
    networks := b.networks.adjust network fun _ => l.network
    descriptors := b.descriptors.adjust descriptor fun _ => l.descriptor
    engines := b.engines.adjust engine fun (key, _) => (key, l.engine) }

theorem ends_onLoading {x : Act (Loading ε) α} {b b' : Bench ε} {engine descriptor : String}
    {network : NetworkKey} {e : ε} {d : Descriptor} {r : Except Fault α}
    (held : b.engines.get? engine = some (network, e))
    (described : b.descriptors.get? descriptor = some d) :
    (onLoading engine descriptor x).Ends b r b' ↔
      ∃ l, x.Ends ⟨d, b.network network, e⟩ r l ∧
        b' = b.withLoading engine descriptor network l := by
  simp only [Act.Ends, onLoading, held, described, Bench.network]
  constructor
  · rintro ⟨rfl, rfl⟩
    exact ⟨_, ⟨rfl, rfl⟩, rfl⟩
  · rintro ⟨l, ⟨rfl, rfl⟩, rfl⟩
    exact ⟨rfl, rfl⟩

theorem ends_onOutput {x : Act Output α} {b b' : Bench ε} {name : String} {o : Output}
    {r : Except Fault α} (found : b.outputs.get? name = some o) :
    (onOutput name x).Ends b r b' ↔
      ∃ o', x.Ends o r o' ∧ b' = { b with outputs := b.outputs.adjust name fun _ => o' } := by
  simp only [Act.Ends, onOutput, found]
  constructor
  · rintro ⟨rfl, rfl⟩
    exact ⟨_, ⟨rfl, rfl⟩, rfl⟩
  · rintro ⟨o', ⟨rfl, rfl⟩, rfl⟩
    exact ⟨rfl, rfl⟩

theorem ends_onOutput_of_none {x : Act Output α} {b b' : Bench ε} {name : String}
    {r : Except Fault α} (absent : b.outputs.get? name = none) :
    (onOutput name x).Ends b r b' ↔ r = .error (.refused (.absent name)) ∧ b' = b := by
  simp only [Act.Ends, onOutput, absent]
  exact Act.ends_fail

end Bench

namespace Site

def withEngine (s : Site ε) (name : String) (e : ε) : Site ε :=
  { s with bench := s.bench.withEngine name e }

def descriptor? (s : Site ε) : Option Descriptor :=
  s.bench.descriptors.get? s.pipeline.descriptor

theorem withEngine_withEngine (s : Site ε) (name : String) (e e' : ε) :
    (s.withEngine name e).withEngine name e' = s.withEngine name e' := by
  simp [withEngine, Bench.withEngine_withEngine]

theorem ends_onBench {x : Act (Bench ε) α} {s s' : Site ε} {r : Except Fault α} :
    (onBench x).Ends s r s' ↔ ∃ b, x.Ends s.bench r b ∧ s' = { s with bench := b } :=
  Act.ends_on

theorem ends_onEngine {x : Act ε α} {s s' : Site ε} {name : String} {e : ε} {r : Except Fault α}
    (held : s.bench.Holds name e) :
    (onEngine name x).Ends s r s' ↔ ∃ e', x.Ends e r e' ∧ s' = s.withEngine name e' := by
  simp only [onEngine, ends_onBench, Bench.ends_onEngine held]
  constructor
  · rintro ⟨b, ⟨e', ends, rfl⟩, rfl⟩
    exact ⟨e', ends, rfl⟩
  · rintro ⟨e', ends, rfl⟩
    exact ⟨_, ⟨e', ends, rfl⟩, rfl⟩

theorem onEngine_cases {x : Act ε α} {s s' : Site ε} {name : String}
    {r : Except Fault α} (h : (onEngine name x).Ends s r s') :
    s' = s ∨ ∃ e e', s.bench.Holds name e ∧ x.Ends e r e' ∧ s' = s.withEngine name e' := by
  cases found : s.bench.engines.get? name with
  | some entry =>
    have held : s.bench.Holds name entry.2 := ⟨entry.1, found⟩
    obtain ⟨e', ends, rfl⟩ := (ends_onEngine held).1 h
    exact .inr ⟨_, e', held, ends, rfl⟩
  | none =>
    obtain ⟨b, ends, rfl⟩ := ends_onBench.1 h
    simp only [Act.Ends, Bench.onEngine, found] at ends
    obtain ⟨_, rfl⟩ := ends
    exact .inl rfl

theorem ends_onEngine_bind {β γ : Type} {x : Act ε α} {f : α → Act ε β} {g : β → Act (Site ε) γ}
    {s s' : Site ε} {name : String} {e : ε} {r : Except Fault γ} (held : s.bench.Holds name e) :
    (onEngine name (x >>= f) >>= g).Ends s r s' ↔
      (onEngine name x >>= fun a => onEngine name (f a) >>= g).Ends s r s' := by
  have first : (onEngine name x).Ends s (x e).result (s.withEngine name (x e).state) :=
    (ends_onEngine held).2 ⟨_, x.ends_self e, rfl⟩
  have held' := held.withEngine (x e).state
  cases result : (x e).result with
  | error fault =>
    have whole : (x >>= f).Ends e (.error fault) (x e).state :=
      (Act.ends_bind_of_error ⟨result, rfl⟩ f).2 ⟨rfl, rfl⟩
    rw [result] at first
    rw [Act.ends_bind_of_error first,
      Act.ends_bind_of_error ((ends_onEngine held).2 ⟨_, whole, rfl⟩)]
  | ok a =>
    have rest := (f a).ends_self (x e).state
    have whole : (x >>= f).Ends e (f a (x e).state).result (f a (x e).state).state :=
      (Act.ends_bind_of_ok ⟨result, rfl⟩ f).2 rest
    have whole' := (ends_onEngine held).2 ⟨_, whole, rfl⟩
    have rest' := (ends_onEngine (s := s.withEngine name (x e).state) held').2 ⟨_, rest, rfl⟩
    rw [withEngine_withEngine] at rest'
    rw [result] at first
    rw [Act.ends_bind_of_ok first]
    cases result' : (f a (x e).state).result with
    | error fault =>
      rw [result'] at whole' rest'
      rw [Act.ends_bind_of_error whole', Act.ends_bind_of_error rest']
    | ok b =>
      rw [result'] at whole' rest'
      rw [Act.ends_bind_of_ok whole', Act.ends_bind_of_ok rest']

theorem ends_onEngine_lift_bind {β γ : Type} {x : Except Fault α} {f : α → Act ε β}
    {g : β → Act (Site ε) γ} {s s' : Site ε} {name : String} {e : ε} {r : Except Fault γ}
    (held : s.bench.Holds name e) :
    (onEngine name (liftM x >>= f) >>= g).Ends s r s' ↔
      (liftM x >>= fun a => onEngine name (f a) >>= g).Ends s r s' := by
  have same : s.withEngine name e = s := by
    obtain ⟨key, found⟩ := held
    simp [withEngine, Bench.withEngine, Entries.adjust_of_get? found]
  have first : (onEngine name (liftM x : Act ε α)).Ends s x s :=
    (ends_onEngine held).2 ⟨e, Act.ends_lift.2 ⟨rfl, rfl⟩, same.symm⟩
  rw [ends_onEngine_bind held]
  cases x with
  | error fault =>
    rw [Act.ends_bind_of_error first, Act.ends_bind_of_error (Act.ends_lift.2 ⟨rfl, rfl⟩)]
  | ok a => rw [Act.ends_bind_of_ok first, Act.ends_bind_of_ok (Act.ends_lift.2 ⟨rfl, rfl⟩)]

theorem ends_update {f : Pipeline → Pipeline} {s s' : Site ε} {r : Except Fault Unit} :
    (update f).Ends s r s' ↔ r = .ok () ∧ s' = { s with pipeline := f s.pipeline } :=
  Act.ends_modify

@[simp]
theorem ends_update_bind {f : Pipeline → Pipeline} {g : Unit → Act (Site ε) α} {s s' : Site ε}
    {r : Except Fault α} :
    (update f >>= g).Ends s r s' ↔ (g ()).Ends { s with pipeline := f s.pipeline } r s' :=
  Act.ends_bind_of_ok (ends_update.2 ⟨rfl, rfl⟩) g

theorem ends_descriptor_of_some {s : Site ε} {d : Descriptor} (found : s.descriptor? = some d) :
    descriptor.Ends s (.ok d) s := by
  rw [descriptor, Act.ends_get_bind]
  rw [descriptor?] at found
  rw [found]
  exact Act.ends_pure.2 ⟨rfl, rfl⟩

theorem ends_descriptor_of_none {s : Site ε} (absent : s.descriptor? = none) :
    descriptor.Ends s (.error (.refused (.absent s.pipeline.descriptor))) s := by
  rw [descriptor, Act.ends_get_bind]
  rw [descriptor?] at absent
  rw [absent]
  exact Act.ends_fail.2 ⟨rfl, rfl⟩

end Site

end FrameBatch
