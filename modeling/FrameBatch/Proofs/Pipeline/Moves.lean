import FrameBatch.Proofs.Pipeline.Consistent

namespace FrameBatch.Pipeline

open Backend (Uses Use Watch Lawful)

variable {ε : Type}

/-- A property of sites that goes on as the engine of a name takes steps of one kind, and does not
depend on other engines, on what concerns the batch or on the outputs. -/
structure Carried (name : String) (R : ε → ε → Prop) (P : Site ε → Prop) : Prop where
  step {s : Site ε} {other : String} {e e' : ε} (before : P s) (held : s.bench.Holds other e)
    (steps : other = name → Relation.ReflTransGen R e e') : P (s.withEngine other e')
  batch {s : Site ε} {p : Pipeline} (before : P s) (engine : p.engine = s.pipeline.engine)
    (descriptor : p.descriptor = s.pipeline.descriptor) : P { s with pipeline := p }
  outputs {s : Site ε} (before : P s) (outputs : Entries String Output) :
    P { s with bench := { s.bench with outputs } }

/-- An engine and its descriptor, after steps of one kind of the engine and growth of the
descriptor. -/
def Moves (R : ε → ε → Prop) (name : String) (d : Descriptor) (e : ε) (s : Site ε) : Prop :=
  ∃ d' e', s.pipeline.engine = some name ∧ s.descriptor? = some d' ∧ s.bench.Holds name e' ∧
    d.Grows d' ∧ Relation.ReflTransGen R e e'

theorem Moves.carried (R : ε → ε → Prop) (name : String) (d : Descriptor) (e : ε) :
    Carried name R (Moves R name d e) where
  step {s other e₁ e₂} := by
    rintro ⟨d', e', attached, described, held', grows, earlier⟩ held steps
    by_cases same : name = other
    · subst same
      cases held'.unique held
      exact ⟨d', e₂, attached, described, held.withEngine e₂, grows, earlier.trans (steps rfl)⟩
    · exact ⟨d', e', attached, described, held'.withEngine_of_ne same e₂, grows, earlier⟩
  batch {s p} := by
    rintro ⟨d', e', attached, described, held, grows, steps⟩ engine descriptor
    refine ⟨d', e', engine.trans attached, ?_, held, grows, steps⟩
    rw [Site.descriptor?] at described ⊢
    rw [← described, ← descriptor]
  outputs before _ := before

variable [Backend ε]

theorem Ready.unique {s : Site ε} {name name' : String} {d d' : Descriptor} {e e' : ε}
    (ready : Ready s name d e) (ready' : Ready s name' d' e') :
    name = name' ∧ d = d' ∧ e = e' := by
  cases ready.attached.symm.trans ready'.attached
  cases ready.described.symm.trans ready'.described
  exact ⟨rfl, rfl, ready.held.unique ready'.held⟩

/-- Whether an engine can be used depends on no more than which one is attached, its descriptor and
the engines at the bench. -/
theorem Ready.congr {s s' : Site ε} {name : String} {d : Descriptor} {e : ε}
    (ready : Ready s name d e) (engine : s'.pipeline.engine = s.pipeline.engine)
    (descriptor : s'.descriptor? = s.descriptor?) (engines : s'.bench.engines = s.bench.engines) :
    Ready s' name d e where
  attached := engine.trans ready.attached
  described := descriptor.trans ready.described
  held := by
    obtain ⟨key, found⟩ := ready.held
    exact ⟨key, by rw [engines, found]⟩
  loaded := ready.loaded

theorem Ready.not_unready {s : Site ε} {name : String} {d : Descriptor} {e : ε} {f : Fault}
    (ready : Ready s name d e) : ¬ Unready s f := by
  intro unready
  cases unready with
  | undescribed absent => cases ready.described.symm.trans absent
  | unloaded _ idle =>
    have loaded := ready.loaded
    rw [idle name e ready.attached ready.held] at loaded
    cases loaded

theorem Unready.unique {s : Site ε} {f f' : Fault} (unready : Unready s f)
    (unready' : Unready s f') : f = f' := by
  cases unready with
  | undescribed absent =>
    cases unready' with
    | undescribed _ => rfl
    | unloaded described _ => cases described.symm.trans absent
  | unloaded described _ =>
    cases unready' with
    | undescribed absent => cases described.symm.trans absent
    | unloaded described' _ =>
      cases described.symm.trans described'
      rfl

theorem Unready.runtime {s : Site ε} {f : Fault} {d : Descriptor} (unready : Unready s f)
    (described : s.descriptor? = some d) : f.isRuntime = true := by
  cases unready with
  | undescribed absent => cases described.symm.trans absent
  | unloaded _ _ => rfl

section

variable [Resizer]

/-- How placing a frame ends: the bound input is read, and written back with the frame in one slot
unless the frame was refused. -/
inductive PlaceEnds (d : Descriptor) (frame : Frame) (scale : Value) (slot : Nat) (e : ε) :
    Except Fault Unit → ε → Prop
  | unread {f : Fault} {r : Except Fault Tensor} {e' : ε}
    (reads : (Backend.tensor d.input).Ends e r e') :
    PlaceEnds d frame scale slot e (.error f) e'
  | written {old loaded : Tensor} {e₁ e₂ : ε} {r : Except Fault Unit}
    (reads : (Backend.tensor d.input).Ends e (.ok old) e₁)
    (loads : old.loadFrame frame scale (.int slot) = .ok loaded)
    (ends : (Backend.setTensor d.input loaded).Ends e₁ r e₂) :
    PlaceEnds d frame scale slot e r e₂

theorem place_cases {d : Descriptor} {frame : Frame} {scale : Value} {slot : Nat} {e e' : ε}
    {r : Except Fault Unit} (h : (place d frame scale slot).Ends e r e') :
    PlaceEnds d frame scale slot e r e' := by
  rcases Act.ends_bind.1 h with ⟨batch, e₁, reads, h⟩ | ⟨f, rfl, reads⟩
  · rcases Act.ends_bind.1 h with ⟨loaded, e₂, loads, writes⟩ | ⟨f, rfl, loads⟩
    · obtain ⟨same, rfl⟩ := Act.ends_lift.1 loads
      exact .written reads same.symm writes
    · obtain ⟨_, rfl⟩ := Act.ends_lift.1 loads
      exact .unread reads
  · exact .unread reads

theorem uses_place {d : Descriptor} {frame : Frame} {scale : Value} {slot : Nat} {e e' : ε}
    {r : Except Fault Unit} (h : (place d frame scale slot).Ends e r e') : Uses e e' := by
  cases place_cases h with
  | unread reads => exact .single (.reads reads)
  | written reads loads ends => exact .single (.writes reads ends (Tensor.shape_loadFrame loads))

end

/-- An engine and its descriptor, after the engine was used and the descriptor bound further. -/
def Follows (name : String) (d : Descriptor) (e : ε) (s : Site ε) : Prop :=
  ∃ d' e', s.pipeline.engine = some name ∧ s.descriptor? = some d' ∧ s.bench.Holds name e' ∧
    d.Extends d' ∧ Uses e e'

theorem Follows.ready [Lawful ε] {s s' : Site ε} {name : String} {d : Descriptor} {e : ε}
    (follows : Follows name d e s') (ready : Ready s name d e) :
    ∃ d' e', Ready s' name d' e' ∧ d.Extends d' ∧ Uses e e' := by
  obtain ⟨d', e', attached, described, held, further, uses⟩ := follows
  exact ⟨d', e', ⟨attached, described, held, Backend.loaded_of_uses uses ready.loaded⟩, further,
    uses⟩

namespace Moves

variable {R : ε → ε → Prop} {s : Site ε} {name : String} {d : Descriptor} {e : ε}

theorem refl (ready : Ready s name d e) : Moves R name d e s :=
  ⟨d, e, ready.attached, ready.described, ready.held, .refl d, .refl⟩

theorem follows (moves : Moves Use name d e s) : Follows name d e s := by
  obtain ⟨d', e', attached, described, held, grows, uses⟩ := moves
  exact ⟨d', e', attached, described, held, grows.keeps, uses⟩

theorem ready [Lawful ε] (moves : Moves R name d e s) (use : ∀ {e e'}, R e e' → Use e e')
    (loaded : Backend.isLoaded e = true) :
    ∃ d' e', Ready s name d' e' ∧ d.Grows d' ∧ Relation.ReflTransGen R e e' := by
  obtain ⟨d', e', attached, described, held, grows, steps⟩ := moves
  have uses : Uses e e' := Relation.ReflTransGen.mono (fun _ _ => use) _ _ steps
  exact ⟨d', e', ⟨attached, described, held, Backend.loaded_of_uses uses loaded⟩, grows, steps⟩

end Moves

section

variable {R : ε → ε → Prop} {P : Site ε → Prop} {s s' : Site ε} {name : String} {d : Descriptor}
  {e : ε}

theorem AskEnds.carried {α : Type} {x : Act ε α} {r : Except Fault α} (h : AskEnds x s r s')
    (carried : Carried name R P)
    (steps : ∀ {e₁ r e₂}, x.Ends e₁ r e₂ → Relation.ReflTransGen R e₁ e₂) (before : P s) :
    P s' := by
  cases h with
  | unready _ => exact before
  | asked ready ends => exact carried.step before ready.held fun _ => steps ends

theorem EnqueueEnds.carried [Resizer] {frame : Frame} {location : Value} {r : Except Fault Bool}
    (h : EnqueueEnds s frame location r s') (carried : Carried name R P)
    (places : ∀ {d e r e'}, Ready s name d e → s.pipeline.stage ≠ .submitted →
      (place d frame s.pipeline.scale s.pipeline.enqueued).Ends e r e' →
      Relation.ReflTransGen R e e')
    (before : P s) : P s' := by
  cases h with
  | failed ready resting _ _ ends =>
    refine carried.step before ready.held ?_
    rintro rfl
    exact places ready resting ends
  | accepted ready resting _ _ ends =>
    refine carried.batch (carried.step before ready.held ?_) rfl rfl
    rintro rfl
    exact places ready resting ends
  | _ => exact before

theorem ExecuteEnds.carried {run : Act ε Unit} {done : Bool} {r : Except Fault Bool}
    (h : ExecuteEnds run done s r s') (carried : Carried name R P)
    (runs : ∀ {d e r e'}, Ready s name d e → s.pipeline.stage ≠ .submitted →
      (s.pipeline.decoder.prepare d >>= fun _ => run).Ends e r e' →
      Relation.ReflTransGen R e e')
    (before : P s) : P s' := by
  cases h with
  | failed ready resting _ ends =>
    refine carried.step before ready.held ?_
    rintro rfl
    exact runs ready resting ends
  | started ready resting _ ends =>
    refine carried.batch (carried.step before ready.held ?_) rfl rfl
    rintro rfl
    exact runs ready resting ends
  | _ => exact before

theorem WaitEnds.carried {timeout : Value} {r : Except Fault Bool} (h : WaitEnds s timeout r s')
    (carried : Carried name R P) (watch : ∀ {e e'}, Watch e e' → R e e') (before : P s) : P s' := by
  have steps {e₁ e₂ : ε} {r : Except Fault Bool} (ends : (Backend.wait timeout).Ends e₁ r e₂) :
      Relation.ReflTransGen R e₁ e₂ := .single (watch (.waits ends))
  cases h with
  | idle => exact before
  | known => exact before
  | answered _ _ asks => exact carried.batch (asks.carried carried steps before) rfl rfl
  | failed _ _ asks _ => exact carried.batch (asks.carried carried steps before) rfl rfl
  | broken _ _ asks _ => exact asks.carried carried steps before

theorem WaitEnds.frame {timeout : Value} {r : Except Fault Bool} (h : WaitEnds s timeout r s') :
    ∃ stage enqueued pending done,
      s'.pipeline = { s.pipeline with stage, enqueued, pending, done } := by
  cases h with
  | idle => exact ⟨_, _, _, _, rfl⟩
  | known => exact ⟨_, _, _, _, rfl⟩
  | answered _ _ asks => exact ⟨_, _, _, _, by rw [told, asks.pipeline]⟩
  | failed _ _ asks _ => exact ⟨_, _, _, _, by rw [dropped, cleared, asks.pipeline]⟩
  | broken _ _ asks _ => exact ⟨_, _, _, _, asks.pipeline⟩

theorem WaitEnds.decoder {timeout : Value} {r : Except Fault Bool} (h : WaitEnds s timeout r s') :
    s'.pipeline.decoder = s.pipeline.decoder := by
  obtain ⟨_, _, _, _, frame⟩ := h.frame
  rw [frame]

theorem WaitEnds.outputs {timeout : Value} {r : Except Fault Bool} (h : WaitEnds s timeout r s') :
    s'.pipeline.outputs = s.pipeline.outputs := by
  obtain ⟨_, _, _, _, frame⟩ := h.frame
  rw [frame]

theorem WaitEnds.descriptor? {timeout : Value} {r : Except Fault Bool}
    (h : WaitEnds s timeout r s') : s'.descriptor? = s.descriptor? := by
  cases h with
  | idle => rfl
  | known => rfl
  | answered _ _ asks => exact asks.descriptor?
  | failed _ _ asks _ => exact asks.descriptor?
  | broken _ _ asks _ => exact asks.descriptor?

theorem WaitEnds.ready [Lawful ε] {timeout : Value} {r : Except Fault Bool}
    (h : WaitEnds s timeout r s') (ready : Ready s name d e) :
    ∃ e', Ready s' name d e' ∧ Backend.Watches e e' := by
  obtain ⟨d', e', ready', _, watches⟩ :=
    (h.carried (Moves.carried Watch name d e) id (.refl ready)).ready Watch.use ready.loaded
  cases (h.descriptor?.trans ready.described).symm.trans ready'.described
  exact ⟨e', ready', watches⟩

theorem WaitEnds.pipeline_of_ok {timeout : Value} (h : WaitEnds s timeout (.ok true) s') :
    s'.pipeline = { s.pipeline with done := true } := by
  cases h with
  | known _ done => rw [← done]
  | answered _ _ asks => rw [told, asks.pipeline]

theorem DecodeEnds.frame {r : Except Fault (List Result)} (h : DecodeEnds s r s') :
    ∃ pending, s'.pipeline = { s.pipeline with pending } := by
  cases h <;> exact ⟨_, rfl⟩

theorem DecodeEnds.carried {r : Except Fault (List Result)} (h : DecodeEnds s r s')
    (carried : Carried name R P) (builtin : s.pipeline.decoder.Builtin)
    (watch : ∀ {e e'}, Watch e e' → R e e') (before : P s) : P s' := by
  cases h with
  | unready _ => exact before
  | decoded ready ends =>
    have steps := Relation.ReflTransGen.mono (fun _ _ => watch) _ _ (builtin.decode_keeps ends).1
    exact carried.batch (carried.step before ready.held fun _ => steps) rfl rfl

theorem FetchEnds.carried {r : Except Fault Bool} (h : FetchEnds s r s')
    (carried : Carried name R P) (builtin : s.pipeline.decoder.Builtin)
    (watch : ∀ {e e'}, Watch e e' → R e e') (before : P s) : P s' := by
  have decoding {waited read : Site ε} {r : Except Fault (List Result)}
      (waits : WaitEnds s (.int 0) (.ok true) waited) (decodes : DecodeEnds waited r read) :
      P read := by
    rw [← waits.decoder] at builtin
    exact decodes.carried carried builtin watch (waits.carried carried watch before)
  cases h with
  | idle => exact before
  | early submitted asks _ => exact (isOver_cases submitted asks).carried carried watch before
  | failed submitted asks decodes _ =>
    exact carried.batch (decoding (isOver_cases submitted asks) decodes) rfl rfl
  | broken submitted asks decodes _ => exact decoding (isOver_cases submitted asks) decodes
  | fetched submitted asks decodes delivers =>
    obtain ⟨outputs, rfl⟩ := deliver_frame delivers
    have read := decoding (isOver_cases submitted asks) decodes
    exact carried.outputs (s := withResults _ _) (carried.batch read rfl rfl) outputs

end

section

variable {s s' : Site ε}

theorem EnqueueEnds.flying [Resizer] {frame : Frame} {location : Value} {r : Except Fault Bool}
    (h : EnqueueEnds s frame location r s') (flying : s.pipeline.stage = .submitted) : s' = s := by
  cases h <;> first | rfl | contradiction

theorem ExecuteEnds.flying {run : Act ε Unit} {done : Bool} {r : Except Fault Bool}
    (h : ExecuteEnds run done s r s') (flying : s.pipeline.stage = .submitted) : s' = s := by
  cases h <;> first | rfl | contradiction

theorem AskEnds.quiet {α : Type} {x : Act ε α} {r : Except Fault α} (h : AskEnds x s r s')
    (quiet : Quiet s) : Quiet s' := by
  cases h <;> exact quiet

theorem EnqueueEnds.quiet [Resizer] {frame : Frame} {location : Value} {r : Except Fault Bool}
    (h : EnqueueEnds s frame location r s') (quiet : Quiet s) : Quiet s' := by
  cases h <;> exact quiet

theorem ExecuteEnds.quiet {run : Act ε Unit} {done : Bool} {r : Except Fault Bool}
    (h : ExecuteEnds run done s r s') (quiet : Quiet s) : Quiet s' := by
  cases h <;> exact quiet

theorem WaitEnds.quiet {timeout : Value} {r : Except Fault Bool} (h : WaitEnds s timeout r s')
    (quiet : Quiet s) : Quiet s' := by
  cases h with
  | idle => exact quiet
  | known => exact quiet
  | answered _ _ asks => exact asks.quiet quiet
  | failed _ _ asks _ => exact asks.quiet quiet
  | broken _ _ asks _ => exact asks.quiet quiet

theorem DecodeEnds.quiet {r : Except Fault (List Result)} (h : DecodeEnds s r s')
    (quiet : Quiet s) : Quiet s' := by
  cases h <;> exact quiet

theorem AttachEnds.quiet {engine : String} {r : Except Fault Unit} (h : AttachEnds s engine r s')
    (quiet : Quiet s) : Quiet s' := by
  cases h <;> exact quiet

theorem DecodeEnds.outputs {r : Except Fault (List Result)} (h : DecodeEnds s r s') :
    s'.pipeline.outputs = s.pipeline.outputs := by
  obtain ⟨_, frame⟩ := h.frame
  rw [frame]

theorem delivers_quiet {waited read : Site ε} {timeout : Value} {answer : Except Fault Bool}
    {results : List Result} {delivery : Except Fault Unit} (quiet : Quiet s)
    (waits : WaitEnds s timeout answer waited) (decodes : DecodeEnds waited (.ok results) read)
    (delivers : (deliver results s.pipeline.outputs).Ends (withResults read results) delivery s') :
    delivery = .ok () ∧ Quiet s' := by
  have registered := decodes.outputs.trans waits.outputs
  refine deliver_quiet (s := withResults read results) (decodes.quiet (waits.quiet quiet)) ?_
    delivers
  intro name member
  rwa [← registered] at member

end

theorem fitting_cases [Lawful ε] {e : ε} {d : Descriptor} {network : Network} {l : Loading ε}
    {r : Except Fault Unit} (h : (fitting e).Ends ⟨d, network, e⟩ r l) :
    d.Grows l.descriptor ∧ (Backend.isLoaded e = true → l.engine = e) ∧
      (r = .ok () → Backend.isLoaded l.engine = true ∧ l.descriptor.Plays network) := by
  unfold fitting at h
  cases loaded : Backend.isLoaded e with
  | true =>
    rw [loaded, if_pos rfl] at h
    obtain ⟨⟨d', network'⟩, accepts, rfl⟩ := Act.ends_on.1 h
    obtain ⟨grows, plays⟩ := Descriptor.accept_cases accepts
    exact ⟨grows, fun _ => rfl, fun ok => ⟨loaded, plays ok⟩⟩
  | false =>
    rw [loaded, if_neg (by simp)] at h
    obtain ⟨r', network', accepts, good⟩ := Lawful.load_fits h
    obtain ⟨grows, plays⟩ := Descriptor.accept_cases accepts
    refine ⟨grows, by simp, fun ok => ⟨?_, plays (good ok)⟩⟩
    subst ok
    exact Lawful.loaded_of_load h

theorem AttachEnds.carried {R : ε → ε → Prop} {P : Site ε → Prop} {s s' : Site ε}
    {name engine : String} {r : Except Fault Unit} (h : AttachEnds s engine r s')
    (carried : Carried name R P) (watch : ∀ {e e'}, Watch e e' → R e e')
    (loads : ∀ {e d key l r}, s.bench.engines.get? engine = some (key, e) →
      s.descriptor? = some d → (fitting e).Ends ⟨d, s.bench.network key, e⟩ r l →
      P (s.withLoading engine key l))
    (attaches : r = .ok () → ∀ {s₁}, P s₁ →
      P { s₁ with pipeline := s.pipeline.withEngine engine })
    (before : P s) : P s' := by
  cases h with
  | missing _ => exact before
  | undescribed _ _ => exact before
  | unfit found described fits => exact loads found described fits
  | unread found described fits reads =>
    exact carried.step (loads found described fits)
      (Site.holds_withLoading ⟨_, found⟩ _ _) fun _ => .single (watch (.reads reads))
  | rejected found described fits reads _ =>
    exact carried.step (loads found described fits)
      (Site.holds_withLoading ⟨_, found⟩ _ _) fun _ => .single (watch (.reads reads))
  | attached found described fits reads _ =>
    exact attaches rfl (carried.step (loads found described fits)
      (Site.holds_withLoading ⟨_, found⟩ _ _) fun _ => .single (watch (.reads reads)))

theorem Moves.loading [Lawful ε] {R : ε → ε → Prop} {s : Site ε} {name engine : String}
    {d d₁ : Descriptor} {e e₁ : ε} {key : NetworkKey} {l : Loading ε} {r : Except Fault Unit}
    (ready : Ready s name d e) (found : s.bench.engines.get? engine = some (key, e₁))
    (described : s.descriptor? = some d₁)
    (fits : (fitting e₁).Ends ⟨d₁, s.bench.network key, e₁⟩ r l) :
    Moves R name d e (s.withLoading engine key l) := by
  have held : s.bench.Holds engine e₁ := ⟨key, found⟩
  obtain ⟨grows, same, _⟩ := fitting_cases fits
  cases described.symm.trans ready.described
  refine ⟨l.descriptor, e, ready.attached, Site.descriptor?_withLoading described _ _ _, ?_,
    grows, .refl⟩
  by_cases here : name = engine
  · subst here
    cases held.unique ready.held
    have kept := Site.holds_withLoading held key l
    rwa [same ready.loaded] at kept
  · exact Site.holds_withLoading_of_ne ready.held here key l

theorem AttachEnds.ready [Lawful ε] {s s' : Site ε} {engine : String}
    (h : AttachEnds s engine (.ok ()) s') :
    ∃ d e t e' key e₀, Ready s' engine d e' ∧ s.bench.engines.get? engine = some (key, e₀) ∧
      d.Plays (s.bench.network key) ∧ (Backend.tensor d.input).Ends e (.ok t) e' ∧
      checkInput d.input s'.pipeline.maxBatch t = .ok () := by
  cases h with
  | attached found described fits reads accepts =>
    rename_i e e' d key l t
    have held : s.bench.Holds engine e := ⟨key, found⟩
    obtain ⟨_, _, good⟩ := fitting_cases fits
    obtain ⟨loaded, plays⟩ := good rfl
    refine ⟨l.descriptor, l.engine, t, e', key, e, ⟨rfl, ?_, ?_, ?_⟩, found, plays, reads, accepts⟩
    · exact Site.descriptor?_withLoading described engine key l
    · exact (Site.holds_withLoading held key l).withEngine e'
    · exact Lawful.loaded_of_use loaded (.reads reads)

section

variable [Resizer]

theorem Entry.pipeline_of_attach {entry : Entry ε} {engine : String}
    (attach : entry.turn = .command (.attach engine)) (ok : entry.answer = .ok true) :
    entry.after.pipeline = entry.before.pipeline.withEngine engine := by
  have ends := entry.ends
  rw [attach, ok] at ends
  obtain ⟨r, attaches, same⟩ := attach_command_cases ends
  generalize entry.after = s' at attaches ⊢
  cases r with
  | error f => cases same
  | ok _ =>
    cases attaches
    rfl

theorem Entry.ready_of_attach [Lawful ε] {entry : Entry ε} {engine : String}
    (attach : entry.turn = .command (.attach engine)) (ok : entry.answer = .ok true) :
    ∃ d e t e' key e₀, Ready entry.after engine d e' ∧
      entry.before.bench.engines.get? engine = some (key, e₀) ∧
      d.Plays (entry.before.bench.network key) ∧ (Backend.tensor d.input).Ends e (.ok t) e' ∧
      checkInput d.input entry.after.pipeline.maxBatch t = .ok () := by
  have ends := entry.ends
  rw [attach, ok] at ends
  obtain ⟨r, attaches, same⟩ := attach_command_cases ends
  cases r with
  | error f => cases same
  | ok _ => exact attaches.ready

/-- A turn at the bench loads an engine, places a frame, runs the batch or watches an engine. -/
theorem Turn.carried {R : ε → ε → Prop} {P : Site ε → Prop} {turn : Turn ε} {s s' : Site ε}
    {r : Except Fault Bool} {name : String} (h : turn.act.Ends s r s') (carried : Carried name R P)
    (builtin : s.pipeline.decoder.Builtin) (here : ∀ b, turn ≠ .elsewhere b)
    (watch : ∀ {e e'}, Watch e e' → R e e')
    (loads : ∀ {engine e d key l r}, turn = .command (.attach engine) →
      s.bench.engines.get? engine = some (key, e) → s.descriptor? = some d →
      (fitting e).Ends ⟨d, s.bench.network key, e⟩ r l → P (s.withLoading engine key l))
    (attaches : ∀ {engine}, turn = .command (.attach engine) → r = .ok true → ∀ {s₁}, P s₁ →
      P { s₁ with pipeline := s.pipeline.withEngine engine })
    (places : ∀ {frame location}, turn = .command (.enqueue frame location) →
      ∀ {d e r e'}, Ready s name d e → s.pipeline.stage ≠ .submitted →
      (place d frame s.pipeline.scale s.pipeline.enqueued).Ends e r e' →
      Relation.ReflTransGen R e e')
    (runs : ∀ {run : Act ε Unit},
      turn = .command .submit ∧ run = Backend.start ∨
        turn = .command .synchronize ∧ run = Backend.infer →
      ∀ {d e r e'}, Ready s name d e → s.pipeline.stage ≠ .submitted →
      (s.pipeline.decoder.prepare d >>= fun _ => run).Ends e r e' →
      Relation.ReflTransGen R e e')
    (before : P s) : P s' := by
  cases turn with
  | command c =>
    cases c with
    | attach engine =>
      obtain ⟨r', attached, rfl⟩ := attach_command_cases h
      refine attached.carried carried watch (loads rfl) (fun ok => ?_) before
      exact attaches rfl (by rw [ok]; rfl)
    | enqueue frame location => exact (enqueue_cases h).carried carried (places rfl) before
    | submit => exact (execute_cases h).carried carried (runs (.inl ⟨rfl, rfl⟩)) before
    | synchronize => exact (execute_cases h).carried carried (runs (.inr ⟨rfl, rfl⟩)) before
    | wait timeout => exact (wait_cases h).carried carried watch before
    | fetch => exact (fetch_cases h).carried carried builtin watch before
    | observe output =>
      rcases observe_command_cases h with rfl | ⟨_, rfl⟩
      · exact before
      · refine carried.batch before ?_ ?_ <;> simp only [observe] <;> split <;> rfl
  | direct engine timeout =>
    rcases Site.onEngine_cases h with rfl | ⟨e₁, e₂, held, waits, rfl⟩
    · exact before
    · exact carried.step before held fun _ => .single (watch (.waits waits))
  | release engine =>
    rcases release_cases h with rfl | ⟨e₁, held, rfl⟩
    · exact before
    · exact carried.step before held fun _ => .single (watch (.released e₁))
  | elsewhere b => exact absurd rfl (here b)

/-- A turn that attaches no engine moves the attached one by watching it, unless it places a frame
or runs the batch; the descriptor grows at most. -/
theorem Turn.moves [Lawful ε] {R : ε → ε → Prop} {turn : Turn ε} {s s' : Site ε}
    {r : Except Fault Bool} {name : String} {d : Descriptor} {e : ε} (h : turn.act.Ends s r s')
    (builtin : s.pipeline.decoder.Builtin) (here : ∀ b, turn ≠ .elsewhere b)
    (kept : ∀ engine, turn = .command (.attach engine) → r ≠ .ok true)
    (watch : ∀ {e e'}, Watch e e' → R e e')
    (places : ∀ {frame location}, turn = .command (.enqueue frame location) →
      s.pipeline.stage ≠ .submitted → ∀ {r e'},
      (place d frame s.pipeline.scale s.pipeline.enqueued).Ends e r e' →
      Relation.ReflTransGen R e e')
    (runs : ∀ {run : Act ε Unit},
      turn = .command .submit ∧ run = Backend.start ∨
        turn = .command .synchronize ∧ run = Backend.infer →
      s.pipeline.stage ≠ .submitted → ∀ {r e'},
      (s.pipeline.decoder.prepare d >>= fun _ => run).Ends e r e' →
      Relation.ReflTransGen R e e')
    (ready : Ready s name d e) : Moves R name d e s' := by
  refine Turn.carried h (Moves.carried R name d e) builtin here watch (fun _ => .loading ready)
    ?_ ?_ ?_ (.refl ready)
  · intro engine attach ok
    exact absurd ok (kept engine attach)
  · intro frame location enqueue _ _ _ _ ready' resting ends
    obtain ⟨_, rfl, rfl⟩ := ready.unique ready'
    exact places enqueue resting ends
  · intro run kind _ _ _ _ ready' resting ends
    obtain ⟨_, rfl, rfl⟩ := ready.unique ready'
    exact runs kind resting ends

theorem Turn.engine {turn : Turn ε} {s s' : Site ε} {r : Except Fault Bool}
    (h : turn.act.Ends s r s') (builtin : s.pipeline.decoder.Builtin)
    (here : ∀ b, turn ≠ .elsewhere b)
    (kept : ∀ engine, turn = .command (.attach engine) → r ≠ .ok true) :
    s'.pipeline.engine = s.pipeline.engine := by
  have carried : Carried "" (fun _ _ : ε => True)
      (fun s' : Site ε => s'.pipeline.engine = s.pipeline.engine) :=
    ⟨fun before _ _ => before, fun before same _ => same.trans before, fun before _ => before⟩
  refine Turn.carried h carried builtin here (fun _ => trivial) (fun _ _ _ _ => rfl) ?_
    (fun _ _ _ _ _ _ _ _ => .single trivial) (fun _ _ _ _ _ _ _ _ => .single trivial) rfl
  intro engine attach ok
  exact absurd ok (kept engine attach)

/-- As long as no engine is attached and nothing happens elsewhere, the attached engine is used. -/
theorem Turn.follows [Lawful ε] {turn : Turn ε} {s s' : Site ε} {r : Except Fault Bool}
    {name : String} {d : Descriptor} {e : ε} (h : turn.act.Ends s r s')
    (builtin : s.pipeline.decoder.Builtin) (here : ∀ b, turn ≠ .elsewhere b)
    (kept : ∀ engine, turn = .command (.attach engine) → r ≠ .ok true)
    (ready : Ready s name d e) : Follows name d e s' := by
  refine (Turn.moves h builtin here kept Watch.use (fun _ _ _ _ => uses_place) ?_ ready).follows
  intro run kind _ r' e' ends
  have uses {e₁ : ε} (runs : run.Ends e₁ r' e') : Uses e₁ e' := by
    rcases kind with ⟨_, rfl⟩ | ⟨_, rfl⟩
    · exact .single (.starts runs)
    · exact .single (.infers runs)
  rcases Act.ends_bind.1 ends with ⟨_, middle, prepares, runs⟩ | ⟨_, _, prepares⟩
  · exact (Decoder.uses_prepare prepares).trans (uses runs)
  · exact Decoder.uses_prepare prepares

end

theorem AttachEnds.pipeline {s s' : Site ε} {engine : String} {f : Fault}
    (h : AttachEnds s engine (.error f) s') : s'.pipeline = s.pipeline := by
  cases h <;> rfl

theorem Turn.unattached [Resizer] {turn : Turn ε} {s s' : Site ε} {r : Except Fault Bool}
    {origin : Pipeline} (h : turn.act.Ends s r s') (sound : Sound origin s.pipeline)
    (bare : s.pipeline.engine = none) (empty : s.pipeline.enqueued = 0)
    (kept : ∀ engine, turn = .command (.attach engine) → r ≠ .ok true) :
    s'.pipeline.engine = none ∧ s'.pipeline.enqueued = 0 := by
  have unready {name : String} {d : Descriptor} {e : ε} : ¬ Ready s name d e := by
    intro ready
    cases bare.symm.trans ready.attached
  have resting : s.pipeline.stage ≠ .submitted := fun submitted => by
    have := sound.filled.1 (.inr submitted)
    omega
  have executed {run : Act ε Unit} {done : Bool} (h : ExecuteEnds run done s r s') :
      s'.pipeline.engine = none ∧ s'.pipeline.enqueued = 0 := by
    cases h with
    | unready _ => exact ⟨bare, empty⟩
    | needless ready _ => exact absurd ready unready
    | failed ready _ _ _ => exact absurd ready unready
    | started ready _ _ _ => exact absurd ready unready
  cases turn with
  | command c =>
    cases c with
    | attach engine =>
      obtain ⟨r', attaches, rfl⟩ := attach_command_cases h
      cases r' with
      | ok _ => exact absurd rfl (kept engine rfl)
      | error f =>
        rw [attaches.pipeline]
        exact ⟨bare, empty⟩
    | enqueue frame location =>
      cases enqueue_cases h with
      | unready _ => exact ⟨bare, empty⟩
      | refused ready _ => exact absurd ready unready
      | misplaced ready _ _ _ => exact absurd ready unready
      | failed ready _ _ _ _ => exact absurd ready unready
      | accepted ready _ _ _ _ => exact absurd ready unready
    | submit => exact executed (execute_cases h)
    | synchronize => exact executed (execute_cases h)
    | wait timeout =>
      cases wait_cases h with
      | idle _ => exact ⟨bare, empty⟩
      | _ => contradiction
    | fetch =>
      cases fetch_cases h with
      | idle _ _ => exact ⟨bare, empty⟩
      | _ => contradiction
    | observe output =>
      rcases observe_command_cases h with rfl | ⟨_, rfl⟩
      · exact ⟨bare, empty⟩
      · simp only [observe]
        split <;> exact ⟨bare, empty⟩
  | direct engine timeout =>
    rcases Site.onEngine_cases h with rfl | ⟨_, _, _, _, rfl⟩ <;> exact ⟨bare, empty⟩
  | release engine =>
    rcases release_cases h with rfl | ⟨_, _, rfl⟩ <;> exact ⟨bare, empty⟩
  | elsewhere b =>
    rw [elsewhere_state h]
    exact ⟨bare, empty⟩

theorem Turn.submitted_cases [Resizer] {turn : Turn ε} {s s' : Site ε} {r : Except Fault Bool}
    (h : turn.act.Ends s r s') (resting : s.pipeline.stage ≠ .submitted)
    (submitted : s'.pipeline.stage = .submitted) :
    r = .ok true ∧ ∃ name d e e', Ready s name d e ∧
      (turn = .command .submit ∧
          (s.pipeline.decoder.prepare d >>= fun _ => Backend.start).Ends e (.ok ()) e' ∧
          s' = { s.withEngine name e' with pipeline := s.pipeline.withRun false } ∨
        turn = .command .synchronize ∧
          (s.pipeline.decoder.prepare d >>= fun _ => Backend.infer).Ends e (.ok ()) e' ∧
          s' = { s.withEngine name e' with pipeline := s.pipeline.withRun true }) := by
  cases turn with
  | command c =>
    cases c with
    | attach engine =>
      obtain ⟨r', attaches, _⟩ := attach_command_cases h
      cases r' with
      | ok _ =>
        cases attaches
        cases submitted
      | error f => exact absurd (attaches.pipeline ▸ submitted) resting
    | enqueue frame location =>
      cases enqueue_cases h with
      | accepted _ _ _ _ _ => cases submitted
      | _ => exact absurd submitted resting
    | submit =>
      cases execute_cases h with
      | started ready _ _ runs => exact ⟨rfl, _, _, _, _, ready, .inl ⟨rfl, runs, rfl⟩⟩
      | _ => exact absurd submitted resting
    | synchronize =>
      cases execute_cases h with
      | started ready _ _ runs => exact ⟨rfl, _, _, _, _, ready, .inr ⟨rfl, runs, rfl⟩⟩
      | _ => exact absurd submitted resting
    | wait timeout =>
      cases wait_cases h with
      | idle _ => exact absurd submitted resting
      | _ => contradiction
    | fetch =>
      cases fetch_cases h with
      | idle _ _ => exact absurd submitted resting
      | _ => contradiction
    | observe output =>
      rcases observe_command_cases h with rfl | ⟨_, rfl⟩
      · exact absurd submitted resting
      · simp only [observe] at submitted
        split at submitted <;> exact absurd submitted resting
  | direct engine timeout =>
    rcases Site.onEngine_cases h with rfl | ⟨_, _, _, _, rfl⟩ <;> exact absurd submitted resting
  | release engine =>
    rcases release_cases h with rfl | ⟨_, _, rfl⟩ <;> exact absurd submitted resting
  | elsewhere b =>
    rw [elsewhere_state h] at submitted
    exact absurd submitted resting

/-- Either no engine was attached yet, or one is in use with which the descriptor has a property. -/
def Attached (Q : Descriptor → ε → Prop) (s : Site ε) : Prop :=
  s.pipeline.engine = none ∧ s.pipeline.enqueued = 0 ∨ ∃ name d e, Ready s name d e ∧ Q d e

section

variable [Resizer]

/-- What others do at the bench is no more than to use the attached engine. -/
def Undisturbed (entry : Entry ε) : Prop :=
  ∀ b name d e, entry.turn = .elsewhere b → Ready entry.before name d e →
    Follows name d e entry.after

/-- A property that attaching an engine brings about and that use keeps is one of every attached
engine. -/
theorem History.attached [Lawful ε] {Q : Descriptor → ε → Prop}
    (stable : ∀ {d d' e e'}, Q d e → d.Extends d' → Uses e e' → Q d' e') {start s : Site ε}
    {past : List (Entry ε)} (fresh : Fresh start) (history : History start past s)
    (undisturbed : ∀ entry ∈ past, Undisturbed entry)
    (established : ∀ entry ∈ past, ∀ engine, entry.turn = .command (.attach engine) →
      entry.answer = .ok true → ∃ name d e, Ready entry.after name d e ∧ Q d e) :
    Attached Q s := by
  induction history with
  | start => exact .inl (by rw [fresh.made]; exact ⟨rfl, rfl⟩)
  | @turn past s earlier turn ih =>
    have before := ih (fun entry member => undisturbed entry (List.mem_cons_of_mem _ member))
      fun entry member => established entry (List.mem_cons_of_mem _ member)
    have sound := earlier.sound fresh
    have ends := Entry.ends ⟨turn, s⟩
    -- attaching may bring another engine, of which nothing is known from before
    by_cases attaches : ∃ engine, turn = .command (.attach engine) ∧
        Entry.answer ⟨turn, s⟩ = .ok true
    · obtain ⟨engine, same, ok⟩ := attaches
      exact .inr (established _ List.mem_cons_self engine same ok)
    · have kept : ∀ engine, turn = .command (.attach engine) →
          Entry.answer ⟨turn, s⟩ ≠ .ok true := fun engine same ok => attaches ⟨engine, same, ok⟩
      rcases before with ⟨bare, empty⟩ | ⟨name, d, e, ready, property⟩
      · exact .inl (Turn.unattached ends sound bare empty kept)
      · have follows : Follows name d e (Entry.after ⟨turn, s⟩) := by
          by_cases elsewhere : ∃ b, turn = .elsewhere b
          · obtain ⟨b, same⟩ := elsewhere
            exact undisturbed _ List.mem_cons_self b name d e same ready
          · exact Turn.follows ends sound.builtin (fun b same => elsewhere ⟨b, same⟩) kept ready
        obtain ⟨d', e', ready', further, uses⟩ := follows.ready ready
        exact .inr ⟨name, d', e', ready', stable property further uses⟩

theorem History.ready [Lawful ε] {start s : Site ε} {past : List (Entry ε)} (fresh : Fresh start)
    (history : History start past s) (undisturbed : ∀ entry ∈ past, Undisturbed entry)
    (filled : s.pipeline.enqueued ≠ 0) : ∃ name d e, Ready s name d e := by
  have attached : Attached (fun _ (_ : ε) => True) s := by
    refine history.attached (fun _ _ _ => trivial) fresh undisturbed ?_
    intro entry _ engine attach ok
    obtain ⟨d, _, _, e, _, _, ready, _⟩ := Entry.ready_of_attach attach ok
    exact ⟨engine, d, e, ready, trivial⟩
  rcases attached with ⟨_, empty⟩ | ⟨name, d, e, ready, _⟩
  · exact absurd empty filled
  · exact ⟨name, d, e, ready⟩

theorem Undisturbed.of_here {entry : Entry ε} (here : ∀ b, entry.turn ≠ .elsewhere b) :
    Undisturbed entry :=
  fun b _ _ _ elsewhere _ => absurd elsewhere (here b)

end

theorem Sound.filled_of_submitted {origin : Pipeline} {p : Pipeline} (sound : Sound origin p)
    (submitted : p.stage = .submitted) : p.enqueued ≠ 0 := by
  have := sound.filled.1 (.inr submitted)
  omega

end FrameBatch.Pipeline
