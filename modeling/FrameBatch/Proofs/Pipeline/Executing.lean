import FrameBatch.Proofs.Engine.Runs
import FrameBatch.Proofs.Pipeline.Moves
import FrameBatch.Tensor.Bilinear

namespace FrameBatch.Pipeline

open Backend (Watch Watches Lawful Runs contents)

variable {ε : Type}

/-- The engine of a name came from what it was by steps of one kind. -/
def Comes (R : ε → ε → Prop) (name : String) (s s' : Site ε) : Prop :=
  ∀ e', s'.bench.Holds name e' → ∃ e, s.bench.Holds name e ∧ Relation.ReflTransGen R e e'

namespace Comes

theorem refl (R : ε → ε → Prop) (name : String) (s : Site ε) : Comes R name s s :=
  fun e held => ⟨e, held, .refl⟩

theorem carried (R : ε → ε → Prop) (name : String) (s : Site ε) :
    Carried name R (Comes R name s) where
  step {s' other e₁ e₂} before held steps := by
    intro e' held'
    by_cases same : other = name
    · subst same
      cases held'.unique (held.withEngine e₂)
      obtain ⟨e, held, earlier⟩ := before e₁ held
      exact ⟨e, held, earlier.trans (steps rfl)⟩
    · exact before e' (held'.of_withEngine (Ne.symm same))
  batch before _ _ := before
  outputs before _ := before

theorem loading {R : ε → ε → Prop} {name engine : String} {s : Site ε} {e : ε}
    {key : NetworkKey} {l : Loading ε} (found : s.bench.engines.get? engine = some (key, e))
    (steps : engine = name → Relation.ReflTransGen R e l.engine) :
    Comes R name s (s.withLoading engine key l) := by
  intro e' held
  by_cases same : engine = name
  · subst same
    cases held.unique (Site.holds_withLoading ⟨key, found⟩ key l)
    exact ⟨e, ⟨key, found⟩, steps rfl⟩
  · exact ⟨e', Site.holds_of_withLoading held (Ne.symm same), .refl⟩

end Comes

variable [Backend ε] [Runs ε]

def BeginsNone (e e' : ε) : Prop := Runs.busy e' = true → Runs.busy e = true

namespace BeginsNone

theorem of_steps {e e' : ε} (steps : Relation.ReflTransGen BeginsNone e e') : BeginsNone e e' := by
  induction steps with
  | refl => exact id
  | tail _ step ih => exact fun running => ih (step running)

theorem of_watch {e e' : ε} (watch : Watch e e') : BeginsNone e e' :=
  fun running => (Runs.busy_of_watch watch running).1

theorem of_write {name : TensorName} {t old : Tensor} {e e₁ e₂ : ε} {r : Except Fault Unit}
    (reads : (Backend.tensor name).Ends e (.ok old) e₁)
    (ends : (Backend.setTensor name t).Ends e₁ r e₂) : BeginsNone e e₂ :=
  fun running => of_watch (.reads reads) (Runs.busy_of_write ends running)

theorem of_place [Resizer] {d : Descriptor} {frame : Frame} {scale : Value} {slot : Nat} {e e' : ε}
    {r : Except Fault Unit} (h : (place d frame scale slot).Ends e r e') : BeginsNone e e' := by
  cases place_cases h with
  | unread reads => exact of_watch (.reads reads)
  | written reads _ ends => exact of_write reads ends

theorem of_prepare {decoder : Decoder} {d : Descriptor} {e e' : ε} {r : Except Fault Unit}
    (h : (decoder.prepare d).Ends e r e') : BeginsNone e e' := by
  cases Decoder.prepare_cases h with
  | needless _ => exact id
  | refused => exact id
  | unstarted reads => exact of_watch (.reads reads)
  | written _ _ reads _ ends => exact of_write reads ends

theorem of_fitting {e : ε} {d : Descriptor} {network : Network} {l : Loading ε}
    {r : Except Fault Unit} (h : (fitting e).Ends ⟨d, network, e⟩ r l) : BeginsNone e l.engine := by
  unfold fitting at h
  split at h
  · obtain ⟨_, _, rfl⟩ := Act.ends_on.1 h
    exact id
  · exact Runs.busy_of_load h

end BeginsNone

/-- A run begins by submitting a batch only. -/
theorem Turn.begins [Resizer] [Lawful ε] {turn : Turn ε} {s s' : Site ε} {r : Except Fault Bool}
    {name : String} (h : turn.act.Ends s r s') (builtin : s.pipeline.decoder.Builtin)
    (here : ∀ b, turn ≠ .elsewhere b) :
    Comes BeginsNone name s s' ∨ turn = .command .submit ∧ r = .ok true ∧
      s'.pipeline.stage = .submitted ∧ s'.pipeline.done = false := by
  have carried := Comes.carried BeginsNone name s
  have before := Comes.refl BeginsNone name s
  by_cases submits : turn = .command .submit
  · subst submits
    cases execute_cases h with
    | unready _ => exact .inl before
    | needless _ _ => exact .inl before
    | failed ready _ _ ends =>
      refine .inl (carried.step before ready.held fun _ => .single ?_)
      rcases Act.ends_bind.1 ends with ⟨_, _, prepares, starts⟩ | ⟨_, _, prepares⟩
      · exact fun running => BeginsNone.of_prepare prepares (Runs.busy_of_start starts running)
      · exact .of_prepare prepares
    | started _ _ _ _ => exact .inr ⟨rfl, rfl, rfl, rfl⟩
  · refine .inl (Turn.carried h carried builtin here .of_watch ?_ (fun _ _ _ => id) ?_ ?_ before)
    · intro _ _ _ _ _ _ _ found _ fits
      exact .loading found fun _ => .single (.of_fitting fits)
    · intro _ _ _ _ _ _ _ _ _ ends
      exact .single (.of_place ends)
    · intro run kind _ _ _ _ _ _ ends
      rcases kind with ⟨submit, _⟩ | ⟨_, rfl⟩
      · exact absurd submit submits
      · refine .single ?_
        rcases Act.ends_bind.1 ends with ⟨_, _, prepares, infers⟩ | ⟨_, _, prepares⟩
        · exact fun running => BeginsNone.of_prepare prepares (Runs.busy_of_infer infers running)
        · exact .of_prepare prepares

/-- A batch is in flight whose run is not known to be over. -/
def InFlight (p : Pipeline) : Prop := p.stage = .submitted ∧ p.done = false

/-- The attached engine is busy only while a batch is in flight. -/
def Guarded (s : Site ε) : Prop :=
  ∀ name e, s.pipeline.engine = some name → s.bench.Holds name e → Runs.busy e = true →
    InFlight s.pipeline

section

variable {s s' : Site ε} {name : String} {e e' : ε} {r : Except Fault Bool}

theorem WaitEnds.inFlight {timeout : Value} (h : WaitEnds s timeout r s')
    (flying : InFlight s.pipeline) (attached : s.pipeline.engine = some name)
    (held : s'.bench.Holds name e') (running : Runs.busy e' = true) :
    InFlight s'.pipeline ∧ r ≠ .ok true := by
  have unanswered {r : Except Fault Bool} {s₁ : Site ε}
      (asks : AskEnds (Backend.wait timeout) s r s₁)
      (held : s₁.bench.Holds name e') : r ≠ .ok true ∧ ∀ f, r = .error f → f.isRuntime = false := by
    cases asks with
    | @unready f unready =>
      refine ⟨by simp, ?_⟩
      rintro _ ⟨⟩
      cases unready with
      | undescribed _ => rfl
      | unloaded _ idle =>
        cases (Runs.loaded_of_busy running).symm.trans (idle name e' attached held)
    | asked ready ends =>
      cases attached.symm.trans ready.attached
      cases held.unique (ready.held.withEngine _)
      exact Runs.unanswered ends running
  obtain ⟨submitted, going⟩ := flying
  cases h with
  | idle resting => exact absurd submitted resting
  | known _ done => cases going.symm.trans done
  | @answered done s₁ _ _ asks =>
    have open' : done ≠ true := fun same => (unanswered asks held).1 (by rw [same])
    rw [told, asks.pipeline]
    exact ⟨⟨submitted, by simpa using open'⟩, by simpa using open'⟩
  | failed _ _ asks runtime => cases runtime.symm.trans ((unanswered asks held).2 _ rfl)
  | broken _ _ asks _ =>
    rw [asks.pipeline]
    exact ⟨⟨submitted, going⟩, by simp⟩

theorem FetchEnds.inFlight (h : FetchEnds s r s') (builtin : s.pipeline.decoder.Builtin)
    (flying : InFlight s.pipeline) (attached : s.pipeline.engine = some name)
    (held : s'.bench.Holds name e') (running : Runs.busy e' = true) : InFlight s'.pipeline := by
  -- a run that goes on after decoding went on before it, when the wait found it over
  have settled {waited read : Site ε} {r : Except Fault (List Result)}
      (waits : WaitEnds s (.int 0) (.ok true) waited) (decodes : DecodeEnds waited r read)
      (held : read.bench.Holds name e') : False := by
    rw [← waits.decoder] at builtin
    obtain ⟨e, held, steps⟩ := decodes.carried (Comes.carried BeginsNone name waited) builtin
      .of_watch (.refl _ _ _) e' held
    exact (waits.inFlight flying attached held (BeginsNone.of_steps steps running)).2 rfl
  cases h with
  | idle resting _ => exact absurd flying.1 resting
  | early submitted asks _ =>
    exact ((isOver_cases submitted asks).inFlight flying attached held running).1
  | failed submitted asks decodes _ =>
    exact (settled (isOver_cases submitted asks) decodes held).elim
  | broken submitted asks decodes _ =>
    exact (settled (isOver_cases submitted asks) decodes held).elim
  | fetched submitted asks decodes delivers =>
    obtain ⟨_, rfl⟩ := deliver_frame delivers
    exact (settled (isOver_cases submitted asks) decodes held).elim

theorem Turn.inFlight [Resizer] {turn : Turn ε} (h : turn.act.Ends s r s')
    (builtin : s.pipeline.decoder.Builtin) (here : ∀ b, turn ≠ .elsewhere b)
    (kept : ∀ engine, turn = .command (.attach engine) → r ≠ .ok true)
    (flying : InFlight s.pipeline) (attached : s.pipeline.engine = some name)
    (held : s'.bench.Holds name e') (running : Runs.busy e' = true) : InFlight s'.pipeline := by
  cases turn with
  | command c =>
    cases c with
    | attach engine =>
      obtain ⟨r', attaches, rfl⟩ := attach_command_cases h
      cases r' with
      | ok _ => exact absurd rfl (kept engine rfl)
      | error f => rwa [attaches.pipeline]
    | enqueue frame location => rwa [(enqueue_cases h).flying flying.1]
    | submit => rwa [(execute_cases h).flying flying.1]
    | synchronize => rwa [(execute_cases h).flying flying.1]
    | wait timeout => exact ((wait_cases h).inFlight flying attached held running).1
    | fetch => exact (fetch_cases h).inFlight builtin flying attached held running
    | observe output =>
      rcases observe_command_cases h with rfl | ⟨_, rfl⟩
      · exact flying
      · simp only [observe]
        split <;> exact flying
  | direct engine timeout =>
    rcases Site.onEngine_cases h with rfl | ⟨_, _, _, _, rfl⟩ <;> exact flying
  | release engine =>
    rcases release_cases h with rfl | ⟨_, _, rfl⟩ <;> exact flying
  | elsewhere b => exact absurd rfl (here b)

end

def Executes (name : String) (s : Site ε) : Prop :=
  ∃ e, s.bench.Holds name e ∧ Runs.busy e = true

instance (name : String) (s : Site ε) : Decidable (Executes name s) :=
  decidable_of_iff (((s.bench.engines.get? name).any fun entry => Runs.busy entry.2) = true) <| by
    constructor
    · intro running
      obtain ⟨⟨key, e⟩, found, running⟩ := (Option.any_eq_true _ _).1 running
      exact ⟨e, ⟨key, found⟩, running⟩
    · rintro ⟨e, ⟨key, found⟩, running⟩
      rw [found, Option.any_some]
      exact running

theorem contents_of_watches {e e' : ε} (watches : Watches e e') (running : Runs.busy e' = true)
    (name : TensorName) : contents name e' = contents name e := by
  induction watches with
  | refl => rfl
  | tail _ watch ih =>
    obtain ⟨earlier, kept⟩ := Runs.busy_of_watch watch running
    exact (kept name).trans (ih earlier)

section

variable [Resizer]

/-- The pipeline has the bench to itself, and no engine is attached whose run still goes on. -/
structure Calm (entry : Entry ε) : Prop where
  here : ∀ b, entry.turn ≠ .elsewhere b
  rested : ∀ engine, entry.turn = .command (.attach engine) → entry.answer = .ok true →
    ¬ Executes engine entry.before

theorem Guarded.turn [Lawful ε] {entry : Entry ε} (guarded : Guarded entry.before)
    (builtin : entry.before.pipeline.decoder.Builtin) (calm : Calm entry) :
    Guarded entry.after := by
  intro name e' attached held running
  rcases Turn.begins entry.ends builtin calm.here with comes | ⟨_, _, flying⟩
  · obtain ⟨e, held₀, steps⟩ := comes e' held
    have running₀ := BeginsNone.of_steps steps running
    by_cases attaches : ∃ engine, entry.turn = .command (.attach engine) ∧ entry.answer = .ok true
    · obtain ⟨engine, attach, ok⟩ := attaches
      rw [Entry.pipeline_of_attach attach ok] at attached
      cases attached
      exact absurd ⟨e, held₀, running₀⟩ (calm.rested name attach ok)
    · have kept : ∀ engine, entry.turn = .command (.attach engine) → entry.answer ≠ .ok true :=
        fun engine attach ok => attaches ⟨engine, attach, ok⟩
      rw [Turn.engine entry.ends builtin calm.here kept] at attached
      exact Turn.inFlight entry.ends builtin calm.here kept (guarded name e attached held₀ running₀)
        attached held running
  · exact flying

theorem History.guarded [Lawful ε] {start s : Site ε} {past : List (Entry ε)} (fresh : Fresh start)
    (history : History start past s) (calm : ∀ entry ∈ past, Calm entry) : Guarded s := by
  induction history with
  | start =>
    intro name e attached
    rw [fresh.made] at attached
    cases attached
  | turn earlier turn ih =>
    have before := ih fun entry member => calm entry (List.mem_cons_of_mem _ member)
    exact before.turn (earlier.sound fresh).builtin (calm _ List.mem_cons_self)

theorem Turn.watches [Lawful ε] {turn : Turn ε} {s s' : Site ε} {r : Except Fault Bool}
    {name : String} {e : ε} (h : turn.act.Ends s r s') (guarded : Guarded s)
    (builtin : s.pipeline.decoder.Builtin) (here : ∀ b, turn ≠ .elsewhere b)
    (held : s.bench.Holds name e) (running : Runs.busy e = true) : Comes Watch name s s' := by
  have guard {d : Descriptor} {e' : ε} (ready : Ready s name d e')
      (resting : s.pipeline.stage ≠ .submitted) : False := by
    cases held.unique ready.held
    exact resting (guarded name e ready.attached held running).1
  refine Turn.carried h (Comes.carried Watch name s) builtin here id ?_ (fun _ _ _ => id)
    (fun _ _ _ _ _ ready resting _ => (guard ready resting).elim)
    (fun _ _ _ _ _ ready resting _ => (guard ready resting).elim) (.refl _ _ _)
  intro engine e₁ d key l r' _ found _ fits
  refine .loading found ?_
  rintro rfl
  cases held.unique ⟨key, found⟩
  rw [(fitting_cases fits).2.1 (Runs.loaded_of_busy running)]

/-- As long as no engine is attached whose run still goes on, no turn writes to an engine from the
start of a run to its end, and until then every tensor of its request is what it was at the start.
-/
theorem unwritten_while_running [Lawful ε] {start s s' : Site ε} {past during : List (Entry ε)}
    {name : String} {e e' : ε} (fresh : Fresh start) (before : History start past s)
    (after : History s during s') (calm : ∀ entry ∈ during ++ past, Calm entry)
    (executes : ∀ entry ∈ during, Executes name entry.before) (held : s.bench.Holds name e)
    (held' : s'.bench.Holds name e') :
    Watches e e' ∧
      (Runs.busy e' = true → ∀ tensor, contents tensor e' = contents tensor e) := by
  have watches : Watches e e' := by
    induction after generalizing e' with
    | start =>
      cases held.unique held'
      exact .refl
    | @turn during s₁ earlier turn ih =>
      obtain ⟨e₁, held₁, running⟩ := executes _ List.mem_cons_self
      have calm' : ∀ entry ∈ during ++ past, Calm entry :=
        fun entry member => calm entry (List.mem_cons_of_mem _ member)
      have history := before.append earlier
      have comes := Turn.watches (Entry.ends ⟨turn, s₁⟩) (history.guarded fresh calm')
        (history.sound fresh).builtin (calm _ List.mem_cons_self).here held₁ running
      obtain ⟨e₂, held₂, more⟩ := comes e' held'
      cases held₂.unique held₁
      exact (ih calm' (fun entry member => executes entry (List.mem_cons_of_mem _ member))
        held₁).trans more
  exact ⟨watches, contents_of_watches watches⟩

def restsForAttach (entry : Entry ε) : Bool :=
  match entry.turn with
  | .command (.attach engine) =>
    !(decide (entry.answer = .ok true) && decide (Executes engine entry.before))
  | .elsewhere _ => false
  | _ => true

theorem Calm.of_restsForAttach {entry : Entry ε} (rests : restsForAttach entry = true) :
    Calm entry := by
  unfold restsForAttach at rests
  refine ⟨fun b elsewhere => by simp [elsewhere] at rests, fun engine attach ok => ?_⟩
  simpa [attach, ok] using rests

end

def heldRun : Site Onnx.Engine :=
  plateSite 1 [{ hold := true, outputs := [("prob", .copy "data")] }]

def submittedFrame : List (Entry Onnx.Engine) × Site Onnx.Engine :=
  played [] heldRun [.command (.attach "cpu"), enqueuePixel 7 1, .command .submit]

/-- Whatever the pipeline is asked for while a run goes on, short of attaching the engine again. -/
def askedMeanwhile : List (Entry Onnx.Engine) × Site Onnx.Engine :=
  played [] submittedFrame.2 [.command (.wait (.int 0)), enqueuePixel 9 1, .command .submit,
    .command .synchronize, .command .fetch, .command (.attach "gpu")]

theorem unwritten_askedMeanwhile :
    Executes "cpu" askedMeanwhile.2 ∧ ∀ e e', submittedFrame.2.bench.Holds "cpu" e →
      askedMeanwhile.2.bench.Holds "cpu" e' →
        Watches e e' ∧ ∀ tensor, contents tensor e' = contents tensor e := by
  have executes : Executes "cpu" askedMeanwhile.2 := by decide +kernel
  refine ⟨executes, fun e e' held held' => ?_⟩
  have calm : ∀ entry ∈ askedMeanwhile.1 ++ submittedFrame.1, restsForAttach entry = true := by
    decide +kernel
  obtain ⟨watches, kept⟩ := unwritten_while_running (fresh_plateSite (by decide) _)
    (History.start.played _) (History.start.played _)
    (fun entry member => .of_restsForAttach (calm entry member)) (by decide +kernel) held held'
  obtain ⟨e₁, held₁, running⟩ := executes
  cases held₁.unique held'
  exact ⟨watches, kept running⟩

def attachedAgain : List (Entry Onnx.Engine) × Site Onnx.Engine :=
  played [] submittedFrame.2 [.command (.attach "cpu"), enqueuePixel 9 1]

def firstElement (s : Site ε) (engine name : String) : Option Scalar :=
  (s.bench.engines.get? engine).bind fun entry =>
    (contents (some name) entry.2).toOption.map (·.get 0)

/-- If the engine is attached again while its run goes on, the next frame is written over the one
that was submitted, and the run yields the later frame. -/
theorem overwritten_attachedAgain :
    ∃ (start s s' : Site Onnx.Engine) (past during : List (Entry Onnx.Engine))
      (e e' : Onnx.Engine), Fresh start ∧ History start past s ∧ History s during s' ∧
      (∀ entry ∈ during ++ past, ∀ b, entry.turn ≠ .elsewhere b) ∧
      (∀ entry ∈ during, Executes "cpu" entry.before) ∧ s.pipeline.stage = .submitted ∧
      s.bench.Holds "cpu" e ∧ s'.bench.Holds "cpu" e' ∧ Runs.busy e' = true ∧
      contents (some "data") e' ≠ contents (some "data") e ∧
      firstElement s "cpu" "data" = some (.whole 7) ∧
      firstElement (played [] s' [.release "cpu", .direct "cpu" .null]).2 "cpu" "prob" =
        some (.whole 9) := by
  obtain ⟨e, ⟨key, held⟩, running⟩ : Executes "cpu" submittedFrame.2 := by decide +kernel
  obtain ⟨e', ⟨key', held'⟩, running'⟩ : Executes "cpu" attachedAgain.2 := by decide +kernel
  have before : firstElement submittedFrame.2 "cpu" "data" = some (.whole 7) := by decide +kernel
  have after : firstElement attachedAgain.2 "cpu" "data" = some (.whole 9) := by decide +kernel
  refine ⟨heldRun, submittedFrame.2, attachedAgain.2, submittedFrame.1, attachedAgain.1, e, e',
    fresh_plateSite (by decide) _, History.start.played _, History.start.played _, ?_,
    by decide +kernel, by decide +kernel, ⟨key, held⟩, ⟨key', held'⟩, running', ?_, before,
    by decide +kernel⟩
  · intro entry member
    rcases List.mem_append.1 member with member | member
    · exact here_played (by simp [enqueuePixel]) entry member
    · exact here_played (by simp [enqueuePixel]) entry member
  · intro same
    simp only [firstElement, held, held', Option.bind_some, same] at before after
    cases before.symm.trans after

end FrameBatch.Pipeline
