import FrameBatch.Proofs.Engine.OnnxRun
import FrameBatch.Proofs.Pipeline.Moves
import FrameBatch.Tensor.Bilinear

namespace FrameBatch.Pipeline

section

variable {ε : Type} [Backend ε]

/-- The turn waits for the run of the engine of a name, through the pipeline or at the engine. -/
def Turn.Waits (name : String) : Turn ε → Prop
  | .direct engine _ => engine = name
  | .command (.wait _) => True
  | .command .fetch => True
  | _ => False

/-- A wait was answered with the failure of a run: the failure went to somebody who waited at the
engine, or past the pipeline to its caller, and the batch was not dropped. -/
def TakesFailure [Resizer] (name : String) (entry : Entry ε) : Prop :=
  (∃ f, entry.answer = .error f ∧ f.OfRun) ∧ entry.turn.Waits name

theorem not_takesFailure_of_ok [Resizer] {name : String} {entry : Entry ε} {answer : Bool}
    (ok : entry.answer = .ok answer) : ¬ TakesFailure name entry := by
  rintro ⟨⟨f, fault, _⟩, _⟩
  cases ok.symm.trans fault

theorem WaitEnds.engine {s s' : Site ε} {timeout : Value} {r : Except Fault Bool} {name : String}
    {d : Descriptor} {e : ε} (h : WaitEnds s timeout r s') (ready : Ready s name d e)
    (still : s'.pipeline.stage = .submitted) :
    s' = s ∧ r = .ok true ∧ s.pipeline.done = true ∨ ∃ e', (Backend.wait timeout).Ends e r e' ∧
      s'.bench.Holds name e' ∧ (s'.pipeline.done = true → r = .ok true) := by
  cases h with
  | idle resting => exact absurd still resting
  | known _ done => exact .inl ⟨rfl, rfl, done⟩
  | answered _ _ asks =>
    cases asks with
    | asked ready' ends =>
      obtain ⟨rfl, rfl, rfl⟩ := ready.unique ready'
      exact .inr ⟨_, ends, ready.held.withEngine _, fun ended => congrArg _ ended⟩
  | failed _ _ _ _ => cases still
  | broken _ running asks _ =>
    cases asks with
    | unready unready => exact absurd unready ready.not_unready
    | asked ready' ends =>
      obtain ⟨rfl, rfl, rfl⟩ := ready.unique ready'
      refine .inr ⟨_, ends, ready.held.withEngine _, fun ended => ?_⟩
      exact absurd (running.symm.trans ended) Bool.false_ne_true

end

open Onnx (Request RunResult)

/-- The run that a turn started for the batch: the request on which it began, and its result. -/
inductive Launches [Resizer] (entry : Entry Onnx.Engine) : Request → RunResult → Prop
  | submitted {name : String} {d : Descriptor} {e e₀ : Onnx.Engine} {r : Request}
    (turn : entry.turn = .command .submit) (answer : entry.answer = .ok true)
    (ready : Ready entry.before name d e)
    (prepares : (entry.before.pipeline.decoder.prepare d).Ends e (.ok ()) e₀)
    (found : e₀.request = some r) : Launches entry r (r.outcome e₀.plan)
  | inferred {name : String} {d : Descriptor} {e e₀ e₁ : Onnx.Engine} {r : Request} {done : Bool}
    (turn : entry.turn = .command .synchronize) (answer : entry.answer = .ok true)
    (ready : Ready entry.before name d e)
    (prepares : (entry.before.pipeline.decoder.prepare d).Ends e (.ok ()) e₀)
    (waits : (Onnx.wait .null).Ends e₀ (.ok done) e₁) (found : e₁.request = some r) :
    Launches entry r (r.runResult e₁.plan r.feeds)

theorem Launches.fault [Resizer] {entry : Entry Onnx.Engine} {first : Request} {own : RunResult}
    (launches : Launches entry first own) : ∀ f, own = .error f → f.OfRun := by
  cases launches <;> exact fun f bad => Request.runResult_fault bad

/-- What a turn does to an engine of which a batch is in flight, and whether the failure of its run
was taken in it. -/
inductive Touches (taken : Prop) (s s' : Site Onnx.Engine) (e e' : Onnx.Engine) : Prop
  | kept (same : e' = e) (quiet : ¬ taken)
    (done : s'.pipeline.done = true → s.pipeline.done = true) : Touches taken s s' e e'
  | waited {timeout : Value} {r : Except Fault Bool} (waits : (Onnx.wait timeout).Ends e r e')
    (took : taken ↔ ∃ f, r = .error f ∧ f.OfRun)
    (done : s'.pipeline.done = true → s.pipeline.done = true ∨ r = .ok true) :
    Touches taken s s' e e'
  | released (same : e' = Onnx.release e) (quiet : ¬ taken)
    (done : s'.pipeline.done = true → s.pipeline.done = true) : Touches taken s s' e e'

theorem Touches.congr {taken taken' : Prop} {s s' s'' : Site Onnx.Engine} {e e' : Onnx.Engine}
    (touches : Touches taken s s' e e') (same : taken' ↔ taken)
    (done : s''.pipeline.done = s'.pipeline.done) : Touches taken' s s'' e e' := by
  cases propext same
  cases touches with
  | kept same quiet ended => exact .kept same quiet (done ▸ ended)
  | waited waits took ended => exact .waited waits took (done ▸ ended)
  | released same quiet ended => exact .released same quiet (done ▸ ended)

section

variable {s s' : Site Onnx.Engine} {name : String} {d : Descriptor} {e : Onnx.Engine}

theorem Ready.found (ready : Ready s name d e) : ∃ r, e.request = some r :=
  Option.isSome_iff_exists.1 ready.loaded

theorem AttachEnds.held {engine : String} {f : Fault} (h : AttachEnds s engine (.error f) s')
    (ready : Ready s name d e) : s'.bench.Holds name e := by
  have loaded {e₁ : Onnx.Engine} {d₁ : Descriptor} {network : Network} {l : Loading Onnx.Engine}
      {r : Except Fault Unit} (key : NetworkKey) (held : s.bench.Holds engine e₁)
      (fits : (fitting e₁).Ends ⟨d₁, network, e₁⟩ r l) :
      (s.withLoading engine key l).bench.Holds name e ∧ (name = engine → l.engine = e) := by
    obtain ⟨_, same, _⟩ := fitting_cases fits
    by_cases here : name = engine
    · subst here
      cases held.unique ready.held
      have same := same ready.loaded
      have kept := Site.holds_withLoading held key l
      rw [same] at kept
      exact ⟨kept, fun _ => same⟩
    · exact ⟨Site.holds_withLoading_of_ne ready.held here key l, fun same => absurd same here⟩
  have read {e₁ e₂ : Onnx.Engine} {d₁ : Descriptor} {network : Network} {key : NetworkKey}
      {l : Loading Onnx.Engine} {r : Except Fault Unit} {t : Except Fault Tensor}
      (held : s.bench.Holds engine e₁) (fits : (fitting e₁).Ends ⟨d₁, network, e₁⟩ r l)
      (reads : (Onnx.tensor l.descriptor.input).Ends l.engine t e₂) :
      ((s.withLoading engine key l).withEngine engine e₂).bench.Holds name e := by
    obtain ⟨kept, same⟩ := loaded key held fits
    by_cases here : name = engine
    · obtain ⟨r, found⟩ := ready.found
      rw [same here] at reads
      obtain ⟨rfl, _⟩ := Onnx.tensor_cases found reads
      subst here
      exact kept.withEngine _
    · exact kept.withEngine_of_ne here e₂
  cases h with
  | missing _ => exact ready.held
  | undescribed _ _ => exact ready.held
  | unfit found _ fits => exact (loaded _ ⟨_, found⟩ fits).1
  | unread found _ fits reads => exact read ⟨_, found⟩ fits reads
  | rejected found _ fits reads _ => exact read ⟨_, found⟩ fits reads

theorem DecodeEnds.held {r : Except Fault (List Result)} (h : DecodeEnds s r s')
    (plate : s.pipeline.decoder = .plate) (ready : Ready s name d e) :
    s'.bench.Holds name e ∧
      ∀ f, r = .error f → f.isRuntime = false → ¬ f.OfRun := by
  cases h with
  | unready unready => exact absurd unready ready.not_unready
  | decoded ready' ends =>
    obtain ⟨rfl, rfl, rfl⟩ := ready.unique ready'
    obtain ⟨request, found⟩ := ready.found
    rw [plate] at ends
    have kept {e' : Onnx.Engine} {t : Except Fault Tensor} {n : TensorName}
        (reads : (Onnx.tensor n).Ends e t e') :
        (s.withEngine name e').bench.Holds name e := by
      obtain ⟨rfl, _⟩ := Onnx.tensor_cases found reads
      exact ready.held.withEngine _
    cases Decoder.plate_cases ends with
    | unread reads =>
      refine ⟨kept reads, ?_⟩
      intro f same _
      cases same
      exact (Onnx.tensor_cases found reads).2.2 _ rfl
    | foreign reads _ =>
      refine ⟨kept reads, ?_⟩
      rintro f same _
      cases same
      exact Fault.failed_not_ofRun (by decide) _
    | read reads _ readings =>
      refine ⟨kept reads, ?_⟩
      intro f same other
      cases (Plate.readAll_cases readings).1 with
      | short _ runtime =>
        cases same
        cases other.symm.trans runtime
      | illegible _ ordinary _ _ =>
        cases same
        exact ordinary
      | read _ _ => cases same

theorem WaitEnds.touches {timeout : Value} {r : Except Fault Bool} (h : WaitEnds s timeout r s')
    (ready : Ready s name d e) (still : s'.pipeline.stage = .submitted) :
    ∃ e', s'.bench.Holds name e' ∧ Touches (∃ f, r = .error f ∧ f.OfRun) s s' e e' := by
  rcases h.engine ready still with ⟨rfl, rfl, done⟩ | ⟨e', asks, held, settled⟩
  · exact ⟨e, ready.held, .kept rfl (by simp) fun _ => done⟩
  · exact ⟨e', held, .waited asks .rfl fun ended => .inr (settled ended)⟩

theorem FetchEnds.touches {r : Except Fault Bool} (h : FetchEnds s r s')
    (plate : s.pipeline.decoder = .plate) (ready : Ready s name d e)
    (flying : s.pipeline.stage = .submitted) (still : s'.pipeline.stage = .submitted) :
    ∃ e', s'.bench.Holds name e' ∧ Touches (∃ f, r = .error f ∧ f.OfRun) s s' e e' := by
  cases h with
  | idle resting _ => exact absurd flying resting
  | early _ asks _ => exact (isOver_cases flying asks).touches ready still
  | failed _ _ _ _ => cases still
  | broken _ asks decodes other =>
    -- decoding fails without a fault of the run, so no failure is taken here
    have waits := isOver_cases flying asks
    obtain ⟨_, frame⟩ := decodes.frame
    rw [frame] at still
    obtain ⟨e', held, touches⟩ := waits.touches ready still
    obtain ⟨e'', ready', _⟩ := waits.ready ready
    cases held.unique ready'.held
    obtain ⟨kept, ordinary⟩ := decodes.held (waits.decoder.trans plate) ready'
    refine ⟨e', kept, touches.congr (iff_of_false ?_ (by simp)) (by rw [frame])⟩
    rintro ⟨f, same, ofRun⟩
    cases same
    exact ordinary _ rfl other ofRun
  | fetched _ _ _ delivers =>
    obtain ⟨outputs, rfl⟩ := deliver_frame delivers
    cases still

theorem Turn.stays [Resizer] {turn : Turn Onnx.Engine} {r : Except Fault Bool}
    (h : turn.act.Ends s r s')
    (plate : s.pipeline.decoder = .plate) (here : ∀ b, turn ≠ .elsewhere b)
    (ready : Ready s name d e) (still : s'.pipeline.stage = .submitted) :
    ∃ d' e', Ready s' name d' e' := by
  have kept : ∀ engine, turn = .command (.attach engine) → r ≠ .ok true := by
    rintro engine rfl rfl
    obtain ⟨r', attaches, same⟩ := attach_command_cases h
    cases r' with
    | error f => cases same
    | ok _ =>
      cases attaches
      cases still
  obtain ⟨d', e', ready', _⟩ := (Turn.follows h (.inr plate) here kept ready).ready ready
  exact ⟨d', e', ready'⟩

theorem Turn.touches [Resizer] {turn : Turn Onnx.Engine} {r : Except Fault Bool}
    (h : turn.act.Ends s r s')
    (plate : s.pipeline.decoder = .plate) (here : ∀ b, turn ≠ .elsewhere b)
    (ready : Ready s name d e) (flying : s.pipeline.stage = .submitted)
    (still : s'.pipeline.stage = .submitted) :
    ∃ e', s'.bench.Holds name e' ∧
      Touches ((∃ f, r = .error f ∧ f.OfRun) ∧ turn.Waits name) s s' e e' := by
  have alone (same : s' = s) (other : ¬ turn.Waits name) : ∃ e', s'.bench.Holds name e' ∧
      Touches ((∃ f, r = .error f ∧ f.OfRun) ∧ turn.Waits name) s s' e e' :=
    ⟨e, same ▸ ready.held, .kept rfl (fun taken => other taken.2) (same ▸ id)⟩
  cases turn with
  | command c =>
    cases c with
    | attach engine =>
      obtain ⟨r', attaches, rfl⟩ := attach_command_cases h
      cases r' with
      | ok _ =>
        cases attaches
        cases still
      | error f =>
        exact ⟨e, attaches.held ready, .kept rfl And.right (by rw [attaches.pipeline]; exact id)⟩
    | enqueue frame location => exact alone ((enqueue_cases h).flying flying) id
    | submit => exact alone ((execute_cases h).flying flying) id
    | synchronize => exact alone ((execute_cases h).flying flying) id
    | wait timeout =>
      obtain ⟨e', held, touches⟩ := (wait_cases h).touches ready still
      exact ⟨e', held, touches.congr (and_iff_left trivial) rfl⟩
    | fetch =>
      obtain ⟨e', held, touches⟩ := (fetch_cases h).touches plate ready flying still
      exact ⟨e', held, touches.congr (and_iff_left trivial) rfl⟩
    | observe output =>
      rcases observe_command_cases h with same | ⟨_, rfl⟩
      · exact alone same id
      · refine ⟨e, ready.held, .kept rfl And.right ?_⟩
        simp only [observe]
        split <;> exact id
  | direct engine timeout =>
    by_cases here : engine = name
    · subst here
      obtain ⟨e', waits, rfl⟩ := (Site.ends_onEngine ready.held).1 h
      exact ⟨e', ready.held.withEngine e', .waited waits (and_iff_left rfl) .inl⟩
    · rcases Site.onEngine_cases h with same | ⟨_, e₂, _, _, rfl⟩
      · exact alone same here
      · exact ⟨e, ready.held.withEngine_of_ne (Ne.symm here) e₂,
          .kept rfl (fun taken => here taken.2) id⟩
  | release engine =>
    rcases release_cases h with same | ⟨e₁, held, rfl⟩
    · exact alone same id
    · by_cases here : engine = name
      · subst here
        cases ready.held.unique held
        exact ⟨_, ready.held.withEngine _, .released rfl And.right id⟩
      · exact ⟨e, ready.held.withEngine_of_ne (Ne.symm here) _, .kept rfl And.right id⟩
  | elsewhere b => exact absurd rfl (here b)

end

section

variable [Resizer]

/-- The batch in flight on the engine of a name: the turn that launched it, those taken since, and
how its run has gone. -/
structure Flight (name : String) (past : List (Entry Onnx.Engine)) (s : Site Onnx.Engine)
    (since : List (Entry Onnx.Engine)) (launch : Entry Onnx.Engine)
    (older : List (Entry Onnx.Engine)) (first : Request) (own : RunResult) : Prop where
  split : past = since ++ launch :: older
  flying : ∀ entry ∈ since, entry.before.pipeline.stage = .submitted
  launches : Launches launch first own
  run : ∃ d e r, Ready s name d e ∧ e.request = some r ∧
    Request.After first own (∃ entry ∈ since, TakesFailure name entry) r ∧
      (s.pipeline.done = true → r.job = none)

theorem Entry.launches {entry : Entry Onnx.Engine} (older : List (Entry Onnx.Engine))
    (resting : entry.before.pipeline.stage ≠ .submitted)
    (submitted : entry.after.pipeline.stage = .submitted) :
    ∃ name first own, Flight name (entry :: older) entry.after [] entry older first own := by
  obtain ⟨answer, name, d, e, e', ready, runs⟩ :=
    Turn.submitted_cases entry.ends resting submitted
  have prepared {e₀ : Onnx.Engine} (prepares : (entry.before.pipeline.decoder.prepare d).Ends e
      (.ok ()) e₀) : ∃ r, e₀.request = some r :=
    Option.isSome_iff_exists.1
      (Backend.loaded_of_uses (Decoder.uses_prepare prepares) ready.loaded)
  rcases runs with ⟨turn, runs, after⟩ | ⟨turn, runs, after⟩
  · rcases Act.ends_bind.1 runs with ⟨_, e₀, prepares, starts⟩ | ⟨_, same, _⟩
    · obtain ⟨first, found⟩ := prepared prepares
      cases Onnx.start_cases found starts with
      | started =>
        rw [after]
        refine ⟨name, first, _, rfl, by simp, .submitted turn answer ready prepares found, d, _, _,
          ⟨ready.attached, ready.described, ready.held.withEngine _, rfl⟩, rfl, ⟨rfl, ?_⟩,
          by simp [withRun]⟩
        exact .underway (by simp) (Request.awaited?_started first e₀.plan) rfl
    · cases same
  · rcases Act.ends_bind.1 runs with ⟨_, e₀, prepares, infers⟩ | ⟨_, same, _⟩
    · obtain ⟨r₀, found₀⟩ := prepared prepares
      cases Onnx.infer_cases found₀ infers with
      | @inferred _ _ _ r waits found run =>
        have idle := Request.idle_of_wait_null found₀ waits found
        rw [after]
        refine ⟨name, r, _, rfl, by simp, .inferred turn answer ready prepares waits found, d, _, _,
          ⟨ready.attached, ready.described, ready.held.withEngine _, rfl⟩, rfl, ⟨rfl, ?_⟩,
          fun _ => idle⟩
        exact .settled (by simp) idle run
    · cases same

theorem Flight.turn {name : String} {past since older : List (Entry Onnx.Engine)}
    (entry : Entry Onnx.Engine) {launch : Entry Onnx.Engine} {first : Request} {own : RunResult}
    (flight : Flight name past entry.before since launch older first own)
    (plate : entry.before.pipeline.decoder = .plate)
    (here : ∀ b, entry.turn ≠ .elsewhere b)
    (flying : entry.before.pipeline.stage = .submitted)
    (still : entry.after.pipeline.stage = .submitted) :
    Flight name (entry :: past) entry.after (entry :: since) launch older first own := by
  obtain ⟨d, e, r, ready, found, after, settled⟩ := flight.run
  obtain ⟨d', e', ready'⟩ := Turn.stays entry.ends plate here ready still
  obtain ⟨e'', held, touches⟩ := Turn.touches entry.ends plate here ready flying still
  cases ready'.held.unique held
  refine ⟨by rw [flight.split, List.cons_append], ?_, flight.launches, ?_⟩
  · rintro other member
    rcases List.mem_cons.1 member with rfl | member
    · exact flying
    · exact flight.flying other member
  · have among : (∃ other ∈ entry :: since, TakesFailure name other) ↔
        TakesFailure name entry ∨ ∃ other ∈ since, TakesFailure name other := by simp
    have quietly (quiet : ¬ TakesFailure name entry) := among.trans (or_iff_right quiet)
    cases touches with
    | kept same quiet done =>
      subst same
      exact ⟨d', e', r, ready', found,
        ⟨after.buffers, after.progress.congr (quietly quiet)⟩, settled ∘ done⟩
    | released same quiet done =>
      subst same
      refine ⟨d', _, r.released, ready', Onnx.request_release found, ?_,
        fun ended => Request.job_released (settled (done ended))⟩
      exact ⟨after.release.buffers, after.release.progress.congr (quietly quiet)⟩
    | waited waits taken done =>
      obtain ⟨r', found', after', settled'⟩ := after.wait flight.launches.fault found waits
      refine ⟨d', e', r', ready', found', ⟨after'.buffers, after'.progress.congr ?_⟩, ?_⟩
      · rw [among, or_comm]
        exact or_congr_right taken
      · intro ended
        rcases done ended with known | answered
        · exact settled' (.inl (settled known))
        · exact settled' (.inr answered)

theorem History.flight {start s : Site Onnx.Engine} {past : List (Entry Onnx.Engine)}
    (fresh : Fresh start) (plate : start.pipeline.decoder = .plate)
    (history : History start past s) (here : ∀ entry ∈ past, ∀ b, entry.turn ≠ .elsewhere b)
    (submitted : s.pipeline.stage = .submitted) :
    ∃ name since launch older first own,
      Flight name past s since launch older first own := by
  induction history with
  | start =>
    rw [fresh.made] at submitted
    cases submitted
  | @turn past s earlier turn ih =>
    have here' := here _ List.mem_cons_self
    -- a batch is in flight either since an earlier turn, or because the last one launched it
    by_cases flying : s.pipeline.stage = .submitted
    · obtain ⟨name, since, launch, older, first, own, flight⟩ :=
        ih (fun entry member => here entry (List.mem_cons_of_mem _ member)) flying
      have plate := (earlier.sound fresh).decoder_eq.trans plate
      exact ⟨name, _, launch, older, first, own,
        Flight.turn ⟨turn, s⟩ flight plate here' flying submitted⟩
    · obtain ⟨name, first, own, flight⟩ := Entry.launches past flying submitted
      exact ⟨name, _, _, past, first, own, flight⟩

theorem Flight.settled {name : String} {past since older : List (Entry Onnx.Engine)}
    {launch : Entry Onnx.Engine} {s asked : Site Onnx.Engine} {first : Request} {own : RunResult}
    (flight : Flight name past s since launch older first own)
    (submitted : s.pipeline.stage = .submitted) (waits : WaitEnds s (.int 0) (.ok true) asked) :
    ∃ e r, asked.bench.Holds name e ∧ e.request = some r ∧ r.job = none ∧
      Request.After first own (∃ entry ∈ since, TakesFailure name entry) r := by
  obtain ⟨d, e, r, ready, found, after, settled⟩ := flight.run
  have still : asked.pipeline.stage = .submitted := by rw [waits.pipeline_of_ok, submitted]
  rcases waits.engine ready still with ⟨rfl, _, done⟩ | ⟨e', asks, held, _⟩
  · exact ⟨e, r, ready.held, found, settled done, after⟩
  · obtain ⟨r', found', after', settled'⟩ := after.wait flight.launches.fault found asks
    refine ⟨e', r', held, found', settled' (.inr rfl), after'.buffers, after'.progress.congr ?_⟩
    simp

/-- Results come from the run of their own batch, and from one that succeeded, as long as nobody
took the failure of that run before the fetch; if somebody did, they come from what the request held
when the run began. -/
theorem fetched_from_own_run {start s : Site Onnx.Engine} {past : List (Entry Onnx.Engine)}
    (fresh : Fresh start) (plate : start.pipeline.decoder = .plate)
    (history : History start past s) (here : ∀ entry ∈ past, ∀ b, entry.turn ≠ .elsewhere b)
    (fetched : (fetch s).result = .ok true) :
    ∃ since launch older name first own d t, past = since ++ launch :: older ∧
      (∀ entry ∈ since, entry.before.pipeline.stage = .submitted) ∧ Launches launch first own ∧
      s.pipeline.engine = some name ∧ s.descriptor? = some d ∧
      (Plate.readAll (TensorName.text d.output) t Plate.maxSequence).Ends s.pipeline.pending
        (.ok ()) (fetch s).state.pipeline.results ∧
      ((∀ entry ∈ since, ¬ TakesFailure name entry) → ∃ outputs, own = .ok outputs ∧
        Request.tensor? { first with outputs } (TensorName.text d.output) = some t) ∧
      ((∃ entry ∈ since, TakesFailure name entry) →
        (∃ f, own = .error f) ∧ first.tensor? (TensorName.text d.output) = some t) := by
  have fetches := fetch_cases (fetch.ends_self s)
  rw [fetched] at fetches
  generalize (fetch s).state = s' at *
  generalize answer : (Except.ok true : Except Fault Bool) = result at fetches
  cases fetches with
  | idle _ empty => exact absurd answer.symm empty
  | early _ _ empty => exact absurd answer.symm empty
  | failed _ _ _ _ => cases answer
  | broken _ _ _ _ => cases answer
  | fetched submitted asks decodes delivers =>
    have waits := isOver_cases submitted asks
    obtain ⟨name, since, launch, older, first, own, flight⟩ :=
      history.flight fresh plate here submitted
    obtain ⟨_, _, _, ready, _⟩ := flight.run
    obtain ⟨e, r, held, found, idle, after⟩ := flight.settled submitted waits
    obtain ⟨outputs, rfl⟩ := deliver_frame delivers
    cases decodes with
    | decoded ready' ends =>
      rename_i name' d e' e'' pending
      have attached := ready'.attached
      rw [waits.pipeline_of_ok] at attached
      cases attached.symm.trans ready.attached
      cases ready'.held.unique held
      have described := ready'.described
      rw [waits.descriptor?] at described
      rw [waits.decoder, (history.sound fresh).decoder_eq, plate, waits.pipeline_of_ok] at ends
      generalize outcome : (Except.ok _ : Except Fault (List Result)) = answer at ends
      cases Decoder.plate_cases ends with
      | unread _ => cases outcome
      | foreign _ _ => cases outcome
      | @read t _ r₁ _ reads _ readings =>
        cases r₁ with
        | error f => cases outcome
        | ok _ =>
          cases outcome
          have given := (Onnx.tensor_cases found reads).2.1 _ rfl
          obtain ⟨own_ok, own_error⟩ := after.outputs idle
          refine ⟨since, launch, older, _, first, own, d, t, flight.split, flight.flying,
            flight.launches, ready.attached, described, readings, ?_, ?_⟩
          · intro whole
            refine ⟨r.outputs, own_ok (by simpa using whole), ?_⟩
            rw [Request.tensor?, ← after.buffers]
            exact given
          · intro taken
            obtain ⟨fault, kept⟩ := own_error taken
            refine ⟨fault, ?_⟩
            rw [Request.tensor?, ← after.buffers, ← kept]
            exact given

end

def waitedFor : List (Turn Onnx.Engine) :=
  [.command (.attach "cpu"), enqueueAt 0, .command .submit, .direct "cpu" .null]

theorem own_run_of_waitedFor :
    (fetch (played [] (plateSite 1 [yielding 1 (.ofInt 5)]) waitedFor).2).result = .ok true ∧
      ∃ launch ∈ (played [] (plateSite 1 [yielding 1 (.ofInt 5)]) waitedFor).1,
        ∃ first outputs, Launches launch first (.ok outputs) := by
  have fresh : Fresh (plateSite 1 [yielding 1 (.ofInt 5)]) := fresh_plateSite (by decide) _
  have fetched : (fetch (played [] (plateSite 1 [yielding 1 (.ofInt 5)]) waitedFor).2).result =
      .ok true := by decide +kernel
  have answers : ∀ entry ∈ (played [] (plateSite 1 [yielding 1 (.ofInt 5)]) waitedFor).1,
      entry.answer = .ok true := by decide +kernel
  obtain ⟨since, launch, older, name, first, own, _, _, split, _, launches, _, _, _, whole, _⟩ :=
    fetched_from_own_run fresh rfl (History.start.played waitedFor)
      (here_played (by simp [waitedFor, enqueueAt])) fetched
  rw [split] at answers ⊢
  obtain ⟨outputs, rfl, _⟩ := whole fun entry member =>
    not_takesFailure_of_ok (answers entry (List.mem_append_left _ member))
  exact ⟨fetched, launch, by simp, first, outputs, launches⟩

def readThenSubmitted : List (Turn Onnx.Engine) :=
  [.command (.attach "cpu"), enqueueAt 0, .command .submit, .command .fetch, enqueueAt 1]

theorem launches_failed [Resizer] (entry : Entry Onnx.Engine)
    (resting : entry.before.pipeline.stage ≠ .submitted)
    (submitted : entry.after.pipeline.stage = .submitted)
    (fails : (((attached? entry.after).bind (·.request)).bind (·.awaited?)).map (·.isOk) =
      some false) : ∃ first f, Launches entry first (.error f) := by
  obtain ⟨name, first, own, flight⟩ := Entry.launches [] resting submitted
  obtain ⟨d, e, r, ready, found, after, _⟩ := flight.run
  rw [ready.attached?_eq, Option.bind_some, found, Option.bind_some] at fails
  cases after.progress with
  | underway _ awaited _ =>
    rw [awaited] at fails
    cases own with
    | error f => exact ⟨first, f, flight.launches⟩
    | ok _ => cases fails
  | settled _ idle _ => simp [Request.awaited?, idle] at fails
  | lost spent _ _ _ =>
    obtain ⟨_, member, _⟩ := spent
    cases member

/-- If the caller takes the failure of the second run at the engine, the second batch is fetched
with what was read for the first one. -/
theorem stale_after_failure_taken :
    ∃ start past s, Fresh start ∧ start.pipeline.decoder = .plate ∧ History start past s ∧
      (∀ entry ∈ past, ∀ b, entry.turn ≠ .elsewhere b) ∧ (fetch s).result = .ok true ∧
      (∃ since launch older first f, past = since ++ launch :: older ∧
        (∀ entry ∈ since, entry.before.pipeline.stage = .submitted) ∧
          Launches launch first (.error f)) ∧
      s.pipeline.results.map (·.reading) = [some { license := "5", sequence := [5] }] ∧
      (fetch s).state.pipeline.results.map (·.reading) =
        [some { license := "5", sequence := [5] }] := by
  let start := plateSite 1 [yielding 1 (.ofInt 5), { fail := some "device lost" }]
  let earlier := played [] start readThenSubmitted
  let launch : Entry Onnx.Engine := ⟨.command .submit, earlier.2⟩
  let last : Entry Onnx.Engine := ⟨.direct "cpu" .null, launch.after⟩
  obtain ⟨first, f, launches⟩ := launches_failed launch (by decide +kernel)
    (by decide +kernel) (by decide +kernel)
  refine ⟨start, last :: launch :: earlier.1, last.after, fresh_plateSite (by decide) _, rfl, ?_,
    ?_, by decide +kernel, ⟨[last], launch, earlier.1, first, f, rfl, ?_, launches⟩,
    by decide +kernel, by decide +kernel⟩
  · exact ((History.start.played readThenSubmitted).turn _).turn _
  · have here : ∀ entry ∈ earlier.1, ∀ b, entry.turn ≠ .elsewhere b :=
      here_played (by simp [readThenSubmitted, enqueueAt])
    simpa [last, launch] using here
  · intro entry member
    cases List.mem_singleton.1 member
    decide +kernel

end FrameBatch.Pipeline
