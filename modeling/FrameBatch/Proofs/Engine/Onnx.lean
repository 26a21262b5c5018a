import FrameBatch.Engine.Onnx
import FrameBatch.Proofs.Engine.Inputs

namespace FrameBatch.Onnx

open Backend (Use Uses Serve Step contents)

def Engine.withRequest (e : Engine) (r : Request) : Engine := { e with request := some r }

theorem ends_setRequest {r : Request} {e e' : Engine} {res : Except Fault Unit} :
    (setRequest r).Ends e res e' ↔ res = .ok () ∧ e' = e.withRequest r :=
  Act.ends_modify

theorem ends_setRequest_bind {α : Type} {r : Request} {f : Unit → Act Engine α} {e e' : Engine}
    {res : Except Fault α} :
    (setRequest r >>= f).Ends e res e' ↔ (f ()).Ends (e.withRequest r) res e' :=
  Act.ends_bind_of_ok (ends_setRequest.2 ⟨rfl, rfl⟩) f

theorem ends_theRequest_bind {α : Type} {e e' : Engine} {r : Request} {f : Request → Act Engine α}
    {res : Except Fault α} (found : e.request = some r) :
    (theRequest >>= f).Ends e res e' ↔ (f r).Ends e res e' := by
  refine Act.ends_bind_of_ok ?_ f
  rw [theRequest, Act.ends_get_bind, found]
  exact Act.ends_pure.2 ⟨rfl, rfl⟩

theorem ends_theRequest_bind_of_none {α : Type} {e e' : Engine} {f : Request → Act Engine α}
    {res : Except Fault α} (absent : e.request = none) (h : (theRequest >>= f).Ends e res e') :
    (∃ text, res = .error (.failed .field text)) ∧ e' = e := by
  have fails : theRequest.Ends e
      (.error (.failed .field "'NoneType' object has no attribute 'get_tensor'")) e := by
    rw [theRequest, Act.ends_get_bind, absent]
    exact Act.ends_fail.2 ⟨rfl, rfl⟩
  obtain ⟨rfl, rfl⟩ := (Act.ends_bind_of_error fails f).1 h
  exact ⟨⟨_, rfl⟩, rfl⟩

/-- The tensor of a name: a buffer, or else an output of the last run that was taken over. -/
def Request.tensor? (r : Request) (name : String) : Option Tensor :=
  (r.buffers.get? name).or (r.outputs.get? name)

theorem tensor_cases {e e' : Engine} {r : Request} {name : TensorName} {res : Except Fault Tensor}
    (found : e.request = some r) (h : (tensor name).Ends e res e') :
    e' = e ∧ (∀ t, res = .ok t → r.tensor? name.text = some t) ∧
      ∀ f, res = .error f → ¬ f.OfRun := by
  rw [tensor, ends_theRequest_bind found] at h
  split at h
  · rename_i t held
    obtain ⟨rfl, rfl⟩ := Act.ends_pure.1 h
    refine ⟨rfl, ?_, by simp⟩
    intro _ same
    cases same
    exact held
  · obtain ⟨rfl, rfl⟩ := Act.ends_fail.1 h
    refine ⟨rfl, by simp, ?_⟩
    intro _ same
    cases same
    rintro (runtime | other)
    · cases runtime
    · cases other

theorem tensor_of_found {e : Engine} {r : Request} {name : TensorName} {t : Tensor}
    (found : e.request = some r) (held : r.tensor? name.text = some t) :
    (tensor name).Ends e (.ok t) e := by
  rw [tensor, ends_theRequest_bind found]
  rw [Request.tensor?] at held
  rw [held]
  exact Act.ends_pure.2 ⟨rfl, rfl⟩

theorem setTensor_cases {e e' : Engine} {r : Request} {name : TensorName} {t : Tensor}
    {res : Except Fault Unit} (found : e.request = some r)
    (h : (setTensor name t).Ends e res e') :
    res = .ok () ∧
      ((∃ old, r.buffers.get? name.text = some old) ∧
          e' = e.withRequest { r with buffers := r.buffers.put name.text t } ∨
        r.buffers.get? name.text = none ∧
          e' = e.withRequest { r with outputs := r.outputs.put name.text t }) := by
  rw [setTensor, ends_theRequest_bind found] at h
  split at h
  · rename_i buffered
    obtain ⟨rfl, rfl⟩ := ends_setRequest.1 h
    exact ⟨rfl, .inl ⟨Option.isSome_iff_exists.1 buffered, rfl⟩⟩
  · rename_i other
    obtain ⟨rfl, rfl⟩ := ends_setRequest.1 h
    exact ⟨rfl, .inr ⟨by simpa [Entries.has] using other, rfl⟩⟩

/-- How the next run of an engine goes: without a session it fails. -/
def Engine.plan (e : Engine) : RunPlan :=
  if e.isOpen then e.script.plan
  else { fail := some "'NoneType' object has no attribute 'run'" }

def Engine.begun (e : Engine) : Engine :=
  if e.isOpen then { e with script := e.script.advance } else e

@[simp]
theorem request_begun (e : Engine) : e.begun.request = e.request := by
  unfold Engine.begun
  split <;> rfl

theorem runs_begun (e : Engine) : e.begun.script.runs = e.script.runs := by
  unfold Engine.begun
  split <;> rfl

theorem ends_beginRun_bind {α : Type} {r : Request} {f : RunPlan → Act Engine α} {e e' : Engine}
    {res : Except Fault α} : (beginRun r >>= f).Ends e res e' ↔ (f e.plan).Ends e.begun res e' := by
  refine Act.ends_bind_of_ok ?_ f
  rw [beginRun, Act.ends_get_bind]
  unfold Engine.plan Engine.begun
  split
  · rw [Act.ends_bind_of_ok (Act.ends_call.2 ⟨rfl, rfl⟩), Act.ends_set_bind]
    exact Act.ends_pure.2 ⟨rfl, rfl⟩
  · exact Act.ends_pure.2 ⟨rfl, rfl⟩

def Request.started (r : Request) (plan : RunPlan) : Job :=
  if plan.hold then .running plan r.copies else .finished (r.runResult plan r.feeds)

inductive StartEnds (e : Engine) (r : Request) : Except Fault Unit → Engine → Prop
  | refused {f : Fault} : StartEnds e r (.error f) e
  | started : StartEnds e r (.ok ())
      (e.begun.withRequest { r with job := some (r.started e.plan) })

theorem start_cases {e e' : Engine} {r : Request} {res : Except Fault Unit}
    (found : e.request = some r) (h : start.Ends e res e') : StartEnds e r res e' := by
  rw [start, ends_theRequest_bind found] at h
  have begins (h : (beginRun r >>= fun plan => setRequest { r with
      job := some (if plan.hold then .running plan r.copies
        else .finished (r.runResult plan r.feeds)) }).Ends e res e') : StartEnds e r res e' := by
    obtain ⟨rfl, rfl⟩ := ends_setRequest.1 (ends_beginRun_bind.1 h)
    exact .started
  split at h
  · obtain ⟨rfl, rfl⟩ := Act.ends_fail.1 h
    exact .refused
  · split at h
    · obtain ⟨rfl, rfl⟩ := Act.ends_fail_bind.1 h
      exact .refused
    · exact begins h

/-- The result that a wait takes over, if the run is over or the wait lasts until it is. -/
def Request.collected? (r : Request) (timeout : Value) : Option RunResult :=
  match r.job with
  | some (.finished result) => some result
  | some (.running plan copies) =>
    if timeout.isNull then some (r.runResult plan (r.seen copies)) else none
  | none => none

inductive WaitEnds (e : Engine) (r : Request) (timeout : Value) :
    Except Fault Bool → Engine → Prop
  | idle (nothing : r.job = none) : WaitEnds e r timeout (.ok true) e
  | early {res : Except Fault Bool} {plan : RunPlan} {copies : Entries String Tensor}
    (running : r.job = some (.running plan copies)) (limited : timeout.isNull = false)
    (unanswered : res ≠ .ok true)
    (quiet : ∀ f, res = .error f → ¬ f.OfRun) :
    WaitEnds e r timeout res e
  | collected {outputs : Entries String Tensor}
    (ended : r.collected? timeout = some (.ok outputs)) :
    WaitEnds e r timeout (.ok true) (e.withRequest { r with job := none, outputs })
  | failed {f : Fault} (ended : r.collected? timeout = some (.error f)) :
    WaitEnds e r timeout (.error f) (e.withRequest { r with job := none })

theorem wait_cases {e e' : Engine} {r : Request} {timeout : Value} {res : Except Fault Bool}
    (found : e.request = some r) (h : (wait timeout).Ends e res e') :
    WaitEnds e r timeout res e' := by
  have collects {result : RunResult} (ended : r.collected? timeout = some result)
      (h : (collect r result).Ends e res e') : WaitEnds e r timeout res e' := by
    rw [collect, ends_setRequest_bind] at h
    cases result with
    | error f =>
      rw [Act.ends_bind_of_error (Act.ends_lift.2 ⟨rfl, rfl⟩)] at h
      obtain ⟨rfl, rfl⟩ := h
      exact .failed ended
    | ok outputs =>
      rw [Act.ends_bind_of_ok (Act.ends_lift.2 ⟨rfl, rfl⟩), ends_setRequest_bind] at h
      obtain ⟨rfl, rfl⟩ := Act.ends_pure.1 h
      exact .collected ended
  rw [wait, ends_theRequest_bind found] at h
  split at h
  · rename_i nothing
    obtain ⟨rfl, rfl⟩ := Act.ends_pure.1 h
    exact .idle nothing
  · rename_i result finished
    exact collects (by simp [Request.collected?, finished]) h
  · rename_i plan copies running
    split at h
    · rename_i forever
      exact collects (by simp [Request.collected?, running, forever]) h
    · rename_i limited
      have limited := Bool.eq_false_iff.2 limited
      split at h
      · obtain ⟨rfl, rfl⟩ := Act.ends_lift.1 h
        refine .early running limited (by simp) ?_
        intro f same
        cases same
        exact Fault.failed_not_ofRun (by decide) _
      · split at h
        · obtain ⟨rfl, rfl⟩ := Act.ends_fail_bind.1 h
          refine .early running limited (by simp) ?_
          intro f same
          cases same
          exact Fault.failed_not_ofRun (by decide) _
        · obtain ⟨rfl, rfl⟩ := Act.ends_pure.1 h
          exact .early running limited (by simp) (by simp)

/-- How a run in the foreground ends: with what a wait for an earlier one ends in if that fails, and
else with its own result. -/
inductive InferEnds (e : Engine) : Except Fault Unit → Engine → Prop
  | waiting {f : Fault} {e' : Engine} (waits : (wait .null).Ends e (.error f) e') :
    InferEnds e (.error f) e'
  | failed {done : Bool} {f : Fault} {e₁ : Engine} {r : Request}
    (waits : (wait .null).Ends e (.ok done) e₁) (found : e₁.request = some r)
    (run : r.runResult e₁.plan r.feeds = .error f) : InferEnds e (.error f) e₁.begun
  | inferred {done : Bool} {outputs : Entries String Tensor} {e₁ : Engine} {r : Request}
    (waits : (wait .null).Ends e (.ok done) e₁) (found : e₁.request = some r)
    (run : r.runResult e₁.plan r.feeds = .ok outputs) :
    InferEnds e (.ok ()) (e₁.begun.withRequest { r with outputs })

theorem infer_cases {e e' : Engine} {r : Request} {res : Except Fault Unit}
    (found : e.request = some r) (h : infer.Ends e res e') : InferEnds e res e' := by
  rcases Act.ends_bind.1 h with ⟨done, e₁, waits, h⟩ | ⟨f, rfl, waits⟩
  · have found₁ : ∃ r₁, e₁.request = some r₁ := by
      cases wait_cases found waits with
      | idle _ => exact ⟨r, found⟩
      | early _ _ _ _ => exact ⟨r, found⟩
      | collected _ => exact ⟨_, rfl⟩
    obtain ⟨r₁, found₁⟩ := found₁
    rw [ends_theRequest_bind found₁, ends_beginRun_bind] at h
    cases run : r₁.runResult e₁.plan r₁.feeds with
    | error f =>
      rw [run, Act.ends_bind_of_error (Act.ends_lift.2 ⟨rfl, rfl⟩)] at h
      obtain ⟨rfl, rfl⟩ := h
      exact .failed waits found₁ run
    | ok outputs =>
      rw [run, Act.ends_bind_of_ok (Act.ends_lift.2 ⟨rfl, rfl⟩)] at h
      obtain ⟨rfl, rfl⟩ := ends_setRequest.1 h
      exact .inferred waits found₁ run
  · exact .waiting waits

def Request.released (r : Request) : Request :=
  match r.job with
  | some (.running plan copies) =>
    { r with job := some (.finished (r.runResult plan (r.seen copies))) }
  | _ => r

theorem request_release {e : Engine} {r : Request} (found : e.request = some r) :
    (release e).request = some r.released := by
  rw [release, found]
  rfl

theorem Request.released_eq (r : Request) : ∃ job, r.released = { r with job } := by
  unfold Request.released
  split
  · exact ⟨_, rfl⟩
  · exact ⟨_, rfl⟩

theorem request_wait {e e' : Engine} {r : Request} {timeout : Value} {res : Except Fault Bool}
    (found : e.request = some r) (h : (wait timeout).Ends e res e') :
    ∃ job outputs, e'.request = some { r with job, outputs } ∧
      e'.script.runs = e.script.runs := by
  cases wait_cases found h with
  | idle _ => exact ⟨_, _, found, rfl⟩
  | early _ _ _ _ => exact ⟨_, _, found, rfl⟩
  | collected _ => exact ⟨_, _, rfl, rfl⟩
  | failed _ => exact ⟨_, _, rfl, rfl⟩

theorem serve_cases {e e' : Engine} {r : Request} (found : e.request = some r)
    (serve : Serve e e') :
    ∃ job outputs, e'.request = some { r with job, outputs } ∧
      e'.script.runs = e.script.runs := by
  cases serve with
  | watches watch =>
    cases watch with
    | reads ends =>
      obtain ⟨rfl, _⟩ := tensor_cases found ends
      exact ⟨_, _, found, rfl⟩
    | waits ends => exact request_wait found ends
    | released =>
      obtain ⟨job, same⟩ := r.released_eq
      exact ⟨job, r.outputs, (request_release found).trans (congrArg some same), rfl⟩
  | starts ends =>
    cases start_cases found ends with
    | refused => exact ⟨_, _, found, rfl⟩
    | started => exact ⟨_, _, rfl, runs_begun e⟩
  | infers ends =>
    cases infer_cases found ends with
    | waiting waits => exact request_wait found waits
    | failed waits found₁ _ =>
      obtain ⟨job, outputs, found', same⟩ := request_wait found waits
      exact ⟨job, outputs, (request_begun _).trans found', (runs_begun _).trans same⟩
    | inferred waits found₁ _ =>
      obtain ⟨job, outputs, found', same⟩ := request_wait found waits
      cases found₁.symm.trans found'
      exact ⟨_, _, rfl, (runs_begun _).trans same⟩

theorem use_cases {e e' : Engine} {r : Request} (found : e.request = some r) (use : Use e e') :
    ∃ r', e'.request = some r' ∧
      (r'.buffers = r.buffers ∨ ∃ name t old, r.buffers.get? name = some old ∧
        t.shape = old.shape ∧ r'.buffers = r.buffers.put name t) := by
  have served (serve : Serve e e') : ∃ r', e'.request = some r' ∧
      (r'.buffers = r.buffers ∨ ∃ name t old, r.buffers.get? name = some old ∧
        t.shape = old.shape ∧ r'.buffers = r.buffers.put name t) := by
    obtain ⟨_, _, found', _⟩ := serve_cases found serve
    exact ⟨_, found', .inl rfl⟩
  cases use with
  | reads ends => exact served (.watches (.reads ends))
  | writes reads ends same =>
    rename_i name e₁ t old res
    obtain ⟨rfl, held, _⟩ := tensor_cases found reads
    obtain ⟨_, ⟨⟨old', buffered⟩, rfl⟩ | ⟨_, rfl⟩⟩ := setTensor_cases found ends
    · have held := held old rfl
      rw [Request.tensor?, buffered, Option.some_or] at held
      cases held
      exact ⟨_, rfl, .inr ⟨name.text, t, old, buffered, same, rfl⟩⟩
    · exact ⟨_, rfl, .inl rfl⟩
  | starts ends => exact served (.starts ends)
  | waits ends => exact served (.watches (.waits ends))
  | infers ends => exact served (.infers ends)
  | released => exact served (.watches (.released e))

theorem keepsShape_of_buffer {e : Engine} {r : Request} {name : String} {t : Tensor}
    (found : e.request = some r) (buffered : r.buffers.get? name = some t) :
    Backend.KeepsShape (some name) t.shape e := by
  refine Backend.keepsShape_of_invariant (P := fun e => ∃ r t', e.request = some r ∧
    r.buffers.get? name = some t' ∧ t'.shape = t.shape) ?_ ?_ ⟨r, t, found, buffered, rfl⟩
  · rintro e e' ⟨r, t', found, buffered, shape⟩ use
    obtain ⟨r', found', same | ⟨other, t'', old, held, shape', same⟩⟩ := use_cases found use
    · exact ⟨r', t', found', by rw [same, buffered], shape⟩
    · by_cases here : name = other
      · subst here
        cases held.symm.trans buffered
        exact ⟨r', t'', found', by rw [same, Entries.get?_put_self], shape'.trans shape⟩
      · exact ⟨r', t', found', by rw [same, Entries.get?_put_of_ne here, buffered], shape⟩
  · rintro e ⟨r, t', found, buffered, shape⟩
    exact ⟨t', e, tensor_of_found found (by simp [Request.tensor?, TensorName.text, buffered]),
      shape⟩

theorem contents_of_buffer {e : Engine} {r : Request} {name : String} {t : Tensor}
    (found : e.request = some r) (buffered : r.buffers.get? name = some t) :
    contents (some name) e = .ok t :=
  (tensor_of_found found (by simp [Request.tensor?, TensorName.text, buffered])).result

theorem inert_of_buffers {inputs : List String} {e : Engine} {r : Request}
    (found : e.request = some r)
    (buffered : ∀ name ∈ inputs, ∃ t, r.buffers.get? name = some t) : Backend.Inert inputs e := by
  have writing {e₁ e₂ : Engine} {r : Request} {name : String} {t : Tensor}
      {res : Except Fault Unit} (found : e₁.request = some r)
      (buffered : ∃ t, r.buffers.get? name = some t)
      (ends : (setTensor (some name) t).Ends e₁ res e₂) :
      res = .ok () ∧ e₂ = e₁.withRequest { r with buffers := r.buffers.put name t } := by
    obtain ⟨good, ⟨_, same⟩ | ⟨none, _⟩⟩ := setTensor_cases found ends
    · exact ⟨good, same⟩
    · obtain ⟨_, buffered⟩ := buffered
      cases none.symm.trans buffered
  refine Backend.inert_of_invariant (P := fun e => ∃ r, e.request = some r ∧
    ∀ name ∈ inputs, ∃ t, r.buffers.get? name = some t) ?_ ?_ ?_ ⟨r, found, buffered⟩
  · rintro e e' ⟨r, found, buffered⟩ step
    cases step with
    | serves serve =>
      obtain ⟨_, _, found', _⟩ := serve_cases found serve
      exact ⟨_, found', buffered⟩
    | @writes name _ _ _ t _ _ input reads _ _ ends =>
      obtain ⟨rfl, _⟩ := tensor_cases found reads
      obtain ⟨_, rfl⟩ := writing found (buffered _ input) ends
      refine ⟨_, rfl, fun other member => ?_⟩
      by_cases here : other = name
      · subst here
        exact ⟨t, Entries.get?_put_self _ _ _⟩
      · rw [Entries.get?_put_of_ne here]
        exact buffered other member
  · rintro e e' name ⟨r, found, buffered⟩ serve input
    obtain ⟨_, _, found', _⟩ := serve_cases found serve
    obtain ⟨t, held⟩ := buffered name input
    rw [contents_of_buffer found held, contents_of_buffer found' held]
  · rintro e e₁ e₂ name t res ⟨r, found, buffered⟩ input ends ⟨old, reads⟩
    obtain ⟨rfl, _⟩ := tensor_cases found reads
    obtain ⟨good, rfl⟩ := writing found (buffered _ input) ends
    refine ⟨good, contents_of_buffer rfl (Entries.get?_put_self _ _ _), ?_⟩
    intro other member apart
    obtain ⟨t', held⟩ := buffered other member
    rw [contents_of_buffer found held]
    exact contents_of_buffer rfl (by rw [Entries.get?_put_of_ne apart, held])

theorem load_cases {fit : Act Descriptor.Fitting Unit} {l l' : Loading Engine}
    {res : Except Fault Unit} (h : (load fit).Ends l res l') :
    (res ≠ .ok () ∧ l'.engine.request = l.engine.request ∨
        ∃ r, l'.engine.request = some r ∧ r.job = none) ∧
      ∃ res' network, fit.Ends (l.descriptor, l.network) res' (l'.descriptor, network) ∧
        (res = .ok () → res' = .ok ()) := by
  rcases Act.ends_bind.1 h with ⟨_, l₁, fits, h⟩ | ⟨f, rfl, fits⟩
  · obtain ⟨⟨d, network⟩, accepts, rfl⟩ := Act.ends_on.1 fits
    rw [Act.ends_get_bind] at h
    simp only [Act.ends_set_bind] at h
    rcases Act.ends_bind.1 h with ⟨_, l₂, allocates, h⟩ | ⟨f, rfl, allocates⟩
    · obtain ⟨_, rfl⟩ := Act.ends_lift.1 allocates
      rcases Act.ends_bind.1 h with ⟨_, l₃, requests, h⟩ | ⟨f, rfl, requests⟩
      · obtain ⟨e', changes, rfl⟩ := Act.ends_on.1 requests
        obtain ⟨_, rfl⟩ := Act.ends_modify.1 changes
        obtain ⟨rfl, rfl⟩ := Act.ends_log.1 h
        exact ⟨.inr ⟨_, rfl, rfl⟩, _, network, accepts, fun _ => rfl⟩
      · obtain ⟨e', changes, rfl⟩ := Act.ends_on.1 requests
        obtain ⟨same, _⟩ := Act.ends_modify.1 changes
        cases same
    · obtain ⟨_, rfl⟩ := Act.ends_lift.1 allocates
      exact ⟨.inl ⟨by simp, rfl⟩, _, network, accepts, by simp⟩
  · obtain ⟨⟨d, network⟩, accepts, rfl⟩ := Act.ends_on.1 fits
    exact ⟨.inl ⟨by simp, rfl⟩, _, network, accepts, by simp⟩

instance : Backend.Lawful Engine where
  loaded_of_load ends := by
    rcases (load_cases ends).1 with ⟨failed, _⟩ | ⟨r, found, _⟩
    · exact absurd rfl failed
    · exact Option.isSome_iff_exists.2 ⟨r, found⟩
  load_fits ends := (load_cases ends).2
  loaded_of_use := by
    intro e e' loaded use
    obtain ⟨r, found⟩ := Option.isSome_iff_exists.1 loaded
    obtain ⟨r', found', _⟩ := use_cases found use
    exact Option.isSome_iff_exists.2 ⟨r', found'⟩
  write_fault := by
    intro name t e e' f ends
    cases found : e.request with
    | some r =>
      obtain ⟨same, _⟩ := setTensor_cases found ends
      cases same
    | none =>
      obtain ⟨⟨text, same⟩, _⟩ := ends_theRequest_bind_of_none found ends
      cases same
      exact Fault.failed_not_misfit _ _

end FrameBatch.Onnx
