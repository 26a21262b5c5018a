import FrameBatch.Engine.Rehearsal
import FrameBatch.Proofs.Engine.Inputs

namespace FrameBatch.Rehearsal

open Backend (Use Serve Step contents)

def withRequest (e : Rehearsal) (r : Request) : Rehearsal := { e with request := some r }

theorem ends_setRequest {r : Request} {e e' : Rehearsal} {res : Except Fault Unit} :
    (setRequest r).Ends e res e' ↔ res = .ok () ∧ e' = e.withRequest r :=
  Act.ends_modify

theorem ends_setRequest_bind {α : Type} {r : Request} {f : Unit → Act Rehearsal α}
    {e e' : Rehearsal} {res : Except Fault α} :
    (setRequest r >>= f).Ends e res e' ↔ (f ()).Ends (e.withRequest r) res e' :=
  Act.ends_bind_of_ok (ends_setRequest.2 ⟨rfl, rfl⟩) f

theorem ends_theRequest_bind {α : Type} {e e' : Rehearsal} {r : Request}
    {f : Request → Act Rehearsal α} {res : Except Fault α} (found : e.request = some r) :
    (theRequest >>= f).Ends e res e' ↔ (f r).Ends e res e' := by
  refine Act.ends_bind_of_ok ?_ f
  rw [theRequest, Act.ends_get_bind, found]
  exact Act.ends_pure.2 ⟨rfl, rfl⟩

theorem ends_theRequest_bind_of_none {α : Type} {e e' : Rehearsal} {f : Request → Act Rehearsal α}
    {res : Except Fault α} (absent : e.request = none) (h : (theRequest >>= f).Ends e res e') :
    (∃ text, res = .error (.failed .field text)) ∧ e' = e := by
  have fails : theRequest.Ends e
      (.error (.failed .field "'NoneType' object has no attribute 'get_tensor'")) e := by
    rw [theRequest, Act.ends_get_bind, absent]
    exact Act.ends_fail.2 ⟨rfl, rfl⟩
  obtain ⟨rfl, rfl⟩ := (Act.ends_bind_of_error fails f).1 h
  exact ⟨⟨_, rfl⟩, rfl⟩

def Request.tensor? (r : Request) (name : String) : Option Tensor :=
  (r.inputs.get? name).or (r.outputs.get? name)

theorem tensor_cases {e e' : Rehearsal} {r : Request} {name : TensorName}
    {res : Except Fault Tensor} (found : e.request = some r)
    (h : (tensor name).Ends e res e') :
    e' = e ∧ res = (match r.tensor? name.text with
      | some t => .ok t
      | none => .error (.failed .key name.text)) := by
  rw [tensor, ends_theRequest_bind found] at h
  rw [Request.tensor?]
  cases held : (r.inputs.get? name.text).or (r.outputs.get? name.text) with
  | some t =>
    rw [held] at h
    obtain ⟨rfl, rfl⟩ := Act.ends_pure.1 h
    exact ⟨rfl, rfl⟩
  | none =>
    rw [held] at h
    obtain ⟨rfl, rfl⟩ := Act.ends_fail.1 h
    exact ⟨rfl, rfl⟩

theorem contents_eq {e : Rehearsal} {r : Request} (found : e.request = some r)
    (name : TensorName) :
    contents name e = (match r.tensor? name.text with
      | some t => .ok t
      | none => .error (.failed .key name.text)) :=
  (tensor_cases found ((tensor name).ends_self e)).2

theorem setTensor_cases {e e' : Rehearsal} {r : Request} {name : TensorName} {t : Tensor}
    {res : Except Fault Unit} (found : e.request = some r)
    (h : (setTensor name t).Ends e res e') :
    res = .ok () ∧
      ((∃ old, r.inputs.get? name.text = some old) ∧
          e' = e.withRequest { r with inputs := r.inputs.put name.text t } ∨
        r.inputs.get? name.text = none ∧
          e' = e.withRequest { r with outputs := r.outputs.put name.text t }) := by
  rw [setTensor, ends_theRequest_bind found] at h
  split at h
  · rename_i input
    obtain ⟨rfl, rfl⟩ := ends_setRequest.1 h
    exact ⟨rfl, .inl ⟨Option.isSome_iff_exists.1 input, rfl⟩⟩
  · rename_i other
    obtain ⟨rfl, rfl⟩ := ends_setRequest.1 h
    exact ⟨rfl, .inr ⟨by simpa [Entries.has] using other, rfl⟩⟩

def advanced (e : Rehearsal) : Rehearsal := { e with script := e.script.advance }

inductive StartEnds (e : Rehearsal) (r : Request) : Except Fault Unit → Rehearsal → Prop
  | refused {f : Fault} : StartEnds e r (.error f) e.advanced
  | started : StartEnds e r (.ok ())
      (e.advanced.withRequest { r with running := some e.script.plan })

theorem start_cases {e e' : Rehearsal} {r : Request} {res : Except Fault Unit}
    (found : e.request = some r) (h : start.Ends e res e') : StartEnds e r res e' := by
  rw [start, ends_theRequest_bind found, Act.ends_get_bind,
    Act.ends_bind_of_ok (Act.ends_modify.2 ⟨rfl, rfl⟩)] at h
  split at h
  · obtain ⟨rfl, rfl⟩ := Act.ends_fail.1 h
    exact .refused
  · obtain ⟨rfl, rfl⟩ := ends_setRequest.1 h
    exact .started

def written (inputs outputs : Entries String Tensor) (output : String × RunOutput) :
    Except Fault (Entries String Tensor) := do
  let value ← RunPlan.value inputs output.2
  match outputs.get? output.1 with
  | none => .error (.failed .key output.1)
  | some buffer => return outputs.put output.1 (← buffer.assign value)

def published (inputs : Entries String Tensor) :
    Entries String Tensor → List (String × RunOutput) → Except Fault (Entries String Tensor) :=
  List.foldlM (written inputs)

theorem writeOutput_cases {e e' : Rehearsal} {r : Request} {output : String × RunOutput}
    {res : Except Fault Unit} (found : e.request = some r)
    (h : (writeOutput output.1 output.2).Ends e res e') :
    (∃ f, res = .error f ∧ written r.inputs r.outputs output = .error f ∧ e' = e) ∨
      ∃ outputs, res = .ok () ∧ written r.inputs r.outputs output = .ok outputs ∧
        e' = e.withRequest { r with outputs } := by
  rw [writeOutput, ends_theRequest_bind found] at h
  unfold written
  cases value : RunPlan.value r.inputs output.2 with
  | error f =>
    rw [value, Act.ends_bind_of_error (Act.ends_lift.2 ⟨rfl, rfl⟩)] at h
    obtain ⟨rfl, rfl⟩ := h
    exact .inl ⟨f, rfl, rfl, rfl⟩
  | ok v =>
    rw [value, Act.ends_bind_of_ok (Act.ends_lift.2 ⟨rfl, rfl⟩)] at h
    cases buffer : r.outputs.get? output.1 with
    | none =>
      simp only [buffer] at h
      obtain ⟨rfl, rfl⟩ := Act.ends_fail.1 h
      exact .inl ⟨_, rfl, rfl, rfl⟩
    | some old =>
      simp only [buffer] at h
      cases assigned : old.assign v with
      | error f =>
        rw [assigned, Act.ends_bind_of_error (Act.ends_lift.2 ⟨rfl, rfl⟩)] at h
        obtain ⟨rfl, rfl⟩ := h
        exact .inl ⟨f, rfl, by simp [bind, Except.bind, assigned], rfl⟩
      | ok t =>
        rw [assigned, Act.ends_bind_of_ok (Act.ends_lift.2 ⟨rfl, rfl⟩)] at h
        obtain ⟨rfl, rfl⟩ := ends_setRequest.1 h
        exact .inr ⟨_, rfl, by simp [bind, Except.bind, assigned, pure, Except.pure], rfl⟩

theorem publish_cases {outs : List (String × RunOutput)} {e e' : Rehearsal} {r : Request}
    {res : Except Fault Unit} (found : e.request = some r)
    (h : (outs.forM fun (name, output) => writeOutput name output).Ends e res e') :
    ∃ outputs, e'.request = some { r with outputs } ∧
      (res = .ok () → published r.inputs r.outputs outs = .ok outputs) := by
  induction outs generalizing e r with
  | nil =>
    obtain ⟨rfl, rfl⟩ := Act.ends_pure.1 h
    exact ⟨_, found, fun _ => rfl⟩
  | cons output rest ih =>
    rcases Act.ends_bind.1 h with ⟨_, e₁, writes, h⟩ | ⟨f, rfl, writes⟩
    · rcases writeOutput_cases found writes with ⟨_, same, _⟩ | ⟨outputs, _, written, rfl⟩
      · cases same
      · obtain ⟨outputs', found', good⟩ := ih rfl h
        refine ⟨outputs', found', fun ok => ?_⟩
        rw [published, List.foldlM_cons, written]
        exact good ok
    · rcases writeOutput_cases found writes with ⟨_, _, _, rfl⟩ | ⟨_, same, _⟩
      · exact ⟨_, found, by simp⟩
      · cases same

/-- How a run is completed: afterwards none goes on. -/
inductive CompleteEnds (e : Rehearsal) (r : Request) : Except Fault Unit → Rehearsal → Prop
  | idle (nothing : r.running = none) : CompleteEnds e r (.ok ()) e
  | ended {plan : RunPlan} {outputs : Entries String Tensor} {res : Except Fault Unit}
    {e' : Rehearsal} (running : r.running = some plan)
    (found : e'.request = some { r with running := none, outputs })
    (good : res = .ok () → published r.inputs r.outputs plan.outputs = .ok outputs) :
    CompleteEnds e r res e'

theorem complete_cases {e e' : Rehearsal} {r : Request} {res : Except Fault Unit}
    (found : e.request = some r) (h : complete.Ends e res e') : CompleteEnds e r res e' := by
  rw [complete, ends_theRequest_bind found] at h
  split at h
  · rename_i nothing
    obtain ⟨rfl, rfl⟩ := Act.ends_pure.1 h
    exact .idle nothing
  · rename_i plan running
    rw [ends_setRequest_bind] at h
    split at h
    · obtain ⟨rfl, rfl⟩ := Act.ends_fail.1 h
      exact .ended running rfl (by simp)
    · obtain ⟨outputs, found', good⟩ := publish_cases rfl h
      exact .ended running found' good

inductive WaitEnds (e : Rehearsal) (r : Request) : Except Fault Bool → Rehearsal → Prop
  | idle (nothing : r.running = none) : WaitEnds e r (.ok true) e
  | held {plan : RunPlan} (running : r.running = some plan) : WaitEnds e r (.ok false) e
  | ended {plan : RunPlan} {res : Except Fault Unit} {e' : Rehearsal}
    (running : r.running = some plan) (completes : CompleteEnds e r res e') :
    WaitEnds e r (res.map fun _ => true) e'

theorem wait_cases {e e' : Rehearsal} {r : Request} {timeout : Value} {res : Except Fault Bool}
    (found : e.request = some r) (h : (wait timeout).Ends e res e') : WaitEnds e r res e' := by
  rw [wait, ends_theRequest_bind found] at h
  split at h
  · rename_i nothing
    obtain ⟨rfl, rfl⟩ := Act.ends_pure.1 h
    exact .idle nothing
  · rename_i plan running
    split at h
    · obtain ⟨rfl, rfl⟩ := Act.ends_pure.1 h
      exact .held running
    · rcases Act.ends_bind.1 h with ⟨_, e₁, completes, h⟩ | ⟨f, rfl, completes⟩
      · obtain ⟨rfl, rfl⟩ := Act.ends_pure.1 h
        exact .ended running (complete_cases found completes)
      · exact .ended running (complete_cases found completes)

def Request.released (r : Request) : Request :=
  { r with running := r.running.map fun plan => { plan with hold := false } }

theorem request_release {e : Rehearsal} {r : Request} (found : e.request = some r) :
    (release e).request = some r.released := by
  rw [release, found]
  rfl

theorem inputs_complete {e e' : Rehearsal} {r : Request} {res : Except Fault Unit}
    (found : e.request = some r) (h : CompleteEnds e r res e') :
    ∃ r', e'.request = some r' ∧ r'.inputs = r.inputs := by
  cases h with
  | idle _ => exact ⟨r, found, rfl⟩
  | ended _ found' _ => exact ⟨_, found', rfl⟩

theorem serve_cases {e e' : Rehearsal} {r : Request} (found : e.request = some r)
    (serve : Serve e e') : ∃ r', e'.request = some r' ∧ r'.inputs = r.inputs := by
  have starting {e₁ : Rehearsal} {res : Except Fault Unit} (ends : start.Ends e res e₁) :
      ∃ r', e₁.request = some r' ∧ r'.inputs = r.inputs := by
    cases start_cases found ends with
    | refused => exact ⟨r, found, rfl⟩
    | started => exact ⟨_, rfl, rfl⟩
  cases serve with
  | watches watch =>
    cases watch with
    | reads ends =>
      obtain ⟨rfl, _⟩ := tensor_cases found ends
      exact ⟨r, found, rfl⟩
    | waits ends =>
      cases wait_cases found ends with
      | idle _ => exact ⟨r, found, rfl⟩
      | held _ => exact ⟨r, found, rfl⟩
      | ended _ completes => exact inputs_complete found completes
    | released => exact ⟨r.released, request_release found, rfl⟩
  | starts ends => exact starting ends
  | infers ends =>
    rcases Act.ends_bind.1 ends with ⟨_, e₁, starts, completes⟩ | ⟨_, _, starts⟩
    · obtain ⟨r₁, found₁, same₁⟩ := starting starts
      obtain ⟨r', found', same⟩ := inputs_complete found₁ (complete_cases found₁ completes)
      exact ⟨r', found', same.trans same₁⟩
    · exact starting starts

theorem loaded_of_use {e e' : Rehearsal} (loaded : e.request.isSome = true) (use : Use e e') :
    e'.request.isSome = true := by
  obtain ⟨r, found⟩ := Option.isSome_iff_exists.1 loaded
  have served (serve : Serve e e') : e'.request.isSome = true := by
    obtain ⟨r', found', _⟩ := serve_cases found serve
    exact Option.isSome_iff_exists.2 ⟨r', found'⟩
  cases use with
  | reads ends => exact served (.watches (.reads ends))
  | writes reads ends _ =>
    obtain ⟨rfl, _⟩ := tensor_cases found reads
    obtain ⟨_, ⟨_, rfl⟩ | ⟨_, rfl⟩⟩ := setTensor_cases found ends <;> rfl
  | starts ends => exact served (.starts ends)
  | waits ends => exact served (.watches (.waits ends))
  | infers ends => exact served (.infers ends)
  | released => exact served (.watches (.released e))

theorem load_cases {fit : Act Descriptor.Fitting Unit} {l l' : Loading Rehearsal}
    {res : Except Fault Unit} (h : (load fit).Ends l res l') :
    (res ≠ .ok () ∧ l'.engine.request = l.engine.request ∨
        ∃ r, l'.engine.request = some r ∧ r.running = none) ∧
      ∃ res' network, fit.Ends (l.descriptor, l.network) res' (l'.descriptor, network) ∧
        (res = .ok () → res' = .ok ()) := by
  rcases Act.ends_bind.1 h with ⟨_, l₁, fits, h⟩ | ⟨f, rfl, fits⟩
  · obtain ⟨⟨d, network⟩, accepts, rfl⟩ := Act.ends_on.1 fits
    simp only [Act.ends_get_bind] at h
    rcases Act.ends_bind.1 h with ⟨inputs, l₂, finds, h⟩ | ⟨f, rfl, finds⟩
    · obtain ⟨_, rfl⟩ := Act.ends_lift.1 finds
      rcases Act.ends_bind.1 h with ⟨outputs, l₃, finds', h⟩ | ⟨f, rfl, finds'⟩
      · obtain ⟨_, rfl⟩ := Act.ends_lift.1 finds'
        obtain ⟨e', changes, rfl⟩ := Act.ends_on.1 h
        obtain ⟨rfl, rfl⟩ := Act.ends_modify.1 changes
        exact ⟨.inr ⟨_, rfl, rfl⟩, _, network, accepts, fun _ => rfl⟩
      · obtain ⟨_, rfl⟩ := Act.ends_lift.1 finds'
        exact ⟨.inl ⟨by simp, rfl⟩, _, network, accepts, by simp⟩
    · obtain ⟨_, rfl⟩ := Act.ends_lift.1 finds
      exact ⟨.inl ⟨by simp, rfl⟩, _, network, accepts, by simp⟩
  · obtain ⟨⟨d, network⟩, accepts, rfl⟩ := Act.ends_on.1 fits
    exact ⟨.inl ⟨by simp, rfl⟩, _, network, accepts, by simp⟩

theorem setTensor_fault {name : TensorName} {t : Tensor} {e e' : Rehearsal} {f : Fault}
    (h : (setTensor name t).Ends e (.error f) e') : ¬ f.Misfit := by
  cases found : e.request with
  | some r =>
    obtain ⟨same, _⟩ := setTensor_cases found h
    cases same
  | none =>
    obtain ⟨⟨text, same⟩, _⟩ := ends_theRequest_bind_of_none found h
    cases same
    exact Fault.failed_not_misfit _ _

instance : Backend.Lawful Rehearsal where
  loaded_of_load ends := by
    rcases (load_cases ends).1 with ⟨failed, _⟩ | ⟨r, found, _⟩
    · exact absurd rfl failed
    · exact Option.isSome_iff_exists.2 ⟨r, found⟩
  load_fits ends := (load_cases ends).2
  loaded_of_use := loaded_of_use
  write_fault := setTensor_fault

end FrameBatch.Rehearsal
