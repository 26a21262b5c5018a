import FrameBatch.Engine.OpenVino
import FrameBatch.Proofs.Engine.Use

namespace FrameBatch.OpenVino

open Backend (Use)

def Engine.withRequest (e : Engine) (r : Request) : Engine := { e with request := some r }

theorem ends_setRequest {r : Request} {e e' : Engine} {res : Except Fault Unit} :
    (setRequest r).Ends e res e' ↔ res = .ok () ∧ e' = e.withRequest r :=
  Act.ends_modify

theorem ends_setRequest_bind {α : Type} {r : Request} {f : Unit → Act Engine α} {e e' : Engine}
    {res : Except Fault α} :
    (setRequest r >>= f).Ends e res e' ↔ (f ()).Ends (e.withRequest r) res e' :=
  Act.ends_bind_of_ok (ends_setRequest.2 ⟨rfl, rfl⟩) f

theorem ends_theRequest_bind {α : Type} {e e' : Engine} {r : Request} {f : Request → Act Engine α}
    {res : Except Fault α} (found : e.request = some r) :
    (theRequest >>= f).Ends e res e' ↔ (f r).Ends e res e' := by
  refine Act.ends_bind_of_ok ?_ f
  rw [theRequest, Act.ends_get_bind, found]
  exact Act.ends_pure.2 ⟨rfl, rfl⟩

theorem ends_theRequest_bind_of_none {α : Type} {e e' : Engine} {f : Request → Act Engine α}
    {res : Except Fault α} (absent : e.request = none) (h : (theRequest >>= f).Ends e res e') :
    (∃ text, res = .error (.failed .field text)) ∧ e' = e := by
  have fails : theRequest.Ends e
      (.error (.failed .field "'NoneType' object has no attribute 'get_tensor'")) e := by
    rw [theRequest, Act.ends_get_bind, absent]
    exact Act.ends_fail.2 ⟨rfl, rfl⟩
  obtain ⟨rfl, rfl⟩ := (Act.ends_bind_of_error fails f).1 h
  exact ⟨⟨_, rfl⟩, rfl⟩

theorem tensor_cases {e e' : Engine} {r : Request} {name : TensorName} {res : Except Fault Tensor}
    (found : e.request = some r) (h : (tensor name).Ends e res e') :
    e' = e ∧ res = (match r.tensors.get? name.text with
      | some t => .ok t
      | none => .error (.refused (.noBackendTensor name.text))) := by
  rw [tensor, ends_theRequest_bind found] at h
  cases held : r.tensors.get? name.text with
  | some t =>
    rw [held] at h
    obtain ⟨rfl, rfl⟩ := Act.ends_pure.1 h
    exact ⟨rfl, rfl⟩
  | none =>
    rw [held] at h
    obtain ⟨rfl, rfl⟩ := Act.ends_fail.1 h
    exact ⟨rfl, rfl⟩

theorem setTensor_cases {e e' : Engine} {r : Request} {name : TensorName} {t : Tensor}
    {res : Except Fault Unit} (found : e.request = some r)
    (h : (setTensor name t).Ends e res e') :
    res = .ok () ∧ e' = e.withRequest { r with tensors := r.tensors.put name.text t } := by
  rw [setTensor, ends_theRequest_bind found] at h
  exact ends_setRequest.1 h

inductive BeginEnds (e : Engine) (r : Request) : Except Fault Unit → Engine → Prop
  | refused {f : Fault} {e' : Engine} (same : e'.request = some r) : BeginEnds e r (.error f) e'
  | started {plan : RunPlan} {e' : Engine}
    (running : e'.request = some { r with running := some plan }) : BeginEnds e r (.ok ()) e'

theorem beginRun_cases {c : Call} {e e' : Engine} {r : Request} {res : Except Fault Unit}
    (found : e.request = some r) (h : (beginRun c).Ends e res e') : BeginEnds e r res e' := by
  rw [beginRun, ends_theRequest_bind found, Act.ends_get_bind,
    Act.ends_bind_of_ok (Act.ends_modify.2 ⟨rfl, rfl⟩)] at h
  split at h
  · rw [Act.ends_bind_of_ok (Act.ends_call.2 ⟨rfl, rfl⟩)] at h
    obtain ⟨rfl, rfl⟩ := Act.ends_fail.1 h
    exact .refused found
  · rw [Act.ends_bind_of_ok (Act.ends_call.2 ⟨rfl, rfl⟩)] at h
    obtain ⟨rfl, rfl⟩ := ends_setRequest.1 h
    exact .started rfl

theorem publish_cases {outs : List (String × RunOutput)} {e e' : Engine} {r : Request}
    {res : Except Fault Unit} (found : e.request = some r)
    (h : (outs.forM fun (name, output) => publish name output).Ends e res e') :
    ∃ tensors, e'.request = some { r with tensors } := by
  have one {name : String} {output : RunOutput} {e e' : Engine} {r : Request}
      {res : Except Fault Unit} (found : e.request = some r)
      (h : (publish name output).Ends e res e') :
      ∃ tensors, e'.request = some { r with tensors } := by
    rw [publish, ends_theRequest_bind found] at h
    rcases Act.ends_bind.1 h with ⟨value, e₁, finds, writes⟩ | ⟨_, _, finds⟩
    · obtain ⟨_, rfl⟩ := ends_setRequest.1 writes
      exact ⟨_, rfl⟩
    · obtain ⟨_, rfl⟩ := Act.ends_lift.1 finds
      exact ⟨_, found⟩
  induction outs generalizing e r with
  | nil =>
    obtain ⟨_, rfl⟩ := Act.ends_pure.1 h
    exact ⟨_, found⟩
  | cons output rest ih =>
    rcases Act.ends_bind.1 h with ⟨_, e₁, publishes, h⟩ | ⟨_, _, publishes⟩
    · obtain ⟨_, found₁⟩ := one found publishes
      obtain ⟨_, found'⟩ := ih found₁ h
      exact ⟨_, found'⟩
    · exact one found publishes

theorem complete_cases {e e' : Engine} {r : Request} {res : Except Fault Unit}
    (found : e.request = some r) (h : complete.Ends e res e') :
    ∃ tensors, e'.request = some { r with tensors, running := none } := by
  rw [complete, ends_theRequest_bind found] at h
  split at h
  · rename_i nothing
    obtain ⟨_, rfl⟩ := Act.ends_pure.1 h
    exact ⟨r.tensors, by rw [found, ← nothing]⟩
  · rw [ends_setRequest_bind] at h
    split at h
    · obtain ⟨_, rfl⟩ := Act.ends_fail.1 h
      exact ⟨_, rfl⟩
    · exact publish_cases rfl h

theorem milliseconds_fault (timeout : Value) :
    Fails (fun f => f.isRuntime = false) (milliseconds timeout) := by
  have toInt (v : Value) : Fails (fun f => f.isRuntime = false) v.toInt := by
    unfold Value.toInt
    split
    · exact fails_ok _ _
    · exact fails_ok _ _
    · split
      · exact fails_ok _ _
      · split <;> exact fails_error rfl
    · split
      · exact fails_ok _ _
      · exact fails_error rfl
      · exact fails_error rfl
    · exact fails_error rfl
  unfold milliseconds
  split
  · exact toInt _
  · exact toInt _
  · exact fails_ok _ _
  · exact fails_ok _ _
  · exact fails_error rfl

/-- How a wait ends: the run goes on and nothing has changed, or none goes on any more. -/
inductive WaitEnds (e : Engine) (r : Request) : Except Fault Bool → Engine → Prop
  | early {res : Except Fault Bool} (unanswered : res ≠ .ok true)
    (quiet : ∀ f, res = .error f → f.isRuntime = false) : WaitEnds e r res e
  | ended {res : Except Fault Bool} {tensors : Entries String Tensor} {e' : Engine}
    (found : e'.request = some { r with tensors, running := none }) : WaitEnds e r res e'

theorem wait_cases {e e' : Engine} {r : Request} {timeout : Value} {res : Except Fault Bool}
    (found : e.request = some r) (h : (wait timeout).Ends e res e') : WaitEnds e r res e' := by
  have completes (h : (complete >>= fun _ => pure true : Act Engine Bool).Ends e res e') :
      WaitEnds e r res e' := by
    rcases Act.ends_bind.1 h with ⟨_, e₁, ends, h⟩ | ⟨_, _, ends⟩
    · obtain ⟨_, rfl⟩ := Act.ends_pure.1 h
      exact .ended (complete_cases found ends).choose_spec
    · exact .ended (complete_cases found ends).choose_spec
  rw [wait, ends_theRequest_bind found] at h
  split at h
  · rw [Act.ends_bind_of_ok (Act.ends_call.2 ⟨rfl, rfl⟩)] at h
    exact completes h
  · rcases Act.ends_bind.1 h with ⟨limit, e₁, finds, waits⟩ | ⟨f, rfl, finds⟩
    · obtain ⟨_, rfl⟩ := Act.ends_lift.1 finds
      rw [Act.ends_bind_of_ok (Act.ends_call.2 ⟨rfl, rfl⟩)] at waits
      split at waits
      · obtain ⟨rfl, rfl⟩ := Act.ends_pure.1 waits
        exact .early (by simp) (by simp)
      · exact completes waits
    · obtain ⟨same, rfl⟩ := Act.ends_lift.1 finds
      refine .early (by simp) fun f' eq => ?_
      cases eq
      exact milliseconds_fault timeout _ same.symm

def Request.released (r : Request) : Request :=
  { r with running := r.running.map fun plan => { plan with hold := false } }

theorem request_release {e : Engine} {r : Request} (found : e.request = some r) :
    (release e).request = some r.released := by
  rw [release, found]
  rfl

theorem loaded_of_use {e e' : Engine} (loaded : e.request.isSome = true) (use : Use e e') :
    e'.request.isSome = true := by
  obtain ⟨r, found⟩ := Option.isSome_iff_exists.1 loaded
  have begun {c : Call} {res : Except Fault Unit} {e₁ : Engine}
      (ends : (beginRun c).Ends e res e₁) :
      ∃ r', e₁.request = some r' := by
    cases beginRun_cases found ends with
    | refused same => exact ⟨_, same⟩
    | started running => exact ⟨_, running⟩
  rw [Option.isSome_iff_exists]
  cases use with
  | reads ends =>
    obtain ⟨rfl, _⟩ := tensor_cases found ends
    exact ⟨r, found⟩
  | writes reads ends _ =>
    obtain ⟨rfl, _⟩ := tensor_cases found reads
    obtain ⟨_, rfl⟩ := setTensor_cases found ends
    exact ⟨_, rfl⟩
  | starts ends => exact begun ends
  | waits ends =>
    cases wait_cases found ends with
    | early _ _ => exact ⟨r, found⟩
    | ended found' => exact ⟨_, found'⟩
  | infers ends =>
    rcases Act.ends_bind.1 ends with ⟨_, e₁, begins, completes⟩ | ⟨_, _, begins⟩
    · obtain ⟨r₁, found₁⟩ := begun begins
      obtain ⟨_, found'⟩ := complete_cases found₁ completes
      exact ⟨_, found'⟩
    · exact begun begins
  | released => exact ⟨_, request_release found⟩

def Unchanged (d : Descriptor) (request : Option Request) (l : Loading Engine) : Prop :=
  l.descriptor = d ∧ l.engine.request = request

section

variable (d : Descriptor) (request : Option Request)

theorem keeps_setModel (m : Model) : (setModel m).Keeps (Unchanged d request) := fun _ same => same

theorem keeps_theModel : theModel.Keeps (Unchanged d request) := by
  refine Act.keeps_bind (Act.keeps_get _) fun l => ?_
  split
  · exact Act.keeps_pure _ _
  · exact Act.keeps_fail _ _

theorem keeps_patchInput (info : TensorInfo) (m : Model) :
    (patchInput info m).Keeps (Unchanged d request) := by
  have call (c : Call) : (Act.call c : Act (Loading Engine) Unit).Keeps (Unchanged d request) :=
    Act.keeps_call _ c
  refine Act.keeps_bind (Act.keeps_get _) fun l => Act.keeps_bind (Act.keeps_lift _ _) fun t => ?_
  dsimp only
  split
  · refine Act.keeps_bind (call _) fun _ => ?_
    split
    · exact Act.keeps_bind (call _) fun _ => Act.keeps_bind (call _) fun _ => Act.keeps_pure _ _
    · exact Act.keeps_pure _ _
  · split
    · exact Act.keeps_bind (call _) fun _ => Act.keeps_bind (call _) fun _ => Act.keeps_pure _ _
    · exact Act.keeps_pure _ _

theorem keeps_patch : patch.Keeps (Unchanged d request) := by
  refine Act.keeps_bind (keeps_theModel d request) fun m =>
    Act.keeps_bind (Act.keeps_get _) fun l =>
      Act.keeps_bind (Act.keeps_foldlM (fun acc info => ?_) _ _) fun (next, changed) => ?_
  · exact Act.keeps_bind (keeps_patchInput d request info acc.1) fun _ => Act.keeps_pure _ _
  · dsimp only
    split
    · exact Act.keeps_bind (Act.keeps_call _ _) fun _ => keeps_setModel d request _
    · exact Act.keeps_pure _ _

theorem keeps_reshape : reshape.Keeps (Unchanged d request) := by
  refine Act.keeps_bind (Act.keeps_get _) fun l =>
    Act.keeps_bind (Act.keeps_lift _ _) fun info => ?_
  split
  · exact Act.keeps_fail _ _
  · dsimp only
    split
    · refine Act.keeps_bind (Act.keeps_log _ _ _ _) fun _ => Act.keeps_bind
        (keeps_theModel d request) fun m => Act.keeps_bind (Act.keeps_call _ _) fun _ => ?_
      split
      · exact Act.keeps_fail _ _
      · exact Act.keeps_bind (keeps_setModel d request _) fun _ _ same => same
    · exact Act.keeps_pure _ _

end

theorem compile_cases {l l' : Loading Engine} {res : Except Fault Unit}
    (h : compile.Ends l res l') :
    l'.descriptor = l.descriptor ∧
      (res ≠ .ok () ∧ l'.engine.request = l.engine.request ∨
        ∃ r, l'.engine.request = some r ∧ r.running = none) := by
  rcases Act.ends_bind.1 h with ⟨m, l₁, models, h⟩ | ⟨f, rfl, models⟩
  · obtain ⟨same, _⟩ := (keeps_theModel l.descriptor l.engine.request).ends models ⟨rfl, rfl⟩
    rw [Act.ends_get_bind, Act.ends_bind_of_ok (Act.ends_call.2 ⟨rfl, rfl⟩)] at h
    rcases Act.ends_bind.1 h with ⟨_, l₂, requests, h⟩ | ⟨f, rfl, requests⟩
    · obtain ⟨e', changes, rfl⟩ := Act.ends_on.1 requests
      obtain ⟨_, rfl⟩ := Act.ends_modify.1 changes
      obtain ⟨_, rfl⟩ := Act.ends_log.1 h
      exact ⟨same, .inr ⟨_, rfl, rfl⟩⟩
    · obtain ⟨e', changes, rfl⟩ := Act.ends_on.1 requests
      obtain ⟨same, _⟩ := Act.ends_modify.1 changes
      cases same
  · obtain ⟨same, same'⟩ := (keeps_theModel l.descriptor l.engine.request).ends models ⟨rfl, rfl⟩
    exact ⟨same, .inl ⟨by simp, same'⟩⟩

theorem load_cases {fit : Act Descriptor.Fitting Unit} {l l' : Loading Engine}
    {res : Except Fault Unit} (h : (load fit).Ends l res l') :
    (res ≠ .ok () ∧ l'.engine.request = l.engine.request ∨
        ∃ r, l'.engine.request = some r ∧ r.running = none) ∧
      ∃ res' network, fit.Ends (l.descriptor, l.network) res' (l'.descriptor, network) ∧
        (res = .ok () → res' = .ok ()) := by
  rcases Act.ends_bind.1 h with ⟨_, l₁, fits, h⟩ | ⟨f, rfl, fits⟩
  · obtain ⟨⟨d, network⟩, accepts, rfl⟩ := Act.ends_on.1 fits
    have fitted : Unchanged d l.engine.request { l with descriptor := d, network := network } :=
      ⟨rfl, rfl⟩
    rcases Act.ends_bind.1 h with ⟨_, l₂, patches, h⟩ | ⟨f, rfl, patches⟩
    · have patched := (keeps_patch d l.engine.request).ends patches fitted
      rcases Act.ends_bind.1 h with ⟨_, l₃, reshapes, h⟩ | ⟨f, rfl, reshapes⟩
      · obtain ⟨same, same'⟩ := (keeps_reshape d l.engine.request).ends reshapes patched
        obtain ⟨compiled, request⟩ := compile_cases h
        rw [same'] at request
        exact ⟨request, _, network, by rw [compiled, same]; exact accepts, fun _ => rfl⟩
      · obtain ⟨same, same'⟩ := (keeps_reshape d l.engine.request).ends reshapes patched
        exact ⟨.inl ⟨by simp, same'⟩, _, network, by rw [same]; exact accepts, by simp⟩
    · obtain ⟨same, same'⟩ := (keeps_patch d l.engine.request).ends patches fitted
      exact ⟨.inl ⟨by simp, same'⟩, _, network, by rw [same]; exact accepts, by simp⟩
  · obtain ⟨⟨d, network⟩, accepts, rfl⟩ := Act.ends_on.1 fits
    exact ⟨.inl ⟨by simp, rfl⟩, _, network, accepts, by simp⟩

theorem setTensor_fault {name : TensorName} {t : Tensor} {e e' : Engine} {f : Fault}
    (h : (setTensor name t).Ends e (.error f) e') : ¬ f.Misfit := by
  cases found : e.request with
  | some r =>
    obtain ⟨same, _⟩ := setTensor_cases found h
    cases same
  | none =>
    obtain ⟨⟨text, same⟩, _⟩ := ends_theRequest_bind_of_none found h
    cases same
    exact Fault.failed_not_misfit _ _

instance : Backend.Lawful Engine where
  loaded_of_load ends := by
    rcases (load_cases ends).1 with ⟨failed, _⟩ | ⟨r, found, _⟩
    · exact absurd rfl failed
    · exact Option.isSome_iff_exists.2 ⟨r, found⟩
  load_fits ends := (load_cases ends).2
  loaded_of_use := loaded_of_use
  write_fault := setTensor_fault

end FrameBatch.OpenVino
