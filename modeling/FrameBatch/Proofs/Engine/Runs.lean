import FrameBatch.Proofs.Engine.Any

namespace FrameBatch

open Backend (Watch contents)

/-- A backend that tells whether a run of an engine goes on. -/
class Backend.Runs (ε : Type) [Backend ε] where
  busy : ε → Bool
  loaded_of_busy {e : ε} (running : busy e = true) : Backend.isLoaded e = true
  busy_of_load {fit : Act Descriptor.Fitting Unit} {l l' : Loading ε} {r : Except Fault Unit}
    (ends : (Backend.load fit).Ends l r l') (running : busy l'.engine = true) :
    busy l.engine = true
  busy_of_watch {e e' : ε} (watch : Watch e e') (running : busy e' = true) :
    busy e = true ∧ ∀ name, contents name e' = contents name e
  /-- a wait does not find a run over that goes on, and does not take its failure -/
  unanswered {timeout : Value} {e e' : ε} {r : Except Fault Bool}
    (ends : (Backend.wait timeout).Ends e r e') (running : busy e' = true) :
    r ≠ .ok true ∧ ∀ f, r = .error f → f.isRuntime = false
  busy_of_write {name : TensorName} {t : Tensor} {e e' : ε} {r : Except Fault Unit}
    (ends : (Backend.setTensor name t).Ends e r e') (running : busy e' = true) : busy e = true
  busy_of_start {e e' : ε} {f : Fault} (ends : Backend.start.Ends e (.error f) e')
    (running : busy e' = true) : busy e = true
  busy_of_infer {e e' : ε} {r : Except Fault Unit} (ends : Backend.infer.Ends e r e')
    (running : busy e' = true) : busy e = true

namespace Onnx

def Request.busy (r : Request) : Bool :=
  match r.job with
  | some (.running ..) => true
  | _ => false

def Engine.busy (e : Engine) : Bool := e.request.any Request.busy

theorem Engine.busy_of_found {e : Engine} {r : Request} (found : e.request = some r) :
    e.busy = r.busy := by
  rw [busy, found, Option.any_some]

theorem Engine.busy_congr {e e' : Engine} (same : e'.request = e.request) : e'.busy = e.busy := by
  rw [busy, busy, same]

theorem Request.not_busy_released (r : Request) : r.released.busy = false := by
  unfold released
  split
  · rfl
  · rename_i other
    unfold busy
    split
    · rename_i plan copies running
      exact absurd running (other plan copies)
    · rfl

theorem eq_of_wait {timeout : Value} {e e' : Engine} {r : Request} {res : Except Fault Bool}
    (found : e.request = some r) (ends : (wait timeout).Ends e res e')
    (running : e'.busy = true) :
    e' = e ∧ res ≠ .ok true ∧ ∀ f, res = .error f → f.isRuntime = false := by
  cases wait_cases found ends with
  | idle nothing => simp [Engine.busy_of_found found, Request.busy, nothing] at running
  | early _ _ unanswered quiet =>
    refine ⟨rfl, unanswered, fun f same => ?_⟩
    exact Bool.eq_false_iff.2 fun runtime => quiet f same (.inl runtime)
  | collected _ => cases running
  | failed _ => cases running

theorem eq_of_watch {e e' : Engine} (watch : Watch e e') (running : e'.busy = true) : e' = e := by
  cases found : e.request with
  | none =>
    cases watch with
    | reads ends => exact (ends_theRequest_bind_of_none found ends).2
    | waits ends => exact (ends_theRequest_bind_of_none found ends).2
    | released =>
      have absent : (release e).request = none := by rw [release, found, Option.map_none]
      change (release e).busy = true at running
      simp [Engine.busy, absent] at running
  | some r =>
    cases watch with
    | reads ends => exact (tensor_cases found ends).1
    | waits ends => exact (eq_of_wait found ends running).1
    | released =>
      change (release e).busy = true at running
      rw [Engine.busy_of_found (request_release found), Request.not_busy_released] at running
      cases running

theorem busy_of_infer {e e' : Engine} {res : Except Fault Unit} (ends : infer.Ends e res e')
    (running : e'.busy = true) : e.busy = true := by
  cases found : e.request with
  | none =>
    rcases Act.ends_bind.1 ends with ⟨_, e₁, waits, _⟩ | ⟨_, _, waits⟩
    · obtain ⟨⟨_, same⟩, _⟩ := ends_theRequest_bind_of_none found waits
      cases same
    · obtain ⟨_, rfl⟩ := ends_theRequest_bind_of_none found waits
      exact running
  | some r =>
    have waited {res : Except Fault Bool} {e₁ : Engine} (waits : (wait .null).Ends e res e₁)
        (running : e₁.busy = true) : e.busy = true := by
      obtain ⟨rfl, _⟩ := eq_of_wait found waits running
      exact running
    cases infer_cases found ends with
    | waiting waits => exact waited waits running
    | @failed _ _ e₁ _ waits _ _ =>
      rw [Engine.busy_congr (request_begun e₁)] at running
      exact waited waits running
    | inferred waits found₁ _ =>
      exact waited waits ((Engine.busy_of_found found₁).trans running)

instance : Backend.Runs Engine where
  busy := Engine.busy
  loaded_of_busy running := by
    obtain ⟨loaded, _⟩ := (Option.any_eq_true_iff_get _ _).1 running
    exact loaded
  busy_of_load {fit l l' r} ends running := by
    rcases (load_cases ends).1 with ⟨_, same⟩ | ⟨r, found, idle⟩
    · exact (Engine.busy_congr same.symm).trans running
    · simp [Engine.busy_of_found found, Request.busy, idle] at running
  busy_of_watch watch running := by
    cases eq_of_watch watch running
    exact ⟨running, fun _ => rfl⟩
  unanswered {timeout e e' r} ends running := by
    cases found : e.request with
    | none =>
      obtain ⟨⟨text, rfl⟩, _⟩ := ends_theRequest_bind_of_none found ends
      exact ⟨by simp, by rintro _ ⟨⟩; rfl⟩
    | some r => exact (eq_of_wait found ends running).2
  busy_of_write {name t e e' r} ends running := by
    cases found : e.request with
    | none =>
      obtain ⟨_, rfl⟩ := ends_theRequest_bind_of_none found ends
      exact running
    | some r =>
      rw [Engine.busy_of_found found]
      obtain ⟨_, ⟨_, rfl⟩ | ⟨_, rfl⟩⟩ := setTensor_cases found ends <;> exact running
  busy_of_start {e e' f} ends running := by
    cases found : e.request with
    | none =>
      obtain ⟨_, rfl⟩ := ends_theRequest_bind_of_none found ends
      exact running
    | some r =>
      cases start_cases found ends with
      | refused => exact running
  busy_of_infer := busy_of_infer

end Onnx

namespace Rehearsal

def busy (e : Rehearsal) : Bool := e.request.any (·.running.isSome)

theorem busy_of_found {e : Rehearsal} {r : Request} (found : e.request = some r) :
    e.busy = r.running.isSome := by
  rw [busy, found, Option.any_some]

theorem not_busy_of_complete {e e' : Rehearsal} {r : Request} {res : Except Fault Unit}
    (found : e.request = some r) (completes : CompleteEnds e r res e') : e'.busy = false := by
  cases completes with
  | idle nothing => rw [busy_of_found found, nothing, Option.isSome_none]
  | ended _ found' _ => rw [busy_of_found found', Option.isSome_none]

theorem eq_of_wait {timeout : Value} {e e' : Rehearsal} {r : Request} {res : Except Fault Bool}
    (found : e.request = some r) (ends : (wait timeout).Ends e res e')
    (running : e'.busy = true) : e' = e ∧ res = .ok false := by
  cases wait_cases found ends with
  | idle nothing => simp [busy_of_found found, nothing] at running
  | held _ => exact ⟨rfl, rfl⟩
  | ended _ completes => simp [not_busy_of_complete found completes] at running

theorem busy_of_watch {e e' : Rehearsal} (watch : Watch e e') (running : e'.busy = true) :
    e.busy = true ∧ ∀ name, contents name e' = contents name e := by
  have quiet (same : e' = e) : e.busy = true ∧ ∀ name, contents name e' = contents name e :=
    ⟨same ▸ running, fun _ => by rw [same]⟩
  cases found : e.request with
  | none =>
    cases watch with
    | reads ends => exact quiet (ends_theRequest_bind_of_none found ends).2
    | waits ends => exact quiet (ends_theRequest_bind_of_none found ends).2
    | released =>
      have absent : (release e).request = none := by rw [release, found, Option.map_none]
      change (release e).busy = true at running
      simp [busy, absent] at running
  | some r =>
    cases watch with
    | reads ends => exact quiet (tensor_cases found ends).1
    | waits ends => exact quiet (eq_of_wait found ends running).1
    | released =>
      have found' := request_release found
      change (release e).busy = true at running
      refine ⟨?_, fun name => ?_⟩
      · rw [busy_of_found found'] at running
        rw [busy_of_found found]
        simpa [Request.released] using running
      · exact (contents_eq found' name).trans (contents_eq found name).symm

theorem busy_of_start {e e' : Rehearsal} {f : Fault} (ends : start.Ends e (.error f) e')
    (running : e'.busy = true) : e.busy = true := by
  cases found : e.request with
  | none =>
    obtain ⟨_, rfl⟩ := ends_theRequest_bind_of_none found ends
    exact running
  | some r =>
    cases start_cases found ends with
    | refused => exact running

instance : Backend.Runs Rehearsal where
  busy := busy
  loaded_of_busy running := by
    obtain ⟨loaded, _⟩ := (Option.any_eq_true_iff_get _ _).1 running
    exact loaded
  busy_of_load {fit l l' r} ends running := by
    rcases (load_cases ends).1 with ⟨_, same⟩ | ⟨r, found, idle⟩
    · rwa [busy, same] at running
    · simp [busy_of_found found, idle] at running
  busy_of_watch := busy_of_watch
  unanswered {timeout e e' r} ends running := by
    cases found : e.request with
    | none =>
      obtain ⟨⟨text, rfl⟩, _⟩ := ends_theRequest_bind_of_none found ends
      exact ⟨by simp, by rintro _ ⟨⟩; rfl⟩
    | some r =>
      obtain ⟨_, rfl⟩ := eq_of_wait found ends running
      exact ⟨by simp, by simp⟩
  busy_of_write {name t e e' r} ends running := by
    cases found : e.request with
    | none =>
      obtain ⟨_, rfl⟩ := ends_theRequest_bind_of_none found ends
      exact running
    | some r =>
      rw [busy_of_found found]
      obtain ⟨_, ⟨_, rfl⟩ | ⟨_, rfl⟩⟩ := setTensor_cases found ends <;> exact running
  busy_of_start := busy_of_start
  busy_of_infer {e e' r} ends running := by
    rcases Act.ends_bind.1 ends with ⟨_, e₁, starts, completes⟩ | ⟨f, rfl, starts⟩
    · cases found : e₁.request with
      | none =>
        obtain ⟨_, rfl⟩ := ends_theRequest_bind_of_none found completes
        simp [busy, found] at running
      | some r₁ =>
        simp [not_busy_of_complete found (complete_cases found completes)] at running
    · exact busy_of_start starts running

end Rehearsal

namespace OpenVino

def Engine.busy (e : Engine) : Bool := e.request.any (·.running.isSome)

theorem Engine.busy_of_found {e : Engine} {r : Request} (found : e.request = some r) :
    e.busy = r.running.isSome := by
  rw [busy, found, Option.any_some]

theorem eq_of_wait {timeout : Value} {e e' : Engine} {r : Request} {res : Except Fault Bool}
    (found : e.request = some r) (ends : (wait timeout).Ends e res e')
    (running : e'.busy = true) :
    e' = e ∧ res ≠ .ok true ∧ ∀ f, res = .error f → f.isRuntime = false := by
  cases wait_cases found ends with
  | early unanswered quiet => exact ⟨rfl, unanswered, quiet⟩
  | ended found' => simp [Engine.busy_of_found found'] at running

theorem busy_of_watch {e e' : Engine} (watch : Watch e e') (running : e'.busy = true) :
    e.busy = true ∧ ∀ name, contents name e' = contents name e := by
  have quiet (same : e' = e) : e.busy = true ∧ ∀ name, contents name e' = contents name e :=
    ⟨same ▸ running, fun _ => by rw [same]⟩
  cases found : e.request with
  | none =>
    cases watch with
    | reads ends => exact quiet (ends_theRequest_bind_of_none found ends).2
    | waits ends => exact quiet (ends_theRequest_bind_of_none found ends).2
    | released =>
      have absent : (release e).request = none := by rw [release, found, Option.map_none]
      change (release e).busy = true at running
      simp [Engine.busy, absent] at running
  | some r =>
    cases watch with
    | reads ends => exact quiet (tensor_cases found ends).1
    | waits ends => exact quiet (eq_of_wait found ends running).1
    | released =>
      have found' := request_release found
      change (release e).busy = true at running
      refine ⟨?_, fun name => ?_⟩
      · rw [Engine.busy_of_found found'] at running
        rw [Engine.busy_of_found found]
        simpa [Request.released] using running
      · exact (tensor_cases found' ((tensor name).ends_self _)).2.trans
          (tensor_cases found ((tensor name).ends_self _)).2.symm

theorem busy_of_beginRun {c : Call} {e e' : Engine} {f : Fault}
    (ends : (beginRun c).Ends e (.error f) e') (running : e'.busy = true) : e.busy = true := by
  cases found : e.request with
  | none =>
    obtain ⟨_, rfl⟩ := ends_theRequest_bind_of_none found ends
    exact running
  | some r =>
    cases beginRun_cases found ends with
    | refused same => rwa [Engine.busy_of_found found, ← Engine.busy_of_found same]

instance : Backend.Runs Engine where
  busy := Engine.busy
  loaded_of_busy running := by
    obtain ⟨loaded, _⟩ := (Option.any_eq_true_iff_get _ _).1 running
    exact loaded
  busy_of_load {fit l l' r} ends running := by
    rcases (load_cases ends).1 with ⟨_, same⟩ | ⟨r, found, idle⟩
    · rwa [Engine.busy, same] at running
    · simp [Engine.busy_of_found found, idle] at running
  busy_of_watch := busy_of_watch
  unanswered {timeout e e' r} ends running := by
    cases found : e.request with
    | none =>
      obtain ⟨⟨text, rfl⟩, _⟩ := ends_theRequest_bind_of_none found ends
      exact ⟨by simp, by rintro _ ⟨⟩; rfl⟩
    | some r => exact (eq_of_wait found ends running).2
  busy_of_write {name t e e' r} ends running := by
    cases found : e.request with
    | none =>
      obtain ⟨_, rfl⟩ := ends_theRequest_bind_of_none found ends
      exact running
    | some r =>
      rw [Engine.busy_of_found found]
      obtain ⟨_, rfl⟩ := setTensor_cases found ends
      exact running
  busy_of_start := busy_of_beginRun
  busy_of_infer {e e' r} ends running := by
    rcases Act.ends_bind.1 ends with ⟨_, e₁, begins, completes⟩ | ⟨f, rfl, begins⟩
    · cases found : e₁.request with
      | none =>
        obtain ⟨_, rfl⟩ := ends_theRequest_bind_of_none found completes
        simp [Engine.busy, found] at running
      | some r₁ =>
        obtain ⟨_, found'⟩ := complete_cases found completes
        simp [Engine.busy_of_found found'] at running
    · exact busy_of_beginRun begins running

end OpenVino

namespace Engine

def busy : Engine → Bool
  | .rehearsal e => e.busy
  | .onnx e => e.busy
  | .openvino e => e.busy

namespace Wraps

open Backend (Runs)

variable {κ : Type} [Backend κ] [Runs κ] {wrap : κ → Engine} (wraps : Wraps wrap)
  (same : ∀ e, (wrap e).busy = Runs.busy e)

include wraps same

theorem loaded_of_busy {e : κ} (running : (wrap e).busy = true) :
    Backend.isLoaded (wrap e) = true := by
  rw [same] at running
  rw [wraps.isLoaded]
  exact Runs.loaded_of_busy running

theorem busy_of_load {fit : Act Descriptor.Fitting Unit} {d : Descriptor} {n : Network} {e : κ}
    {l' : Loading Engine} {r : Except Fault Unit}
    (ends : (Engine.load fit).Ends ⟨d, n, wrap e⟩ r l') (running : l'.engine.busy = true) :
    (wrap e).busy = true := by
  obtain ⟨l₀, loads, rfl⟩ := wraps.ends_load ends
  rw [same] at running ⊢
  exact Runs.busy_of_load loads running

theorem busy_of_watch {e : κ} {e' : Engine} (watch : Watch (wrap e) e')
    (running : e'.busy = true) :
    (wrap e).busy = true ∧ ∀ name, contents name e' = contents name (wrap e) := by
  obtain ⟨e₀, watch', rfl⟩ := wraps.watch_cases watch
  rw [same] at running ⊢
  obtain ⟨running', kept⟩ := Runs.busy_of_watch watch' running
  have read (name : TensorName) (e : κ) : contents name (wrap e) = contents name e :=
    congrArg Outcome.result (wraps.dispatch (fun _ => Backend.tensor name) e)
  exact ⟨running', fun name => by rw [read, read, kept]⟩

theorem unanswered {timeout : Value} {e : κ} {e' : Engine} {r : Except Fault Bool}
    (ends : (Backend.wait timeout).Ends (wrap e) r e') (running : e'.busy = true) :
    r ≠ .ok true ∧ ∀ f, r = .error f → f.isRuntime = false := by
  obtain ⟨e₀, waits, rfl⟩ := wraps.ends_dispatch ends
  rw [same] at running
  exact Runs.unanswered waits running

theorem busy_of_write {name : TensorName} {t : Tensor} {e : κ} {e' : Engine}
    {r : Except Fault Unit} (ends : (Backend.setTensor name t).Ends (wrap e) r e')
    (running : e'.busy = true) : (wrap e).busy = true := by
  obtain ⟨e₀, writes, rfl⟩ := wraps.ends_dispatch ends
  rw [same] at running ⊢
  exact Runs.busy_of_write writes running

theorem busy_of_start {e : κ} {e' : Engine} {f : Fault}
    (ends : Backend.start.Ends (wrap e) (.error f) e') (running : e'.busy = true) :
    (wrap e).busy = true := by
  obtain ⟨e₀, starts, rfl⟩ := wraps.ends_dispatch ends
  rw [same] at running ⊢
  exact Runs.busy_of_start starts running

theorem busy_of_infer {e : κ} {e' : Engine} {r : Except Fault Unit}
    (ends : Backend.infer.Ends (wrap e) r e') (running : e'.busy = true) :
    (wrap e).busy = true := by
  obtain ⟨e₀, infers, rfl⟩ := wraps.ends_dispatch ends
  rw [same] at running ⊢
  exact Runs.busy_of_infer infers running

end Wraps

instance : Backend.Runs Engine where
  busy := busy
  loaded_of_busy := by
    rintro (e | e | e) running
    · exact wraps_rehearsal.loaded_of_busy (fun _ => rfl) running
    · exact wraps_onnx.loaded_of_busy (fun _ => rfl) running
    · exact wraps_openvino.loaded_of_busy (fun _ => rfl) running
  busy_of_load := by
    rintro fit ⟨d, n, e | e | e⟩ l' r ends running
    · exact wraps_rehearsal.busy_of_load (fun _ => rfl) ends running
    · exact wraps_onnx.busy_of_load (fun _ => rfl) ends running
    · exact wraps_openvino.busy_of_load (fun _ => rfl) ends running
  busy_of_watch := by
    rintro (e | e | e) e' watch running
    · exact wraps_rehearsal.busy_of_watch (fun _ => rfl) watch running
    · exact wraps_onnx.busy_of_watch (fun _ => rfl) watch running
    · exact wraps_openvino.busy_of_watch (fun _ => rfl) watch running
  unanswered := by
    rintro timeout (e | e | e) e' r ends running
    · exact wraps_rehearsal.unanswered (fun _ => rfl) ends running
    · exact wraps_onnx.unanswered (fun _ => rfl) ends running
    · exact wraps_openvino.unanswered (fun _ => rfl) ends running
  busy_of_write := by
    rintro name t (e | e | e) e' r ends running
    · exact wraps_rehearsal.busy_of_write (fun _ => rfl) ends running
    · exact wraps_onnx.busy_of_write (fun _ => rfl) ends running
    · exact wraps_openvino.busy_of_write (fun _ => rfl) ends running
  busy_of_start := by
    rintro (e | e | e) e' f ends running
    · exact wraps_rehearsal.busy_of_start (fun _ => rfl) ends running
    · exact wraps_onnx.busy_of_start (fun _ => rfl) ends running
    · exact wraps_openvino.busy_of_start (fun _ => rfl) ends running
  busy_of_infer := by
    rintro (e | e | e) e' r ends running
    · exact wraps_rehearsal.busy_of_infer (fun _ => rfl) ends running
    · exact wraps_onnx.busy_of_infer (fun _ => rfl) ends running
    · exact wraps_openvino.busy_of_infer (fun _ => rfl) ends running

end Engine

end FrameBatch
