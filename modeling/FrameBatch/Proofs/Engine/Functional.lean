import FrameBatch.Proofs.Engine.OnnxRun

namespace FrameBatch

namespace Backend

variable {ε : Type} [Backend ε]

/-- A look at a run that goes on, or the end of one that was held. -/
inductive Poll : ε → ε → Prop
  | waits {timeout : Value} {e e' : ε} (ends : (Backend.wait timeout).Ends e (.ok false) e') :
    Poll e e'
  | released (e : ε) : Poll e (Backend.release e)

abbrev Polls : ε → ε → Prop := Relation.ReflTransGen Poll

/-- A run from its start to its end, without a failure. -/
inductive Ran : ε → ε → Prop
  | inferred {e e' : ε} (ends : Backend.infer.Ends e (.ok ()) e') : Ran e e'
  | waited {timeout : Value} {e e₁ e₂ e' : ε} (starts : Backend.start.Ends e (.ok ()) e₁)
    (polls : Polls e₁ e₂) (ends : (Backend.wait timeout).Ends e₂ (.ok true) e') : Ran e e'

theorem Poll.serve {e e' : ε} (poll : Poll e e') : Serve e e' := by
  cases poll with
  | waits ends => exact .watches (.waits ends)
  | released => exact .watches (.released e)

theorem Ran.steps {inputs : List String} {e e' : ε} (ran : Ran e e') : Steps inputs e e' := by
  cases ran with
  | inferred ends => exact .single (.serves (.infers ends))
  | waited starts polls ends =>
    have polling : Steps inputs _ _ :=
      Relation.ReflTransGen.mono (fun _ _ poll => .serves poll.serve) _ _ polls
    exact (polling.head (.serves (.starts starts))).tail (.serves (.watches (.waits ends)))

/-- From this state on the engine leaves its inputs alone, and a run that does not fail leaves in
the output what the inputs yield. -/
structure Functional (inputs : List String) (output : TensorName)
    (yield : List (Except Fault Tensor) → Except Fault Tensor) (e : ε) : Prop where
  inert : Inert inputs e
  yields {e₁ e₂ : ε} (earlier : Steps inputs e e₁) (ran : Ran e₁ e₂) :
    contents output e₂ = yield (inputs.map fun name => contents (some name) e₁)

namespace Functional

variable {inputs : List String} {output : TensorName}
  {yield : List (Except Fault Tensor) → Except Fault Tensor} {e e' : ε}

theorem steps (functional : Functional inputs output yield e) (steps : Steps inputs e e') :
    Functional inputs output yield e' where
  inert := functional.inert.steps steps
  yields earlier := functional.yields (steps.trans earlier)

theorem agree {f f' : ε} (functional : Functional inputs output yield e)
    (functional' : Functional inputs output yield f)
    (same : ∀ name ∈ inputs, contents (some name) e = contents (some name) f) (ran : Ran e e')
    (ran' : Ran f f') : contents output e' = contents output f' := by
  rw [functional.yields .refl ran, functional'.yields .refl ran']
  exact congrArg yield (List.map_congr_left same)

end Functional

end Backend

structure Script.Always (outputs : List (String × RunOutput)) (script : Script) : Prop where
  runs : script.runs ≠ []
  yields : ∀ plan ∈ script.runs, plan.fault? = none → plan.outputs = outputs

theorem Script.Always.congr {outputs : List (String × RunOutput)} {script script' : Script}
    (always : script.Always outputs) (same : script'.runs = script.runs) :
    script'.Always outputs :=
  ⟨same ▸ always.runs, same ▸ always.yields⟩

theorem Script.plan_mem {script : Script} (runs : script.runs ≠ []) :
    script.plan ∈ script.runs := by
  have length := List.length_pos_iff.2 runs
  have inside : min script.started (script.runs.length - 1) < script.runs.length := by omega
  rw [Script.plan, List.getD_eq_getElem?_getD, List.getElem?_eq_getElem inside, Option.getD_some]
  exact List.getElem_mem inside

namespace Onnx

open Backend (Step Steps Ran Polls Functional contents)

theorem Engine.outputs_of_always {e : Engine} {outputs : List (String × RunOutput)}
    (always : e.script.Always outputs) (succeeds : e.plan.fault? = none) :
    e.plan.outputs = outputs := by
  unfold Engine.plan at succeeds ⊢
  cases opened : e.isOpen with
  | true =>
    rw [opened, if_pos rfl] at succeeds
    rw [if_pos rfl]
    exact always.yields _ (Script.plan_mem always.runs) succeeds
  | false =>
    rw [opened, if_neg (by simp)] at succeeds
    cases succeeds

namespace Request

/-- The request has one output, and an input that a run converts to the type of the graph. -/
structure Converts (input output : String) (type : ElementType) (t : Tensor) (r : Request) :
    Prop where
  outputNames : r.outputNames = [output]
  declared : r.declared.get? input = some type
  held : r.buffers.get? input = some t
  unlike : t.type ≠ .element type
  apart : r.buffers.get? output = none

variable {r : Request} {input output : String} {type : ElementType} {t : Tensor}

theorem Converts.declaredType (converts : r.Converts input output type t) :
    r.declaredType input t = .element type := by
  simp [Request.declaredType, converts.declared]

theorem Converts.put (converts : r.Converts input output type t) {name : String} {t' old : Tensor}
    (held : r.buffers.get? name = some old) (same : t'.type = old.type) :
    ∃ t₁, ({ r with buffers := r.buffers.put name t' } : Request).Converts
      input output type t₁ := by
  have apart : Entries.get? output (r.buffers.put name t') = none := by
    rw [Entries.get?_put_of_ne ?_, converts.apart]
    rintro rfl
    cases converts.apart.symm.trans held
  by_cases here : input = name
  · subst here
    cases converts.held.symm.trans held
    exact ⟨t', converts.outputNames, converts.declared, Entries.get?_put_self _ _ _,
      same ▸ converts.unlike, apart⟩
  · exact ⟨t, converts.outputNames, converts.declared,
      by rw [Entries.get?_put_of_ne here, converts.held], converts.unlike, apart⟩

def fed (r : Request) (name : String) (buffer : Tensor) : Tensor :=
  buffer.cast (r.declaredType name buffer)

theorem get?_feeds (r : Request) (name : String) :
    Entries.get? name r.feeds = (r.buffers.get? name).map (r.fed name) :=
  Entries.get?_map name r.fed r.buffers

theorem get?_seen (r : Request) (copies : Entries String Tensor) (name : String) :
    Entries.get? name (r.seen copies) =
      (r.buffers.get? name).map (copies.get? name).getD :=
  Entries.get?_map name (fun name => (Entries.get? name copies).getD) r.buffers

theorem get?_copies {name : String} {buffer : Tensor} (held : r.buffers.get? name = some buffer)
    (unlike : r.declaredType name buffer ≠ buffer.type) :
    Entries.get? name r.copies = some (r.fed name buffer) := by
  refine (Entries.get?_map name r.fed _).trans ?_
  rw [Entries.get?_filter held (by simpa using unlike), Option.map_some]

theorem Converts.sees (converts : r.Converts input output type t) (hold : Bool) :
    Entries.get? input (if hold then r.seen r.copies else r.feeds) =
      some (t.cast (.element type)) := by
  have unlike : r.declaredType input t ≠ t.type := by
    rw [converts.declaredType]
    exact converts.unlike.symm
  cases hold
  · rw [if_neg (by simp), get?_feeds, converts.held, Option.map_some, fed, converts.declaredType]
  · rw [if_pos rfl, get?_seen, converts.held, Option.map_some, get?_copies converts.held unlike,
      Option.getD_some, fed, converts.declaredType]

theorem fault?_of_runResult {plan : RunPlan} {inputs outputs : Entries String Tensor}
    (h : r.runResult plan inputs = .ok outputs) : plan.fault? = none := by
  unfold runResult at h
  cases fault : plan.fault? with
  | none => rfl
  | some f =>
    simp only [fault] at h
    cases f <;> cases h

theorem runResult_copy {plan : RunPlan} {inputs outputs : Entries String Tensor} {t : Tensor}
    (outputNames : r.outputNames = [output]) (copies : plan.outputs = [(output, .copy input)])
    (held : inputs.get? input = some t) (h : r.runResult plan inputs = .ok outputs) :
    outputs = [(output, t)] := by
  have fault := fault?_of_runResult h
  simp [runResult, fault, outputNames, copies, RunPlan.value, held, Entries.ofList,
    Entries.putAll, Entries.put, bind, Except.bind, pure, Except.pure] at h
  exact h.symm

end Request

open Request (Converts After Progress)

theorem contents_of_output {e : Engine} {r : Request} {output : String} {t : Tensor}
    (found : e.request = some r) (apart : r.buffers.get? output = none)
    (yielded : r.outputs = [(output, t)]) : contents (some output) e = .ok t := by
  refine (tensor_of_found found ?_).result
  simp [Request.tensor?, TensorName.text, apart, yielded, Entries.get?]

theorem after_polls {first r : Request} {own : RunResult} {e e' : Engine}
    (fault : ∀ f, own = .error f → f.OfRun) (found : e.request = some r)
    (after : After first own False r) (polls : Polls e e') :
    ∃ r', e'.request = some r' ∧ After first own False r' := by
  induction polls with
  | refl => exact ⟨r, found, after⟩
  | tail _ poll ih =>
    obtain ⟨r₁, found₁, after₁⟩ := ih
    cases poll with
    | waits ends =>
      obtain ⟨r', found', after', _⟩ := after₁.wait fault found₁ ends
      exact ⟨r', found', after'.buffers, after'.progress.congr (by simp)⟩
    | released => exact ⟨_, request_release found₁, after₁.release⟩

section

variable {input output : String} {type : ElementType} {t : Tensor} {e e' : Engine} {r : Request}

theorem contents_of_ran (always : e.script.Always [(output, .copy input)])
    (found : e.request = some r) (converts : r.Converts input output type t) (ran : Ran e e') :
    contents (some output) e' = .ok (t.cast (.element type)) := by
  cases ran with
  | inferred ends =>
    cases infer_cases found ends with
    | inferred waits found₁ run =>
      obtain ⟨job, taken, found', runs⟩ := request_wait found waits
      cases found₁.symm.trans found'
      have copies := Engine.outputs_of_always (always.congr runs)
        (Request.fault?_of_runResult run)
      have yielded := Request.runResult_copy converts.outputNames copies (converts.sees false) run
      exact contents_of_output rfl converts.apart yielded
  | waited starts polls ends =>
    -- the run that was started is the one that the last wait takes over
    cases start_cases found starts with
    | started =>
      have fault (f : Fault) (failed : r.outcome e.plan = .error f) : f.OfRun :=
        Request.runResult_fault failed
      obtain ⟨r₂, found₂, after₂⟩ := after_polls fault rfl
        ⟨rfl, .underway id (r.awaited?_started e.plan) rfl⟩ polls
      obtain ⟨r', found', after', idle⟩ := after₂.wait fault found₂ ends
      have run := (after'.outputs (idle (.inr rfl))).1 (by simp)
      have copies := Engine.outputs_of_always always (Request.fault?_of_runResult run)
      have yielded := Request.runResult_copy converts.outputNames copies
        (converts.sees e.plan.hold) run
      exact contents_of_output found' (by rw [after'.buffers, converts.apart]) yielded

end

/-- Every run copies an input, in the type of the graph, to the only output. -/
structure Copies (input output : String) (type : ElementType) (e : Engine) : Prop where
  always : e.script.Always [(output, .copy input)]
  converts : ∃ r t, e.request = some r ∧ r.Converts input output type t

theorem Copies.step {inputs : List String} {input output : String} {type : ElementType}
    {e e' : Engine} (copies : Copies input output type e) (step : Step inputs e e') :
    Copies input output type e' := by
  obtain ⟨always, r, t, found, converts⟩ := copies
  cases step with
  | serves serve =>
    obtain ⟨job, outputs, found', runs⟩ := serve_cases found serve
    exact ⟨always.congr runs, _, t, found', converts.outputNames, converts.declared,
      converts.held, converts.unlike, converts.apart⟩
  | @writes _ _ _ _ _ old _ _ reads same _ ends =>
    obtain ⟨rfl, held, _⟩ := tensor_cases found reads
    obtain ⟨_, ⟨⟨old', buffered⟩, rfl⟩ | ⟨_, rfl⟩⟩ := setTensor_cases found ends
    · have held := held old rfl
      rw [Request.tensor?, buffered, Option.some_or] at held
      cases held
      obtain ⟨t₁, converts⟩ := converts.put buffered same
      exact ⟨always, _, t₁, rfl, converts⟩
    · exact ⟨always, _, t, rfl, converts.outputNames, converts.declared, converts.held,
        converts.unlike, converts.apart⟩

theorem Copies.steps {inputs : List String} {input output : String} {type : ElementType}
    {e e' : Engine} (copies : Copies input output type e) (steps : Steps inputs e e') :
    Copies input output type e' := by
  induction steps with
  | refl => exact copies
  | tail _ step ih => exact ih.step step

def converted (type : ElementType) (tensors : List (Except Fault Tensor)) : Except Fault Tensor :=
  (tensors.headD (refuse (.noTensor (TensorName.text none)))).map (·.cast (.element type))

/-- An engine that copies its first input to its output computes it from its inputs. -/
theorem Copies.functional {input output : String} {others : List String} {type : ElementType}
    {e : Engine} {r : Request} (copies : Copies input output type e) (found : e.request = some r)
    (buffered : ∀ name ∈ input :: others, ∃ t, r.buffers.get? name = some t) :
    Functional (input :: others) (some output) (converted type) e where
  inert := inert_of_buffers found buffered
  yields {e₁ e₂} earlier ran := by
    obtain ⟨always, r₁, t, found₁, converts⟩ := copies.steps earlier
    rw [contents_of_ran always found₁ converts ran, List.map_cons, converted, List.headD_cons,
      contents_of_buffer found₁ converts.held]
    rfl

end Onnx

end FrameBatch
