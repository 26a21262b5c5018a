import FrameBatch.Proofs.Engine.Onnx

/-!
What becomes of a run that was started on a request. Whoever waits for it first takes its result
over; a failure leaves the outputs of an earlier run in place, and is gone once it was reported.
-/

namespace FrameBatch.Onnx

namespace Request

/-- How a run that begins on the request is going to end, if its buffers are left alone. -/
def outcome (r : Request) (plan : RunPlan) : RunResult :=
  r.runResult plan (if plan.hold then r.seen r.copies else r.feeds)

def awaited? (r : Request) : Option RunResult :=
  match r.job with
  | some (.finished result) => some result
  | some (.running plan copies) => some (r.runResult plan (r.seen copies))
  | none => none

theorem runResult_fault {r : Request} {plan : RunPlan} {inputs : Entries String Tensor}
    {f : Fault} (h : r.runResult plan inputs = .error f) : f.OfRun := by
  unfold runResult at h
  dsimp only at h
  split at h
  · cases h
  · cases h
    exact .inr rfl
  · cases h
    exact .inl rfl

theorem awaited?_started (r : Request) (plan : RunPlan) :
    ({ r with job := some (r.started plan) } : Request).awaited? = some (r.outcome plan) := by
  unfold started outcome
  cases plan.hold <;> rfl

theorem awaited?_of_collected {r : Request} {timeout : Value} {result : RunResult}
    (ended : r.collected? timeout = some result) : r.awaited? = some result := by
  unfold collected? at ended
  unfold awaited?
  cases job : r.job with
  | none =>
    rw [job] at ended
    cases ended
  | some run =>
    rw [job] at ended
    cases run with
    | finished _ => exact ended
    | running plan copies =>
      dsimp only at ended
      split at ended
      · exact ended
      · cases ended

theorem awaited?_released (r : Request) : r.released.awaited? = r.awaited? := by
  cases job : r.job with
  | none => simp only [released, awaited?, job]
  | some run =>
    cases run with
    | finished result => simp only [released, awaited?, job]
    | running plan copies => simp only [released, awaited?, job]

theorem job_released {r : Request} (idle : r.job = none) : r.released.job = none := by
  simp only [released, idle]

theorem outputs_released (r : Request) : r.released.outputs = r.outputs := by
  unfold released
  split <;> rfl

/-- How far a run has come that began on a request and ends in `own`: it is not taken over yet, its
outputs are those of the request, or its failure was taken by somebody and left nothing behind. -/
inductive Progress (first : Request) (own : RunResult) (taken : Prop) (r : Request) : Prop
  | underway (whole : ¬ taken) (awaited : r.awaited? = some own)
    (kept : r.outputs = first.outputs) : Progress first own taken r
  | settled (whole : ¬ taken) (idle : r.job = none) (good : own = .ok r.outputs) :
    Progress first own taken r
  | lost {f : Fault} (spent : taken) (idle : r.job = none) (fault : own = .error f)
    (kept : r.outputs = first.outputs) : Progress first own taken r

theorem Progress.congr {first r : Request} {own : RunResult} {taken taken' : Prop}
    (progress : Progress first own taken r) (same : taken' ↔ taken) :
    Progress first own taken' r := by
  cases propext same
  exact progress

structure After (first : Request) (own : RunResult) (taken : Prop) (r : Request) : Prop where
  buffers : r.buffers = first.buffers
  progress : Progress first own taken r

variable {first r : Request} {own : RunResult} {taken : Prop}

theorem After.wait (after : After first own taken r) (fault : ∀ f, own = .error f → f.OfRun)
    {e e' : Engine} {timeout : Value} {res : Except Fault Bool} (found : e.request = some r)
    (h : (Onnx.wait timeout).Ends e res e') :
    ∃ r', e'.request = some r' ∧
      After first own (taken ∨ ∃ f, res = .error f ∧ f.OfRun) r' ∧
      (r.job = none ∨ res = .ok true → r'.job = none) := by
  have pending {result : RunResult} (ended : r.collected? timeout = some result) :
      ¬ taken ∧ own = result ∧ r.outputs = first.outputs := by
    have awaited := awaited?_of_collected ended
    cases after.progress with
    | underway whole awaited' kept =>
      cases awaited.symm.trans awaited'
      exact ⟨whole, rfl, kept⟩
    | settled _ idle _ => simp [awaited?, idle] at awaited
    | lost _ idle _ _ => simp [awaited?, idle] at awaited
  cases Onnx.wait_cases found h with
  | idle nothing =>
    refine ⟨r, found, ⟨after.buffers, after.progress.congr ?_⟩, fun _ => nothing⟩
    simp
  | early running _ unanswered quiet =>
    refine ⟨r, found, ⟨after.buffers, after.progress.congr ?_⟩, ?_⟩
    · refine or_iff_left ?_
      rintro ⟨f, same, ofRun⟩
      exact quiet f same ofRun
    · rintro (idle | ended)
      · exact idle
      · exact absurd ended unanswered
  | collected ended =>
    obtain ⟨whole, good, _⟩ := pending ended
    refine ⟨_, rfl, ⟨after.buffers, .settled ?_ rfl good⟩, fun _ => rfl⟩
    rintro (spent | ⟨f, same, _⟩)
    · exact whole spent
    · cases same
  | failed ended =>
    obtain ⟨_, bad, kept⟩ := pending ended
    exact ⟨_, rfl, ⟨after.buffers, .lost (.inr ⟨_, rfl, fault _ bad⟩) rfl bad kept⟩, fun _ => rfl⟩

theorem After.release (after : After first own taken r) : After first own taken r.released := by
  obtain ⟨job, same⟩ := r.released_eq
  have buffers : r.released.buffers = first.buffers := by rw [same, after.buffers]
  refine ⟨buffers, ?_⟩
  cases after.progress with
  | underway whole awaited kept =>
    exact .underway whole ((awaited?_released r).trans awaited) ((outputs_released r).trans kept)
  | settled whole idle good =>
    exact .settled whole (job_released idle) (by rw [outputs_released, good])
  | lost spent idle bad kept =>
    exact .lost spent (job_released idle) bad ((outputs_released r).trans kept)

/-- Once nothing is awaited, the outputs are those of the run, unless somebody took its failure. -/
theorem After.outputs (after : After first own taken r) (idle : r.job = none) :
    (¬ taken → own = .ok r.outputs) ∧
      (taken → (∃ f, own = .error f) ∧ r.outputs = first.outputs) := by
  cases after.progress with
  | underway _ awaited _ => simp [awaited?, idle] at awaited
  | settled whole _ good => exact ⟨fun _ => good, fun spent => absurd spent whole⟩
  | lost spent _ bad kept =>
    exact ⟨fun whole => absurd spent whole, fun _ => ⟨⟨_, bad⟩, kept⟩⟩

theorem idle_of_wait_null {e e' : Engine} {done : Bool} {r' : Request} (found : e.request = some r)
    (h : (Onnx.wait .null).Ends e (.ok done) e') (found' : e'.request = some r') :
    r'.job = none := by
  cases Onnx.wait_cases found h with
  | idle nothing =>
    cases found.symm.trans found'
    exact nothing
  | early _ limited _ _ => cases limited
  | collected _ =>
    cases found'
    rfl

end Request

end FrameBatch.Onnx
