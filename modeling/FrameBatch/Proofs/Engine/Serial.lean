import FrameBatch.Proofs.Engine.OnnxRun
import FrameBatch.Proofs.Engine.Reloaded
import FrameBatch.Proofs.Engine.Runs

/-!
One caller and the worker of a request on the ONNX runtime. The worker may end a run at any time;
the caller starts runs, waits for them, writes into buffers, and runs in its own thread. Calls of
the session never overlap, and the outputs are always those of the last run that succeeded and was
taken over.
-/

namespace FrameBatch.Onnx

/-- A call of the session: its plan, the inputs that it saw, and what came of it. -/
structure Run where
  plan : RunPlan
  inputs : Entries String Tensor
  result : RunResult

def Request.run (r : Request) (plan : RunPlan) (inputs : Entries String Tensor) : Run :=
  ⟨plan, inputs, r.runResult plan inputs⟩

inductive Mark where
  | entered
  | left (run : Run)
  /-- somebody takes over the outputs of the last run that ended, or its failure -/
  | collected

/-- Where the caller is: between two operations, or inside of `infer`. -/
inductive Caller where
  | free
  | waited
  | runs (r : Request) (plan : RunPlan)

structure Parties where
  caller : Caller
  engine : Engine

namespace Request

def startMarks (r : Request) (plan : RunPlan) : List Mark :=
  .entered :: if plan.hold then [] else [.left (r.run plan r.feeds)]

def finishMarks (r : Request) : List Mark :=
  match r.job with
  | some (.running plan copies) => [.left (r.run plan (r.seen copies))]
  | _ => []

def waitMarks (r : Request) (timeout : Value) : List Mark :=
  if (r.collected? timeout).isSome then r.finishMarks ++ [.collected] else []

end Request

def publish (r : Request) (plan : RunPlan) : Act Engine Unit := do
  let outputs ← r.runResult plan r.feeds
  setRequest { r with outputs }

theorem infer_eq : infer = wait .null >>= fun _ => theRequest >>= fun r =>
    beginRun r >>= fun plan => publish r plan :=
  rfl

theorem publish_cases {e e' : Engine} {r : Request} {plan : RunPlan} {res : Except Fault Unit}
    (ends : (publish r plan).Ends e res e') :
    (∃ f, r.runResult plan r.feeds = .error f ∧ res = .error f ∧ e' = e) ∨
      ∃ outputs, r.runResult plan r.feeds = .ok outputs ∧ res = .ok () ∧
        e' = e.withRequest { r with outputs } := by
  cases run : r.runResult plan r.feeds with
  | error f =>
    rw [publish, run, Act.ends_bind_of_error (Act.ends_lift.2 ⟨rfl, rfl⟩)] at ends
    exact .inl ⟨f, rfl, ends⟩
  | ok outputs =>
    rw [publish, run, Act.ends_bind_of_ok (Act.ends_lift.2 ⟨rfl, rfl⟩), ends_setRequest] at ends
    exact .inr ⟨outputs, rfl, ends⟩

theorem ends_beginRun {e e' : Engine} {r : Request} {res : Except Fault RunPlan} :
    (beginRun r).Ends e res e' ↔ res = .ok e.plan ∧ e' = e.begun := by
  rw [← bind_pure (beginRun r), ends_beginRun_bind, Act.ends_pure]

/-- What the parties can do next, and what it does to runs. -/
inductive Step : Parties → List Mark → Parties → Prop
  | refused {e e' : Engine} {f : Fault} (ends : start.Ends e (.error f) e') :
    Step ⟨.free, e⟩ [] ⟨.free, e'⟩
  | started {e e' : Engine} {r : Request} (found : e.request = some r)
    (ends : start.Ends e (.ok ()) e') : Step ⟨.free, e⟩ (r.startMarks e.plan) ⟨.free, e'⟩
  | waits {e e' : Engine} {r : Request} {timeout : Value} {res : Except Fault Bool}
    (found : e.request = some r) (ends : (wait timeout).Ends e res e') :
    Step ⟨.free, e⟩ (r.waitMarks timeout) ⟨.free, e'⟩
  | writes {e e' : Engine} {r : Request} {name : TensorName} {t : Tensor} {res : Except Fault Unit}
    (found : e.request = some r) (buffered : r.buffers.has name.text = true)
    (ends : (setTensor name t).Ends e res e') : Step ⟨.free, e⟩ [] ⟨.free, e'⟩
  /-- `infer` has waited for the run before -/
  | waited {e e' : Engine} {r : Request} {done : Bool} (found : e.request = some r)
    (ends : (wait .null).Ends e (.ok done) e') : Step ⟨.free, e⟩ (r.waitMarks .null) ⟨.waited, e'⟩
  | enters {e e' : Engine} {r : Request} {plan : RunPlan} (found : e.request = some r)
    (ends : (beginRun r).Ends e (.ok plan) e') : Step ⟨.waited, e⟩ [.entered] ⟨.runs r plan, e'⟩
  | leaves {e e' : Engine} {r : Request} {plan : RunPlan} {res : Except Fault Unit}
    (ends : (publish r plan).Ends e res e') :
    Step ⟨.runs r plan, e⟩ [.left (r.run plan r.feeds), .collected] ⟨.free, e'⟩
  /-- the worker ends the run that goes on -/
  | finishes {caller : Caller} {e : Engine} {r : Request} (found : e.request = some r) :
    Step ⟨caller, e⟩ r.finishMarks ⟨caller, release e⟩

/-- What the parties have done since the engine was in this state, in any order. -/
inductive Course (e₀ : Engine) : List Mark → Parties → Prop
  | fresh : Course e₀ [] ⟨.free, e₀⟩
  | step {log marks : List Mark} {p p' : Parties} (course : Course e₀ log p)
    (step : Step p marks p') : Course e₀ (log ++ marks) p'

namespace Mark

def isEntered : Mark → Bool
  | entered => true
  | _ => false

def isLeft : Mark → Bool
  | left _ => true
  | _ => false

end Mark

def executing (log : List Mark) : Int := log.countP Mark.isEntered - log.countP Mark.isLeft

structure Tally where
  busy : Bool := false
  /-- the last run that ended, if nobody took it over and no other began -/
  past : Option Run := none
  shown : Option Run := none

namespace Tally

def after (t : Tally) : Mark → Tally
  | .entered => { t with busy := true, past := none }
  | .left run => { t with busy := false, past := some run }
  | .collected => { t with past := none, shown := (t.past.filter (·.result.isOk)).or t.shown }

def Allows (t : Tally) : Mark → Prop
  | .entered => t.busy = false
  | .left _ => t.busy = true
  | .collected => t.past.isSome

def Takes : Tally → List Mark → Prop
  | _, [] => True
  | t, mark :: rest => t.Allows mark ∧ (t.after mark).Takes rest

theorem takes_append {t : Tally} {log marks : List Mark} :
    t.Takes (log ++ marks) ↔ t.Takes log ∧ (log.foldl after t).Takes marks := by
  induction log generalizing t with
  | nil => exact (iff_of_eq (true_and _)).symm
  | cons mark rest ih => rw [List.cons_append, Takes, Takes, ih, List.foldl_cons, and_assoc]

/-- Of runs that begin and end in turn at most one executes. -/
theorem executing_eq {t : Tally} {log : List Mark} (takes : t.Takes log) :
    executing log = (log.foldl after t).busy.toInt - t.busy.toInt := by
  induction log generalizing t with
  | nil => exact (Int.sub_self _).symm
  | cons mark rest ih =>
    obtain ⟨allows, takes⟩ := takes
    have later := ih takes
    have counts : executing (mark :: rest) =
        executing rest + (mark.isEntered.toInt - mark.isLeft.toInt) := by
      unfold executing
      rw [List.countP_cons, List.countP_cons]
      cases mark with
      | entered => simp [Mark.isEntered, Mark.isLeft]; omega
      | left run => simp [Mark.isEntered, Mark.isLeft]; omega
      | collected => simp [Mark.isEntered, Mark.isLeft]
    rw [counts, later, List.foldl_cons]
    cases mark with
    | entered =>
      have idle : t.busy = false := allows
      rw [idle]
      simp [after, Mark.isEntered, Mark.isLeft]
    | left run =>
      have running : t.busy = true := allows
      rw [running]
      simp [after, Mark.isEntered, Mark.isLeft]
      omega
    | collected => simp [after, Mark.isEntered, Mark.isLeft]

end Tally

def tally (log : List Mark) : Tally := log.foldl Tally.after {}

theorem tally_append (log marks : List Mark) :
    tally (log ++ marks) = marks.foldl Tally.after (tally log) :=
  List.foldl_append

def shown (log : List Mark) : Option Run := (tally log).shown

/-- What a run of a request that makes outputs of these names came to. -/
def Run.Of (first : Request) (run : Run) : Prop :=
  run.result = first.runResult run.plan run.inputs

theorem runResult_congr {r first : Request} (names : r.outputNames = first.outputNames)
    (plan : RunPlan) (inputs : Entries String Tensor) :
    r.runResult plan inputs = first.runResult plan inputs := by
  unfold Request.runResult
  rw [names]

/-- What the marks say of a request with this job and these outputs. The caller may have a run of
its own. -/
structure Logged (first : Request) (log : List Mark) (job : Option Job)
    (outputs : Entries String Tensor) (own : Bool) : Prop where
  serial : ({} : Tally).Takes log
  busy : (tally log).busy = true ↔ (∃ plan copies, job = some (.running plan copies)) ∨ own = true
  past : ∀ result, job = some (.finished result) →
    ∃ run, (tally log).past = some run ∧ run.result = result
  ended : ∀ run, (tally log).past = some run → run.Of first
  shown : (shown log = none ∧ outputs = first.outputs) ∨
    ∃ run, Onnx.shown log = some run ∧ run.Of first ∧ run.result = .ok outputs

def RunResult.outputsAfter (result : RunResult) (outputs : Entries String Tensor) :
    Entries String Tensor :=
  match result with
  | .ok outputs' => outputs'
  | .error _ => outputs

namespace Logged

variable {first : Request} {log : List Mark} {job : Option Job} {outputs : Entries String Tensor}
  {own : Bool}

theorem fresh (idle : first.job = none) : Logged first [] first.job first.outputs false where
  serial := trivial
  busy := by
    rw [idle]
    refine iff_of_false Bool.false_ne_true ?_
    rintro (⟨plan, copies, same⟩ | same)
    · cases same
    · cases same
  past result same := by
    rw [idle] at same
    cases same
  ended run same := by
    have none : (tally []).past = none := rfl
    rw [none] at same
    cases same
  shown := .inl ⟨rfl, rfl⟩

theorem idle_iff (logged : Logged first log job outputs own) : (tally log).busy = false ↔
    (∀ plan copies, job ≠ some (.running plan copies)) ∧ own = false := by
  rw [← Bool.not_eq_true, logged.busy, not_or, Bool.not_eq_true]
  simp

theorem takes_mark (logged : Logged first log job outputs own) {mark : Mark}
    (allows : (tally log).Allows mark) : ({} : Tally).Takes (log ++ [mark]) :=
  Tally.takes_append.2 ⟨logged.serial, allows, trivial⟩

theorem tally_mark (log : List Mark) (mark : Mark) :
    tally (log ++ [mark]) = (tally log).after mark :=
  tally_append log [mark]

theorem begins (logged : Logged first log job outputs own) (idle : (tally log).busy = false)
    (plan : RunPlan) (copies : Entries String Tensor) :
    Logged first (log ++ [.entered]) (some (.running plan copies)) outputs false where
  serial := logged.takes_mark idle
  busy := by
    rw [tally_mark]
    exact iff_of_true rfl (.inl ⟨plan, copies, rfl⟩)
  past result same := by cases same
  ended run same := by
    rw [tally_mark] at same
    cases same
  shown := by
    rw [Onnx.shown, tally_mark]
    exact logged.shown

theorem begins_own (logged : Logged first log none outputs own)
    (idle : (tally log).busy = false) : Logged first (log ++ [.entered]) none outputs true where
  serial := logged.takes_mark idle
  busy := by
    rw [tally_mark]
    exact iff_of_true rfl (.inr rfl)
  past result same := by cases same
  ended run same := by
    rw [tally_mark] at same
    cases same
  shown := by
    rw [Onnx.shown, tally_mark]
    exact logged.shown

theorem ends (logged : Logged first log job outputs own) (running : (tally log).busy = true)
    {run : Run} (of_first : run.Of first) :
    Logged first (log ++ [.left run]) (some (.finished run.result)) outputs false where
  serial := logged.takes_mark running
  busy := by
    rw [tally_mark]
    refine iff_of_false nofun ?_
    rintro (⟨plan, copies, same⟩ | same)
    · cases same
    · cases same
  past result same := by
    rw [tally_mark]
    cases same
    exact ⟨run, rfl, rfl⟩
  ended other same := by
    rw [tally_mark] at same
    cases same
    exact of_first
  shown := by
    rw [Onnx.shown, tally_mark]
    exact logged.shown

theorem collects {result : RunResult}
    (logged : Logged first log (some (.finished result)) outputs own) :
    Logged first (log ++ [.collected]) none (result.outputsAfter outputs) own := by
  obtain ⟨run, past, rfl⟩ := logged.past result rfl
  constructor
  case serial => exact logged.takes_mark (Option.isSome_iff_exists.2 ⟨run, past⟩)
  case busy =>
    rw [tally_mark]
    refine logged.busy.trans (or_congr_left (iff_of_false ?_ ?_))
    · rintro ⟨plan, copies, same⟩
      cases same
    · rintro ⟨plan, copies, same⟩
      cases same
  case past =>
    intro result same
    cases same
  case ended =>
    intro other same
    rw [tally_mark] at same
    cases same
  case shown =>
    rw [Onnx.shown, tally_mark, Tally.after, past]
    cases result : run.result with
    | ok outputs' =>
      right
      have kept : Option.filter (fun run => run.result.isOk) (some run) = some run := by
        simp [Option.filter, result, Except.isOk, Except.toBool]
      exact ⟨run, by simp [kept], logged.ended run past, result⟩
    | error f =>
      -- a failure is taken over as well, and leaves what was shown before
      have dropped : Option.filter (fun run : Run => run.result.isOk) (some run) = none := by
        simp [Option.filter, result, Except.isOk, Except.toBool]
      rw [dropped]
      exact logged.shown

end Logged

/-- Where the caller may be. Inside of `infer` no run goes on on the worker. -/
inductive Placed (r : Request) : Caller → Bool → Prop
  | free : Placed r .free false
  | waited (idle : r.job = none) : Placed r .waited false
  | runs (idle : r.job = none) (plan : RunPlan) : Placed r (.runs r plan) true

/-- How the marks, the caller and the request go together. -/
structure Kept (first : Request) (log : List Mark) (caller : Caller) (e : Engine) (r : Request) :
    Prop where
  found : e.request = some r
  opened : e.isOpen = true
  unclosed : r.closed = false
  names : r.outputNames = first.outputNames
  logged : ∃ own, Placed r caller own ∧ Logged first log r.job r.outputs own

namespace Kept

variable {first r : Request} {log : List Mark} {caller : Caller} {e e' : Engine}

theorem run_of (kept : Kept first log caller e r) (plan : RunPlan)
    (inputs : Entries String Tensor) : (r.run plan inputs).Of first :=
  runResult_congr kept.names plan inputs

theorem logged_free (kept : Kept first log .free e r) :
    Logged first log r.job r.outputs false := by
  obtain ⟨_, ⟨⟩, logged⟩ := kept.logged
  exact logged

theorem busy_iff (kept : Kept first log .free e r) :
    (tally log).busy = true ↔ ∃ plan copies, r.job = some (.running plan copies) := by
  rw [kept.logged_free.busy]
  simp

theorem finishes (kept : Kept first log caller e r) :
    Kept first (log ++ r.finishMarks) caller (release e) r.released := by
  have found := request_release kept.found
  by_cases running : ∃ plan copies, r.job = some (.running plan copies)
  · obtain ⟨plan, copies, running⟩ := running
    obtain ⟨own, placed, logged⟩ := kept.logged
    have released : r.released =
        { r with job := some (.finished (r.runResult plan (r.seen copies))) } := by
      rw [Request.released, running]
    have marks : r.finishMarks = [.left (r.run plan (r.seen copies))] := by
      rw [Request.finishMarks, running]
    rw [released] at found ⊢
    rw [marks]
    refine ⟨found, kept.opened, kept.unclosed, kept.names, false, ?_,
      logged.ends (logged.busy.2 (.inl ⟨plan, copies, running⟩)) (kept.run_of plan _)⟩
    cases placed with
    | free => exact .free
    | waited idle => cases running.symm.trans idle
    | runs idle => cases running.symm.trans idle
  · have released : r.released = r := by
      unfold Request.released
      split
      · rename_i plan copies job
        exact absurd ⟨plan, copies, job⟩ running
      · rfl
    have marks : r.finishMarks = [] := by
      unfold Request.finishMarks
      split
      · rename_i plan copies job
        exact absurd ⟨plan, copies, job⟩ running
      · rfl
    rw [released] at found ⊢
    rw [marks, List.append_nil]
    exact ⟨found, kept.opened, kept.unclosed, kept.names, kept.logged⟩

theorem isOpen_begun (e : Engine) : e.begun.isOpen = e.isOpen := by
  unfold Engine.begun
  split
  · rfl
  · rfl

theorem idle_of_started (kept : Kept first log .free e r) (ends : start.Ends e (.ok ()) e') :
    (tally log).busy = false := by
  rw [← Bool.not_eq_true, kept.busy_iff]
  rintro ⟨plan, copies, running⟩
  rw [start, ends_theRequest_bind kept.found, running] at ends
  cases (Act.ends_fail.1 ends).1

theorem started (kept : Kept first log .free e r) (ends : start.Ends e (.ok ()) e') :
    ∃ r', Kept first (log ++ r.startMarks e.plan) .free e' r' := by
  have idle := kept.idle_of_started ends
  cases start_cases kept.found ends with
  | started =>
    have opened : e.begun.isOpen = true := (isOpen_begun e).trans kept.opened
    refine ⟨_, rfl, opened, kept.unclosed, kept.names, false, .free, ?_⟩
    have begun := kept.logged_free.begins idle e.plan r.copies
    show Logged first _ (some (r.started e.plan)) r.outputs false
    unfold Request.startMarks Request.started
    by_cases held : e.plan.hold = true
    · rw [if_pos held, if_pos held]
      exact begun
    · rw [if_neg held, if_neg held]
      -- a run that nobody holds is over as soon as it was started
      have past := begun.ends (begun.busy.2 (.inl ⟨_, _, rfl⟩)) (kept.run_of e.plan r.feeds)
      rwa [List.append_assoc] at past

theorem collects (kept : Kept first log .free e r) {timeout : Value} {result : RunResult}
    (ended : r.collected? timeout = some result) :
    Logged first (log ++ r.waitMarks timeout) none (result.outputsAfter r.outputs) false := by
  have logged := kept.logged_free
  rw [Request.waitMarks, ended, Option.isSome_some, if_pos rfl, Request.finishMarks]
  unfold Request.collected? at ended
  rcases job : r.job with _ | ⟨plan, copies⟩ | result'
  · rw [job] at ended
    cases ended
  · rw [job] at ended
    dsimp only at ended
    split at ended
    · cases ended
      have past := logged.ends (logged.busy.2 (.inl ⟨plan, copies, job⟩))
        (kept.run_of plan (r.seen copies))
      rw [← List.append_assoc]
      exact past.collects
    · cases ended
  · rw [job] at ended logged
    cases ended
    exact logged.collects

theorem waits (kept : Kept first log .free e r) {timeout : Value} {res : Except Fault Bool}
    (ends : (wait timeout).Ends e res e') :
    ∃ r', Kept first (log ++ r.waitMarks timeout) .free e' r' ∧
      (r'.job = none → Kept first (log ++ r.waitMarks timeout) .waited e' r') := by
  have unanswered (nothing : r.collected? timeout = none) :
      Kept first (log ++ r.waitMarks timeout) .free e r ∧
        (r.job = none → Kept first (log ++ r.waitMarks timeout) .waited e r) := by
    rw [Request.waitMarks, nothing, Option.isSome_none, if_neg Bool.false_ne_true,
      List.append_nil]
    refine ⟨kept, fun idle => ?_⟩
    exact ⟨kept.found, kept.opened, kept.unclosed, kept.names, false, .waited idle,
      kept.logged_free⟩
  cases wait_cases kept.found ends with
  | idle nothing => exact ⟨r, unanswered (by rw [Request.collected?, nothing])⟩
  | early running limited _ _ =>
    refine ⟨r, unanswered ?_⟩
    rw [Request.collected?, running]
    dsimp only
    rw [limited, if_neg Bool.false_ne_true]
  | collected ended =>
    have logged := kept.collects ended
    refine ⟨_, ⟨rfl, kept.opened, kept.unclosed, kept.names, false, .free, logged⟩, fun idle => ?_⟩
    exact ⟨rfl, kept.opened, kept.unclosed, kept.names, false, .waited idle, logged⟩
  | failed ended =>
    have logged := kept.collects ended
    refine ⟨_, ⟨rfl, kept.opened, kept.unclosed, kept.names, false, .free, logged⟩, fun idle => ?_⟩
    exact ⟨rfl, kept.opened, kept.unclosed, kept.names, false, .waited idle, logged⟩

theorem writes (kept : Kept first log .free e r) {name : TensorName} {t : Tensor}
    {res : Except Fault Unit} (buffered : r.buffers.has name.text = true)
    (ends : (setTensor name t).Ends e res e') : ∃ r', Kept first log .free e' r' := by
  obtain ⟨-, ⟨-, rfl⟩ | ⟨absent, -⟩⟩ := setTensor_cases kept.found ends
  · exact ⟨_, rfl, kept.opened, kept.unclosed, kept.names, false, .free, kept.logged_free⟩
  · rw [Entries.has, absent] at buffered
    cases buffered

theorem enters (kept : Kept first log .waited e r) {plan : RunPlan}
    (ends : (beginRun r).Ends e (.ok plan) e') :
    Kept first (log ++ [.entered]) (.runs r plan) e' r := by
  obtain ⟨-, rfl⟩ := ends_beginRun.1 ends
  obtain ⟨own, placed, logged⟩ := kept.logged
  cases placed with
  | waited idle =>
    have quiet : (tally log).busy = false := logged.idle_iff.2 ⟨by rw [idle]; nofun, rfl⟩
    rw [idle] at logged
    have begun := logged.begins_own quiet
    rw [← idle] at begun
    exact ⟨(request_begun e).trans kept.found, (isOpen_begun e).trans kept.opened, kept.unclosed,
      kept.names, true, .runs idle plan, begun⟩

theorem leaves {plan : RunPlan} (kept : Kept first log (.runs r plan) e r)
    {res : Except Fault Unit} (ends : (publish r plan).Ends e res e') :
    ∃ r', Kept first (log ++ [.left (r.run plan r.feeds), .collected]) .free e' r' := by
  obtain ⟨own, placed, logged⟩ := kept.logged
  cases placed with
  | runs idle _ =>
    have past := (logged.ends (logged.busy.2 (.inr rfl)) (kept.run_of plan r.feeds)).collects
    rw [List.append_assoc, ← idle] at past
    change Logged first _ r.job ((r.runResult plan r.feeds).outputsAfter r.outputs) false at past
    obtain ⟨f, run, -, rfl⟩ | ⟨outputs, run, -, rfl⟩ := publish_cases ends
    · rw [run] at past
      exact ⟨r, kept.found, kept.opened, kept.unclosed, kept.names, false, .free, past⟩
    · rw [run] at past
      exact ⟨_, rfl, kept.opened, kept.unclosed, kept.names, false, .free, past⟩

end Kept

/-- Whatever the parties do, in any order, the marks go together with the request. -/
theorem kept_of_course {e₀ : Engine} {first : Request} (found : e₀.request = some first)
    (opened : e₀.isOpen = true) (unclosed : first.closed = false) (idle : first.job = none)
    {log : List Mark} {p : Parties} (course : Course e₀ log p) :
    ∃ r, Kept first log p.caller p.engine r := by
  induction course with
  | fresh => exact ⟨first, found, opened, unclosed, rfl, false, .free, .fresh idle⟩
  | step _ step ih =>
    obtain ⟨r, kept⟩ := ih
    cases step with
    | refused ends =>
      cases start_cases kept.found ends with
      | refused => exact ⟨r, by rwa [List.append_nil]⟩
    | started found ends =>
      cases kept.found.symm.trans found
      exact kept.started ends
    | waits found ends =>
      cases kept.found.symm.trans found
      obtain ⟨r', kept', -⟩ := kept.waits ends
      exact ⟨r', kept'⟩
    | writes found buffered ends =>
      cases kept.found.symm.trans found
      rw [List.append_nil]
      exact kept.writes buffered ends
    | waited found ends =>
      cases kept.found.symm.trans found
      obtain ⟨r', kept', inside⟩ := kept.waits ends
      -- a wait without a limit leaves no job, so nothing runs while the caller does
      exact ⟨r', inside (Request.idle_of_wait_null found ends kept'.found)⟩
    | enters found ends =>
      cases kept.found.symm.trans found
      exact ⟨r, kept.enters ends⟩
    | leaves ends =>
      obtain ⟨own, placed, logged⟩ := kept.logged
      cases placed with
      | runs idle plan => exact kept.leaves ends
    | finishes found =>
      cases kept.found.symm.trans found
      exact ⟨_, kept.finishes⟩

section

variable {e₀ e e' : Engine} {first r : Request} {log : List Mark}

theorem theRequest_of_found (found : e.request = some r) : theRequest e = ⟨.ok r, e, []⟩ := by
  simp only [theRequest, bind, Act.bind, Act.get_apply, found, Act.pure_apply, List.append_nil]

theorem start_of_idle (found : e.request = some r) (opened : e.isOpen = true)
    (unclosed : r.closed = false) (idle : ∀ plan copies, r.job ≠ some (.running plan copies)) :
    start e = ⟨.ok (), e.begun.withRequest { r with job := some (r.started e.plan) },
      [.call (.run r.outputNames (r.feeds.map fun (name, t) =>
        { name, type := t.type, shape := t.shape }))]⟩ := by
  have begun : beginRun r e = ⟨.ok e.plan, e.begun, [.call (.run r.outputNames
      (r.feeds.map fun (name, t) => { name, type := t.type, shape := t.shape }))]⟩ := by
    rw [beginRun, Act.bind_of_ok (Act.get_apply e)]
    simp only [opened, if_true, Engine.plan, Engine.begun]
    rfl
  rw [start, Act.bind_of_ok (theRequest_of_found found)]
  rcases job : r.job with _ | ⟨plan, copies⟩ | result
  · simp only [unclosed, Bool.false_eq_true, if_false]
    rw [Act.bind_of_ok begun]
    rfl
  · exact absurd job (idle plan copies)
  · simp only [unclosed, Bool.false_eq_true, if_false]
    rw [Act.bind_of_ok begun]
    rfl

theorem start_of_busy (found : e.request = some r) {plan : RunPlan}
    {copies : Entries String Tensor} (running : r.job = some (.running plan copies)) :
    start e = ⟨.error (.refused .requestBusy), e, []⟩ := by
  rw [start, Act.bind_of_ok (theRequest_of_found found), running]
  rfl

theorem plan_of_wait (found : e.request = some r) {timeout : Value} {res : Except Fault Bool}
    (ends : (wait timeout).Ends e res e') : e'.plan = e.plan := by
  cases wait_cases found ends with
  | idle => rfl
  | early => rfl
  | collected => rfl
  | failed => rfl

theorem course_of_infer (course : Course e₀ log ⟨.free, e⟩) (found : e.request = some r)
    {res : Except Fault Unit} (ends : infer.Ends e res e') :
    (∃ marks, Course e₀ (log ++ marks) ⟨.free, e'⟩) ∧ (res = .ok () → ∃ r',
      e'.request = some r' ∧ r.runResult e.plan r.feeds = .ok r'.outputs) := by
  rw [infer_eq] at ends
  rcases Act.ends_bind.1 ends with ⟨done, e₁, waits, ends⟩ | ⟨f, rfl, waits⟩
  · obtain ⟨job, outputs, found₁, -⟩ := request_wait found waits
    have plan := plan_of_wait found waits
    rw [ends_theRequest_bind found₁, ends_beginRun_bind] at ends
    have left := ((course.step (.waited found waits)).step
      (.enters found₁ (ends_beginRun.2 ⟨rfl, rfl⟩))).step (.leaves ends)
    rw [List.append_assoc, List.append_assoc] at left
    refine ⟨⟨_, left⟩, fun returned => ?_⟩
    obtain ⟨f, -, rfl, -⟩ | ⟨outputs', run, -, rfl⟩ := publish_cases ends
    · cases returned
    · rw [plan] at run
      exact ⟨_, rfl, run⟩
  · exact ⟨⟨_, course.step (.waits found waits)⟩, nofun⟩

theorem executing_eq_tally (kept : ({} : Tally).Takes log) :
    executing log = (tally log).busy.toInt :=
  (Tally.executing_eq kept).trans (Int.sub_zero _)

theorem executing_moment {moment : List Mark} (takes : ({} : Tally).Takes log)
    (part : moment <+: log) : executing moment = 0 ∨ executing moment = 1 := by
  obtain ⟨rest, rfl⟩ := part
  rw [executing_eq_tally (Tally.takes_append.1 takes).1]
  cases (tally moment).busy with
  | false => exact .inl rfl
  | true => exact .inr rfl

end

/-- An engine that was loaded, and one caller of its request next to the worker: the caller starts
runs, waits for them, writes into buffers and runs at once, the worker ends runs, in any order. At
no moment do two calls of the session execute. The outputs are those of the last run that succeeded
and was taken over, all of them. A run is started if none executes, and refused otherwise without
any change; a wait says that no run goes on only if none does; and a run at once leaves what the
buffers of the call yield. -/
theorem one_run_at_a_time {fit : Act Descriptor.Fitting Unit} {l l' : Loading Engine}
    (opened : l.engine.isOpen = true) (loads : (load fit).Ends l (.ok ()) l') {log : List Mark}
    {p : Parties} (course : Course l'.engine log p) :
    ∃ r, p.engine.request = some r ∧
      (∀ moment, moment <+: log → executing moment = 0 ∨ executing moment = 1) ∧
      ((shown log = none ∧ r.outputs = []) ∨ ∃ run, shown log = some run ∧
        r.runResult run.plan run.inputs = .ok r.outputs) ∧
      (p.caller = .free →
        (executing log = 0 → ∃ e' feeds,
          start p.engine = ⟨.ok (), e', [.call (.run r.outputNames feeds)]⟩ ∧
            Course l'.engine (log ++ r.startMarks p.engine.plan) ⟨.free, e'⟩) ∧
        (executing log = 1 → start p.engine = ⟨.error (.refused .requestBusy), p.engine, []⟩) ∧
        (∀ timeout res e', (wait timeout).Ends p.engine res e' →
          Course l'.engine (log ++ r.waitMarks timeout) ⟨.free, e'⟩ ∧
            (res = .ok true → executing (log ++ r.waitMarks timeout) = 0)) ∧
        ∀ res e', infer.Ends p.engine res e' →
          (∃ marks, Course l'.engine (log ++ marks) ⟨.free, e'⟩) ∧ (res = .ok () → ∃ r',
            e'.request = some r' ∧
              r.runResult p.engine.plan r.feeds = .ok r'.outputs)) := by
  obtain ⟨first, found, still, unclosed, idle, none⟩ : ∃ first, l'.engine.request = some first ∧
      l'.engine.isOpen = true ∧ first.closed = false ∧ first.job = none ∧ first.outputs = [] := by
    cases load_ends loads with
    | loaded => exact ⟨_, rfl, opened, rfl, rfl, rfl⟩
  obtain ⟨r, kept⟩ := kept_of_course found still unclosed idle course
  obtain ⟨own, placed, logged⟩ := kept.logged
  refine ⟨r, kept.found, fun moment part => executing_moment logged.serial part, ?_, ?_⟩
  · rcases logged.shown with ⟨absent, same⟩ | ⟨run, last, of_first, good⟩
    · exact .inl ⟨absent, same.trans none⟩
    · refine .inr ⟨run, last, ?_⟩
      rw [runResult_congr kept.names, ← of_first, good]
  · obtain ⟨caller, e⟩ := p
    rintro rfl
    have counted := executing_eq_tally logged.serial
    refine ⟨fun quiet => ?_, fun running => ?_, fun timeout res e' ends => ?_,
      fun res e' ends => course_of_infer course kept.found ends⟩
    · have resting : ∀ plan copies, r.job ≠ some (.running plan copies) := by
        intro plan copies running
        rw [counted, kept.busy_iff.2 ⟨plan, copies, running⟩] at quiet
        cases quiet
      have starts := start_of_idle kept.found kept.opened kept.unclosed resting
      refine ⟨_, _, starts, course.step (.started kept.found ?_)⟩
      exact ⟨congrArg Outcome.result starts, congrArg Outcome.state starts⟩
    · have busy : (tally log).busy = true := by
        cases same : (tally log).busy with
        | true => rfl
        | false => rw [counted, same] at running; cases running
      obtain ⟨plan, copies, job⟩ := kept.busy_iff.1 busy
      exact start_of_busy kept.found job
    · refine ⟨course.step (.waits kept.found ends), ?_⟩
      rintro rfl
      obtain ⟨r', kept', -⟩ := kept.waits ends
      rw [executing_eq_tally kept'.logged_free.serial]
      cases same : (tally (log ++ r.waitMarks timeout)).busy with
      | false => rfl
      | true =>
        obtain ⟨plan, copies, job⟩ := kept'.busy_iff.1 same
        have running : e'.busy = true := by
          rw [Engine.busy_of_found kept'.found, Request.busy, job]
        exact absurd rfl (eq_of_wait kept.found ends running).2.1

def echo : Descriptor :=
  { family := .single, category := "Echo", location := "echo.onnx", maxBatch := 1 }

def echoing : Loading Engine :=
  (load Descriptor.accept
    { descriptor := echo
      network :=
        { inputs := [⟨"x", [none, some 1, some 1, some 1], .known .f32, none⟩],
          outputs := [⟨"y", [none, some 1, some 1, some 1], .known .f32, none⟩] }
      engine :=
        { device := "cpu", declared := [("x", .f32)],
          script := { runs := [{ hold := true, outputs := [("y", .copy "x")] }] } } }).state

def onePixel (value : Int) : Tensor :=
  .fill (.element .f32) [1, 1, 1, 1] ((NumberType.element .f32).cast (.whole value))

def Engine.pixelWritten (value : Int) (e : Engine) : Engine :=
  (setTensor (some "x") (onePixel value) e).state

/-- The echo after a value was written and a run on it ended. -/
def released : Engine := release (start (echoing.engine.pixelWritten 7)).state

/-- The echo after the run was waited for and another value was written. -/
def rewritten : Engine := (wait .null released).state.pixelWritten 8

/-- A run on the worker leaves what was written before it; a run at once afterwards leaves what was
written since. -/
theorem echoed_run : ∃ log r run, Course echoing.engine log ⟨.free, rewritten⟩ ∧
    executing log = 0 ∧ rewritten.request = some r ∧ shown log = some run ∧
    run.inputs = [("x", onePixel 7)] ∧ r.outputs = [("y", onePixel 7)] ∧
    ∃ marks e r', Course echoing.engine (log ++ marks) ⟨.free, e⟩ ∧
      infer.Ends rewritten (.ok ()) e ∧ e.request = some r' ∧ r'.outputs = [("y", onePixel 8)] := by
  have loads : (load Descriptor.accept).Ends _ (.ok ()) echoing := ⟨rfl, rfl⟩
  have writes (value : Int) (e : Engine) : (setTensor (some "x") (onePixel value)).Ends e
      (setTensor (some "x") (onePixel value) e).result (e.pixelWritten value) := ⟨rfl, rfl⟩
  have waits : (wait .null).Ends released (.ok true) (wait .null released).state := ⟨rfl, rfl⟩
  have infers : infer.Ends rewritten (.ok ()) (infer rewritten).state := ⟨rfl, rfl⟩
  have given := Course.fresh.step (.writes rfl rfl (writes 7 echoing.engine))
  have started : Course echoing.engine _ ⟨.free, (start _).state⟩ :=
    given.step (.started rfl ⟨rfl, rfl⟩)
  have waited := (started.step (.finishes rfl)).step (.waits rfl waits)
  have course := waited.step (.writes rfl rfl (writes 8 (wait .null released).state))
  obtain ⟨r, found, -, ⟨absent, -⟩ | ⟨run, last, good⟩, free⟩ :=
    one_run_at_a_time rfl loads course
  · cases absent
  · obtain ⟨⟨marks, on⟩, leaves⟩ := (free rfl).2.2.2 _ _ infers
    obtain ⟨r', found', now⟩ := leaves rfl
    have earlier : r.runResult run.plan run.inputs = .ok [("y", onePixel 7)] := by
      cases found
      cases last
      rfl
    have feeds : r.feeds = [("x", onePixel 8)] := by
      have stored : (onePixel 8).cast (.element .f32) = onePixel 8 := by
        rw [onePixel, Tensor.cast_fill]
        exact congrArg (Tensor.fill _ _) (by decide +kernel)
      cases found
      exact congrArg (fun t => [("x", t)]) stored
    have later : r.runResult rewritten.plan r.feeds = .ok [("y", onePixel 8)] := by
      rw [feeds]
      cases found
      rfl
    refine ⟨_, r, run, course, rfl, found, last, ?_, Except.ok.inj (good.symm.trans earlier),
      marks, _, r', on, infers, found', Except.ok.inj (now.symm.trans later)⟩
    cases last
    rfl

end FrameBatch.Onnx
