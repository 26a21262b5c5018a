import FrameBatch.Proofs.Engine.Compliant
import FrameBatch.Proofs.Pipeline.Slots

/-!
A batch run in one go: it is handed to the engine, in the background or in the foreground, its run is
seen to the end, and its results are fetched. What the batch has come to afterwards depends on where
the first failure was: the engine refused it and it stays, or it was lost later, or it is given out.
-/

namespace FrameBatch.Pipeline

open Backend (Uses Lawful Compliant)

variable {ε : Type} [Backend ε]

def launch (asynchronous : Bool) : Act (Site ε) Bool :=
  if asynchronous then submit else synchronize

/-- Hand the batch to the engine and see its run to the end. -/
def runThrough (asynchronous : Bool) : Act (Site ε) Bool := do
  if asynchronous then
    if ← submit then wait .null else return false
  else synchronize

def cycle (asynchronous : Bool) : Act (Site ε) Bool := do
  if ← runThrough asynchronous then fetch else return false

theorem launch_of_cycle {asynchronous fetched : Bool} {s s' : Site ε}
    (h : (cycle asynchronous).Ends s (.ok fetched) s') :
    ∃ taken, (launch asynchronous s).result = .ok taken := by
  obtain ⟨ended, middle, through, _⟩ := Act.ends_bind_ok.1 h
  cases asynchronous with
  | false => exact ⟨ended, through.result⟩
  | true =>
    obtain ⟨taken, _, submits, _⟩ := Act.ends_bind_ok.1 through
    exact ⟨taken, submits.result⟩

/-- The first thing asked of the engine for a run. -/
def launching (asynchronous : Bool) : Act ε Unit :=
  if asynchronous then Backend.start else Backend.infer

/-- All that is asked of the engine for a run. -/
def carryingOut (asynchronous : Bool) : Act ε Unit :=
  if asynchronous then do
    Backend.start
    let _ ← Backend.wait .null
  else Backend.infer

/-- How seeing a batch through ends, for an engine that can be used and a batch that waits. -/
inductive ThroughEnds (asynchronous : Bool) (s : Site ε) (name : String) (d : Descriptor) (e : ε) :
    Except Fault Bool → Site ε → Prop
  | refused {e' : ε} {f : Fault}
    (answer : (launch asynchronous s).result = if f.isRuntime then .ok false else .error f)
    (ends : (s.pipeline.decoder.prepare d >>= fun _ => launching asynchronous).Ends e
      (.error f) e') :
    ThroughEnds asynchronous s name d e (if f.isRuntime then .ok false else .error f)
      (s.withEngine name e')
  | lost {e₁ e₂ : ε} {f : Fault} (background : asynchronous = true)
    (answer : (launch asynchronous s).result = .ok true)
    (starts : (s.pipeline.decoder.prepare d >>= fun _ => Backend.start).Ends e (.ok ()) e₁)
    (waits : (Backend.wait .null).Ends e₁ (.error f) e₂) (runtime : f.isRuntime = true) :
    ThroughEnds asynchronous s name d e (.ok false) (dropped (s.withEngine name e₂))
  | broken {e₁ e₂ : ε} {f : Fault} (background : asynchronous = true)
    (starts : (s.pipeline.decoder.prepare d >>= fun _ => Backend.start).Ends e (.ok ()) e₁)
    (waits : (Backend.wait .null).Ends e₁ (.error f) e₂) (other : f.isRuntime = false) :
    ThroughEnds asynchronous s name d e (.error f)
      { s.withEngine name e₂ with pipeline := s.pipeline.withRun false }
  | ended {e' : ε} (answer : (launch asynchronous s).result = .ok true)
    (runs : (s.pipeline.decoder.prepare d >>= fun _ => carryingOut asynchronous).Ends e
      (.ok ()) e') :
    ThroughEnds asynchronous s name d e (.ok true)
      { s.withEngine name e' with pipeline := s.pipeline.withRun true }

section

variable {asynchronous : Bool} {s s' : Site ε} {name : String} {d : Descriptor} {e : ε}

theorem launched_cases {run : Act ε Unit} {done : Bool} {r : Except Fault Bool}
    (h : ExecuteEnds run done s r s') (ready : Ready s name d e)
    (resting : s.pipeline.stage ≠ .submitted) (frames : s.pipeline.enqueued ≠ 0) :
    (∃ f e', (s.pipeline.decoder.prepare d >>= fun _ => run).Ends e (.error f) e' ∧
        r = (if f.isRuntime then .ok false else .error f) ∧ s' = s.withEngine name e') ∨
      ∃ e', (s.pipeline.decoder.prepare d >>= fun _ => run).Ends e (.ok ()) e' ∧ r = .ok true ∧
        s' = { s.withEngine name e' with pipeline := s.pipeline.withRun done } := by
  cases h with
  | unready unready => exact absurd unready ready.not_unready
  | needless _ nothing => exact absurd nothing (not_or.2 ⟨resting, frames⟩)
  | failed ready' _ _ ends =>
    obtain ⟨rfl, rfl, rfl⟩ := ready.unique ready'
    exact .inl ⟨_, _, ends, rfl, rfl⟩
  | started ready' _ _ ends =>
    obtain ⟨rfl, rfl, rfl⟩ := ready.unique ready'
    exact .inr ⟨_, ends, rfl, rfl⟩

theorem launch_refuses_iff (ready : Ready s name d e) (resting : s.pipeline.stage ≠ .submitted)
    (frames : s.pipeline.enqueued ≠ 0) :
    (launch asynchronous s).result = .ok false ↔
      ∃ f e', (s.pipeline.decoder.prepare d >>= fun _ => launching asynchronous).Ends e
        (.error f) e' ∧ f.isRuntime = true := by
  have launches : ExecuteEnds (launching asynchronous) (!asynchronous) s
      (launch asynchronous s).result (launch asynchronous s).state := by
    cases asynchronous with
    | false => exact execute_cases (synchronize.ends_self s)
    | true => exact execute_cases (submit.ends_self s)
  rcases launched_cases launches ready resting frames with
    ⟨f, e', ends, answer, _⟩ | ⟨e', ends, answer, _⟩
  · constructor
    · intro refused
      rw [answer] at refused
      split at refused
      · rename_i runtime
        exact ⟨f, e', ends, runtime⟩
      · cases refused
    · rintro ⟨f', e'', ends', runtime⟩
      cases ends.1.symm.trans ends'.1
      rw [answer, if_pos runtime]
  · constructor
    · intro refused
      cases answer.symm.trans refused
    · rintro ⟨f', e'', ends', _⟩
      cases ends.1.symm.trans ends'.1

theorem through_cases [Lawful ε] [Compliant ε] {r : Except Fault Bool} (ready : Ready s name d e)
    (resting : s.pipeline.stage ≠ .submitted) (frames : s.pipeline.enqueued ≠ 0)
    (h : (runThrough asynchronous).Ends s r s') :
    ThroughEnds asynchronous s name d e r s' := by
  cases asynchronous with
  | false =>
    have answer : (launch false s).result = r := h.result
    rcases launched_cases (execute_cases h) ready resting frames with
      ⟨f, e', ends, rfl, rfl⟩ | ⟨e', ends, rfl, rfl⟩
    · exact .refused answer ends
    · exact .ended answer ends
  | true =>
    have launches := submit.ends_self s
    have answer : (launch true s).result = (submit s).result := rfl
    rcases launched_cases (execute_cases launches) ready resting frames with
      ⟨f, e', ends, same, after⟩ | ⟨e₁, ends, same, after⟩
    · rw [same, after] at launches
      cases runtime : f.isRuntime with
      | true =>
        have refused : ThroughEnds true s name d e _ _ := .refused (answer.trans same) ends
        simp only [runtime, if_true] at launches refused
        rw [runThrough, if_pos rfl, Act.ends_bind_of_ok launches] at h
        obtain ⟨rfl, rfl⟩ := Act.ends_pure.1 h
        exact refused
      | false =>
        have refused : ThroughEnds true s name d e _ _ := .refused (answer.trans same) ends
        simp only [runtime, Bool.false_eq_true, if_false] at launches refused
        rw [runThrough, if_pos rfl, Act.ends_bind_of_error launches] at h
        obtain ⟨rfl, rfl⟩ := h
        exact refused
    · rw [same, after] at launches
      rw [runThrough, if_pos rfl, Act.ends_bind_of_ok launches, if_pos rfl] at h
      have answer := answer.trans same
      obtain ⟨_, prepared, prepares, starts⟩ := Act.ends_bind_ok.1 ends
      have used : Uses e e₁ := (Decoder.uses_prepare prepares).tail (.starts starts)
      have ready₁ : Ready { s.withEngine name e₁ with pipeline := s.pipeline.withRun false } name d
          e₁ := (ready.withEngine used).congr rfl rfl rfl
      have asked {α : Type} {x : Act ε α} {r : Except Fault α} {t : Site ε}
          (asks : AskEnds x
            { s.withEngine name e₁ with pipeline := s.pipeline.withRun false } r t) :
          ∃ e₂, x.Ends e₁ r e₂ ∧
            t = { s.withEngine name e₂ with pipeline := s.pipeline.withRun false } := by
        cases asks with
        | unready unready => exact absurd unready ready₁.not_unready
        | asked ready' ends =>
          obtain ⟨rfl, rfl, rfl⟩ := ready₁.unique ready'
          refine ⟨_, ends, ?_⟩
          simp only [Site.withEngine, Bench.withEngine_withEngine]
      cases wait_cases h with
      | idle resting => exact absurd rfl resting
      | known _ done => cases done
      | answered _ _ asks =>
        obtain ⟨e₂, waits, rfl⟩ := asked asks
        obtain rfl := Compliant.over_of_wait waits
        refine .ended answer ?_
        rw [carryingOut, if_pos rfl, Act.ends_bind_of_ok prepares, Act.ends_bind_of_ok starts,
          Act.ends_bind_of_ok waits]
        exact Act.ends_pure.2 ⟨rfl, rfl⟩
      | failed _ _ asks runtime =>
        obtain ⟨e₂, waits, rfl⟩ := asked asks
        exact .lost rfl answer ends waits runtime
      | broken _ _ asks other =>
        obtain ⟨e₂, waits, rfl⟩ := asked asks
        exact .broken rfl ends waits other

/-- How running a batch and fetching its results ends. -/
inductive CycleEnds (asynchronous : Bool) (s : Site ε) (name : String) (d : Descriptor) (e : ε) :
    Except Fault Bool → Site ε → Prop
  | unfinished {r : Except Fault Bool} {s' : Site ε}
    (through : ThroughEnds asynchronous s name d e r s') (empty : r ≠ .ok true) :
    CycleEnds asynchronous s name d e r s'
  | illegible {e₁ e₂ : ε} {f : Fault} {pending : List Result}
    (answer : (launch asynchronous s).result = .ok true)
    (runs : (s.pipeline.decoder.prepare d >>= fun _ => carryingOut asynchronous).Ends e
      (.ok ()) e₁)
    (decodes : (s.pipeline.decoder.decode d).Ends (e₁, s.pipeline.pending) (.error f)
      (e₂, pending)) (runtime : f.isRuntime = true) :
    CycleEnds asynchronous s name d e (.ok false) (dropped (s.withEngine name e₂))
  | blocked {e₁ e₂ : ε} {f : Fault} {pending : List Result}
    (runs : (s.pipeline.decoder.prepare d >>= fun _ => carryingOut asynchronous).Ends e
      (.ok ()) e₁)
    (decodes : (s.pipeline.decoder.decode d).Ends (e₁, s.pipeline.pending) (.error f)
      (e₂, pending)) (other : f.isRuntime = false) :
    CycleEnds asynchronous s name d e (.error f)
      { s.withEngine name e₂ with pipeline := { s.pipeline.withRun true with pending } }
  | fetched {e₁ e₂ : ε} {pending results : List Result} {delivery : Except Fault Unit}
    {s' : Site ε} (answer : (launch asynchronous s).result = .ok true)
    (runs : (s.pipeline.decoder.prepare d >>= fun _ => carryingOut asynchronous).Ends e
      (.ok ()) e₁)
    (decodes : (s.pipeline.decoder.decode d).Ends (e₁, s.pipeline.pending) (.ok results)
      (e₂, pending))
    (delivers : (deliver results s.pipeline.outputs).Ends
      (withResults (s.withEngine name e₂) results) delivery s') :
    CycleEnds asynchronous s name d e (delivery.map fun _ => true) s'

theorem uses_carryingOut {asynchronous : Bool} {e e' : ε} {r : Except Fault Unit}
    (h : (carryingOut asynchronous).Ends e r e') : Uses e e' := by
  cases asynchronous with
  | false => exact .single (.infers h)
  | true =>
    rcases Act.ends_bind.1 h with ⟨_, middle, starts, h⟩ | ⟨_, _, starts⟩
    · rcases Act.ends_bind.1 h with ⟨_, after, waits, h⟩ | ⟨_, _, waits⟩
      · obtain ⟨_, rfl⟩ := Act.ends_pure.1 h
        exact .tail (.single (.starts starts)) (.waits waits)
      · exact .tail (.single (.starts starts)) (.waits waits)
    · exact .single (.starts starts)

theorem uses_prepared {decoder : Decoder} {run : Act ε Unit} {e e' : ε} {r : Except Fault Unit}
    (uses : ∀ {e e' : ε} {r : Except Fault Unit}, run.Ends e r e' → Uses e e')
    (h : (decoder.prepare d >>= fun _ => run).Ends e r e') : Uses e e' := by
  rcases Act.ends_bind.1 h with ⟨_, middle, prepares, runs⟩ | ⟨_, _, prepares⟩
  · exact (Decoder.uses_prepare prepares).trans (uses runs)
  · exact Decoder.uses_prepare prepares

theorem cycle_cases [Lawful ε] [Compliant ε] {r : Except Fault Bool} (ready : Ready s name d e)
    (resting : s.pipeline.stage ≠ .submitted) (frames : s.pipeline.enqueued ≠ 0)
    (h : (cycle asynchronous).Ends s r s') : CycleEnds asynchronous s name d e r s' := by
  rcases Act.ends_bind.1 h with ⟨ended, middle, ends, h⟩ | ⟨f, rfl, ends⟩
  · have through := through_cases ready resting frames ends
    cases ended with
    | false =>
      obtain ⟨rfl, rfl⟩ := Act.ends_pure.1 h
      exact .unfinished through (by simp)
    | true =>
      rw [if_pos rfl] at h
      generalize answered : (Except.ok true : Except Fault Bool) = r₁ at through
      cases through with
      | refused _ _ => split at answered <;> cases answered
      | lost _ _ _ _ _ => cases answered
      | broken _ _ _ _ => cases answered
      | @ended e₁ answer runs =>
        have ready₁ : Ready { s.withEngine name e₁ with pipeline := s.pipeline.withRun true } name d
            e₁ := (ready.withEngine (uses_prepared uses_carryingOut runs)).congr rfl rfl rfl
        -- the run is known to be over, so the engine is not asked again
        have known {r₂ : Except Fault Bool} {waited : Site ε} (asks : isOver.Ends
            { s.withEngine name e₁ with pipeline := s.pipeline.withRun true } r₂ waited) :
            r₂ = .ok true ∧
              waited = { s.withEngine name e₁ with pipeline := s.pipeline.withRun true } := by
          rw [isOver, Act.ends_get_bind] at asks
          exact Act.ends_pure.1 asks
        have decoded {r₂ : Except Fault (List Result)} {read : Site ε} (decodes : DecodeEnds
            { s.withEngine name e₁ with pipeline := s.pipeline.withRun true } r₂ read) :
            ∃ e₂ pending, (s.pipeline.decoder.decode d).Ends (e₁, s.pipeline.pending) r₂
              (e₂, pending) ∧ read = { s.withEngine name e₂ with
                pipeline := { s.pipeline.withRun true with pending } } := by
          cases decodes with
          | unready unready => exact absurd unready ready₁.not_unready
          | decoded ready' ends =>
            obtain ⟨rfl, rfl, rfl⟩ := ready₁.unique ready'
            refine ⟨_, _, ends, ?_⟩
            simp only [withPending, Site.withEngine, Bench.withEngine_withEngine]
        cases fetch_cases h with
        | idle resting _ => exact absurd rfl resting
        | early _ asks empty => exact absurd (known asks).1 empty
        | failed _ asks decodes runtime =>
          obtain ⟨_, rfl⟩ := known asks
          obtain ⟨e₂, pending, ends, rfl⟩ := decoded decodes
          exact .illegible answer runs ends runtime
        | broken _ asks decodes other =>
          obtain ⟨_, rfl⟩ := known asks
          obtain ⟨e₂, pending, ends, rfl⟩ := decoded decodes
          exact .blocked runs ends other
        | fetched _ asks decodes delivers =>
          obtain ⟨_, rfl⟩ := known asks
          obtain ⟨e₂, pending, ends, rfl⟩ := decoded decodes
          exact .fetched answer runs ends delivers
  · exact .unfinished (through_cases ready resting frames ends) (by simp)

/-- What a batch has come to when a cycle has returned: the engine refused it, or it was lost, or
its results were given out. -/
inductive Settled (asynchronous : Bool) (s s' : Site ε) : Bool → Prop
  | refused (answer : (launch asynchronous s).result = .ok false)
    (pipeline : s'.pipeline = s.pipeline) (outputs : s'.bench.outputs = s.bench.outputs) :
    Settled asynchronous s s' false
  | lost (answer : (launch asynchronous s).result = .ok true)
    (pipeline : s'.pipeline = s.pipeline.cleared)
    (outputs : s'.bench.outputs = s.bench.outputs) : Settled asynchronous s s' false
  | given {results : List Result} {t : Site ε}
    (answer : (launch asynchronous s).result = .ok true)
    (pipeline : s'.pipeline = { s.pipeline.cleared with results, stage := .fetched })
    (places : results.map (·.location) = s.pipeline.pending.map (·.location))
    (outputs : t.bench.outputs = s.bench.outputs)
    (delivers : (deliver results s.pipeline.outputs).Ends t (.ok ()) s') :
    Settled asynchronous s s' true

theorem ThroughEnds.settled {fetched : Bool} {r : Except Fault Bool}
    (h : ThroughEnds asynchronous s name d e r s') (empty : r ≠ .ok true)
    (returned : r = .ok fetched) : Settled asynchronous s s' fetched := by
  cases h with
  | @refused _ f answer _ =>
    cases runtime : f.isRuntime with
    | true =>
      simp only [runtime, if_true] at answer returned
      cases returned
      exact .refused answer rfl rfl
    | false =>
      simp only [runtime, Bool.false_eq_true, if_false] at returned
      cases returned
  | lost _ answer _ _ _ =>
    cases returned
    exact .lost answer rfl rfl
  | broken _ _ _ _ => cases returned
  | ended _ _ => exact absurd rfl empty

theorem CycleEnds.settled {fetched : Bool} {r : Except Fault Bool}
    (h : CycleEnds asynchronous s name d e r s') (builtin : s.pipeline.decoder.Builtin)
    (returned : r = .ok fetched) : Settled asynchronous s s' fetched := by
  cases h with
  | unfinished through empty => exact through.settled empty returned
  | illegible answer _ _ _ =>
    cases returned
    exact .lost answer rfl rfl
  | blocked _ _ _ => cases returned
  | @fetched _ _ _ _ delivery _ answer _ decodes delivers =>
    cases delivery with
    | error f => cases returned
    | ok _ =>
      cases returned
      have places := (builtin.decode_keeps decodes).2.2 _ rfl
      obtain ⟨outputs, after⟩ := deliver_frame delivers
      exact .given (t := withResults (s.withEngine name _) _) answer (by rw [after]; rfl) places rfl
        delivers

theorem ThroughEnds.uses {r : Except Fault Bool} (h : ThroughEnds asynchronous s name d e r s') :
    ∃ e', Uses e e' ∧ ∃ p : Pipeline, s' = { s.withEngine name e' with pipeline := p } ∧
      p.engine = s.pipeline.engine ∧ p.descriptor = s.pipeline.descriptor := by
  cases h with
  | refused _ ends =>
    refine ⟨_, uses_prepared (fun launches => ?_) ends, _, rfl, rfl, rfl⟩
    cases asynchronous with
    | false => exact .single (.infers launches)
    | true => exact .single (.starts launches)
  | lost _ _ starts waits _ =>
    have started := uses_prepared (fun starts => .single (.starts starts)) starts
    exact ⟨_, started.tail (.waits waits), _, rfl, rfl, rfl⟩
  | broken _ starts waits _ =>
    have started := uses_prepared (fun starts => .single (.starts starts)) starts
    exact ⟨_, started.tail (.waits waits), _, rfl, rfl, rfl⟩
  | ended _ runs => exact ⟨_, uses_prepared uses_carryingOut runs, _, rfl, rfl, rfl⟩

theorem CycleEnds.ready [Lawful ε] {r : Except Fault Bool}
    (h : CycleEnds asynchronous s name d e r s') (builtin : s.pipeline.decoder.Builtin)
    (ready : Ready s name d e) : ∃ e', Ready s' name d e' ∧ Uses e e' := by
  have kept {e' : ε} (uses : Uses e e') {p : Pipeline} (engine : p.engine = s.pipeline.engine)
      (descriptor : p.descriptor = s.pipeline.descriptor) (outputs : Entries String Output) :
      Ready { pipeline := p, bench := { (s.withEngine name e').bench with outputs } }
        name d e' := by
    refine (ready.withEngine uses).congr engine ?_ rfl
    simp only [Site.descriptor?, descriptor]
    rfl
  have decoded {e₁ e₂ : ε} {r : Except Fault (List Result)} {pending : List Result}
      (runs : (s.pipeline.decoder.prepare d >>= fun _ => carryingOut asynchronous).Ends e
        (.ok ()) e₁)
      (decodes : (s.pipeline.decoder.decode d).Ends (e₁, s.pipeline.pending) r (e₂, pending)) :
      Uses e e₂ := by
    have watches := (builtin.decode_keeps decodes).1
    have uses := Relation.ReflTransGen.mono (fun _ _ => Backend.Watch.use) _ _ watches
    exact (uses_prepared uses_carryingOut runs).trans uses
  cases h with
  | unfinished through _ =>
    obtain ⟨e', uses, p, rfl, engine, descriptor⟩ := through.uses
    exact ⟨e', kept uses engine descriptor _, uses⟩
  | illegible _ runs decodes _ =>
    have uses := decoded runs decodes
    exact ⟨_, kept (p := s.pipeline.cleared) uses rfl rfl _, uses⟩
  | blocked runs decodes _ =>
    have uses := decoded runs decodes
    exact ⟨_, kept (p := { s.pipeline.withRun true with pending := _ }) uses rfl rfl _, uses⟩
  | fetched _ runs decodes delivers =>
    have uses := decoded runs decodes
    obtain ⟨outputs, rfl⟩ := deliver_frame delivers
    exact ⟨_, kept (p := { s.pipeline.cleared with results := _, stage := .fetched }) uses rfl rfl
      outputs, uses⟩

theorem ThroughEnds.over_of_runs {r : Except Fault Bool} {e₁ : ε}
    (h : ThroughEnds asynchronous s name d e r s')
    (runs : (s.pipeline.decoder.prepare d >>= fun _ => carryingOut asynchronous).Ends e
      (.ok ()) e₁) : r = .ok true := by
  have started (background : asynchronous = true) : ∃ e₂,
      (s.pipeline.decoder.prepare d >>= fun _ => Backend.start).Ends e (.ok ()) e₂ ∧
        ∃ ended, (Backend.wait .null).Ends e₂ (.ok ended) e₁ := by
    subst background
    obtain ⟨_, middle, prepares, runs⟩ := Act.ends_bind_ok.1 runs
    obtain ⟨_, e₂, starts, runs⟩ := Act.ends_bind_ok.1 runs
    obtain ⟨ended, e₃, waits, runs⟩ := Act.ends_bind_ok.1 runs
    obtain ⟨_, rfl⟩ := Act.ends_pure.1 runs
    exact ⟨e₂, (Act.ends_bind_of_ok prepares _).2 starts, ended, waits⟩
  cases h with
  | refused _ ends =>
    cases asynchronous with
    | false => cases ends.1.symm.trans runs.1
    | true =>
      obtain ⟨e₂, starts, _⟩ := started rfl
      cases ends.1.symm.trans starts.1
  | lost background _ starts waits _ =>
    obtain ⟨e₂, starts', ended, waits'⟩ := started background
    cases starts.2.symm.trans starts'.2
    cases waits.1.symm.trans waits'.1
  | broken background starts waits _ =>
    obtain ⟨e₂, starts', ended, waits'⟩ := started background
    cases starts.2.symm.trans starts'.2
    cases waits.1.symm.trans waits'.1
  | ended _ _ => rfl

theorem CycleEnds.fetched_of_runs {r : Except Fault Bool} {e₁ : ε}
    (h : CycleEnds asynchronous s name d e r s')
    (runs : (s.pipeline.decoder.prepare d >>= fun _ => carryingOut asynchronous).Ends e
      (.ok ()) e₁)
    (legible : ∃ results, (s.pipeline.decoder.decode d (e₁, s.pipeline.pending)).result =
      .ok results) (quiet : Quiet s) : r = .ok true := by
  obtain ⟨results, legible⟩ := legible
  cases h with
  | unfinished through empty => exact absurd (through.over_of_runs runs) empty
  | illegible _ runs' decodes _ =>
    cases runs.2.symm.trans runs'.2
    cases legible.symm.trans decodes.1
  | blocked runs' decodes _ =>
    cases runs.2.symm.trans runs'.2
    cases legible.symm.trans decodes.1
  | fetched _ _ _ delivers =>
    obtain ⟨rfl, _⟩ := deliver_quiet (s := withResults (s.withEngine name _) _) quiet
      (fun _ member => member) delivers
    rfl

end

end FrameBatch.Pipeline
