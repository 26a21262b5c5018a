import FrameBatch.Proofs.Recognition.Measured

/-!
The course of a recognition over its pictures: what was enqueued with which answer, and what became
of the batches. A course says no more than how the acts of the recognition returned one after the
other.
-/

namespace FrameBatch.Recognition

inductive Deed where
  | enqueued (path : String) (place : Rect) (accepted : Bool)
  /-- a batch was run: where its frames lie, whether the engine took it over, and the results that
  the output passed on afterwards -/
  | ran (batch : List Rect) (taken : Bool) (handled : List Result)

def place (img : Image) : Rect := .ofInts 0 0 img.width img.height

def batch (s : State) : List Rect := s.site.pipeline.pending.map (·.location)

def waiting (s : State) : List Result :=
  match s.site.bench.outputs.get? outputName with
  | some (.log _ _ _ results) => results
  | _ => []

inductive Runs (asynchronous : Bool) (s : State) :
    (taken fetched : Bool) → (handled : List Result) → State → Prop
  | runs {taken fetched : Bool} {middle s' : State}
    (answer : (Pipeline.launch asynchronous s.site).result = .ok taken)
    (cycles : (measuredCycle asynchronous).Ends s (.ok fetched) middle)
    (handles : handling.Ends middle (.ok ()) s') :
    Runs asynchronous s taken fetched (waiting middle) s'

inductive Visit [Resizer] (asynchronous : Bool) (path : String) (t : Tally) (s : State) :
    List Deed → Tally → State → Prop
  | unreadable (none : s.journal.files.pixels? path = none) : Visit asynchronous path t s [] t s
  | enqueued {img : Image} {s' : State} (read : s.journal.files.pixels? path = some img)
    (enqueues : (enqueue img).Ends s (.ok true) s') :
    Visit asynchronous path t s [.enqueued path (place img) true]
      { t with frames := t.frames + 1 } s'
  | retried {img : Image} {taken fetched accepted : Bool} {handled : List Result}
    {s₁ s₂ s' : State} (read : s.journal.files.pixels? path = some img)
    (full : (enqueue img).Ends s (.ok false) s₁)
    (runs : Runs asynchronous s₁ taken fetched handled s₂)
    (retries : (enqueue img).Ends s₂ (.ok accepted) s') :
    Visit asynchronous path t s
      [.enqueued path (place img) false, .ran (batch s₁) taken handled,
        .enqueued path (place img) accepted]
      ⟨t.batches + fetched.toNat, t.frames + accepted.toNat⟩ s'

inductive Visits [Resizer] (asynchronous : Bool) :
    Tally → State → List String → List (List Deed) → Tally → State → Prop
  | done {t : Tally} {s : State} : Visits asynchronous t s [] [] t s
  | next {t t₁ t' : Tally} {s s₁ s' : State} {path : String} {paths : List String}
    {deeds : List Deed} {later : List (List Deed)}
    (visit : Visit asynchronous path t s deeds t₁ s₁)
    (visits : Visits asynchronous t₁ s₁ paths later t' s') :
    Visits asynchronous t s (path :: paths) (deeds :: later) t' s'

/-- What is left in the slots at the end is run. -/
inductive Closes (asynchronous : Bool) (t : Tally) (s : State) : List Deed → Tally → State → Prop
  | empty (nothing : s.site.pipeline.enqueued = 0) : Closes asynchronous t s [] t s
  | flushed {taken fetched : Bool} {handled : List Result} {s' : State}
    (left : 0 < s.site.pipeline.enqueued) (runs : Runs asynchronous s taken fetched handled s') :
    Closes asynchronous t s [.ran (batch s) taken handled]
      { t with batches := t.batches + fetched.toNat } s'

section

variable {asynchronous : Bool} {t t' : Tally} {s s' : State}

theorem runs_iff {fetched : Bool} :
    (runBatch asynchronous).Ends s (.ok fetched) s' ↔
      ∃ taken handled, Runs asynchronous s taken fetched handled s' := by
  rw [runBatch_eq]
  constructor
  · intro h
    obtain ⟨got, middle, cycles, h⟩ := Act.ends_bind_ok.1 h
    obtain ⟨_, last, handles, h⟩ := Act.ends_bind_ok.1 h
    obtain ⟨same, rfl⟩ := Act.ends_pure.1 h
    cases same
    have cycle := (measures_onInference.around_onSite_cases cycles).1
    obtain ⟨taken, answer⟩ := Pipeline.launch_of_cycle cycle
    exact ⟨taken, _, .runs answer cycles handles⟩
  · rintro ⟨taken, handled, ⟨_, cycles, handles⟩⟩
    rw [Act.ends_bind_of_ok cycles, Act.ends_bind_of_ok handles]
    exact Act.ends_pure.2 ⟨rfl, rfl⟩

variable [Resizer]

theorem visit_iff {path : String} :
    (process asynchronous t path).Ends s (.ok t') s' ↔
      ∃ deeds, Visit asynchronous path t s deeds t' s' := by
  rw [process, Act.ends_get_bind]
  constructor
  · intro h
    cases read : s.journal.files.pixels? path with
    | none =>
      simp only [read, ends_say_bind] at h
      obtain ⟨same, rfl⟩ := Act.ends_pure.1 h
      cases same
      exact ⟨_, .unreadable read⟩
    | some img =>
      simp only [read] at h
      obtain ⟨accepted, s₁, first, h⟩ := Act.ends_bind_ok.1 h
      cases accepted with
      | true =>
        obtain ⟨same, rfl⟩ := Act.ends_pure.1 h
        cases same
        exact ⟨_, .enqueued read first⟩
      | false =>
        obtain ⟨fetched, s₂, runs, h⟩ := Act.ends_bind_ok.1 h
        obtain ⟨taken, handled, runs⟩ := runs_iff.1 runs
        obtain ⟨accepted, s₃, again, h⟩ := Act.ends_bind_ok.1 h
        obtain ⟨same, rfl⟩ := Act.ends_pure.1 h
        cases same
        exact ⟨_, .retried read first runs again⟩
  · rintro ⟨deeds, visit⟩
    cases visit with
    | unreadable read =>
      simp only [read, ends_say_bind]
      exact Act.ends_pure.2 ⟨rfl, rfl⟩
    | enqueued read first =>
      simp only [read, Act.ends_bind_of_ok first]
      exact Act.ends_pure.2 ⟨rfl, rfl⟩
    | retried read first runs again =>
      have runs := runs_iff.2 ⟨_, _, runs⟩
      simp only [read, Act.ends_bind_of_ok first, Bool.false_eq_true, if_false,
        Act.ends_bind_of_ok runs, Act.ends_bind_of_ok again]
      exact Act.ends_pure.2 ⟨rfl, rfl⟩

theorem visits_iff {paths : List String} :
    (paths.foldlM (process asynchronous) t).Ends s (.ok t') s' ↔
      ∃ visits, Visits asynchronous t s paths visits t' s' := by
  induction paths generalizing t s with
  | nil =>
    constructor
    · intro h
      obtain ⟨same, rfl⟩ := Act.ends_pure.1 h
      cases same
      exact ⟨[], .done⟩
    · rintro ⟨_, ⟨⟩⟩
      exact Act.ends_pure.2 ⟨rfl, rfl⟩
  | cons path paths ih =>
    rw [List.foldlM_cons, Act.ends_bind_ok]
    constructor
    · rintro ⟨t₁, s₁, first, rest⟩
      obtain ⟨deeds, visit⟩ := visit_iff.1 first
      obtain ⟨later, visits⟩ := ih.1 rest
      exact ⟨_, .next visit visits⟩
    · rintro ⟨_, visited⟩
      cases visited with
      | next visit visits => exact ⟨_, _, visit_iff.2 ⟨_, visit⟩, ih.2 ⟨_, visits⟩⟩

theorem course_iff {paths : List String} :
    (processAll asynchronous paths).Ends s (.ok t') s' ↔
      ∃ visits t₁ s₁ closing, Visits asynchronous {} s paths visits t₁ s₁ ∧
        Closes asynchronous t₁ s₁ closing t' s' := by
  rw [processAll]
  constructor
  · intro h
    obtain ⟨t₁, s₁, loop, h⟩ := Act.ends_bind_ok.1 h
    obtain ⟨visits, visited⟩ := visits_iff.1 loop
    rw [Act.ends_get_bind] at h
    split at h
    · rename_i left
      obtain ⟨fetched, s₂, runs, h⟩ := Act.ends_bind_ok.1 h
      obtain ⟨taken, handled, runs⟩ := runs_iff.1 runs
      obtain ⟨same, rfl⟩ := Act.ends_pure.1 h
      cases same
      exact ⟨visits, t₁, s₁, _, visited, .flushed left runs⟩
    · rename_i nothing
      obtain ⟨same, rfl⟩ := Act.ends_pure.1 h
      cases same
      exact ⟨visits, _, _, [], visited, .empty (by omega)⟩
  · rintro ⟨visits, t₁, s₁, closing, visited, closes⟩
    rw [Act.ends_bind_of_ok (visits_iff.2 ⟨_, visited⟩), Act.ends_get_bind]
    cases closes with
    | empty nothing =>
      rw [if_neg (by omega)]
      exact Act.ends_pure.2 ⟨rfl, rfl⟩
    | flushed left runs =>
      rw [if_pos left, Act.ends_bind_of_ok (runs_iff.2 ⟨_, _, runs⟩)]
      exact Act.ends_pure.2 ⟨rfl, rfl⟩

end

end FrameBatch.Recognition
