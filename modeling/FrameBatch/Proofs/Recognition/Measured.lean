import FrameBatch.Proofs.Pipeline.Batch
import FrameBatch.Recognition.Run

namespace FrameBatch.Recognition

variable {α β : Type} {s s' : State} {r : Except Fault α}

theorem ends_onSite {x : Act (Site Engine) α} :
    (onSite x).Ends s r s' ↔ ∃ site, x.Ends s.site r site ∧ s' = { s with site } :=
  Act.ends_on

theorem ends_onBench {x : Act (Bench Engine) α} :
    (onBench x).Ends s r s' ↔
      ∃ bench, x.Ends s.site.bench r bench ∧ s' = { s with site := { s.site with bench } } := by
  rw [onBench, ends_onSite]
  constructor
  · rintro ⟨site, ends, rfl⟩
    obtain ⟨bench, changes, rfl⟩ := Site.ends_onBench.1 ends
    exact ⟨bench, changes, rfl⟩
  · rintro ⟨bench, ends, rfl⟩
    exact ⟨_, Site.ends_onBench.2 ⟨bench, ends, rfl⟩, rfl⟩

theorem onSite_bind (x : Act (Site Engine) α) (f : α → Act (Site Engine) β) :
    onSite (x >>= f) = onSite x >>= fun a => onSite (f a) := by
  funext s
  rcases h : x s.site with ⟨result, site, trail⟩
  have here : onSite x s = ⟨result, { s with site }, trail⟩ := by simp only [onSite, Act.on, h]
  cases result with
  | error e => rw [Act.bind_of_error here, onSite, Act.on, Act.bind_of_error h]
  | ok a =>
    rw [Act.bind_of_ok here, onSite, Act.on, Act.bind_of_ok h]
    rfl

theorem ends_say_bind {level : Level} {message : String} {f : Unit → Act State α} :
    (say level message >>= f).Ends s r s' ↔ (f ()).Ends s r s' :=
  Act.ends_log_bind

/-- The states differ in clocks and stopwatches at most. -/
structure Same (s s' : State) : Prop where
  journal : s'.journal = s.journal
  site : s'.site = s.site

/-- The totals of all stopwatches are reals. -/
structure Ticks (s : State) : Prop where
  loading : ∃ x, s.loading.total = .float x
  enqueueing : ∃ x, s.enqueueing.total = .float x
  inference : ∃ x, s.inference.total = .float x

theorem Ticks.withSite (ticks : Ticks s) (site : Site Engine) : Ticks { s with site } :=
  ⟨ticks.loading, ticks.enqueueing, ticks.inference⟩

/-- What is done to a stopwatch succeeds, and leaves it a real for a total. -/
def Regular (x : Act Timed Unit) : Prop :=
  ∀ t, (∃ y, t.watch.total = .float y) → ∃ t', x.Ends t (.ok ()) t' ∧ ∃ y, t'.watch.total = .float y

theorem ends_now (t : Timed) :
    ∃ time, Stopwatch.now.Ends t (.ok time)
      { t with clock := { t.clock with looks := t.clock.looks + 1 } } := by
  refine ⟨t.clock.reading t.clock.looks, ?_⟩
  rw [Stopwatch.now, Act.ends_get_bind]
  split
  · rw [Act.ends_bind_of_ok (Act.ends_call.2 ⟨rfl, rfl⟩), Act.ends_set_bind]
    exact Act.ends_pure.2 ⟨rfl, rfl⟩
  · exact Act.ends_set_bind.2 (Act.ends_pure.2 ⟨rfl, rfl⟩)

theorem regular_start : Regular Stopwatch.start := by
  rintro t total
  obtain ⟨time, looks⟩ := ends_now t
  exact ⟨_, (Act.ends_bind_of_ok looks _).2 (Act.ends_modify.2 ⟨rfl, rfl⟩), total⟩

theorem regular_stop : Regular Stopwatch.stop := by
  rintro t ⟨y, total⟩
  obtain ⟨time, looks⟩ := ends_now t
  let elapsed := Format.double.sub time t.watch.started
  have sum : t.watch.total.plusReal elapsed = .ok (.float (Format.double.add y elapsed)) := by
    rw [total]
    rfl
  refine ⟨⟨{ t.clock with looks := t.clock.looks + 1 },
    { t.watch with elapsed, total := .float (Format.double.add y elapsed) }⟩, ?_, _, rfl⟩
  rw [Stopwatch.stop, Act.ends_bind_of_ok looks, Stopwatch.update,
    Act.ends_bind_of_ok (Act.ends_modify.2 ⟨rfl, rfl⟩), Act.ends_get_bind,
    Act.ends_bind_of_ok (Act.ends_lift.2 ⟨sum.symm, rfl⟩)]
  exact Act.ends_modify.2 ⟨rfl, rfl⟩

/-- A place of the state where a stopwatch is. -/
structure Measures (on : Act Timed Unit → Act State Unit) : Prop where
  same {x : Act Timed Unit} {s s' : State} {r : Except Fault Unit} (ends : (on x).Ends s r s') :
    Same s s'
  ticks {x : Act Timed Unit} {s : State} (regular : Regular x) (ticks : Ticks s) :
    ∃ s', (on x).Ends s (.ok ()) s' ∧ Ticks s'

theorem measures_onEnqueueing : Measures onEnqueueing where
  same ends := by
    obtain ⟨t, _, rfl⟩ := Act.ends_on.1 ends
    exact ⟨rfl, rfl⟩
  ticks {x s} regular ticks := by
    obtain ⟨t, ends, total⟩ := regular ⟨s.clock, s.enqueueing⟩ ticks.enqueueing
    exact ⟨_, Act.ends_on.2 ⟨t, ends, rfl⟩, ticks.loading, total, ticks.inference⟩

theorem measures_onInference : Measures onInference where
  same ends := by
    obtain ⟨t, _, rfl⟩ := Act.ends_on.1 ends
    exact ⟨rfl, rfl⟩
  ticks {x s} regular ticks := by
    obtain ⟨t, ends, total⟩ := regular ⟨s.clock, s.inference⟩ ticks.inference
    exact ⟨_, Act.ends_on.2 ⟨t, ends, rfl⟩, ticks.loading, ticks.enqueueing, total⟩

theorem measures_onLoading : Measures onLoading where
  same ends := by
    obtain ⟨t, _, rfl⟩ := Act.ends_on.1 ends
    exact ⟨rfl, rfl⟩
  ticks {x s} regular ticks := by
    obtain ⟨t, ends, total⟩ := regular ⟨s.clock, s.loading⟩ ticks.loading
    exact ⟨_, Act.ends_on.2 ⟨t, ends, rfl⟩, total, ticks.enqueueing, ticks.inference⟩

namespace Measures

variable {on : Act Timed Unit → Act State Unit} (measures : Measures on)

include measures

theorem around_cases {x : Act State α} {a : α}
    (h : (Stopwatch.around on x).Ends s (.ok a) s') :
    ∃ s₁ s₂, Same s s₁ ∧ x.Ends s₁ (.ok a) s₂ ∧ Same s₂ s' := by
  obtain ⟨_, s₁, starts, h⟩ := Act.ends_bind_ok.1 h
  obtain ⟨r₁, s₂, ends, ⟨stops, returned⟩ | ⟨_, _, fault⟩⟩ := Act.ends_andFinally.1 h
  · cases returned
    exact ⟨s₁, s₂, measures.same starts, ends, measures.same stops⟩
  · cases fault

theorem around_onSite_cases {x : Act (Site Engine) α} {a : α}
    (h : (Stopwatch.around on (onSite x)).Ends s (.ok a) s') :
    x.Ends s.site (.ok a) s'.site ∧ s'.journal = s.journal := by
  obtain ⟨s₁, s₂, before, ends, after⟩ := measures.around_cases h
  obtain ⟨site, runs, rfl⟩ := ends_onSite.1 ends
  rw [before.site] at runs
  rw [after.site, after.journal, before.journal]
  exact ⟨runs, rfl⟩

theorem around_onSite {x : Act (Site Engine) α} {a : α} {site : Site Engine} (ticks : Ticks s)
    (ends : x.Ends s.site (.ok a) site) :
    ∃ s', (Stopwatch.around on (onSite x)).Ends s (.ok a) s' ∧ s'.site = site ∧ Ticks s' := by
  obtain ⟨s₁, starts, ticks₁⟩ := measures.ticks regular_start ticks
  rw [← (measures.same starts).site] at ends
  obtain ⟨s', stops, ticks'⟩ := measures.ticks regular_stop (ticks₁.withSite site)
  refine ⟨s', ?_, (measures.same stops).site, ticks'⟩
  rw [Stopwatch.around, Act.ends_bind_of_ok starts]
  exact Act.ends_andFinally.2 ⟨_, _, ends_onSite.2 ⟨site, ends, rfl⟩, .inl ⟨stops, rfl⟩⟩

end Measures

def measuredCycle (asynchronous : Bool) : Act State Bool :=
  Stopwatch.around onInference (onSite (Pipeline.cycle asynchronous))

def handling : Act State Unit := onBench (Bench.onOutput outputName Output.handle)

theorem runBatch_eq (asynchronous : Bool) :
    runBatch asynchronous = (do
      let fetched ← measuredCycle asynchronous
      handling
      return fetched) := by
  have cycle : onSite (Pipeline.cycle asynchronous) = (do
      let submitted ← onSite (Pipeline.runThrough asynchronous)
      if submitted then onSite Pipeline.fetch else return false) := by
    rw [Pipeline.cycle, onSite_bind]
    congr
    funext ended
    cases ended <;> rfl
  rw [measuredCycle, cycle]
  rfl

end FrameBatch.Recognition
