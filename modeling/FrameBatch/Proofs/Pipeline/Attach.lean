import FrameBatch.Proofs.Pipeline.Cycle

namespace FrameBatch

variable {ε : Type}

namespace Site

def withLoading (s : Site ε) (engine : String) (network : NetworkKey) (l : Loading ε) : Site ε :=
  { s with bench := s.bench.withLoading engine s.pipeline.descriptor network l }

theorem descriptor?_withLoading {s : Site ε} {d : Descriptor} (described : s.descriptor? = some d)
    (engine : String) (network : NetworkKey) (l : Loading ε) :
    (s.withLoading engine network l).descriptor? = some l.descriptor := by
  rw [descriptor?] at described
  simp [descriptor?, withLoading, Bench.withLoading, Entries.get?_adjust_self, described]

theorem holds_withLoading {s : Site ε} {engine : String} {e : ε} (held : s.bench.Holds engine e)
    (network : NetworkKey) (l : Loading ε) :
    (s.withLoading engine network l).bench.Holds engine l.engine := by
  obtain ⟨key, found⟩ := held
  exact ⟨key, by simp [withLoading, Bench.withLoading, Entries.get?_adjust_self, found]⟩

theorem holds_withLoading_of_ne {s : Site ε} {engine other : String} {e : ε}
    (held : s.bench.Holds other e) (different : other ≠ engine) (network : NetworkKey)
    (l : Loading ε) : (s.withLoading engine network l).bench.Holds other e := by
  obtain ⟨key, found⟩ := held
  refine ⟨key, ?_⟩
  simp [withLoading, Bench.withLoading, Entries.get?_adjust_of_ne different, found]

theorem holds_of_withLoading {s : Site ε} {engine other : String} {e : ε} {key : NetworkKey}
    {l : Loading ε} (held : (s.withLoading engine key l).bench.Holds other e)
    (different : other ≠ engine) : s.bench.Holds other e := by
  obtain ⟨key', found⟩ := held
  simp only [withLoading, Bench.withLoading, Entries.get?_adjust_of_ne different] at found
  exact ⟨key', found⟩

end Site

namespace Pipeline

def withEngine (p : Pipeline) (engine : String) : Pipeline :=
  { p.cleared with engine := some engine, results := [] }

variable [Backend ε]

def fitting (e : ε) : Act (Loading ε) Unit :=
  if Backend.isLoaded e then Loading.onFitting Descriptor.accept
  else Backend.load Descriptor.accept

inductive AttachEnds (s : Site ε) (engine : String) : Except Fault Unit → Site ε → Prop
  | missing (absent : ∀ e, ¬ s.bench.Holds engine e) :
    AttachEnds s engine (.error (.refused (.absent engine))) s
  | undescribed {e : ε} (held : s.bench.Holds engine e) (absent : s.descriptor? = none) :
    AttachEnds s engine (.error (.refused (.absent s.pipeline.descriptor))) s
  | unfit {e : ε} {d : Descriptor} {key : NetworkKey} {l : Loading ε} {f : Fault}
    (found : s.bench.engines.get? engine = some (key, e)) (described : s.descriptor? = some d)
    (fits : (fitting e).Ends ⟨d, s.bench.network key, e⟩ (.error f) l) :
    AttachEnds s engine (.error f) (s.withLoading engine key l)
  | unread {e e' : ε} {d : Descriptor} {key : NetworkKey} {l : Loading ε} {f : Fault}
    (found : s.bench.engines.get? engine = some (key, e)) (described : s.descriptor? = some d)
    (fits : (fitting e).Ends ⟨d, s.bench.network key, e⟩ (.ok ()) l)
    (reads : (Backend.tensor l.descriptor.input).Ends l.engine (.error f) e') :
    AttachEnds s engine (.error f) ((s.withLoading engine key l).withEngine engine e')
  | rejected {e e' : ε} {d : Descriptor} {key : NetworkKey} {l : Loading ε} {t : Tensor}
    {f : Fault} (found : s.bench.engines.get? engine = some (key, e))
    (described : s.descriptor? = some d)
    (fits : (fitting e).Ends ⟨d, s.bench.network key, e⟩ (.ok ()) l)
    (reads : (Backend.tensor l.descriptor.input).Ends l.engine (.ok t) e')
    (rejects : checkInput l.descriptor.input s.pipeline.maxBatch t = .error f) :
    AttachEnds s engine (.error f) ((s.withLoading engine key l).withEngine engine e')
  | attached {e e' : ε} {d : Descriptor} {key : NetworkKey} {l : Loading ε} {t : Tensor}
    (found : s.bench.engines.get? engine = some (key, e)) (described : s.descriptor? = some d)
    (fits : (fitting e).Ends ⟨d, s.bench.network key, e⟩ (.ok ()) l)
    (reads : (Backend.tensor l.descriptor.input).Ends l.engine (.ok t) e')
    (accepts : checkInput l.descriptor.input s.pipeline.maxBatch t = .ok ()) :
    AttachEnds s engine (.ok ())
      { (s.withLoading engine key l).withEngine engine e' with
        pipeline := s.pipeline.withEngine engine }

theorem attach_cases {s s' : Site ε} {engine : String} {r : Except Fault Unit}
    (h : (loadEngine engine).Ends s r s') : AttachEnds s engine r s' := by
  rw [loadEngine, Act.ends_get_bind] at h
  cases found : s.bench.engines.get? engine with
  | none =>
    simp only [found] at h
    obtain ⟨rfl, rfl⟩ := Act.ends_fail.1 h
    refine .missing ?_
    rintro e ⟨key, found'⟩
    cases found.symm.trans found'
  | some entry =>
    obtain ⟨key, e⟩ := entry
    have held : s.bench.Holds engine e := ⟨key, found⟩
    simp only [found] at h
    cases described : s.descriptor? with
    | none =>
      have loads : (Site.onBench (Bench.onLoading engine s.pipeline.descriptor (fitting e))).Ends s
          (.error (.refused (.absent s.pipeline.descriptor))) s := by
        rw [Site.descriptor?] at described
        refine Site.ends_onBench.2 ⟨s.bench, ?_, rfl⟩
        simp only [Act.Ends, Bench.onLoading, found, described]
        exact ⟨rfl, rfl⟩
      rw [← fitting, Act.ends_bind_of_error loads] at h
      obtain ⟨rfl, rfl⟩ := h
      exact .undescribed held described
    | some d =>
      have loading : ∀ r b, (Bench.onLoading engine s.pipeline.descriptor (fitting e)).Ends
          s.bench r b ↔ _ := fun _ _ =>
        Bench.ends_onLoading found (by rw [Site.descriptor?] at described; exact described)
      rcases Act.ends_bind.1 h with ⟨_, middle, loads, h⟩ | ⟨f, rfl, loads⟩
      · obtain ⟨b, ends, rfl⟩ := Site.ends_onBench.1 loads
        obtain ⟨l, fits, rfl⟩ := (loading _ _).1 ends
        have described' := Site.descriptor?_withLoading described engine key l
        have held' := Site.holds_withLoading held key l
        rw [Site.withLoading] at described' held'
        rw [Act.ends_bind_of_ok (Site.ends_descriptor_of_some described')] at h
        rcases Act.ends_bind.1 h with ⟨t, middle, reads, h⟩ | ⟨f, rfl, reads⟩
        · obtain ⟨e', ends, rfl⟩ := (Site.ends_onEngine held').1 reads
          cases checks : checkInput l.descriptor.input s.pipeline.maxBatch t with
          | error f =>
            rw [Act.ends_bind_of_error (Act.ends_lift.2 ⟨checks.symm, rfl⟩)] at h
            obtain ⟨rfl, rfl⟩ := h
            exact .rejected found described fits ends checks
          | ok _ =>
            rw [Act.ends_bind_of_ok (Act.ends_lift.2 ⟨checks.symm, rfl⟩), Site.ends_update_bind]
              at h
            obtain ⟨rfl, rfl⟩ := Act.ends_log.1 h
            exact .attached found described fits ends checks
        · obtain ⟨e', ends, rfl⟩ := (Site.ends_onEngine held').1 reads
          exact .unread found described fits ends
      · obtain ⟨b, ends, rfl⟩ := Site.ends_onBench.1 loads
        obtain ⟨l, fits, rfl⟩ := (loading _ _).1 ends
        exact .unfit found described fits

end Pipeline

end FrameBatch
