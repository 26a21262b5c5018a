import FrameBatch.Proofs.Recognition.Opening
import Mathlib.Algebra.Group.Nat.Defs

namespace FrameBatch

theorem Format.isFinite_pack {f : Format} {negative : Bool} {m : Nat} {unit : Int}
    (below : unit < f.maxExponent) : (f.pack negative m unit).isFinite = true := by
  have within (unit' : Int) (next : unit' ≤ unit + 1) : ¬ f.maxExponent < unit' := by omega
  rw [pack]
  split
  · rw [if_neg (within _ (Int.le_refl _))]
    rfl
  · rw [if_neg (within _ (by omega))]
    rfl

theorem Format.isFinite_round_double {z : Int} (few : z.natAbs < 2 ^ 1023) :
    (Format.double.round (.ofInt z)).isFinite = true := by
  rw [Binary.ofInt]
  cases size : z.natAbs with
  | zero => rfl
  | succ n =>
    rw [size] at few
    have digits (k : Nat) (below : n + 1 < 2 ^ k) : (n + 1).log2 < k :=
      (Nat.log2_lt n.succ_ne_zero).2 below
    have logarithm := digits 1023 few
    apply isFinite_pack
    simp only [unit, double]
    omega

theorem Value.toReal_of_few {z : Int} (few : z.natAbs < 2 ^ 1023) :
    ∃ x, (Value.int z).toReal = .ok x := by
  refine ⟨Format.double.round (.ofInt z), ?_⟩
  rw [toReal, toReal.whole, Format.ofInt?, if_pos (Format.isFinite_round_double few)]

namespace Stopwatch

theorem rate_of_few {w : Stopwatch} {x : Binary} (total : w.total = .float x) (count : Int)
    (few : count.natAbs < 2 ^ 1023) : ∃ y, w.rate (.int count) = .ok y := by
  obtain ⟨n, real⟩ := Value.toReal_of_few few
  have known : w.total.isAbove 0 = .ok (x.compare? (.ofInt 0) == some .gt) := by
    rw [total]
    rfl
  have quotient : (Value.int count).quotient w.total = .ok (Format.double.div n x) := by
    rw [total, Value.quotient, real]
    rfl
  rw [rate, known, ok_bind]
  split
  · exact ⟨_, quotient⟩
  · exact ⟨_, rfl⟩

theorem meanMilliseconds_of_few {w : Stopwatch} {x : Binary} (total : w.total = .float x)
    (count : Int) (few : count.natAbs < 2 ^ 1023) :
    ∃ y, w.meanMilliseconds (.int count) = .ok y := by
  obtain ⟨n, real⟩ := Value.toReal_of_few few
  have known : (Value.int count).isAbove 0 =
      .ok ((Binary.ofInt count).compare? (.ofInt 0) == some .gt) := rfl
  have quotient : w.total.quotient (.int count) = .ok (Format.double.div x n) := by
    rw [total, Value.quotient, real]
    rfl
  rw [meanMilliseconds, known, ok_bind, quotient]
  split
  · exact ⟨_, rfl⟩
  · exact ⟨_, rfl⟩

end Stopwatch

namespace Recognition

variable {α : Type} {s s' : State}

theorem keeps_ticks_onJournal (x : Act Journal α) : (onJournal x).Keeps Ticks :=
  Act.keeps_on fun _ _ ticks => ⟨ticks.loading, ticks.enqueueing, ticks.inference⟩

theorem keeps_ticks_onSite (x : Act (Site Engine) α) : (onSite x).Keeps Ticks :=
  Act.keeps_on fun _ site ticks => ticks.withSite site

theorem Measures.keeps_ticks {on : Act Timed Unit → Act State Unit} (measures : Measures on)
    {x : Act State α} (keeps : x.Keeps Ticks) : (Stopwatch.around on x).Keeps Ticks := by
  have measured {y : Act Timed Unit} (regular : Regular y) : (on y).Keeps Ticks := by
    intro s ticks
    obtain ⟨s', ends, ticks'⟩ := measures.ticks regular ticks
    exact ends.state ▸ ticks'
  exact Act.keeps_bind (measured regular_start) fun _ =>
    Act.keeps_andFinally keeps (measured regular_stop)

theorem keeps_ticks_openPipeline (around : Surroundings) (settings : Settings) :
    (openPipeline around settings).Keeps Ticks := by
  have path (given : Value) : (modelPath given).Keeps Ticks := fun s ticks =>
    (keeps_modelPath given s s rfl).symm ▸ ticks
  refine Act.keeps_bind (path _) fun _ => Act.keeps_bind (Act.keeps_get _) fun _ =>
    Act.keeps_bind (Act.keeps_lift _ _) fun _ => Act.keeps_bind (Act.keeps_lift _ _) fun _ =>
    Act.keeps_bind (Act.keeps_lift _ _) fun _ => Act.keeps_bind (keeps_ticks_onSite _) fun _ =>
    Act.keeps_bind (Act.keeps_on fun _ _ ticks => ticks) fun _ =>
    Act.keeps_bind (keeps_ticks_onSite _) fun _ =>
    Act.keeps_bind (Act.keeps_on fun _ _ ticks => ticks) fun _ =>
    Act.keeps_bind (keeps_ticks_onSite _) fun _ => Act.keeps_bind (keeps_ticks_onSite _) fun _ =>
    Act.keeps_log _ _ _ _

theorem ends_wallTime (s : State) : ∃ time s', wallTime.Ends s (.ok time) s' ∧
    s'.site = s.site ∧ (Ticks s → Ticks s') :=
  ⟨_, _, wallTime.ends_self s, rfl, fun ticks =>
    ⟨ticks.loading, ticks.enqueueing, ticks.inference⟩⟩

theorem keeps_ticks_wallTime : wallTime.Keeps Ticks := by
  intro s ticks
  obtain ⟨_, s', ends, _, keeps⟩ := ends_wallTime s
  exact ends.state ▸ keeps ticks

theorem keeps_ticks_opening (around : Surroundings) (settings : Settings) :
    (opening around settings).Keeps Ticks :=
  Act.keeps_bind (Act.keeps_lift _ _) fun _ => Act.keeps_bind (Act.keeps_log _ _ _ _) fun _ =>
    Act.keeps_bind keeps_ticks_wallTime fun _ =>
    Act.keeps_bind (measures_onLoading.keeps_ticks (keeps_ticks_openPipeline _ _)) fun _ =>
    Act.keeps_bind (keeps_ticks_onSite _) fun _ => Act.keeps_bind (keeps_ticks_onSite _) fun _ =>
    Act.keeps_pure _ _

theorem keeps_ticks_configure (words : List String) : (configure words).Keeps Ticks := by
  refine Act.keeps_bind (Act.keeps_get _) fun _ => Act.keeps_bind (Act.keeps_lift _ _) fun _ =>
    Act.keeps_bind (keeps_ticks_onJournal _) fun _ =>
    Act.keeps_bind (Act.keeps_lift _ _) fun _ => ?_
  split
  · exact Act.keeps_bind (Act.keeps_log _ _ _ _) fun _ => Act.keeps_pure _ _
  · refine Act.keeps_bind (Act.keeps_lift _ _) fun _ => ?_
    split
    · exact Act.keeps_bind (Act.keeps_log _ _ _ _) fun _ => Act.keeps_pure _ _
    · exact Act.keeps_pure _ _

theorem ticks_start (around : Surroundings) (journal : Journal) (clock wall : Clock) :
    Ticks (.start around journal clock wall) :=
  ⟨⟨_, rfl⟩, ⟨_, rfl⟩, ⟨_, rfl⟩⟩

theorem Begun.ticks {around : Surroundings} {words : List String} {start opened : State}
    {settings : Settings} {time : Binary} {paths : List String}
    (begun : Begun around words start settings time paths opened) (ticks : Ticks start) :
    Ticks opened := by
  obtain ⟨configures, opens, _⟩ := begun
  exact (keeps_ticks_opening _ _).ends opens ((keeps_ticks_configure _).ends configures ticks)

theorem summarize_of_ticks (ticks : Ticks s) {t : Tally} (frames : t.frames < 2 ^ 1023)
    (batches : t.batches < 2 ^ 1023) (total : Binary) :
    (summarize t total).Ends s (.ok ()) s := by
  obtain ⟨⟨loading, loads⟩, ⟨enqueueing, enqueues⟩, ⟨inference, infers⟩⟩ := ticks
  have texts {w : Stopwatch} {x : Binary} (real : w.total = .float x)
      {f : String → Act State Unit} :
      ((liftM (totalText w) : Act State String) >>= f).Ends s (.ok ()) s ↔
        (f (millisecondsText x)).Ends s (.ok ()) s := by
    apply Act.ends_bind_of_ok
    rw [totalText, real]
    exact ⟨rfl, rfl⟩
  obtain ⟨rate, rates⟩ := Stopwatch.rate_of_few infers t.frames frames
  obtain ⟨mean, means⟩ := Stopwatch.meanMilliseconds_of_few infers t.batches batches
  rw [summarize, Act.ends_get_bind]
  simp only [ends_say_bind, texts loads, texts enqueues, texts infers, rates, means]
  split
  · rw [Act.ends_bind_of_ok (Act.ends_lift.2 ⟨rfl, rfl⟩), ends_say_bind,
      Act.ends_bind_of_ok (Act.ends_lift.2 ⟨rfl, rfl⟩), ends_say_bind]
    split
    · exact ends_say_bind.2 (Act.ends_log.2 ⟨rfl, rfl⟩)
    · exact Act.ends_pure.2 ⟨rfl, rfl⟩
  · split
    · exact ends_say_bind.2 (Act.ends_log.2 ⟨rfl, rfl⟩)
    · exact Act.ends_pure.2 ⟨rfl, rfl⟩

end Recognition

end FrameBatch
