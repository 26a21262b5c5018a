import FrameBatch.Proofs.Decoder.Builtin
import FrameBatch.Proofs.Tensor.Stamp

namespace FrameBatch.Decoder

open Backend (Inert Serve Steps contents)

theorem sequenceStart_cases {t started : Tensor} (h : sequenceStart t = .ok started) :
    started.type = t.type ∧ started.shape = t.shape ∧ ∀ k < t.size, started.get k =
      if k = 0 then t.type.zero else if k < t.shape.headD 0 then t.type.one else t.get k := by
  unfold sequenceStart at h
  split at h
  · cases h
  · rename_i length rest shape
    split at h
    · cases h
    · cases h
      refine ⟨rfl, rfl, fun k inside => ?_⟩
      rw [Tensor.get_mapPlaces _ _ _ inside, shape, List.headD_cons]

theorem sequenceStart_of_filled {t : Tensor} {length : Nat} {rest : List Nat}
    (shape : t.shape = length :: rest) (filled : 0 < volume (length :: rest)) :
    ∃ started, sequenceStart t = .ok started := by
  have size : t.size ≠ 0 := by
    rw [t.size_eq_volume, shape]
    omega
  cases starts : sequenceStart t with
  | ok started => exact ⟨started, rfl⟩
  | error f =>
    rw [sequenceStart, shape] at starts
    simp only [if_neg size] at starts
    cases starts

theorem sequenceStart_length {t started : Tensor} (h : sequenceStart t = .ok started) :
    0 < t.shape.headD 0 := by
  unfold sequenceStart at h
  split at h
  · cases h
  · rename_i length rest shape
    split at h
    · cases h
    · rename_i filled
      rw [Tensor.size_eq_volume, shape, volume] at filled
      rw [shape, List.headD_cons]
      exact Nat.pos_of_ne_zero fun none => filled (by rw [none, Nat.zero_mul])

theorem sameFrom_sequenceStart {t started : Tensor} (h : sequenceStart t = .ok started) :
    started.SameFrom (t.shape.headD 0) t := by
  obtain ⟨type, shape, get⟩ := sequenceStart_cases h
  have length := sequenceStart_length h
  refine .of_inside type shape fun k inside past => ?_
  rw [Tensor.size_eq_volume, shape, ← Tensor.size_eq_volume] at inside
  rw [get k inside, if_neg (by omega), if_neg (by omega)]

theorem sequenceStart_eq {t t' started started' : Tensor}
    (same : t.SameFrom (t.shape.headD 0) t') (h : sequenceStart t = .ok started)
    (h' : sequenceStart t' = .ok started') : started = started' := by
  obtain ⟨type, shape, get⟩ := sequenceStart_cases h
  obtain ⟨type', shape', get'⟩ := sequenceStart_cases h'
  refine Tensor.SameFrom.eq (.of_inside (by rw [type, type', same.type])
    (by rw [shape, shape', same.shape]) fun k inside _ => ?_)
  rw [Tensor.size_eq_volume, shape, ← Tensor.size_eq_volume] at inside
  rw [get k inside, get' k (same.size ▸ inside), ← same.type, ← same.shape]
  split
  · rfl
  · split
    · rfl
    · exact same.get k (by omega)

/-- The number of elements that preparing a request writes in an input. -/
def overwritten (decoder : Decoder) (d : Descriptor) (name : String) (t : Tensor) : Nat :=
  if decoder = .plate ∧ d.sequence = some name then t.shape.headD 0 else 0

/-- An input of two requests holds the same, but for the elements that preparing them writes. -/
def Alike (decoder : Decoder) (d : Descriptor) (name : String) (x y : Except Fault Tensor) :
    Prop :=
  x = y ∨ ∃ t t', x = .ok t ∧ y = .ok t' ∧ t.SameFrom (decoder.overwritten d name t) t'

namespace Alike

variable {decoder : Decoder} {d : Descriptor} {name : String} {x y z : Except Fault Tensor}

theorem symm (alike : Alike decoder d name x y) : Alike decoder d name y x := by
  rcases alike with rfl | ⟨t, t', held, held', same⟩
  · exact .inl rfl
  · refine .inr ⟨t', t, held', held, ?_⟩
    rw [overwritten, ← same.shape]
    exact same.symm

theorem trans (alike : Alike decoder d name x y) (alike' : Alike decoder d name y z) :
    Alike decoder d name x z := by
  rcases alike with rfl | ⟨t, t', held, held', same⟩
  · exact alike'
  · rcases alike' with rfl | ⟨u, u', held₁, held₁', same'⟩
    · exact .inr ⟨t, t', held, held', same⟩
    · cases held'.symm.trans held₁
      refine .inr ⟨t, u', held, held₁', same.trans ?_⟩
      rw [overwritten, ← same.shape] at same'
      exact same'

theorem sameFrom {t t' : Tensor} (alike : Alike decoder d name (.ok t) (.ok t')) :
    t.SameFrom (decoder.overwritten d name t) t' := by
  rcases alike with same | ⟨u, u', held, held', same⟩
  · cases same
    exact .refl _ t
  · cases held
    cases held'
    exact same

theorem eq (alike : Alike decoder d name x y)
    (other : ¬ (decoder = .plate ∧ d.sequence = some name)) : x = y := by
  rcases alike with same | ⟨t, t', held, held', same⟩
  · exact same
  · rw [overwritten, if_neg other] at same
    rw [held, held', same.eq]

end Alike

variable {ε : Type} [Backend ε] {decoder : Decoder} {d : Descriptor} {inputs : List String}
  {e e' : ε}

theorem ends_prepare_of_reads {r : Except Fault Unit} {e₁ : ε} {t started : Tensor}
    (family : d.family = .plate) (reads : (Backend.tensor d.sequence).Ends e (.ok t) e₁)
    (starts : sequenceStart t = .ok started) :
    (plate.prepare d).Ends e r e' ↔ (Backend.setTensor d.sequence started).Ends e₁ r e' := by
  rw [prepare, plateField, if_pos family, Act.ends_bind_of_ok reads, starts,
    Act.ends_bind_of_ok (Act.ends_lift.2 ⟨rfl, rfl⟩)]

/-- Preparing a request changes no more than what the next preparation writes again. -/
theorem alike_prepare {r : Except Fault Unit} (inert : Inert inputs e)
    (bound : d.family = .plate → ∃ name ∈ inputs, d.sequence = some name)
    (h : (decoder.prepare d).Ends e r e') :
    Steps inputs e e' ∧ ∀ name ∈ inputs,
      Alike decoder d name (contents (some name) e') (contents (some name) e) := by
  have served (serve : Serve e e') : Steps inputs e e' ∧ ∀ name ∈ inputs,
      Alike decoder d name (contents (some name) e') (contents (some name) e) :=
    ⟨.single (.serves serve), fun name member => .inl (inert.kept_of_serve serve member)⟩
  cases prepare_cases h with
  | needless _ => exact ⟨.refl, fun _ _ => .inl rfl⟩
  | refused => exact ⟨.refl, fun _ _ => .inl rfl⟩
  | unstarted reads => exact served (.watches (.reads reads))
  | written plate family reads starts ends =>
    obtain ⟨sequence, member, bound⟩ := bound family
    rw [bound] at reads ends
    have type := type_sequenceStart starts
    have shape := shape_sequenceStart starts
    refine ⟨.single (.writes member reads type shape ends), fun name member' => ?_⟩
    -- only a write that succeeds changes anything, and only the sequence input
    by_cases here : name = sequence ∧ r = .ok ()
    · obtain ⟨rfl, rfl⟩ := here
      refine .inr ⟨_, _, inert.written_of_reads member reads type shape ends, reads.1, ?_⟩
      rw [overwritten, if_pos ⟨plate, bound⟩, shape]
      exact sameFrom_sequenceStart starts
    · refine .inl (inert.untouched .refl member reads type shape ends member' ?_)
      exact Decidable.not_and_iff_not_or_not.1 here

theorem alike_execute {run : Act ε Unit} {r : Except Fault Unit} (inert : Inert inputs e)
    (bound : d.family = .plate → ∃ name ∈ inputs, d.sequence = some name)
    (serve : ∀ {e r e'}, run.Ends e r e' → Serve e e')
    (h : (decoder.prepare d >>= fun _ => run).Ends e r e') :
    Steps inputs e e' ∧ ∀ name ∈ inputs,
      Alike decoder d name (contents (some name) e') (contents (some name) e) := by
  rcases Act.ends_bind.1 h with ⟨_, prepared, prepares, runs⟩ | ⟨_, _, prepares⟩
  · obtain ⟨steps, alike⟩ := alike_prepare inert bound prepares
    refine ⟨steps.tail (.serves (serve runs)), fun name member => ?_⟩
    rw [(inert.steps steps).kept_of_serve (serve runs) member]
    exact alike name member
  · exact alike_prepare inert bound prepares

theorem eq_of_prepare {f f' : ε} (inert : Inert inputs e) (inert' : Inert inputs f)
    (bound : d.family = .plate → ∃ name ∈ inputs, d.sequence = some name)
    (alike : ∀ name ∈ inputs,
      Alike decoder d name (contents (some name) e) (contents (some name) f))
    (h : (decoder.prepare d).Ends e (.ok ()) e') (h' : (decoder.prepare d).Ends f (.ok ()) f') :
    ∀ name ∈ inputs, contents (some name) e' = contents (some name) f' := by
  intro name member
  cases prepare_cases h with
  | needless other =>
    cases prepare_cases h' with
    | needless _ => exact (alike name member).eq fun pair => other pair.1
    | written plate _ _ _ _ => exact absurd plate other
  | written plate family reads starts ends =>
    cases prepare_cases h' with
    | needless other => exact absurd plate other
    | written _ _ reads' starts' ends' =>
      obtain ⟨sequence, input, bound⟩ := bound family
      rw [bound] at reads ends reads' ends'
      have type := type_sequenceStart starts
      have shape := shape_sequenceStart starts
      have type' := type_sequenceStart starts'
      have shape' := shape_sequenceStart starts'
      -- the elements in which the two sequence inputs differ are those that are written
      by_cases here : name = sequence
      · subst here
        have same := alike name member
        rw [contents, contents, reads.result, reads'.result] at same
        have same := same.sameFrom
        rw [overwritten, if_pos ⟨plate, bound⟩] at same
        rw [inert.written_of_reads input reads type shape ends,
          inert'.written_of_reads input reads' type' shape' ends',
          sequenceStart_eq same starts starts']
      · rw [inert.untouched .refl input reads type shape ends member (.inl here),
          inert'.untouched .refl input reads' type' shape' ends' member (.inl here)]
        refine (alike name member).eq fun ⟨_, bound'⟩ => here ?_
        exact Option.some.inj (bound'.symm.trans bound)

end FrameBatch.Decoder
