import FrameBatch.Decoder.Basic
import FrameBatch.Proofs.Engine.Inputs
import FrameBatch.Proofs.Plate.Reading

namespace FrameBatch.Decoder

def Builtin (decoder : Decoder) : Prop := decoder = .location ∨ decoder = .plate

theorem location_makeResult (decoder : Decoder) (location : Rect) :
    (decoder.makeResult location).location = location := by
  cases decoder <;> rfl

theorem shape_sequenceStart {t t' : Tensor} (h : sequenceStart t = .ok t') :
    t'.shape = t.shape := by
  unfold sequenceStart at h
  split at h
  · cases h
  · split at h <;> cases h
    rfl

theorem type_sequenceStart {t t' : Tensor} (h : sequenceStart t = .ok t') : t'.type = t.type := by
  unfold sequenceStart at h
  split at h
  · cases h
  · split at h <;> cases h
    rfl

variable {ε : Type}

theorem ends_plateField {σ α : Type} {d : Descriptor} {field : String} {x : Act σ α} {s s' : σ}
    {r : Except Fault α} (h : (plateField d field x).Ends s r s') :
    d.family = .plate ∧ x.Ends s r s' ∨
      d.family ≠ .plate ∧ s' = s ∧ ∃ text, r = .error (.failed .field text) := by
  unfold plateField at h
  split at h
  · rename_i plate
    exact .inl ⟨plate, h⟩
  · rename_i other
    obtain ⟨rfl, rfl⟩ := Act.ends_fail.1 h
    exact .inr ⟨other, rfl, _, rfl⟩

variable [Backend ε]

/-- How preparing a request ends: only the sequence input of a plate network is written. -/
inductive PrepareEnds (decoder : Decoder) (d : Descriptor) (e : ε) : Except Fault Unit → ε → Prop
  | needless (other : decoder ≠ .plate) : PrepareEnds decoder d e (.ok ()) e
  | refused {f : Fault} : PrepareEnds decoder d e (.error f) e
  | unstarted {f : Fault} {r : Except Fault Tensor} {e' : ε}
    (reads : (Backend.tensor d.sequence).Ends e r e') : PrepareEnds decoder d e (.error f) e'
  | written {t t' : Tensor} {e₁ e₂ : ε} {r : Except Fault Unit} (plate : decoder = .plate)
    (family : d.family = .plate) (reads : (Backend.tensor d.sequence).Ends e (.ok t) e₁)
    (starts : sequenceStart t = .ok t') (ends : (Backend.setTensor d.sequence t').Ends e₁ r e₂) :
    PrepareEnds decoder d e r e₂

theorem prepare_cases {decoder : Decoder} {d : Descriptor} {e e' : ε} {r : Except Fault Unit}
    (h : (decoder.prepare d).Ends e r e') : PrepareEnds decoder d e r e' := by
  cases decoder with
  | location =>
    obtain ⟨rfl, rfl⟩ := Act.ends_pure.1 h
    exact .needless (by simp)
  | trial trial =>
    cases trial with
    | failPrepare =>
      obtain ⟨rfl, rfl⟩ := Act.ends_fail.1 h
      exact .refused
    | _ =>
      obtain ⟨rfl, rfl⟩ := Act.ends_pure.1 h
      exact .needless (by simp)
  | plate =>
    rcases ends_plateField h with ⟨family, h⟩ | ⟨_, rfl, _, rfl⟩
    · rcases Act.ends_bind.1 h with ⟨t, e₁, reads, h⟩ | ⟨f, rfl, reads⟩
      · rcases Act.ends_bind.1 h with ⟨started, e₂, starts, writes⟩ | ⟨f, rfl, starts⟩
        · obtain ⟨same, rfl⟩ := Act.ends_lift.1 starts
          exact .written rfl family reads same.symm writes
        · obtain ⟨_, rfl⟩ := Act.ends_lift.1 starts
          exact .unstarted reads
      · exact .unstarted reads
    · exact .refused

theorem uses_prepare {decoder : Decoder} {d : Descriptor} {e e' : ε} {r : Except Fault Unit}
    (h : (decoder.prepare d).Ends e r e') : Backend.Uses e e' := by
  cases prepare_cases h with
  | needless _ => exact .refl
  | refused => exact .refl
  | unstarted reads => exact .single (.reads reads)
  | written _ _ reads starts ends =>
    exact .single (.writes reads ends (shape_sequenceStart starts))

def sequenceInputs (d : Descriptor) : List String :=
  if d.family = .plate then d.sequence.toList else []

theorem steps_prepare {decoder : Decoder} {d : Descriptor} {e e' : ε} {r : Except Fault Unit}
    (bound : d.family = .plate → ∃ name, d.sequence = some name)
    (h : (decoder.prepare d).Ends e r e') : Backend.Steps (sequenceInputs d) e e' := by
  cases prepare_cases h with
  | needless _ => exact .refl
  | refused => exact .refl
  | unstarted reads => exact .single (.serves (.watches (.reads reads)))
  | written _ family reads starts ends =>
    obtain ⟨name, bound⟩ := bound family
    rw [bound] at reads ends
    refine .single (.writes ?_ reads (type_sequenceStart starts) (shape_sequenceStart starts) ends)
    simp [sequenceInputs, family, bound]

inductive PlateEnds (d : Descriptor) (e : ε) (rs : List Result) :
    Except Fault (List Result) → ε → List Result → Prop
  | unread {f : Fault} {e' : ε} (reads : (Backend.tensor d.output).Ends e (.error f) e') :
    PlateEnds d e rs (.error f) e' rs
  | foreign {t : Tensor} {e' : ε} {text : String}
    (reads : (Backend.tensor d.output).Ends e (.ok t) e') (family : d.family ≠ .plate) :
    PlateEnds d e rs (.error (.failed .field text)) e' rs
  | read {t : Tensor} {e' : ε} {r : Except Fault Unit} {rs' : List Result}
    (reads : (Backend.tensor d.output).Ends e (.ok t) e') (family : d.family = .plate)
    (ends : (Plate.readAll (TensorName.text d.output) t Plate.maxSequence).Ends rs r rs') :
    PlateEnds d e rs (r.map fun _ => rs') e' rs'

theorem plate_cases {d : Descriptor} {e e' : ε} {rs rs' : List Result}
    {r : Except Fault (List Result)} (h : (decode .plate d).Ends (e, rs) r (e', rs')) :
    PlateEnds d e rs r e' rs' := by
  rcases Act.ends_bind.1 h with ⟨t, middle, asked, h⟩ | ⟨f, rfl, asked⟩
  · obtain ⟨e₁, reads, rfl⟩ := Act.ends_on.1 asked
    rcases ends_plateField h with ⟨family, h⟩ | ⟨family, same, text, rfl⟩
    · rcases Act.ends_bind.1 h with ⟨_, middle, read, h⟩ | ⟨f, rfl, read⟩
      · obtain ⟨rs₁, ends, rfl⟩ := Act.ends_on.1 read
        rw [Act.ends_get_bind] at h
        obtain ⟨rfl, same⟩ := Act.ends_pure.1 h
        cases same
        exact .read reads family ends
      · obtain ⟨rs₁, ends, same⟩ := Act.ends_on.1 read
        cases same
        exact .read reads family ends
    · cases same
      exact .foreign reads family
  · obtain ⟨e₁, reads, same⟩ := Act.ends_on.1 asked
    cases same
    exact .unread reads

theorem Builtin.decode_keeps {decoder : Decoder} (builtin : decoder.Builtin) {d : Descriptor}
    {e e' : ε} {rs rs' : List Result} {r : Except Fault (List Result)}
    (h : (decoder.decode d).Ends (e, rs) r (e', rs')) :
    Backend.Watches e e' ∧ rs'.map (·.location) = rs.map (·.location) ∧
      ∀ results, r = .ok results → results.map (·.location) = rs.map (·.location) := by
  rcases builtin with rfl | rfl
  · rw [decode, Act.ends_get_bind] at h
    obtain ⟨rfl, same⟩ := Act.ends_pure.1 h
    cases same
    refine ⟨.refl, rfl, ?_⟩
    rintro results same
    cases same
    rfl
  · cases plate_cases h with
    | unread reads => exact ⟨.single (.reads reads), rfl, by simp⟩
    | foreign reads _ => exact ⟨.single (.reads reads), rfl, by simp⟩
    | read reads _ ends =>
      obtain ⟨reason, places⟩ := Plate.readAll_cases ends
      refine ⟨.single (.reads reads), places, ?_⟩
      intro results same
      cases reason with
      | short _ _ => cases same
      | illegible _ _ _ _ => cases same
      | read _ _ =>
        cases same
        exact places

theorem Builtin.decode_congr {decoder : Decoder} (builtin : decoder.Builtin) {d : Descriptor}
    {e e' f f' : ε} {rs rs₁ rs₂ results results' : List Result}
    (same : Backend.contents d.output e = Backend.contents d.output f)
    (h : (decoder.decode d).Ends (e, rs) (.ok results) (e', rs₁))
    (h' : (decoder.decode d).Ends (f, rs) (.ok results') (f', rs₂)) : results = results' := by
  rcases builtin with rfl | rfl
  · rw [decode, Act.ends_get_bind] at h h'
    cases (Act.ends_pure.1 h).1
    cases (Act.ends_pure.1 h').1
    rfl
  · have reading {e e' : ε} {results rs' : List Result}
        (h : (decode .plate d).Ends (e, rs) (.ok results) (e', rs')) :
        ∃ t, Backend.contents d.output e = .ok t ∧ results =
          (Plate.readAll (TensorName.text d.output) t Plate.maxSequence rs).state := by
      generalize answer : (Except.ok results : Except Fault (List Result)) = r at h
      cases plate_cases h with
      | unread _ => cases answer
      | foreign _ _ => cases answer
      | @read t _ r _ reads _ ends =>
        refine ⟨t, reads.result, ?_⟩
        cases r with
        | error f => cases answer
        | ok _ =>
          cases answer
          exact ends.state.symm
    obtain ⟨t, held, rfl⟩ := reading h
    obtain ⟨t', held', rfl⟩ := reading h'
    cases held.symm.trans (same.trans held')
    rfl

end FrameBatch.Decoder
