import FrameBatch.Engine.Rehearsal
import FrameBatch.Proofs.Decoder.Prepared
import FrameBatch.Proofs.Descriptor.Parts
import FrameBatch.Proofs.Engine.Retentive

namespace FrameBatch

theorem NumberType.zero_ne_one (type : NumberType) : type.zero ≠ type.one := by
  rcases type with type | _ | _ | _ | _
  · cases type <;> decide +kernel
  all_goals decide +kernel

theorem volume_pos {dims : List Nat} (positive : ∀ n ∈ dims, 0 < n) : 0 < volume dims := by
  induction dims with
  | nil => exact Nat.one_pos
  | cons n rest ih =>
    rw [List.forall_mem_cons] at positive
    exact Nat.mul_pos positive.1 (ih positive.2)

theorem Tensor.get_fill (type : NumberType) {shape : List Nat} (v : Scalar) {k : Nat}
    (inside : k < volume shape) : (fill type shape v).get k = v := by
  simp [fill, get, Array.getD, inside]

theorem Tensor.get_zeros (type : NumberType) (shape : List Nat) (k : Nat) :
    (zeros type shape).get k = type.zero := by
  by_cases inside : k < volume shape <;> simp [zeros, fill, get, Array.getD, inside]

namespace Decoder

open Backend (contents)

/-- A sequence input with marks throughout: zero at the first element, and one at all others. -/
def sequenceMarks (type : NumberType) (shape : List Nat) : Tensor :=
  .ofFn type shape fun k => if k = 0 then type.zero else type.one

variable {type : NumberType} {shape rest : List Nat} {length : Nat} {t started : Tensor}

theorem get_sequenceMarks {k : Nat} (inside : k < volume shape) :
    (sequenceMarks type shape).get k = if k = 0 then type.zero else type.one :=
  Tensor.get_ofFn _ _ _ inside

theorem sequenceStart_sequenceMarks (filled : 0 < volume (length :: rest)) :
    sequenceStart (sequenceMarks type (length :: rest)) =
      .ok (sequenceMarks type (length :: rest)) := by
  obtain ⟨started, starts⟩ :=
    sequenceStart_of_filled (t := sequenceMarks type (length :: rest)) rfl filled
  obtain ⟨kept, kept', get⟩ := sequenceStart_cases starts
  have same : started.SameFrom 0 (sequenceMarks type (length :: rest)) := by
    refine .of_inside kept kept' fun k inside _ => ?_
    rw [Tensor.size_eq_volume, kept', ← Tensor.size_eq_volume] at inside
    rw [get k inside, get_sequenceMarks (by rwa [Tensor.size_eq_volume] at inside)]
    split
    · rfl
    · exact ite_self _
  rw [starts, same.eq]

theorem started_eq_marks_iff (starts : sequenceStart t = .ok started)
    (dims : t.shape = length :: rest) (filled : 0 < volume (length :: rest)) :
    started = sequenceMarks t.type t.shape ↔
      ∀ k, length ≤ k → k < t.size → t.get k = t.type.one := by
  have kept := sameFrom_sequenceStart starts
  have long := sequenceStart_length starts
  rw [dims, List.headD_cons] at kept long
  constructor
  · rintro rfl k past inside
    rw [Tensor.size_eq_volume] at inside
    rw [← kept.get k past, get_sequenceMarks inside, if_neg (by omega)]
  · intro marked
    have same : t.SameFrom (t.shape.headD 0) (sequenceMarks t.type t.shape) := by
      refine .of_inside rfl rfl fun k inside past => ?_
      rw [dims, List.headD_cons] at past
      rw [marked k past inside]
      rw [Tensor.size_eq_volume] at inside
      rw [get_sequenceMarks inside, if_neg (by omega)]
    have marks : sequenceStart (sequenceMarks t.type (length :: rest)) =
        .ok (sequenceMarks t.type (length :: rest)) := sequenceStart_sequenceMarks filled
    rw [← dims] at marks
    exact sequenceStart_eq same starts marks

variable {ε : Type} [Backend ε] [Backend.Compliant ε] [Backend.Retentive ε] {d : Descriptor} {e : ε}

theorem prepare_of_starts (family : d.family = .plate) (loaded : Backend.isLoaded e = true)
    (held : contents d.sequence e = .ok t) (starts : sequenceStart t = .ok started) :
    ∃ e', (plate.prepare d).Ends e (.ok ()) e' ∧ contents d.sequence e' = .ok started := by
  have reads := (Backend.tensor d.sequence).ends_self e
  have unmoved := Backend.Compliant.eq_of_read reads
  rw [contents] at held
  rw [held, unmoved] at reads
  have writes := (Backend.setTensor d.sequence started).ends_self e
  rw [Backend.Compliant.write_ok loaded writes] at writes
  exact ⟨_, (ends_prepare_of_reads family reads starts).2 writes,
    Backend.Retentive.held_of_write loaded writes⟩

structure StartedAs (length : Nat) (t t' : Tensor) : Prop where
  type : t'.type = t.type
  shape : t'.shape = t.shape
  get : ∀ k < t.size, t'.get k =
    if k = 0 then t.type.zero else if k < length then t.type.one else t.get k
  marks : t' = sequenceMarks t.type t.shape ↔ ∀ k, length ≤ k → k < t.size → t.get k = t.type.one

theorem prepare_of_shape (family : d.family = .plate) (loaded : Backend.isLoaded e = true)
    (held : contents d.sequence e = .ok t) (dims : t.shape = length :: rest)
    (filled : 0 < volume (length :: rest)) :
    ∃ e' t', (plate.prepare d).Ends e (.ok ()) e' ∧ contents d.sequence e' = .ok t' ∧
      StartedAs length t t' := by
  obtain ⟨started, starts⟩ := sequenceStart_of_filled dims filled
  obtain ⟨e', prepares, held'⟩ := prepare_of_starts family loaded held starts
  obtain ⟨type, shape, get⟩ := sequenceStart_cases starts
  rw [dims, List.headD_cons] at get
  exact ⟨e', started, prepares, held', type, shape, get, started_eq_marks_iff starts dims filled⟩

theorem prepared_of_writes_iff [Backend.Lawful ε] (family : d.family = .plate)
    (loaded : Backend.isLoaded e = true) (held : contents d.sequence e = .ok t)
    (dims : t.shape = length :: rest) (filled : 0 < volume (length :: rest)) :
    (∀ u e₁ e₂, u.type = t.type → u.shape = t.shape →
        (Backend.setTensor d.sequence u).Ends e (.ok ()) e₁ →
        (plate.prepare d).Ends e₁ (.ok ()) e₂ →
        contents d.sequence e₂ = .ok (sequenceMarks t.type t.shape)) ↔
      volume rest = 1 := by
  constructor
  · intro defined
    by_contra several
    -- zeros that stood there before stay after the length of the first axis
    obtain ⟨u, type, shape, zero⟩ : ∃ u : Tensor, u.type = t.type ∧ u.shape = t.shape ∧
        ∀ k, u.get k = t.type.zero :=
      ⟨.zeros t.type t.shape, rfl, rfl, Tensor.get_zeros _ _⟩
    have writes := (Backend.setTensor d.sequence u).ends_self e
    rw [Backend.Compliant.write_ok loaded writes] at writes
    obtain ⟨loaded₁, held₁⟩ := Backend.replaced_of_write loaded held shape writes
    obtain ⟨e₂, u', prepares, held₂, as⟩ :=
      prepare_of_shape family loaded₁ held₁ (shape.trans dims) filled
    have marked := held₂.symm.trans (defined u _ _ type shape writes prepares)
    rw [← type, ← shape] at marked
    have inside : length < u.size := by
      rw [volume] at filled
      have long := Nat.pos_of_mul_pos_right filled
      have wide := Nat.pos_of_mul_pos_left filled
      rw [Tensor.size_eq_volume, shape, dims, volume]
      exact (Nat.lt_mul_iff_one_lt_right long).2 (by omega)
    have one := as.marks.1 (Except.ok.inj marked) length (Nat.le_refl _) inside
    rw [zero, type] at one
    exact t.type.zero_ne_one one
  · intro single u e₁ e₂ type shape writes prepares
    obtain ⟨loaded₁, held₁⟩ := Backend.replaced_of_write loaded held shape writes
    obtain ⟨e₂', u', prepares', held₂, as⟩ :=
      prepare_of_shape family loaded₁ held₁ (shape.trans dims) filled
    cases prepares.state.symm.trans prepares'.state
    rw [held₂, ← type, ← shape]
    refine congrArg _ (as.marks.2 fun k past inside => ?_)
    rw [Tensor.size_eq_volume, shape, dims, volume, single] at inside
    omega

variable {d₀ : Descriptor} {network network' : Network} {info : TensorInfo}

theorem length_of_accepted (plates : d₀.family = .plate)
    (accepts : Descriptor.accept.Ends (d₀, network) (.ok ()) (d, network'))
    (member : info ∈ network.inputs) (other : info.rank ≠ 4)
    (dims : info.shape = shape.map fun (n : Nat) => some (n : Int)) :
    ∃ rest, shape = 88 :: rest := by
  have room := (Descriptor.accept_iff.1 accepts).1.room plates member other
  obtain ⟨others, room⟩ := Descriptor.holdsSequence_iff.1 room
  rw [room] at dims
  cases shape with
  | nil => cases dims
  | cons length rest =>
    obtain ⟨first, _⟩ := List.cons.inj dims
    have long : length = 88 := by exact_mod_cast (Option.some.inj first).symm
    exact ⟨rest, by rw [long]⟩

/-- Preparing a request for an accepted network puts zero at the first element of the sequence
input, ones up to the 88th in the row-major order, and leaves all elements after that. So ones stand
at all elements but the first if they stood after the 88th before, and they do so whatever was
written to the input exactly if its other axes have one element. -/
theorem sequence_defined_iff [Backend.Lawful ε] (plates : d₀.family = .plate)
    (accepts : Descriptor.accept.Ends (d₀, network) (.ok ()) (d, network'))
    (member : info ∈ network.inputs) (other : info.rank ≠ 4)
    (dims : info.shape = t.shape.map fun (n : Nat) => some (n : Int))
    (positive : ∀ n ∈ t.shape, 0 < n) (loaded : Backend.isLoaded e = true)
    (held : contents d.sequence e = .ok t) :
    (∃ e' t', (plate.prepare d).Ends e (.ok ()) e' ∧ contents d.sequence e' = .ok t' ∧
      t'.type = t.type ∧ t'.shape = t.shape ∧
      (∀ k < t.size, t'.get k =
        if k = 0 then t.type.zero else if k < 88 then t.type.one else t.get k) ∧
      (t' = sequenceMarks t.type t.shape ↔
        ∀ k, 88 ≤ k → k < t.size → t.get k = t.type.one)) ∧
    ((∀ u e₁ e₂, u.type = t.type → u.shape = t.shape →
        (Backend.setTensor d.sequence u).Ends e (.ok ()) e₁ →
        (plate.prepare d).Ends e₁ (.ok ()) e₂ →
        contents d.sequence e₂ = .ok (sequenceMarks t.type t.shape)) ↔
      volume t.shape.tail = 1) := by
  have family : d.family = .plate := (Descriptor.accept_cases accepts).1.family.trans plates
  obtain ⟨rest, shape⟩ := length_of_accepted plates accepts member other dims
  have filled := volume_pos positive
  rw [shape] at filled
  constructor
  · obtain ⟨e', t', prepares, held', as⟩ := prepare_of_shape family loaded held shape filled
    exact ⟨e', t', prepares, held', as.type, as.shape, as.get, as.marks⟩
  · have tail : t.shape.tail = rest := by rw [shape, List.tail_cons]
    rw [tail]
    exact prepared_of_writes_iff family loaded held shape filled

def sevens (shape : List Nat) : Rehearsal :=
  { request := some
      { inputs := [("seq", .fill (.element .f32) shape (.real (.ofInt 7)))], outputs := [] } }

theorem defined_in_one_column :
    let d := (Descriptor.accept (Descriptor.sharedPlates, Descriptor.plateNetwork "prob")).state.1
    ∃ e', (plate.prepare d).Ends (sevens [88, 1]) (.ok ()) e' ∧
      contents d.sequence e' = .ok (sequenceMarks (.element .f32) [88, 1]) := by
  intro d
  have accepted : Descriptor.accept.Ends (Descriptor.sharedPlates, Descriptor.plateNetwork "prob")
      (.ok ()) (d, Descriptor.patchPlate (Descriptor.plateNetwork "prob")) := ⟨rfl, rfl⟩
  have held : contents d.sequence (sevens [88, 1])
      = .ok (.fill (.element .f32) [88, 1] (.real (.ofInt 7))) := rfl
  obtain ⟨⟨e', t', prepares, held', _, _, _, marks⟩, _⟩ :=
    sequence_defined_iff rfl accepted (List.mem_cons_of_mem _ (List.mem_singleton_self _))
      (by decide) rfl (by decide) rfl held
  have marked := marks.2 fun k past inside => by
    rw [Tensor.size_eq_volume] at inside
    exact absurd inside (Nat.not_lt.2 past)
  exact ⟨e', prepares, by rw [held', marked]; rfl⟩

def twoColumns : Network :=
  { Descriptor.plateNetwork "prob" with
    inputs := [⟨"data", [none, some 3, some 24, some 94], .known .f32, none⟩,
      ⟨"seq", [some 88, some 2], .known .f32, none⟩] }

/-- With two elements for each place, the sevens of the later half stay, so that what stands in the
input depends on what stood there before. -/
theorem unmarked_in_two_columns :
    let d := (Descriptor.accept (Descriptor.sharedPlates, twoColumns)).state.1
    (Descriptor.accept (Descriptor.sharedPlates, twoColumns)).result = .ok () ∧
      ∃ e' t', (plate.prepare d).Ends (sevens [88, 2]) (.ok ()) e' ∧
        contents d.sequence e' = .ok t' ∧ t'.get 88 = .real (.ofInt 7) ∧
        t' ≠ sequenceMarks (.element .f32) [88, 2] := by
  intro d
  have held : contents d.sequence (sevens [88, 2])
      = .ok (.fill (.element .f32) [88, 2] (.real (.ofInt 7))) := rfl
  obtain ⟨e', t', prepares, held', as⟩ :=
    prepare_of_shape rfl rfl held rfl (by decide : 0 < volume [88, 2])
  have inside : 88 < volume [88, 2] := by decide
  have kept : (Tensor.fill (.element .f32) [88, 2] (.real (.ofInt 7))).get 88
      = .real (.ofInt 7) := Tensor.get_fill _ _ inside
  have size : (Tensor.fill (.element .f32) [88, 2] (.real (.ofInt 7))).size = volume [88, 2] :=
    Tensor.size_eq_volume _
  have seven : t'.get 88 = .real (.ofInt 7) := by
    rw [as.get 88 (size ▸ inside), if_neg (by decide), if_neg (by decide), kept]
  refine ⟨rfl, e', t', prepares, held', seven, fun marked => ?_⟩
  have one : Scalar.real (.ofInt 7) = NumberType.one (.element .f32) :=
    kept.symm.trans (as.marks.1 marked 88 (Nat.le_refl 88) (size ▸ inside))
  revert one
  decide +kernel

end Decoder

end FrameBatch
