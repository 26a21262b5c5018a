import FrameBatch.Engine.Rehearsal
import FrameBatch.Proofs.Decoder.Builtin
import FrameBatch.Proofs.Descriptor.Binding

namespace FrameBatch

/-- The same whole numbers, fractions cut off, at the places from `start` up to `stop`. -/
def Tensor.AgreeOn (t u : Tensor) (start stop : Nat) : Prop :=
  ∀ k, start ≤ k → k < stop → (t.get k).truncate? = (u.get k).truncate?

theorem Tensor.AgreeOn.mono {t u : Tensor} {start stop start' stop' : Nat}
    (agree : t.AgreeOn u start stop) (later : start ≤ start') (earlier : stop' ≤ stop) :
    t.AgreeOn u start' stop' :=
  fun k low high => agree k (Nat.le_trans later low) (Nat.lt_of_lt_of_le high earlier)

/-- A tensor without infinities and data that are no numbers. -/
def Tensor.AllFinite (t : Tensor) : Prop := ∀ v ∈ t.data, v.truncate?.isSome

namespace Plate

theorem index_eq_ok_iff {v : Scalar} {z : Int} : index v = .ok z ↔ v.truncate? = some z := by
  cases v with
  | whole z' => simp [index, Scalar.truncate?]
  | real x =>
    simp only [index, Value.toInt, Scalar.truncate?]
    cases x.truncate? with
    | some z' => simp
    | none => cases x.isNaN <;> simp

theorem readStretch_congr {vs vs' : List Scalar}
    (same : vs.map Scalar.truncate? = vs'.map Scalar.truncate?) {a b : List Nat × Option Int}
    (read : readStretch vs = .ok a) (read' : readStretch vs' = .ok b) : a = b := by
  induction vs generalizing vs' a b with
  | nil =>
    cases vs' with
    | nil => exact Except.ok.inj (read.symm.trans read')
    | cons v' rest' => cases same
  | cons v rest ih =>
    cases vs' with
    | nil => cases same
    | cons v' rest' =>
      obtain ⟨here, later⟩ := List.cons.inj same
      obtain ⟨i, index_eq, read⟩ := bind_ok read
      obtain ⟨i', index_eq', read'⟩ := bind_ok read'
      rw [index_eq_ok_iff] at index_eq index_eq'
      cases index_eq.symm.trans (here.trans index_eq')
      split at read
      · rename_i last
        rw [if_pos last] at read'
        exact Except.ok.inj (read.symm.trans read')
      · rename_i more
        rw [if_neg more] at read'
        split at read
        · rename_i foreign
          rw [if_pos foreign] at read'
          exact Except.ok.inj (read.symm.trans read')
        · rename_i symbol
          rw [if_neg symbol] at read'
          obtain ⟨⟨sequence, stop⟩, read, same⟩ := bind_ok read
          obtain ⟨⟨sequence', stop'⟩, read', same'⟩ := bind_ok read'
          cases ih later read read'
          exact Except.ok.inj (same.symm.trans same')

theorem length_stretch {t : Tensor} {size i : Nat} (room : (i + 1) * size ≤ t.size) :
    (stretch t size i).length = size := by
  have room : i * size + size ≤ t.data.size := by rw [← Nat.succ_mul]; exact room
  simp only [stretch, Array.length_toList, Array.size_extract, Nat.succ_mul]
  omega

theorem getElem?_stretch {t : Tensor} {size i k : Nat} (inside : k < size)
    (room : (i + 1) * size ≤ t.size) : (stretch t size i)[k]? = some (t.get (i * size + k)) := by
  have length : k < (stretch t size i).length := by rwa [length_stretch room]
  have bound : i * size + k < t.data.size := by
    have room : i * size + size ≤ t.data.size := by rw [← Nat.succ_mul]; exact room
    omega
  rw [List.getElem?_eq_getElem length]
  simp [stretch, Tensor.get, Array.getD, bound]

theorem truncate?_stretch {t u : Tensor} {size i : Nat} (room : (i + 1) * size ≤ t.size)
    (room' : (i + 1) * size ≤ u.size) (agree : t.AgreeOn u (i * size) ((i + 1) * size)) :
    (stretch t size i).map Scalar.truncate? = (stretch u size i).map Scalar.truncate? := by
  apply List.ext_getElem?
  intro k
  simp only [List.getElem?_map]
  by_cases inside : k < size
  · have high : i * size + k < (i + 1) * size := by rw [Nat.succ_mul]; omega
    rw [getElem?_stretch inside room, getElem?_stretch inside room', Option.map_some,
      Option.map_some, agree _ (Nat.le_add_right _ _) high]
  · have past : (stretch t size i).length ≤ k := by rw [length_stretch room]; omega
    have past' : (stretch u size i).length ≤ k := by rw [length_stretch room']; omega
    rw [List.getElem?_eq_none past, List.getElem?_eq_none past']

theorem legible_of_allFinite {t : Tensor} (finite : t.AllFinite) (size i : Nat) :
    ¬ Illegible (stretch t size i) := by
  rintro ⟨before, x, after, shape, infinite, _⟩
  have member : Scalar.real x ∈ stretch t size i := by simp [shape]
  simp only [stretch, Array.mem_toList_iff] at member
  obtain ⟨k, _, same⟩ := Array.mem_extract_iff_getElem.1 member
  have known := finite _ (same ▸ Array.getElem_mem _)
  rw [Scalar.truncate?, x.truncate?_isSome, infinite] at known
  cases known

theorem legible_of_finite {t : Tensor} {size plates i : Nat}
    (finite : ∀ k < plates * size, (t.get k).truncate?.isSome) (room : plates * size ≤ t.size)
    (inside : i < plates) : ¬ Illegible (stretch t size i) := by
  rintro ⟨before, x, after, shape, infinite, _⟩
  have within : (i + 1) * size ≤ plates * size := Nat.mul_le_mul_right _ inside
  have below : before.length < size := by
    rw [← length_stretch (Nat.le_trans within room), shape]
    simp
  have found := getElem?_stretch below (Nat.le_trans within room)
  rw [shape, List.getElem?_append_right (Nat.le_refl _), Nat.sub_self] at found
  have known := finite (i * size + before.length) (by rw [Nat.succ_mul] at within; omega)
  rw [← Option.some.inj found, Scalar.truncate?, x.truncate?_isSome, infinite] at known
  cases known

theorem readStretch_zeros {vs : List Scalar} {count : Nat}
    (zeros : ∀ k < count, vs[k]? = some (.real (.ofInt 0)))
    (ends : vs.length = count ∨ vs[count]? = some (.real (.ofInt sequenceEnd))) :
    readStretch vs = .ok (List.replicate count 0, none) := by
  induction count generalizing vs with
  | zero =>
    cases vs with
    | nil => rfl
    | cons v rest =>
      obtain ends | ends := ends
      · cases ends
      · cases Option.some.inj ends
        rfl
  | succ count ih =>
    cases vs with
    | nil => cases zeros 0 (Nat.succ_pos _)
    | cons v rest =>
      cases Option.some.inj (zeros 0 (Nat.succ_pos _))
      have later : readStretch rest = .ok (List.replicate count 0, none) :=
        ih (fun k below => by simpa using zeros (k + 1) (Nat.succ_lt_succ below))
          (by simpa using ends)
      have first : index (.real (.ofInt 0)) = .ok 0 := rfl
      rw [readStretch, first, later]
      rfl

def readingAt (rs : List Result) (i : Nat) : Option Reading := rs[i]?.bind (·.reading)

theorem readOne_ok {output : Tensor} {size i : Nat} {r r' : Result}
    (h : (readOne output size i r ()).result = .ok r') :
    ∃ sequence stop, readStretch (stretch output size i) = .ok (sequence, stop) ∧
      r'.reading = some { license := license sequence, sequence } := by
  rcases Act.ends_bind.1 ⟨h, rfl⟩ with ⟨⟨sequence, stop⟩, _, reads, h⟩ | ⟨f, same, _⟩
  · have read := (Act.ends_lift.1 reads).1.symm
    refine ⟨sequence, stop, read, ?_⟩
    cases stop <;> cases h.result <;> rfl
  · cases same

theorem readFrom_ok {output : Tensor} {size i : Nat} {rs others rs' : List Result}
    (h : (readFrom output size i rs).Ends others (.ok ()) rs') {j : Nat} (inside : j < rs.length) :
    ∃ sequence stop, readStretch (stretch output size (i + j)) = .ok (sequence, stop) ∧
      readingAt rs' j = some { license := license sequence, sequence } := by
  induction rs generalizing i j others rs' with
  | nil => cases inside
  | cons r rest ih =>
    obtain ⟨result, state⟩ := h
    simp only [readFrom] at result state
    cases first : (readOne output size i r ()).result with
    | error e =>
      rw [first] at result
      cases result
    | ok r' =>
      rw [first] at result state
      subst state
      cases j with
      | zero =>
        obtain ⟨sequence, stop, read, reading⟩ := readOne_ok first
        exact ⟨sequence, stop, read, by simp [readingAt, reading]⟩
      | succ j =>
        obtain ⟨sequence, stop, read, reading⟩ := ih ⟨result, rfl⟩ (by simpa using inside)
        rw [Nat.add_right_comm] at read
        exact ⟨sequence, stop, read, by simpa [readingAt] using reading⟩

theorem readAll_ok {name : String} {output : Tensor} {size : Nat} {rs rs' : List Result}
    (h : (readAll name output size).Ends rs (.ok ()) rs') {i : Nat} (inside : i < rs.length) :
    ∃ sequence stop, readStretch (stretch output size i) = .ok (sequence, stop) ∧
      readingAt rs' i = some { license := license sequence, sequence } := by
  rw [readAll, Act.ends_get_bind] at h
  split at h
  · cases (Act.ends_fail_bind.1 h).1
  · have h : (readFrom output size 0 rs).Ends rs (.ok ()) rs' := h
    simpa only [Nat.zero_add] using readFrom_ok h inside

def endedAt (shape : List Nat) (place : Nat) : Tensor :=
  .ofFn (.element .f32) shape fun k => .real (.ofInt (if k = place then sequenceEnd else 0))

theorem get_endedAt {shape : List Nat} {place k : Nat} (inside : k < volume shape) :
    (endedAt shape place).get k = .real (.ofInt (if k = place then sequenceEnd else 0)) :=
  Tensor.get_ofFn _ _ _ inside

theorem get_endedAt_of_ne {shape : List Nat} {place k : Nat} (other : k ≠ place) :
    (endedAt shape (volume shape)).get k = (endedAt shape place).get k := by
  by_cases inside : k < volume shape
  · rw [get_endedAt inside, get_endedAt inside, if_neg (by omega), if_neg other]
  · simp [endedAt, Tensor.ofFn, Tensor.get, Array.getD, inside]

theorem allFinite_endedAt (shape : List Nat) (place : Nat) : (endedAt shape place).AllFinite := by
  intro v member
  obtain ⟨k, _, rfl⟩ := Array.mem_iff_getElem.1 member
  simp only [endedAt, Tensor.ofFn, Array.getElem_ofFn, Scalar.truncate?, Binary.truncate?_isSome]
  rfl

theorem readStretch_endedAt {shape : List Nat} {size place i : Nat}
    (room : (i + 1) * size ≤ volume shape) (from' : i * size ≤ place) :
    readStretch (stretch (endedAt shape place) size i)
      = .ok (List.replicate (min size (place - i * size)) 0, none) := by
  have room' : (i + 1) * size ≤ (endedAt shape place).size := by
    rwa [Tensor.size_eq_volume]
  have get {k : Nat} (inside : k < size) : (stretch (endedAt shape place) size i)[k]?
      = some (.real (.ofInt (if i * size + k = place then sequenceEnd else 0))) := by
    rw [getElem?_stretch inside room', get_endedAt]
    rw [Nat.succ_mul] at room
    omega
  apply readStretch_zeros
  · intro k below
    rw [get (by omega), if_neg (by omega)]
  · by_cases within : place - i * size < size
    · right
      rw [Nat.min_eq_right (Nat.le_of_lt within), get within, if_pos (by omega)]
    · left
      rw [length_stretch room', Nat.min_eq_left (Nat.not_lt.1 within)]

end Plate

namespace Decoder

variable {ε : Type} [Backend ε]

theorem readingAt_of_decode {d : Descriptor} {e : ε} {t : Tensor}
    (held : Backend.contents d.output e = .ok t) {rs results : List Result}
    (h : ((decode .plate d) (e, rs)).result = .ok results) :
    rs.length * Plate.maxSequence ≤ t.size ∧ ∀ i < rs.length, ∃ sequence stop,
      Plate.readStretch (Plate.stretch t Plate.maxSequence i) = .ok (sequence, stop) ∧
        Plate.readingAt results i = some { license := Plate.license sequence, sequence } := by
  have ends := (decode .plate d).ends_self (e, rs)
  rw [h] at ends
  generalize answer : (Except.ok results : Except Fault (List Result)) = r at ends
  generalize ((decode .plate d) (e, rs)).state = s' at ends
  obtain ⟨e', rs'⟩ := s'
  cases plate_cases ends with
  | unread _ => cases answer
  | foreign _ _ => cases answer
  | @read t' _ r _ reads _ ends =>
    cases held.symm.trans reads.result
    cases r with
    | error f => cases answer
    | ok _ =>
      cases answer
      cases (Plate.readAll_cases ends).1 with
      | read holds _ => exact ⟨holds, fun i inside => Plate.readAll_ok ends inside⟩

theorem decode_of_legible {d : Descriptor} (family : d.family = .plate) {e : ε} {t : Tensor}
    (held : Backend.contents d.output e = .ok t) {rs : List Result}
    (room : rs.length * Plate.maxSequence ≤ t.size)
    (legible : ∀ i < rs.length, ¬ Plate.Illegible (Plate.stretch t Plate.maxSequence i)) :
    ∃ results, ((decode .plate d) (e, rs)).result = .ok results := by
  have ends := (decode .plate d).ends_self (e, rs)
  generalize ((decode .plate d) (e, rs)).result = r at ends
  generalize ((decode .plate d) (e, rs)).state = s' at ends
  obtain ⟨e', rs'⟩ := s'
  cases plate_cases ends with
  | unread reads => cases held.symm.trans reads.result
  | foreign _ other => exact absurd family other
  | @read t' _ r _ reads _ ends =>
    cases held.symm.trans reads.result
    cases (Plate.readAll_cases ends).1 with
    | short lacks _ => omega
    | illegible _ _ inside illegible => exact absurd illegible (legible _ inside)
    | read _ _ => exact ⟨_, rfl⟩

theorem decode_returns {d : Descriptor} (family : d.family = .plate) {e : ε} {t : Tensor}
    (held : Backend.contents d.output e = .ok t) {rs : List Result}
    (room : rs.length * Plate.maxSequence ≤ t.size) (finite : t.AllFinite) :
    ∃ results, ((decode .plate d) (e, rs)).result = .ok results :=
  decode_of_legible family held room fun i _ => Plate.legible_of_allFinite finite _ i

/-- The elements that plate `i` is read off lie in row `i` of an output whose rows have these
dimensions. -/
def OwnRow (dims : List Nat) (i : Nat) : Prop := volume dims = 88 ∨ i = 0 ∧ 88 ≤ volume dims

theorem OwnRow.within {dims : List Nat} {i : Nat} (own : OwnRow dims i) :
    i * volume dims ≤ i * 88 ∧ (i + 1) * 88 ≤ (i + 1) * volume dims := by
  rcases own with same | ⟨rfl, long⟩
  · rw [same]
    exact ⟨Nat.le_refl _, Nat.le_refl _⟩
  · simpa using long

theorem outside_of_not_ownRow {dims : List Nat} {i : Nat} (other : ¬ OwnRow dims i) :
    ∃ place, i * 88 ≤ place ∧ place < (i + 1) * 88 ∧
      (place < i * volume dims ∨ (i + 1) * volume dims ≤ place) := by
  simp only [OwnRow, not_or, not_and, Nat.not_le] at other
  obtain ⟨differ, first⟩ := other
  rcases Nat.lt_or_gt_of_ne differ with short | long
  · refine ⟨i * 88 + 87, by omega, by omega, .inr ?_⟩
    have : (i + 1) * volume dims ≤ (i + 1) * 87 := Nat.mul_le_mul_left _ (by omega)
    omega
  · refine ⟨i * 88, by omega, by omega, .inl ?_⟩
    have later : i ≠ 0 := fun zero => absurd (first zero) (by omega)
    have : i * 89 ≤ i * volume dims := Nat.mul_le_mul_left _ (by omega)
    omega

theorem readingAt_congr {d : Descriptor} {e f : ε} {t u : Tensor}
    (held : Backend.contents d.output e = .ok t) (held' : Backend.contents d.output f = .ok u)
    {i : Nat} (agree : t.AgreeOn u (i * 88) ((i + 1) * 88)) {rs results results' : List Result}
    (inside : i < rs.length) (decoded : ((decode .plate d) (e, rs)).result = .ok results)
    (decoded' : ((decode .plate d) (f, rs)).result = .ok results') :
    ∃ reading, Plate.readingAt results i = some reading ∧
      Plate.readingAt results' i = some reading := by
  obtain ⟨room, readings⟩ := readingAt_of_decode held decoded
  obtain ⟨room', readings'⟩ := readingAt_of_decode held' decoded'
  obtain ⟨sequence, stop, read, reading⟩ := readings i inside
  obtain ⟨sequence', stop', read', reading'⟩ := readings' i inside
  have fits : (i + 1) * 88 ≤ rs.length * 88 := Nat.mul_le_mul_right _ inside
  cases Plate.readStretch_congr (Plate.truncate?_stretch (Nat.le_trans fits room)
    (Nat.le_trans fits room') agree) read read'
  exact ⟨_, reading, reading'⟩

theorem readingAt_ne_endedAt {d : Descriptor} (plates : d.family = .plate) {shape : List Nat}
    {rs : List Result} (room : rs.length * 88 ≤ volume shape) {i place : Nat}
    (inside : i < rs.length) (low : i * 88 ≤ place) (high : place < (i + 1) * 88) {e f : ε}
    (held : Backend.contents d.output e = .ok (Plate.endedAt shape (volume shape)))
    (held' : Backend.contents d.output f = .ok (Plate.endedAt shape place)) :
    ∃ results results', ((decode .plate d) (e, rs)).result = .ok results ∧
      ((decode .plate d) (f, rs)).result = .ok results' ∧
      Plate.readingAt results i ≠ Plate.readingAt results' i := by
  have fits : (i + 1) * 88 ≤ volume shape := Nat.le_trans (Nat.mul_le_mul_right _ inside) room
  have whole : i * 88 ≤ volume shape := by omega
  have returns {g : ε} {p : Nat}
      (held : Backend.contents d.output g = .ok (Plate.endedAt shape p)) :
      ∃ results, ((decode .plate d) (g, rs)).result = .ok results := by
    apply decode_returns plates held
    · rwa [Tensor.size_eq_volume]
    · exact Plate.allFinite_endedAt shape p
  obtain ⟨results, decoded⟩ := returns held
  obtain ⟨results', decoded'⟩ := returns held'
  obtain ⟨sequence, _, read, reading⟩ := (readingAt_of_decode held decoded).2 i inside
  obtain ⟨sequence', _, read', reading'⟩ := (readingAt_of_decode held' decoded').2 i inside
  cases read.symm.trans (Plate.readStretch_endedAt fits whole)
  cases read'.symm.trans (Plate.readStretch_endedAt fits low)
  refine ⟨results, results', decoded, decoded', ?_⟩
  rw [reading, reading']
  intro same
  have lengths := congrArg (fun r : Option Reading => r.map (·.sequence.length)) same
  simp only [Option.map_some, List.length_replicate, Option.some.injEq,
    Plate.maxSequence] at lengths
  omega

/-- Plate `i` is read off its 88 elements of the output. So it is read off its own row where they
lie in that row; where they do not, two outputs that agree on the row are read differently. -/
theorem read_off_own_row {d₀ d : Descriptor} {network network' : Network}
    (family : d₀.family = .plate)
    (accepted : Descriptor.accept.Ends (d₀, network) (.ok ()) (d, network'))
    {slots : Nat} {dims : List Nat} {rs : List Result} {i : Nat} (inside : i < rs.length) :
    (∀ (e f : ε) (t u : Tensor), Backend.contents d.output e = .ok t →
      Backend.contents d.output f = .ok u → t.shape = slots :: dims → u.shape = slots :: dims →
      (t.AgreeOn u (i * 88) ((i + 1) * 88) ∨
        OwnRow dims i ∧ t.AgreeOn u (i * volume dims) ((i + 1) * volume dims)) →
      ∀ results results', ((decode .plate d) (e, rs)).result = .ok results →
        ((decode .plate d) (f, rs)).result = .ok results' →
        ∃ reading, Plate.readingAt results i = some reading ∧
          Plate.readingAt results' i = some reading) ∧
    (¬ OwnRow dims i → rs.length * 88 ≤ volume (slots :: dims) →
      ∃ t u : Tensor, t.shape = slots :: dims ∧ u.shape = slots :: dims ∧ t.AllFinite ∧
        u.AllFinite ∧
        (∀ k, i * volume dims ≤ k → k < (i + 1) * volume dims → t.get k = u.get k) ∧
        ∀ e f : ε, Backend.contents d.output e = .ok t → Backend.contents d.output f = .ok u →
          ∃ results results', ((decode .plate d) (e, rs)).result = .ok results ∧
            ((decode .plate d) (f, rs)).result = .ok results' ∧
            Plate.readingAt results i ≠ Plate.readingAt results' i) := by
  have plates : d.family = .plate := (Descriptor.accept_cases accepted).1.family.trans family
  constructor
  · rintro e f t u held held' shape shape' agree results results' decoded decoded'
    have agree : t.AgreeOn u (i * 88) ((i + 1) * 88) := by
      rcases agree with agree | ⟨own, agree⟩
      · exact agree
      · exact agree.mono own.within.1 own.within.2
    exact readingAt_congr held held' agree inside decoded decoded'
  · intro other room
    obtain ⟨place, low, high, outside⟩ := outside_of_not_ownRow other
    refine ⟨Plate.endedAt (slots :: dims) (volume (slots :: dims)),
      Plate.endedAt (slots :: dims) place, rfl, rfl, Plate.allFinite_endedAt _ _,
      Plate.allFinite_endedAt _ _, fun k above below => ?_, fun e f held held' => ?_⟩
    · exact Plate.get_endedAt_of_ne (by omega)
    · exact readingAt_ne_endedAt plates room inside low high held held'

def holding (output : Tensor) : Rehearsal :=
  { request := some { inputs := [], outputs := [("prob", output)] } }

def blankPlates : List Result :=
  List.replicate 2 { location := ⟨.int 0, .int 0, .int 2, .int 2⟩, reading := some {} }

theorem own_row_of_88 :
    let d := (Descriptor.accept (Descriptor.sharedPlates, Descriptor.plateNetwork "prob")).state.1
    ∃ results results',
      ((decode .plate d) (holding (Plate.endedAt [2, 88] 3), blankPlates)).result = .ok results ∧
      ((decode .plate d) (holding (Plate.endedAt [2, 88] 7), blankPlates)).result = .ok results' ∧
      ∃ reading, Plate.readingAt results 1 = some reading ∧
        Plate.readingAt results' 1 = some reading := by
  intro d
  have accepted : Descriptor.accept.Ends (Descriptor.sharedPlates, Descriptor.plateNetwork "prob")
      (.ok ()) (d, Descriptor.patchPlate (Descriptor.plateNetwork "prob")) := ⟨rfl, rfl⟩
  have held (place : Nat) : Backend.contents d.output (holding (Plate.endedAt [2, 88] place))
      = .ok (Plate.endedAt [2, 88] place) := rfl
  have room (place : Nat) : 2 * 88 ≤ (Plate.endedAt [2, 88] place).size := by
    rw [Tensor.size_eq_volume]
    exact Nat.le_refl 176
  have returns (place : Nat) : ∃ results, ((decode .plate d) (holding (Plate.endedAt [2, 88] place),
      blankPlates)).result = .ok results :=
    decode_returns rfl (held place) (room place) (Plate.allFinite_endedAt [2, 88] place)
  obtain ⟨results, decoded⟩ := returns 3
  obtain ⟨results', decoded'⟩ := returns 7
  have agree : (Plate.endedAt [2, 88] 3).AgreeOn (Plate.endedAt [2, 88] 7) (1 * 88) (2 * 88) := by
    intro k low high
    rw [Plate.get_endedAt high, Plate.get_endedAt high, if_neg (by omega), if_neg (by omega)]
  refine ⟨results, results', decoded, decoded', ?_⟩
  exact (read_off_own_row rfl accepted (by decide)).1 _ _ _ _ (held 3) (held 7) rfl rfl
    (.inr ⟨.inl rfl, agree⟩) results results' decoded decoded'

def wideNetwork : Network :=
  { Descriptor.plateNetwork "prob" with
    outputs := [⟨"prob", [none, some 100], .known .f32, none⟩] }

/-- With rows of 100 elements, two outputs that agree on the second row are read differently for
the second plate, since it is read from the end of the first row on. -/
theorem other_row_of_100 :
    let d := (Descriptor.accept (Descriptor.sharedPlates, wideNetwork)).state.1
    let t := Plate.endedAt [2, 100] 200
    let u := Plate.endedAt [2, 100] 88
    (Descriptor.accept (Descriptor.sharedPlates, wideNetwork)).result = .ok () ∧
      t.AllFinite ∧ u.AllFinite ∧ (∀ k, 100 ≤ k → k < 200 → t.get k = u.get k) ∧
      ∃ results results', ((decode .plate d) (holding t, blankPlates)).result = .ok results ∧
        ((decode .plate d) (holding u, blankPlates)).result = .ok results' ∧
        Plate.readingAt results 1 ≠ Plate.readingAt results' 1 := by
  intro d t u
  have held : Backend.contents d.output (holding t) = .ok t := rfl
  have held' : Backend.contents d.output (holding u) = .ok u := rfl
  have agree (k : Nat) (above : 100 ≤ k) : t.get k = u.get k := by
    have other : k ≠ 88 := by omega
    exact Plate.get_endedAt_of_ne other
  refine ⟨rfl, Plate.allFinite_endedAt _ _, Plate.allFinite_endedAt _ _,
    fun k above _ => agree k above, ?_⟩
  exact readingAt_ne_endedAt rfl (by decide) (by decide) (Nat.le_refl 88) (by decide) held held'

end Decoder

end FrameBatch
