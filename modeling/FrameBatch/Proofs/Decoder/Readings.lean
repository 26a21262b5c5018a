import FrameBatch.Proofs.Decoder.Rows
import FrameBatch.Proofs.Number.Exact

namespace FrameBatch

namespace Scalar

/-- The number that an element stands for; zero for infinities and data that are no numbers. -/
def value : Scalar → ℚ
  | .whole z => z
  | .real x => x.value

theorem truncate?_of_isSome {v : Scalar} (known : v.truncate?.isSome) :
    v.truncate? = some (towardZero v.value) := by
  cases v with
  | whole z => rw [truncate?, value, towardZero_intCast]
  | real x =>
    rw [truncate?, x.truncate?_isSome] at known
    rw [truncate?, value, Binary.truncate?_finite known]

end Scalar

namespace Plate

/-- The indices for plate `i`: its 88 elements without their fractions. -/
def indices (t : Tensor) (i : Nat) : List Int :=
  (List.range 88).map fun k => towardZero (t.get (88 * i + k)).value

/-- The place of the first index outside 0 to 69, or the number of indices if there is none. -/
def symbolCount (is : List Int) : Nat := is.findIdx fun v => !decide (0 ≤ v ∧ v ≤ 69)

def sequenceOf (is : List Int) : List Nat := (is.take (symbolCount is)).map Int.toNat

/-- The index that breaks the sequence off, unless it is the mark for the end. -/
def unknownIn (is : List Int) : Option Int := is[symbolCount is]?.filter fun v => decide (v ≠ -1)

def withReading (t : Tensor) (i : Nat) (r : Result) : Result :=
  let sequence := sequenceOf (indices t i)
  { r with reading := some { license := license sequence, sequence } }

def warnings (t : Tensor) (i : Nat) (r : Result) : List Event :=
  (unknownIn (indices t i)).toList.map fun v =>
    .log ⟨.warning, logger, s!"Unknown license symbol {v} for plate at " ++ r.location.text⟩

def readings (t : Tensor) (rs : List Result) : List Result :=
  rs.zipIdx.map fun (r, i) => withReading t i r

section

variable {t : Tensor}

theorem isSymbol_eq (v : Int) : isSymbol v = decide (0 ≤ v ∧ v ≤ 69) := by
  have count : symbols.length = 70 := rfl
  rw [isSymbol, count, ← Bool.decide_and, decide_eq_decide]
  omega

theorem symbolCount_symbol {i : Int} (symbol : 0 ≤ i ∧ i ≤ 69) (is : List Int) :
    symbolCount (i :: is) = symbolCount is + 1 := by
  simp [symbolCount, List.findIdx_cons, symbol]

theorem symbolCount_other {i : Int} (other : ¬ (0 ≤ i ∧ i ≤ 69)) (is : List Int) :
    symbolCount (i :: is) = 0 := by
  rw [symbolCount, List.findIdx_cons, decide_eq_false other]
  rfl

theorem readStretch_eq {vs : List Scalar} (finite : ∀ v ∈ vs, v.truncate?.isSome) {is : List Int}
    (whole : vs.map (fun v => towardZero v.value) = is) :
    readStretch vs = .ok (sequenceOf is, unknownIn is) := by
  subst whole
  induction vs with
  | nil => rfl
  | cons v rest ih =>
    have later := ih fun u member => finite u (List.mem_cons_of_mem _ member)
    have known := Scalar.truncate?_of_isSome (finite v List.mem_cons_self)
    simp only [List.map_cons, readStretch, index_eq_ok_iff.2 known, ok_bind, isSymbol_eq,
      sequenceEnd, sequenceOf, unknownIn]
    generalize towardZero v.value = i
    by_cases symbol : 0 ≤ i ∧ i ≤ 69
    · have more : i ≠ -1 := by omega
      rw [symbolCount_symbol symbol, decide_eq_true symbol, if_neg more, later]
      rfl
    · rw [symbolCount_other symbol, decide_eq_false symbol]
      by_cases last : i = -1
      · rw [if_pos last, last]
        rfl
      · rw [if_neg last, List.getElem?_cons_zero, Option.filter_some, decide_eq_true last]
        rfl

theorem map_stretch {i : Nat} (room : (i + 1) * 88 ≤ t.size) :
    (stretch t 88 i).map (fun v => towardZero v.value) = indices t i := by
  apply List.ext_getElem?
  intro k
  rw [indices, List.getElem?_map, List.getElem?_map]
  by_cases inside : k < 88
  · rw [getElem?_stretch inside room, List.getElem?_range inside, Nat.mul_comm]
    rfl
  · have past : (stretch t 88 i).length ≤ k := by rw [length_stretch room]; omega
    have past' : (List.range 88).length ≤ k := by rw [List.length_range]; omega
    rw [List.getElem?_eq_none past, List.getElem?_eq_none past']
    rfl

theorem finite_stretch (finite : t.AllFinite) (size i : Nat) :
    ∀ v ∈ stretch t size i, v.truncate?.isSome := by
  intro v member
  rw [stretch, Array.mem_toList_iff] at member
  obtain ⟨k, _, rfl⟩ := Array.mem_extract_iff_getElem.1 member
  exact finite _ (Array.getElem_mem _)

theorem readOne_eq (finite : t.AllFinite) {i : Nat} (room : (i + 1) * 88 ≤ t.size) (r : Result) :
    readOne t 88 i r () = ⟨.ok (withReading t i r), (), warnings t i r⟩ := by
  have stretched := readStretch_eq (finite_stretch finite 88 i) (map_stretch room)
  rw [readOne, warnings, withReading]
  generalize unknownIn (indices t i) = stop at stretched
  generalize sequenceOf (indices t i) = sequence at stretched
  rw [stretched]
  cases stop with
  | none => rfl
  | some v => rfl

theorem readFrom_eq (finite : t.AllFinite) {i : Nat} {rs : List Result}
    (room : (i + rs.length) * 88 ≤ t.size) (others : List Result) :
    readFrom t 88 i rs others =
      ⟨.ok (), (rs.zipIdx i).map fun (r, j) => withReading t j r,
        (rs.zipIdx i).flatMap fun (r, j) => warnings t j r⟩ := by
  induction rs generalizing i others with
  | nil => rfl
  | cons r rest ih =>
    rw [List.length_cons] at room
    have first := readOne_eq finite (i := i) (by omega) r
    have later := ih (i := i + 1) (by omega) rest
    simp only [readFrom, first, later, List.zipIdx_cons, List.map_cons, List.flatMap_cons]

theorem readAll_eq (finite : t.AllFinite) (name : String) (rs : List Result) :
    readAll name t 88 rs =
      if t.size < rs.length * 88 then
        ⟨.error (.refused (.outputTooShort name t.size rs.length 88)), rs, []⟩
      else
        ⟨.ok (), readings t rs, rs.zipIdx.flatMap fun (r, i) => warnings t i r⟩ := by
  have taken : readAll name t 88 rs = (do
      if t.size < rs.length * 88 then
        Act.fail (.refused (.outputTooShort name t.size rs.length 88))
      readFrom t 88 0 rs : Act (List Result) Unit) rs := rfl
  rw [taken]
  split
  · rfl
  · rename_i room
    exact readFrom_eq finite (by omega) rs

end

end Plate

namespace Decoder

variable {ε : Type} [Backend ε]

theorem decode_eq {d : Descriptor} (family : d.family = .plate) {e : ε} {t : Tensor}
    (held : Backend.contents d.output e = .ok t) (rs : List Result) :
    decode .plate d (e, rs) =
      let asked := Backend.tensor d.output e
      let read := Plate.readAll (TensorName.text d.output) t 88 rs
      ⟨read.result.map fun _ => read.state, (asked.state, read.state),
        asked.trail ++ read.trail⟩ := by
  rw [Backend.contents] at held
  rcases asked : Backend.tensor d.output e with ⟨answer, e', trail⟩
  rw [asked] at held
  subst held
  have first : Act.on Prod.fst (fun e s => (e, s.2)) (Backend.tensor d.output) (e, rs) =
      ⟨.ok t, (e', rs), trail⟩ := by
    simp only [Act.on, asked]
  rw [decode, Act.bind_of_ok first, plateField, if_pos family]
  rcases read : Plate.readAll (TensorName.text d.output) t 88 rs with ⟨outcome, rs', trail'⟩
  have second : Act.on Prod.snd (fun rs (s : ε × List Result) => (s.1, rs))
      (Plate.readAll (TensorName.text d.output) t Plate.maxSequence) (e', rs) =
        ⟨outcome, (e', rs'), trail'⟩ := by
    simp only [Act.on, Plate.maxSequence, read]
  cases outcome with
  | error f =>
    rw [Act.bind_of_error second]
    rfl
  | ok u =>
    rw [Act.bind_of_ok second]
    simp [Act.bind_of_ok (Act.get_apply (e', rs')), Except.map]

/-- Decoding fails exactly if the output is too short for the plates, and changes no result then.
Otherwise each plate is read off its 88 elements, and warned of if its sequence ends with an index
that is unknown. -/
theorem decode_plates {d : Descriptor} (family : d.family = .plate) {e : ε} {t : Tensor}
    (held : Backend.contents d.output e = .ok t) (finite : t.AllFinite) (rs : List Result) :
    ((∃ f, (decode .plate d (e, rs)).result = .error f ∧ f.isRuntime = true) ↔
        t.size < 88 * rs.length) ∧
      (t.size < 88 * rs.length → (decode .plate d (e, rs)).state.2 = rs) ∧
      (88 * rs.length ≤ t.size → decode .plate d (e, rs) =
        ⟨.ok (Plate.readings t rs), ((Backend.tensor d.output e).state, Plate.readings t rs),
          (Backend.tensor d.output e).trail ++
            rs.zipIdx.flatMap fun (r, i) => Plate.warnings t i r⟩) := by
  rw [decode_eq family held rs, Plate.readAll_eq finite, Nat.mul_comm rs.length 88]
  by_cases short : t.size < 88 * rs.length
  · rw [if_pos short]
    refine ⟨⟨fun _ => short, fun _ => ⟨_, rfl, rfl⟩⟩, fun _ => rfl, fun room => by omega⟩
  · rw [if_neg short]
    refine ⟨⟨?_, fun lacks => absurd lacks short⟩, fun lacks => absurd lacks short, fun _ => rfl⟩
    rintro ⟨f, same, -⟩
    cases same

def twoPlates : Tensor := .ofFn (.element .f32) [2, 88] fun k => .real (element k)
where
  element (k : Nat) : Binary :=
    if k = 0 then .finite false 51 (-2)
    else if k = 1 then .finite true 1 (-1)
    else if k = 2 then .ofInt 70
    else if k = 88 then .ofInt 44
    else .ofInt Plate.sequenceEnd

theorem allFinite_twoPlates : twoPlates.AllFinite := by
  intro v member
  obtain ⟨k, _, rfl⟩ := Array.mem_iff_getElem.1 member
  simp only [twoPlates, twoPlates.element, Tensor.ofFn, Array.getElem_ofFn]
  split_ifs
  all_goals rfl

theorem getElem?_twoPlates {i k : Nat} (inside : i < 2) (below : k < 88) :
    (Plate.indices twoPlates i)[k]? = (twoPlates.element (88 * i + k)).truncate? := by
  have held : twoPlates.get (88 * i + k) = .real (twoPlates.element (88 * i + k)) :=
    Tensor.get_ofFn _ _ _ (show 88 * i + k < 176 by omega)
  have finite : (twoPlates.element (88 * i + k)).isFinite := by
    rw [twoPlates.element]
    split_ifs
    all_goals rfl
  rw [Plate.indices, List.getElem?_map, List.getElem?_range below, Binary.truncate?_finite finite,
    Option.map_some, held, Scalar.value]

theorem decode_twoPlates :
    let d := (Descriptor.accept (Descriptor.sharedPlates, Descriptor.plateNetwork "prob")).state.1
    let place : Rect := ⟨.int 0, .int 0, .int 2, .int 2⟩
    let plates := decode .plate d (holding twoPlates, blankPlates)
    let more := decode .plate d (holding twoPlates, ⟨place, some {}⟩ :: blankPlates)
    plates.result = .ok [⟨place, some ⟨"<Chongqing>0", [12, 0]⟩⟩, ⟨place, some ⟨"A", [44]⟩⟩] ∧
      plates.trail = [.log ⟨.warning, Plate.logger,
        "Unknown license symbol 70 for plate at " ++ place.text⟩] ∧
      (∃ f, more.result = .error f ∧ f.isRuntime = true) ∧
      more.state.2 = ⟨place, some {}⟩ :: blankPlates := by
  intro d place plates more
  have held : Backend.contents d.output (holding twoPlates) = .ok twoPlates := rfl
  have size : twoPlates.size = 176 := Tensor.size_eq_volume _
  have first : ∃ rest, Plate.indices twoPlates 0 = 12 :: 0 :: 70 :: rest := by
    have at0 : (Plate.indices twoPlates 0)[0]? = some 12 := getElem?_twoPlates (by omega) (by omega)
    have at1 : (Plate.indices twoPlates 0)[1]? = some 0 := getElem?_twoPlates (by omega) (by omega)
    have at2 : (Plate.indices twoPlates 0)[2]? = some 70 := getElem?_twoPlates (by omega) (by omega)
    generalize Plate.indices twoPlates 0 = is at at0 at1 at2
    match is, at0, at1, at2 with
    | a :: b :: c :: rest, rfl, rfl, rfl => exact ⟨rest, rfl⟩
  have second : ∃ rest, Plate.indices twoPlates 1 = 44 :: -1 :: rest := by
    have at0 : (Plate.indices twoPlates 1)[0]? = some 44 := getElem?_twoPlates (by omega) (by omega)
    have at1 : (Plate.indices twoPlates 1)[1]? = some (-1) :=
      getElem?_twoPlates (by omega) (by omega)
    generalize Plate.indices twoPlates 1 = is at at0 at1
    match is, at0, at1 with
    | a :: b :: rest, rfl, rfl => exact ⟨rest, rfl⟩
  obtain ⟨rest, first⟩ := first
  obtain ⟨rest', second⟩ := second
  obtain ⟨-, -, decoded⟩ := decode_plates (d := d) rfl held allFinite_twoPlates blankPlates
  obtain ⟨refused, kept, -⟩ :=
    decode_plates (d := d) rfl held allFinite_twoPlates (⟨place, some {}⟩ :: blankPlates)
  have lacks : twoPlates.size < 88 * (⟨place, some {}⟩ :: blankPlates : List Result).length := by
    rw [size]
    decide
  have room : 88 * blankPlates.length ≤ twoPlates.size := by
    rw [size]
    decide
  have read : Plate.sequenceOf (12 :: 0 :: 70 :: rest) = [12, 0] := rfl
  have read' : Plate.sequenceOf (44 :: -1 :: rest') = [44] := rfl
  have unknown : Plate.unknownIn (12 :: 0 :: 70 :: rest) = some 70 := rfl
  have known : Plate.unknownIn (44 :: -1 :: rest') = none := rfl
  refine ⟨?_, ?_, refused.2 lacks, kept lacks⟩
  · refine (congrArg Outcome.result (decoded room)).trans ?_
    simp only [Plate.readings, blankPlates, List.replicate, List.zipIdx, List.map,
      Plate.withReading, first, second, Nat.zero_add, read, read', Except.ok.injEq]
    rfl
  · refine (congrArg Outcome.trail (decoded room)).trans ?_
    simp only [blankPlates, List.replicate, List.zipIdx, List.flatMap_cons, List.flatMap_nil,
      Plate.warnings, first, second, Nat.zero_add, unknown, known]
    rfl

end Decoder

end FrameBatch
