import FrameBatch.Proofs.Decoder.Rows

namespace FrameBatch

namespace Plate

theorem symbols_apart :
    symbols.Pairwise fun x y => ¬ x.toList <+: y.toList ∧ ¬ y.toList <+: x.toList := by
  decide +kernel

theorem symbols_nonempty : ∀ text ∈ symbols, text.toList ≠ [] := by
  decide +kernel

theorem symbol_eq {i : Nat} (known : i < symbols.length) : symbol i = symbols[i] := by
  simp [symbol, known]

theorem eq_of_begins {i j : Nat} (known : i < symbols.length) (known' : j < symbols.length)
    (begins : (symbol i).toList <+: (symbol j).toList) : i = j := by
  have apart := List.pairwise_iff_getElem.1 symbols_apart
  rw [symbol_eq known, symbol_eq known'] at begins
  rcases Nat.lt_trichotomy i j with earlier | same | later
  · exact absurd begins (apart i j known known' earlier).1
  · exact same
  · exact absurd begins (apart j i known' known later).2

/-- The first symbol of a text can be told from the text. -/
theorem eq_of_append_eq {i j : Nat} (known : i < symbols.length) (known' : j < symbols.length)
    {x y : List Char} (same : (symbol i).toList ++ x = (symbol j).toList ++ y) :
    i = j ∧ x = y := by
  have one : (symbol i).toList <+: (symbol j).toList ++ y := same ▸ List.prefix_append _ x
  have other : (symbol j).toList <+: (symbol j).toList ++ y := List.prefix_append _ y
  have here : i = j := by
    rcases List.prefix_or_prefix_of_prefix one other with begins | begins
    · exact eq_of_begins known known' begins
    · exact (eq_of_begins known' known begins).symm
  subst here
  exact ⟨rfl, List.append_cancel_left same⟩

theorem toList_license (sequence : List Nat) :
    (license sequence).toList = sequence.flatMap fun i => (symbol i).toList := by
  rw [license, String.toList_join, List.flatMap_map]

theorem license_ne_empty {i : Nat} (known : i < symbols.length) (rest : List Nat) :
    (license (i :: rest)).toList ≠ [] := by
  intro empty
  rw [toList_license, List.flatMap_cons, List.append_eq_nil_iff, symbol_eq known] at empty
  exact symbols_nonempty _ (List.getElem_mem known) empty.1

theorem license_inj {a b : List Nat} (known : ∀ i ∈ a, i < symbols.length)
    (known' : ∀ i ∈ b, i < symbols.length) (same : license a = license b) : a = b := by
  induction a generalizing b with
  | nil =>
    cases b with
    | nil => rfl
    | cons j rest =>
      exact absurd (congrArg String.toList same.symm)
        (license_ne_empty (known' j List.mem_cons_self) rest)
  | cons i rest ih =>
    cases b with
    | nil =>
      exact absurd (congrArg String.toList same)
        (license_ne_empty (known i List.mem_cons_self) rest)
    | cons j rest' =>
      have letters := congrArg String.toList same
      simp only [toList_license, List.flatMap_cons] at letters
      rw [← toList_license, ← toList_license] at letters
      obtain ⟨first, others⟩ := eq_of_append_eq (known i List.mem_cons_self)
        (known' j List.mem_cons_self) letters
      rw [first, ih (fun k member => known k (List.mem_cons_of_mem _ member))
        (fun k member => known' k (List.mem_cons_of_mem _ member)) (String.toList_inj.1 others)]

/-- The result has a reading: a sequence of symbols and its text. -/
def Spelled (r : Result) : Prop :=
  ∃ sequence, (∀ i ∈ sequence, i < symbols.length) ∧
    r.reading = some { license := license sequence, sequence }

theorem lt_of_isSymbol {i : Int} (symbol : isSymbol i = true) : i.toNat < symbols.length := by
  simp only [isSymbol, Bool.and_eq_true, decide_eq_true_eq] at symbol
  omega

theorem symbols_of_readStretch {vs : List Scalar} {sequence : List Nat} {stop : Option Int}
    (read : readStretch vs = .ok (sequence, stop)) : ∀ i ∈ sequence, i < symbols.length := by
  induction vs generalizing sequence stop with
  | nil =>
    cases read
    exact nofun
  | cons v rest ih =>
    obtain ⟨i, _, read⟩ := bind_ok read
    split at read
    · cases read
      exact nofun
    · split at read
      · cases read
        exact nofun
      · rename_i symbol
        simp only [Bool.not_eq_true', Bool.not_eq_false] at symbol
        obtain ⟨⟨later, _⟩, read, same⟩ := bind_ok read
        cases same
        intro k member
        rcases List.mem_cons.1 member with rfl | member
        · exact lt_of_isSymbol symbol
        · exact ih read k member

end Plate

namespace Decoder

open Plate

theorem spelled_of_decode {ε : Type} [Backend ε] {d : Descriptor} {e : ε}
    {rs results : List Result} (decoded : (decode .plate d (e, rs)).result = .ok results) :
    ∀ r ∈ results, Spelled r := by
  have ends : (decode .plate d).Ends (e, rs) _ (_, _) := ⟨decoded, rfl⟩
  generalize answer : (Except.ok results : Except Fault (List Result)) = outcome at ends
  generalize (decode .plate d (e, rs)).state.2 = rs' at ends
  cases plate_cases ends with
  | unread _ => cases answer
  | foreign _ _ => cases answer
  | @read t _ outcome _ _ _ read =>
    cases outcome with
    | error f => cases answer
    | ok _ =>
      cases answer
      intro r member
      obtain ⟨i, inside, rfl⟩ := List.mem_iff_getElem.1 member
      have lengths := congrArg List.length (readAll_cases read).2
      rw [List.length_map, List.length_map] at lengths
      obtain ⟨sequence, stop, stretch, reading⟩ := readAll_ok read (lengths ▸ inside)
      refine ⟨sequence, symbols_of_readStretch stretch, ?_⟩
      rw [← reading, readingAt, List.getElem?_eq_getElem inside, Option.bind_some]

/-- The text of a plate and its sequence determine each other: sequences of symbols with the same
text are equal, and so are the sequences of any two results that were decoded, in the same batch or
in others, with the same text. -/
theorem text_determines_plate {ε ε' : Type} [Backend ε] [Backend ε'] :
    (∀ a b : List Nat, (∀ i ∈ a, i ≤ 69) → (∀ i ∈ b, i ≤ 69) →
      (license a = license b ↔ a = b)) ∧
    ∀ (d d' : Descriptor) (e : ε) (e' : ε') (rs rs' results results' : List Result),
      (decode .plate d (e, rs)).result = .ok results →
      (decode .plate d' (e', rs')).result = .ok results' →
      ∀ r ∈ results, ∀ r' ∈ results', ∃ reading reading',
        r.reading = some reading ∧ r'.reading = some reading' ∧
        (reading.license = reading'.license ↔ reading.sequence = reading'.sequence) := by
  constructor
  · intro a b known known'
    refine ⟨license_inj (fun i member => ?_) (fun i member => ?_), congrArg license⟩
    · exact Nat.lt_succ_of_le (known i member)
    · exact Nat.lt_succ_of_le (known' i member)
  · intro d d' e e' rs rs' results results' decoded decoded' r member r' member'
    obtain ⟨sequence, known, read⟩ := spelled_of_decode decoded r member
    obtain ⟨sequence', known', read'⟩ := spelled_of_decode decoded' r' member'
    exact ⟨_, _, read, read', license_inj known known', congrArg license⟩

theorem texts_of_zeros :
    let d := (Descriptor.accept (Descriptor.sharedPlates, Descriptor.plateNetwork "prob")).state.1
    let place : Rect := ⟨.int 0, .int 0, .int 2, .int 2⟩
    let two : Result := ⟨place, some ⟨"00", [0, 0]⟩⟩
    let three : Result := ⟨place, some ⟨"000", [0, 0, 0]⟩⟩
    (decode .plate d (holding (endedAt [1, 88] 2), blankPlates.take 1)).result = .ok [two] ∧
      (decode .plate d (holding (endedAt [1, 88] 3), blankPlates.take 1)).result = .ok [three] ∧
      license [19, 5] = "<Hebei>5" ∧ license [21, 5] = "<Henan>5" ∧
      (license [19, 5] = license [21, 5] ↔ [19, 5] = [21, 5]) ∧
      ∃ reading reading', two.reading = some reading ∧ three.reading = some reading' ∧
        (reading.license = reading'.license ↔ reading.sequence = reading'.sequence) := by
  intro d place two three
  have decoded : (decode .plate d (holding (endedAt [1, 88] 2), blankPlates.take 1)).result =
      .ok [two] := rfl
  have decoded' : (decode .plate d (holding (endedAt [1, 88] 3), blankPlates.take 1)).result =
      .ok [three] := rfl
  obtain ⟨texts, readings⟩ := @text_determines_plate Rehearsal Rehearsal _ _
  exact ⟨decoded, decoded', rfl, rfl, texts _ _ (by decide) (by decide),
    readings _ _ _ _ _ _ _ _ decoded decoded' two List.mem_cons_self three List.mem_cons_self⟩

end Decoder

end FrameBatch
