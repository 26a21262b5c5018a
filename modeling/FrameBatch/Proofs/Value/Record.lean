import FrameBatch.Proofs.Config.Layers
import FrameBatch.Value.Record

/-!
Mappings made records and records made mappings again. Neither way changes anything but the kind of
a mapping. Conversion enters every field, and of a sequence its direct members; the way back enters
records and lists, so a record that was made inside a tuple is the only one that stays.
-/

namespace FrameBatch.Value

mutual

/-- The value with every record as a mapping. -/
def forget : Value → Value
  | .record entries => .map (forgetEntries entries)
  | .map entries => .map (forgetEntries entries)
  | .list items => .list (forgetItems items)
  | .tuple items => .tuple (forgetItems items)
  | .rect x y width height => .rect (forget x) (forget y) (forget width) (forget height)
  | v => v

def forgetItems : List Value → List Value
  | [] => []
  | v :: rest => forget v :: forgetItems rest

def forgetEntries : List (Value × Value) → List (Value × Value)
  | [] => []
  | (k, v) :: rest => (k, forget v) :: forgetEntries rest

end

mutual

def hasRecord : Value → Bool
  | .record _ => true
  | .map entries => hasRecordEntries entries
  | .list items => hasRecordItems items
  | .tuple items => hasRecordItems items
  | .rect x y width height => hasRecord x || hasRecord y || hasRecord width || hasRecord height
  | _ => false

def hasRecordItems : List Value → Bool
  | [] => false
  | v :: rest => hasRecord v || hasRecordItems rest

def hasRecordEntries : List (Value × Value) → Bool
  | [] => false
  | (_, v) :: rest => hasRecord v || hasRecordEntries rest

end

mutual

/-- Whether the value is built of scalars, lists, tuples and mappings under names, none of which is
that of the operation that gives the entries of a mapping. -/
def isBare : Value → Bool
  | .map entries => isBareEntries entries
  | .list items => isBareItems items
  | .tuple items => isBareItems items
  | .rect .. => false
  | .record _ => false
  | _ => true

def isBareItems : List Value → Bool
  | [] => true
  | v :: rest => isBare v && isBareItems rest

def isBareEntries : List (Value × Value) → Bool
  | [] => true
  | (.text name, v) :: rest => name != "items" && isBare v && isBareEntries rest
  | _ :: _ => false

end

def isMap : Value → Bool
  | .map _ => true
  | _ => false

/-- The value is set as a field when a mapping with these entries is converted, at any depth. -/
inductive IsField : List (Value × Value) → Value → Prop where
  | here {entries : List (Value × Value)} {k v : Value} (among : (k, v) ∈ entries) :
      IsField entries v
  | inMapping {entries inner : List (Value × Value)} {k v : Value}
      (among : (k, .map inner) ∈ entries) (deeper : IsField inner v) : IsField entries v
  | inList {entries inner : List (Value × Value)} {k v : Value} {items : List Value}
      (among : (k, .list items) ∈ entries) (member : .map inner ∈ items)
      (deeper : IsField inner v) : IsField entries v
  | inTuple {entries inner : List (Value × Value)} {k v : Value} {items : List Value}
      (among : (k, .tuple items) ∈ entries) (member : .map inner ∈ items)
      (deeper : IsField inner v) : IsField entries v

/-- A mapping is a direct member of a tuple that is set as a field. -/
def Strands (entries : List (Value × Value)) : Prop :=
  ∃ items inner, IsField entries (.tuple items) ∧ .map inner ∈ items

mutual

/-- Whether a record stays in what comes back from a field. -/
def strands : Value → Bool
  | .map entries => strandsEntries entries
  | .list items => strandsMembers items
  | .tuple items => items.any isMap
  | _ => false

def strandsMembers : List Value → Bool
  | [] => false
  | .map entries :: rest => strandsEntries entries || strandsMembers rest
  | _ :: rest => strandsMembers rest

def strandsEntries : List (Value × Value) → Bool
  | [] => false
  | (_, v) :: rest => strands v || strandsEntries rest

end

mutual

theorem forget_asField {v r : Value} (made : asField v = .ok r) : r.forget = v.forget := by
  cases v with
  | map entries =>
    obtain ⟨fields, converted, same⟩ := bind_ok made
    cases same
    rw [forget, forget, forget_asFields converted]
  | list items =>
    obtain ⟨members, converted, same⟩ := bind_ok made
    cases same
    rw [forget, forget, forget_asMembers converted]
  | tuple items =>
    obtain ⟨members, converted, same⟩ := bind_ok made
    cases same
    rw [forget, forget, forget_asMembers converted]
  | rect => cases made
  | _ =>
    cases made
    rfl

theorem forget_asMembers {items members : List Value} (made : asMembers items = .ok members) :
    forgetItems members = forgetItems items := by
  cases items with
  | nil =>
    cases made
    rfl
  | cons v rest =>
    cases v with
    | map entries =>
      obtain ⟨fields, converted, made⟩ := bind_ok made
      obtain ⟨others, convertedRest, same⟩ := bind_ok made
      cases same
      rw [forgetItems, forgetItems, forget, forget, forget_asFields converted,
        forget_asMembers convertedRest]
    | _ =>
      obtain ⟨others, convertedRest, same⟩ := bind_ok made
      cases same
      rw [forgetItems, forgetItems, forget_asMembers convertedRest]

theorem forget_asFields {entries fields : List (Value × Value)}
    (made : asFields entries = .ok fields) : forgetEntries fields = forgetEntries entries := by
  cases entries with
  | nil =>
    cases made
    rfl
  | cons entry rest =>
    obtain ⟨k, v⟩ := entry
    cases k with
    | text name =>
      obtain ⟨field, converted, made⟩ := bind_ok made
      obtain ⟨others, convertedRest, same⟩ := bind_ok made
      cases same
      rw [forgetEntries, forgetEntries, forget_asField converted, forget_asFields convertedRest]
    | _ => cases made

end

mutual

theorem forget_plain {r back : Value} (made : plain r = .ok back) : back.forget = r.forget := by
  cases r with
  | record entries =>
    obtain ⟨_, _, made⟩ := bind_ok made
    obtain ⟨others, restored, same⟩ := bind_ok made
    cases same
    rw [forget, forget, forget_plainEntries restored]
  | list items =>
    obtain ⟨others, restored, same⟩ := bind_ok made
    cases same
    rw [forget, forget, forget_plainItems restored]
  | _ =>
    cases made
    rfl

theorem forget_plainItems {items others : List Value} (made : plainItems items = .ok others) :
    forgetItems others = forgetItems items := by
  cases items with
  | nil =>
    cases made
    rfl
  | cons v rest =>
    obtain ⟨first, restored, made⟩ := bind_ok made
    obtain ⟨others, restoredRest, same⟩ := bind_ok made
    cases same
    rw [forgetItems, forgetItems, forget_plain restored, forget_plainItems restoredRest]

theorem forget_plainEntries {entries others : List (Value × Value)}
    (made : plainEntries entries = .ok others) : forgetEntries others = forgetEntries entries := by
  cases entries with
  | nil =>
    cases made
    rfl
  | cons entry rest =>
    obtain ⟨k, v⟩ := entry
    obtain ⟨first, restored, made⟩ := bind_ok made
    obtain ⟨others, restoredRest, same⟩ := bind_ok made
    cases same
    rw [forgetEntries, forgetEntries, forget_plain restored, forget_plainEntries restoredRest]

end

mutual

theorem forget_of_no_record {v : Value} (none : v.hasRecord = false) : v.forget = v := by
  cases v with
  | record entries => cases none
  | map entries => rw [forget, forgetEntries_of_no_record none]
  | list items => rw [forget, forgetItems_of_no_record none]
  | tuple items => rw [forget, forgetItems_of_no_record none]
  | rect x y width height =>
    simp only [hasRecord, Bool.or_eq_false_iff] at none
    obtain ⟨⟨⟨noneX, noneY⟩, noneWidth⟩, noneHeight⟩ := none
    rw [forget, forget_of_no_record noneX, forget_of_no_record noneY,
      forget_of_no_record noneWidth, forget_of_no_record noneHeight]
  | _ => rfl

theorem forgetItems_of_no_record {items : List Value} (none : hasRecordItems items = false) :
    forgetItems items = items := by
  cases items with
  | nil => rfl
  | cons v rest =>
    obtain ⟨noneFirst, noneRest⟩ := Bool.or_eq_false_iff.1 none
    rw [forgetItems, forget_of_no_record noneFirst, forgetItems_of_no_record noneRest]

theorem forgetEntries_of_no_record {entries : List (Value × Value)}
    (none : hasRecordEntries entries = false) : forgetEntries entries = entries := by
  cases entries with
  | nil => rfl
  | cons entry rest =>
    obtain ⟨k, v⟩ := entry
    obtain ⟨noneFirst, noneRest⟩ := Bool.or_eq_false_iff.1 none
    rw [forgetEntries, forget_of_no_record noneFirst, forgetEntries_of_no_record noneRest]

end

theorem isBareEntries_cons {entry : Value × Value} {rest : List (Value × Value)}
    (bare : isBareEntries (entry :: rest) = true) :
    ∃ name v, entry = (.text name, v) ∧ name ≠ "items" ∧ v.isBare = true ∧
      isBareEntries rest = true := by
  obtain ⟨k, v⟩ := entry
  cases k with
  | text name =>
    simp only [isBareEntries, Bool.and_eq_true, bne_iff_ne] at bare
    exact ⟨name, v, rfl, bare.1.1, bare.1.2, bare.2⟩
  | _ => cases bare

mutual

theorem hasRecord_of_isBare {v : Value} (bare : v.isBare = true) : v.hasRecord = false := by
  cases v with
  | map entries => exact hasRecordEntries_of_isBare bare
  | list items => exact hasRecordItems_of_isBare bare
  | tuple items => exact hasRecordItems_of_isBare bare
  | rect => cases bare
  | record => cases bare
  | _ => rfl

theorem hasRecordItems_of_isBare {items : List Value} (bare : isBareItems items = true) :
    hasRecordItems items = false := by
  cases items with
  | nil => rfl
  | cons v rest =>
    obtain ⟨bareFirst, bareRest⟩ := Bool.and_eq_true_iff.1 bare
    rw [hasRecordItems, hasRecord_of_isBare bareFirst, hasRecordItems_of_isBare bareRest]
    rfl

theorem hasRecordEntries_of_isBare {entries : List (Value × Value)}
    (bare : isBareEntries entries = true) : hasRecordEntries entries = false := by
  cases entries with
  | nil => rfl
  | cons entry rest =>
    obtain ⟨name, v, rfl, -, bareFirst, bareRest⟩ := isBareEntries_cons bare
    rw [hasRecordEntries, hasRecord_of_isBare bareFirst, hasRecordEntries_of_isBare bareRest]
    rfl

end

mutual

theorem plain_of_isBare {v : Value} (bare : v.isBare = true) : plain v = .ok v := by
  cases v with
  | list items =>
    rw [plain, plainItems_of_isBare bare]
    rfl
  | record => cases bare
  | _ => rfl

theorem plainItems_of_isBare {items : List Value} (bare : isBareItems items = true) :
    plainItems items = .ok items := by
  cases items with
  | nil => rfl
  | cons v rest =>
    obtain ⟨bareFirst, bareRest⟩ := Bool.and_eq_true_iff.1 bare
    rw [plainItems, plain_of_isBare bareFirst, plainItems_of_isBare bareRest]
    rfl

end

theorem eq_map_of_isMap {v : Value} (kind : v.isMap = true) : ∃ entries, v = .map entries := by
  cases v with
  | map entries => exact ⟨entries, rfl⟩
  | _ => cases kind

theorem asMembers_of_not_map {v : Value} (kind : v.isMap = false) (rest : List Value) :
    asMembers (v :: rest) = do return v :: (← asMembers rest) := by
  cases v with
  | map => cases kind
  | _ => rfl

theorem strandsMembers_of_not_map {v : Value} (kind : v.isMap = false) (rest : List Value) :
    strandsMembers (v :: rest) = strandsMembers rest := by
  cases v with
  | map => cases kind
  | _ => rfl

theorem IsField.cons {entries : List (Value × Value)} {v : Value} (field : IsField entries v)
    (entry : Value × Value) : IsField (entry :: entries) v := by
  cases field with
  | here among => exact .here (List.mem_cons_of_mem entry among)
  | inMapping among deeper => exact .inMapping (List.mem_cons_of_mem entry among) deeper
  | inList among member deeper => exact .inList (List.mem_cons_of_mem entry among) member deeper
  | inTuple among member deeper => exact .inTuple (List.mem_cons_of_mem entry among) member deeper

mutual

theorem Strands.of_field {entries : List (Value × Value)} {k v : Value}
    (among : (k, v) ∈ entries) (left : v.strands = true) : Strands entries := by
  cases v with
  | map inner =>
    obtain ⟨items, mapping, field, member⟩ := Strands.of_entries left
    exact ⟨items, mapping, .inMapping among field, member⟩
  | list items =>
    obtain ⟨inner, entered, items', mapping, field, member⟩ := Strands.of_members left
    exact ⟨items', mapping, .inList among entered field, member⟩
  | tuple items =>
    obtain ⟨v, member, kind⟩ := List.any_eq_true.1 left
    obtain ⟨mapping, rfl⟩ := eq_map_of_isMap kind
    exact ⟨items, mapping, .here among, member⟩
  | _ => cases left

theorem Strands.of_members {items : List Value} (left : strandsMembers items = true) :
    ∃ inner, .map inner ∈ items ∧ Strands inner := by
  cases items with
  | nil => cases left
  | cons v rest =>
    have later (left : strandsMembers rest = true) : ∃ inner, .map inner ∈ v :: rest ∧
        Strands inner := by
      obtain ⟨inner, member, strands⟩ := Strands.of_members left
      exact ⟨inner, List.mem_cons_of_mem v member, strands⟩
    cases v with
    | map entries =>
      rcases Bool.or_eq_true_iff.1 left with left | left
      · exact ⟨entries, List.mem_cons_self, Strands.of_entries left⟩
      · exact later left
    | _ => exact later left

theorem Strands.of_entries {entries : List (Value × Value)}
    (left : strandsEntries entries = true) : Strands entries := by
  cases entries with
  | nil => cases left
  | cons entry rest =>
    obtain ⟨k, v⟩ := entry
    rcases Bool.or_eq_true_iff.1 left with left | left
    · exact Strands.of_field List.mem_cons_self left
    · obtain ⟨items, inner, field, member⟩ := Strands.of_entries left
      exact ⟨items, inner, field.cons (k, v), member⟩

end

theorem strandsEntries_of_mem {entries : List (Value × Value)} {k v : Value}
    (among : (k, v) ∈ entries) (left : v.strands = true) : strandsEntries entries = true := by
  induction entries with
  | nil => cases among
  | cons entry rest ih =>
    obtain ⟨k', v'⟩ := entry
    rw [strandsEntries, Bool.or_eq_true]
    rcases List.mem_cons.1 among with same | among
    · cases same
      exact .inl left
    · exact .inr (ih among)

theorem strandsMembers_of_mem {items : List Value} {inner : List (Value × Value)}
    (member : .map inner ∈ items) (left : strandsEntries inner = true) :
    strandsMembers items = true := by
  induction items with
  | nil => cases member
  | cons v rest ih =>
    rcases List.mem_cons.1 member with rfl | later
    · rw [strandsMembers, left, Bool.true_or]
    · cases kind : v.isMap with
      | true =>
        obtain ⟨entries, rfl⟩ := eq_map_of_isMap kind
        rw [strandsMembers, ih later, Bool.or_true]
      | false => rw [strandsMembers_of_not_map kind, ih later]

theorem strandsEntries_iff {entries : List (Value × Value)} :
    strandsEntries entries = true ↔ Strands entries := by
  refine ⟨Strands.of_entries, ?_⟩
  rintro ⟨items, inner, field, member⟩
  have holds {items : List Value} {inner : List (Value × Value)} (member : .map inner ∈ items) :
      (Value.tuple items).strands = true := List.any_eq_true.2 ⟨_, member, rfl⟩
  generalize same : Value.tuple items = v at field
  induction field with
  | here among => exact strandsEntries_of_mem among (same ▸ holds member)
  | inMapping among deeper ih => exact strandsEntries_of_mem among (ih same)
  | inList among member' deeper ih =>
    exact strandsEntries_of_mem among (strandsMembers_of_mem member' (ih same))
  | inTuple among member' => exact strandsEntries_of_mem among (holds member')

instance (entries : List (Value × Value)) : Decidable (Strands entries) :=
  decidable_of_iff (strandsEntries entries = true) strandsEntries_iff

mutual

/-- What is converted comes back, and a record stays in it exactly if the value strands one. -/
theorem back_asField {v : Value} (bare : v.isBare = true) :
    ∃ r back, asField v = .ok r ∧ plain r = .ok back ∧ back.hasRecord = v.strands := by
  cases v with
  | map entries =>
    obtain ⟨fields, back, made, restored, none, left⟩ := back_asFields bare
    refine ⟨.record fields, .map back, ?_, ?_, left⟩
    · rw [asField, made]
      rfl
    · rw [plain, entriesBy, none, ok_bind, restored]
      rfl
  | list items =>
    obtain ⟨members, back, made, restored, left, -⟩ := back_asMembers bare
    refine ⟨.list members, .list back, ?_, ?_, left⟩
    · rw [asField, made]
      rfl
    · rw [plain, restored]
      rfl
  | tuple items =>
    obtain ⟨members, -, made, -, -, left⟩ := back_asMembers bare
    refine ⟨.tuple members, .tuple members, ?_, rfl, left⟩
    rw [asField, made]
    rfl
  | rect => cases bare
  | record => cases bare
  | _ => exact ⟨_, _, rfl, rfl, rfl⟩

theorem back_asMembers {items : List Value} (bare : isBareItems items = true) :
    ∃ members back, asMembers items = .ok members ∧ plainItems members = .ok back ∧
      hasRecordItems back = strandsMembers items ∧ hasRecordItems members = items.any isMap := by
  cases items with
  | nil => exact ⟨[], [], rfl, rfl, rfl, rfl⟩
  | cons v rest =>
    obtain ⟨bareFirst, bareRest⟩ := Bool.and_eq_true_iff.1 bare
    obtain ⟨others, back, madeRest, restoredRest, leftRest, staysRest⟩ := back_asMembers bareRest
    cases kind : v.isMap with
    | true =>
      obtain ⟨entries, rfl⟩ := eq_map_of_isMap kind
      obtain ⟨fields, first, made, restored, none, left⟩ := back_asFields bareFirst
      refine ⟨.record fields :: others, .map first :: back, ?_, ?_, ?_, rfl⟩
      · rw [asMembers, made, madeRest]
        rfl
      · rw [plainItems, plain, entriesBy, none, ok_bind, restored, restoredRest]
        rfl
      · rw [hasRecordItems, hasRecord, left, leftRest, strandsMembers]
    | false =>
      refine ⟨v :: others, v :: back, ?_, ?_, ?_, ?_⟩
      · rw [asMembers_of_not_map kind, madeRest]
        rfl
      · rw [plainItems, plain_of_isBare bareFirst, restoredRest]
        rfl
      · rw [hasRecordItems, hasRecord_of_isBare bareFirst, leftRest,
          strandsMembers_of_not_map kind]
        rfl
      · rw [hasRecordItems, hasRecord_of_isBare bareFirst, staysRest, List.any_cons, kind]

theorem back_asFields {entries : List (Value × Value)} (bare : isBareEntries entries = true) :
    ∃ fields back, asFields entries = .ok fields ∧ plainEntries fields = .ok back ∧
      Entries.get? (.text "items") fields = none ∧
      hasRecordEntries back = strandsEntries entries := by
  cases entries with
  | nil => exact ⟨[], [], rfl, rfl, rfl, rfl⟩
  | cons entry rest =>
    obtain ⟨name, v, rfl, other, bareFirst, bareRest⟩ := isBareEntries_cons bare
    obtain ⟨r, first, made, restored, left⟩ := back_asField bareFirst
    obtain ⟨fields, back, madeRest, restoredRest, none, leftRest⟩ := back_asFields bareRest
    refine ⟨(.text name, r) :: fields, (.text name, first) :: back, ?_, ?_, ?_, ?_⟩
    · rw [asFields, made, madeRest]
      rfl
    · rw [plainEntries, restored, restoredRest]
      rfl
    · rw [Entries.get?, Config.beq_text, beq_eq_false_iff_ne.2 other]
      exact none
    · rw [hasRecordEntries, left, leftRest, strandsEntries]

end

/-- Entries under names come back with the structure, the keys, their order and the scalars that
they had. They come back as they were, and without a record at any depth, if and only if no mapping
is a direct member of a tuple that conversion sets as a field. -/
theorem undone_iff {entries : List (Value × Value)} (bare : (Value.map entries).isBare = true) :
    ∃ r back, toRecord entries = .ok r ∧ plain r = .ok back ∧ back.forget = .map entries ∧
      (back = .map entries ↔ ¬ Strands entries) ∧
      (back.hasRecord = false ↔ ¬ Strands entries) := by
  obtain ⟨r, back, made, restored, left⟩ := back_asField bare
  have left : back.hasRecord = false ↔ ¬ Strands entries := by
    rw [left, ← strandsEntries_iff, Bool.not_eq_true]
    rfl
  have none : (Value.map entries).hasRecord = false := hasRecord_of_isBare bare
  have same : back.forget = .map entries := by
    rw [forget_plain restored, forget_asField made, forget_of_no_record none]
  refine ⟨r, back, made, restored, same, ?_, left⟩
  rw [← left]
  constructor
  · rintro rfl
    exact none
  · intro noneLeft
    rw [← same, forget_of_no_record noneLeft]

theorem undone_mixed :
    let entries : List (Value × Value) := [
      (.text "model", .text "lpr.xml"),
      (.text "stages", .list [.map [(.text "size", .tuple [.int 94, .int 24])], .null]),
      (.text "crops", .tuple [.list [.map [(.text "x", .int 0)]], .bool true]),
      (.text "rows", .list [.list [.map []], .tuple [.map [(.text "y", .int 1)]]])]
    (Value.map entries).isBare = true ∧ (do plain (← toRecord entries)) = .ok (.map entries) := by
  intro entries
  have bare : (Value.map entries).isBare = true := by decide +kernel
  obtain ⟨r, back, made, restored, _, undone, _⟩ := undone_iff bare
  have notStranded : ¬ Strands entries := by decide +kernel
  refine ⟨bare, ?_⟩
  rw [made, ok_bind, restored, undone.2 notStranded]

/-- A mapping in a tuple comes back as a record. -/
theorem stays_in_tuple :
    let entries : List (Value × Value) :=
      [(.text "size", .tuple [.map [(.text "width", .int 94)]])]
    (Value.map entries).isBare = true ∧ ∃ back, (do plain (← toRecord entries)) = .ok back ∧
      back ≠ .map entries ∧ back.hasRecord = true :=
  ⟨rfl, .map [(.text "size", .tuple [.record [(.text "width", .int 94)]])], rfl, nofun, rfl⟩

end FrameBatch.Value
