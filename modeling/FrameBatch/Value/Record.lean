import FrameBatch.Entries
import FrameBatch.Value.Convert

/-!
Records: mappings whose entries are fields as well. A value set as a field is converted on the way
in, and `plain` turns records back into mappings.
-/

namespace FrameBatch.Value

mutual

/-- A value as the field of a record: mappings become records, also directly inside a sequence. -/
def asField : Value → Except Fault Value
  | .map entries => do return .record (← asFields entries)
  | .list items => do return .list (← asMembers items)
  | .tuple items => do return .tuple (← asMembers items)
  | .rect .. => wrongType "a rectangle cannot be rebuilt from a sequence"
  | v => .ok v

/-- The members of a sequence: mappings become records, and inner sequences are not entered. -/
def asMembers : List Value → Except Fault (List Value)
  | [] => .ok []
  | .map entries :: rest => do return .record (← asFields entries) :: (← asMembers rest)
  | v :: rest => do return v :: (← asMembers rest)

/-- The entries of a record; only texts name fields. -/
def asFields : List (Value × Value) → Except Fault (List (Value × Value))
  | [] => .ok []
  | (.text name, v) :: rest => do return (.text name, ← asField v) :: (← asFields rest)
  | (k, _) :: _ => wrongType ("attribute name must be string, not '" ++ k.typeName ++ "'")

end

def toRecord (entries : List (Value × Value)) : Except Fault Value := do
  return .record (← asFields entries)

/-- The entries of a mapping, asked for by an operation. A record whose field has the operation's
name hides it. -/
def entriesBy (operation : String) : Value → Except Fault (Entries Value Value)
  | .map entries => .ok entries
  | .record entries =>
    match Entries.get? (.text operation) entries with
    | some v => wrongType ("'" ++ v.typeName ++ "' object is not callable")
    | none => .ok entries
  | v => v.noField operation

mutual

def plain : Value → Except Fault Value
  | .record entries => do
    let _ ← (Value.record entries).entriesBy "items"
    return .map (← plainEntries entries)
  | .list items => do return .list (← plainItems items)
  | v => .ok v

def plainItems : List Value → Except Fault (List Value)
  | [] => .ok []
  | v :: vs => do return (← plain v) :: (← plainItems vs)

def plainEntries : List (Value × Value) → Except Fault (List (Value × Value))
  | [] => .ok []
  | (k, v) :: rest => do return (k, ← plain v) :: (← plainEntries rest)

end

end FrameBatch.Value
