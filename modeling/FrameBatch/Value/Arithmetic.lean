import FrameBatch.Value.Convert

namespace FrameBatch.Value

/-- A number as a datum of 64 bits; a whole number that is too large for one is refused. -/
def toReal : Value → Except Fault Binary
  | .float x => .ok x
  | .int z => whole z
  | .bool b => whole b.toNat
  | v => wrongType ("must be real number, not " ++ v.typeName)
where
  whole (z : Int) : Except Fault Binary :=
    match Format.double.ofInt? z with
    | some x => .ok x
    | none => .error (.failed .overflow "int too large to convert to float")

def plusReal (v : Value) (x : Binary) : Except Fault Value := do
  return .float (Format.double.add (← v.toReal) x)

def whole? : Value → Option Int
  | .bool b => some b.toNat
  | .int z => some z
  | _ => none

/-- The quotient by a number above zero. That of two whole numbers is rounded once. -/
def quotient (a b : Value) : Except Fault Binary :=
  match a.whole?, b.whole? with
  | some m, some n =>
    let q := Format.double.ofQuotient (decide (m < 0)) m.natAbs n.natAbs 0
    if q.isFinite then .ok q
    else .error (.failed .overflow "integer division result too large for a float")
  | _, _ => do return Format.double.div (← a.toReal) (← b.toReal)

end FrameBatch.Value
