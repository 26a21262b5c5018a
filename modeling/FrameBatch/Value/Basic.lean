import FrameBatch.Number.Format

/-!
Values without a fixed shape: what configuration files hold and what callers pass where any value
may come. Mappings keep the order in which their keys came first.
-/

namespace FrameBatch

inductive EngineKind where
  | openvino
  | onnx
  deriving DecidableEq

structure Date where
  year : Nat
  month : Nat
  day : Nat
  deriving DecidableEq

/-- A date with a time of day and, if known, its distance from universal time in seconds. -/
structure Moment where
  date : Date
  hour : Nat
  minute : Nat
  second : Nat
  microsecond : Nat
  offset : Option Int
  deriving DecidableEq

inductive Value where
  | null
  | bool (b : Bool)
  | int (z : Int)
  | float (x : Binary)
  | text (s : String)
  | date (d : Date)
  | moment (m : Moment)
  | engine (k : EngineKind)
  | list (items : List Value)
  | tuple (items : List Value)
  | rect (x y width height : Value)
  | map (entries : List (Value × Value))
  /-- a mapping whose entries can also be read and set as fields -/
  | record (entries : List (Value × Value))
  deriving Inhabited

namespace Value

def isNull : Value → Bool
  | .null => true
  | _ => false

/-- The value as an exact number: truth values count as zero and one. -/
def number? : Value → Option Binary
  | .bool b => some (.ofInt b.toNat)
  | .int z => some (.ofInt z)
  | .float x => some x
  | _ => none

def isTruthy : Value → Bool
  | .null => false
  | .bool b => b
  | .int z => z != 0
  | .float x => !x.isZero
  | .text s => !s.isEmpty
  | .list items => !items.isEmpty
  | .tuple items => !items.isEmpty
  | .map entries => !entries.isEmpty
  | .record entries => !entries.isEmpty
  | _ => true

/-- Equality of scalars by value: `1`, `1.0` and the truth value are equal. -/
def sameScalar (a b : Value) : Bool :=
  match a.number?, b.number? with
  | some x, some y => x.same y
  | none, none =>
    match a, b with
    | .null, .null => true
    | .text s, .text t => s == t
    | .date d, .date e => d == e
    | .moment m, .moment n => m == n
    | .engine k, .engine l => k == l
    | _, _ => false
  | _, _ => false

mutual

/-- Equality by value. Mappings are told apart by the order of their entries. -/
def same : Value → Value → Bool
  | .list xs, .list ys => sameItems xs ys
  | .tuple xs, .tuple ys => sameItems xs ys
  | .tuple xs, .rect x y w h => sameItems xs [x, y, w, h]
  | .rect a b c d, .tuple ys =>
    match ys with
    | [x, y, w, h] => same a x && same b y && same c w && same d h
    | _ => false
  | .rect a b c d, .rect x y w h => same a x && same b y && same c w && same d h
  | .map xs, .map ys => sameEntries xs ys
  | .map xs, .record ys => sameEntries xs ys
  | .record xs, .map ys => sameEntries xs ys
  | .record xs, .record ys => sameEntries xs ys
  | a, b => sameScalar a b

def sameItems : List Value → List Value → Bool
  | [], [] => true
  | x :: xs, y :: ys => same x y && sameItems xs ys
  | _, _ => false

def sameEntries : List (Value × Value) → List (Value × Value) → Bool
  | [], [] => true
  | (k, v) :: xs, (l, w) :: ys => same k l && same v w && sameEntries xs ys
  | _, _ => false

end

instance : BEq Value := ⟨same⟩

/-- The order against a number; none where values of this kind have no order. -/
def compare? (a b : Value) : Option (Option Ordering) :=
  match a.number?, b.number? with
  | some x, some y => some (x.compare? y)
  | _, _ => none

end Value

end FrameBatch
