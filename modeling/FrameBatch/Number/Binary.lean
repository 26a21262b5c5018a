/-!
Binary floating-point data as exact values: a sign and `mantissa · 2^exponent`, or an infinity, or
not a number. Sums and products here are exact; `Format.round` brings them back to a storage width.
-/

namespace FrameBatch

/-- A floating-point datum. `finite s m e` stands for `(-1)^s · m · 2^e`. -/
inductive Binary where
  | nan
  | infinite (negative : Bool)
  | finite (negative : Bool) (mantissa : Nat) (exponent : Int)
  deriving DecidableEq, Inhabited

/-- The quotient rounded to the nearest natural number, a half going to the even neighbour. -/
def halfEven (num den : Nat) : Nat :=
  let q := num / den
  let r := num % den
  if 2 * r < den then q
  else if den < 2 * r then q + 1
  else q + q % 2

namespace Binary

def ofInt (z : Int) : Binary := .finite (decide (z < 0)) z.natAbs 0

def isNaN : Binary → Bool
  | .nan => true
  | _ => false

def isFinite : Binary → Bool
  | .finite .. => true
  | _ => false

def isZero : Binary → Bool
  | .finite _ m _ => m == 0
  | _ => false

def negative : Binary → Bool
  | .nan => false
  | .infinite s => s
  | .finite s _ _ => s

def neg : Binary → Binary
  | .nan => .nan
  | .infinite s => .infinite (!s)
  | .finite s m e => .finite (!s) m e

/-- The mantissa with its sign, scaled down to the exponent `e`, which is at most its own. -/
def scaledTo (negative : Bool) (mantissa : Nat) (exponent e : Int) : Int :=
  let m := mantissa <<< (exponent - e).toNat
  if negative then -(m : Int) else m

/-- The exact product. Zero times infinity is not a number. -/
def mul : Binary → Binary → Binary
  | .nan, _ => .nan
  | _, .nan => .nan
  | .infinite s, .infinite t => .infinite (s != t)
  | .infinite s, .finite t m _ => if m = 0 then .nan else .infinite (s != t)
  | .finite s m _, .infinite t => if m = 0 then .nan else .infinite (s != t)
  | .finite s m e, .finite t n f => .finite (s != t) (m * n) (e + f)

/-- The exact sum. A zero sum is negative only if both terms are. -/
def add : Binary → Binary → Binary
  | .nan, _ => .nan
  | _, .nan => .nan
  | .infinite s, .infinite t => if s = t then .infinite s else .nan
  | .infinite s, .finite .. => .infinite s
  | .finite .., .infinite t => .infinite t
  | .finite s m e, .finite t n f =>
    let low := min e f
    let z := scaledTo s m e low + scaledTo t n f low
    if z = 0 then .finite (s && t) 0 low else .finite (decide (z < 0)) z.natAbs low

def sub (x y : Binary) : Binary := x.add y.neg

/-- The order of the values; nothing compares with a datum that is not a number. -/
def compare? : Binary → Binary → Option Ordering
  | .nan, _ => none
  | _, .nan => none
  | .infinite s, .infinite t => some (compare t.toNat s.toNat)
  | .infinite s, .finite .. => some (if s then .lt else .gt)
  | .finite .., .infinite t => some (if t then .gt else .lt)
  | .finite s m e, .finite t n f =>
    let low := min e f
    some (compare (scaledTo s m e low) (scaledTo t n f low))

def lt (x y : Binary) : Bool := x.compare? y == some .lt

def le (x y : Binary) : Bool := x.compare? y == some .lt || x.compare? y == some .eq

/-- Equality of values: the zeros are equal, and nothing equals a datum that is not a number. -/
def same (x y : Binary) : Bool := x.compare? y == some .eq

def truncate? : Binary → Option Int
  | .finite s m e =>
    let n := if 0 ≤ e then m <<< e.toNat else m >>> (-e).toNat
    some (if s then -(n : Int) else n)
  | _ => none

def floor? : Binary → Option Int
  | .finite s m e =>
    some (if 0 ≤ e then scaledTo s m e 0 else scaledTo s m e e / (1 <<< (-e).toNat : Nat))
  | _ => none

/-- The nearest integer, a half going to the even neighbour. -/
def nearest? : Binary → Option Int
  | .finite s m e =>
    let n := if 0 ≤ e then m <<< e.toNat else halfEven m (1 <<< (-e).toNat)
    some (if s then -(n : Int) else n)
  | _ => none

theorem scaledTo_ofInt (z : Int) : scaledTo (decide (z < 0)) z.natAbs 0 0 = z := by
  have unshifted : z.natAbs <<< ((0 : Int) - 0).toNat = z.natAbs := by simp
  simp only [scaledTo, unshifted, decide_eq_true_eq]
  split <;> omega

theorem compare?_ofInt (a b : Int) : (ofInt a).compare? (ofInt b) = some (compare a b) := by
  simp only [ofInt, compare?, Int.min_self, scaledTo_ofInt]

theorem lt_ofInt (a b : Int) : (ofInt a).lt (ofInt b) = decide (a < b) := by
  simp only [lt, compare?_ofInt, ← Int.compare_eq_lt]
  cases compare a b <;> rfl

theorem le_ofInt (a b : Int) : (ofInt a).le (ofInt b) = decide (a ≤ b) := by
  simp only [le, compare?_ofInt, ← Int.compare_ne_gt]
  cases compare a b <;> rfl

theorem truncate?_isSome (x : Binary) : x.truncate?.isSome = x.isFinite := by
  cases x <;> rfl

end Binary

end FrameBatch
