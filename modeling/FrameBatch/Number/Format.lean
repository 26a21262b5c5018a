import FrameBatch.Number.Binary

/-!
Storage widths of floating-point data. Rounding goes to the nearest datum of the width, a tie to the
one with the even mantissa, and past the largest one to infinity.
-/

namespace FrameBatch

/-- A width: significant bits, and the exponents of the least and of the greatest unit. -/
structure Format where
  precision : Nat
  minExponent : Int
  maxExponent : Int
  exponentBits : Nat
  deriving DecidableEq

namespace Format

def half : Format := ⟨11, -24, 5, 5⟩
def single : Format := ⟨24, -149, 104, 8⟩
def double : Format := ⟨53, -1074, 971, 11⟩

def unit (f : Format) (mantissa : Nat) (exponent : Int) : Int :=
  max (exponent + (mantissa.log2 + 1 : Nat) - f.precision) f.minExponent

def unitsOf (mantissa : Nat) (exponent unit : Int) : Nat :=
  if unit ≤ exponent then mantissa <<< (exponent - unit).toNat
  else halfEven mantissa (1 <<< (unit - exponent).toNat)

/-- A whole number of units, which a carry may have made one bit too long, as a datum. -/
def pack (f : Format) (negative : Bool) (m : Nat) (unit : Int) : Binary :=
  let carried := m == 1 <<< f.precision
  let m' := if carried then m >>> 1 else m
  let unit' := if carried then unit + 1 else unit
  if f.maxExponent < unit' then .infinite negative else .finite negative m' unit'

def round (f : Format) : Binary → Binary
  | .nan => .nan
  | .infinite s => .infinite s
  | .finite s 0 _ => .finite s 0 f.minExponent
  | .finite s m e => f.pack s (unitsOf m e (f.unit m e)) (f.unit m e)

/-- The datum nearest to `num / den · 2^exponent`. Three spare bits and a mark for a remainder decide
the rounding. -/
def ofQuotient (f : Format) (negative : Bool) (num den : Nat) (exponent : Int) : Binary :=
  let shift := f.precision + 3 + den.log2 - num.log2
  let n := num <<< shift
  let mark := if n % den = 0 then 0 else 1
  f.round (.finite negative (2 * (n / den) + mark) (exponent - shift - 1))

def add (f : Format) (x y : Binary) : Binary := f.round (x.add y)
def sub (f : Format) (x y : Binary) : Binary := f.round (x.sub y)
def mul (f : Format) (x y : Binary) : Binary := f.round (x.mul y)

def div (f : Format) : Binary → Binary → Binary
  | .nan, _ => .nan
  | _, .nan => .nan
  | .infinite s, .finite t _ _ => .infinite (s != t)
  | .infinite _, .infinite _ => .nan
  | .finite s _ _, .infinite t => .finite (s != t) 0 f.minExponent
  | .finite s m e, .finite t n g =>
    if n = 0 then (if m = 0 then .nan else .infinite (s != t))
    else f.ofQuotient (s != t) m n (e - g)

/-- The datum nearest to an integer; none if it lies past the largest one. -/
def ofInt? (f : Format) (z : Int) : Option Binary :=
  let x := f.round (.ofInt z)
  if x.isFinite then some x else none

def zero (f : Format) : Binary := f.round (.ofInt 0)
def one (f : Format) : Binary := f.round (.ofInt 1)

/-- Bits of a datum of the width: sign, stored exponent and stored mantissa. -/
def toBits (f : Format) (x : Binary) : Nat :=
  let fieldWidth := f.precision - 1
  let top := 1 <<< f.exponentBits
  let sign (s : Bool) := if s then top <<< fieldWidth else 0
  match x with
  | .nan => (top - 1) <<< fieldWidth + 1 <<< (fieldWidth - 1)
  | .infinite s => sign s + (top - 1) <<< fieldWidth
  | .finite s m e =>
    if m < 1 <<< fieldWidth then sign s + m
    else sign s + ((e - f.minExponent).toNat + 1) <<< fieldWidth + (m - 1 <<< fieldWidth)

def ofBits (f : Format) (bits : Nat) : Binary :=
  let fieldWidth := f.precision - 1
  let top := 1 <<< f.exponentBits
  let stored := bits % (1 <<< fieldWidth)
  let exponent := bits >>> fieldWidth % top
  let negative := bits >>> (fieldWidth + f.exponentBits) % 2 == 1
  if exponent = top - 1 then (if stored = 0 then .infinite negative else .nan)
  else if exponent = 0 then .finite negative stored f.minExponent
  else .finite negative (stored + 1 <<< fieldWidth) (f.minExponent + (exponent - 1 : Nat))

def bytes (f : Format) : Nat := (f.precision + f.exponentBits) / 8

end Format

end FrameBatch
