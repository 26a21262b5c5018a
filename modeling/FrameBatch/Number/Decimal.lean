import FrameBatch.Number.Format

namespace FrameBatch

/-- The number `digits · 10^exponent`. -/
structure Decimal where
  digits : Nat
  exponent : Int
  deriving DecidableEq, Inhabited

namespace Decimal

def compareScaled (a : Nat) (i : Int) (n : Nat) (j : Int) : Ordering :=
  compare ((a * Nat.pow 10 i.toNat) <<< (-j).toNat) (n <<< j.toNat * Nat.pow 10 (-i).toNat)

/-- Whether the decimal lies among the reals that round to `m · 2^e`. Below a power of two the gap
is half as wide, and the ends belong to an even mantissa. -/
def readsBack (f : Format) (m : Nat) (e : Int) (d : Decimal) : Bool :=
  let narrow := m == 1 <<< (f.precision - 1) && f.minExponent < e
  let low := if narrow then 4 * m - 1 else 4 * m - 2
  let atLow := compareScaled d.digits d.exponent low (e - 2)
  let atHigh := compareScaled d.digits d.exponent (4 * m + 2) (e - 2)
  let even := m % 2 == 0
  (atLow == .gt || even && atLow == .eq) && (atHigh == .lt || even && atHigh == .eq)

/-- The least `k` with `m · 2^e < 10^k`, for a positive `m`. The estimate is low by one at most. -/
def scaleOf (m : Nat) (e : Int) : Int :=
  let estimate := (e + m.log2) * 30103 / 100000
  let above (k : Int) := compareScaled 1 k m e == .gt
  if above estimate then estimate
  else if above (estimate + 1) then estimate + 1
  else estimate + 2

def gridFloor (m : Nat) (e grid : Int) : Nat :=
  (m <<< e.toNat * Nat.pow 10 (-grid).toNat) / (Nat.pow 10 grid.toNat <<< (-e).toNat)

/-- Of the two neighbours of `m · 2^e` on a grid the nearer that reads back; a tie goes to the even
one. -/
def onGrid? (f : Format) (m : Nat) (e grid : Int) : Option Decimal :=
  let below : Decimal := ⟨gridFloor m e grid, grid⟩
  let above : Decimal := ⟨below.digits + 1, grid⟩
  match readsBack f m e below, readsBack f m e above with
  | true, true =>
    match compareScaled (2 * below.digits + 1) grid (2 * m) e with
    | .lt => some above
    | .gt => some below
    | .eq => some (if below.digits % 2 = 0 then below else above)
  | true, false => some below
  | false, true => some above
  | false, false => none

def exact (m : Nat) (e : Int) : Decimal :=
  if 0 ≤ e then ⟨m <<< e.toNat, 0⟩ else ⟨m * Nat.pow 5 (-e).toNat, e⟩

/-- The decimal of the fewest digits that reads back as `m · 2^e`. -/
def shortest (f : Format) (m : Nat) (e : Int) : Decimal :=
  let scale := scaleOf m e
  ((List.range 17).findSome? fun n => onGrid? f m e (scale - (n + 1 : Nat))).getD (exact m e)

def stripZeros : List Char → List Char × Nat
  | [] => ([], 0)
  | c :: cs =>
    match stripZeros cs with
    | ([], zeros) => if c = '0' then ([], zeros + 1) else ([c], zeros)
    | (kept, zeros) => (c :: kept, zeros)

/-- A decimal is written positionally when its leading digit stands for `10^-4` to `10^15`, and with
a signed exponent of two digits or more otherwise. -/
def text (d : Decimal) : String :=
  let (digits, zeros) := stripZeros (Nat.toDigits 10 d.digits)
  let exponent := d.exponent + zeros
  let lead := exponent + digits.length - 1
  let written : List Char :=
    if -4 ≤ lead && lead < 16 then
      if 0 ≤ exponent then digits ++ List.replicate exponent.toNat '0' ++ ['.', '0']
      else if 0 ≤ lead then
        digits.take (lead + 1).toNat ++ '.' :: digits.drop (lead + 1).toNat
      else '0' :: '.' :: List.replicate (-lead - 1).toNat '0' ++ digits
    else
      let power := Nat.toDigits 10 lead.natAbs
      digits.take 1 ++ (if digits.length = 1 then [] else '.' :: digits.drop 1)
        ++ ['e', if lead < 0 then '-' else '+']
        ++ (if power.length = 1 then '0' :: power else power)
  String.ofList written

end Decimal

namespace Binary

def text : Binary → String
  | .nan => "nan"
  | .infinite s => if s then "-inf" else "inf"
  | .finite s 0 _ => if s then "-0.0" else "0.0"
  | .finite s m e =>
    (if s then "-" else "") ++ (Decimal.shortest .double m e).text

def textOfTwoPlaces : Binary → String
  | .nan => "nan"
  | .infinite s => if s then "-inf" else "inf"
  | .finite s m e =>
    let hundredths := if 0 ≤ e then (m * 100) <<< e.toNat else halfEven (m * 100) (1 <<< (-e).toNat)
    let places := Nat.toDigits 10 (hundredths % 100)
    (if s then "-" else "") ++ toString (hundredths / 100) ++ "."
      ++ String.ofList (if places.length = 1 then '0' :: places else places)

end Binary

/-- The datum nearest to `(-1)^negative · digits · 10^exponent`. Exponents far outside the range of
every width are cut off. -/
def Format.ofDecimal (f : Format) (negative : Bool) (digits : Nat) (exponent : Int) : Binary :=
  let size := exponent + (digits.log2 * 30103 / 100000 : Nat)
  if digits = 0 || size < -400 then f.round (.finite negative 0 0)
  else if 400 < size then .infinite negative
  else if 0 ≤ exponent then f.round (.finite negative (digits * Nat.pow 10 exponent.toNat) 0)
  else f.ofQuotient negative digits (Nat.pow 10 (-exponent).toNat) 0

end FrameBatch
