import FrameBatch.Number.Decimal
import FrameBatch.Text.Blank
import FrameBatch.Text.DecimalDigit

namespace FrameBatch.Numeral

def maxDigits : Nat := 4300

/-- Digits of other scripts become ASCII ones, and blanks become spaces. -/
def normalize (cs : List Char) : List Char :=
  cs.map fun c =>
    if c.toNat < 128 then c
    else if Text.isBlank c then ' '
    else match Text.digitValue? c with
      | some d => Nat.digitChar d
      | none => c

/-- A space, or an ASCII control that moves the carriage. -/
def isSpace (c : Char) : Bool := c = ' ' || (9 ≤ c.toNat && c.toNat ≤ 13)

def body (s : String) : List Char := Text.trim isSpace (normalize s.toList)

def takeSign : List Char → Bool × List Char
  | '-' :: cs => (true, cs)
  | '+' :: cs => (false, cs)
  | cs => (false, cs)

def dropUnderscores : List Char → Option (List Char)
  | [] => some []
  | ['_'] => none
  | '_' :: c :: cs => if c = '_' then none else dropUnderscores (c :: cs)
  | c :: cs => (dropUnderscores cs).map (c :: ·)

def ofDigits (cs : List Char) : Nat := cs.foldl (fun n c => 10 * n + (c.toNat - 48)) 0

inductive Problem where
  | malformed
  | tooLong (digits : Nat)
  deriving DecidableEq

def readInt (s : String) : Except Problem Int :=
  let (negative, unsigned) := takeSign (body s)
  match unsigned with
  | [] => .error .malformed
  | '_' :: _ => .error .malformed
  | _ =>
    match dropUnderscores unsigned with
    | none => .error .malformed
    | some digits =>
      if !digits.all Char.isDigit then .error .malformed
      else if maxDigits < digits.length then .error (.tooLong digits.length)
      else .ok (if negative then -(ofDigits digits : Int) else ofDigits digits)

def takeMantissa (cs : List Char) : List Char × List Char × List Char :=
  let whole := cs.takeWhile Char.isDigit
  match cs.dropWhile Char.isDigit with
  | '.' :: rest => (whole, rest.takeWhile Char.isDigit, rest.dropWhile Char.isDigit)
  | rest => (whole, [], rest)

def takePower : List Char → Option Int
  | [] => some 0
  | e :: rest =>
    let (negative, digits) := takeSign rest
    if (e = 'e' || e = 'E') && !digits.isEmpty && digits.all Char.isDigit then
      some (if negative then -(ofDigits digits : Int) else ofDigits digits)
    else none

def underscoresBetweenDigits : Option Char → List Char → Bool
  | _, [] => true
  | before, '_' :: rest =>
    before.any Char.isDigit && rest.head?.any Char.isDigit
      && underscoresBetweenDigits (some '_') rest
  | _, c :: rest => underscoresBetweenDigits (some c) rest

def ofParts (negative : Bool) (whole fraction : List Char) (power : Int) : Binary :=
  Format.double.ofDecimal negative (ofDigits (whole ++ fraction)) (power - fraction.length)

def readFloat? (s : String) : Option Binary :=
  let (negative, unsigned) := takeSign (body s)
  let word := String.ofList (unsigned.map Char.toLower)
  if word = "nan" then some .nan
  else if word = "inf" || word = "infinity" then some (.infinite negative)
  else if !underscoresBetweenDigits none unsigned then none
  else
    let (whole, fraction, rest) := takeMantissa (unsigned.filter (· != '_'))
    if whole.isEmpty && fraction.isEmpty then none
    else (takePower rest).map (ofParts negative whole fraction)

end FrameBatch.Numeral
