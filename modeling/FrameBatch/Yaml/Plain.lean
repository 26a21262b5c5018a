import FrameBatch.Text.Numeral
import FrameBatch.Value.Basic

namespace FrameBatch.Yaml.Plain

def nullWords : List String := ["", "~", "null", "Null", "NULL"]

def boolWords : List String := [
  "yes", "Yes", "YES", "no", "No", "NO", "true", "True", "TRUE", "false", "False", "FALSE",
  "on", "On", "ON", "off", "Off", "OFF"]

def isNumberChar (c : Char) : Bool := c.isDigit || c = '_'

def dropSign : List Char → List Char
  | '+' :: cs => cs
  | '-' :: cs => cs
  | cs => cs

/-- One or two digits below sixty. -/
def isSixtieth (cs : List Char) : Bool :=
  match cs with
  | [a] => a.isDigit
  | [a, b] => a.isDigit && a.toNat < '6'.toNat && b.isDigit
  | _ => false

def colonParts (cs : List Char) : List (List Char) :=
  ((String.ofList cs).splitOn ":").map String.toList

/-- Digits of any base, a binary or hexadecimal number, or a count in base sixty. -/
def isInt (cs : List Char) : Bool :=
  let unsigned := dropSign cs
  match unsigned with
  | '0' :: 'b' :: rest => !rest.isEmpty && rest.all fun c => c = '0' || c = '1' || c = '_'
  | '0' :: 'x' :: rest =>
    !rest.isEmpty && rest.all fun c =>
      isNumberChar c || ('a' ≤ c && c ≤ 'f') || ('A' ≤ c && c ≤ 'F')
  | '0' :: rest => rest.all fun c => ('0' ≤ c && c ≤ '7') || c = '_'
  | _ =>
    match colonParts unsigned with
    | (first :: more) :: parts =>
      first.isDigit && first ≠ '0' && more.all isNumberChar && parts.all isSixtieth
    | _ => false

def isPower : List Char → Bool
  | [] => true
  | e :: sign :: digits =>
    (e = 'e' || e = 'E') && (sign = '+' || sign = '-') && !digits.isEmpty && digits.all Char.isDigit
  | _ => false

def startsWithDigit (cs : List Char) : Bool := cs.head?.any Char.isDigit

/-- A number with a point, which may be in base sixty, an infinity, or no number. -/
def isFloat (cs : List Char) : Bool :=
  let unsigned := dropSign cs
  let word := String.ofList unsigned
  let whole := unsigned.takeWhile (· != '.')
  let fraction := unsigned.dropWhile (· != '.')
  let places := fraction.drop 1
  let power := places.dropWhile isNumberChar
  if [".inf", ".Inf", ".INF"].contains word then true
  else if [".nan", ".NaN", ".NAN"].contains (String.ofList cs) then true
  else if fraction.isEmpty then false
  else if whole.isEmpty then unsigned.length == cs.length && startsWithDigit places && isPower power
  else if whole.contains ':' then
    match colonParts whole with
    | first :: parts =>
      startsWithDigit first && first.all isNumberChar && parts.all isSixtieth && power.isEmpty
    | [] => false
  else startsWithDigit whole && whole.all isNumberChar && isPower power

structure TimeParts where
  year : Nat
  month : Nat
  day : Nat
  /-- hour, minute, second and the digits of its fraction -/
  clock : Option (Nat × Nat × Nat × List Char)
  offset : Option Int

def takeDigits (least most : Nat) (cs : List Char) : Option (Nat × List Char) :=
  let digits := (cs.take most).takeWhile Char.isDigit
  if digits.length < least then none
  else some (Numeral.ofDigits digits, cs.drop digits.length)

def takeChar (c : Char) : List Char → Option (List Char)
  | d :: cs => if d = c then some cs else none
  | [] => none

def isGap (c : Char) : Bool := c = ' ' || c = '\t'

def zoneOf (cs : List Char) : Option (Option Int) :=
  match cs.dropWhile isGap with
  | [] => if cs.isEmpty then some none else none
  | ['Z'] => some (some 0)
  | sign :: rest => do
    if sign ≠ '+' && sign ≠ '-' then none
    let (hours, rest) ← takeDigits 1 2 rest
    let minutes ← match rest with
      | [] => some 0
      | ':' :: rest => do
        let (minutes, rest) ← takeDigits 2 2 rest
        if rest.isEmpty then some minutes else none
      | _ => none
    let seconds : Int := hours * 3600 + minutes * 60
    return some (if sign = '-' then -seconds else seconds)

def clockOf (cs : List Char) : Option ((Nat × Nat × Nat × List Char) × Option Int) := do
  let rest ← match cs with
    | 'T' :: rest => some rest
    | 't' :: rest => some rest
    | c :: rest => if isGap c then some (rest.dropWhile isGap) else none
    | [] => none
  let (hour, rest) ← takeDigits 1 2 rest
  let (minute, rest) ← takeDigits 2 2 (← takeChar ':' rest)
  let (second, rest) ← takeDigits 2 2 (← takeChar ':' rest)
  let (fraction, rest) := match rest with
    | '.' :: rest => (rest.takeWhile Char.isDigit, rest.dropWhile Char.isDigit)
    | rest => ([], rest)
  return ((hour, minute, second, fraction), ← zoneOf rest)

def timeParts? (s : String) : Option TimeParts := do
  let (year, rest) ← takeDigits 4 4 s.toList
  let (month, rest) ← takeDigits 1 2 (← takeChar '-' rest)
  let (day, rest) ← takeDigits 1 2 (← takeChar '-' rest)
  match rest with
  | [] => return { year, month, day, clock := none, offset := none }
  | rest =>
    let (clock, offset) ← clockOf rest
    return { year, month, day, clock, offset }

/-- Whether a plain scalar is a time. A date alone needs two digits for month and day. -/
def isTime (s : String) : Bool :=
  match timeParts? s with
  | some parts => parts.clock.isSome || s.length = 10
  | none => false

def tagOf (name : String) : String := "tag:yaml.org,2002:" ++ name

/-- A text without the line break at its end. A line break alone stays. -/
def withoutLastBreak (s : String) : String :=
  match s.toList.reverse with
  | '\n' :: c :: cs => String.ofList (c :: cs).reverse
  | _ => s

/-- The tag of a plain scalar; a line break at the end of the text makes no difference. -/
def tag (text : String) : String :=
  let s := withoutLastBreak text
  let cs := s.toList
  tagOf <|
    if nullWords.contains s then "null"
    else if boolWords.contains s then "bool"
    else if isFloat cs then "float"
    else if isInt cs then "int"
    else if s = "<<" then "merge"
    else if isTime s then "timestamp"
    else if s = "=" then "value"
    else if ["!", "&", "*"].contains s then "yaml"
    else "str"

end FrameBatch.Yaml.Plain
