import FrameBatch.Entries
import FrameBatch.Value.Convert

/-!
JSON texts. Beside the numbers of the format there are the words `NaN`, `Infinity` and `-Infinity`.
A key that comes again keeps its first place and takes the last value.
-/

namespace FrameBatch.Json

inductive Trouble where
  | malformed (problem : String) (rest : List Char)
  | other (f : Fault)

/-- A reading, mostly of what is at the front of some characters, with the rest. -/
abbrev Read := Except Trouble

def bad {α : Type} (problem : String) (rest : List Char) : Read α :=
  .error (.malformed problem rest)

def Trouble.fault (text : List Char) : Trouble → Fault
  | .other f => f
  | .malformed problem rest =>
    let before := text.take (text.length - rest.length)
    let line := before.count '\n' + 1
    let column := (before.reverse.takeWhile (· != '\n')).length + 1
    .failed .json (problem ++ s!": line {line} column {column} (char {before.length})")

def isSpace (c : Char) : Bool := c = ' ' || c = '\t' || c = '\n' || c = '\r'

def skipSpace (cs : List Char) : List Char := cs.dropWhile isSpace

def hexDigit? (c : Char) : Option Nat :=
  if c.isDigit then some (c.toNat - 48)
  else if 'a' ≤ c && c ≤ 'f' then some (c.toNat - 87)
  else if 'A' ≤ c && c ≤ 'F' then some (c.toNat - 55)
  else none

def takeUnit : List Char → Option (Nat × List Char)
  | a :: b :: c :: d :: rest => do
    let high := (← hexDigit? a) * 16 + (← hexDigit? b)
    let low := (← hexDigit? c) * 16 + (← hexDigit? d)
    return (high * 256 + low, rest)
  | _ => none

/-- The character of a code point; half of a pair reads as the replacement character. -/
def charOf (code : Nat) : Char := if h : code.isValidChar then Char.ofNatAux code h else '\uFFFD'

/-- The second half of a pair of units, written right after the first and not at the very end. -/
def takeLowUnit (cs : List Char) : Option (Nat × List Char) :=
  match cs with
  | '\\' :: 'u' :: rest => do
    let (unit, rest) ← takeUnit rest
    if 0xDC00 ≤ unit && unit ≤ 0xDFFF && !rest.isEmpty then some (unit, rest) else none
  | _ => none

def takeCode (cs : List Char) : Option (Char × List Char) := do
  let (unit, rest) ← takeUnit cs
  if 0xD800 ≤ unit && unit ≤ 0xDBFF then
    match takeLowUnit rest with
    | some (low, rest) => return (charOf (0x10000 + (unit - 0xD800) * 1024 + (low - 0xDC00)), rest)
    | none => return (charOf unit, rest)
  else return (charOf unit, rest)

def escapes : List (Char × Char) := [
  ('"', '"'), ('\\', '\\'), ('/', '/'), ('b', '\x08'), ('f', '\x0C'), ('n', '\n'), ('r', '\r'),
  ('t', '\t')]

def takeEscapedCode (cs : List Char) : Read (Char × List Char) :=
  match takeCode cs with
  | some found => if 4 < cs.length then .ok found else bad "Invalid \\uXXXX escape" ('u' :: cs)
  | none => bad "Invalid \\uXXXX escape" ('u' :: cs)

def stringRest (start : List Char) : Nat → List Char → Read (List Char × List Char)
  | 0, _ => bad "Unterminated string starting at" start
  | fuel + 1, cs => do
    let more (c : Char) (rest : List Char) : Read (List Char × List Char) := do
      let (text, rest) ← stringRest start fuel rest
      return (c :: text, rest)
    match cs with
    | [] | ['\\'] => bad "Unterminated string starting at" start
    | '"' :: rest => return ([], rest)
    | '\\' :: 'u' :: rest =>
      let (c, rest) ← takeEscapedCode rest
      more c rest
    | '\\' :: c :: rest =>
      match escapes.lookup c with
      | some meant => more meant rest
      | none => bad "Invalid \\escape" cs
    | c :: rest => if c.toNat < 0x20 then bad "Invalid control character at" cs else more c rest

def takeString (start : List Char) : Read (String × List Char) := do
  let (text, rest) ← stringRest start start.length (start.drop 1)
  return (String.ofList text, rest)

def takeWord (word : String) (cs : List Char) : Option (List Char) :=
  if word.toList.isPrefixOf cs then some (cs.drop word.length) else none

def takeFraction (cs : List Char) : List Char × List Char :=
  match cs with
  | '.' :: rest =>
    let digits := rest.takeWhile Char.isDigit
    if digits.isEmpty then ([], cs) else (digits, rest.dropWhile Char.isDigit)
  | _ => ([], cs)

def takePower (cs : List Char) : Option Int × List Char :=
  match cs with
  | e :: rest =>
    let (negative, digits) := Numeral.takeSign rest
    let run := digits.takeWhile Char.isDigit
    if (e = 'e' || e = 'E') && !run.isEmpty then
      let n : Int := Numeral.ofDigits run
      (some (if negative then -n else n), digits.dropWhile Char.isDigit)
    else (none, cs)
  | [] => (none, cs)

/-- The number at the front: a whole one unless it has a fraction or a power. -/
def takeNumber (cs : List Char) : Read (Value × List Char) :=
  let (negative, unsigned) := match cs with
    | '-' :: rest => (true, rest)
    | _ => (false, cs)
  let whole := match unsigned with
    | '0' :: _ => ['0']
    | _ => unsigned.takeWhile Char.isDigit
  if whole.isEmpty then bad "Expecting value" cs
  else
    let (fraction, rest) := takeFraction (unsigned.drop whole.length)
    let (power, rest) := takePower rest
    if fraction.isEmpty && power.isNone then
      match (Value.text (String.ofList whole)).toInt with
      | .ok z => .ok (.int (if negative then -z else z), rest)
      | .error f => .error (.other f)
    else .ok (.float (Numeral.ofParts negative whole fraction (power.getD 0)), rest)

def words : List (String × Value) := [
  ("null", .null), ("true", .bool true), ("false", .bool false), ("NaN", .float .nan),
  ("Infinity", .float (.infinite false)), ("-Infinity", .float (.infinite true))]

def takeWordValue (cs : List Char) : Option (Value × List Char) :=
  words.findSome? fun (word, v) => (takeWord word cs).map (v, ·)

mutual

def takeValue : Nat → List Char → Read (Value × List Char)
  | 0, cs => bad "Expecting value" cs
  | fuel + 1, cs =>
    match cs with
    | '"' :: _ => do
      let (s, rest) ← takeString cs
      return (.text s, rest)
    | '[' :: rest =>
      match skipSpace rest with
      | ']' :: rest => .ok (.list [], rest)
      | rest => do
        let (items, rest) ← takeItems fuel rest
        return (.list items, rest)
    | '\x7b' :: rest =>
      match skipSpace rest with
      | '\x7d' :: rest => .ok (.map [], rest)
      | rest => do
        let (entries, rest) ← takeEntries fuel rest
        return (.map (Entries.ofList entries), rest)
    | _ =>
      match takeWordValue cs with
      | some found => .ok found
      | none => takeNumber cs

def takeItems : Nat → List Char → Read (List Value × List Char)
  | 0, cs => bad "Expecting value" cs
  | fuel + 1, cs => do
    let (v, rest) ← takeValue fuel cs
    match skipSpace rest with
    | ']' :: rest => return ([v], rest)
    | ',' :: rest =>
      let (more, rest) ← takeItems fuel (skipSpace rest)
      return (v :: more, rest)
    | rest => bad "Expecting ',' delimiter" rest

def takeEntries : Nat → List Char → Read (List (Value × Value) × List Char)
  | 0, cs => bad "Expecting value" cs
  | fuel + 1, cs =>
    match cs with
    | '"' :: _ => do
      let (k, rest) ← takeString cs
      match skipSpace rest with
      | ':' :: rest =>
        let (v, rest) ← takeValue fuel (skipSpace rest)
        match skipSpace rest with
        | '\x7d' :: rest => return ([(.text k, v)], rest)
        | ',' :: rest =>
          let (more, rest) ← takeEntries fuel (skipSpace rest)
          return ((.text k, v) :: more, rest)
        | rest => bad "Expecting ',' delimiter" rest
      | rest => bad "Expecting ':' delimiter" rest
    | _ => bad "Expecting property name enclosed in double quotes" cs

end

/-- The value that is all of a text. At most two steps of the nesting go over a character. -/
def whole (cs : List Char) : Read Value := do
  if cs.head? = some '\uFEFF' then bad "Unexpected UTF-8 BOM (decode using utf-8-sig)" cs
  let (v, rest) ← takeValue (2 * cs.length + 2) (skipSpace cs)
  let rest := skipSpace rest
  if rest.isEmpty then return v else bad "Extra data" rest

def load (text : String) : Except Fault Value := (whole text.toList).mapError (·.fault text.toList)

end FrameBatch.Json
