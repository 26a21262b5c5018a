import FrameBatch.Text.Case
import FrameBatch.Value.Convert
import FrameBatch.Yaml.Node

/-!
Values of nodes. Nodes are valued level by level, so of several faults the one on the outermost
level counts, and there the first. Merged entries of a mapping come before its own.
-/

namespace FrameBatch.Yaml

/-- A value, or a fault with the level on which it is met. -/
abbrev Valued (α : Type) := Except (Nat × Fault) α

namespace Valued

def firstOf (a b : Nat × Fault) : Nat × Fault := if b.1 < a.1 then b else a

/-- Both of two values; of two faults the one that is met first. -/
def both {α β : Type} : Valued α → Valued β → Valued (α × β)
  | .ok a, .ok b => .ok (a, b)
  | .ok _, .error g => .error g
  | .error f, .ok _ => .error f
  | .error f, .error g => .error (firstOf f g)

def all {α : Type} : List (Valued α) → Valued (List α)
  | [] => .ok []
  | v :: rest => (both v (all rest)).map fun (a, as) => a :: as

end Valued

def constructFault {α : Type} (subject : Option Subject) (problem : String) (m : Mark) :
    Except Fault α :=
  .error (complaint .constructor subject problem m)

namespace Node

def tag : Node → String
  | .scalar _ tag _ | .sequence _ tag _ | .mapping _ tag _ => tag
  | .endless _ => ""

def noun : Node → String
  | .scalar .. => "scalar"
  | .sequence .. => "sequence"
  | _ => "mapping"

def isScalar : Node → Bool
  | .scalar .. => true
  | _ => false

mutual

def depth : Node → Nat
  | .sequence _ _ items => itemsDepth items + 1
  | .mapping _ _ entries => entriesDepth entries + 1
  | _ => 1

def itemsDepth : List Node → Nat
  | [] => 0
  | n :: rest => max (depth n) (itemsDepth rest)

def entriesDepth : List (Node × Node) → Nat
  | [] => 0
  | (k, v) :: rest => max (max (depth k) (depth v)) (entriesDepth rest)

end

def noScalar (n : Node) : Except Fault String :=
  constructFault none ("expected a scalar node, but found " ++ n.noun) n.start

/-- The text of a scalar; that of a mapping with a default value is the default's. -/
def text : Nat → Node → Except Fault String
  | 0, n => n.noScalar
  | fuel + 1, n =>
    match n with
    | .scalar _ _ text => .ok text
    | .mapping _ _ entries =>
      match entries.find? fun (k, _) => k.tag == Plain.tagOf "value" with
      | some (_, v) => v.text fuel
      | none => n.noScalar
    | _ => n.noScalar

def isMerge (k : Node) : Bool := k.tag == Plain.tagOf "merge"

/-- A key that is no merge; the sign for a default value is a text as a key. -/
def asKey : Node → Node
  | .scalar start tag text =>
    .scalar start (if tag == Plain.tagOf "value" then Plain.tagOf "str" else tag) text
  | n => n

def recursive {α : Type} (m : Mark) : Except Fault α :=
  constructFault none "found unconstructable recursive node" m

/-- The entries of a mapping that starts at a mark, those of the merged ones first. A mapping that
is merged into itself adds nothing. -/
def merged : Nat → Mark → List (Node × Node) → Except Fault (List (Node × Node))
  | 0, m, _ => recursive m
  | fuel + 1, m, entries => do
    let bad (expected : String) (n : Node) : Except Fault (List (Node × Node)) :=
      constructFault (Subject.constructing "a mapping" m) (expected ++ n.noun) n.start
    let parts ← entries.mapM fun (k, v) => do
      if k.isMerge then
        match v with
        | .mapping start _ others => merged fuel start others
        | .sequence _ _ items =>
          let groups ← items.mapM fun item =>
            match item with
            | .mapping start _ others => merged fuel start others
            | .endless _ => return []
            | _ => bad "expected a mapping for merging, but found " item
          return groups.reverse.flatten
        | .endless _ => return []
        | _ => bad "expected a mapping or list of mappings for merging, but found " v
      else return []
    let own := entries.filter fun (k, _) => !k.isMerge
    return parts.flatten ++ own.map fun (k, v) => (k.asKey, v)

end Node

/-! ### Scalars -/

def readBase (base : Nat) (mark : Char) (cs : List Char) : Except Fault Int :=
  let shown := Text.quoted (String.ofList cs)
  let bad := .error (.failed .value s!"invalid literal for int() with base {base}: {shown}")
  let (negative, unsigned) := Numeral.takeSign (Text.trim Numeral.isSpace cs)
  let digits := match unsigned with
    | '0' :: c :: rest => if c.toLower = mark then rest else unsigned
    | _ => unsigned
  let values := digits.map hexValue
  if digits.isEmpty || !digits.all isHexDigit || values.any (base ≤ ·) then bad
  else
    let n : Nat := values.foldl (fun n d => base * n + d) 0
    .ok (if negative then -(n : Int) else n)

def sexagesimal (parts : List Int) : Int := parts.foldl (fun n part => 60 * n + part) 0

def signed (s : String) : Except Fault (Bool × List Char) :=
  match s.toList.filter (· != '_') with
  | [] => .error (.failed .index "string index out of range")
  | '-' :: cs => .ok (true, cs)
  | '+' :: cs => .ok (false, cs)
  | cs => .ok (false, cs)

def intOf (s : String) : Except Fault Int := do
  let (negative, cs) ← signed s
  let n ← match cs with
    | ['0'] => pure 0
    | '0' :: 'b' :: digits => readBase 2 'b' digits
    | '0' :: 'x' :: digits => readBase 16 'x' digits
    | '0' :: _ => readBase 8 'o' cs
    | [] => .error (.failed .index "string index out of range")
    | _ =>
      let parts ← (Plain.colonParts cs).mapM fun part => (Value.text (String.ofList part)).toInt
      pure (sexagesimal parts)
  return if negative then -n else n

def realOf (s : String) : Except Fault Binary :=
  match Numeral.readFloat? s with
  | some x => .ok x
  | none => .error (.failed .value ("could not convert string to float: " ++ Text.quoted s))

def realSexagesimal (parts : List Binary) : Except Fault Binary := do
  let add (acc : Binary × Int) (part : Binary) : Except Fault (Binary × Int) := do
    match Format.double.ofInt? acc.2 with
    | some base => return (Format.double.add acc.1 (Format.double.mul part base), acc.2 * 60)
    | none => .error (.failed .overflow "int too large to convert to float")
  return (← parts.reverse.foldlM add (Format.double.zero, 1)).1

def floatOf (s : String) : Except Fault Binary := do
  let (negative, cs) ← signed (Text.lower s)
  let word := String.ofList cs
  if word = ".nan" then return .nan
  let x ← if word = ".inf" then pure (.infinite false)
    else if cs.contains ':' then do
      realSexagesimal (← (Plain.colonParts cs).mapM fun part => realOf (String.ofList part))
    else realOf word
  return if negative then x.neg else x

def daysOf (year month : Nat) : Nat :=
  if month = 2 then
    if year % 4 = 0 && (year % 100 ≠ 0 || year % 400 = 0) then 29 else 28
  else if [4, 6, 9, 11].contains month then 30
  else 31

def microseconds (digits : List Char) : Nat :=
  let six := digits.take 6
  Numeral.ofDigits (six ++ List.replicate (6 - six.length) '0')

def badTime {α : Type} (problem : String) : Except Fault α := .error (.failed .value problem)

def dateOf (year month day : Nat) : Except Fault Date :=
  if year = 0 then badTime "year 0 is out of range"
  else if month = 0 || 12 < month then badTime "month must be in 1..12"
  else if day = 0 || daysOf year month < day then badTime "day is out of range for month"
  else .ok ⟨year, month, day⟩

/-- A span of seconds that is at least a day, in whole days and the seconds of the last one. -/
def spanText (seconds : Int) : String :=
  let (days, rest) := (seconds / 86400, seconds % 86400)
  let more := if rest = 0 then "" else s!", seconds={rest}"
  s!"datetime.timedelta(days={days}{more})"

def checkOffset (seconds : Int) : Except Fault Unit :=
  if -86400 < seconds && seconds < 86400 then .ok ()
  else
    let bounds := "strictly between -timedelta(hours=24) and timedelta(hours=24)"
    badTime s!"offset must be a timedelta {bounds}, not {spanText seconds}."

def timeOf (s : String) : Except Fault Value := do
  match Plain.timeParts? (Plain.withoutLastBreak s) with
  | none => .error (.failed .field "'NoneType' object has no attribute 'groupdict'")
  | some p =>
    match p.clock with
    | none => return .date (← dateOf p.year p.month p.day)
    | some (hour, minute, second, fraction) =>
      p.offset.forM checkOffset
      let date ← dateOf p.year p.month p.day
      if 24 ≤ hour then badTime "hour must be in 0..23"
      if 60 ≤ minute then badTime "minute must be in 0..59"
      if 60 ≤ second then badTime "second must be in 0..59"
      return .moment ⟨date, hour, minute, second, microseconds fraction, p.offset⟩

def boolOf (s : String) : Except Fault Bool :=
  let word := Text.lower s
  if ["yes", "true", "on"].contains word then .ok true
  else if ["no", "false", "off"].contains word then .ok false
  else .error (.failed .key word)

def scalarOf (name s : String) : Except Fault Value :=
  match name with
  | "null" => .ok .null
  | "bool" => Value.bool <$> boolOf s
  | "int" => Value.int <$> intOf s
  | "float" => Value.float <$> floatOf s
  | "timestamp" => timeOf s
  | _ => .ok (.text s)

def scalarTags : List String := ["null", "bool", "int", "float", "timestamp", "str"]

/-- The value of a node with one of the tags for scalars. A time is written as a scalar itself. -/
def Node.scalarValue (fuel : Nat) (name : String) (n : Node) : Except Fault Value := do
  let s ← n.text fuel
  if name == "timestamp" && !n.isScalar then
    wrongType "expected string or bytes-like object, got 'list'"
  scalarOf name s

/-! ### Nodes -/

def isKey : Value → Bool
  | .list _ | .map _ | .record _ => false
  | _ => true

def Valued.atLevel {α : Type} (level : Nat) : Except Fault α → Valued α
  | .ok a => .ok a
  | .error f => .error (level, f)

/-- The value of a node on a level. The contents of a collection are on the next one. -/
def Node.value : Nat → Nat → Node → Valued Value
  | 0, level, n => Valued.atLevel level (Node.recursive n.start)
  | fuel + 1, level, n =>
    let inside := level + 1
    let bad {α : Type} (subject : Option Subject) (problem : String) (wrong : Node) : Valued α :=
      Valued.atLevel inside (constructFault subject problem wrong.start)
    let pair (e : Node × Node) : Valued (Value × Value) :=
      let unhashable := bad (Subject.constructing "a mapping" n.start) "found unhashable key" e.1
      match value fuel inside e.1 with
      | .ok key => if isKey key then (value fuel inside e.2).map (key, ·) else unhashable
      | .error f => if f.1 = inside then .error f else unhashable
    let single (subject : Subject) (item : Node) : Valued Value :=
      match item with
      | .mapping _ _ [e] =>
        let both := Valued.both (value fuel inside e.1) (value fuel inside e.2)
        both.map fun (k, v) => .tuple [k, v]
      | .mapping _ _ entries =>
        bad subject s!"expected a single mapping item, but found {entries.length} items" item
      | _ => bad subject ("expected a mapping of length 1, but found " ++ item.noun) item
    let pairs (noun : String) : Valued Value :=
      let subject := Subject.constructing noun n.start
      match n with
      | .sequence _ _ items => (Valued.all (items.map (single subject))).map .list
      | _ => bad subject ("expected a sequence, but found " ++ n.noun) n
    match scalarTags.find? fun name => n.tag == Plain.tagOf name with
    | some name => Valued.atLevel level (n.scalarValue (fuel + 1) name)
    | none =>
      if n.tag = Plain.tagOf "seq" then
        match n with
        | .sequence _ _ items => (Valued.all (items.map (value fuel inside))).map .list
        | _ => bad none ("expected a sequence node, but found " ++ n.noun) n
      else if n.tag = Plain.tagOf "map" then
        match n with
        | .mapping start _ entries => do
          let entries ← Valued.atLevel inside (Node.merged (fuel + 1) start entries)
          let pairs ← Valued.all (entries.map pair)
          return .map (Entries.ofList pairs)
        | _ => bad none ("expected a mapping node, but found " ++ n.noun) n
      else if n.tag = Plain.tagOf "omap" then pairs "an ordered map"
      else if n.tag = Plain.tagOf "pairs" then pairs "pairs"
      else
        let problem := "could not determine a constructor for the tag " ++ Text.quoted n.tag
        Valued.atLevel level (constructFault none problem n.start)

/-- The value of a text; nothing if it holds no document. -/
def load (text : String) : Except Fault Value := do
  match ← Node.ofText? text with
  | none => return .null
  | some n =>
    match n.value (n.depth + 1) 0 with
    | .ok v => return v
    | .error (_, f) => .error f

end FrameBatch.Yaml
