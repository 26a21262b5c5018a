import FrameBatch.Tensor.TypeCode

/-!
Names of array types. A type may be repeated in a shape or be a record of several types; then it is
no element type, and a message shows all its parts.
-/

namespace FrameBatch

inductive TypeForm where
  | single (c : TypeCode)
  | array (base : TypeForm) (shape : List Nat)
  | fields (parts : List (String × TypeForm))
  deriving Inhabited

namespace TypeForm

mutual

def written : TypeForm → String
  | .single c => Text.quoted c.code
  | .array base shape => "(" ++ base.written ++ ", " ++ Text.ofShape shape ++ ")"
  | .fields parts => "[" ++ Text.commaSeparated (writtenFields parts) ++ "]"

def writtenFields : List (String × TypeForm) → List String
  | [] => []
  | (name, t) :: rest => ("(" ++ Text.quoted name ++ ", " ++ inField t ++ ")") :: writtenFields rest

def inField : TypeForm → String
  | .array base shape => base.written ++ ", " ++ Text.ofShape shape
  | .single c => Text.quoted c.code
  | .fields parts => "[" ++ Text.commaSeparated (writtenFields parts) ++ "]"

end

def shown : TypeForm → String
  | .single c => c.shown
  | t => t.written

inductive Repeats where
  | count (n : Nat)
  | shape (dims : List Nat)

def notUnderstood {α : Type} (name : String) : Except Fault α :=
  wrongType ("data type " ++ Text.quoted name ++ " not understood")

/-- A type, repeated. For a type that needs a size, the number of repeats is its size. -/
def repeated : TypeForm → Repeats → Except Fault TypeForm
  | .single ⟨_, _, _, some kind⟩, .count n =>
    match TypeCode.flexible? false kind n with
    | some c => .ok (.single c)
    | none => .error (.failed .value "invalid itemsize in generic type tuple")
  | .single ⟨_, _, _, some _⟩, .shape _ =>
    .error (.failed .value "invalid itemsize in generic type tuple")
  | t, .count 1 | t, .shape [] => .ok t
  | t, .count n => sized t [n]
  | t, .shape dims => sized t dims
where
  sized (t : TypeForm) (dims : List Nat) : Except Fault TypeForm :=
    if dims.any (1 <<< 31 ≤ ·) then .error (.failed .value "invalid shape in fixed-type tuple.")
    else .ok (.array t dims)

/-! ### Names with several parts -/

structure Part where
  first : List Char
  repeats : List Char
  second : List Char
  name : List Char

def isOrder (c : Char) : Bool := ['<', '>', '|', '='].contains c

def takeOne (p : Char → Bool) : List Char → List Char × List Char
  | c :: cs => if p c then ([c], cs) else ([], c :: cs)
  | [] => ([], [])

def takeAll (p : Char → Bool) (cs : List Char) : List Char × List Char :=
  (cs.takeWhile p, cs.dropWhile p)

def takeParameter : List Char → List Char × List Char
  | '[' :: cs =>
    let (inner, rest) := takeAll (fun c => c.isAlphanum || c = ',' || c = '.') cs
    match rest with
    | ']' :: rest => ('[' :: inner ++ [']'], rest)
    | _ => ([], '[' :: cs)
  | cs => ([], cs)

def takePart (cs : List Char) : Part × List Char :=
  let (first, cs) := takeOne isOrder cs
  let (blanks, cs) := takeAll (· = ' ') cs
  let (opening, cs) := takeOne (· = '(') cs
  let (inner, cs) := takeAll (fun c => c = ' ' || c = ',' || c.isDigit) cs
  let (closing, cs) := takeOne (· = ')') cs
  let (blanks', cs) := takeAll (· = ' ') cs
  let (second, cs) := takeOne isOrder cs
  let (word, cs) := takeAll (fun c => c.isAlphanum || c = '.' || c = '?') cs
  let (parameter, cs) := takeParameter cs
  (⟨first, blanks ++ opening ++ inner ++ closing ++ blanks', second, word ++ parameter⟩, cs)

/-- The parts of a name between commas, and whether there is a comma. -/
def takeParts (name : String) : Nat → List Char → Except Fault (List Part × Bool)
  | 0, _ | _, [] => .ok ([], false)
  | fuel + 1, cs => do
    let (part, rest) := takePart cs
    let rest' := rest.dropWhile Numeral.isSpace
    match rest' with
    | [] => return ([part], false)
    | ',' :: more =>
      let (parts, _) ← takeParts name fuel (more.dropWhile Numeral.isSpace)
      return (part :: parts, true)
    | _ => .error (.failed .value ("format of " ++ Text.quoted name ++ " is not recognized"))

def Part.order (p : Part) : Except Fault (List Char) :=
  let plain (order : List Char) := if order = ['='] then ['<'] else order
  let foreign (order : List Char) := if order = ['>'] then order else []
  if p.second.isEmpty then .ok (foreign p.first)
  else if p.first.isEmpty then .ok (foreign p.second)
  else if plain p.first = plain p.second then .ok (foreign p.first)
  else .error (.failed .value "inconsistent byte-order specification")

/-- A number as it is written; only zero may start with the digit zero. -/
def readCount? (cs : List Char) : Option Nat :=
  let digits := Text.trim (· = ' ') cs
  let isRight := digits.all Char.isDigit && !digits.isEmpty
    && (digits.head? ≠ some '0' || digits.all (· = '0'))
  if isRight then some (Numeral.ofDigits digits) else none

def readRepeats (cs : List Char) : Except Fault Repeats :=
  let trimmed := Text.trim (· = ' ') cs
  let bad := .error (.failed .literal "invalid syntax")
  let isOpened := trimmed.head? = some '('
  let isClosed := trimmed.getLast? = some ')'
  let inner := if isOpened then (trimmed.drop 1).dropLast else trimmed
  let pieces := ((String.ofList inner).splitOn ",").map String.toList
  let isBlank (cs : List Char) := cs.all (· = ' ')
  if isOpened != isClosed then bad
  else if isBlank inner then (if isOpened then .ok (.shape []) else bad)
  else
    let given := if pieces.getLast?.any isBlank then pieces.dropLast else pieces
    match given.mapM readCount?, pieces with
    | some [n], [_] => .ok (.count n)
    | some dims, _ => .ok (.shape dims)
    | none, _ => bad

/-- Whether a comma stands outside of brackets. -/
def hasComma : Int → List Char → Bool
  | _, [] => false
  | depth, c :: cs =>
    (c = ',' && depth = 0) ||
      hasComma (if c = '[' then depth + 1 else if c = ']' then depth - 1 else depth) cs

def isCompound (cs : List Char) : Bool :=
  let starts : List Char → Bool
    | '(' :: ')' :: _ => true
    | c :: _ => c.isDigit
    | [] => false
  starts cs || cs.head?.any isOrder && starts (cs.drop 1) || hasComma 0 cs

def numbered (types : List TypeForm) : TypeForm :=
  .fields ((types.zip (List.range types.length)).map fun (t, i) => (s!"f{i}", t))

def ofName : Nat → String → Except Fault TypeForm
  | 0, name => notUnderstood name
  | fuel + 1, name => do
    let cs := name.toList
    if !isCompound cs then
      match TypeCode.ofName? name with
      | some c => return .single c
      | none => notUnderstood name
    let (parts, isList) ← takeParts name (cs.length + 1) cs
    let read ← parts.mapM fun p => do
      let name := String.ofList ((← p.order) ++ p.name)
      if p.repeats.isEmpty then return (name, none)
      else return (name, some (← readRepeats p.repeats))
    let types ← read.mapM fun (name, repeats) => do
      let t ← ofName fuel name
      match repeats with
      | none => return t
      | some r => t.repeated r
    match types, isList with
    | [t], false => return t
    | _, _ => return numbered types

/-! ### Types as values -/

def dimsOf? (items : List Value) : Option (List Nat) :=
  items.mapM fun
    | .int (.ofNat n) => some n
    | _ => none

def repeatsOf (v : Value) : Except Fault Repeats :=
  let bad := .error (.failed .value "invalid shape in fixed-type tuple.")
  match v with
  | .int (.ofNat n) => .ok (.count n)
  | .tuple items | .list items => ((dimsOf? items).map fun dims => .ok (.shape dims)).getD bad
  | _ => bad

mutual

/-- The type that a value stands for; without a value it is the widest real. -/
def ofValue : Value → Except Fault TypeForm
  | .null => ofName 1 "float64"
  | .text s => ofName (s.length + 1) s
  | .tuple items => ofPair items
  | .list items => do return .fields (← ofFields 0 items)
  | .map [] | .record [] => .ok (.fields [])
  | _ => wrongType "Cannot interpret the value as a data type"

def ofPair : List Value → Except Fault TypeForm
  | [t, repeats] => do (← ofValue t).repeated (← repeatsOf repeats)
  | items => wrongType s!"Tuple must have size 2, but has size {items.length}"

def ofFields : Nat → List Value → Except Fault (List (String × TypeForm))
  | _, [] => .ok []
  | i, .tuple parts :: rest => do
    let field ← ofField i parts
    let more ← ofFields (i + 1) rest
    if more.any (·.1 == field.1) then
      .error (.failed .value s!"field {Text.quoted field.1} occurs more than once")
    return field :: more
  | _, v :: _ => wrongType ("Field elements must be 2- or 3-tuples, got " ++ Text.quoted v.shown)

def ofField (i : Nat) : List Value → Except Fault (String × TypeForm)
  | .text name :: spec => do
    let t ← match spec with
      | [t] => ofValue t
      | [t, repeats] => do (← ofValue t).repeated (← repeatsOf repeats)
      | _ => wrongType "Field elements must be 2- or 3-tuples"
    return (if name.isEmpty then s!"f{i}" else name, t)
  | _ => wrongType "Field elements must be tuples"

end

def elementType (v : Value) : Except Fault ElementType := do
  let t ← ofValue v
  match t with
  | .single ⟨some t, _, _, _⟩ => return t
  | t => refuse (.elementType t.shown)

end TypeForm

end FrameBatch
