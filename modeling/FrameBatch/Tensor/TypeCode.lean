import FrameBatch.Tensor.ElementType
import FrameBatch.Value.Convert

/-!
Codes of array types without parts: a word such as `float32`, a letter, or a letter with the number
of bytes, the last two with a mark for the byte order in front.
-/

namespace FrameBatch

structure TypeCode where
  element : Option ElementType := none
  shown : String
  /-- the code inside a compound type -/
  code : String
  /-- the kind of a type that still needs a size -/
  unsized : Option Char := none
  deriving Inhabited

namespace TypeCode

structure Letter where
  code : String
  word : String
  isOrdered : Bool := true

def letters : List (Char × Letter) := [
  ('?', ⟨"?", "bool", false⟩), ('b', ⟨"i1", "int8", false⟩), ('B', ⟨"u1", "uint8", false⟩),
  ('h', ⟨"i2", "int16", true⟩), ('H', ⟨"u2", "uint16", true⟩), ('i', ⟨"i4", "int32", true⟩),
  ('I', ⟨"u4", "uint32", true⟩), ('l', ⟨"i8", "int64", true⟩), ('L', ⟨"u8", "uint64", true⟩),
  ('q', ⟨"i8", "int64", true⟩), ('Q', ⟨"u8", "uint64", true⟩), ('p', ⟨"i8", "int64", true⟩),
  ('P', ⟨"u8", "uint64", true⟩), ('n', ⟨"i8", "int64", true⟩), ('N', ⟨"u8", "uint64", true⟩),
  ('e', ⟨"f2", "float16", true⟩), ('f', ⟨"f4", "float32", true⟩), ('d', ⟨"f8", "float64", true⟩),
  ('g', ⟨"f16", "float128", true⟩), ('F', ⟨"c8", "complex64", true⟩),
  ('D', ⟨"c16", "complex128", true⟩), ('G', ⟨"c32", "complex256", true⟩),
  ('O', ⟨"O", "object", false⟩), ('c', ⟨"S1", "|S1", false⟩), ('M', ⟨"M8", "datetime64", true⟩),
  ('m', ⟨"m8", "timedelta64", true⟩), ('T', ⟨"T", "StringDType()", false⟩)]

def words : List (String × Char) := [
  ("float16", 'e'), ("float32", 'f'), ("float64", 'd'), ("half", 'e'), ("single", 'f'),
  ("double", 'd'), ("float", 'd'), ("int8", 'b'), ("int16", 'h'), ("int32", 'i'), ("int64", 'l'),
  ("byte", 'b'), ("short", 'h'), ("intc", 'i'), ("int", 'l'), ("int_", 'l'), ("intp", 'l'),
  ("long", 'l'), ("longlong", 'q'), ("uint8", 'B'), ("uint16", 'H'), ("uint32", 'I'),
  ("uint64", 'L'), ("ubyte", 'B'), ("ushort", 'H'), ("uintc", 'I'), ("uint", 'L'), ("uintp", 'L'),
  ("ulong", 'L'), ("ulonglong", 'Q'), ("bool", '?'), ("bool_", '?'), ("complex64", 'F'),
  ("csingle", 'F'), ("complex128", 'D'), ("cdouble", 'D'), ("complex", 'D'), ("longdouble", 'g'),
  ("float128", 'g'), ("clongdouble", 'G'), ("complex256", 'G'), ("object", 'O'), ("object_", 'O'),
  ("str", 'U'), ("str_", 'U'), ("unicode", 'U'), ("bytes", 'S'), ("bytes_", 'S'), ("void", 'V')]

def sizedLetter (kind : Char) (bytes : Nat) : Option Char :=
  match kind, bytes with
  | 'b', 1 => some '?'
  | 'i', 1 => some 'b'
  | 'i', 2 => some 'h'
  | 'i', 4 => some 'i'
  | 'i', 8 => some 'l'
  | 'u', 1 => some 'B'
  | 'u', 2 => some 'H'
  | 'u', 4 => some 'I'
  | 'u', 8 => some 'L'
  | 'f', 2 => some 'e'
  | 'f', 4 => some 'f'
  | 'f', 8 => some 'd'
  | 'f', 16 => some 'g'
  | 'c', 8 => some 'F'
  | 'c', 16 => some 'D'
  | 'c', 32 => some 'G'
  | 'O', 4 => some 'O'
  | 'O', 8 => some 'O'
  | _, _ => none

/-- A text or a block of bytes of some size; size zero stands for a size that is not known. -/
def flexible? (swapped : Bool) (kind : Char) (size : Nat) : Option TypeCode :=
  let make (order shownOrder name : String) : TypeCode :=
    { shown := shownOrder ++ name ++ toString size
      code := order ++ name ++ (if size = 0 then "" else toString size)
      unsized := if size = 0 then some kind else none }
  let order := if swapped then ">" else "<"
  match kind with
  | 'S' | 'a' => some (make "" "|" "S")
  | 'V' => some (make "" "|" "V")
  | 'U' => if size ≤ (1 <<< 31 - 1) / 4 then some (make order order "U") else none
  | _ => none

def ofLetter? (swapped : Bool) (c : Char) : Option TypeCode :=
  match letters.lookup c with
  | none => flexible? swapped c 0
  | some ⟨code, word, isOrdered⟩ =>
    if swapped && isOrdered then some { shown := ">" ++ code, code := ">" ++ code }
    else some {
      element := ElementType.all.find? (·.arrayName == word)
      shown := word
      code := (if isOrdered then "<" else "") ++ code }

def timeUnits : List String :=
  ["Y", "M", "W", "D", "h", "m", "s", "ms", "us", "ns", "ps", "fs", "as", "generic"]

def readUnit? (cs : List Char) : Option String :=
  match cs, cs.getLast? with
  | [], _ => some ""
  | '[' :: rest, some ']' =>
    let inner := rest.dropLast
    let count := inner.takeWhile Char.isDigit
    let unit := String.ofList (inner.dropWhile Char.isDigit)
    if !timeUnits.contains unit then none
    else if unit = "generic" then (if count.isEmpty then some "" else none)
    else
      let n := Numeral.ofDigits count
      some ("[" ++ (if count.isEmpty || n = 1 then "" else toString n) ++ unit ++ "]")
  | _, _ => none

def timeStart? (cs : List Char) : Option (String × String × List Char) :=
  match cs with
  | 'M' :: '8' :: rest => some ("M8", "datetime64", rest)
  | 'm' :: '8' :: rest => some ("m8", "timedelta64", rest)
  | _ =>
    if "datetime64".toList.isPrefixOf cs then some ("M8", "datetime64", cs.drop 10)
    else if "timedelta64".toList.isPrefixOf cs then some ("m8", "timedelta64", cs.drop 11)
    else none

def time? (swapped : Bool) (code word : String) (unit : List Char) : Option TypeCode :=
  (readUnit? unit).map fun unit =>
    let order := if swapped then ">" else "<"
    { shown := if swapped then order ++ code ++ unit else word ++ unit
      code := order ++ code ++ unit }

/-- The number after a kind. Blanks and a plus sign may stand in front of it. -/
def readSize? (cs : List Char) : Option Nat :=
  let unsigned := match cs.dropWhile fun c => c = ' ' || ('\t' ≤ c && c ≤ '\r') with
    | '+' :: rest => rest
    | rest => rest
  let n := Numeral.ofDigits unsigned
  if !unsigned.isEmpty && unsigned.all Char.isDigit && n < 1 <<< 31 then some n else none

def sized? (swapped : Bool) (kind : Char) (size : Nat) : Option TypeCode :=
  (flexible? swapped kind size).or ((sizedLetter kind size).bind (ofLetter? swapped))

def unordered? (swapped : Bool) (cs : List Char) : Option TypeCode :=
  match timeStart? cs, cs with
  | some (code, word, unit), _ => time? swapped code word unit
  | none, [] => none
  | none, [c] => ofLetter? swapped c
  | none, c :: size => (readSize? size).bind (sized? swapped c)

def ofName? (s : String) : Option TypeCode :=
  let code := match s.toList with
    | '>' :: cs => unordered? true cs
    | '<' :: cs | '|' :: cs | '=' :: cs => unordered? false cs
    | cs => unordered? false cs
  code.or ((words.lookup s).bind (ofLetter? false))

end TypeCode

end FrameBatch
