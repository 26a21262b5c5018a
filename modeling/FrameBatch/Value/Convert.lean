import FrameBatch.Fault
import FrameBatch.Text.Numeral

namespace FrameBatch.Value

def typeName : Value → String
  | .null => "NoneType"
  | .bool _ => "bool"
  | .int _ => "int"
  | .float _ => "float"
  | .text _ => "str"
  | .date _ => "datetime.date"
  | .moment _ => "datetime.datetime"
  | .engine _ => "EngineType"
  | .list _ => "list"
  | .tuple _ => "tuple"
  | .rect .. => "Rect"
  | .map _ => "dict"
  | .record _ => "EasyDict"

/-- The whole number a value stands for: reals lose their fraction and texts are read. -/
def toInt : Value → Except Fault Int
  | .bool b => .ok b.toNat
  | .int z => .ok z
  | .float x =>
    match x.truncate? with
    | some z => .ok z
    | none =>
      if x.isNaN then .error (.failed .value "cannot convert float NaN to integer")
      else .error (.failed .overflow "cannot convert float infinity to integer")
  | .text s =>
    match Numeral.readInt s with
    | .ok z => .ok z
    | .error .malformed =>
      .error (.failed .value ("invalid literal for int() with base 10: "
        ++ String.ofList ((Text.quoted s).toList.take 200)))
    | .error (.tooLong digits) =>
      .error (.failed .value (s!"Exceeds the limit ({Numeral.maxDigits} digits) for integer string "
        ++ s!"conversion: value has {digits} digits; use sys.set_int_max_str_digits() to increase "
        ++ "the limit"))
  | v => wrongType ("int() argument must be a string, a bytes-like object or a real number, not '"
      ++ v.typeName ++ "'")

def noField {α : Type} (v : Value) (field : String) : Except Fault α :=
  .error (.failed .field ("'" ++ v.typeName ++ "' object has no attribute '" ++ field ++ "'"))

def members : Value → Except Fault (List Value)
  | .list items => .ok items
  | .tuple items => .ok items
  | .text s => .ok (s.toList.map fun c => .text c.toString)
  | .rect x y w h => .ok [x, y, w, h]
  | .map entries => .ok (entries.map Prod.fst)
  | .record entries => .ok (entries.map Prod.fst)
  | v => wrongType ("object of type '" ++ v.typeName ++ "' has no len()")

def isBelow (v : Value) (n : Int) : Except Fault Bool :=
  match v.compare? (.int n) with
  | some order => .ok (order == some .lt)
  | none => wrongType ("'<' not supported between instances of '" ++ v.typeName ++ "' and 'int'")

def isAbove (v : Value) (n : Int) : Except Fault Bool :=
  match v.compare? (.int n) with
  | some order => .ok (order == some .gt)
  | none => wrongType ("'<' not supported between instances of 'int' and '" ++ v.typeName ++ "'")

end FrameBatch.Value
