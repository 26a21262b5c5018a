import FrameBatch.Number.Decimal
import FrameBatch.Text.Quoted
import FrameBatch.Value.Basic

/-!
Texts of values: `written` quotes the texts inside, `shown` leaves a text as it is.
-/

namespace FrameBatch

def Text.padded (width n : Nat) : String :=
  let digits := Nat.toDigits 10 n
  String.ofList (List.replicate (width - digits.length) '0' ++ digits)

def Text.commaSeparated (parts : List String) : String := ", ".intercalate parts

/-- Parts in brackets, where a single part is followed by a comma. -/
def Text.tupleOf : List String → String
  | [part] => "(" ++ part ++ ",)"
  | parts => "(" ++ Text.commaSeparated parts ++ ")"

namespace EngineKind

def name : EngineKind → String
  | .openvino => "openvino"
  | .onnx => "onnx"

def constant : EngineKind → String
  | .openvino => "EngineType.OPENVINO"
  | .onnx => "EngineType.ONNX"

end EngineKind

namespace Date

def iso (d : Date) : String :=
  Text.padded 4 d.year ++ "-" ++ Text.padded 2 d.month ++ "-" ++ Text.padded 2 d.day

def written (d : Date) : String := s!"datetime.date({d.year}, {d.month}, {d.day})"

end Date

namespace Moment

def fraction (m : Moment) : String :=
  if m.microsecond = 0 then "" else "." ++ Text.padded 6 m.microsecond

def offsetText (seconds : Int) : String :=
  let n := seconds.natAbs
  (if seconds < 0 then "-" else "+") ++ Text.padded 2 (n / 3600) ++ ":"
    ++ Text.padded 2 (n / 60 % 60) ++ (if n % 60 = 0 then "" else ":" ++ Text.padded 2 (n % 60))

def isoWith (separator : String) (m : Moment) : String :=
  m.date.iso ++ separator ++ Text.padded 2 m.hour ++ ":" ++ Text.padded 2 m.minute ++ ":"
    ++ Text.padded 2 m.second ++ m.fraction ++ (m.offset.map offsetText).getD ""

/-- A distance as days, which may be negative, and the seconds of a day. -/
def offsetWritten (seconds : Int) : String :=
  if seconds = 0 then "datetime.timezone.utc"
  else
    let days := seconds / 86400
    let rest := seconds % 86400
    let fields := (if days = 0 then [] else [s!"days={days}"])
      ++ (if rest = 0 then [] else [s!"seconds={rest}"])
    "datetime.timezone(datetime.timedelta(" ++ Text.commaSeparated fields ++ "))"

def written (m : Moment) : String :=
  let clock := [m.date.year, m.date.month, m.date.day, m.hour, m.minute].map toString
    ++ (if m.second = 0 && m.microsecond = 0 then [] else [toString m.second])
    ++ (if m.microsecond = 0 then [] else [toString m.microsecond])
    ++ (m.offset.map fun seconds => "tzinfo=" ++ offsetWritten seconds).toList
  "datetime.datetime(" ++ Text.commaSeparated clock ++ ")"

end Moment

namespace Value

mutual

def written : Value → String
  | .null => "None"
  | .bool b => if b then "True" else "False"
  | .int z => toString z
  | .float x => x.text
  | .text s => Text.quoted s
  | .date d => d.written
  | .moment m => m.written
  | .engine k => "<" ++ k.constant ++ ": " ++ Text.quoted k.name ++ ">"
  | .list items => "[" ++ Text.commaSeparated (writtenItems items) ++ "]"
  | .tuple items => Text.tupleOf (writtenItems items)
  | .rect x y w h =>
    "Rect(x=" ++ x.written ++ ", y=" ++ y.written ++ ", width=" ++ w.written ++ ", height="
      ++ h.written ++ ")"
  | .map entries => "\x7b" ++ Text.commaSeparated (writtenEntries entries) ++ "\x7d"
  | .record entries => "\x7b" ++ Text.commaSeparated (writtenEntries entries) ++ "\x7d"

def writtenItems : List Value → List String
  | [] => []
  | v :: vs => v.written :: writtenItems vs

def writtenEntries : List (Value × Value) → List String
  | [] => []
  | (k, v) :: rest => (k.written ++ ": " ++ v.written) :: writtenEntries rest

end

def shown : Value → String
  | .text s => s
  | .date d => d.iso
  | .moment m => m.isoWith " "
  | .engine k => k.constant
  | v => v.written

end Value

end FrameBatch
