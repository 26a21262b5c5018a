import FrameBatch.Fault

namespace FrameBatch.Yaml

def isBreak (c : Char) : Bool :=
  c = '\n' || c = '\r' || c = '\x85' || c = '\u2028' || c = '\u2029'

structure Mark where
  source : Array Char
  index : Nat := 0
  line : Nat := 0
  column : Nat := 0
  deriving Inhabited

namespace Mark

/-- The part of a line next to a mark, nearest first: all of a short one, and of a long one the
beginning with a sign that there is more. -/
def nearby (run : List Char) : List Char × String :=
  if run.length < 37 then (run, "") else (run.take 32, " ... ")

def snippet (m : Mark) : String :=
  let sameLine := List.takeWhile fun c => !isBreak c
  let (before, more) := nearby (sameLine (m.source.toList.take m.index).reverse)
  let (after, further) := nearby (sameLine (m.source.toList.drop m.index))
  let indent := "    "
  let shown := more ++ String.ofList before.reverse
  indent ++ shown ++ String.ofList after ++ further ++ "\n"
    ++ indent ++ String.ofList (List.replicate shown.length ' ') ++ "^"

def shown (m : Mark) : String :=
  s!"  in \"<unicode string>\", line {m.line + 1}, column {m.column + 1}:\n" ++ m.snippet

def isAt (m n : Mark) : Bool := m.line == n.line && m.column == n.column

end Mark

structure Subject where
  title : String
  start : Option Mark := none

namespace Subject

def scanning (noun : String) (start : Mark) : Subject := ⟨"while scanning " ++ noun, start⟩

def parsing (noun : String) (start : Mark) : Subject := ⟨"while parsing " ++ noun, start⟩

def constructing (noun : String) (start : Mark) : Subject := ⟨"while constructing " ++ noun, start⟩

end Subject

/-- A problem at a mark. The start of what is being read is shown unless it is the same place. -/
def complaint (kind : FaultKind) (subject : Option Subject) (problem : String) (m : Mark) : Fault :=
  let start := (subject.bind Subject.start).filter fun n => !n.isAt m
  .failed kind <| "\n".intercalate <|
    (subject.map Subject.title).toList ++ (start.map Mark.shown).toList ++ [problem, m.shown]

/-- What was expected, and the character there instead; the end of the text counts as a NUL. -/
def butFound (expected : String) (c : Option Char) : String :=
  expected ++ ", but found " ++ Text.quoted (c.getD '\x00').toString

end FrameBatch.Yaml
