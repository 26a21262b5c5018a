import FrameBatch.Text.CaseTable

/-!
Upper and lower case of a text, by the full mapping: one character may become several, and a sigma
at the end of a word has a lower case of its own.
-/

namespace FrameBatch.Text

def CaseRun.covers (run : CaseRun) (code : Nat) : Bool :=
  run.first ≤ code && code ≤ run.last && (code - run.first) % run.step == 0

def mapCode (runs : List CaseRun) (texts : List (Nat × List Nat)) (c : Char) : List Char :=
  match texts.lookup c.toNat with
  | some codes => codes.map Char.ofNat
  | none =>
    match runs.find? (·.covers c.toNat) with
    | some run => [Char.ofNat (c.toNat + run.distance).toNat]
    | none => [c]

def upperChar (c : Char) : List Char :=
  if c.toNat < 128 then [c.toUpper] else mapCode upperRuns upperTexts c

def lowerChar (c : Char) : List Char :=
  if c.toNat < 128 then [c.toLower] else mapCode lowerRuns lowerTexts c

def isCased (c : Char) : Bool := inRanges casedRanges c.toNat

def isPassedOver (c : Char) : Bool := inRanges passedOverRanges c.toNat

/-- Whether the next character that is not passed over is a letter with a case. -/
def meetsCased (cs : List Char) : Bool :=
  match cs.dropWhile isPassedOver with
  | [] => false
  | c :: _ => isCased c

def sigma : Char := 'Σ'

/-- The lower case of a sigma between the characters before it, nearest first, and those after. -/
def lowerSigma (before after : List Char) : Char :=
  if meetsCased before && !meetsCased after then 'ς' else 'σ'

def lowerAfter (before : List Char) : List Char → List Char
  | [] => []
  | c :: cs =>
    (if c = sigma then [lowerSigma before cs] else lowerChar c) ++ lowerAfter (c :: before) cs

end FrameBatch.Text

namespace FrameBatch

def Text.upper (s : String) : String := String.ofList (s.toList.flatMap Text.upperChar)

def Text.lower (s : String) : String := String.ofList (Text.lowerAfter [] s.toList)

end FrameBatch
