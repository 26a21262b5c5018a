import FrameBatch.Entries
import FrameBatch.Yaml.Property

/-!
Tokens of a text. Blocks start and end where the indentation does. A word may turn out to be a key
when a colon follows it on its line, so a token is told only when no key can start before it any
more.
-/

namespace FrameBatch.Yaml

structure SimpleKey where
  number : Nat
  /-- whether only a key may stand here -/
  required : Bool
  start : Mark

structure Lexer where
  cursor : Cursor
  flow : Nat := 0
  indent : Int := -1
  outer : List Int := []
  allowsKey : Bool := true
  /-- the key that may be open on each level of flow collections -/
  keys : Entries Nat SimpleKey := []
  told : Nat := 0
  waiting : List Lexeme := []
  finished : Bool := false

namespace Lexer

def pushFrom (start : Mark) (t : Token) (l : Lexer) : Lexer :=
  { l with waiting := l.waiting ++ [⟨t, start, l.cursor.toMark⟩] }

/-- A token without a character of its own. -/
def push (t : Token) (l : Lexer) : Lexer := l.pushFrom l.cursor.toMark t

/-- Put a token without a character of its own in front of the one with a number. -/
def insert (number : Nat) (start : Mark) (t : Token) (l : Lexer) : Lexer :=
  let n := number - l.told
  { l with waiting := l.waiting.take n ++ ⟨t, start, start⟩ :: l.waiting.drop n }

/-- A key that has to be completed cannot be. -/
def missingColon {α : Type} (k : SimpleKey) (l : Lexer) : Except Fault α :=
  scanFault (Subject.scanning "a simple key" k.start) "could not find expected ':'" l.cursor

def keyLimit : Nat := 1024

/-- Give up the keys that cannot be completed any more. -/
def dropStale (l : Lexer) : Except Fault Lexer :=
  let stale (k : SimpleKey) : Bool :=
    k.start.line != l.cursor.line || keyLimit < l.cursor.index - k.start.index
  match l.keys.find? fun (_, k) => stale k && k.required with
  | some (_, k) => l.missingColon k
  | none => .ok { l with keys := l.keys.filter fun (_, k) => !stale k }

def dropKey (l : Lexer) : Except Fault Lexer :=
  match (l.keys.get? l.flow).filter (·.required) with
  | some k => l.missingColon k
  | none => .ok { l with keys := l.keys.filter fun (level, _) => level != l.flow }

def noteKey (l : Lexer) : Except Fault Lexer := do
  if !l.allowsKey then return l
  let l ← l.dropKey
  return { l with keys := l.keys.put l.flow {
    number := l.told + l.waiting.length
    required := l.flow = 0 && l.indent = l.cursor.column
    start := l.cursor.toMark } }

def unwind (column : Int) (l : Lexer) : Lexer :=
  if l.flow ≠ 0 then l else go l.outer l
where
  go : List Int → Lexer → Lexer
    | [], l => l
    | i :: rest, l =>
      if column < l.indent then go rest ({ l with indent := i, outer := rest }.push .blockEnd)
      else l

def deepen (column : Nat) (start : Lexer → Lexer) (l : Lexer) : Lexer :=
  if l.indent < column then start { l with outer := l.indent :: l.outer, indent := column } else l

def skipSpace : Nat → Lexer → Lexer
  | 0, l => l
  | fuel + 1, l =>
    let c := l.cursor.skipWhile (· = ' ')
    let c := if c.peek = some '#' then c.skipWhile fun ch => !isBreak ch else c
    match c.takeBreak with
    | (none, _) => { l with cursor := c }
    | (some _, c) => skipSpace fuel { l with cursor := c, allowsKey := l.allowsKey || l.flow = 0 }

def take (n : Nat) (t : Token) (l : Lexer) : Lexer :=
  { l with cursor := l.cursor.skip n }.pushFrom l.cursor.toMark t

def streamEnd (l : Lexer) : Except Fault Lexer := do
  let l ← (l.unwind (-1)).dropKey
  return { l with allowsKey := false, keys := [], finished := true }.push .streamEnd

def documentMarker (t : Token) (l : Lexer) : Except Fault Lexer := do
  let l ← (l.unwind (-1)).dropKey
  return { l with allowsKey := false }.take 3 t

def directive (l : Lexer) : Except Fault Lexer := do
  let l ← (l.unwind (-1)).dropKey
  let (d, cursor) ← takeDirective l.cursor
  return { l with allowsKey := false, cursor }.pushFrom l.cursor.toMark (.directive d)

def flowStart (t : Token) (l : Lexer) : Except Fault Lexer := do
  let l ← l.noteKey
  return { l with flow := l.flow + 1, allowsKey := true }.take 1 t

def flowEnd (t : Token) (l : Lexer) : Except Fault Lexer := do
  let l ← l.dropKey
  return { l with flow := l.flow - 1, allowsKey := false }.take 1 t

def flowEntry (l : Lexer) : Except Fault Lexer := do
  let l ← l.dropKey
  return { l with allowsKey := true }.take 1 .flowEntry

def blockEntry (l : Lexer) : Except Fault Lexer := do
  if l.flow = 0 && !l.allowsKey then
    scanFault none "sequence entries are not allowed here" l.cursor
  let l := if l.flow = 0 then l.deepen l.cursor.column (push .blockSequenceStart) else l
  let l ← { l with allowsKey := true }.dropKey
  return l.take 1 .blockEntry

def key (l : Lexer) : Except Fault Lexer := do
  if l.flow = 0 && !l.allowsKey then scanFault none "mapping keys are not allowed here" l.cursor
  let l := if l.flow = 0 then l.deepen l.cursor.column (push .blockMappingStart) else l
  let l ← { l with allowsKey := l.flow = 0 }.dropKey
  return l.take 1 .key

/-- A colon. If a key is open it is completed, and otherwise the key was given or is empty. -/
def value (l : Lexer) : Except Fault Lexer := do
  match l.keys.get? l.flow with
  | some k =>
    let l := { l with keys := l.keys.filter fun (level, _) => level != l.flow }
    let l := l.insert k.number k.start .key
    let l :=
      if l.flow = 0 then l.deepen k.start.column (insert k.number k.start .blockMappingStart) else l
    return { l with allowsKey := false }.take 1 .value
  | none =>
    if l.flow = 0 && !l.allowsKey then
      scanFault none "mapping values are not allowed here" l.cursor
    let l := if l.flow = 0 then l.deepen l.cursor.column (push .blockMappingStart) else l
    let l ← { l with allowsKey := l.flow = 0 }.dropKey
    return l.take 1 .value

def simple (scan : Cursor → Except Fault (Token × Cursor)) (l : Lexer) : Except Fault Lexer := do
  let l ← l.noteKey
  let (t, cursor) ← scan l.cursor
  return { l with allowsKey := false, cursor }.pushFrom l.cursor.toMark t

def quoted (quote : Char) : Lexer → Except Fault Lexer :=
  simple fun c => do
    let (text, c) ← takeQuoted quote c.toMark (c.rest.length + 1) c.next
    return (.scalar (String.ofList text) false, c)

def block (fold : Bool) (l : Lexer) : Except Fault Lexer := do
  let l ← { l with allowsKey := true }.dropKey
  let (text, cursor) ← takeBlock fold l.indent l.cursor
  return { l with cursor }.pushFrom l.cursor.toMark (.scalar (String.ofList text) false)

def plain (l : Lexer) : Except Fault Lexer := do
  let l ← l.noteKey
  let p := takePlain (l.flow != 0) (l.indent + 1) l.cursor
  return { l with allowsKey := p.crossesLine, cursor := p.after }.pushFrom l.cursor.toMark
    (.scalar (String.ofList p.text) true)

def startsPlain (inFlow : Bool) (ch : Char) (after : Option Char) : Bool :=
  let indicators := "-?:,[]\x7b\x7d#&*!|>'\"%@`".toList
  !(endsWord (some ch) || indicators.contains ch)
    || !endsWord after && (ch = '-' || !inFlow && (ch = '?' || ch = ':'))

def fetch (l : Lexer) : Except Fault Lexer := do
  let l ← (l.skipSpace (l.cursor.rest.length + 1)).dropStale
  let c := l.cursor
  let l := l.unwind c.column
  let inFlow := l.flow != 0
  let alone := inFlow || endsWord (c.peekAt 1)
  match c.peek with
  | none => l.streamEnd
  | some ch =>
    if ch = '%' && c.column = 0 then l.directive
    else if ch = '-' && c.column = 0 && c.atMarker then l.documentMarker .documentStart
    else if ch = '.' && c.column = 0 && c.atMarker then l.documentMarker .documentEnd
    else if ch = '[' then l.flowStart .flowSequenceStart
    else if ch = '\x7b' then l.flowStart .flowMappingStart
    else if ch = ']' then l.flowEnd .flowSequenceEnd
    else if ch = '\x7d' then l.flowEnd .flowMappingEnd
    else if ch = ',' then l.flowEntry
    else if ch = '-' && endsWord (c.peekAt 1) then l.blockEntry
    else if ch = '?' && alone then l.key
    else if ch = ':' && alone then l.value
    else if ch = '*' then
      l.simple fun c => do let (name, c) ← takeAnchor "an alias" c; return (.alias name, c)
    else if ch = '&' then
      l.simple fun c => do let (name, c) ← takeAnchor "an anchor" c; return (.anchor name, c)
    else if ch = '!' then l.simple takeTag
    else if ch = '|' && !inFlow then l.block false
    else if ch = '>' && !inFlow then l.block true
    else if ch = '\'' || ch = '"' then l.quoted ch
    else if startsPlain inFlow ch (c.peekAt 1) then l.plain
    else
      let problem := s!"found character {Text.quoted ch.toString} that cannot start any token"
      scanFault (Subject.mk "while scanning for the next token" none) problem c

/-- How many of the waiting tokens can be told: those before the first open key. -/
def tellable (l : Lexer) : Nat :=
  match (l.keys.map fun (_, k) => k.number).min? with
  | some number => number - l.told
  | none => l.waiting.length

/-- The tokens from here on. Every step but the last goes over a character. -/
def run : Nat → Lexer → Tokens
  | 0, l => ⟨[], l.cursor.toMark, none⟩
  | fuel + 1, l =>
    match l.fetch with
    | .error f => ⟨[], l.cursor.toMark, some f⟩
    | .ok l =>
      if l.finished then ⟨l.waiting, l.cursor.toMark, none⟩
      else match l.dropStale with
        | .error f => ⟨[], l.cursor.toMark, some f⟩
        | .ok l =>
          let n := l.tellable
          let later := run fuel { l with told := l.told + n, waiting := l.waiting.drop n }
          { later with lexemes := l.waiting.take n ++ later.lexemes }

end Lexer

def isAllowed (c : Char) : Bool :=
  let n := c.toNat
  n = 9 || n = 10 || n = 13 || n = 0x85 || (0x20 ≤ n && n ≤ 0x7E) || (0xA0 ≤ n && n ≤ 0xD7FF)
    || (0xE000 ≤ n && n ≤ 0xFFFD) || 0x10000 ≤ n

def unacceptable (c : Char) (index : Nat) : Fault :=
  .failed .reader <|
    s!"unacceptable character #x{String.ofList (Text.hexDigits 4 c.toNat)}: "
      ++ s!"special characters are not allowed\n  in \"<unicode string>\", position {index}"

def Tokens.ofText (text : String) : Tokens :=
  let cs := text.toList
  let cursor : Cursor := { source := cs.toArray, rest := cs }
  match cs.find? fun c => !isAllowed c with
  | some c => ⟨[], cursor.toMark, unacceptable c (cs.takeWhile isAllowed).length⟩
  | none =>
    let cursor := if cs.head? = some '\uFEFF' then cursor.next else cursor
    Lexer.run (cs.length + 1) { cursor }

end FrameBatch.Yaml
