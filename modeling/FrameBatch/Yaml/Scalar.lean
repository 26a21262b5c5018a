import FrameBatch.Yaml.Token

/-!
Scalars: plain ones, quoted ones, and blocks of lines. A single line break inside a scalar is a
space, and of several the first one is left out.
-/

namespace FrameBatch.Yaml

/-- A line break and the breaks after it, as they count in a scalar. -/
def folded (lineBreak : Char) (breaks : List Char) : List Char :=
  (if lineBreak ≠ '\n' then [lineBreak] else if breaks.isEmpty then [' '] else []) ++ breaks

/-! ### Plain scalars -/

def wordLength (inFlow : Bool) : List Char → Nat
  | [] => 0
  | ch :: rest =>
    let endsKey := ch = ':' &&
      (endsWord rest.head? || inFlow && rest.head?.any ([',', '[', ']', '{', '}'].contains ·))
    if endsWord (some ch) || endsKey || inFlow && [',', '?', '[', ']', '{', '}'].contains ch then 0
    else wordLength inFlow rest + 1

/-- The breaks after a line break, and the place after them and all spaces. Nothing if a document
ends there. -/
def gapBreaks : Nat → Cursor → Option (List Char) × Cursor
  | 0, c => (some [], c)
  | fuel + 1, c =>
    let c := c.skipWhile (· = ' ')
    match c.takeBreak with
    | (none, _) => (some [], c)
    | (some b, c) =>
      if c.atMarker then (none, c)
      else
        let (more, c) := gapBreaks fuel c
        (more.map (b :: ·), c)

/-- What stands between two words of a plain scalar, and whether a line ends there. -/
structure Gap where
  text : List Char
  crossesLine : Bool
  after : Cursor

def Gap.take (c : Cursor) : Gap :=
  let (blanks, c) := c.span (· = ' ')
  match c.takeBreak with
  | (none, _) => ⟨blanks, false, c⟩
  | (some b, c) =>
    if c.atMarker then ⟨[], true, c⟩
    else
      let (breaks, c) := gapBreaks (c.rest.length + 1) c
      ⟨(breaks.map (folded b)).getD [], true, c⟩

structure Plain where
  text : List Char
  crossesLine : Bool
  after : Cursor

def plainWords (inFlow : Bool) (indent : Int) : Nat → Plain → List Char → Plain
  | 0, p, _ => p
  | fuel + 1, p, gap =>
    let length := wordLength inFlow p.after.rest
    if p.after.peek = some '#' || length = 0 then p
    else
      let text := p.text ++ gap ++ p.after.rest.take length
      let g := Gap.take (p.after.skip length)
      let p : Plain := ⟨text, g.crossesLine, g.after⟩
      let isDedented := !inFlow && (p.after.column : Int) < indent
      if g.text.isEmpty || p.after.peek = some '#' || isDedented then p
      else plainWords inFlow indent fuel p g.text

/-- The plain scalar that starts here; its lines go on as long as they are indented. -/
def takePlain (inFlow : Bool) (indent : Int) (c : Cursor) : Plain :=
  plainWords inFlow indent (c.rest.length + 1) ⟨[], false, c⟩ []

/-! ### Quoted scalars -/

def quotedBreaks (start : Mark) : Nat → Cursor → Except Fault (List Char × Cursor)
  | 0, c => .ok ([], c)
  | fuel + 1, c =>
    if c.atMarker then
      scanFault (Subject.scanning "a quoted scalar" start) "found unexpected document separator" c
    else
      let c := c.skipWhile fun ch => ch = ' ' || ch = '\t'
      match c.takeBreak with
      | (none, _) => .ok ([], c)
      | (some b, c) => do
        let (more, c) ← quotedBreaks start fuel c
        return (b :: more, c)

def unclosed {α : Type} (start : Mark) (c : Cursor) : Except Fault α :=
  scanFault (Subject.scanning "a quoted scalar" start) "found unexpected end of stream" c

def quotedSpace (start : Mark) (c : Cursor) : Except Fault (List Char × Cursor) :=
  let (blanks, c) := c.span fun ch => ch = ' ' || ch = '\t'
  if c.rest.isEmpty then unclosed start c
  else match c.takeBreak with
    | (none, _) => .ok (blanks, c)
    | (some b, c) => do
      let (breaks, c) ← quotedBreaks start (c.rest.length + 1) c
      return (folded b breaks, c)

def escapes : List (Char × Char) := [
  ('0', '\x00'), ('a', '\x07'), ('b', '\x08'), ('t', '\t'), ('\t', '\t'), ('n', '\n'),
  ('v', '\x0B'), ('f', '\x0C'), ('r', '\r'), ('e', '\x1B'), (' ', ' '), ('"', '"'), ('\\', '\\'),
  ('/', '/'), ('N', '\x85'), ('_', '\xA0'), ('L', '\u2028'), ('P', '\u2029')]

/-- Letters after a backslash that are followed by so many hexadecimal digits. -/
def codeLengths : List (Char × Nat) := [('x', 2), ('u', 4), ('U', 8)]

/-- The character of a code point; half of a pair reads as the replacement character. -/
def charOf (code : Nat) : Except Fault Char :=
  if h : code.isValidChar then .ok (Char.ofNatAux code h)
  else if code ≤ 0x10FFFF then .ok '\uFFFD'
  else if code < 1 <<< 31 then .error (.failed .value "chr() arg not in range(0x110000)")
  else .error (.failed .overflow "Python int too large to convert to C int")

def takeEscape (start : Mark) (c : Cursor) : Except Fault (List Char × Cursor) :=
  let bad {α : Type} := scanFault (α := α) (Subject.scanning "a double-quoted scalar" start)
  let unknown (ch : Char) := "found unknown escape character " ++ Text.quoted ch.toString
  match c.peek with
  | none => bad (unknown '\x00') c
  | some ch =>
    match escapes.lookup ch, codeLengths.lookup ch with
    | some meant, _ => .ok ([meant], c.next)
    | none, some length =>
      let digits := c.next.rest.take length
      if digits.length = length && digits.all isHexDigit then do
        return ([← charOf (hexNumber digits)], c.next.skip length)
      else
        let expected := s!"expected escape sequence of {length} hexadecimal numbers"
        bad (butFound expected (c.next.rest.find? fun ch => !isHexDigit ch)) c.next
    | none, none =>
      match c.takeBreak with
      | (none, _) => bad (unknown ch) c
      | (some _, c) => quotedBreaks start (c.rest.length + 1) c

def takeQuoted (quote : Char) (start : Mark) : Nat → Cursor → Except Fault (List Char × Cursor)
  | 0, c => unclosed start c
  | fuel + 1, c => do
    let more (piece : List Char) (c : Cursor) : Except Fault (List Char × Cursor) := do
      let (text, c) ← takeQuoted quote start fuel c
      return (piece ++ text, c)
    match c.rest with
    | [] => unclosed start c
    | ch :: rest =>
      if ch = quote then
        if quote = '\'' && rest.head? = some '\'' then more ['\''] (c.skip 2)
        else return ([], c.next)
      else if ch = '\\' && quote = '"' then
        let (piece, c) ← takeEscape start c.next
        more piece c
      else if endsWord (some ch) then
        let (piece, c) ← quotedSpace start c
        more piece c
      else more [ch] c.next

/-! ### Blocks -/

/-- What becomes of the line breaks at the end of a block. -/
inductive Chomping where
  | clip
  | strip
  | keep
  deriving DecidableEq

def chompingOf : Option Char → Option Chomping
  | some '+' => some .keep
  | some '-' => some .strip
  | _ => none

def takeIncrement (s : Subject) (c : Cursor) : Except Fault (Option Nat × Cursor) :=
  match c.peek with
  | some ch =>
    if ch = '0' then
      scanFault s "expected indentation indicator in the range 1-9, but found 0" c
    else if ch.isDigit then .ok (some (ch.toNat - 48), c.next)
    else .ok (none, c)
  | none => .ok (none, c)

def takeIndicators (s : Subject) (c : Cursor) : Except Fault (Chomping × Option Nat × Cursor) := do
  let (chomping, increment, c) ← match chompingOf c.peek with
    | some chomping => do
      let (increment, c) ← takeIncrement s c.next
      pure (chomping, increment, c)
    | none => do
      let (increment, c) ← takeIncrement s c
      match increment, chompingOf c.peek with
      | some _, some chomping => pure (chomping, increment, c.next)
      | _, _ => pure (.clip, increment, c)
  if endsName c.peek then return (chomping, increment, c)
  else scanFault s (butFound "expected chomping or indentation indicators" c.peek) c

def takeLineEnd (s : Subject) (c : Cursor) : Except Fault Cursor :=
  let c := c.skipWhile (· = ' ')
  let c := if c.peek = some '#' then c.skipWhile fun ch => !isBreak ch else c
  if endsLine c.peek then .ok c.takeBreak.2
  else scanFault s (butFound "expected a comment or a line break" c.peek) c

/-- Empty lines at the start of a block, and the greatest indentation among them and the first line
with text. -/
def leadingBreaks : Nat → Nat → Cursor → List Char × Nat × Cursor
  | 0, most, c => ([], most, c)
  | fuel + 1, most, c =>
    let c := c.skipWhile (· = ' ')
    let most := max most c.column
    match c.takeBreak with
    | (none, _) => ([], most, c)
    | (some b, c) =>
      let (more, most, c) := leadingBreaks fuel most c
      (b :: more, most, c)

def skipIndent (indent : Nat) (c : Cursor) : Cursor :=
  c.skip ((c.rest.takeWhile (· = ' ')).take (indent - c.column)).length

def blockBreaks (indent : Nat) : Nat → Cursor → List Char × Cursor
  | 0, c => ([], c)
  | fuel + 1, c =>
    let c := skipIndent indent c
    match c.takeBreak with
    | (none, _) => ([], c)
    | (some b, c) =>
      let (more, c) := blockBreaks indent fuel c
      (b :: more, c)

def startsBlank (c : Cursor) : Bool := c.peek.any fun ch => ch = ' ' || ch = '\t'

/-- The lines of a block. Returns the text up to the end of its last line, the break there and the
breaks after it. -/
def blockLines (fold : Bool) (indent : Nat) :
    Nat → List Char → Cursor → List Char × Option Char × List Char × Cursor
  | 0, _, c => ([], none, [], c)
  | fuel + 1, breaks, c =>
    if c.column ≠ indent || c.rest.isEmpty then ([], none, breaks, c)
    else
      let blank := startsBlank c
      let (line, c) := c.span fun ch => !isBreak ch
      let (lineBreak, c) := c.takeBreak
      let (after, c) := blockBreaks indent (c.rest.length + 1) c
      if c.column = indent && !c.rest.isEmpty then
        let joint :=
          if fold && lineBreak = some '\n' && !blank && !startsBlank c then
            if after.isEmpty then [' '] else []
          else lineBreak.toList
        let (text, last, tail, c) := blockLines fold indent fuel after c
        (breaks ++ line ++ joint ++ text, last, tail, c)
      else (breaks ++ line, lineBreak, after, c)

def takeBlock (fold : Bool) (outer : Int) (c : Cursor) : Except Fault (List Char × Cursor) := do
  let subject := Subject.scanning "a block scalar" c.toMark
  let (chomping, increment, c) ← takeIndicators subject c.next
  let c ← takeLineEnd subject c
  let least := (max (outer + 1) 1).toNat
  let (indent, breaks, c) := match increment with
    | none =>
      let (breaks, most, c) := leadingBreaks (c.rest.length + 1) 0 c
      (max least most, breaks, c)
    | some n =>
      let indent := least + n - 1
      let (breaks, c) := blockBreaks indent (c.rest.length + 1) c
      (indent, breaks, c)
  let (text, last, tail, c) := blockLines fold indent (c.rest.length + 1) breaks c
  let ending := match chomping with
    | .strip => []
    | .clip => last.toList
    | .keep => last.toList ++ tail
  return (text ++ ending, c)

end FrameBatch.Yaml
