import FrameBatch.Text.Utf8
import FrameBatch.Yaml.Scalar

namespace FrameBatch.Yaml

def badName {α : Type} (s : Subject) (c : Cursor) : Except Fault α :=
  scanFault s (butFound "expected alphabetic or numeric character" c.peek) c

def takeName (s : Subject) (c : Cursor) : Except Fault (String × Cursor) :=
  let (name, c) := c.span isNameChar
  if name.isEmpty then badName s c else .ok (String.ofList name, c)

def takeAnchor (noun : String) (c : Cursor) : Except Fault (String × Cursor) := do
  let subject := Subject.scanning noun c.toMark
  let (name, c) ← takeName subject c.next
  if endsWord c.peek || c.peek.any (['?', ':', ',', ']', '}', '%', '@', '`'].contains ·) then
    return (name, c)
  else badName subject c

/-! ### Tags -/

def isUriChar (c : Char) : Bool :=
  c.isAlphanum || ("-;/?:@&=+$,_.!~*'()[]%".toList.contains c)

def takeEscapedBytes (s : Subject) : Nat → Cursor → Except Fault (List UInt8 × Cursor)
  | 0, c => .ok ([], c)
  | fuel + 1, c =>
    if c.peek = some '%' then
      let digits := c.next.rest.take 2
      if digits.length = 2 && digits.all isHexDigit then do
        let (more, c) ← takeEscapedBytes s fuel (c.skip 3)
        return ((hexNumber digits).toUInt8 :: more, c)
      else
        let expected := "expected URI escape sequence of 2 hexadecimal numbers"
        scanFault s (butFound expected (c.next.rest.find? fun ch => !isHexDigit ch)) c.next
    else .ok ([], c)

def uriChars (s : Subject) : Nat → Cursor → Except Fault (List Char × Cursor)
  | 0, c => .ok ([], c)
  | fuel + 1, c =>
    match c.peek with
    | none => .ok ([], c)
    | some ch =>
      if ch = '%' then do
        let (bytes, after) ← takeEscapedBytes s (c.rest.length + 1) c
        match Text.ofUtf8 ⟨bytes.toArray⟩ with
        | .error problem => scanFault s problem c
        | .ok text =>
          let (more, c) ← uriChars s fuel after
          return (text.toList ++ more, c)
      else if isUriChar ch then do
        let (more, c) ← uriChars s fuel c.next
        return (ch :: more, c)
      else .ok ([], c)

def takeUri (noun : String) (start : Mark) (c : Cursor) : Except Fault (String × Cursor) := do
  let (text, after) ← uriChars (Subject.scanning noun start) (c.rest.length + 1) c
  if after.index = c.index then
    scanFault (Subject.parsing noun start) (butFound "expected URI" c.peek) c
  else return (String.ofList text, after)

/-- The handle of a tag: an exclamation mark, or a name between two. -/
def takeHandle (s : Subject) (c : Cursor) : Except Fault (String × Cursor) :=
  let bad (c : Cursor) := scanFault s (butFound "expected '!'" c.peek) c
  if c.peek ≠ some '!' then bad c
  else if c.peekAt 1 = some ' ' then .ok ("!", c.next)
  else
    let (name, after) := c.next.span isNameChar
    if after.peek = some '!' then .ok ("!" ++ String.ofList name ++ "!", after.next) else bad after

def takeTag (c : Cursor) : Except Fault (Token × Cursor) := do
  let (noun, start) := ("a tag", c.toMark)
  let (token, c) ←
    if c.peekAt 1 = some '<' then do
      let (suffix, c) ← takeUri noun start (c.skip 2)
      if c.peek ≠ some '>' then
        scanFault (Subject.parsing noun start) (butFound "expected '>'" c.peek) c
      else pure (Token.tag none suffix, c.next)
    else if endsWord (c.peekAt 1) then pure (Token.tag none "!", c.next)
    else do
      let word := c.next.rest.takeWhile fun ch => !endsName (some ch)
      let (handle, c) ←
        if word.contains '!' then takeHandle (Subject.scanning noun start) c else pure ("!", c.next)
      let (suffix, c) ← takeUri noun start c
      pure (Token.tag (some handle) suffix, c)
  if endsName c.peek then return (token, c)
  else scanFault (Subject.scanning noun start) (butFound "expected ' '" c.peek) c

/-! ### Directives -/

def badDirective {α : Type} (s : Subject) (expected : String) (c : Cursor) : Except Fault α :=
  scanFault s (butFound expected c.peek) c

def takeNumber (s : Subject) (c : Cursor) : Except Fault (Nat × Cursor) :=
  let (digits, c) := c.span Char.isDigit
  if digits.isEmpty then badDirective s "expected a digit" c
  else .ok (digits.foldl (fun n d => 10 * n + (d.toNat - 48)) 0, c)

def takeVersion (s : Subject) (c : Cursor) : Except Fault (Directive × Cursor) := do
  let (major, c) ← takeNumber s (c.skipWhile (· = ' '))
  if c.peek ≠ some '.' then badDirective s "expected a digit or '.'" c
  let (minor, c) ← takeNumber s c.next
  if endsName c.peek then return (.version major minor, c)
  else badDirective s "expected a digit or ' '" c

def takeTagHandle (start : Mark) (c : Cursor) : Except Fault (Directive × Cursor) := do
  let (noun, subject) := ("a directive", Subject.scanning "a directive" start)
  let (handle, c) ← takeHandle subject (c.skipWhile (· = ' '))
  if c.peek ≠ some ' ' then badDirective subject "expected ' '" c
  let (address, c) ← takeUri noun start (c.skipWhile (· = ' '))
  if endsName c.peek then return (.tagHandle handle address, c)
  else badDirective subject "expected ' '" c

def takeDirective (c : Cursor) : Except Fault (Directive × Cursor) := do
  let start := c.toMark
  let subject := Subject.scanning "a directive" start
  let (name, c) ← takeName subject c.next
  if !endsName c.peek then badName subject c
  let (directive, c) ← match name with
    | "YAML" => takeVersion subject c
    | "TAG" => takeTagHandle start c
    | _ => pure (Directive.other, c.skipWhile fun ch => !isBreak ch)
  return (directive, ← takeLineEnd subject c)

end FrameBatch.Yaml
