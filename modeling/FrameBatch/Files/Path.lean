/-!
Path texts: parts between slashes, the name at the end, and its extension. The rules of two readers
differ: `suffix` looks at the name of the last part, `extension` at the text after the last slash.
-/

namespace FrameBatch.Path

def pieces (path : String) : List String := (path.toList.splitOn '/').map String.ofList

/-- The parts of a path; empty ones and single points are left out. -/
def parts (path : String) : List String :=
  (pieces path).filter fun part => part != "" && part != "."

/-- Where a path starts: nowhere, at the root, or at the root written with exactly two slashes. -/
def root (path : String) : String :=
  if path.startsWith "//" && !path.startsWith "///" then "//"
  else if path.startsWith "/" then "/"
  else ""

def normal (path : String) : String :=
  let text := root path ++ "/".intercalate (parts path)
  if text = "" then "." else text

def join (folder name : String) : String :=
  if folder = "." then name
  else if folder.endsWith "/" then folder ++ name
  else folder ++ "/" ++ name

def name (path : String) : String := (parts path).getLast?.getD ""

/-- Where the extension of a name starts: at its last point, unless that is its first or last
character. -/
def pointOf? (cs : List Char) : Option Nat :=
  let after := (cs.reverse.takeWhile (· != '.')).length
  if after = 0 || cs.length ≤ after + 1 then none else some (cs.length - after - 1)

def suffix (path : String) : String :=
  let cs := (name path).toList
  match pointOf? cs with
  | some i => String.ofList (cs.drop i)
  | none => ""

def stem (path : String) : String :=
  let cs := (name path).toList
  match pointOf? cs with
  | some i => String.ofList (cs.take i)
  | none => name path

def lastSegment (cs : List Char) : List Char := (cs.reverse.takeWhile (· != '/')).reverse

/-- The text from the last point of the last segment on; points at its front do not count. -/
def extension (path : String) : String :=
  let segment := (lastSegment path.toList).dropWhile (· == '.')
  let after := (segment.reverse.takeWhile (· != '.')).length
  if after = segment.length then "" else String.ofList (segment.drop (segment.length - after - 1))

end FrameBatch.Path
