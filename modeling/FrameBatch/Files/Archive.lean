import FrameBatch.Files.Tree

namespace FrameBatch.Files.Archive

def blockSize : Nat := 512

def field (bytes : ByteArray) (start length : Nat) : List UInt8 :=
  ((bytes.extract start (start + length)).toList).takeWhile (· != 0)

def textField (bytes : ByteArray) (start length : Nat) : String :=
  (String.fromUTF8? ⟨(field bytes start length).toArray⟩).getD ""

/-- The octal number of a field; anything but its digits is passed over. -/
def octalField (bytes : ByteArray) (start length : Nat) : Nat :=
  ((field bytes start length).filter fun b => 48 ≤ b && b < 56).foldl
    (fun n b => 8 * n + (b.toNat - 48)) 0

structure Header where
  path : String
  size : Nat
  /-- the letter of the kind: `0` is a file, and `5` a folder -/
  kind : UInt8

/-- The header at a place; none after the last entry. A long path is split over two fields. -/
def header? (bytes : ByteArray) (start : Nat) : Option Header :=
  let name := textField bytes start 100
  let folder := if textField bytes (start + 257) 5 = "ustar" then textField bytes (start + 345) 155
    else ""
  if name = "" then none
  else some {
    path := if folder = "" then name else folder ++ "/" ++ name
    size := octalField bytes (start + 124) 12
    kind := ((bytes.extract (start + 156) (start + 157)).toList).headD 0 }

def Header.node? (h : Header) (content : ByteArray) : Option FileNode :=
  if h.kind = 53 then some .folder
  else if h.kind = 48 || h.kind = 0 then some (.file content)
  else none

/-- Put the entries from a place on into a tree of files. Each takes a block at least, so no more
entries come than there are blocks. -/
def putFrom (bytes : ByteArray) : Nat → Nat → Files → Files
  | 0, _, files => files
  | blocks + 1, start, files =>
    match header? bytes start with
    | none => files
    | some h =>
      let first := start + blockSize
      let files := match h.node? (bytes.extract first (first + h.size)) with
        | some node => files.put (Path.parts h.path) node
        | none => files
      putFrom bytes blocks (first + (h.size + blockSize - 1) / blockSize * blockSize) files

end Archive

def ofArchive (home : String) (bytes : ByteArray) : Files :=
  Archive.putFrom bytes (bytes.size / Archive.blockSize) 0 { home }

end FrameBatch.Files
