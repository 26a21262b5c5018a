import FrameBatch.Act
import FrameBatch.Entries
import FrameBatch.Files.Path
import FrameBatch.Tensor.Image
import FrameBatch.Text.Utf8

/-!
A tree of files below a working folder. Paths are looked up part by part, as a file system does:
only a folder has anything below or above it.
-/

namespace FrameBatch

inductive FileNode where
  | folder
  | file (bytes : ByteArray)
  /-- a picture file with exactly these pixels, and what was written after them -/
  | picture (pixels : Tensor) (after : ByteArray := .empty)

def FileNode.extend (text : String) : FileNode → FileNode
  | .folder => .folder
  | .file bytes => .file (bytes ++ text.toUTF8)
  | .picture pixels after => .picture pixels (after ++ text.toUTF8)

structure Files where
  home : String
  /-- nodes below the working folder by the parts of their path, in the order of their creation -/
  nodes : Entries (List String) FileNode := []
  deriving Inhabited

inductive Place where
  | inside (parts : List String)
  /-- a folder above the working folder, of which nothing is known -/
  | outside
  deriving DecidableEq

namespace Files

def node? (files : Files) : Place → Option FileNode
  | .inside [] => some .folder
  | .inside parts => files.nodes.get? parts
  | .outside => some .folder

def isFolderAt (files : Files) (p : Place) : Bool :=
  match files.node? p with
  | some .folder => true
  | _ => false

def step (files : Files) (p : Place) (part : String) : Option Place :=
  if !files.isFolderAt p then none
  else if part = "" || part = "." then some p
  else match p with
    | .outside => if part = ".." then some .outside else none
    | .inside parts =>
      if part = ".." then some (if parts.isEmpty then .outside else .inside parts.dropLast)
      else
        let below := Place.inside (parts ++ [part])
        (files.node? below).map fun _ => below

def find? (files : Files) (path : String) : Option Place :=
  let relative :=
    if path = files.home then some ""
    else if path.startsWith (files.home ++ "/") then
      some (path.drop (files.home.length + 1)).toString
    else if path.startsWith "/" then none
    else some path
  if path = "" || path.toList.contains '\x00' then none
  else match relative with
    | some rest => (Path.pieces rest).foldlM files.step (.inside [])
    | none => if (Path.parts path).isEmpty then some .outside else none

def exists? (files : Files) (path : String) : Bool := (files.find? path).isSome

def isFolder (files : Files) (path : String) : Bool :=
  match files.find? path with
  | some p => files.isFolderAt p
  | none => false

def namesBelow (files : Files) (p : Place) : List String :=
  match p with
  | .outside => []
  | .inside parts => files.nodes.filterMap fun (key, _) =>
    if key.dropLast == parts then key.getLast? else none

/-- What the file system says when a path leads nowhere, or through a file. -/
def lookupFault (files : Files) (path : String) : Fault :=
  if path.toList.contains '\x00' then .failed .value "embedded null byte" else
  let parts := Path.pieces path
  let throughFile := (List.range parts.length).any fun n =>
    match files.find? ("/".intercalate (parts.take n)) with
    | some p => !files.isFolderAt p
    | none => false
  if throughFile then
    .failed .notDirectory ("[Errno 20] Not a directory: " ++ Text.quoted path)
  else .failed .fileNotFound ("[Errno 2] No such file or directory: " ++ Text.quoted path)

def folderFault (path : String) : Fault :=
  .failed .isDirectory ("[Errno 21] Is a directory: " ++ Text.quoted path)

def list (files : Files) (path : String) : Except Fault (List String) :=
  match files.find? path with
  | none => .error (files.lookupFault path)
  | some p =>
    if files.isFolderAt p then .ok (files.namesBelow p)
    else .error (.failed .notDirectory ("[Errno 20] Not a directory: " ++ Text.quoted path))

def unifyNewlines : List Char → List Char
  | [] => []
  | '\r' :: '\n' :: cs => '\n' :: unifyNewlines cs
  | '\r' :: cs => '\n' :: unifyNewlines cs
  | c :: cs => c :: unifyNewlines cs

/-- The first byte of a picture file starts no character. -/
def pictureIsNoText : Text.Malformed := ⟨0, [0x89], "invalid start byte"⟩

def readText (files : Files) (path : String) : Except Fault String :=
  match (files.find? path).bind files.node? with
  | none => .error (files.lookupFault path)
  | some .folder => .error (folderFault path)
  | some (.picture ..) => .error (.failed .undecodable pictureIsNoText.message)
  | some (.file bytes) =>
    match Text.ofUtf8 bytes with
    | .ok text => .ok (String.ofList (unifyNewlines text.toList))
    | .error problem => .error (.failed .undecodable problem)

/-- Put a node at the parts of a path, with the folders above it. -/
def put (files : Files) (parts : List String) (node : FileNode) : Files :=
  let above := (List.range parts.length).filterMap fun n =>
    let key := parts.take n
    if n = 0 || files.nodes.has key then none else some (key, FileNode.folder)
  { files with nodes := Entries.put parts node (files.nodes ++ above) }

/-- The pixels of a picture file in three channels; anything else has none. One channel counts three
times, and a fourth is left out. -/
def pixels? (files : Files) (path : String) : Option Image :=
  match (files.find? path).bind files.node? with
  | some (.picture t _) =>
    match Image.ofTensor t with
    | .ok img =>
      some (.ofFn t.type img.height img.width 3 fun y x c =>
        img.pixel y x (if img.channels = 1 then 0 else c))
    | .error _ => none
  | _ => none

def resolveParts (parts : List String) : List String :=
  parts.foldl (fun acc part => if part = ".." then acc.dropLast else acc ++ [part]) []

/-- The parts below the working folder that a path names, with the steps upward taken, if it does not
start anywhere else. -/
def partsBelow? (files : Files) (path : String) : Option (List String) :=
  if path = files.home then some []
  else if path.startsWith (files.home ++ "/") then
    some (resolveParts (Path.parts (path.drop (files.home.length + 1)).toString))
  else if path.startsWith "/" then none
  else some (resolveParts (Path.parts path))

def absolute (files : Files) (path : String) : String :=
  match files.partsBelow? path with
  | some parts => "/".intercalate (files.home :: parts)
  | none => "/" ++ "/".intercalate (resolveParts (Path.parts path))

def openAtEnd (path : String) : Act Files (List String) := do
  let files ← Act.get
  let full := files.absolute path
  match files.partsBelow? path with
  | none => Act.fail (files.lookupFault full)
  | some parts =>
    match files.node? (.inside parts) with
    | some .folder => Act.fail (folderFault full)
    | some _ => return parts
    | none =>
      if path.toList.contains '\x00' || !files.isFolderAt (.inside parts.dropLast) then
        Act.fail (files.lookupFault full)
      Act.set (files.put parts (.file .empty))
      return parts

def append (files : Files) (parts : List String) (text : String) : Files :=
  { files with nodes := files.nodes.adjust parts (FileNode.extend text) }

def makeFolder (name : String) : Act Files Unit := do
  let files ← Act.get
  match files.node? (.inside [name]) with
  | some .folder => return
  | some _ => Act.fail (.failed .fileExists ("[Errno 17] File exists: " ++ Text.quoted name))
  | none => Act.set (files.put [name] .folder)

end Files

end FrameBatch
