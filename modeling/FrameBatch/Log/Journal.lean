import FrameBatch.Entries
import FrameBatch.Files.Tree
import FrameBatch.Log.Level

/-!
Journals: a tree of loggers and what their records leave on the console and in files. A record goes
to the handlers of its logger and of those above it, as far as records are passed on.
-/

namespace FrameBatch

inductive Handler where
  | silent
  | console
  | file (parts : List String)
  /-- shows the bare message of a record that met no handler -/
  | lastResort
  deriving DecidableEq

structure Logger where
  disabled : Bool := false
  /-- the least level; zero leaves it to the loggers above -/
  level : Level := ⟨0⟩
  passesOn : Bool := true
  handlers : List Handler := []
  deriving Inhabited

structure Journal where
  loggers : Entries String Logger
  files : Files
  console : List String := []
  time : String
  fileTime : String
  deriving Inhabited

namespace Journal

def rootName : String := "root"

def libraryName : String := "vinobatch"

/-- A journal of which nothing is set up: records of the library are dropped, and others are shown
from warnings on. -/
def fresh (files : Files) (time fileTime : String) : Journal :=
  { loggers := [(rootName, { level := .warning }), (libraryName, { handlers := [.silent] })]
    files, time, fileTime }

/-- The starts of a name before one of its points, longest first; all names are written backwards. A
point right before a point that counted does not count itself. -/
def starts : List Char → List (List Char)
  | '.' :: c :: rest => (c :: rest) :: starts rest
  | _ :: rest => starts rest
  | [] => []

def chain (name : String) : List String :=
  if name = rootName then [rootName]
  else
    name :: (starts name.toList.reverse).map (fun start => String.ofList start.reverse)
      ++ [rootName]

def logger (j : Journal) (name : String) : Logger := (j.loggers.get? name).getD {}

def adjust (name : String) (f : Logger → Logger) (j : Journal) : Journal :=
  { j with loggers := j.loggers.put name (f (j.logger name)) }

def effectiveLevel (j : Journal) (name : String) : Level :=
  (((chain name).map fun n => (j.logger n).level).find? fun level => level.rank != 0).getD ⟨0⟩

def takes (j : Journal) (name : String) (level : Level) : Bool :=
  !(j.logger name).disabled && 0 < level.rank && (j.effectiveLevel name).rank ≤ level.rank

def gather : List Logger → List Handler
  | [] => []
  | l :: above => l.handlers ++ if l.passesOn then gather above else []

def handlersOf (j : Journal) (name : String) : List Handler := gather ((chain name).map j.logger)

def route (j : Journal) (r : Record) : List Handler :=
  if !j.takes r.logger r.level then []
  else match j.handlersOf r.logger with
    | [] => if Level.warning.rank ≤ r.level.rank then [.lastResort] else []
    | handlers => handlers

/-- A record as a line shows it; its message may go on over more lines. -/
def line (j : Journal) (r : Record) : String :=
  j.time ++ " - " ++ r.logger ++ " - " ++ r.level.name ++ " - " ++ r.message

def linesOf (text : String) : List String :=
  let lines := text.splitOn "\n"
  if lines.getLast? = some "" then lines.dropLast else lines

def fileLines (j : Journal) : List (String × List String) :=
  let written (parts : List String) (bytes : ByteArray) :=
    some ("/".intercalate parts, linesOf ((String.fromUTF8? bytes).getD ""))
  let texts := j.files.nodes.filterMap fun (parts, node) =>
    match node with
    | .folder => none
    | .file bytes => written parts bytes
    | .picture _ after => written parts after
  texts.mergeSort fun a b => decide (a.1 ≤ b.1)

def hand (r : Record) (j : Journal) : Handler → Journal
  | .silent => j
  | .console => { j with console := j.console ++ (j.line r).splitOn "\n" }
  | .file parts => { j with files := j.files.append parts (j.line r ++ "\n") }
  | .lastResort => { j with console := j.console ++ r.message.splitOn "\n" }

def write (r : Record) (j : Journal) : Journal := (j.route r).foldl (hand r) j

def writeAll (trail : List Event) (j : Journal) : Journal :=
  trail.foldl (fun j e => match e with | .log r => j.write r | .call _ | .freed => j) j

end Journal

end FrameBatch
