import FrameBatch.Log.Journal
import FrameBatch.Config.Layers
import FrameBatch.Text.Case

/-!
Set-up of the library's logger: its level, whether it is silent, and where its records go. What was
changed before a set-up fails stays changed.
-/

namespace FrameBatch.Journal

/-- Names that mean something else to a set-up than a level. -/
def otherNames : List (String × FaultKind) := [("BASIC_FORMAT", .value), ("_STYLES", .type)]

def levelOf : Value → Except Fault Level
  | .text s =>
    let name := Text.upper s
    match Level.names.lookup name, otherNames.lookup name with
    | some level, _ => .ok level
    | none, some kind => .error (.failed kind ("Unknown level: " ++ Text.quoted name))
    | none, none =>
      .error (.failed .field ("module 'logging' has no attribute '" ++ name ++ "'"))
  | v => v.noField "upper"

def named : Value → Except Fault String
  | .text s => .ok (if s = "" then rootName else s)
  | v => if v.isTruthy then wrongType "A logger name must be a string" else .ok rootName

structure Options where
  enabled : Bool := false
  level : Value := .text "INFO"
  toConsole : Bool := true
  toFile : Bool := false
  path : Value := .null

def onFiles {α : Type} (x : Act Files α) : Act Journal α :=
  x.on (·.files) fun files j => { j with files }

def update (f : Logger → Logger) : Act Journal Unit := Act.modify (adjust libraryName f)

def note (message : String) : Act Journal Unit :=
  Act.modify (write ⟨.info, libraryName, message⟩)

/-- The path of the file for records, in a folder that is made for it unless a path is given. -/
def logPath (given : Value) : Act Journal String := do
  match given with
  | .null =>
    onFiles (Files.makeFolder "logs")
    return "logs/vinobatch_" ++ (← Act.get).fileTime ++ ".log"
  | .text path => return path
  | v => Act.lift (wrongType ("expected str, bytes or os.PathLike object, not " ++ v.typeName))

def addFile (given : Value) : Act Journal String := do
  let path ← logPath given
  let parts ← onFiles (Files.openAtEnd path)
  update fun l => { l with handlers := l.handlers ++ [.file parts] }
  return path

def setUp (o : Options) : Act Journal Unit := do
  if !o.enabled then
    update fun l => { l with disabled := true }
  else
    update fun l => { l with disabled := false }
    let level ← levelOf o.level
    update fun l => { l with level, handlers := [] }
    if o.toConsole then update fun l => { l with handlers := [.console] }
    let path ← if o.toFile then some <$> addFile o.path else pure none
    update fun l => { l with passesOn := false }
    note ("vinobatch logging initialized - Level: " ++ o.level.shown)
    match path with
    | some path => note ("Log file: " ++ path)
    | none => return

/-- The logger that a caller is given: that of the set-up itself unless one is named. -/
def given (name : Value) : Except Fault String :=
  if name.isNull then .ok (libraryName ++ ".utils") else named name

def target (name : Value) : Except Fault String :=
  if name.isNull then .ok libraryName else named name

def disable (name : Value) : Act Journal Unit := do
  let name ← target name
  Act.modify (adjust name fun l => { l with disabled := true })

def enable (name level : Value) : Act Journal Unit := do
  let name ← target name
  Act.modify (adjust name fun l => { l with disabled := false })
  let level ← levelOf level
  Act.modify (adjust name fun l => { l with level })

end FrameBatch.Journal
