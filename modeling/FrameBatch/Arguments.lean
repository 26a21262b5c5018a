import FrameBatch.Config.Layers

/-!
Arguments of the command line. An option may be cut short as long as only one starts that way, and
its argument follows as the next word or after an equals sign. Help ends the program with 0, and
wrong usage with 2.
-/

namespace FrameBatch.Arguments

inductive Kind where
  | help
  | text
  | whole
  | real
  | switch
  | oneOf (choices : List String)

structure Setting where
  /-- the name, without its dashes -/
  name : String
  kind : Kind

def settings : List Setting := [
  ⟨"config", .text⟩,
  ⟨"img_path", .text⟩,
  ⟨"model", .text⟩,
  ⟨"device", .text⟩,
  ⟨"batch_size", .whole⟩,
  ⟨"scale_factor", .real⟩,
  ⟨"async_mode", .switch⟩,
  ⟨"log_level", .oneOf ["DEBUG", "INFO", "WARNING", "ERROR", "CRITICAL"]⟩]

def spellings : List (String × Setting) :=
  let help : Setting := ⟨"help", .help⟩
  ("-h", help) :: ("--help", help) :: settings.map fun s => ("--" ++ s.name, s)

inductive Word where
  | option (setting : Setting) (attached : Option String)
  /-- the short option for help with more letters after it -/
  | helpLetters (letters : List Char)
  | unknownOption
  | plain
  /-- after this word all are plain -/
  | divider

def usage {α : Type} : Except Fault α := .error (.exit 2)

def splitAtEquals (s : String) : String × Option String :=
  let cs := s.toList
  match cs.dropWhile (· != '=') with
  | [] => (s, none)
  | _ :: after => (String.ofList (cs.takeWhile (· != '=')), some (String.ofList after))

def isNegativeNumber (s : String) : Bool :=
  let isDigit (c : Char) : Bool := (Text.digitValue? c).isSome
  match s.toList with
  | '-' :: cs =>
    let cs := if cs.getLast? = some '\n' then cs.dropLast else cs
    match cs.dropWhile isDigit with
    | [] => !cs.isEmpty
    | '.' :: places => !places.isEmpty && places.all isDigit
    | _ => false
  | _ => false

/-- The options that a word in full or cut short may stand for. -/
def candidates (word : String) : List Word :=
  if word.startsWith "--" then
    let (start, attached) := splitAtEquals word
    spellings.filterMap fun (spelling, setting) =>
      if spelling.startsWith start then some (.option setting attached) else none
  else if word.startsWith "-h" then [.helpLetters (word.toList.drop 2)]
  else []

/-- What a word is. A spelling in full comes before all others that start like it. -/
def classify (word : String) : Except Fault Word :=
  if !word.startsWith "-" || word = "-" then .ok .plain
  else match spellings.lookup word with
    | some setting => .ok (.option setting none)
    | none =>
      let (start, attached) := splitAtEquals word
      match attached, spellings.lookup start with
      | some text, some setting => .ok (.option setting (some text))
      | _, _ =>
        match candidates word with
        | [only] => .ok only
        | [] =>
          if isNegativeNumber word || word.toList.contains ' ' then .ok .plain
          else .ok .unknownOption
        | _ => usage

def classifyAll : List String → Except Fault (List (String × Word))
  | [] => .ok []
  | "--" :: rest => .ok (("--", .divider) :: rest.map fun word => (word, .plain))
  | word :: rest => do return (word, ← classify word) :: (← classifyAll rest)

def valueOf (kind : Kind) (argument : String) : Except Fault Value :=
  match kind with
  | .whole =>
    match Numeral.readInt argument with
    | .ok z => .ok (.int z)
    | .error _ => usage
  | .real =>
    match Numeral.readFloat? argument with
    | some x => .ok (.float x)
    | none => usage
  | .oneOf choices => if choices.contains argument then .ok (.text argument) else usage
  | _ => .ok (.text argument)

/-- Whether help comes of the letters after its short option: each more letter is an option again,
and only a dash or an equals sign is wrong there. -/
def givesHelp : List Char → Bool
  | [] => true
  | '-' :: _ => false
  | 'h' :: '=' :: _ => false
  | 'h' :: rest => givesHelp rest
  | _ => true

/-- Carry out the words from left to right. Returns the settings, and whether there was a word that
belongs to no option. -/
def carryOut : List (String × Word) → Entries String Value → Bool →
    Except Fault (Entries String Value × Bool)
  | [], given, stray => .ok (given, stray)
  | (_, .helpLetters letters) :: _, _, _ => if givesHelp letters then .error (.exit 0) else usage
  | (_, .option setting attached) :: rest, given, stray =>
    match setting.kind, attached with
    | .help, none => .error (.exit 0)
    | .help, some _ => usage
    | .switch, none => carryOut rest (given.put setting.name (.bool true)) stray
    | .switch, some _ => usage
    | kind, some text => do carryOut rest (given.put setting.name (← valueOf kind text)) stray
    | kind, none =>
      match rest with
      | (word, .plain) :: rest' => do
        carryOut rest' (given.put setting.name (← valueOf kind word)) stray
      | _ => usage
  | _ :: rest, given, _ => carryOut rest given true

def read (words : List String) : Except Fault (List (String × Value)) := do
  let start := settings.map fun s => (s.name, Value.null)
  let (given, stray) ← carryOut (← classifyAll words) start false
  if stray then usage else return given

end FrameBatch.Arguments
