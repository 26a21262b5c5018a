import FrameBatch.Yaml.Lexer
import FrameBatch.Yaml.Plain

/-!
Nodes: the contents of a document, each with its tag and the mark where it starts. An alias stands
for the node of its anchor.
-/

namespace FrameBatch.Yaml

inductive Node where
  | scalar (start : Mark) (tag text : String)
  | sequence (start : Mark) (tag : String) (items : List Node)
  | mapping (start : Mark) (tag : String) (entries : List (Node × Node))
  /-- an alias inside the node of its own anchor -/
  | endless (start : Mark)
  deriving Inhabited

def Node.start : Node → Mark
  | .scalar start _ _ | .sequence start _ _ | .mapping start _ _ | .endless start => start

structure Reader where
  lexemes : List Lexeme
  finish : Mark
  /-- the fault after the last token -/
  fault : Option Fault
  handles : Entries String String := []
  /-- the nodes of the anchors so far; nothing while a node is being read -/
  anchors : Entries String (Mark × Option Node) := []

abbrev Read := StateT Reader (Except Fault)

namespace Read

def parseFault {α : Type} (subject : Option Subject) (problem : String) (m : Mark) : Read α :=
  throw (complaint .parser subject problem m)

def composeFault {α : Type} (subject : Option Subject) (problem : String) (m : Mark) : Read α :=
  throw (complaint .composer subject problem m)

def peek : Read Lexeme := do
  let r ← get
  match r.lexemes, r.fault with
  | l :: _, _ => return l
  | [], some f => throw f
  | [], none => return ⟨.streamEnd, r.finish, r.finish⟩

def head : Read Token := Lexeme.token <$> peek

def drop : Read Unit := modify fun r => { r with lexemes := r.lexemes.drop 1 }

def unexpected {α : Type} (subject : Option Subject) (expected : String) : Read α := do
  let l ← peek
  parseFault subject (expected ++ " " ++ Text.quoted l.token.name) l.start

structure Properties where
  anchor : Option String := none
  tag : Option String := none
  start : Option Mark := none

def resolve (start m : Mark) : Option String → String → Read String
  | none, suffix => return suffix
  | some handle, suffix => do
    match (← get).handles.get? handle with
    | some meaning => return meaning ++ suffix
    | none =>
      parseFault (Subject.parsing "a node" start)
        ("found undefined tag handle " ++ Text.quoted handle) m

/-- The anchor and the tag in front of a node, in either order. -/
def properties : Read Properties := do
  let first ← peek
  match first.token with
  | .anchor name =>
    drop
    let second ← peek
    match second.token with
    | .tag handle suffix =>
      drop
      return ⟨name, ← resolve first.start second.start handle suffix, first.start⟩
    | _ => return ⟨name, none, first.start⟩
  | .tag handle suffix =>
    drop
    let anchor ← match ← head with
      | .anchor name => drop; pure (some name)
      | _ => pure none
    return ⟨anchor, ← resolve first.start first.start handle suffix, first.start⟩
  | _ => return {}

/-- Note that the node of an anchor begins; an anchor may not be used twice. -/
def openAnchor (start : Mark) : Option String → Read Unit
  | none => return
  | some name => do
    match (← get).anchors.get? name with
    | some (earlier, _) =>
      let title := s!"found duplicate anchor {Text.quoted name}; first occurrence"
      composeFault (Subject.mk title earlier) "second occurrence" start
    | none => modify fun r => { r with anchors := r.anchors.put name (start, none) }

def closeAnchor (anchor : Option String) (n : Node) : Read Node := do
  match anchor with
  | none => return n
  | some name =>
    modify fun r => { r with anchors := r.anchors.put name (n.start, some n) }
    return n

def aliased (name : String) (m : Mark) : Read Node := do
  match (← get).anchors.get? name with
  | some (_, some n) => return n
  | some (start, none) => return .endless start
  | none => composeFault none ("found undefined alias " ++ Text.quoted name) m

/-- A tag that leaves the choice to the contents. -/
def isOpen : Option String → Bool
  | none => true
  | some tag => tag == "!"

def tagOr (name : String) (tag : Option String) : String :=
  if isOpen tag then Plain.tagOf name else tag.getD ""

/-- A scalar; only a plain one is looked at for what it may be, or one that is tagged to be. -/
def scalarNode (start : Mark) (tag : Option String) (text : String) (isPlain : Bool) : Node :=
  match tag with
  | none => .scalar start (if isPlain then Plain.tag text else Plain.tagOf "str") text
  | some "!" => .scalar start (Plain.tag text) text
  | some tag => .scalar start tag text

def emptyNode (m : Mark) : Node := scalarNode m none "" true

def Token.isBlockEntry : Token → Bool
  | .blockEntry => true
  | _ => false

/-- Whether an entry of a block sequence is empty. -/
def endsItem : Token → Bool
  | .blockEntry | .blockEnd => true
  | _ => false

/-- Whether a part of a block mapping is empty. -/
def endsPart : Token → Bool
  | .key | .value | .blockEnd => true
  | _ => false

/-- Whether an entry of a sequence without indentation is empty. -/
def endsLooseItem (t : Token) : Bool := endsItem t || endsPart t

/-- Whether a part of a flow mapping is empty. -/
def endsFlowPart : Token → Bool
  | .flowEntry | .flowMappingEnd => true
  | _ => false

/-- Whether a part of a pair in a flow sequence is empty. -/
def endsPairPart : Token → Bool
  | .flowEntry | .flowSequenceEnd => true
  | _ => false

def isValue : Token → Bool
  | .value => true
  | _ => false

def unexpectedInFlow {α : Type} (noun : String) (start : Mark) (closing : String) : Read α :=
  unexpected (Subject.parsing noun start) s!"expected ',' or '{closing}', but got"

def unexpectedInBlock {α : Type} (noun : String) (start : Mark) : Read α :=
  unexpected (Subject.parsing noun start) "expected <block end>, but found"

def exhausted {α : Type} : Read α := unexpected none "expected <stream end>, but found"

mutual

/-- The next node. `isBlock` allows blocks, and `loose` a sequence that is not indented. -/
def node (isBlock loose : Bool) : Nat → Read Node
  | 0 => exhausted
  | fuel + 1 => do
    let first ← peek
    match first.token with
    | .alias name => drop; aliased name first.start
    | _ =>
      let ⟨anchor, tag, front⟩ ← properties
      let l ← peek
      let start := front.getD l.start
      if loose && Token.isBlockEntry l.token then
        openAnchor start anchor
        closeAnchor anchor (.sequence start (tagOr "seq" tag) (← looseItems fuel))
      else match l.token, isBlock with
        | .scalar text isPlain, _ =>
          openAnchor start anchor
          drop
          closeAnchor anchor (scalarNode start tag text isPlain)
        | .flowSequenceStart, _ =>
          openAnchor start anchor
          drop
          closeAnchor anchor (.sequence start (tagOr "seq" tag) (← flowItems l.start true fuel))
        | .flowMappingStart, _ =>
          openAnchor start anchor
          drop
          closeAnchor anchor (.mapping start (tagOr "map" tag) (← flowEntries l.start true fuel))
        | .blockSequenceStart, true =>
          openAnchor start anchor
          drop
          closeAnchor anchor (.sequence start (tagOr "seq" tag) (← blockItems l.start fuel))
        | .blockMappingStart, true =>
          openAnchor start anchor
          drop
          closeAnchor anchor (.mapping start (tagOr "map" tag) (← blockEntries l.start fuel))
        | _, _ =>
          if anchor.isNone && tag.isNone then
            let noun := if isBlock then "a block node" else "a flow node"
            unexpected (Subject.parsing noun start) "expected the node content, but found"
          else
            openAnchor start anchor
            closeAnchor anchor (scalarNode start tag "" true)

/-- A node unless the next token ends the place that it would stand in, which begins at a mark. -/
def nodeUnless (ends : Token → Bool) (isBlock loose : Bool) (m : Mark) : Nat → Read Node
  | 0 => exhausted
  | fuel + 1 => do if ends (← head) then return emptyNode m else node isBlock loose fuel

def blockItems (start : Mark) : Nat → Read (List Node)
  | 0 => exhausted
  | fuel + 1 => do
    let l ← peek
    match l.token with
    | .blockEntry =>
      drop
      let item ← nodeUnless endsItem true false l.stop fuel
      return item :: (← blockItems start fuel)
    | .blockEnd => drop; return []
    | _ => unexpectedInBlock "a block collection" start

/-- The items of a sequence that is not indented below its key. -/
def looseItems : Nat → Read (List Node)
  | 0 => return []
  | fuel + 1 => do
    let l ← peek
    match l.token with
    | .blockEntry =>
      drop
      let item ← nodeUnless endsLooseItem true false l.stop fuel
      return item :: (← looseItems fuel)
    | _ => return []

/-- The value of an entry; the colon in front of it may be missing. -/
def valueOf (ends : Token → Bool) (isBlock : Bool) : Nat → Read Node
  | 0 => exhausted
  | fuel + 1 => do
    let l ← peek
    if isValue l.token then
      drop
      nodeUnless ends isBlock isBlock l.stop fuel
    else return emptyNode l.start

def blockEntries (start : Mark) : Nat → Read (List (Node × Node))
  | 0 => exhausted
  | fuel + 1 => do
    let l ← peek
    match l.token with
    | .key =>
      drop
      let k ← nodeUnless endsPart true true l.stop fuel
      let v ← valueOf endsPart true fuel
      return (k, v) :: (← blockEntries start fuel)
    | .blockEnd => drop; return []
    | _ => unexpectedInBlock "a block mapping" start

def flowItems (start : Mark) (isFirst : Bool) : Nat → Read (List Node)
  | 0 => exhausted
  | fuel + 1 => do
    match ← head with
    | .flowSequenceEnd => drop; return []
    | t =>
      if !isFirst then
        match t with
        | .flowEntry => drop
        | _ => unexpectedInFlow "a flow sequence" start "]"
      let l ← peek
      match l.token with
      | .key =>
        drop
        let k ← nodeUnless (fun t => isValue t || endsPairPart t) false false l.stop fuel
        let v ← valueOf endsPairPart false fuel
        return .mapping l.start (Plain.tagOf "map") [(k, v)] :: (← flowItems start false fuel)
      | .flowSequenceEnd => drop; return []
      | _ =>
        let item ← node false false fuel
        return item :: (← flowItems start false fuel)

def flowEntries (start : Mark) (isFirst : Bool) : Nat → Read (List (Node × Node))
  | 0 => exhausted
  | fuel + 1 => do
    match ← head with
    | .flowMappingEnd => drop; return []
    | t =>
      if !isFirst then
        match t with
        | .flowEntry => drop
        | _ => unexpectedInFlow "a flow mapping" start "\x7d"
      let l ← peek
      match l.token with
      | .key =>
        drop
        let k ← nodeUnless (fun t => isValue t || endsFlowPart t) false false l.stop fuel
        let v ← valueOf endsFlowPart false fuel
        return (k, v) :: (← flowEntries start false fuel)
      | .flowMappingEnd => drop; return []
      | _ =>
        let k ← node false false fuel
        let after ← peek
        return (k, emptyNode after.start) :: (← flowEntries start false fuel)

end

/-! ### Documents -/

def defaultHandles : Entries String String := [("!", "!"), ("!!", "tag:yaml.org,2002:")]

/-- The directives in front of a document, which say what handles stand for. -/
def directives : Nat → Bool → Entries String String → Read (Entries String String)
  | 0, _, handles => return handles
  | fuel + 1, hasVersion, handles => do
    let l ← peek
    let bad (problem : String) : Read Unit := parseFault none problem l.start
    match l.token with
    | .directive d =>
      drop
      match d with
      | .version major _ =>
        if hasVersion then bad "found duplicate YAML directive"
        if major ≠ 1 then bad "found incompatible YAML document (version 1.* is required)"
        directives fuel true handles
      | .tagHandle handle address =>
        if handles.has handle then bad ("duplicate tag handle " ++ Text.quoted handle)
        directives fuel hasVersion (handles.put handle address)
      | .other => directives fuel hasVersion handles
    | _ => return handles

def skipDocumentEnds : Nat → Read Unit
  | 0 => return
  | fuel + 1 => do
    match ← head with
    | .documentEnd => drop; skipDocumentEnds fuel
    | _ => return

def isStreamEnd : Token → Bool
  | .streamEnd => true
  | _ => false

/-- The start of a document that is marked, after its directives. Returns where they start. -/
def documentStart (fuel : Nat) : Read Mark := do
  let first ← peek
  let handles ← directives fuel false []
  modify fun r => { r with
    handles := handles ++ defaultHandles.filter fun (handle, _) => !handles.has handle }
  match ← head with
  | .documentStart => drop; return first.start
  | _ => unexpected none "expected '<document start>', but found"

def document (fuel : Nat) : Read (Option Node) := do
  let root ← match ← head with
    | .streamEnd => return none
    | .directive _ | .documentStart => do
      discard <| documentStart fuel
      let l ← peek
      match l.token with
      | .directive _ | .documentStart | .documentEnd | .streamEnd => pure (emptyNode l.start)
      | _ => node true false fuel
    | _ => do
      modify fun r => { r with handles := defaultHandles }
      node true false fuel
  skipDocumentEnds fuel
  if isStreamEnd (← head) then return some root
  let again ← documentStart fuel
  composeFault (Subject.mk "expected a single document in the stream" root.start)
    "but found another document" again

end Read

/-- The node of a text. Every token is met a few times at most, which bounds the nesting. -/
def Node.ofText? (text : String) : Except Fault (Option Node) := do
  let t := Tokens.ofText text
  let fuel := 4 * t.lexemes.length + 8
  let reader : Reader := { lexemes := t.lexemes, finish := t.finish, fault := t.fault }
  return (← (Read.document fuel).run reader).1

end FrameBatch.Yaml
