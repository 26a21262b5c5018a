import FrameBatch.Value.Text

/-!
Why an operation fails. A refusal is a check of this library or the word of a backend, and its
message is part of the interface; any other failure comes from below (reading a number, a file, an
array) and is told apart by its kind.
-/

namespace FrameBatch

abbrev Dim := Option Int

namespace Text

def ofDim : Dim → String
  | none => "None"
  | some n => toString n

def ofDims (dims : List Dim) : String := tupleOf (dims.map ofDim)

def ofShape (shape : List Nat) : String := tupleOf (shape.map toString)

def ofShapeTight : List Nat → String
  | [n] => s!"({n},)"
  | shape => "(" ++ ",".intercalate (shape.map toString) ++ ")"

end Text

inductive FaultKind where
  | value
  | type
  | index
  | key
  | field
  | overflow
  | runtime
  | unsupported
  | missingRuntime
  | fileNotFound
  | fileExists
  | notDirectory
  | isDirectory
  | undecodable
  | literal
  | noProduct
  | json
  | reader
  | scanner
  | parser
  | composer
  | constructor
  | picture
  | interrupt
  | exit
  | noObject
  deriving DecidableEq

inductive Refusal where
  -- configuration
  | configMissing (path : String)
  | configFormat
  | batchSize (given : Value)
  -- frames and tensors
  | notAnImage (shape : List Nat)
  | notPlanar (shape : List Nat)
  | slotOutOfRange (index : Value) (slots : Nat)
  | frameEmpty (shape : List Nat)
  | channelMismatch (frame tensor : Nat)
  | elementType (name : String)
  -- networks and descriptors
  | noInput (name : String)
  | maxBatchSize (given : Value)
  | alreadyBound (category role current provided : String)
  | inputCount (count : Nat)
  | imageInput (shapes : List (List Dim))
  | sequenceSize (expected : Nat) (name : String) (shape : List Dim)
  | outputCount (count : Nat)
  | simpleInput
  | simpleOutput
  | scalarTensor (name : String)
  | tensorTooSmall (name : String) (holds : Int) (requested : Value)
  | dynamicDimensions (name : String) (shape : List Dim)
  | dynamicRank (name : String)
  | reshape (batch : Int) (reason : String)
  -- results
  | locationSize (given : Value)
  | resultIndex (index : Value) (count : Nat)
  | outputTooShort (name : String) (size plates perPlate : Nat)
  -- pipelines
  | noEngine (category : String)
  | inputNotPlanar (name : String) (shape : List Nat)
  | inputTooSmall (name : String) (slots : Nat) (batch : Int)
  -- engines
  | modelMissing (path : String)
  | noModelIn (folder : String)
  | folderWithoutModel (folder : String)
  | modelFormat (extension : String)
  | engineKind (shown : String)
  | runtimeNotInstalled
  | tensorType (type name : String)
  | requestBusy
  | noTensor (name : String)
  | runFailed (reason : String)
  -- what a backend, a decoder or an output reports
  | noBackendTensor (name : String)
  | reported (kind : FaultKind) (text : String)
  -- sessions
  | absent (name : String)
  deriving Inhabited

inductive Fault where
  | refused (cause : Refusal)
  | failed (kind : FaultKind) (text : String)
  | interrupted
  | exit (code : Nat)
  deriving Inhabited

namespace Refusal

def kind : Refusal → FaultKind
  | .configMissing _ | .modelMissing _ | .noModelIn _ => .fileNotFound
  | .slotOutOfRange .. | .resultIndex .. => .index
  | .noInput _ | .noTensor _ => .key
  | .outputTooShort .. | .noEngine _ | .requestBusy | .runFailed _ | .noBackendTensor _ => .runtime
  | .engineKind _ => .unsupported
  | .runtimeNotInstalled => .missingRuntime
  | .reported kind _ => kind
  | .absent _ => .noObject
  | _ => .value

def message : Refusal → String
  | .configMissing path => s!"Config not found: {path}"
  | .configFormat => "Config must be .yml/.yaml or .json"
  | .batchSize given => "batch_size must be >= 1, got " ++ given.shown
  | .notAnImage shape =>
    "Expected a packed HxWxC image, got array with shape " ++ Text.ofShape shape
  | .notPlanar shape => "Expected an NCHW tensor, got shape " ++ Text.ofShape shape
  | .slotOutOfRange index slots =>
    "Batch index " ++ index.shown ++ s!" out of range for {slots} slot(s)"
  | .frameEmpty shape => "Frame is empty, shape " ++ Text.ofShape shape
  | .channelMismatch frame tensor => s!"Frame has {frame} channel(s), tensor expects {tensor}"
  | .elementType name => s!"Unsupported tensor element type: {name}"
  | .noInput name => s!"Network has no input named '{name}'"
  | .maxBatchSize given => "max_batch_size must be >= 1, got " ++ given.shown
  | .alreadyBound category role current provided =>
    s!"{category} model already bound {role}='{current}', network provides '{provided}'"
  | .inputCount count => s!"License plate topology should have exactly two inputs, got {count}"
  | .imageInput shapes =>
    "License plate topology needs one 4-D image input, got shapes ["
      ++ Text.commaSeparated (shapes.map Text.ofDims) ++ "]"
  | .sequenceSize expected name shape =>
    s!"License plate max sequence size mismatch: expected {expected}, network input '{name}' "
      ++ "has shape " ++ Text.ofDims shape
  | .outputCount count => s!"License plate network expects exactly one output, got {count}"
  | .simpleInput => "Simple model expects one 4-D input"
  | .simpleOutput => "Simple model expects one output"
  | .scalarTensor name => s!"Tensor '{name}' is a scalar, it cannot be batched"
  | .tensorTooSmall name holds requested =>
    s!"Tensor '{name}' holds {holds} frame(s), batch size " ++ requested.shown ++ " requested"
  | .dynamicDimensions name shape =>
    s!"Input '{name}' has dynamic dimensions " ++ Text.ofDims shape
  | .dynamicRank name => s!"Tensor '{name}' has a dynamic rank"
  | .reshape batch reason => s!"Network cannot run batch size {batch}: {reason}"
  | .locationSize given => "Location needs 4 values (x, y, width, height), got " ++ given.shown
  | .resultIndex index count =>
    "Result index " ++ index.shown ++ s!" out of range, {count} result(s) fetched"
  | .outputTooShort name size plates perPlate =>
    s!"Output '{name}' holds {size} values, {plates} plate(s) of {perPlate} expected"
  | .noEngine category => s!"No engine loaded for {category} inference"
  | .inputNotPlanar name shape => s!"Input '{name}' must be NCHW, got shape " ++ Text.ofShape shape
  | .inputTooSmall name slots batch =>
    s!"Input '{name}' holds {slots} frame(s), max batch size is {batch}"
  | .modelMissing path => s!"Model file not found: {path}"
  | .noModelIn folder => s!"No .xml model file found in {folder}"
  | .folderWithoutModel folder => s!"Directory {folder} doesn't contain OpenVINO .xml files"
  | .modelFormat extension =>
    s!"Unsupported model format: {extension}. Supported: ['.onnx', '.xml', '.bin'] "
      ++ "or OpenVINO directories"
  | .engineKind shown => s!"EngineType {shown} is not supported."
  | .runtimeNotInstalled => "OpenVINO is not installed. Install with: pip install openvino"
  | .tensorType type name => s!"Unsupported ONNX tensor type {type} for '{name}'"
  | .requestBusy => "Request is busy, wait for the running inference first"
  | .noTensor name => s!"No tensor named '{name}' (outputs exist after a run)"
  | .runFailed reason => s!"ONNX Runtime inference failed: {reason}"
  | .noBackendTensor name => s!"no tensor {name}"
  | .reported _ text => text
  | .absent name => name

end Refusal

namespace Fault

def kind : Fault → FaultKind
  | .refused cause => cause.kind
  | .failed kind _ => kind
  | .interrupted => .interrupt
  | .exit _ => .exit

/-- A failure of the backend, after which a batch is given up but the program goes on. -/
def isRuntime (f : Fault) : Bool := f.kind == .runtime

def words : Fault → String
  | .refused cause => cause.message
  | .failed _ text => text
  | .interrupted => ""
  | .exit code => toString code

def shown (f : Fault) : String :=
  match f.kind with
  | .key => Text.quoted f.words
  | _ => f.words

def message? : Fault → Option String
  | .refused cause => some cause.message
  | .failed .. => none
  | .interrupted => none
  | .exit code => some (toString code)

end Fault

def wrongType {α : Type} (text : String) : Except Fault α := .error (.failed .type text)

def refuse {α : Type} (cause : Refusal) : Except Fault α := .error (.refused cause)

end FrameBatch
