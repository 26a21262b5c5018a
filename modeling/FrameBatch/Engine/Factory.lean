import FrameBatch.Engine.Basic
import FrameBatch.Files.Tree

namespace FrameBatch

namespace EngineKind

def extensions : List (String × EngineKind) :=
  [(".onnx", .onnx), (".xml", .openvino), (".bin", .openvino)]

def holdsModel (names : List String) : Bool := names.any (·.endsWith ".xml")

/-- The runtime for a model: a folder must hold a model of the OpenVINO runtime, and of a file the
extension decides. -/
def ofPath (files : Files) (path : Value) : Except Fault EngineKind := do
  match path with
  | .text s =>
    if files.isFolder s then
      if holdsModel (← files.list s) then return .openvino else refuse (.folderWithoutModel s)
    else
      let extension := Text.lower (Path.extension s)
      match extensions.lookup extension with
      | some kind => return kind
      | none => refuse (.modelFormat extension)
  | v => wrongType ("expected str, bytes or os.PathLike object, not " ++ v.typeName)

end EngineKind

structure Runtime where
  onnx : Onnx.Source := {}
  openvino : OpenVino.Source := {}
  script : Script := ⟨[], 0⟩
  available : Bool := true
  deriving Inhabited

namespace Runtime

def openOnnx (rt : Runtime) (files : Files) (path device : String) :
    Act Unit (Engine × Network) := do
  if !files.exists? (Path.normal path) then Act.fail (.refused (.modelMissing path))
  let (e, network) ← Onnx.create (Path.name path) device rt.onnx rt.script
  return (.onnx e, network)

def modelsIn (names : List String) : List String := names.filter (·.endsWith ".xml")

def openOpenVino (rt : Runtime) (files : Files) (path device : String) (threads : Value) :
    Act Unit (Engine × Network) := do
  if !rt.available then Act.fail (.refused .runtimeNotInstalled)
  let device ← OpenVino.startRuntime device threads
  let path := Path.normal path
  let file ←
    if files.isFolder path then
      match modelsIn (← files.list path) with
      | [] => Act.fail (.refused (.noModelIn path))
      | name :: _ => pure name
    else if files.exists? path then pure (Path.name path)
    else Act.fail (.refused (.modelMissing path))
  let (e, network) ← OpenVino.create device file rt.openvino rt.script
  return (.openvino e, network)

def factoryLogger : String := "vinobatch.engines.factory"

/-- What a caller asks for instead of the runtime that the path decides. -/
inductive Choice where
  | byPath
  | kind (k : EngineKind)
  | foreign (name shown : String)

def makeEngine (rt : Runtime) (files : Files) (path : Value) (device : String) (choice : Choice) :
    Act Unit (Engine × Network) := do
  match path with
  | .text s =>
    if !files.exists? s then Act.fail (.refused (.modelMissing s))
    let announce (name : String) : Act Unit Unit :=
      Act.log .info factoryLogger ("Creating " ++ name ++ " engine for model: " ++ s)
    let open' (kind : EngineKind) : Act Unit (Engine × Network) := do
      announce kind.name
      match kind with
      | .openvino => rt.openOpenVino files s device .null
      | .onnx => rt.openOnnx files s device
    match choice with
    | .byPath => open' (← EngineKind.ofPath files path)
    | .kind k => open' k
    | .foreign name shown =>
      announce name
      Act.fail (.refused (.engineKind shown))
  | v => Act.lift (wrongType ("expected str, bytes or os.PathLike object, not " ++ v.typeName))

end Runtime

end FrameBatch
