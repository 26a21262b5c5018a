import FrameBatch.Files.Tree
import FrameBatch.Json.Reader
import FrameBatch.Yaml.Load

namespace FrameBatch.Config

inductive FileFormat where
  | yaml
  | json
  deriving DecidableEq

/-- The formats by extension, whose letter case does not count. -/
def formats : List (String × FileFormat) := [(".yml", .yaml), (".yaml", .yaml), (".json", .json)]

def formatOf? (path : String) : Option FileFormat := formats.lookup (Text.lower (Path.suffix path))

def FileFormat.read (format : FileFormat) (text : String) : Except Fault Value :=
  match format with
  | .json => Json.load text
  | .yaml => do
    let v ← Yaml.load text
    return if v.isTruthy then v else .map []

def load (files : Files) (path : Value) : Except Fault Value :=
  if !path.isTruthy then .ok (.map [])
  else match path with
    | .text s =>
      let file := Path.normal s
      if !files.exists? file then refuse (.configMissing s)
      else match formatOf? file with
        | none => refuse .configFormat
        | some format => do format.read (← files.readText file)
    | v => wrongType ("expected str, bytes or os.PathLike object, not " ++ v.typeName)

end FrameBatch.Config
