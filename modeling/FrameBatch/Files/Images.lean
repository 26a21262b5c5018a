import FrameBatch.Files.Tree
import FrameBatch.Text.Case

namespace FrameBatch.Files

def imageExtensions : List String := [".jpg", ".jpeg", ".png", ".bmp", ".tiff", ".tif"]

def isImageName (name : String) : Bool := imageExtensions.contains (Text.lower (Path.suffix name))

def images (files : Files) (folder : String) : Except Fault (List String) := do
  let folder := Path.normal folder
  let names := (← files.list folder).filter isImageName
  return (names.mergeSort fun a b => decide (a ≤ b)).map (Path.join folder)

end FrameBatch.Files
