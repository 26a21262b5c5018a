import FrameBatch.Location

namespace FrameBatch

structure Reading where
  license : String := ""
  sequence : List Nat := []
  deriving DecidableEq, Inhabited

structure Result where
  location : Rect
  /-- only results for plates have a reading, which is empty at first -/
  reading : Option Reading := none
  deriving Inhabited

namespace Result

def typeName (r : Result) : String :=
  if r.reading.isSome then "LicensePlateResult" else "Result"

end Result

end FrameBatch
