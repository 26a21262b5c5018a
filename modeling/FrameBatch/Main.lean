import FrameBatch.Files.Archive
import FrameBatch.Recognition.Run

/-!
The command line. The working folder is read from standard input as an archive; records for the
console go to standard error, and those for a file to standard output. No runtime is linked.
-/

namespace FrameBatch

partial def readAll (input : IO.FS.Stream) (read : ByteArray) : IO ByteArray := do
  let more ← input.read 65536
  if more.isEmpty then return read else readAll input (read ++ more)

def noRuntime : Recognition.Surroundings :=
  { runtime := { onnx := { fail := some "no runtime is linked" }, available := false } }

/-- A clock that stands still, since a run is one step to this layer. -/
def stillClock : Clock := ⟨fun _ => Format.double.zero, 0⟩

/-- The lines that are in the files of a journal and not in those of another one. -/
def newLines (before after : Journal) : List String :=
  after.fileLines.flatMap fun (path, lines) =>
    lines.drop ((before.fileLines.lookup path).map (·.length) |>.getD 0)

end FrameBatch

open FrameBatch in
def main (words : List String) : IO UInt32 := do
  let home := (← IO.getEnv "PWD").getD ""
  let archive ← readAll (← IO.getStdin) .empty
  let time := toString (← IO.monoMsNow)
  let journal := Journal.fresh (Files.ofArchive home archive) time time
  let start := Recognition.State.start noRuntime journal stillClock stillClock
  let outcome := Recognition.runProgram noRuntime words start
  let after := Recognition.journalOf outcome
  (newLines journal after).forM IO.println
  after.console.forM IO.eprintln
  match outcome.result with
  | .ok code => return code.toUInt32
  | .error f =>
    IO.eprintln f.words
    return 1
