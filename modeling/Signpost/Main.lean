import Signpost.CommandLine.Run

/-!
# The program

Reads the file that a command line needs, and prints the answer.
-/

namespace Signpost

def readFile (path : String) : IO (Except FileFault Bytes) := do
  match ← (IO.FS.readBinFile path).toBaseIO with
  | .ok bytes => return .ok bytes.toList
  | .error e =>
    return .error <|
      match e with
      | .noFileOrDirectory .. => .notFound
      | .inappropriateType _ _ "not a directory" => .notDirectory
      | .inappropriateType .. => .isDirectory
      | e => .other (toString e)

end Signpost

def main (args : List String) : IO UInt32 := do
  let request := Signpost.CommandLine.parse args
  let contents ←
    match request.file? with
    | some path => Signpost.readFile path
    | none => pure (.error .notFound)
  let outcome := request.answer contents
  (← IO.getStdout).putStr outcome.output
  (← IO.getStderr).putStr outcome.errors
  return outcome.code.toUInt32
