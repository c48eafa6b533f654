import LineMachine.CommandLine.Run

/-!
# `LineMachine.Main`: the program

Reads the files that a command needs, carries it out, and prints what it
leaves behind.
-/

set_option autoImplicit false

namespace LineMachine.CommandLine

/-- The content of a file. -/
def readContent (path : String) : IO FileContent := do
  try
    let content ← IO.FS.readBinFile path
    return .bytes content.toList
  catch
    | .inappropriateType .. => return .directory
    | _ => return .missing

/-- All bytes of a stream. -/
partial def readBytes (stream : IO.FS.Stream) (soFar : ByteArray) : IO ByteArray := do
  let chunk ← stream.read 65536
  if chunk.isEmpty then return soFar else readBytes stream (soFar ++ chunk)

end LineMachine.CommandLine

open LineMachine.CommandLine

/-- Carries out the words of the command line. -/
def main (words : List String) : IO UInt32 := do
  let contents ← (filesOf words).mapM fun path => return (path, ← readContent path)
  let stdin ← if readsStdin words then readBytes (← IO.getStdin) ByteArray.empty
    else pure ByteArray.empty
  let world : World := ⟨fun path => (contents.lookup path).getD .missing, stdin.toList⟩
  let result := execute world words
  (← IO.getStdout).putStr result.stdout
  (← IO.getStderr).putStr result.stderr
  return UInt32.ofNat result.code
