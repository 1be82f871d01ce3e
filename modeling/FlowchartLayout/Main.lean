import FlowchartLayout.CommandLine

/-!
# Program
-/

namespace FlowchartLayout

/-- Everything that a stream gives until it ends. -/
partial def readToEnd (stream : IO.FS.Stream) (acc : ByteArray) : IO ByteArray := do
  let bytes ← stream.read 65536
  if bytes.isEmpty then return acc else readToEnd stream (acc ++ bytes)

/-- The contents of a file, if it can be read. -/
def readFile? (path : String) : IO (Option ByteArray) := do
  try
    return some (← IO.FS.readBinFile path)
  catch _ =>
    return none

end FlowchartLayout

open FlowchartLayout in
/-- Lays out the source text from a file or from standard input and prints the document. -/
def main (args : List String) : IO UInt32 := do
  let file? := (Options.ofArgs? args).bind Options.file
  let contents? ← file?.mapM readFile?
  let input ← if file?.isSome then pure .empty else readToEnd (← IO.getStdin) .empty
  let outcome := run args (fun _ => contents?.join) input
  (← IO.getStdout).putStr outcome.standardOutput
  (← IO.getStderr).putStr outcome.standardError
  return outcome.exitCode.toUInt32
