import ParserCombinators.Settings.Report
/-!
The settings command line: reads a document from standard input, prints the settings or the
rendered error, and exits with the status the command gives; a fault is reported on standard
error with status 1.
-/

open ParserCombinators

partial def readAll (stream : IO.FS.Stream) (acc : String) : IO String := do
  let chunk ← stream.getLine
  if chunk.isEmpty then return acc else readAll stream (acc ++ chunk)

def main : IO UInt32 := do
  let source ← readAll (← IO.getStdin) ""
  match Settings.command (Text.ofString source) with
  | .ok out =>
    let stdout ← IO.getStdout
    stdout.putStr out.stdout.toString
    stdout.flush
    return out.exit.toUInt32
  | .error f =>
    (← IO.getStderr).putStrLn f.message.toString
    return 1
