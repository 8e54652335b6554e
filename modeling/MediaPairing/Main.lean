import MediaPairing.CommandLine.Console

/-!
# The program

Reads the arguments and the log level of the environment, runs the command on a machine
without devices, and writes what comes of it.
-/

open MediaPairing

def main (args : List String) : IO UInt32 := do
  let logWord ← IO.getEnv "RUST_LOG"
  let (output, _) := invoke (args.map Utf8.encode) logWord {}
  (← IO.getStdout).putStr output.stdout
  (← IO.getStderr).putStr output.stderr
  return output.status
