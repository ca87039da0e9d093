import Widgetry.Demo
/-!
The command line of the demo.
-/
open Widgetry

def main (args : List String) : IO UInt32 := do
  let contents ← match Demo.stylePath none args with
    | .ok (some path) => try pure (some (← IO.FS.readBinFile path)) catch _ => pure none
    | _ => pure none
  let outcome := Demo.run args fun _ => contents
  (← IO.getStdout).putStr outcome.stdout
  (← IO.getStderr).putStr outcome.stderr
  return outcome.code
