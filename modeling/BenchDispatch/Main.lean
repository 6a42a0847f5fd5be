import BenchDispatch.Cli.Program

/-!
# The `cbench` executable

Reads the command line, reads the configuration file and the replay file it names, and prints
what the program does with them. A run that keeps going until interrupted sleeps after printing
its output.
-/

set_option autoImplicit false

open BenchDispatch.Cli

/-- What reading a path finds. -/
def readPath (path : String) : IO FileState := do
  try
    pure (.text (← IO.FS.readFile path))
  catch e =>
    match e with
    | .noFileOrDirectory .. => pure .missing
    | _ => pure .unreadable

/-- Sleep until the process is interrupted. -/
partial def sleepForever : IO Unit := do
  IO.sleep 1000
  sleepForever

/-- Run `cbench` with its arguments. -/
def main (args : List String) : IO UInt32 := do
  let request := parse args
  let files ← match request with
    | .invoke invocation => do
      let config ← readPath invocation.config
      let replay ← match invocation.command with
        | .run (some path) _ => do pure [(path, ← readPath path)]
        | _ => pure []
      pure ((invocation.config, config) :: replay)
    | _ => pure []
  let outcome := execute request fun path => (files.lookup path).getD .missing
  IO.print outcome.stdout
  IO.eprint outcome.stderr
  (← IO.getStdout).flush
  if outcome.waits then sleepForever
  pure outcome.status.toUInt32
