import BenchDispatch.Cli.Args
import BenchDispatch.Cli.Replay
import BenchDispatch.Config.Read
import BenchDispatch.Service.Runner

/-!
# The program

What `cbench` prints and the status it exits with, for a command line and the files it reads.
`check-config` validates the configuration file (the defaults when there is none), prints its
warnings on standard error, then the settings. `run` starts the orchestrator on an in-process
broker, publishes the replay file, lets the handlers take every message, and prints what
reached the work queue and then the output queue; with `--exit-when-idle` it stops once the
inbound queues are settled, and otherwise it keeps running until interrupted.

Failures are reported as `Error: ` and a context line, then the cause the program itself
gives, if any, after `Caused by:`; they exit with status 1. Usage errors exit with status 2.
-/

set_option autoImplicit false

namespace BenchDispatch.Cli

open Broker

/-- What reading a file found. -/
inductive FileState where
  /-- Nothing exists at the path. -/
  | missing
  /-- Something exists but cannot be read as text. -/
  | unreadable
  /-- The file's text. -/
  | text (content : String)
  deriving DecidableEq, Repr

/-- What the program does: its output, its exit status, and whether it keeps running. -/
structure Outcome where
  stdout : String
  stderr : String
  status : Nat
  waits : Bool
  deriving DecidableEq, Repr

/-- The version line. -/
def versionLine : String := "cbench 0.3.1"

/-- How a path is quoted in messages: between double quotes, with quotes, backslashes and
control characters escaped. -/
def quotePath (path : String) : String :=
  let escape (c : Char) : String :=
    if c == '"' then "\\\""
    else if c == '\\' then "\\\\"
    else if c == '\n' then "\\n"
    else if c == '\r' then "\\r"
    else if c == '\t' then "\\t"
    else if c.toNat == 0 then "\\0"
    else if c.toNat < 0x20 || c.toNat == 0x7F then
      "\\u\x7b" ++ String.ofList (Nat.toDigits 16 c.toNat) ++ "\x7d"
    else c.toString
  "\"" ++ String.join (path.toList.map escape) ++ "\""

/-- A failure report: the context line and the program's own cause. -/
def report (context : String) (cause : Option String) : String :=
  "Error: " ++ context ++ "\n" ++
    match cause with
    | some c => "\nCaused by:\n    " ++ c ++ "\n"
    | none => ""

/-- An outcome that failed with a report after some standard error output. -/
def failed (stderr : String) (text : String) : Outcome :=
  { stdout := "", stderr := stderr ++ text, status := 1, waits := false }

/-- The configuration at a path: the defaults when there is no file. -/
def loadConfig (path : String) : FileState → Except String OrchestratorConfig
  | .missing => .ok {}
  | .unreadable => .error (report s!"Failed to load config from {quotePath path}" none)
  | .text content =>
    match OrchestratorConfig.ofYaml content with
    | .ok config => .ok config
    | .error e => .error (report s!"Failed to load config from {quotePath path}" (some e.message))

/-- The settings of the configuration at a path, and the warnings printed on the way; or the
report of why there are none, after the warnings printed before it. -/
def loadSettings (path : String) (file : FileState) : Except String (Settings × String) := do
  let config ← loadConfig path file
  let warnings ← match config.validate with
    | .ok ws => pure ws
    | .error e => throw (report "Configuration validation failed" (some e.message))
  let printed := String.join (warnings.map (·.text ++ "\n"))
  match config.settings with
  | .ok settings => pure (settings, printed)
  | .error e => throw (printed ++ report "Configuration validation failed" (some e.message))

/-- What `check-config` prints for settings. -/
def describe (settings : Settings) : String :=
  let targets := match settings.targetPatterns with
    | [] => ["targets:  all"]
    | patterns => patterns.map fun p => "targets:  " ++ p.text
  String.join ((["events:   " ++ settings.eventQueue, "results:  " ++ settings.resultQueue,
    "requests: " ++ settings.workQueue, "outputs:  " ++ settings.outputQueue] ++ targets ++
    ["admit all: " ++ toString settings.admitAll,
      "handler concurrency: " ++ toString settings.handlerConcurrency,
      "Configuration OK"]).map (· ++ "\n"))

/-- `check-config`. -/
def checkConfig (path : String) (file : FileState) : Outcome :=
  match loadSettings path file with
  | .error text => failed "" text
  | .ok (settings, warnings) =>
    { stdout := describe settings, stderr := warnings, status := 0, waits := false }

/-- What a run aborted by a handler concurrency beyond the semaphore's reach writes. -/
def permitPanic : String :=
  "thread 'main' panicked:\na semaphore may not have more than MAX_PERMITS permits (" ++
    toString maxPermits ++ ")\n"

/-- Whether a queue holds nothing, waiting or unacknowledged. -/
def settledQueue (hub : Hub) (queue : String) : Bool :=
  hub.readyLength queue == 0 && hub.unackedLength queue == 0

/-- Publish a replay file's lines. -/
def publishReplay (path : String) (file : FileState) (runner : ServiceRunner) :
    Except String ServiceRunner :=
  match file with
  | .text content =>
    match readReplay content with
    | .error (.invalidLine n) => .error (report s!"{path}:{n}: invalid replay line" none)
    | .error (.emptyQueue n) => .error (report s!"{path}:{n}: replay line has an empty queue" none)
    | .ok lines =>
      .ok (lines.foldl (fun runner line =>
        { runner with clients := { runner.clients with
          hub := runner.clients.hub.publish line.queue line.message } }) runner)
  | _ => .error (report s!"Failed to read replay file {quotePath path}" none)

/-- `run`: start, publish the replay, hand every message to the handlers, print the outbound
queues, and stop when asked to once the inbound queues are settled. -/
def run (settings : Settings) (warnings : String) (replay : Option (String × FileState))
    (exitWhenIdle : Bool) : Outcome :=
  match (ServiceRunner.create settings Hub.empty).runAsync with
  | (.aborted, _) => { stdout := "", stderr := warnings ++ permitPanic, status := 101, waits := false }
  | (.failed e, _) => failed warnings (report "Failed to start orchestrator" (some e.message))
  | (.started handle, runner) =>
    let published := match replay with
      | some (path, file) => publishReplay path file runner
      | none => .ok runner
    match published with
    | .error text => failed warnings text
    | .ok runner =>
      let runner := runner.deliverWaiting handle
      let (printed, hub) := [settings.workQueue, settings.outputQueue].foldl
        (fun (acc : String × Hub) queue =>
          let (messages, hub) := acc.2.drain queue
          (acc.1 ++ String.join (messages.map fun m => outputLine queue m ++ "\n"), hub))
        ("", runner.clients.hub)
      let settled := settledQueue hub settings.eventQueue && settledQueue hub settings.resultQueue
      { stdout := printed, stderr := warnings, status := 0, waits := !(exitWhenIdle && settled) }

/-- Carry out a command line, given what reading a path finds. -/
def execute (request : Request) (files : String → FileState) : Outcome :=
  match request with
  | .help text false => { stdout := text, stderr := "", status := 0, waits := false }
  | .help text true => { stdout := "", stderr := text, status := 2, waits := false }
  | .version => { stdout := versionLine ++ "\n", stderr := "", status := 0, waits := false }
  | .usageError message usage =>
    { stdout := "",
      stderr := "error: " ++ message ++ "\n\nUsage: " ++ usage ++ "\n\nFor more information, try '--help'.\n",
      status := 2, waits := false }
  | .invoke invocation =>
    match invocation.command with
    | .checkConfig => checkConfig invocation.config (files invocation.config)
    | .run replay exitWhenIdle =>
      match loadSettings invocation.config (files invocation.config) with
      | .error text => failed "" text
      | .ok (settings, warnings) =>
        run settings warnings (replay.map fun path => (path, files path)) exitWhenIdle

end BenchDispatch.Cli
