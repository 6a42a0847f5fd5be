/-!
# The command line

`cbench [OPTIONS] <COMMAND>` runs one of two commands, `run` and `check-config`, or the help
command. `-c, --config <CONFIG>` (default `cbench.yml`) and `-v, --verbose` are accepted before
the command and after it; `-h, --help` everywhere; `-V, --version` only before the command;
`run` also takes `--replay <REPLAY>` and `--exit-when-idle`.

Reading follows the usual conventions: `--name=value` and `-cvalue` attach a value, `-vc`
groups short flags, `--` ends the options, and an option given twice, a flag given a value, a
missing value, an unknown argument and a missing command are usage errors. Help and version
requests are answered as soon as they are read.
-/

set_option autoImplicit false

namespace BenchDispatch.Cli

/-- What to run. -/
inductive Command where
  /-- Run the orchestrator, publishing a replay file first, and stop once idle if asked. -/
  | run (replay : Option String) (exitWhenIdle : Bool)
  /-- Validate the configuration and print it. -/
  | checkConfig
  deriving DecidableEq, Repr

/-- A command with its options. -/
structure Invocation where
  command : Command
  config : String
  verbose : Bool
  deriving DecidableEq, Repr

/-- What the command line asks for. -/
inductive Request where
  /-- Run a command. -/
  | invoke (invocation : Invocation)
  /-- Print a help text: on standard output when asked for, on standard error (a usage
  failure) when nothing at all was given. -/
  | help (text : String) (onError : Bool)
  /-- Print the version. -/
  | version
  /-- A usage error: its message and the usage line of the command it concerns. -/
  | usageError (message usage : String)
  deriving DecidableEq, Repr

/-- The options and flags. -/
inductive Switch where
  | config
  | verbose
  | help
  | version
  | replay
  | exitWhenIdle
  deriving DecidableEq, Repr

/-- The levels of the command line: before the command, and inside each command. -/
inductive Scope where
  | top
  | run
  | checkConfig
  deriving DecidableEq, Repr

namespace Switch

/-- The long name. -/
def long : Switch → String
  | .config => "config"
  | .verbose => "verbose"
  | .help => "help"
  | .version => "version"
  | .replay => "replay"
  | .exitWhenIdle => "exit-when-idle"

/-- The short name, if any. -/
def short : Switch → Option Char
  | .config => some 'c'
  | .verbose => some 'v'
  | .help => some 'h'
  | .version => some 'V'
  | _ => none

/-- Whether it takes a value. -/
def takesValue : Switch → Bool
  | .config | .replay => true
  | _ => false

/-- How errors name it. -/
def display : Switch → String
  | .config => "--config <CONFIG>"
  | .replay => "--replay <REPLAY>"
  | s => "--" ++ s.long

end Switch

namespace Scope

/-- The switches a level accepts. -/
def switches : Scope → List Switch
  | .top => [.config, .verbose, .help, .version]
  | .run => [.replay, .exitWhenIdle, .config, .verbose, .help]
  | .checkConfig => [.config, .verbose, .help]

/-- The switch with a long name. -/
def byLong (scope : Scope) (name : String) : Option Switch :=
  scope.switches.find? (·.long == name)

/-- The switch with a short name. -/
def byShort (scope : Scope) (c : Char) : Option Switch :=
  scope.switches.find? (·.short == some c)

/-- The usage line. -/
def usage : Scope → String
  | .top => "cbench [OPTIONS] <COMMAND>"
  | .run => "cbench run [OPTIONS]"
  | .checkConfig => "cbench check-config [OPTIONS]"

end Scope

/-- The commands by name. -/
def commandScope? : String → Option Scope
  | "run" => some .run
  | "check-config" => some .checkConfig
  | _ => none

/-- Whether a word names a command, the help command included. -/
def isCommandName (word : String) : Bool :=
  word == "run" || word == "check-config" || word == "help"

/-- The line of an option in a help text. -/
def optionLine (flags description : String) : String :=
  "  " ++ flags ++ String.ofList (List.replicate (23 - flags.length) ' ') ++ description

/-- The help text of the program. -/
def topHelp : String :=
  String.intercalate "\n"
    [ "Command-line interface for cbench", "",
      "Usage: cbench [OPTIONS] <COMMAND>", "",
      "Commands:",
      "  run           Run the orchestrator against the in-process broker",
      "  check-config  Validate the configuration file and print warnings",
      "  help          Print this message or the help of the given subcommand(s)", "",
      "Options:",
      optionLine "-c, --config <CONFIG>" "Path to configuration file [default: cbench.yml]",
      optionLine "-v, --verbose" "Verbose output",
      optionLine "-h, --help" "Print help",
      optionLine "-V, --version" "Print version" ] ++ "\n"

/-- The help text of `run`. -/
def runHelp : String :=
  String.intercalate "\n"
    [ "Run the orchestrator against the in-process broker", "",
      "Usage: cbench run [OPTIONS]", "",
      "Options:",
      optionLine "-c, --config <CONFIG>" "Path to configuration file [default: cbench.yml]",
      optionLine "    --replay <REPLAY>"
        "JSONL file of \x60\x7b\"queue\": ..., \"payload\": ...\x7d\x60 lines to publish on start",
      optionLine "    --exit-when-idle" "Stop once every inbound message has been handled",
      optionLine "-v, --verbose" "Verbose output",
      optionLine "-h, --help" "Print help" ] ++ "\n"

/-- The help text of `check-config`. -/
def checkConfigHelp : String :=
  String.intercalate "\n"
    [ "Validate the configuration file and print warnings", "",
      "Usage: cbench check-config [OPTIONS]", "",
      "Options:",
      optionLine "-c, --config <CONFIG>" "Path to configuration file [default: cbench.yml]",
      optionLine "-v, --verbose" "Verbose output",
      optionLine "-h, --help" "Print help" ] ++ "\n"

/-- The help text of the help command. -/
def helpHelp : String :=
  String.intercalate "\n"
    [ "Print this message or the help of the given subcommand(s)", "",
      "Usage: cbench help [COMMAND]...", "",
      "Arguments:",
      "  [COMMAND]...  Print help for the subcommand(s)" ] ++ "\n"

/-- The help text of a level. -/
def Scope.help : Scope → String
  | .top => topHelp
  | .run => runHelp
  | .checkConfig => checkConfigHelp

/-- The help command: the help of the command its words name, one level after another. -/
def helpFor : List String → Request
  | [] => .help topHelp false
  | [word] =>
    match commandScope? word with
    | some scope => .help scope.help false
    | none =>
      if word == "help" then .help helpHelp false
      else .usageError s!"unrecognized subcommand '{word}'" Scope.top.usage
  | word :: next :: _ =>
    match commandScope? word with
    | some scope => .usageError s!"unrecognized subcommand '{next}'" scope.usage
    | none =>
      if word == "help" then .usageError s!"unrecognized subcommand '{next}'" "cbench help [COMMAND]..."
      else .usageError s!"unrecognized subcommand '{word}'" Scope.top.usage

/-- The values read at one level. -/
structure Matches where
  config : Option String
  verbose : Bool
  replay : Option String
  exitWhenIdle : Bool
  given : Nat
  deriving Repr

/-- Nothing read yet. -/
def Matches.none : Matches := ⟨Option.none, false, Option.none, false, 0⟩

/-- How reading one level ended. -/
inductive LevelEnd where
  /-- A command word, the words after it, and what was read before it. -/
  | command (scope : Scope) (rest : List String) (read : Matches)
  /-- The words ran out. -/
  | done (read : Matches)
  /-- Reading stopped with an answer. -/
  | stop (request : Request)
  deriving Repr

/-- Record a value for an option: an empty value, or a second one, is an error. -/
def setValue (scope : Scope) (m : Matches) (s : Switch) (value : String) : Except Request Matches :=
  let given := match s with
    | .replay => m.replay.isSome
    | _ => m.config.isSome
  if given then .error (.usageError s!"the argument '{s.display}' cannot be used multiple times" scope.usage)
  else if value.isEmpty then
    .error (.usageError s!"a value is required for '{s.display}' but none was supplied" scope.usage)
  else
    match s with
    | .replay => .ok { m with replay := some value, given := m.given + 1 }
    | _ => .ok { m with config := some value, given := m.given + 1 }

/-- Record a flag: help and version answer at once; a flag given twice is an error. -/
def setFlag (scope : Scope) (m : Matches) (s : Switch) : Except Request Matches :=
  match s with
  | .help => .error (.help scope.help false)
  | .version => .error .version
  | .exitWhenIdle =>
    if m.exitWhenIdle then
      .error (.usageError s!"the argument '{s.display}' cannot be used multiple times" scope.usage)
    else .ok { m with exitWhenIdle := true, given := m.given + 1 }
  | _ =>
    if m.verbose then
      .error (.usageError s!"the argument '{s.display}' cannot be used multiple times" scope.usage)
    else .ok { m with verbose := true, given := m.given + 1 }

/-- The error for an option left without a value. -/
def missingValue (scope : Scope) (s : Switch) : Request :=
  .usageError s!"a value is required for '{s.display}' but none was supplied" scope.usage

/-- Read a group of short flags (the characters after `-`). An option takes the rest of the
group as its value (after an optional `=`), or the next word when the rest is empty. -/
def readShorts (scope : Scope) (m : Matches) : List Char → Except Request (Matches × Option Switch)
  | [] => .ok (m, none)
  | c :: rest =>
    match scope.byShort c with
    | none => .error (.usageError s!"unexpected argument '-{c}' found" scope.usage)
    | some s =>
      if s.takesValue then
        match rest with
        | [] => .ok (m, some s)
        | '=' :: value => (setValue scope m s (String.ofList value)).map (·, none)
        | value => (setValue scope m s (String.ofList value)).map (·, none)
      else
        match setFlag scope m s with
        | .error r => .error r
        | .ok m => readShorts scope m rest

/-- The error for a word that is neither an option nor a command. -/
def strayWord (scope : Scope) (word : String) (afterEscape : Bool) : Request :=
  if scope == .top then
    if afterEscape && isCommandName word then
      .usageError s!"unexpected argument '{word}' found" scope.usage
    else .usageError s!"unrecognized subcommand '{word}'" scope.usage
  else .usageError s!"unexpected argument '{word}' found" scope.usage

/-- Read the words of one level. `pending` is an option still waiting for its value;
`escaped` is set after `--`. -/
def readLevel (scope : Scope) : List String → Matches → Option Switch → Bool → LevelEnd
  | [], _, some s, _ => .stop (missingValue scope s)
  | [], m, none, _ => .done m
  | word :: rest, m, pending, escaped =>
    if !escaped && scope == .top && isCommandName word then
      if word == "help" then .stop (helpFor rest)
      else
        match pending, commandScope? word with
        | some s, _ => .stop (missingValue scope s)
        | none, some sub => .command sub rest m
        | none, none => .stop (strayWord scope word escaped)
    else if !escaped && word == "--" then readLevel scope rest m pending true
    else if !escaped && word.startsWith "--" then
      let body := word.toList.drop 2
      let name := String.ofList (body.takeWhile (· != '='))
      let value := if body.contains '=' then some (String.ofList ((body.dropWhile (· != '=')).drop 1))
        else none
      match scope.byLong name with
      | none => .stop (.usageError s!"unexpected argument '--{name}' found" scope.usage)
      | some s =>
        if !s.takesValue && value.isSome then
          let given := value.getD ""
          .stop (.usageError
            s!"unexpected value '{given}' for '{s.display}' found; no more values expected"
            scope.usage)
        else
          match pending with
          | some p => .stop (missingValue scope p)
          | none =>
            if s.takesValue then
              match value with
              | some v =>
                match setValue scope m s v with
                | .error r => .stop r
                | .ok m => readLevel scope rest m none escaped
              | none => readLevel scope rest m (some s) escaped
            else
              match setFlag scope m s with
              | .error r => .stop r
              | .ok m => readLevel scope rest m none escaped
    else if !escaped && word.startsWith "-" && word.length > 1 then
      match word.toList with
      | _ :: c :: _ =>
        match scope.byShort c, pending with
        | some _, some p => .stop (missingValue scope p)
        | _, _ =>
          match readShorts scope m (word.toList.drop 1) with
          | .error r => .stop r
          | .ok (m, next) => readLevel scope rest m next escaped
      | _ => .stop (strayWord scope word escaped)
    else
      match pending with
      | some s =>
        match setValue scope m s word with
        | .error r => .stop r
        | .ok m => readLevel scope rest m none escaped
      | none => .stop (strayWord scope word escaped)

/-- Read a command line (the words after the program name). -/
def parse (words : List String) : Request :=
  match readLevel .top words .none none false with
  | .stop r => r
  | .done m =>
    if m.given == 0 then .help topHelp true
    else .usageError "'cbench' requires a subcommand but one was not provided" Scope.top.usage
  | .command scope rest top =>
    match readLevel scope rest .none none false with
    | .stop r => r
    | .command _ _ _ => .usageError "unexpected command" scope.usage
    | .done sub =>
      let config := (sub.config <|> top.config).getD "cbench.yml"
      let verbose := sub.verbose || top.verbose
      let command := match scope with
        | .run => Command.run sub.replay sub.exitWhenIdle
        | _ => Command.checkConfig
      .invoke { command, config, verbose }

end BenchDispatch.Cli
