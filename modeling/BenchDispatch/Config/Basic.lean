import BenchDispatch.Pattern.Compiled
import BenchDispatch.Text.Space

/-!
# Orchestrator configuration

The configuration of the orchestrator: its four queue names, the target
patterns, whether every event becomes a build, and how many handlers run at
once. `validate` checks the queues (each named, no two roles sharing one) and
the patterns, and lists the warnings; `settings` compiles the patterns (each
anchored to the whole target) and raises a concurrency of 0 to 1.
-/

set_option autoImplicit false

namespace BenchDispatch

/-- The configuration as read. Every field has a default. -/
structure OrchestratorConfig where
  eventQueue : String := "cbench.events"
  resultQueue : String := "cbench.results"
  workQueue : String := "cbench.requests"
  outputQueue : String := "cbench.outputs"
  targetPatterns : List String := []
  admitAll : Bool := false
  handlerConcurrency : Nat := 4
  deriving DecidableEq, Repr

/-- Why a configuration cannot be used. -/
inductive ConfigError where
  | yaml
  | emptyQueueName (field : String)
  | sharedQueue (queue : String)
  | invalidPattern (pattern : String)
  deriving DecidableEq, Repr

/-- The kind of a configuration error, as answers name it. -/
def ConfigError.kind : ConfigError → String
  | .yaml => "Yaml"
  | .emptyQueueName _ => "EmptyQueueName"
  | .sharedQueue _ => "SharedQueue"
  | .invalidPattern _ => "InvalidPattern"

/-- The message of a configuration error. -/
def ConfigError.message : ConfigError → String
  | .yaml => "YAML parse error"
  | .emptyQueueName field => s!"Queue name for '{field}' is empty"
  | .sharedQueue queue => s!"Queue '{queue}' is configured for more than one role"
  | .invalidPattern pattern => s!"Invalid target pattern '{pattern}'"

/-- Something worth saying about a usable configuration. -/
inductive ConfigWarning where
  | concurrencyRaised
  | everyEventAdmitted
  deriving DecidableEq, Repr

/-- The text of a warning. -/
def ConfigWarning.text : ConfigWarning → String
  | .concurrencyRaised => "Warning [handler_concurrency]: must be at least 1; using 1"
  | .everyEventAdmitted =>
    "Note [admit_all]: every event becomes a job; pushes to the same ref will not be coalesced"

/-- The settings the orchestrator runs with. -/
structure Settings where
  eventQueue : String
  resultQueue : String
  workQueue : String
  outputQueue : String
  targetPatterns : List Pattern.Compiled
  admitAll : Bool
  handlerConcurrency : Nat

namespace OrchestratorConfig

/-- The queues with the names of their fields, in the order they are checked. -/
def queues (c : OrchestratorConfig) : List (String × String) :=
  [("event_queue", c.eventQueue), ("result_queue", c.resultQueue),
   ("work_queue", c.workQueue), ("output_queue", c.outputQueue)]

/-- Check the queues in order: each name must hold more than white space, and differ from
the names before it. -/
def checkQueues : List String → List (String × String) → Except ConfigError Unit
  | _, [] => pure ()
  | seen, (field, name) :: rest =>
    if (Text.trimWhiteSpace name).isEmpty then throw (.emptyQueueName field)
    else if seen.contains name then throw (.sharedQueue name)
    else checkQueues (name :: seen) rest

/-- A pattern anchored to the whole target. -/
def anchored (pattern : String) : String := "^(?:" ++ pattern ++ ")$"

/-- Compile every pattern; the first that does not compile is the error. -/
def compilePatterns (c : OrchestratorConfig) : Except ConfigError (List Pattern.Compiled) :=
  c.targetPatterns.mapM fun pattern =>
    match Pattern.Compiled.ofText? (anchored pattern) with
    | some compiled => pure compiled
    | none => throw (.invalidPattern pattern)

/-- The warnings of a configuration: concurrency 0, then admitting every event. -/
def warnings (c : OrchestratorConfig) : List ConfigWarning :=
  (if c.handlerConcurrency == 0 then [.concurrencyRaised] else []) ++
    (if c.admitAll then [.everyEventAdmitted] else [])

/-- Check the queues, then the patterns; the warnings of a configuration that passes. -/
def validate (c : OrchestratorConfig) : Except ConfigError (List ConfigWarning) := do
  checkQueues [] c.queues
  let _ ← c.compilePatterns
  return c.warnings

/-- The settings of a configuration; only the patterns are checked. -/
def settings (c : OrchestratorConfig) : Except ConfigError Settings := do
  let patterns ← c.compilePatterns
  return { eventQueue := c.eventQueue, resultQueue := c.resultQueue, workQueue := c.workQueue,
           outputQueue := c.outputQueue, targetPatterns := patterns, admitAll := c.admitAll,
           handlerConcurrency := max 1 c.handlerConcurrency }

end OrchestratorConfig

/-- Whether the settings accept a target: always with no patterns, otherwise when one of
them matches. -/
def Settings.matches (s : Settings) (target : String) : Bool :=
  s.targetPatterns.isEmpty || s.targetPatterns.any (·.isMatch target)

end BenchDispatch
