/-!
# Service lifecycle

A service is idle, running, awaiting shutdown, or shutting down. Its lifecycle is one 64-bit
word: the run's generation in the upper 56 bits and the state in the low byte. Every start
from idle opens the next generation, and every transition names the generation it applies to,
so a caller holding an old run cannot move a newer one: against a different generation a
transition fails and reports the state as idle.

Only the low 56 bits of a generation fit in the word, so generations that differ by a multiple
of 2^56 name the same run when they are packed.
-/

set_option autoImplicit false

namespace BenchDispatch

/-- The state of a service. -/
inductive ServiceState where
  | idle
  | running
  | awaitingShutdown
  | shuttingDown
  deriving DecidableEq, Repr, Inhabited

namespace ServiceState

/-- The state's code in the low byte of the word. -/
def code : ServiceState → UInt64
  | .idle => 0
  | .running => 1
  | .awaitingShutdown => 2
  | .shuttingDown => 3

/-- The state a low byte stands for; any other byte reads as idle. -/
def ofByte (byte : UInt64) : ServiceState :=
  if byte == 1 then .running
  else if byte == 2 then .awaitingShutdown
  else if byte == 3 then .shuttingDown
  else .idle

/-- The state's name. -/
def name : ServiceState → String
  | .idle => "idle"
  | .running => "running"
  | .awaitingShutdown => "awaiting shutdown"
  | .shuttingDown => "shutting down"

/-- The state with a name. -/
def ofName? : String → Option ServiceState
  | "idle" => some .idle
  | "running" => some .running
  | "awaiting shutdown" => some .awaitingShutdown
  | "shutting down" => some .shuttingDown
  | _ => none

end ServiceState

/-- The lifecycle word of a service. -/
structure Lifecycle where
  word : UInt64
  deriving DecidableEq, Repr

namespace Lifecycle

/-- The word for a generation in a state. -/
def pack (generation : UInt64) (state : ServiceState) : UInt64 :=
  (generation <<< 8) ||| state.code

/-- The generation and the state a word holds. -/
def unpack (word : UInt64) : UInt64 × ServiceState :=
  (word >>> 8, ServiceState.ofByte (word &&& 0xFF))

/-- A lifecycle that never ran: generation 0, idle. -/
def fresh : Lifecycle := ⟨0⟩

/-- The current state. -/
def state (l : Lifecycle) : ServiceState :=
  (unpack l.word).2

/-- The state of run `generation`: idle unless it is the current run. -/
def stateOf (l : Lifecycle) (generation : UInt64) : ServiceState :=
  let (current, state) := unpack l.word
  if current == generation then state else .idle

/-- Start the next run from idle; its generation, or the state that refused it. -/
def start (l : Lifecycle) : Except ServiceState UInt64 × Lifecycle :=
  let (generation, state) := unpack l.word
  if state != .idle then (.error state, l)
  else
    let next := generation + 1
    (.ok next, ⟨pack next .running⟩)

/-- Move run `generation` from `source` to `target`, or report the state that run is in. -/
def transition (l : Lifecycle) (generation : UInt64) (source target : ServiceState) :
    Except ServiceState Unit × Lifecycle :=
  if l.word == pack generation source then (.ok (), ⟨pack generation target⟩)
  else (.error (l.stateOf generation), l)

/-- End run `generation`; nothing happens once a newer run has started. -/
def reset (l : Lifecycle) (generation : UInt64) : Lifecycle :=
  if (unpack l.word).1 == generation then ⟨pack generation .idle⟩ else l

end Lifecycle

end BenchDispatch
