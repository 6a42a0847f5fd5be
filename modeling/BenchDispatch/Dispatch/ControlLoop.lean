import BenchDispatch.Config.Basic
import BenchDispatch.Registry.Basic
import BenchDispatch.Record.Codec
import BenchDispatch.Broker.Hub

/-!
# The control loop

The orchestrator turns push events into build jobs and routes worker results. An event whose
target matches the settings is admitted one build per target at a time: the first request for
an idle target is sent to the work queue and becomes `requested`, later ones wait in the
backlog, one per target, the latest push winning. A `building` report advances its build; a
`built` report finishes it, sends the target's backlogged request on, and forwards the report
unchanged to the output queue. Messages that do not decode are acknowledged and dropped.

Handlers run one at a time here, so a build is never dispatched twice at once.
-/

set_option autoImplicit false

namespace BenchDispatch

open Broker

/-- What to do with a message once it is handled. -/
inductive Disposition where
  /-- Remove it from its queue. -/
  | ack
  /-- Leave it unacknowledged, for the broker to hand out again. -/
  | leave
  deriving DecidableEq, Repr

/-- Why a request could not become a job. -/
inductive OrchestratorError where
  /-- Under `admit_all`, the id is already tracked in a state other than `requesting`. -/
  | registryConflict (target : BuildTarget) (id : BuildId)
  /-- The work queue refused the job. -/
  | dispatch (id : BuildId) (cause : BrokerError)
  deriving Repr

/-- The text of an orchestrator error. -/
def OrchestratorError.message : OrchestratorError → String
  | .registryConflict target id => s!"build {id} for '{target}' is already tracked in another state"
  | .dispatch id cause => s!"failed to dispatch build {id}: {cause.message}"

/-- The orchestrator's state, and the hub its producer sends to. -/
structure ControlLoop where
  settings : Settings
  registry : BuildRegistry
  backlog : Backlog
  hub : Hub

/-- The text of a message that decodes as a record, if it is text and decodes. -/
def decodeMessage? {α : Type} [JsonCodec α] : Message → Option α
  | .text body => decode? body
  | .binary _ => none

namespace ControlLoop

/-- A loop with no builds tracked, no backlog, on a hub. -/
def start (settings : Settings) (hub : Hub) : ControlLoop :=
  { settings, registry := .empty, backlog := .empty, hub }

/-- Send a `requesting` build to the work queue and mark it `requested`. -/
def dispatch (loop : ControlLoop) (request : BuildRequest) :
    Except OrchestratorError Unit × ControlLoop :=
  match loop.hub.send loop.settings.workQueue (.text (encode request)) with
  | .error cause => (.error (.dispatch request.id cause), loop)
  | .ok hub =>
    let (_, registry) := loop.registry.update request.target request .requesting .requested
    (.ok (), { loop with hub, registry })

/-- Admit a request and, if its target is free, send it to a worker. Under `admit_all` every
request is tracked and sent, unless its id is tracked in another state. -/
def processBuildRequest (loop : ControlLoop) (request : BuildRequest) :
    Except OrchestratorError Unit × ControlLoop :=
  let target := request.target
  if loop.settings.admitAll then
    let (tracked, registry) := loop.registry.insert target request .requesting
    if tracked then dispatch { loop with registry } request
    else (.error (.registryConflict target request.id), loop)
  else
    let (admission, registry, backlog) := loop.registry.admitRequest loop.backlog target request
    let loop := { loop with registry, backlog }
    match admission with
    | .admitted => dispatch loop request
    | .duplicate .requesting => dispatch loop request
    | .duplicate _ => (.ok (), loop)
    | .backlogged => (.ok (), loop)

/-- Handle one push event. Undecodable and unmatched events are acknowledged; an event whose
job could not be sent is left for redelivery. -/
def onEvent (loop : ControlLoop) (message : Message) : Disposition × ControlLoop :=
  match (decodeMessage? message : Option PushSummary) with
  | none => (.ack, loop)
  | some summary =>
    let request := BuildRequest.ofSummary summary
    if !loop.settings.matches request.target then (.ack, loop)
    else
      match loop.processBuildRequest request with
      | (.ok (), loop) => (.ack, loop)
      | (.error _, loop) => (.leave, loop)

/-- Handle one worker report; always acknowledged. `building` advances a `requested` build;
`built` completes a `building` one (or an earlier state), sends the promoted backlog request,
and forwards the report as it came to the output queue. Send failures are only dropped. -/
def onResult (loop : ControlLoop) (message : Message) : Disposition × ControlLoop :=
  match (decodeMessage? message : Option BuildResponse) with
  | none => (.ack, loop)
  | some response =>
    let request := response.request
    let target := request.target
    match response.state with
    | .building =>
      let (_, registry) := loop.registry.update target request .requested .building
      (.ack, { loop with registry })
    | .built =>
      let (completion, registry, backlog) :=
        loop.registry.complete loop.backlog target request .building
      let loop := { loop with registry, backlog }
      let loop := match completion.next with
        | some next => (loop.dispatch next).2
        | none => loop
      let loop := match loop.hub.send loop.settings.outputQueue message with
        | .ok hub => { loop with hub }
        | .error _ => loop
      (.ack, loop)
    | _ => (.ack, loop)

end ControlLoop

end BenchDispatch
