import Mathlib
import BenchDispatch.Proofs.Pumping
import BenchDispatch.Proofs.Generations

/-! Runs of the orchestrator service. Between any two calls of a service whose handler concurrency
a semaphore can hold, and that has started fewer than 2^56 runs, the runner is idle with no broker
connection open, or it runs (or awaits its shutdown) with exactly one: the connection of its
newest run, whose objects are all open, every older run having released its own. Messages
published to the broker and handed to the run's handlers move between queues and are
acknowledged or left parked, but open and close nothing. A start goes through exactly when the
runner is idle and the broker accepts the connection; a call through a handle whose run is not
going fails and changes nothing; and a close releases the run's objects once, in order, and puts
back what the run's consumers left unacknowledged. -/

set_option autoImplicit false

namespace BenchDispatch

open Broker

/-- One call on a service runner: start a run, close or await the shutdown of the run of a handle
(by its number), make the broker refuse or accept new connections, publish a message to a queue
of the broker, or hand everything waiting on the queues of a handle's run to its handlers. -/
inductive ServiceCall where
  | run
  | close (handle : Nat)
  | awaitShutdown (handle : Nat)
  | refuse (value : Bool)
  | publish (queue : String) (message : Message)
  | deliver (handle : Nat)
  deriving DecidableEq, Repr

namespace ServiceCall

/-- The runner after a call; a call through a handle that does not exist does nothing. -/
def perform : ServiceCall → ServiceRunner → ServiceRunner
  | .run, runner => runner.runAsync.2
  | .close index, runner =>
    match runner.handle? index with
    | some h => (runner.close index h).2
    | none => runner
  | .awaitShutdown index, runner =>
    match runner.handle? index with
    | some h => (runner.awaitShutdown h).2
    | none => runner
  | .refuse value, runner =>
    { runner with clients := { runner.clients with hub := runner.clients.hub.refuseConnections value } }
  | .publish queue message, runner =>
    { runner with clients := { runner.clients with hub := runner.clients.hub.publish queue message } }
  | .deliver index, runner => runner.deliverWaiting index

/-- The runner after each call in turn. -/
def runFrom : ServiceRunner → List ServiceCall → ServiceRunner
  | runner, [] => runner
  | runner, call :: calls => runFrom (call.perform runner) calls

end ServiceCall

/-- A run that is running or awaiting its shutdown is not idle. -/
theorem ServiceState.ne_idle_of_going {state : ServiceState}
    (going : state = .running ∨ state = .awaitingShutdown) : state ≠ .idle := by
  rcases going with rfl | rfl <;> decide

namespace ServiceRunner

variable (runner : ServiceRunner)

/-! ### Starting -/

theorem runAsync_of_busy (busy : runner.lifecycle.state ≠ .idle) :
    runner.runAsync = (.failed (.illegalState name "start" runner.lifecycle.state), runner) := by
  simp [runAsync, Lifecycle.start_eq, busy]

/-- A start the broker refuses uses up a generation and leaves the runner idle. -/
theorem runAsync_of_refusing (idle : runner.lifecycle.state = .idle) (refusing : runner.clients.hub.refusing = true) :
    runner.runAsync = (.failed (.startup name "connect" (.connect "connections refused")),
      { runner with
        lifecycle := (⟨Lifecycle.pack (runner.lifecycle.generation + 1) .running⟩ : Lifecycle).reset
          (runner.lifecycle.generation + 1) }) := by
  simp [runAsync, Lifecycle.start_eq, idle, setup_of_refusing _ _ refusing, release_none]

/-- A start from idle on a broker that accepts it makes the run's objects and hands out a handle. -/
theorem runAsync_of_accepting (idle : runner.lifecycle.state = .idle) (accepting : runner.clients.hub.refusing = false)
    (valid : max 1 runner.settings.handlerConcurrency ≤ maxPermits) :
    ∃ after, runner.runAsync = (.started runner.handles.length, { runner with
        lifecycle := ⟨Lifecycle.pack (runner.lifecycle.generation + 1) .running⟩
        clients := after
        handles := runner.handles ++
          [⟨runner.lifecycle.generation + 1, some (RunObjects.next runner.clients).resources⟩] }) ∧
      (RunObjects.next runner.clients).Opened runner.settings after ∧
      after.hub.openConnections = runner.clients.hub.openConnections + 1 ∧ after.hub.refusing = false := by
  obtain ⟨after, setting, opened, counted, stillAccepting, -⟩ :=
    setup_of_accepting { runner with lifecycle := ⟨Lifecycle.pack (runner.lifecycle.generation + 1) .running⟩ }
      runner.clients accepting valid
  exact ⟨after, by simp [runAsync, Lifecycle.start_eq, idle, setting], opened, counted, stillAccepting⟩

/-- A start from idle whose handler concurrency is more than a semaphore holds aborts, though the
broker accepts it: the runner is left running with no handle for the run, and the connection,
session, queues and producer its setup made stay open. -/
theorem runAsync_of_oversized (idle : runner.lifecycle.state = .idle) (accepting : runner.clients.hub.refusing = false)
    (oversized : maxPermits < max 1 runner.settings.handlerConcurrency) :
    ∃ hub, runner.runAsync = (.aborted,
        { runner with
          lifecycle := ⟨Lifecycle.pack (runner.lifecycle.generation + 1) .running⟩
          clients := { runner.clients with
            hub
            connections := runner.clients.connections ++ [⟨runner.clients.hub.connectionsMade + 1, false⟩]
            sessions := runner.clients.sessions ++ [⟨runner.clients.connections.length, false⟩]
            producers := runner.clients.producers ++ [⟨false⟩] } }) ∧
      (∀ queue ∈ runner.queues, (hub.queue? queue).isSome) ∧
      hub.openConnections = runner.clients.hub.openConnections + 1 := by
  obtain ⟨hub, aborting, declared, counted, -⟩ := setup_of_oversized
    { runner with lifecycle := ⟨Lifecycle.pack (runner.lifecycle.generation + 1) .running⟩ }
    runner.clients accepting oversized
  exact ⟨hub, by simp [runAsync, Lifecycle.start_eq, idle, aborting, RunObjects.prepared], declared, counted⟩

/-- A start from idle moves to the next generation: running when the broker accepts the run, idle
again when it refuses it. -/
theorem lifecycle_runAsync (below : (runner.lifecycle.generation + 1).toNat < 2 ^ 56)
    (valid : max 1 runner.settings.handlerConcurrency ≤ maxPermits) :
    runner.runAsync.2.lifecycle = if runner.lifecycle.state = .idle then
      ⟨Lifecycle.pack (runner.lifecycle.generation + 1) (if runner.clients.hub.refusing then .idle else .running)⟩
    else runner.lifecycle := by
  by_cases idle : runner.lifecycle.state = .idle
  · rw [if_pos idle]
    cases refusing : runner.clients.hub.refusing with
    | true =>
      rw [runner.runAsync_of_refusing idle refusing, Lifecycle.reset_mk_pack below]
      rfl
    | false =>
      obtain ⟨after, starting, -⟩ := runner.runAsync_of_accepting idle refusing valid
      rw [starting]
      rfl
  · rw [runner.runAsync_of_busy idle, if_neg idle]

/-- A start that does not go through leaves the runner's state and its broker objects as they were. -/
theorem runAsync_of_unready (below : (runner.lifecycle.generation + 1).toNat < 2 ^ 56)
    (unready : ¬ (runner.lifecycle.state = .idle ∧ runner.clients.hub.refusing = false)) :
    ∃ error, runner.runAsync.1 = .failed error ∧ runner.runAsync.2.lifecycle.state = runner.lifecycle.state ∧
      runner.runAsync.2.clients = runner.clients := by
  by_cases idle : runner.lifecycle.state = .idle
  · have refusing : runner.clients.hub.refusing = true := by simpa [idle] using unready
    rw [runner.runAsync_of_refusing idle refusing, Lifecycle.reset_mk_pack below]
    exact ⟨_, rfl, by rw [Lifecycle.state_mk_pack, idle], rfl⟩
  · rw [runner.runAsync_of_busy idle]
    exact ⟨_, rfl, rfl, rfl⟩

@[simp] theorem settings_runAsync : runner.runAsync.2.settings = runner.settings := by
  unfold runAsync
  split
  · rfl
  · dsimp only
    split <;> rfl

/-! ### Closing and awaiting -/

@[simp] theorem releaseHandle_lifecycle (index : Nat) : (runner.releaseHandle index).lifecycle = runner.lifecycle := by
  unfold releaseHandle
  split <;> rfl

/-- A close goes through exactly when the handle's run is going: it moves the run to shutting down,
releases the handle's resources and ends the run. -/
theorem close_eq (formed : runner.lifecycle.WellFormed) (index : Nat) (h : RunHandle) :
    runner.close index h =
      if runner.lifecycle.generation.toNat = h.generation.toNat % 2 ^ 56 ∧
          (runner.lifecycle.state = .running ∨ runner.lifecycle.state = .awaitingShutdown) then
        (.ok (), { releaseHandle { runner with lifecycle := ⟨Lifecycle.pack h.generation .shuttingDown⟩ } index with
          lifecycle := (⟨Lifecycle.pack h.generation .shuttingDown⟩ : Lifecycle).reset h.generation })
      else (.error (.illegalState name "close" (runner.lifecycle.stateOf h.generation)), runner) := by
  unfold close
  rw [Lifecycle.transition_eq formed]
  by_cases running : runner.lifecycle.generation.toNat = h.generation.toNat % 2 ^ 56 ∧
      runner.lifecycle.state = .running
  · rw [if_pos running, if_pos ⟨running.1, .inl running.2⟩]
    simp only [releaseHandle_lifecycle]
  · rw [if_neg running]
    simp only
    rw [Lifecycle.transition_eq formed]
    by_cases awaiting : runner.lifecycle.generation.toNat = h.generation.toNat % 2 ^ 56 ∧
        runner.lifecycle.state = .awaitingShutdown
    · rw [if_pos awaiting, if_pos ⟨awaiting.1, .inr awaiting.2⟩]
      simp only [releaseHandle_lifecycle]
    · have neither : ¬ (runner.lifecycle.generation.toNat = h.generation.toNat % 2 ^ 56 ∧
          (runner.lifecycle.state = .running ∨ runner.lifecycle.state = .awaitingShutdown)) := by
        rintro ⟨same, running' | awaiting'⟩
        · exact running ⟨same, running'⟩
        · exact awaiting ⟨same, awaiting'⟩
      rw [if_neg awaiting, if_neg neither]

theorem awaitShutdown_eq (formed : runner.lifecycle.WellFormed) (h : RunHandle) :
    runner.awaitShutdown h =
      if runner.lifecycle.generation.toNat = h.generation.toNat % 2 ^ 56 ∧ runner.lifecycle.state = .running then
        (.ok (), { runner with lifecycle := ⟨Lifecycle.pack h.generation .awaitingShutdown⟩ })
      else (.error (.illegalState name "await shutdown" (runner.lifecycle.stateOf h.generation)), runner) := by
  unfold awaitShutdown
  rw [Lifecycle.transition_eq formed]
  by_cases going : runner.lifecycle.generation.toNat = h.generation.toNat % 2 ^ 56 ∧
      runner.lifecycle.state = .running
  · rw [if_pos going, if_pos going]
  · rw [if_neg going, if_neg going]

@[simp] theorem settings_releaseHandle (index : Nat) : (runner.releaseHandle index).settings = runner.settings := by
  unfold releaseHandle
  split <;> rfl

@[simp] theorem settings_close (index : Nat) (h : RunHandle) : (runner.close index h).2.settings = runner.settings := by
  unfold close
  -- the run moves to shutting down from running, or else from awaiting its shutdown
  split
  · simp
  · dsimp only
    split <;> simp

@[simp] theorem settings_awaitShutdown (h : RunHandle) : (runner.awaitShutdown h).2.settings = runner.settings := by
  unfold awaitShutdown
  split <;> rfl

end ServiceRunner

/-! ### What holds between calls -/

/-- Handles whose generations are at most a bound stay so when one more of a generation within the
bound is appended. -/
theorem RunHandle.generation_le_of_mem_append {handles : List RunHandle} {bound : Nat} {generation : UInt64}
    {resources : Option Resources} (earlier : ∀ h ∈ handles, h.generation.toNat ≤ bound)
    (newest : generation.toNat ≤ bound) :
    ∀ h ∈ handles ++ [⟨generation, resources⟩], h.generation.toNat ≤ bound := by
  intro h member
  rcases List.mem_append.1 member with older | last
  · exact earlier h older
  · obtain rfl := List.mem_singleton.1 last
    exact newest

/-- What holds between the calls of a service's runs: the lifecycle word is a packed pair in a
steady state; the handles name the runs they started, by ascending generation, none past the
current one; an idle runner holds no broker connection and no resources; and a runner whose run
is going holds one connection, that of its newest run, whose objects are all open, every older
handle having released its resources. -/
structure ServiceRunner.Coherent (runner : ServiceRunner) : Prop where
  formed : runner.lifecycle.WellFormed
  steady : runner.lifecycle.state = .idle ∨ runner.lifecycle.state = .running ∨
    runner.lifecycle.state = .awaitingShutdown
  ascending : (runner.handles.map (·.generation.toNat)).Pairwise (· < ·)
  started : ∀ h ∈ runner.handles, h.generation.toNat ≤ runner.lifecycle.generation.toNat
  idle : runner.lifecycle.state = .idle →
    runner.clients.hub.openConnections = 0 ∧ ∀ h ∈ runner.handles, h.resources = none
  live : runner.lifecycle.state ≠ .idle → runner.clients.hub.openConnections = 1 ∧
    ∃ (earlier : List RunHandle) (o : RunObjects),
      runner.handles = earlier ++ [⟨runner.lifecycle.generation, some o.resources⟩] ∧
      (∀ h ∈ earlier, h.resources = none) ∧ o.Opened runner.settings runner.clients

namespace ServiceRunner.Coherent

theorem create (settings : Settings) : (ServiceRunner.create settings Hub.empty).Coherent := by
  have fresh : Lifecycle.fresh.state = .idle := by decide
  refine ⟨Lifecycle.wellFormed_fresh, .inl fresh, List.Pairwise.nil, fun _ member => ?_,
    fun _ => ⟨rfl, fun _ member => ?_⟩, fun busy => absurd fresh busy⟩
  · exact absurd member List.not_mem_nil
  · exact absurd member List.not_mem_nil

variable {runner : ServiceRunner} (coherent : runner.Coherent)
include coherent

/-- A handle of the current generation, while its run is going, is the newest one. -/
theorem newest_of_current {index : Nat} {h : RunHandle} (found : runner.handle? index = some h)
    (busy : runner.lifecycle.state ≠ .idle) (current : h.generation.toNat % 2 ^ 56 = runner.lifecycle.generation.toNat) :
    ∃ (earlier : List RunHandle) (o : RunObjects),
      runner.handles = earlier ++ [⟨runner.lifecycle.generation, some o.resources⟩] ∧
      (∀ h ∈ earlier, h.resources = none) ∧ o.Opened runner.settings runner.clients ∧
      index = earlier.length ∧ h = ⟨runner.lifecycle.generation, some o.resources⟩ := by
  obtain ⟨-, earlier, o, handles, released, opened⟩ := coherent.live busy
  have member : h ∈ runner.handles := List.mem_of_getElem? found
  have whole : h.generation.toNat = runner.lifecycle.generation.toNat := by
    rw [← current, Nat.mod_eq_of_lt (Nat.lt_of_le_of_lt (coherent.started h member) runner.lifecycle.generation_toNat_lt)]
  refine ⟨earlier, o, handles, released, opened, ?_⟩
  unfold ServiceRunner.handle? at found
  rw [handles] at found
  rcases Nat.lt_or_ge index earlier.length with inside | outside
  · -- an older handle has an older generation
    rw [List.getElem?_append_left inside] at found
    have ascending := coherent.ascending
    rw [handles, List.map_append, List.pairwise_append] at ascending
    have older := ascending.2.2 h.generation.toNat (List.mem_map_of_mem (List.mem_of_getElem? found))
      runner.lifecycle.generation.toNat (by simp)
    simp only [whole] at older
    exact absurd older (Nat.lt_irrefl _)
  · rw [List.getElem?_append_right outside] at found
    cases gap : index - earlier.length with
    | zero =>
      simp only [gap, List.getElem?_cons_zero, Option.some.injEq] at found
      exact ⟨by omega, found.symm⟩
    | succ beyond => simp [gap] at found

/-- A close through the handle of the run that is going ends that run and releases its objects. -/
theorem close_going {index : Nat} {h : RunHandle} (found : runner.handle? index = some h)
    (going : runner.lifecycle.generation.toNat = h.generation.toNat % 2 ^ 56 ∧
      (runner.lifecycle.state = .running ∨ runner.lifecycle.state = .awaitingShutdown)) :
    ∃ (earlier : List RunHandle) (o : RunObjects),
      runner.handles = earlier ++ [⟨runner.lifecycle.generation, some o.resources⟩] ∧
      (∀ h ∈ earlier, h.resources = none) ∧ o.Opened runner.settings runner.clients ∧
      h = ⟨runner.lifecycle.generation, some o.resources⟩ ∧
      runner.close index h = (.ok (), { runner with
        lifecycle := ⟨Lifecycle.pack runner.lifecycle.generation .idle⟩
        clients := ServiceRunner.release runner.clients o.resources
        handles := earlier ++ [⟨runner.lifecycle.generation, none⟩] }) := by
  have busy := ServiceState.ne_idle_of_going going.2
  obtain ⟨earlier, o, handles, released, opened, rfl, rfl⟩ := coherent.newest_of_current found busy going.1.symm
  refine ⟨earlier, o, handles, released, opened, rfl, ?_⟩
  rw [runner.close_eq coherent.formed, if_pos going, Lifecycle.reset_mk_pack runner.lifecycle.generation_toNat_lt]
  simp [ServiceRunner.releaseHandle, handles]

theorem runAsync (room : runner.lifecycle.generation.toNat + 1 < 2 ^ 56)
    (valid : max 1 runner.settings.handlerConcurrency ≤ maxPermits) : runner.runAsync.2.Coherent := by
  have below : (runner.lifecycle.generation + 1).toNat < 2 ^ 56 := by
    rw [Lifecycle.toNat_generation_add_one]
    exact room
  have next : (runner.lifecycle.generation + 1).toNat = runner.lifecycle.generation.toNat + 1 :=
    Lifecycle.toNat_generation_add_one _
  by_cases idle : runner.lifecycle.state = .idle
  · obtain ⟨closed, released⟩ := coherent.idle idle
    cases refusing : runner.clients.hub.refusing with
    | true =>
      -- the start uses up a generation and the runner is idle again
      rw [runner.runAsync_of_refusing idle refusing, Lifecycle.reset_mk_pack below]
      refine ⟨Lifecycle.wellFormed_mk_pack _ _, .inl (Lifecycle.state_mk_pack _ _), coherent.ascending,
        fun h member => ?_, fun _ => ⟨closed, released⟩, fun busy => absurd (Lifecycle.state_mk_pack _ _) busy⟩
      have older := coherent.started h member
      simp only [Lifecycle.generation_mk_pack below]
      omega
    | false =>
      obtain ⟨after, starting, opened, counted, -⟩ := runner.runAsync_of_accepting idle refusing valid
      rw [starting]
      refine ⟨Lifecycle.wellFormed_mk_pack _ _, .inr (.inl (Lifecycle.state_mk_pack _ _)), ?_, ?_,
        fun stopped => absurd stopped (by simp),
        fun _ => ⟨by simp [counted, closed], runner.handles, _, ?_, released, opened⟩⟩
      · -- the new handle's generation is above every older one
        rw [List.map_append, List.pairwise_append]
        refine ⟨coherent.ascending, List.pairwise_singleton _ _, fun older member newest newer => ?_⟩
        obtain ⟨h, held, rfl⟩ := List.mem_map.1 member
        simp only [List.map_cons, List.map_nil, List.mem_singleton] at newer
        have bounded := coherent.started h held
        omega
      · rw [Lifecycle.generation_mk_pack below]
        refine RunHandle.generation_le_of_mem_append (fun h member => ?_) (Nat.le_refl _)
        have bounded := coherent.started h member
        omega
      · rw [Lifecycle.generation_mk_pack below]
  · rw [runner.runAsync_of_busy idle]
    exact coherent

/-- A close that goes through ends the handle's run. The runner is idle again with no connection
open; the run's five objects, all open before, are closed once each, consumers newest first, then the
producer, the session and the connection; what the run's consumers left unacknowledged is back on
its queues flagged redelivered; and no handle holds resources left to release. -/
theorem close_ok {index : Nat} {h : RunHandle} {after : ServiceRunner} (found : runner.handle? index = some h)
    (closing : runner.close index h = (.ok (), after)) :
    ∃ o : RunObjects, h.resources = some o.resources ∧ o.Opened runner.settings runner.clients ∧
      after.lifecycle.state = .idle ∧ after.clients.hub.openConnections = 0 ∧
      after.clients.hub.events = runner.clients.hub.events ++ ServiceRunner.releaseEvents runner.settings o.id ∧
      (∀ queue, after.clients.hub.readyOf queue =
        runner.clients.hub.readyOf queue ++ requeued (Hub.parkedBy o.id (runner.clients.hub.unackedOf queue))) ∧
      (∀ queue entry, entry ∈ after.clients.hub.unackedOf queue → entry.2.connection ≠ o.id) ∧
      ∀ other ∈ after.handles, other.resources = none := by
  by_cases going : runner.lifecycle.generation.toNat = h.generation.toNat % 2 ^ 56 ∧
      (runner.lifecycle.state = .running ∨ runner.lifecycle.state = .awaitingShutdown)
  · obtain ⟨earlier, o, _, released, opened, rfl, closed⟩ := coherent.close_going found going
    rw [closed, Prod.mk.injEq] at closing
    obtain ⟨-, rfl⟩ := closing
    have busy := ServiceState.ne_idle_of_going going.2
    refine ⟨o, rfl, opened, Lifecycle.state_mk_pack _ _, ?_, ServiceRunner.events_release_opened opened,
      ServiceRunner.readyOf_release_opened opened, fun queue entry held => ?_, fun other member => ?_⟩
    · rw [ServiceRunner.openConnections_release_opened opened, (coherent.live busy).1]
    · rw [ServiceRunner.unackedOf_release_opened opened, List.mem_filter] at held
      intro same
      simp [same] at held
    · rcases List.mem_append.1 member with older | newest
      · exact released other older
      · rw [List.mem_singleton.1 newest]
  · rw [runner.close_eq coherent.formed, if_neg going] at closing
    simp at closing

theorem close {index : Nat} {h : RunHandle} (found : runner.handle? index = some h) :
    (runner.close index h).2.Coherent := by
  by_cases going : runner.lifecycle.generation.toNat = h.generation.toNat % 2 ^ 56 ∧
      (runner.lifecycle.state = .running ∨ runner.lifecycle.state = .awaitingShutdown)
  · obtain ⟨earlier, o, handles, -, -, -, closing⟩ := coherent.close_going found going
    -- the runner is left idle as a successful close leaves it; the handles keep their generations
    obtain ⟨-, -, -, idle, closed, -, -, -, released⟩ := coherent.close_ok found closing
    rw [closing]
    refine ⟨Lifecycle.wellFormed_mk_pack _ _, .inl idle, ?_, ?_, fun _ => ⟨closed, released⟩,
      fun stopped => absurd idle stopped⟩
    · have ascending := coherent.ascending
      rw [handles] at ascending
      simpa using ascending
    · rw [Lifecycle.generation_mk_pack runner.lifecycle.generation_toNat_lt]
      exact RunHandle.generation_le_of_mem_append
        (fun h member => coherent.started h (handles ▸ List.mem_append_left _ member)) (Nat.le_refl _)
  · rw [runner.close_eq coherent.formed, if_neg going]
    exact coherent

theorem awaitShutdown {index : Nat} {h : RunHandle} (found : runner.handle? index = some h) :
    (runner.awaitShutdown h).2.Coherent := by
  rw [runner.awaitShutdown_eq coherent.formed]
  split
  · next going =>
    have busy := ServiceState.ne_idle_of_going (.inl going.2)
    obtain ⟨earlier, o, handles, released, opened, -, rfl⟩ := coherent.newest_of_current found busy going.1.symm
    -- the same run moves on to awaiting its shutdown
    have same : (⟨Lifecycle.pack runner.lifecycle.generation .awaitingShutdown⟩ : Lifecycle).generation =
        runner.lifecycle.generation := Lifecycle.generation_mk_pack runner.lifecycle.generation_toNat_lt _
    refine ⟨Lifecycle.wellFormed_mk_pack _ _, .inr (.inr (Lifecycle.state_mk_pack _ _)), coherent.ascending,
      fun h member => ?_, fun stopped => absurd stopped (by simp),
      fun _ => ⟨(coherent.live busy).1, earlier, o, ?_, released, opened⟩⟩
    · simp only [same]
      exact coherent.started h member
    · simp only [same]
      exact handles
  · exact coherent

/-- A runner with the same runs, whatever its queues, deliveries and orchestrator state, is
coherent too. -/
theorem of_sameRuns {after : ServiceRunner} (same : runner.SameRuns after) : after.Coherent := by
  obtain ⟨settings, lifecycle, handles, objects⟩ := same
  have opened : ∀ o : RunObjects, o.Opened runner.settings runner.clients → o.Opened after.settings after.clients :=
    fun o opened => ⟨objects.connections ▸ opened.connection, objects.sessions ▸ opened.session,
      objects.producers ▸ opened.producer, settings ▸ objects.consumers ▸ opened.eventConsumer,
      settings ▸ objects.consumers ▸ opened.resultConsumer⟩
  refine ⟨lifecycle ▸ coherent.formed, lifecycle ▸ coherent.steady, handles ▸ coherent.ascending,
    lifecycle ▸ handles ▸ coherent.started, fun idle => ?_, fun busy => ?_⟩
  · rw [lifecycle] at idle
    rw [objects.openConnections, handles]
    exact coherent.idle idle
  · rw [lifecycle] at busy
    obtain ⟨connected, earlier, o, listed, released, allOpen⟩ := coherent.live busy
    exact ⟨objects.openConnections ▸ connected, earlier, o, by rw [handles, lifecycle]; exact listed, released,
      opened o allOpen⟩

theorem refuse (value : Bool) :
    ServiceRunner.Coherent
      { runner with clients := { runner.clients with hub := runner.clients.hub.refuseConnections value } } :=
  coherent.of_sameRuns (.withClients ⟨rfl, rfl, rfl, rfl, rfl⟩)

theorem publish (queue : String) (message : Message) :
    ServiceRunner.Coherent
      { runner with clients := { runner.clients with hub := runner.clients.hub.publish queue message } } :=
  coherent.of_sameRuns (.withClients ⟨by simp [Hub.publish], rfl, rfl, rfl, rfl⟩)

theorem deliverWaiting (index : Nat) : (runner.deliverWaiting index).Coherent :=
  coherent.of_sameRuns (runner.sameRuns_deliverWaiting index)

/-- Closing or awaiting through a handle keeps the generation: the only run either can move is the
current one. -/
theorem generation_close {index : Nat} {h : RunHandle} (found : runner.handle? index = some h) :
    (runner.close index h).2.lifecycle.generation = runner.lifecycle.generation := by
  by_cases going : runner.lifecycle.generation.toNat = h.generation.toNat % 2 ^ 56 ∧
      (runner.lifecycle.state = .running ∨ runner.lifecycle.state = .awaitingShutdown)
  · obtain ⟨_, _, _, _, _, _, closing⟩ := coherent.close_going found going
    rw [closing]
    exact Lifecycle.generation_mk_pack runner.lifecycle.generation_toNat_lt _
  · rw [runner.close_eq coherent.formed, if_neg going]

theorem generation_awaitShutdown {index : Nat} {h : RunHandle} (found : runner.handle? index = some h) :
    (runner.awaitShutdown h).2.lifecycle.generation = runner.lifecycle.generation := by
  rw [runner.awaitShutdown_eq coherent.formed]
  split
  · next going =>
    have busy := ServiceState.ne_idle_of_going (.inl going.2)
    obtain ⟨_, _, _, _, _, _, rfl⟩ := coherent.newest_of_current found busy going.1.symm
    exact Lifecycle.generation_mk_pack runner.lifecycle.generation_toNat_lt _
  · rfl

/-- Every call keeps the runner coherent, a start needing a generation to spare. -/
theorem perform (call : ServiceCall) (room : call = .run → runner.lifecycle.generation.toNat + 1 < 2 ^ 56)
    (valid : max 1 runner.settings.handlerConcurrency ≤ maxPermits) : (call.perform runner).Coherent := by
  cases call with
  | run => exact coherent.runAsync (room rfl) valid
  | close index =>
    simp only [ServiceCall.perform]
    split
    · next found => exact coherent.close found
    · exact coherent
  | awaitShutdown index =>
    simp only [ServiceCall.perform]
    split
    · next found => exact coherent.awaitShutdown found
    · exact coherent
  | refuse value => exact coherent.refuse value
  | publish queue message => exact coherent.publish queue message
  | deliver index => exact coherent.deliverWaiting index

/-- A start moves the generation on by at most one; no other call moves it. -/
theorem generation_perform (call : ServiceCall) (room : call = .run → runner.lifecycle.generation.toNat + 1 < 2 ^ 56)
    (valid : max 1 runner.settings.handlerConcurrency ≤ maxPermits) :
    (call.perform runner).lifecycle.generation.toNat ≤
      runner.lifecycle.generation.toNat + if call = .run then 1 else 0 := by
  cases call with
  | run =>
    have below : (runner.lifecycle.generation + 1).toNat < 2 ^ 56 := by
      rw [Lifecycle.toNat_generation_add_one]
      exact room rfl
    simp only [ServiceCall.perform, if_pos, runner.lifecycle_runAsync below valid]
    split
    · exact Nat.le_of_eq (by rw [Lifecycle.generation_mk_pack below, Lifecycle.toNat_generation_add_one])
    · omega
  | close index =>
    simp only [ServiceCall.perform]
    split
    · next found => simp [coherent.generation_close found]
    · simp
  | awaitShutdown index =>
    simp only [ServiceCall.perform]
    split
    · next found => simp [coherent.generation_awaitShutdown found]
    · simp
  | refuse value => simp [ServiceCall.perform]
  | publish queue message => simp [ServiceCall.perform]
  | deliver index => simp [ServiceCall.perform, (runner.sameRuns_deliverWaiting index).lifecycle]

/-- A coherent runner holds one broker connection while its run is going and none while it is idle. -/
theorem openConnections_eq :
    runner.clients.hub.openConnections = if runner.lifecycle.state = .idle then 0 else 1 := by
  by_cases idle : runner.lifecycle.state = .idle
  · rw [if_pos idle]
    exact (coherent.idle idle).1
  · rw [if_neg idle]
    exact (coherent.live idle).1

/-- A handle whose run is not going, because a newer run has started since or because the runner is
idle, sees its run as idle; a close or an await through it fails and changes nothing. -/
theorem stale_handle {index : Nat} {h : RunHandle} (found : runner.handle? index = some h)
    (stale : h.generation ≠ runner.lifecycle.generation ∨ runner.lifecycle.state = .idle) :
    runner.handleState h = .idle ∧
      runner.close index h = (.error (.illegalState ServiceRunner.name "close" .idle), runner) ∧
      runner.awaitShutdown h = (.error (.illegalState ServiceRunner.name "await shutdown" .idle), runner) := by
  have idle : runner.lifecycle.stateOf h.generation = .idle := by
    rw [Lifecycle.stateOf_eq]
    rcases stale with other | idle
    · exact if_neg fun same => other same.symm
    · split
      · exact idle
      · rfl
  -- a handle's generation is stored whole, so its low bits match only if it is the current one
  have whole : h.generation.toNat % 2 ^ 56 = h.generation.toNat :=
    Nat.mod_eq_of_lt (Nat.lt_of_le_of_lt (coherent.started h (List.mem_of_getElem? found))
      runner.lifecycle.generation_toNat_lt)
  have notGoing : ¬ (runner.lifecycle.generation.toNat = h.generation.toNat % 2 ^ 56 ∧
      (runner.lifecycle.state = .running ∨ runner.lifecycle.state = .awaitingShutdown)) := by
    rintro ⟨same, going⟩
    rcases stale with other | idle
    · exact other (UInt64.toNat_inj.1 (same.trans whole)).symm
    · rcases going with state | state <;> simp [idle] at state
  refine ⟨idle, ?_, ?_⟩
  · rw [runner.close_eq coherent.formed, if_neg notGoing, idle]
  · rw [runner.awaitShutdown_eq coherent.formed, if_neg fun going => notGoing ⟨going.1, .inl going.2⟩, idle]

end ServiceRunner.Coherent

namespace ServiceCall

@[simp] theorem settings_perform (call : ServiceCall) (runner : ServiceRunner) :
    (call.perform runner).settings = runner.settings := by
  cases call with
  | run => exact runner.settings_runAsync
  | close index =>
    simp only [perform]
    split <;> simp
  | awaitShutdown index =>
    simp only [perform]
    split <;> simp
  | refuse value => rfl
  | publish queue message => rfl
  | deliver index => exact (runner.sameRuns_deliverWaiting index).settings

/-- Along any calls a coherent runner stays coherent and keeps its settings, and its generation moves
on by at most the number of starts, as long as that stays below 2^56. -/
theorem coherent_runFrom (calls : List ServiceCall) {runner : ServiceRunner} (coherent : runner.Coherent)
    (valid : max 1 runner.settings.handlerConcurrency ≤ maxPermits)
    (room : runner.lifecycle.generation.toNat + calls.count .run < 2 ^ 56) :
    (runFrom runner calls).Coherent ∧ (runFrom runner calls).settings = runner.settings ∧
      (runFrom runner calls).lifecycle.generation.toNat ≤ runner.lifecycle.generation.toNat + calls.count .run := by
  induction calls generalizing runner with
  | nil => exact ⟨coherent, rfl, Nat.le_add_right _ _⟩
  | cons call calls ih =>
    -- the count of starts splits into this call's and the rest's
    have counted : (call :: calls).count .run = calls.count .run + if call = .run then 1 else 0 := by
      simp [List.count_cons]
    rw [counted] at room ⊢
    simp only [runFrom]
    have spare : call = .run → runner.lifecycle.generation.toNat + 1 < 2 ^ 56 := by
      intro started
      simp only [started, if_pos] at room
      omega
    have moved := coherent.generation_perform call spare valid
    have kept := settings_perform call runner
    obtain ⟨after, settled, bounded⟩ := ih (coherent.perform call spare valid) (kept ▸ valid) (by omega)
    exact ⟨after, settled.trans kept, by omega⟩

end ServiceCall

/-- Every run of the service from a fresh runner, through any starts, closes and awaits (through
current or stale handles), any refusals of the broker, any messages published to it and any
deliveries of waiting messages to the run's handlers, while its handler concurrency fits a
semaphore and fewer than 2^56 starts are made. The runner is idle, running or awaiting its shutdown,
with one broker connection open while its run is going and none while it is idle. A start goes
through exactly when the runner is idle and the broker accepts it, and a start that fails leaves the
runner's state and its broker objects as they were. A handle whose run is not going sees it idle,
and a close or an await through it fails and changes nothing. A close that goes through releases its
run's objects once each, in order, and puts back what the run left unacknowledged. -/
theorem service_run_releases_each_run_once (settings : Settings) (calls : List ServiceCall) {runner : ServiceRunner}
    (running : ServiceCall.runFrom (ServiceRunner.create settings Hub.empty) calls = runner)
    (valid : max 1 settings.handlerConcurrency ≤ maxPermits) (room : calls.count .run + 1 < 2 ^ 56) :
    (runner.lifecycle.state = .idle ∨ runner.lifecycle.state = .running ∨
        runner.lifecycle.state = .awaitingShutdown) ∧
      runner.clients.hub.openConnections = (if runner.lifecycle.state = .idle then 0 else 1) ∧
      (runner.lifecycle.state = .idle ∧ runner.clients.hub.refusing = false →
        ∃ index, runner.runAsync.1 = .started index) ∧
      (¬ (runner.lifecycle.state = .idle ∧ runner.clients.hub.refusing = false) → ∃ error,
        runner.runAsync.1 = .failed error ∧ runner.runAsync.2.lifecycle.state = runner.lifecycle.state ∧
          runner.runAsync.2.clients = runner.clients) ∧
      (∀ index h, runner.handle? index = some h →
        (h.generation ≠ runner.lifecycle.generation ∨ runner.lifecycle.state = .idle) →
        runner.handleState h = .idle ∧
          runner.close index h = (.error (.illegalState ServiceRunner.name "close" .idle), runner) ∧
          runner.awaitShutdown h = (.error (.illegalState ServiceRunner.name "await shutdown" .idle), runner)) ∧
      (∀ index h after, runner.handle? index = some h → runner.close index h = (.ok (), after) →
        ∃ o : RunObjects, h.resources = some o.resources ∧ o.Opened settings runner.clients ∧
          after.lifecycle.state = .idle ∧ after.clients.hub.openConnections = 0 ∧
          after.clients.hub.events = runner.clients.hub.events ++ ServiceRunner.releaseEvents settings o.id ∧
          (∀ queue, after.clients.hub.readyOf queue =
            runner.clients.hub.readyOf queue ++ requeued (Hub.parkedBy o.id (runner.clients.hub.unackedOf queue))) ∧
          (∀ queue entry, entry ∈ after.clients.hub.unackedOf queue → entry.2.connection ≠ o.id) ∧
          ∀ other ∈ after.handles, other.resources = none) := by
  have fresh : (ServiceRunner.create settings Hub.empty).lifecycle.generation.toNat = 0 := by
    show Lifecycle.fresh.generation.toNat = 0
    decide
  obtain ⟨coherent, settled, bounded⟩ := running ▸
    ServiceCall.coherent_runFrom calls (ServiceRunner.Coherent.create settings) valid (by omega)
  have settled : runner.settings = settings := settled
  -- one more start still finds a generation below 2^56
  have below : (runner.lifecycle.generation + 1).toNat < 2 ^ 56 := by
    rw [Lifecycle.toNat_generation_add_one]
    omega
  refine ⟨coherent.steady, coherent.openConnections_eq, fun ready => ?_, runner.runAsync_of_unready below,
    fun _ _ found stale => coherent.stale_handle found stale, fun _ _ _ found closing => ?_⟩
  · obtain ⟨_, starting, -⟩ := runner.runAsync_of_accepting ready.1 ready.2 (settled ▸ valid)
    exact ⟨_, by rw [starting]⟩
  · rw [← settled]
    exact coherent.close_ok found closing

/-- A run on a service that admits every request, given the same push twice: the second copy
conflicts with the build the first dispatched, so its handler leaves it parked, and closing the
run puts it back on the event queue. -/
theorem left_event_put_back_by_close :
    let settings : Settings := ⟨"events", "results", "work", "outputs", [], true, 4⟩
    let event := Message.text ("[\"e1\", \"2023-11-14T22:13:20Z\", \"refs/heads/main\", \"0000000\", \"rev-e1\", " ++
      "\"https://github.com/acme/widgets.git\", \"alice\", \"bob\"]")
    let calls := [ServiceCall.run, .publish "events" event, .publish "events" event, .deliver 0]
    let runner := ServiceCall.runFrom (ServiceRunner.create settings Hub.empty) calls
    let h : RunHandle := ⟨1, some ⟨some 0, some 0, some 0, [(.events, 0), (.results, 1)]⟩⟩
    max 1 settings.handlerConcurrency ≤ maxPermits ∧ calls.count .run + 1 < 2 ^ 56 ∧
      runner.clients.hub.openConnections = (if runner.lifecycle.state = .idle then 0 else 1) ∧
      runner.handle? 0 = some h ∧ (runner.close 0 h).1 = .ok () ∧ runner.clients.hub.unackedOf "events" ≠ [] ∧
      ∃ o : RunObjects, h.resources = some o.resources ∧
        ∀ queue, (runner.close 0 h).2.clients.hub.readyOf queue =
          runner.clients.hub.readyOf queue ++ requeued (Hub.parkedBy o.id (runner.clients.hub.unackedOf queue)) := by
  intro settings event calls runner h
  have valid : max 1 settings.handlerConcurrency ≤ maxPermits := by decide
  have room : calls.count .run + 1 < 2 ^ 56 := by decide
  have facts : runner.handle? 0 = some h ∧ (runner.close 0 h).1 = .ok () ∧
      runner.clients.hub.unackedOf "events" ≠ [] := by
    decide +kernel
  obtain ⟨found, closed, parked⟩ := facts
  have holds := service_run_releases_each_run_once settings calls rfl valid room
  obtain ⟨o, held, -, -, -, -, putBack, -⟩ := holds.2.2.2.2.2 0 h (runner.close 0 h).2 found (Prod.ext closed rfl)
  exact ⟨valid, room, holds.2.1, found, closed, parked, o, held, putBack⟩

end BenchDispatch
