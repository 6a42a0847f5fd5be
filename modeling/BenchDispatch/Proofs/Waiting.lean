import BenchDispatch.Proofs.Coherence

/-! Requests waiting in the backlog. A request waits only while its target is busy: it is offered
only to a busy target, and the call that leaves a target idle drains that target's entry in the
same step. Under `admitAll` nothing is ever offered, so the backlog stays as empty as a fresh loop
has it. -/

set_option autoImplicit false

namespace BenchDispatch

open Broker

theorem Backlog.entries_erase_of_nil {backlog : Backlog} (empty : backlog.entries = []) (target : BuildTarget) :
    (backlog.erase target).entries = [] := by
  simp [Backlog.erase, empty]

/-- Completion leaves the backlog as it was or drains the completed target's entry. -/
theorem BuildRegistry.complete_backlog (registry : BuildRegistry) (backlog : Backlog) (target : BuildTarget)
    (request : BuildRequest) (expected : BuildState) :
    (registry.complete backlog target request expected).2.2 = backlog.erase target ∨
      (registry.complete backlog target request expected).2.2 = backlog := by
  unfold complete
  simp only [Backlog.drain]
  cases backlog.peek target <;> split_ifs <;> simp

/-- Under `admitAll` no call puts a request in an empty backlog. -/
theorem Effect.backlog_entries_nil {loop : ControlLoop} {registry : BuildRegistry} {backlog : Backlog}
    {sent : Option BuildRequest} {completes : Option (BuildTarget × BuildId)}
    (queued : loop.settings.admitAll = true) (empty : loop.backlog.entries = [])
    (effect : Effect loop registry backlog sent completes) : backlog.entries = [] := by
  -- only `offer` writes to the backlog, and it needs `admitAll` off; completion only drains
  have drained : ∀ {target : BuildTarget} {request : BuildRequest} {completion : Completion}
      {completed : BuildRegistry},
      loop.registry.complete loop.backlog target request .building = (completion, completed, backlog) →
        backlog.entries = [] := by
    intro target request completion completed completing
    have written := BuildRegistry.complete_backlog loop.registry loop.backlog target request .building
    rw [completing] at written
    rcases written with erased | kept
    · rw [show backlog = _ from erased]
      exact Backlog.entries_erase_of_nil empty target
    · rw [show backlog = _ from kept]
      exact empty
  cases effect with
  | idle => exact empty
  | offer request declined => simp [queued] at declined
  | launch request declined => simp [queued] at declined
  | retry request declined => simp [queued] at declined
  | insert => exact empty
  | advance => exact empty
  | finish request completing => exact drained completing
  | promote request next completing => exact drained completing

/-- Under `admitAll` every run leaves the backlog empty. -/
theorem backlog_entries_run_of_admitAll {settings : Settings} (queued : settings.admitAll = true) (hub : Hub)
    (calls : List Call) : ((ControlLoop.start settings hub).run calls).backlog.entries = [] := by
  induction calls using List.reverseRecOn with
  | nil => rfl
  | append_singleton calls call empty =>
    have unchanged : ((ControlLoop.start settings hub).run calls).settings.admitAll = true := by
      simpa [ControlLoop.start] using queued
    rw [ControlLoop.run_append_singleton]
    exact (ControlLoop.effect_apply _ call).backlog_entries_nil unchanged empty

/-- In every loop a run reaches, whatever its settings, a target with a request waiting in the
backlog has a build tracked, so the request is promoted when that build completes; and under
`admitAll` the backlog stays empty. -/
theorem waiting_request_has_busy_target (settings : Settings) (hub : Hub) (calls : List Call) :
    let loop := (ControlLoop.start settings hub).run calls
    (∀ target request, loop.backlog.peek target = some request →
        ∃ id state, loop.registry.stateOf target id = some state) ∧
      (settings.admitAll = true → loop.backlog.entries = []) :=
  ⟨(coherent_run settings hub calls).waiting_busy, fun queued => backlog_entries_run_of_admitAll queued hub calls⟩

end BenchDispatch
