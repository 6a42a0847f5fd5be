import BenchDispatch.Proofs.Run

/-! What holds of every loop a run reaches, under either setting of `admitAll`: each build the
registry tracks is `requesting`, `requested` or `building`, since no handler writes a later state;
a waiting request is keyed by its own target; and only a busy target has one waiting. Completion
then always retires the record it names, so the branch of `complete` that keeps a record tracked
past `building` never runs. -/

set_option autoImplicit false

namespace BenchDispatch

open Broker

/-- The states the control loop tracks a build in: those before a worker reports it built. -/
def BuildState.Pending (state : BuildState) : Prop :=
  state = .requesting ∨ state = .requested ∨ state = .building

theorem BuildState.ancestors_building :
    BuildState.building.ancestors = [.sourceUpdated, .updatingSource, .requested, .requesting] := by
  simp [ancestors, predecessor]

/-- A pending build is `building` or on the way to it. -/
theorem BuildState.Pending.retires {state : BuildState} (pending : state.Pending) :
    (state == .building || state.precedes .building) = true := by
  rcases pending with rfl | rfl | rfl <;> simp [precedes, ancestors_building]

namespace Dispatch

variable {registry after : BuildRegistry} {request : BuildRequest} {sent : Option BuildRequest}

/-- A dispatch of a `requesting` build sets it `requested` when the send goes through, and changes
nothing else. -/
theorem stateOf_of_requesting (dispatch : Dispatch registry request after sent)
    (requesting : registry.stateOf request.target request.id = some .requesting) (target : BuildTarget)
    (id : BuildId) :
    after.stateOf target id =
      if request.target = target ∧ request.id = id ∧ sent = some request then some .requested
      else registry.stateOf target id := by
  cases dispatch with
  | sent =>
    rw [BuildRegistry.stateOf_update]
    by_cases here : request.target = target
    · by_cases same : request.id = id
      · subst here same
        simp [requesting]
      · simp [same]
    · simp [here]
  | failed => simp

theorem finished_eq (dispatch : Dispatch registry request after sent) (target : BuildTarget) :
    (after.buildsOf target).finished = (registry.buildsOf target).finished := by
  cases dispatch with
  | sent => exact BuildRegistry.buildsOf_update_finished ..
  | failed => rfl

end Dispatch

/-- A busy target: some build of it is tracked. -/
def BuildRegistry.Busy (registry : BuildRegistry) (target : BuildTarget) : Prop :=
  ∃ id state, registry.stateOf target id = some state

theorem BuildRegistry.busy_iff (registry : BuildRegistry) (target : BuildTarget) :
    registry.Busy target ↔ (registry.buildsOf target).active.isEmpty = false := by
  have idle := TargetBuilds.isEmpty_active_iff (registry.buildsOf target)
  constructor
  · rintro ⟨id, state, tracked⟩
    cases empty : (registry.buildsOf target).active.isEmpty with
    | false => rfl
    | true => simp [idle.1 empty id, stateOf] at tracked
  · intro busy
    by_contra untracked
    have none : ∀ id, (registry.buildsOf target).stateOf id = none := by
      intro id
      cases tracked : (registry.buildsOf target).stateOf id with
      | none => rfl
      | some state => exact absurd ⟨id, state, tracked⟩ untracked
    simp [idle.2 none] at busy

/-- What every reachable loop satisfies, whatever its settings. -/
structure Coherent (registry : BuildRegistry) (backlog : Backlog) : Prop where
  pending : ∀ target id state, registry.stateOf target id = some state → state.Pending
  waiting_target : ∀ target request, backlog.peek target = some request → request.target = target
  waiting_busy : ∀ target request, backlog.peek target = some request → registry.Busy target

namespace Coherent

variable {registry : BuildRegistry} {backlog : Backlog}

/-- Every tracked build is `building` or in a state before it, so completing it retires it. -/
theorem retires (coherent : Coherent registry backlog) (target : BuildTarget) (request : BuildRequest) :
    ∀ current, registry.stateOf target request.id = some current →
      (current == .building || current.precedes .building) = true :=
  fun current tracked => (coherent.pending target request.id current tracked).retires

/-- Replacing a target's builds by pending ones keeps coherence, as long as the target stays busy
while a request waits for it. -/
theorem setBuilds (coherent : Coherent registry backlog) {target : BuildTarget} {builds : TargetBuilds}
    (pending : ∀ id state, builds.stateOf id = some state → state.Pending)
    (busy : ∀ request, backlog.peek target = some request → ∃ id state, builds.stateOf id = some state) :
    Coherent (registry.setBuilds target builds) backlog := by
  refine ⟨?_, coherent.waiting_target, ?_⟩
  · intro other id state tracked
    rw [BuildRegistry.stateOf_setBuilds] at tracked
    split at tracked
    · exact pending id state tracked
    · exact coherent.pending other id state tracked
  · intro other request waiting
    by_cases here : target = other
    · subst here
      obtain ⟨id, state, tracked⟩ := busy request waiting
      exact ⟨id, state, by simp [BuildRegistry.stateOf_setBuilds, tracked]⟩
    · obtain ⟨id, state, tracked⟩ := coherent.waiting_busy other request waiting
      exact ⟨id, state, by simp [BuildRegistry.stateOf_setBuilds, here, tracked]⟩

theorem track (coherent : Coherent registry backlog) (target : BuildTarget) (request : BuildRequest)
    {state : BuildState} (pending : state.Pending) :
    Coherent (registry.setBuilds target ((registry.buildsOf target).track request state)) backlog := by
  refine coherent.setBuilds ?_ ?_
  · intro id current tracked
    rw [TargetBuilds.stateOf_track] at tracked
    split at tracked
    · cases tracked
      exact pending
    · exact coherent.pending target id current tracked
  · exact fun _ _ => ⟨request.id, state, by simp [TargetBuilds.stateOf_track]⟩

theorem update (coherent : Coherent registry backlog) (target : BuildTarget) (request : BuildRequest)
    (source : BuildState) {destination : BuildState} (pending : destination.Pending) :
    Coherent (registry.update target request source destination).2 backlog := by
  rcases BuildRegistry.update_cases registry target request source destination with same | moved
  · rw [same]
    exact coherent
  · rw [moved]
    exact coherent.track target request pending

theorem dispatch (coherent : Coherent registry backlog) {request : BuildRequest} {after : BuildRegistry}
    {sent : Option BuildRequest} (dispatch : Dispatch registry request after sent) : Coherent after backlog := by
  cases dispatch with
  | sent => exact coherent.update request.target request .requesting (.inr (.inl rfl))
  | failed => exact coherent

theorem offer (coherent : Coherent registry backlog) {request : BuildRequest}
    (busy : registry.Busy request.target) : Coherent registry (backlog.offer request.target request).2 := by
  refine ⟨coherent.pending, ?_, ?_⟩
  · intro target waiting held
    by_cases here : request.target = target
    · subst here
      rcases Backlog.peek_offer_self backlog request.target request with offered | ⟨older, kept, -, offered⟩
      · rw [offered] at held
        cases held
        rfl
      · rw [offered] at held
        exact coherent.waiting_target _ _ (held ▸ kept)
    · rw [Backlog.peek_offer_of_ne backlog request here] at held
      exact coherent.waiting_target target waiting held
  · intro target waiting held
    by_cases here : request.target = target
    · subst here
      exact busy
    · rw [Backlog.peek_offer_of_ne backlog request here] at held
      exact coherent.waiting_busy target waiting held

/-- Completion keeps coherence, and the request it promotes is its target's, tracked `requesting`. -/
theorem complete (coherent : Coherent registry backlog) {target : BuildTarget} {request : BuildRequest}
    {completion : Completion} {completed : BuildRegistry} {remaining : Backlog}
    (completing : registry.complete backlog target request .building = (completion, completed, remaining)) :
    Coherent completed remaining ∧
      ∀ next, completion.next = some next → next.target = target ∧
        completed.stateOf target next.id = some .requesting := by
  have retires := coherent.retires target request
  -- the builds left once the record is dropped and its id remembered are all pending
  have left : ∀ id state, (((registry.buildsOf target).untrack request.id).finish request.id).stateOf id = some state →
      state.Pending := by
    intro id state tracked
    rw [TargetBuilds.stateOf_finish, TargetBuilds.stateOf_untrack] at tracked
    split at tracked
    · cases tracked
    · exact coherent.pending target id state tracked
  obtain ⟨-, ⟨idle, promoted, rfl, rfl⟩ | ⟨busy, promoted, rfl, rfl⟩⟩ := BuildRegistry.complete_cases retires completing
  · have erased : Coherent registry (backlog.erase target) := by
      refine ⟨coherent.pending, ?_, ?_⟩ <;> intro other waiting held <;> rw [Backlog.peek_erase] at held <;>
        split at held
      · cases held
      · exact coherent.waiting_target other waiting held
      · cases held
      · exact coherent.waiting_busy other waiting held
    cases waiting : backlog.peek target with
    | none =>
      simp only [Option.elim]
      refine ⟨erased.setBuilds left (by simp [Backlog.peek_erase]), by simp [promoted, waiting]⟩
    | some next =>
      simp only [Option.elim]
      refine ⟨?_, ?_⟩
      · refine erased.setBuilds ?_ (by simp [Backlog.peek_erase])
        intro id state tracked
        rw [TargetBuilds.stateOf_track] at tracked
        split at tracked
        · cases tracked
          exact .inl rfl
        · exact left id state tracked
      · intro promotedNext same
        rw [promoted, waiting] at same
        cases same
        exact ⟨coherent.waiting_target target next waiting, by
          simp [BuildRegistry.stateOf_setBuilds, TargetBuilds.stateOf_track]⟩
  · refine ⟨coherent.setBuilds left ?_, by simp [promoted]⟩
    intro _ _
    have tracked := (TargetBuilds.isEmpty_active_iff
      (((registry.buildsOf target).untrack request.id).finish request.id)).not.1 (by rw [busy]; exact Bool.false_ne_true)
    obtain ⟨id, present⟩ := not_forall.1 tracked
    obtain ⟨state, found⟩ := Option.ne_none_iff_exists'.1 present
    exact ⟨id, state, found⟩

/-- One call keeps coherence. -/
theorem step {loop : ControlLoop} {registry : BuildRegistry} {backlog : Backlog} {sent : Option BuildRequest}
    {completes : Option (BuildTarget × BuildId)} (coherent : Coherent loop.registry loop.backlog)
    (effect : Effect loop registry backlog sent completes) : Coherent registry backlog := by
  cases effect with
  | idle => exact coherent
  | offer request _ _ _ busy => exact coherent.offer ((BuildRegistry.busy_iff _ _).2 busy)
  | launch request _ _ _ _ dispatch => exact (coherent.track request.target request (.inl rfl)).dispatch dispatch
  | retry request _ _ dispatch => exact coherent.dispatch dispatch
  | insert request _ _ dispatch =>
    rcases BuildRegistry.insert_cases loop.registry request.target request .requesting with
      ⟨-, inserted⟩ | ⟨-, inserted⟩ | ⟨-, -, -, inserted⟩ <;> rw [inserted] at dispatch
    · exact (coherent.track request.target request (.inl rfl)).dispatch dispatch
    · exact coherent.dispatch dispatch
    · exact coherent.dispatch dispatch
  | advance request => exact coherent.update request.target request .requested (.inr (.inr rfl))
  | finish request completing _ => exact (coherent.complete completing).1
  | promote request next completing _ dispatch => exact (coherent.complete completing).1.dispatch dispatch

end Coherent

theorem coherent_empty : Coherent BuildRegistry.empty Backlog.empty := by
  constructor <;> simp [BuildRegistry.stateOf, BuildRegistry.buildsOf, BuildRegistry.empty, TargetBuilds.stateOf,
    TargetBuilds.empty, Backlog.peek, Backlog.empty]

/-- Every loop a run reaches from a fresh one is coherent. -/
theorem coherent_run (settings : Settings) (hub : Hub) (calls : List Call) :
    Coherent ((ControlLoop.start settings hub).run calls).registry ((ControlLoop.start settings hub).run calls).backlog := by
  induction calls using List.reverseRecOn with
  | nil => exact coherent_empty
  | append_singleton calls call coherent =>
    rw [ControlLoop.run_append_singleton]
    exact coherent.step (ControlLoop.effect_apply _ call)

/-- A report in any state but `building` and `built` is acknowledged and changes nothing. -/
theorem ControlLoop.onResult_of_untracked_state (loop : ControlLoop) {message : Message} {response : BuildResponse}
    (decoded : (decodeMessage? message : Option BuildResponse) = some response)
    (notBuilding : response.state ≠ .building) (notBuilt : response.state ≠ .built) : loop.onResult message = (.ack, loop) := by
  cases reported : response.state <;> simp_all [onResult]

/-- Every build a reachable loop tracks is `requesting`, `requested` or `building`, whatever the
settings. So completing a build as `built` always retires its record, which is then gone unless the
same id is the request promoted in its place; and a report in any other state than `building` and
`built` leaves the loop as it is. -/
theorem tracked_builds_pending (settings : Settings) (hub : Hub) (calls : List Call) :
    let loop := (ControlLoop.start settings hub).run calls
    (∀ target id state, loop.registry.stateOf target id = some state → state.Pending) ∧
      (∀ target request,
        let completed := loop.registry.complete loop.backlog target request .building
        completed.1.removed = true ∧
          (completed.2.1.stateOf target request.id = none ∨
            completed.1.next.map (·.id) = some request.id ∧
              completed.2.1.stateOf target request.id = some .requesting)) ∧
      ∀ message response, (decodeMessage? message : Option BuildResponse) = some response →
        response.state ≠ .building → response.state ≠ .built → (loop.onResult message).2 = loop := by
  intro loop
  have coherent := coherent_run settings hub calls
  refine ⟨coherent.pending, ?_, ?_⟩
  · intro target request
    have retires := coherent.retires target request
    dsimp only
    rcases completing : loop.registry.complete loop.backlog target request .building with
      ⟨completion, completed, remaining⟩
    obtain ⟨removed, -⟩ := BuildRegistry.complete_cases retires completing
    refine ⟨removed, ?_⟩
    -- the id leaves the target's builds, and comes back only as the promoted request
    have state := BuildRegistry.stateOf_complete retires completing target request.id
    by_cases promotedSame : completion.next.map (·.id) = some request.id
    · exact .inr ⟨promotedSame, by simp [state, promotedSame]⟩
    · exact .inl (by simp [state, promotedSame])
  · intro message response decoded notBuilding notBuilt
    rw [loop.onResult_of_untracked_state decoded notBuilding notBuilt]

end BenchDispatch
