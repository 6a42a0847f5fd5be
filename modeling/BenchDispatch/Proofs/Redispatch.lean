import BenchDispatch.Proofs.History
import BenchDispatch.Proofs.InFlight

/-! A target sends a build to a worker once for as long as it remembers the build's id. After a
request is sent, its id stays tracked, or among its target's finished ids, until the target forgets
it; that takes a `built` report for it and reports of `finishedHistoryLength` other ids after it
(`Evicted`). With `admitAll` off, no call sends a request with that target and id again before then,
so a redelivered or duplicated event is never a second work item while its id is remembered.

The invariant `NoRedispatch` follows the requests sent and remembered since: each is `requested`,
`building`, or finished and no longer tracked, and the request a target waits for is neither one of
them nor `requesting`. Each of the three ways a request is sent (admission of an idle target, retry
of a `requesting` build, promotion from the backlog) then sends an id outside that set. -/

set_option autoImplicit false

namespace BenchDispatch

open Broker

/-- A target remembers an id: tracked in some state, or among its finished ids. -/
def BuildRegistry.Knows (registry : BuildRegistry) (target : BuildTarget) (id : BuildId) : Prop :=
  registry.stateOf target id ≠ none ∨ id ∈ (registry.buildsOf target).finished

/-- After `calls` from `loop`, a call sent the request for `target` with `id` to the work queue, and
the target has remembered the id after every call since. -/
def SentRemembered (loop : ControlLoop) (calls : List Call) (target : BuildTarget) (id : BuildId) : Prop :=
  SentThen loop (fun before call => (before.apply call).registry.Knows target id) calls target id

/-- The requests sent and remembered once a call that sends `sent` leaves `registry`. -/
def rememberedAfter (remembered : BuildTarget → BuildId → Prop) (registry : BuildRegistry)
    (sent : Option BuildRequest) (target : BuildTarget) (id : BuildId) : Prop :=
  (remembered target id ∧ registry.Knows target id) ∨
    ∃ request, sent = some request ∧ request.target = target ∧ request.id = id

theorem sentRemembered_append_singleton (loop : ControlLoop) (calls : List Call) (call : Call)
    (target : BuildTarget) (id : BuildId) :
    SentRemembered loop (calls ++ [call]) target id ↔
      rememberedAfter (SentRemembered loop calls) ((loop.run calls).apply call).registry
        ((loop.run calls).sentBy call) target id :=
  sentThen_append_singleton loop _ calls call target id

theorem BuildRegistry.tracked_track (registry : BuildRegistry) (request : BuildRequest) (state : BuildState)
    {target : BuildTarget} {id : BuildId} (tracked : registry.stateOf target id ≠ none) :
    (registry.setBuilds request.target ((registry.buildsOf request.target).track request state)).stateOf target id ≠
      none := by
  rw [stateOf_setBuilds_track]
  split
  · simp
  · exact tracked

namespace Dispatch

variable {registry after : BuildRegistry} {request : BuildRequest} {sent : Option BuildRequest}

theorem tracked_of_tracked (dispatch : Dispatch registry request after sent) {target : BuildTarget} {id : BuildId}
    (tracked : registry.stateOf target id ≠ none) : after.stateOf target id ≠ none := by
  cases dispatch with
  | sent =>
    rw [BuildRegistry.stateOf_update]
    split
    · simp
    · exact tracked
  | failed => exact tracked

/-- Sending a `requesting` build changes what its target remembers of no id. -/
theorem knows_iff (dispatch : Dispatch registry request after sent)
    (requesting : registry.stateOf request.target request.id = some .requesting) (target : BuildTarget)
    (id : BuildId) : after.Knows target id ↔ registry.Knows target id := by
  unfold BuildRegistry.Knows
  rw [dispatch.finished_eq, dispatch.stateOf_of_requesting requesting]
  split
  · rename_i written
    obtain ⟨rfl, rfl, -⟩ := written
    simp [requesting]
  · rfl

end Dispatch

/-- What keeps a remembered id from being sent again: a request sent and remembered since is
`requested`, `building`, or finished and untracked; the request a target waits for was not sent since
its id was last forgotten, and is not `requesting`. -/
structure NoRedispatch (registry : BuildRegistry) (backlog : Backlog) (remembered : BuildTarget → BuildId → Prop) :
    Prop where
  recorded : ∀ target id, remembered target id →
    registry.stateOf target id = some .requested ∨ registry.stateOf target id = some .building ∨
      registry.stateOf target id = none ∧ id ∈ (registry.buildsOf target).finished
  waiting_unsent : ∀ target request, backlog.peek target = some request → ¬ remembered target request.id
  waiting_fresh : ∀ target request, backlog.peek target = some request →
    registry.stateOf target request.id ≠ some .requesting

namespace NoRedispatch

variable {registry : BuildRegistry} {backlog : Backlog} {remembered : BuildTarget → BuildId → Prop}

theorem unsent_of_requesting (norepeat : NoRedispatch registry backlog remembered) {target : BuildTarget}
    {id : BuildId} (requesting : registry.stateOf target id = some .requesting) : ¬ remembered target id := by
  intro sent
  rcases norepeat.recorded target id sent with state | state | ⟨state, -⟩ <;> rw [requesting] at state <;>
    cases state

theorem unsent_of_unknown (norepeat : NoRedispatch registry backlog remembered) {target : BuildTarget}
    {id : BuildId} (untracked : registry.stateOf target id = none)
    (unfinished : id ∉ (registry.buildsOf target).finished) : ¬ remembered target id := by
  intro sent
  rcases norepeat.recorded target id sent with state | state | ⟨-, finished⟩
  · rw [untracked] at state
    cases state
  · rw [untracked] at state
    cases state
  · exact unfinished finished

/-- Fewer requests sent and remembered keep the invariant. -/
theorem restrict (norepeat : NoRedispatch registry backlog remembered) {fewer : BuildTarget → BuildId → Prop}
    (sub : ∀ target id, fewer target id → remembered target id) : NoRedispatch registry backlog fewer :=
  ⟨fun target id sent => norepeat.recorded target id (sub target id sent),
    fun target request waits sent => norepeat.waiting_unsent target request waits (sub target request.id sent),
    norepeat.waiting_fresh⟩

/-- Sending a `requesting` build that its target does not wait for records it `requested`. -/
theorem dispatch (norepeat : NoRedispatch registry backlog remembered) {request : BuildRequest}
    {after : BuildRegistry} {sent : Option BuildRequest} (dispatch : Dispatch registry request after sent)
    (requesting : registry.stateOf request.target request.id = some .requesting)
    (unwaited : ∀ waiting, backlog.peek request.target = some waiting → waiting.id ≠ request.id) :
    NoRedispatch after backlog fun target id =>
      remembered target id ∨ ∃ sentRequest, sent = some sentRequest ∧ sentRequest.target = target ∧ sentRequest.id = id := by
  have state := dispatch.stateOf_of_requesting requesting
  have fresh := norepeat.unsent_of_requesting requesting
  refine ⟨?_, ?_, ?_⟩
  · rintro target id (sentBefore | ⟨sentRequest, sending, rfl, rfl⟩)
    · -- the dispatched build was not sent and remembered, so this one is another
      have other : ¬ (request.target = target ∧ request.id = id ∧ sent = some request) := by
        rintro ⟨rfl, rfl, -⟩
        exact fresh sentBefore
      rw [state, if_neg other, dispatch.finished_eq]
      exact norepeat.recorded target id sentBefore
    · obtain rfl := dispatch.sent_eq sending
      rw [state, if_pos ⟨rfl, rfl, sending⟩]
      exact .inl rfl
  · rintro target waiting waits (sentBefore | ⟨sentRequest, sending, rfl, same⟩)
    · exact norepeat.waiting_unsent target waiting waits sentBefore
    · obtain rfl := dispatch.sent_eq sending
      exact unwaited waiting waits same.symm
  · intro target waiting waits
    rw [state]
    split
    · simp
    · exact norepeat.waiting_fresh target waiting waits

/-- An idle target that waits for nothing may track a request it does not remember. -/
theorem track_idle (norepeat : NoRedispatch registry backlog remembered) {request : BuildRequest}
    (idle : ∀ id, registry.stateOf request.target id = none)
    (unfinished : request.id ∉ (registry.buildsOf request.target).finished)
    (unwaited : backlog.peek request.target = none) :
    NoRedispatch (registry.setBuilds request.target ((registry.buildsOf request.target).track request .requesting))
      backlog remembered := by
  have state := BuildRegistry.stateOf_setBuilds_track registry request .requesting
  have finished := BuildRegistry.finished_setBuilds registry request.target
    (TargetBuilds.finished_track (registry.buildsOf request.target) request .requesting)
  have fresh := norepeat.unsent_of_unknown (idle request.id) unfinished
  refine ⟨?_, norepeat.waiting_unsent, ?_⟩
  · intro target id sent
    have other : ¬ (request.target = target ∧ request.id = id) := by
      rintro ⟨rfl, rfl⟩
      exact fresh sent
    rw [state, if_neg other, finished]
    exact norepeat.recorded target id sent
  · intro target waiting waits
    have other : ¬ (request.target = target ∧ request.id = waiting.id) := by
      rintro ⟨rfl, -⟩
      rw [unwaited] at waits
      cases waits
    rw [state, if_neg other]
    exact norepeat.waiting_fresh target waiting waits

/-- Offering a request its target does not remember keeps the invariant. -/
theorem offer (norepeat : NoRedispatch registry backlog remembered) {request : BuildRequest}
    (untracked : registry.stateOf request.target request.id = none)
    (unfinished : request.id ∉ (registry.buildsOf request.target).finished) :
    NoRedispatch registry (backlog.offer request.target request).2 remembered := by
  have fresh := norepeat.unsent_of_unknown untracked unfinished
  -- afterwards a target waits for the offered request or for the one it held
  have waiting : ∀ target held, (backlog.offer request.target request).2.peek target = some held →
      held = request ∧ request.target = target ∨ backlog.peek target = some held := by
    intro target held waits
    by_cases here : request.target = target
    · subst here
      rcases Backlog.peek_offer_self backlog request.target request with offered | ⟨old, kept, -, still⟩
      · rw [offered] at waits
        cases waits
        exact .inl ⟨rfl, rfl⟩
      · rw [still] at waits
        cases waits
        exact .inr kept
    · rw [Backlog.peek_offer_of_ne backlog request here] at waits
      exact .inr waits
  refine ⟨norepeat.recorded, ?_, ?_⟩
  · intro target held waits
    rcases waiting target held waits with ⟨rfl, rfl⟩ | kept
    · exact fresh
    · exact norepeat.waiting_unsent target held kept
  · intro target held waits
    rcases waiting target held waits with ⟨rfl, rfl⟩ | kept
    · simp [untracked]
    · exact norepeat.waiting_fresh target held kept

/-- A `building` report writes `building`, which is neither `requesting` nor forgetful. -/
theorem update_building (norepeat : NoRedispatch registry backlog remembered) (request : BuildRequest) :
    NoRedispatch (registry.update request.target request .requested .building).2 backlog remembered := by
  have state := BuildRegistry.stateOf_update registry request.target request .requested .building
  refine ⟨?_, norepeat.waiting_unsent, ?_⟩
  · intro target id sent
    rw [state, BuildRegistry.buildsOf_update_finished]
    split
    · exact .inr (.inl rfl)
    · exact norepeat.recorded target id sent
  · intro target waiting waits
    rw [state]
    split
    · simp
    · exact norepeat.waiting_fresh target waiting waits

/-- Completing a build keeps what stays remembered: the finished id joins its history, and a
promoted request is the one the target waited for, which was not sent and remembered. -/
theorem complete (norepeat : NoRedispatch registry backlog remembered) (coherent : Coherent registry backlog)
    {target : BuildTarget} {request : BuildRequest} {completion : Completion} {completed : BuildRegistry}
    {remaining : Backlog}
    (completing : registry.complete backlog target request .building = (completion, completed, remaining)) :
    NoRedispatch completed remaining fun other id => remembered other id ∧ completed.Knows other id := by
  have retires := coherent.retires target request
  have state := BuildRegistry.stateOf_complete retires completing
  have finished : ∀ other, (completed.buildsOf other).finished =
      if target = other then ((registry.buildsOf target).finish request.id).finished
      else (registry.buildsOf other).finished := by
    intro other
    have history := BuildRegistry.finished_complete registry backlog target request .building other
    rwa [completing] at history
  have unpromoted : ∀ id, remembered target id → completion.next.map (·.id) ≠ some id := by
    intro id sent promoted
    obtain ⟨next, promotedNext, rfl⟩ := Option.map_eq_some_iff.1 promoted
    exact norepeat.waiting_unsent target next (BuildRegistry.complete_promoted retires completing promotedNext).1 sent
  -- a target waits afterwards only for what it waited for, and then it promoted nothing
  have waitingAfter : ∀ other held, remaining.peek other = some held →
      backlog.peek other = some held ∧ (target = other → completion.next = none) := by
    obtain ⟨-, ⟨-, -, rfl, -⟩ | ⟨-, none, rfl, -⟩⟩ := BuildRegistry.complete_cases retires completing
    · intro other held waits
      rw [Backlog.peek_erase] at waits
      split at waits
      · cases waits
      · exact ⟨waits, fun same => absurd same ‹_›⟩
    · exact fun other held waits => ⟨waits, fun _ => none⟩
  refine ⟨?_, ?_, ?_⟩
  · rintro other id ⟨sent, knows⟩
    by_cases here : target = other
    · subst here
      rw [state, if_pos rfl, if_neg (unpromoted id sent)]
      by_cases same : request.id = id
      · subst same
        rw [if_pos rfl, finished, if_pos rfl]
        exact .inr (.inr ⟨rfl, TargetBuilds.mem_finish _ _⟩)
      · rw [if_neg same]
        rcases norepeat.recorded target id sent with requested | building | ⟨untracked, -⟩
        · exact .inl requested
        · exact .inr (.inl building)
        · -- still untracked, and still remembered, so still finished
          refine .inr (.inr ⟨untracked, knows.resolve_left ?_⟩)
          rw [state, if_pos rfl, if_neg (unpromoted id sent), if_neg same, untracked]
          exact fun tracked => tracked rfl
    · rw [state, if_neg here, finished, if_neg here]
      exact norepeat.recorded other id sent
  · rintro other held waits ⟨sent, -⟩
    exact norepeat.waiting_unsent other held (waitingAfter other held waits).1 sent
  · intro other held waits
    obtain ⟨waited, busy⟩ := waitingAfter other held waits
    rw [state]
    by_cases here : target = other
    · subst here
      rw [if_pos rfl, busy rfl, Option.map_none]
      simp only [reduceCtorEq, if_false]
      split
      · simp
      · exact norepeat.waiting_fresh target held waited
    · rw [if_neg here]
      exact norepeat.waiting_fresh other held waited

/-- What a call sends was not sent and remembered before it. -/
theorem fresh {loop : ControlLoop} {registry : BuildRegistry} {backlog : Backlog} {request : BuildRequest}
    {completes : Option (BuildTarget × BuildId)} (norepeat : NoRedispatch loop.registry loop.backlog remembered)
    (coherent : Coherent loop.registry loop.backlog) (queued : loop.settings.admitAll = false)
    (effect : Effect loop registry backlog (some request) completes) : ¬ remembered request.target request.id := by
  cases effect with
  | launch admitted _ untracked unfinished _ dispatch =>
    obtain rfl := dispatch.sent_eq rfl
    exact norepeat.unsent_of_unknown untracked ((TargetBuilds.isFinished_eq_false _ _).1 unfinished)
  | retry retried _ requesting dispatch =>
    obtain rfl := dispatch.sent_eq rfl
    exact norepeat.unsent_of_requesting requesting
  | insert _ accepted _ _ => simp [queued] at accepted
  | promote finished next completing promoted dispatch =>
    obtain rfl := dispatch.sent_eq rfl
    obtain ⟨ownTarget, -⟩ := (coherent.complete completing).2 _ promoted
    have waits := (BuildRegistry.complete_promoted (coherent.retires _ finished) completing promoted).1
    rw [ownTarget]
    exact norepeat.waiting_unsent _ _ waits

/-- One call with `admitAll` off keeps the invariant for what is sent and remembered after it. -/
theorem step {loop : ControlLoop} {registry : BuildRegistry} {backlog : Backlog} {sent : Option BuildRequest}
    {completes : Option (BuildTarget × BuildId)} (norepeat : NoRedispatch loop.registry loop.backlog remembered)
    (coherent : Coherent loop.registry loop.backlog) (queued : loop.settings.admitAll = false)
    (effect : Effect loop registry backlog sent completes) :
    NoRedispatch registry backlog (rememberedAfter remembered registry sent) := by
  -- what a call that sends nothing keeps is some of what was remembered
  have unsent : ∀ target id, rememberedAfter remembered registry none target id → remembered target id := by
    rintro target id (⟨sentBefore, -⟩ | ⟨_, nothing, -⟩)
    · exact sentBefore
    · cases nothing
  have sending : ∀ target id, rememberedAfter remembered registry sent target id →
      remembered target id ∨ ∃ request, sent = some request ∧ request.target = target ∧ request.id = id := by
    rintro target id (⟨sentBefore, -⟩ | sentNow)
    · exact .inl sentBefore
    · exact .inr sentNow
  cases effect with
  | idle => exact norepeat.restrict unsent
  | offer request _ untracked unfinished _ =>
    exact (norepeat.offer untracked ((TargetBuilds.isFinished_eq_false _ _).1 unfinished)).restrict unsent
  | launch request _ untracked unfinished idle dispatch =>
    have unwaited : loop.backlog.peek request.target = none := by
      cases waits : loop.backlog.peek request.target with
      | none => rfl
      | some held =>
        have busy := (BuildRegistry.busy_iff _ _).1 (coherent.waiting_busy _ held waits)
        rw [idle] at busy
        cases busy
    have tracked := norepeat.track_idle ((TargetBuilds.isEmpty_active_iff _).1 idle)
      ((TargetBuilds.isFinished_eq_false _ _).1 unfinished) unwaited
    have requesting := BuildRegistry.stateOf_setBuilds_track loop.registry request .requesting request.target request.id
    rw [if_pos ⟨rfl, rfl⟩] at requesting
    exact (tracked.dispatch dispatch requesting (by simp [unwaited])).restrict sending
  | retry request _ requesting dispatch =>
    have unwaited : ∀ waiting, loop.backlog.peek request.target = some waiting → waiting.id ≠ request.id := by
      intro waiting waits same
      exact norepeat.waiting_fresh _ waiting waits (by rw [same]; exact requesting)
    exact (norepeat.dispatch dispatch requesting unwaited).restrict sending
  | insert request accepted _ _ => simp [queued] at accepted
  | advance request => exact (norepeat.update_building request).restrict unsent
  | finish request completing _ =>
    refine (norepeat.complete coherent completing).restrict ?_
    rintro target id (known | ⟨_, nothing, -⟩)
    · exact known
    · cases nothing
  | promote request next completing promoted dispatch =>
    obtain ⟨ownTarget, requesting⟩ := (coherent.complete completing).2 next promoted
    rw [← ownTarget] at requesting
    -- the target hands over the request it waited for, and waits for nothing after
    have erased := BuildRegistry.complete_promoted_erases (coherent.retires _ request) completing promoted
    have unwaited : ∀ waiting, backlog.peek next.target = some waiting → waiting.id ≠ next.id := by
      intro waiting waits
      rw [erased, Backlog.peek_erase, if_pos ownTarget.symm] at waits
      cases waits
    refine ((norepeat.complete coherent completing).dispatch dispatch requesting unwaited).restrict ?_
    rintro target id (⟨sentBefore, knows⟩ | sentNow)
    · exact .inl ⟨sentBefore, (dispatch.knows_iff requesting target id).1 knows⟩
    · exact .inr sentNow

end NoRedispatch

theorem noRedispatch_run (settings : Settings) (hub : Hub) (queued : settings.admitAll = false) (calls : List Call) :
    NoRedispatch ((ControlLoop.start settings hub).run calls).registry ((ControlLoop.start settings hub).run calls).backlog
      (SentRemembered (ControlLoop.start settings hub) calls) := by
  induction calls using List.reverseRecOn with
  | nil =>
    refine ⟨?_, ?_, ?_⟩ <;> intro target
    · rintro id ⟨before, call, after, -, split, -⟩
      simp at split
    · intro request waits
      simp [ControlLoop.start, Backlog.peek, Backlog.empty] at waits
    · intro request waits
      simp [ControlLoop.start, Backlog.peek, Backlog.empty] at waits
  | append_singleton calls call norepeat =>
    rw [ControlLoop.run_append_singleton]
    have step := norepeat.step (coherent_run settings hub calls) (by simpa [ControlLoop.start] using queued)
      (ControlLoop.effect_apply _ call)
    exact step.restrict fun target id => (sentRemembered_append_singleton _ calls call target id).1

namespace Effect

variable {loop : ControlLoop} {registry : BuildRegistry} {backlog : Backlog}

/-- A request a call sends is `requested` right after it. -/
theorem requested_of_sent {request : BuildRequest} {completes : Option (BuildTarget × BuildId)}
    (coherent : Coherent loop.registry loop.backlog) (queued : loop.settings.admitAll = false)
    (effect : Effect loop registry backlog (some request) completes) :
    registry.stateOf request.target request.id = some .requested := by
  cases effect with
  | launch admitted _ _ _ _ dispatch =>
    obtain rfl := dispatch.sent_eq rfl
    have requesting := BuildRegistry.stateOf_setBuilds_track loop.registry request .requesting request.target request.id
    rw [if_pos ⟨rfl, rfl⟩] at requesting
    rw [dispatch.stateOf_of_requesting requesting, if_pos ⟨rfl, rfl, rfl⟩]
  | retry retried _ requesting dispatch =>
    obtain rfl := dispatch.sent_eq rfl
    rw [dispatch.stateOf_of_requesting requesting, if_pos ⟨rfl, rfl, rfl⟩]
  | insert _ accepted _ _ => simp [queued] at accepted
  | promote finished next completing promoted dispatch =>
    obtain rfl := dispatch.sent_eq rfl
    obtain ⟨ownTarget, requesting⟩ := (coherent.complete completing).2 _ promoted
    rw [← ownTarget] at requesting
    rw [dispatch.stateOf_of_requesting requesting, if_pos ⟨rfl, rfl, rfl⟩]

/-- Only a `built` report of a build stops its target tracking it. -/
theorem completes_of_untracked {sent : Option BuildRequest} {completes : Option (BuildTarget × BuildId)}
    {target : BuildTarget} {id : BuildId} (coherent : Coherent loop.registry loop.backlog)
    (effect : Effect loop registry backlog sent completes) (tracked : loop.registry.stateOf target id ≠ none)
    (untracked : registry.stateOf target id = none) : completes = some (target, id) := by
  -- a completion untracks its own build and no other
  have retired : ∀ {request : BuildRequest} {completion : Completion} {completed : BuildRegistry}
      {remaining : Backlog},
      loop.registry.complete loop.backlog request.target request .building = (completion, completed, remaining) →
        completed.stateOf target id = none → some (request.target, request.id) = some (target, id) := by
    intro request completion completed remaining completing gone
    rw [BuildRegistry.stateOf_complete (coherent.retires _ request) completing] at gone
    by_cases here : request.target = target
    · subst here
      rw [if_pos rfl] at gone
      split at gone
      · cases gone
      · split at gone
        · rename_i same
          rw [same]
        · exact absurd gone tracked
    · rw [if_neg here] at gone
      exact absurd gone tracked
  cases effect with
  | idle => exact absurd untracked tracked
  | offer => exact absurd untracked tracked
  | launch request _ _ _ _ dispatch =>
    exact absurd untracked (dispatch.tracked_of_tracked (loop.registry.tracked_track request .requesting tracked))
  | retry request _ _ dispatch => exact absurd untracked (dispatch.tracked_of_tracked tracked)
  | insert request _ _ dispatch =>
    refine absurd untracked (dispatch.tracked_of_tracked ?_)
    rcases BuildRegistry.insert_cases loop.registry request.target request .requesting with
      ⟨-, inserted⟩ | ⟨-, inserted⟩ | ⟨_, -, -, inserted⟩ <;> rw [inserted]
    · exact loop.registry.tracked_track request .requesting tracked
    · exact tracked
    · exact tracked
  | advance request =>
    rw [BuildRegistry.stateOf_update] at untracked
    split at untracked
    · cases untracked
    · exact absurd untracked tracked
  | finish request completing _ => exact retired completing untracked
  | promote request next completing _ dispatch =>
    refine retired completing ?_
    by_contra stillTracked
    exact dispatch.tracked_of_tracked stillTracked untracked

end Effect

/-- A target that tracks an id after some calls and does not after more processed a `built` report
for it among the further calls. -/
theorem reported_of_untracked (settings : Settings) (hub : Hub) (calls more : List Call) {target : BuildTarget}
    {id : BuildId} (tracked : ((ControlLoop.start settings hub).run calls).registry.stateOf target id ≠ none)
    (untracked : ((ControlLoop.start settings hub).run (calls ++ more)).registry.stateOf target id = none) :
    ∃ early done late, more = early ++ done :: late ∧ done.completes = some (target, id) := by
  induction more using List.reverseRecOn with
  | nil => exact absurd (by simpa using untracked) tracked
  | append_singleton more call reported =>
    rw [← List.append_assoc, ControlLoop.run_append_singleton] at untracked
    by_cases gone : ((ControlLoop.start settings hub).run (calls ++ more)).registry.stateOf target id = none
    · obtain ⟨early, done, late, rfl, reports⟩ := reported gone
      exact ⟨early, done, late ++ [call], by simp, reports⟩
    · exact ⟨more, call, [], rfl,
        (ControlLoop.effect_apply _ call).completes_of_untracked (coherent_run settings hub _) gone untracked⟩

/-- A request sent again for the same target and id means the target stopped knowing the id at
some point after the first send. -/
theorem forgot_before_resent (settings : Settings) (hub : Hub) (queued : settings.admitAll = false)
    (before middle : List Call) (first second : Call) {request again : BuildRequest}
    (sent : ((ControlLoop.start settings hub).run before).sentBy first = some request)
    (sentAgain : ((ControlLoop.start settings hub).run (before ++ first :: middle)).sentBy second = some again)
    (sameTarget : again.target = request.target) (sameId : again.id = request.id) :
    ∃ k ≤ middle.length,
      ¬ ((ControlLoop.start settings hub).run (before ++ first :: middle.take k)).registry.Knows
        request.target request.id := by
  by_contra alwaysKnown
  -- known at every point after the first send, the request is remembered as sent
  have remembered : SentRemembered (ControlLoop.start settings hub) (before ++ first :: middle)
      request.target request.id := by
    refine ⟨before, first, middle, request, rfl, sent, rfl, rfl, ?_⟩
    intro early later rest split
    have known := not_not.1 fun unknown => alwaysKnown ⟨early.length + 1, by simp [split], unknown⟩
    have prefixed : before ++ first :: middle.take (early.length + 1) = (before ++ first :: early) ++ [later] := by
      rw [split, List.take_length_add_append]
      simp
    rwa [prefixed, ControlLoop.run_append_singleton] at known
  have effect := ControlLoop.effect_apply ((ControlLoop.start settings hub).run (before ++ first :: middle)) second
  rw [sentAgain] at effect
  have fresh := (noRedispatch_run settings hub queued _).fresh (coherent_run settings hub _)
    (by simpa [ControlLoop.start] using queued) effect
  rw [sameTarget, sameId] at fresh
  exact fresh remembered

/-- A target that stops knowing an id it was sent for processed a `built` report for it, and then
reports of `finishedHistoryLength` other ids that pushed it out of the finished history. -/
theorem forgotten_reported_evicted (settings : Settings) (hub : Hub) (queued : settings.admitAll = false)
    (before : List Call) (first : Call) {request : BuildRequest}
    (sent : ((ControlLoop.start settings hub).run before).sentBy first = some request) (calls : List Call)
    (forgotten : ¬ ((ControlLoop.start settings hub).run (before ++ first :: calls)).registry.Knows
      request.target request.id) :
    (∃ done ∈ calls, done.completes = some (request.target, request.id)) ∧
      Evicted (before ++ first :: calls) request.target request.id := by
  simp only [BuildRegistry.Knows, not_or, not_not] at forgotten
  obtain ⟨untracked, unfinished⟩ := forgotten
  -- right after the first call the id was `requested`, so a `built` report untracked it
  have requested : ((ControlLoop.start settings hub).run (before ++ [first])).registry.stateOf
      request.target request.id = some .requested := by
    have effect := ControlLoop.effect_apply ((ControlLoop.start settings hub).run before) first
    rw [sent] at effect
    rw [ControlLoop.run_append_singleton]
    exact effect.requested_of_sent (coherent_run settings hub _) (by simpa [ControlLoop.start] using queued)
  have regrouped : before ++ first :: calls = (before ++ [first]) ++ calls := by simp
  rw [regrouped] at untracked unfinished
  obtain ⟨early, done, late, split, reports⟩ :=
    reported_of_untracked settings hub (before ++ [first]) calls (by rw [requested]; simp) untracked
  -- the report left the id in the history, which forgot it later
  have joined : request.id ∈ (((ControlLoop.start settings hub).run ((before ++ [first] ++ early) ++ [done])).registry.buildsOf
      request.target).finished := by
    rw [ControlLoop.run_append_singleton]
    exact ControlLoop.mem_finished_apply _ reports
  have evicted := evicted_of_forgotten settings hub _ late joined (by simpa [split] using unfinished)
  exact ⟨⟨done, by simp [split], reports⟩, by simpa [regrouped, split] using evicted⟩

/-- With `admitAll` off, once a call has sent the request for a target and id to the work queue, no
later call sends it again unless the target forgot the id in between: at some point it was neither
tracked nor among the finished ids, after a `built` report for it and reports of
`finishedHistoryLength` other ids of the target. -/
theorem no_redispatch_unless_forgotten (settings : Settings) (hub : Hub) (queued : settings.admitAll = false)
    (before middle : List Call) (first second : Call) (request : BuildRequest)
    (sent : ((ControlLoop.start settings hub).run before).sentBy first = some request)
    (unforgotten : ¬ ∃ k ≤ middle.length,
      ¬ ((ControlLoop.start settings hub).run (before ++ first :: middle.take k)).registry.Knows
          request.target request.id ∧
        (∃ done ∈ middle.take k, done.completes = some (request.target, request.id)) ∧
        Evicted (before ++ first :: middle.take k) request.target request.id) :
    (((ControlLoop.start settings hub).run (before ++ first :: middle)).sentBy second).map
      (fun again => (again.target, again.id)) ≠ some (request.target, request.id) := by
  intro resent
  obtain ⟨again, sentAgain, same⟩ := Option.map_eq_some_iff.1 resent
  obtain ⟨sameTarget, sameId⟩ := Prod.mk.inj same
  obtain ⟨k, within, forgotten⟩ :=
    forgot_before_resent settings hub queued before middle first second sent sentAgain sameTarget sameId
  exact unforgotten ⟨k, within, forgotten, forgotten_reported_evicted settings hub queued before first sent _ forgotten⟩

/-- A fresh loop that processes a request sends it; after a `built` report on it the target still
remembers the id among its finished builds, so a duplicate is not sent again. -/
theorem reported_request_not_redispatched :
    let settings : Settings := ⟨"events", "results", "work", "outputs", [], false, 1⟩
    let request : BuildRequest := ⟨"b1", ⟨0, 0, 0, by decide, by decide, by decide, by decide, by decide⟩,
      "repo", "main", "r1", "alice"⟩
    let report := Message.text ("[\"x\", \"1970-01-01T00:00:02Z\", \"BUILT\", " ++
      "[\"b1\", \"1970-01-01T00:00:00Z\", \"repo\", \"main\", \"r1\", \"alice\"]]")
    let loop := ControlLoop.start settings (Hub.empty.declare "work")
    let middle := [Call.result report]
    settings.admitAll = false ∧ (loop.run []).sentBy (.process request) = some request ∧
      (¬ ∃ k ≤ middle.length,
        ¬ (loop.run ([] ++ .process request :: middle.take k)).registry.Knows request.target request.id ∧
          (∃ done ∈ middle.take k, done.completes = some (request.target, request.id)) ∧
          Evicted ([] ++ .process request :: middle.take k) request.target request.id) ∧
      ((loop.run ([] ++ .process request :: middle)).sentBy (.process request)).map
        (fun again => (again.target, again.id)) ≠ some (request.target, request.id) := by
  intro settings request report loop middle
  -- the report completes the build, and the finished id is remembered
  have remembered : (loop.run ([] ++ .process request :: middle.take 1)).registry.Knows request.target request.id := by
    unfold BuildRegistry.Knows
    decide +kernel
  have unforgotten : ¬ ∃ k ≤ middle.length,
      ¬ (loop.run ([] ++ .process request :: middle.take k)).registry.Knows request.target request.id ∧
        (∃ done ∈ middle.take k, done.completes = some (request.target, request.id)) ∧
        Evicted ([] ++ .process request :: middle.take k) request.target request.id := by
    rintro ⟨k, within, forgotten, ⟨done, member, -⟩, -⟩
    rcases Nat.le_one_iff_eq_zero_or_eq_one.1 within with rfl | rfl
    · rw [List.take_zero] at member
      exact List.not_mem_nil member
    · exact forgotten remembered
  exact ⟨rfl, rfl, unforgotten, no_redispatch_unless_forgotten settings _ rfl [] middle (.process request)
    (.process request) request rfl unforgotten⟩

end BenchDispatch
