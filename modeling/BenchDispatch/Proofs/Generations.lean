import Mathlib
import BenchDispatch.Service.Lifecycle

/-! Generations of a service's runs. The lifecycle word holds a generation in its upper 56 bits and
a state in its low byte, and every operation reads the word back through that split: the word is
always a packed pair, the n-th successful start leaves generation `n % 2 ^ 56` in it, and the
first starts hand out 1, 2, 3, … A transition names its run by the low 56 bits of its generation
only: against any other bits it fails, reports the run as idle and leaves the word as it was, but a
generation that differs from the current one by a multiple of `2 ^ 56` moves the current run
(`transition_with_aliased_generation_moves_run`). A reset, and the state reported for a
generation, compare the generation whole, so the `2 ^ 56`-th start hands out `2 ^ 56` while the word
keeps generation 0: that run reads as idle at once, and a reset through its own generation does
nothing (`start_past_generation_width_reads_idle`). -/

set_option autoImplicit false

namespace BenchDispatch

namespace ServiceState

theorem code_toNat_lt (state : ServiceState) : state.code.toNat < 256 := by
  cases state <;> decide

@[simp] theorem ofByte_code (state : ServiceState) : ofByte state.code = state := by
  cases state <;> rfl

end ServiceState

namespace Lifecycle

/-! ### The packed word -/

theorem toNat_pack (generation : UInt64) (state : ServiceState) :
    (pack generation state).toNat = generation.toNat % 2 ^ 56 * 256 + state.code.toNat := by
  -- shifting by a byte drops the generation's top 8 bits
  have shifted : (generation <<< 8).toNat = generation.toNat % 2 ^ 56 * 256 := by
    have eight : (8 : UInt64).toNat % 64 = 8 := by decide
    rw [UInt64.toNat_shiftLeft, eight, Nat.shiftLeft_eq]
    omega
  rw [pack, UInt64.toNat_or, shifted, show generation.toNat % 2 ^ 56 * 256 = 2 ^ 8 * (generation.toNat % 2 ^ 56) by omega]
  exact (Nat.two_pow_add_eq_or_of_lt state.code_toNat_lt _).symm

@[simp] theorem toNat_unpack_pack_generation (generation : UInt64) (state : ServiceState) :
    (unpack (pack generation state)).1.toNat = generation.toNat % 2 ^ 56 := by
  have low := state.code_toNat_lt
  simp only [unpack, UInt64.toNat_shiftRight, toNat_pack, Nat.shiftRight_eq_div_pow]
  simp only [UInt64.reduceToNat, Nat.reduceMod, Nat.reducePow]
  omega

@[simp] theorem unpack_pack_state (generation : UInt64) (state : ServiceState) :
    (unpack (pack generation state)).2 = state := by
  have low := state.code_toNat_lt
  have byte : pack generation state &&& 0xFF = state.code := by
    apply UInt64.toNat_inj.1
    rw [UInt64.toNat_and, toNat_pack]
    simp only [UInt64.reduceToNat, show (255 : Nat) = 2 ^ 8 - 1 by rfl, Nat.and_two_pow_sub_one_eq_mod]
    omega
  simp [unpack, byte]

/-- Two packed words are equal exactly when their states are and their generations agree in the low
56 bits. -/
theorem pack_eq_pack_iff {generation other : UInt64} {state otherState : ServiceState} :
    pack generation state = pack other otherState ↔
      generation.toNat % 2 ^ 56 = other.toNat % 2 ^ 56 ∧ state = otherState := by
  constructor
  · intro same
    have generations := congrArg (fun word => (unpack word).1.toNat) same
    have states := congrArg (fun word => (unpack word).2) same
    simp only [toNat_unpack_pack_generation, unpack_pack_state] at generations states
    exact ⟨generations, states⟩
  · rintro ⟨generations, rfl⟩
    apply UInt64.toNat_inj.1
    rw [toNat_pack, toNat_pack, generations]

/-! ### The current generation -/

/-- The generation the word holds: the current run's, or 0 before any start. -/
def generation (l : Lifecycle) : UInt64 :=
  (unpack l.word).1

theorem generation_toNat_lt (l : Lifecycle) : l.generation.toNat < 2 ^ 56 := by
  have bounded := l.word.toNat_lt
  simp only [generation, unpack, UInt64.toNat_shiftRight, Nat.shiftRight_eq_div_pow]
  simp only [UInt64.reduceToNat, Nat.reduceMod]
  omega

/-- The word is the packed pair of its generation and its state. -/
def WellFormed (l : Lifecycle) : Prop :=
  l.word = pack l.generation l.state

@[simp] theorem toNat_generation_mk_pack (generation : UInt64) (state : ServiceState) :
    (⟨pack generation state⟩ : Lifecycle).generation.toNat = generation.toNat % 2 ^ 56 :=
  toNat_unpack_pack_generation generation state

@[simp] theorem state_mk_pack (generation : UInt64) (state : ServiceState) :
    (⟨pack generation state⟩ : Lifecycle).state = state :=
  unpack_pack_state generation state

theorem wellFormed_mk_pack (generation : UInt64) (state : ServiceState) :
    WellFormed ⟨pack generation state⟩ := by
  apply pack_eq_pack_iff.2
  simp only [toNat_generation_mk_pack, Nat.mod_mod, state_mk_pack, and_self]

theorem wellFormed_fresh : WellFormed fresh := by
  unfold WellFormed
  decide

theorem stateOf_eq (l : Lifecycle) (generation : UInt64) :
    l.stateOf generation = if l.generation = generation then l.state else .idle := by
  by_cases current : l.generation = generation <;>
    simp_all [stateOf, Lifecycle.generation, state]

theorem reset_eq (l : Lifecycle) (generation : UInt64) :
    l.reset generation = if l.generation = generation then ⟨pack generation .idle⟩ else l := by
  by_cases current : l.generation = generation <;> simp_all [reset, Lifecycle.generation]

/-- A generation below 2^56 is stored whole. -/
theorem generation_mk_pack {generation : UInt64} (below : generation.toNat < 2 ^ 56) (state : ServiceState) :
    (⟨pack generation state⟩ : Lifecycle).generation = generation :=
  UInt64.toNat_inj.1 (by rw [toNat_generation_mk_pack, Nat.mod_eq_of_lt below])

theorem reset_mk_pack {generation : UInt64} (below : generation.toNat < 2 ^ 56) (state : ServiceState) :
    (⟨pack generation state⟩ : Lifecycle).reset generation = ⟨pack generation .idle⟩ := by
  rw [reset_eq, if_pos (generation_mk_pack below state)]

theorem start_eq (l : Lifecycle) :
    l.start = if l.state = .idle then (.ok (l.generation + 1), ⟨pack (l.generation + 1) .running⟩)
      else (.error l.state, l) := by
  by_cases idle : l.state = .idle <;> simp_all [start, state, Lifecycle.generation]

/-- On a well-formed word a transition goes through exactly when the run is in the source state and
the generation's low 56 bits are the current generation. -/
theorem transition_eq {l : Lifecycle} (formed : l.WellFormed) (generation : UInt64) (source target : ServiceState) :
    l.transition generation source target =
      if l.generation.toNat = generation.toNat % 2 ^ 56 ∧ l.state = source then (.ok (), ⟨pack generation target⟩)
      else (.error (l.stateOf generation), l) := by
  have current : l.generation.toNat % 2 ^ 56 = l.generation.toNat := Nat.mod_eq_of_lt l.generation_toNat_lt
  unfold transition
  rw [formed]
  simp only [beq_iff_eq, pack_eq_pack_iff, current]

/-! ### One operation at a time -/

/-- A start hands out the generation after the current one, which is that generation plus one. -/
theorem toNat_generation_add_one (l : Lifecycle) : (l.generation + 1).toNat = l.generation.toNat + 1 := by
  have bounded := l.generation_toNat_lt
  rw [UInt64.toNat_add]
  simp only [UInt64.reduceToNat]
  omega

/-- A transition with a generation whose low 56 bits are not the current generation fails, reports
the run as idle, and changes nothing. -/
theorem transition_of_stale {l : Lifecycle} (formed : l.WellFormed) {generation : UInt64}
    (stale : generation.toNat % 2 ^ 56 ≠ l.generation.toNat) (source target : ServiceState) :
    l.transition generation source target = (.error .idle, l) := by
  have other : l.generation ≠ generation := by
    rintro rfl
    exact stale (Nat.mod_eq_of_lt l.generation_toNat_lt)
  rw [transition_eq formed, if_neg (fun moved => stale moved.1.symm), stateOf_eq, if_neg other]

theorem reset_of_ne (l : Lifecycle) {generation : UInt64} (other : l.generation ≠ generation) :
    l.reset generation = l := by
  rw [reset_eq, if_neg other]

theorem stateOf_of_ne (l : Lifecycle) {generation : UInt64} (other : l.generation ≠ generation) :
    l.stateOf generation = .idle := by
  rw [stateOf_eq, if_neg other]

/-- Right after a start that does not reach `2 ^ 56`, the generation it handed out reads as running. -/
theorem stateOf_start_running {l : Lifecycle} {started : UInt64} (starting : l.start.1 = .ok started)
    (below : l.generation.toNat + 1 < 2 ^ 56) : l.start.2.stateOf started = .running := by
  rw [start_eq] at starting ⊢
  by_cases idle : l.state = .idle
  · simp only [idle, if_true, Except.ok.injEq] at starting ⊢
    subst starting
    rw [stateOf_eq, if_pos, state_mk_pack]
    apply UInt64.toNat_inj.1
    rw [toNat_generation_mk_pack, toNat_generation_add_one, Nat.mod_eq_of_lt below]
  · simp only [idle, if_false, reduceCtorEq] at starting

end Lifecycle

/-- An operation on a lifecycle. -/
inductive LifecycleCall where
  | start
  | transition (generation : UInt64) (source target : ServiceState)
  | reset (generation : UInt64)
  deriving DecidableEq, Repr

namespace LifecycleCall

/-- The lifecycle after an operation. -/
def apply : LifecycleCall → Lifecycle → Lifecycle
  | .start, l => l.start.2
  | .transition generation source target, l => (l.transition generation source target).2
  | .reset generation, l => l.reset generation

/-- The generation an operation hands out: a start's, when it succeeds. -/
def started : LifecycleCall → Lifecycle → Option UInt64
  | .start, l =>
    match l.start.1 with
    | .ok generation => some generation
    | .error _ => none
  | _, _ => none

variable {l : Lifecycle}

theorem wellFormed_apply (formed : l.WellFormed) : (call : LifecycleCall) → (call.apply l).WellFormed
  | .start => by
    rw [apply, Lifecycle.start_eq]
    split
    · exact Lifecycle.wellFormed_mk_pack _ _
    · exact formed
  | .transition generation source target => by
    rw [apply, Lifecycle.transition_eq formed]
    split
    · exact Lifecycle.wellFormed_mk_pack _ _
    · exact formed
  | .reset generation => by
    rw [apply, Lifecycle.reset_eq]
    split
    · exact Lifecycle.wellFormed_mk_pack _ _
    · exact formed

/-- Only a successful start moves the generation on, by one and modulo `2 ^ 56`; it hands out the
old generation plus one. -/
theorem generation_apply (formed : l.WellFormed) (call : LifecycleCall) :
    ((call.started l).map UInt64.toNat = none ∧ (call.apply l).generation.toNat = l.generation.toNat) ∨
      ((call.started l).map UInt64.toNat = some (l.generation.toNat + 1) ∧
        (call.apply l).generation.toNat = (l.generation.toNat + 1) % 2 ^ 56) := by
  have current : l.generation.toNat % 2 ^ 56 = l.generation.toNat := Nat.mod_eq_of_lt l.generation_toNat_lt
  cases call with
  | start =>
    simp only [started, apply, Lifecycle.start_eq]
    have bounded := l.generation_toNat_lt
    by_cases idle : l.state = .idle
    · simp [idle]
      omega
    · simp [idle]
  | transition generation source target =>
    left
    simp only [started, apply, Lifecycle.transition_eq formed, Option.map_none, true_and]
    split
    · next moved => rw [Lifecycle.toNat_generation_mk_pack, ← moved.1]
    · rfl
  | reset generation =>
    left
    simp only [started, apply, Lifecycle.reset_eq, Option.map_none, true_and]
    split
    · next same => rw [Lifecycle.toNat_generation_mk_pack, ← same, current]
    · rfl

end LifecycleCall

namespace Lifecycle

/-- The lifecycle after operations made one at a time. -/
def run (l : Lifecycle) (calls : List LifecycleCall) : Lifecycle :=
  calls.foldl (fun l call => call.apply l) l

/-- The generations the starts among the operations hand out, in order. -/
def started : Lifecycle → List LifecycleCall → List UInt64
  | _, [] => []
  | l, call :: calls => (call.started l).toList ++ started (call.apply l) calls

@[simp] theorem run_nil (l : Lifecycle) : l.run [] = l := rfl

@[simp] theorem run_cons (l : Lifecycle) (call : LifecycleCall) (calls : List LifecycleCall) :
    l.run (call :: calls) = (call.apply l).run calls := rfl

/-- Along every run from a well-formed word: the word stays well formed, each start moves the
generation on by one modulo `2 ^ 56`, and the `i`-th start hands out the generation it found plus
one. -/
theorem run_generations {l : Lifecycle} (formed : l.WellFormed) (calls : List LifecycleCall) :
    (l.run calls).WellFormed ∧
      (l.run calls).generation.toNat = (l.generation.toNat + (l.started calls).length) % 2 ^ 56 ∧
      (l.started calls).map UInt64.toNat =
        (List.range (l.started calls).length).map fun i => (l.generation.toNat + i) % 2 ^ 56 + 1 := by
  induction calls generalizing l with
  | nil =>
    refine ⟨formed, ?_, by simp [started]⟩
    rw [run_nil, started, List.length_nil, Nat.add_zero, Nat.mod_eq_of_lt l.generation_toNat_lt]
  | cons call calls ih =>
    obtain ⟨formed', generation', handed'⟩ := ih (LifecycleCall.wellFormed_apply formed call)
    refine ⟨formed', ?_⟩
    rcases LifecycleCall.generation_apply formed call with ⟨none, same⟩ | ⟨some, moved⟩
    · have empty : call.started l = Option.none := Option.map_eq_none_iff.1 none
      simp only [run_cons, started, empty, Option.toList_none, List.nil_append]
      rw [same] at generation' handed'
      exact ⟨generation', handed'⟩
    · obtain ⟨handed, handedOut, value⟩ := Option.map_eq_some_iff.1 some
      simp only [run_cons, started, handedOut, Option.toList_some, List.singleton_append, List.length_cons]
      rw [moved, Nat.mod_add_mod] at generation'
      simp only [moved, Nat.mod_add_mod] at handed'
      refine ⟨by rw [generation']; congr 1; omega, ?_⟩
      -- the first start hands out the current generation plus one, the rest follow on
      rw [List.map_cons, value, handed', List.range_succ_eq_map, List.map_cons, List.map_map]
      simp only [Nat.add_zero, Nat.mod_eq_of_lt l.generation_toNat_lt, List.cons.injEq, true_and]
      refine List.map_congr_left fun i _ => ?_
      simp only [Function.comp_apply]
      congr 2
      omega

/-- From a fresh lifecycle, the first `2 ^ 56` starts hand out 1, 2, 3, … -/
theorem started_fresh (calls : List LifecycleCall) (below : (fresh.started calls).length ≤ 2 ^ 56) :
    (fresh.started calls).map UInt64.toNat = List.range' 1 (fresh.started calls).length := by
  rw [(run_generations wellFormed_fresh calls).2.2, List.range'_eq_map_range]
  refine List.map_congr_left fun i member => ?_
  have within : i < 2 ^ 56 := by
    have := List.mem_range.1 member
    omega
  have zero : fresh.generation.toNat = 0 := by decide
  rw [zero, Nat.zero_add, Nat.mod_eq_of_lt within, Nat.add_comm]

end Lifecycle

/-- After any operations from a fresh lifecycle, with `n` successful starts among them: the current
generation is `n % 2 ^ 56`; a start succeeds exactly when the run is idle, and while `n + 1` is below
`2 ^ 56` it hands out `n + 1`, a generation no start handed out before, which reads as running
right afterwards; a transition with a generation whose low 56 bits differ from the current
generation fails, reports the run as idle and leaves the word as it was; a reset with any other
generation leaves it as it was; every other generation reads as idle. So while fewer than `2 ^ 56`
runs have started, the generation of every run but the current one can move nothing and reads as
idle. -/
theorem lifecycle_runs_scoped_by_generation (calls : List LifecycleCall) :
    let l := Lifecycle.fresh.run calls
    let started := Lifecycle.fresh.started calls
    l.generation.toNat = started.length % 2 ^ 56 ∧
    ((∃ generation, l.start.1 = .ok generation) ↔ l.state = .idle) ∧
    (started.length + 1 < 2 ^ 56 → ∀ generation, l.start.1 = .ok generation →
      generation.toNat = started.length + 1 ∧ generation ∉ started ∧ l.start.2.stateOf generation = .running) ∧
    (∀ generation source target, generation.toNat % 2 ^ 56 ≠ l.generation.toNat →
      l.transition generation source target = (.error .idle, l)) ∧
    (∀ generation, l.generation ≠ generation → l.reset generation = l) ∧
    (∀ generation, l.generation ≠ generation → l.stateOf generation = .idle) ∧
    (started.length < 2 ^ 56 → ∀ generation ∈ started, l.generation ≠ generation → ∀ source target,
      l.transition generation source target = (.error .idle, l) ∧ l.reset generation = l ∧
        l.stateOf generation = .idle) := by
  intro l started
  have zero : Lifecycle.fresh.generation.toNat = 0 := by decide
  have formed : l.WellFormed := (Lifecycle.run_generations Lifecycle.wellFormed_fresh calls).1
  have current : l.generation.toNat = started.length % 2 ^ 56 := by
    have counted := (Lifecycle.run_generations Lifecycle.wellFormed_fresh calls).2.1
    rwa [zero, Nat.zero_add] at counted
  -- the generations handed out so far are 1, …, n
  have handedOut : started.length ≤ 2 ^ 56 → ∀ generation ∈ started, generation.toNat ≤ started.length := by
    intro below generation member
    have listed : started.map UInt64.toNat = List.range' 1 started.length := Lifecycle.started_fresh calls below
    have inRange : generation.toNat ∈ List.range' 1 started.length := by
      rw [← listed]
      exact List.mem_map_of_mem member
    have := List.mem_range'_1.1 inRange
    omega
  refine ⟨current, ?_, ?_, ?_, ?_, ?_, ?_⟩
  · rw [Lifecycle.start_eq]
    by_cases idle : l.state = .idle <;> simp [idle]
  · intro below generation starting
    have idle : l.state = .idle := by
      rw [Lifecycle.start_eq] at starting
      by_cases idle : l.state = .idle
      · exact idle
      · simp [idle] at starting
    have next : generation = l.generation + 1 := by
      rw [Lifecycle.start_eq, if_pos idle] at starting
      exact (Except.ok.inj starting).symm
    have value : generation.toNat = started.length + 1 := by
      rw [next, Lifecycle.toNat_generation_add_one, current, Nat.mod_eq_of_lt (by omega)]
    refine ⟨value, fun member => ?_, Lifecycle.stateOf_start_running starting ?_⟩
    · have := handedOut (by omega) generation member
      omega
    · rw [current, Nat.mod_eq_of_lt (by omega)]
      exact below
  · intro generation source target stale
    exact Lifecycle.transition_of_stale formed stale source target
  · intro generation other
    exact l.reset_of_ne other
  · intro generation other
    exact l.stateOf_of_ne other
  · intro below generation member other source target
    -- a generation handed out so far has no bits above the low 56
    have stale : generation.toNat % 2 ^ 56 ≠ l.generation.toNat := by
      have small := handedOut (Nat.le_of_lt below) generation member
      rw [Nat.mod_eq_of_lt (by omega)]
      exact fun same => other (UInt64.toNat_inj.1 same.symm)
    exact ⟨Lifecycle.transition_of_stale formed stale source target, l.reset_of_ne other, l.stateOf_of_ne other⟩

/-- After one run is started, moved to shutting down and reset, and a second run is started, the
first run's generation can no longer move anything. -/
theorem first_generation_stale_after_restart :
    let calls := [LifecycleCall.start, .transition 1 .running .shuttingDown, .reset 1, .start]
    (Lifecycle.fresh.started calls).length < 2 ^ 56 ∧ (1 : UInt64) ∈ Lifecycle.fresh.started calls ∧
      (Lifecycle.fresh.run calls).generation ≠ 1 ∧
      (Lifecycle.fresh.run calls).transition 1 .running .shuttingDown =
        (.error .idle, Lifecycle.fresh.run calls) := by
  intro calls
  have below : (Lifecycle.fresh.started calls).length < 2 ^ 56 := by decide
  have first : (1 : UInt64) ∈ Lifecycle.fresh.started calls := by decide
  have moved : (Lifecycle.fresh.run calls).generation ≠ 1 := by decide
  exact ⟨below, first, moved,
    ((lifecycle_runs_scoped_by_generation calls).2.2.2.2.2.2 below 1 first moved .running .shuttingDown).1⟩

/-- Generation `2 ^ 56 + 1` is not generation 1, yet a transition with it moves run 1. -/
theorem transition_with_aliased_generation_moves_run :
    Lifecycle.fresh.start.1.toOption = some 1 ∧ (72057594037927937 : UInt64) ≠ 1 ∧
      (Lifecycle.fresh.start.2.transition 72057594037927937 .running .shuttingDown).1.toOption = some () ∧
      (Lifecycle.fresh.start.2.transition 72057594037927937 .running .shuttingDown).2.state = .shuttingDown := by
  decide

namespace Lifecycle

theorem run_append (l : Lifecycle) (calls more : List LifecycleCall) :
    l.run (calls ++ more) = (l.run calls).run more :=
  List.foldl_append

theorem started_append (l : Lifecycle) (calls more : List LifecycleCall) :
    l.started (calls ++ more) = l.started calls ++ (l.run calls).started more := by
  induction calls generalizing l with
  | nil => rfl
  | cons call calls ih => simp [started, ih]

/-- `n` runs, each started and then reset through the generation its start handed out. -/
def cycles (n : Nat) : List LifecycleCall :=
  (List.range n).flatMap fun i => [.start, .reset (UInt64.ofNat (i + 1))]

theorem cycles_succ (n : Nat) : cycles (n + 1) = cycles n ++ [.start, .reset (UInt64.ofNat n + 1)] := by
  simp [cycles, List.range_succ, UInt64.ofNat_add]

/-- One run started and reset from an idle word whose generation stays below `2 ^ 56`. -/
theorem run_start_reset {generation : UInt64} (below : generation.toNat + 1 < 2 ^ 56) :
    (⟨pack generation .idle⟩ : Lifecycle).run [.start, .reset (generation + 1)] =
        ⟨pack (generation + 1) .idle⟩ ∧
      (⟨pack generation .idle⟩ : Lifecycle).started [.start, .reset (generation + 1)] = [generation + 1] := by
  have current := generation_mk_pack (show generation.toNat < 2 ^ 56 by omega) .idle
  -- the next generation is still below the width, so the reset finds it stored whole
  have sum := toNat_generation_add_one ⟨pack generation .idle⟩
  rw [current] at sum
  have starting : (⟨pack generation .idle⟩ : Lifecycle).start =
      (.ok (generation + 1), ⟨pack (generation + 1) .running⟩) := by
    rw [start_eq, if_pos (state_mk_pack _ _), current]
  constructor
  · rw [run_cons, run_cons, run_nil, LifecycleCall.apply, starting, LifecycleCall.apply,
      reset_mk_pack (by rw [sum]; exact below)]
  · simp [started, LifecycleCall.started, starting]

/-- Below `2 ^ 56`, `n` started and reset runs leave generation `n` idle, with `n` starts made. -/
theorem run_cycles {n : Nat} (below : n < 2 ^ 56) :
    fresh.run (cycles n) = ⟨pack (UInt64.ofNat n) .idle⟩ ∧ (fresh.started (cycles n)).length = n := by
  induction n with
  | zero => exact ⟨rfl, rfl⟩
  | succ n ih =>
    obtain ⟨ran, count⟩ := ih (by omega)
    have small : (UInt64.ofNat n).toNat = n := by
      rw [UInt64.toNat_ofNat']
      exact Nat.mod_eq_of_lt (by omega)
    obtain ⟨step, handed⟩ := run_start_reset (show (UInt64.ofNat n).toNat + 1 < 2 ^ 56 by omega)
    rw [cycles_succ, run_append, started_append, ran, step, handed, List.length_append, count]
    exact ⟨by rw [UInt64.ofNat_add]; rfl, rfl⟩

end Lifecycle

/-- After `2 ^ 56 - 1` runs each started and reset, the next start succeeds and hands out
`2 ^ 56`, yet the word keeps generation 0: right afterwards that run reads as idle, and a reset
through its own generation does nothing, so the run stays running. -/
theorem start_past_generation_width_reads_idle :
    let calls := Lifecycle.cycles (2 ^ 56 - 1)
    let l := Lifecycle.fresh.run calls
    (Lifecycle.fresh.started calls).length = 2 ^ 56 - 1 ∧ l.start.1 = .ok (2 ^ 56) ∧
      l.start.2.stateOf (2 ^ 56) = .idle ∧ l.start.2.reset (2 ^ 56) = l.start.2 ∧
      l.start.2.state = .running := by
  intro calls l
  obtain ⟨ran, count⟩ := Lifecycle.run_cycles (n := 2 ^ 56 - 1) (by decide)
  have starting : l.start = (.ok (2 ^ 56), ⟨Lifecycle.pack (2 ^ 56) .running⟩) := by
    change (Lifecycle.fresh.run calls).start = _
    rw [ran]
    decide
  rw [starting]
  exact ⟨count, rfl, by decide, by decide, by decide⟩

end BenchDispatch
