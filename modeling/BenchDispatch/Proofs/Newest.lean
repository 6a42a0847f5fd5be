import Mathlib.Data.List.Induction
import BenchDispatch.Proofs.Registry

/-! The backlog keeps the newest request offered for a target. Instants are ordered by one integer
rank, so the backlog's comparison is a strict total order. `IsNewest offered request` says that no
offer before `request` is strictly newer and every offer after it is strictly older: `request` has
the greatest timestamp, and of the offers tied at it, it came last. Over any run of offers, drains
and peeks, the entry of a target is the newest request offered for it since it was last drained;
when the timestamps differ the order of arrival does not matter. -/

set_option autoImplicit false

namespace BenchDispatch

namespace Instant

/-- The instant as one integer: nanoseconds from the start of day 0, with two seconds' room in
every second for a leap second. -/
def rank (t : Instant) : Int :=
  (t.day * 86400 + t.second) * 2000000000 + t.nano

theorem isAfter_iff_rank_lt (a b : Instant) : a.isAfter b = true ↔ b.rank < a.rank := by
  have := a.second_lt
  have := b.second_lt
  have := a.nano_lt
  have := b.nano_lt
  simp only [isAfter, rank, Bool.or_eq_true, decide_eq_true_eq, Bool.and_eq_true, beq_iff_eq]
  omega

theorem isAfter_eq_false_iff (a b : Instant) : a.isAfter b = false ↔ a.rank ≤ b.rank := by
  rw [← Bool.not_eq_true, isAfter_iff_rank_lt]
  omega

/-- Distinct instants have distinct ranks. -/
theorem rank_injective {a b : Instant} (same : a.rank = b.rank) : a = b := by
  have := a.second_lt
  have := b.second_lt
  have := a.nano_lt
  have := b.nano_lt
  have day : a.day = b.day := by simp only [rank] at same; omega
  have second : a.second = b.second := by simp only [rank] at same; omega
  have nano : a.nano = b.nano := by simp only [rank] at same; omega
  cases a
  cases b
  simp_all

theorem isAfter_irrefl (t : Instant) : t.isAfter t = false := by
  simp [isAfter]

theorem isAfter_asymm {a b : Instant} (later : a.isAfter b = true) : b.isAfter a = false := by
  simp only [isAfter, Bool.or_eq_true, decide_eq_true_eq, Bool.and_eq_true, beq_iff_eq] at later
  simp only [isAfter, Bool.or_eq_false_iff, decide_eq_false_iff_not, Bool.and_eq_false_imp, beq_iff_eq]
  omega

/-- Being at most as late is transitive. -/
theorem isAfter_eq_false_trans {a b c : Instant} (first : a.isAfter b = false) (second : b.isAfter c = false) :
    a.isAfter c = false := by
  rw [isAfter_eq_false_iff] at first second ⊢
  omega

/-- Of two distinct instants one is after the other. -/
theorem isAfter_of_ne {a b : Instant} (apart : a ≠ b) : a.isAfter b = true ∨ b.isAfter a = true := by
  rw [isAfter_iff_rank_lt, isAfter_iff_rank_lt]
  have : a.rank ≠ b.rank := fun same => apart (rank_injective same)
  omega

end Instant

/-- `request` is the newest of the offers: none before it is strictly newer and every one after it
is strictly older. -/
def IsNewest (offered : List BuildRequest) (request : BuildRequest) : Prop :=
  ∃ before after, offered = before ++ request :: after ∧
    (∀ earlier ∈ before, earlier.timestamp.isAfter request.timestamp = false) ∧
    ∀ later ∈ after, request.timestamp.isAfter later.timestamp = true

namespace IsNewest

theorem singleton (request : BuildRequest) : IsNewest [request] request :=
  ⟨[], [], rfl, by simp, by simp⟩

theorem not_nil (request : BuildRequest) : ¬ IsNewest [] request := by
  rintro ⟨before, after, split, -, -⟩
  simp at split

theorem mem {offered : List BuildRequest} {request : BuildRequest} (newest : IsNewest offered request) :
    request ∈ offered := by
  obtain ⟨before, after, rfl, -, -⟩ := newest
  simp

/-- Every offer is at most as new as the newest. -/
theorem not_isAfter {offered : List BuildRequest} {request : BuildRequest} (newest : IsNewest offered request)
    {other : BuildRequest} (offer : other ∈ offered) : other.timestamp.isAfter request.timestamp = false := by
  obtain ⟨before, after, rfl, older, younger⟩ := newest
  simp only [List.mem_append, List.mem_cons] at offer
  rcases offer with earlier | rfl | later
  · exact older other earlier
  · exact Instant.isAfter_irrefl _
  · exact Instant.isAfter_asymm (younger other later)

/-- The newest after one more offer: the new one, when nothing before it is strictly newer, or the
newest before it, when that is strictly newer than the new one. -/
theorem append_singleton_iff (offered : List BuildRequest) (offer request : BuildRequest) :
    IsNewest (offered ++ [offer]) request ↔
      (request = offer ∧ ∀ earlier ∈ offered, earlier.timestamp.isAfter offer.timestamp = false) ∨
        (IsNewest offered request ∧ request.timestamp.isAfter offer.timestamp = true) := by
  constructor
  · rintro ⟨before, after, split, older, younger⟩
    rcases List.eq_nil_or_concat after with rfl | ⟨rest, last, rfl⟩
    · -- the new offer is the newest itself
      obtain ⟨rfl, same⟩ := List.append_inj' split rfl
      simp only [List.cons.injEq, and_true] at same
      exact .inl ⟨same.symm, same ▸ older⟩
    · -- the newest came before, and the new offer is among the older ones after it
      rw [List.concat_eq_append, ← List.cons_append, ← List.append_assoc] at split
      obtain ⟨rfl, same⟩ := List.append_inj' split rfl
      simp only [List.cons.injEq, and_true] at same
      subst same
      rw [List.concat_eq_append] at younger
      refine .inr ⟨⟨before, rest, rfl, older, fun later mem => younger later (by simp [mem])⟩, ?_⟩
      exact younger _ (by simp)
  · rintro (⟨rfl, older⟩ | ⟨⟨before, after, rfl, older, younger⟩, newer⟩)
    · exact ⟨offered, [], rfl, older, by simp⟩
    · refine ⟨before, after ++ [offer], by simp, older, ?_⟩
      intro later mem
      simp only [List.mem_append, List.mem_singleton] at mem
      rcases mem with mem | rfl
      · exact younger later mem
      · exact newer

/-- The offers have one newest. -/
theorem unique {offered : List BuildRequest} {first second : BuildRequest} (isFirst : IsNewest offered first)
    (isSecond : IsNewest offered second) : first = second := by
  induction offered using List.reverseRecOn with
  | nil => exact absurd isFirst (not_nil first)
  | append_singleton offered offer ih =>
    rw [append_singleton_iff] at isFirst isSecond
    rcases isFirst with ⟨rfl, older⟩ | ⟨isFirst, newer⟩ <;>
      rcases isSecond with ⟨rfl, older'⟩ | ⟨isSecond, newer'⟩
    · rfl
    · -- the newest before the new offer would be both strictly newer than it and not
      have notNewer := older second isSecond.mem
      rw [newer'] at notNewer
      cases notNewer
    · have notNewer := older' first isFirst.mem
      rw [newer] at notNewer
      cases notNewer
    · exact ih isFirst isSecond

/-- Among offers with distinct timestamps, the newest is the offer that no other is newer than. -/
theorem iff_of_distinct {offered : List BuildRequest}
    (distinct : offered.Pairwise fun a b => a.timestamp ≠ b.timestamp) (request : BuildRequest) :
    IsNewest offered request ↔
      request ∈ offered ∧ ∀ other ∈ offered, other.timestamp.isAfter request.timestamp = false := by
  constructor
  · intro newest
    exact ⟨newest.mem, fun other offer => newest.not_isAfter offer⟩
  · rintro ⟨offer, newest⟩
    obtain ⟨before, after, rfl⟩ := List.append_of_mem offer
    refine ⟨before, after, rfl, fun earlier mem => newest earlier (by simp [mem]), ?_⟩
    intro later mem
    have apart : request.timestamp ≠ later.timestamp := by
      rw [List.pairwise_append, List.pairwise_cons] at distinct
      exact distinct.2.1.1 later mem
    -- a later offer is not newer, and its timestamp differs, so it is strictly older
    rcases Instant.isAfter_of_ne apart with older | newer
    · exact older
    · rw [newest later (by simp [mem])] at newer
      cases newer

/-- With distinct timestamps the newest does not depend on the order of the offers. -/
theorem perm {offered reordered : List BuildRequest} (reordering : offered.Perm reordered)
    (distinct : offered.Pairwise fun a b => a.timestamp ≠ b.timestamp) {request : BuildRequest}
    (newest : IsNewest offered request) : IsNewest reordered request := by
  have distinct' : reordered.Pairwise fun a b => a.timestamp ≠ b.timestamp :=
    reordering.pairwise distinct fun apart => Ne.symm apart
  rw [iff_of_distinct distinct] at newest
  rw [iff_of_distinct distinct']
  exact ⟨reordering.mem_iff.1 newest.1, fun other offer => newest.2 other (reordering.mem_iff.2 offer)⟩

end IsNewest

namespace Backlog

/-- One call made to a backlog. -/
inductive Call where
  | offer (target : BuildTarget) (request : BuildRequest)
  | drain (target : BuildTarget)
  | peek (target : BuildTarget)

/-- The target a call is for. -/
def Call.target : Call → BuildTarget
  | .offer target _ | .drain target | .peek target => target

/-- The backlog after a call; a peek only reads. -/
def apply (backlog : Backlog) : Call → Backlog
  | .offer target request => (backlog.offer target request).2
  | .drain target => (backlog.drain target).2
  | .peek _ => backlog

/-- The backlog after a run of calls. -/
def run (backlog : Backlog) (calls : List Call) : Backlog :=
  calls.foldl apply backlog

@[simp] theorem run_nil (backlog : Backlog) : backlog.run [] = backlog := rfl

@[simp] theorem run_append_singleton (backlog : Backlog) (calls : List Call) (call : Call) :
    backlog.run (calls ++ [call]) = (backlog.run calls).apply call :=
  List.foldl_append ..

/-- The requests offered for a target and not yet drained, after one more call. -/
def Call.pending (target : BuildTarget) (offered : List BuildRequest) : Call → List BuildRequest
  | .offer other request => if other = target then offered ++ [request] else offered
  | .drain other => if other = target then [] else offered
  | .peek _ => offered

/-- The requests offered for a target since it was last drained, in the order they came. -/
def offeredSince (target : BuildTarget) (calls : List Call) : List BuildRequest :=
  calls.foldl (Call.pending target) []

@[simp] theorem offeredSince_nil (target : BuildTarget) : offeredSince target [] = [] := rfl

@[simp] theorem offeredSince_append_singleton (target : BuildTarget) (calls : List Call) (call : Call) :
    offeredSince target (calls ++ [call]) = call.pending target (offeredSince target calls) :=
  List.foldl_append ..

/-- A call for another target leaves the target's entry as it was. -/
theorem peek_apply_of_ne (backlog : Backlog) {call : Call} {target : BuildTarget} (apart : call.target ≠ target) :
    (backlog.apply call).peek target = backlog.peek target := by
  cases call with
  | offer other request => exact peek_offer_of_ne backlog request apart
  | drain other => simp [apply, drain, peek_erase, show other ≠ target from apart]
  | peek other => rfl

/-- An offer is taken exactly when the offered request is the entry afterwards. -/
theorem offer_fst_eq_true_iff (backlog : Backlog) (target : BuildTarget) (request : BuildRequest) :
    (backlog.offer target request).1 = true ↔ (backlog.offer target request).2.peek target = some request := by
  unfold offer
  cases waiting : backlog.peek target with
  | none => simp [peek_put]
  | some held =>
    by_cases newer : held.timestamp.isAfter request.timestamp = true
    · -- the held request is strictly newer, so it is not the offered one
      have apart : held ≠ request := by
        rintro rfl
        rw [Instant.isAfter_irrefl] at newer
        cases newer
      simp [newer, waiting, apart]
    · simp [newer, peek_put]

/-- The entry of a target is the newest of the requests offered for it, and there is none when
nothing was offered. -/
def Holds (offered : List BuildRequest) : Option BuildRequest → Prop
  | some request => IsNewest offered request
  | none => offered = []

theorem holds_offer {backlog : Backlog} {target : BuildTarget} {offered : List BuildRequest}
    (holds : Holds offered (backlog.peek target)) (request : BuildRequest) :
    Holds (offered ++ [request]) ((backlog.offer target request).2.peek target) := by
  unfold offer
  cases waiting : backlog.peek target with
  | none =>
    rw [waiting] at holds
    have empty : offered = [] := holds
    show Holds _ ((backlog.put target request).peek target)
    rw [peek_put, if_pos rfl, empty]
    exact IsNewest.singleton request
  | some held =>
    rw [waiting] at holds
    have newest : IsNewest offered held := holds
    by_cases newer : held.timestamp.isAfter request.timestamp = true
    · show Holds _ ((if held.timestamp.isAfter request.timestamp then (false, backlog) else _).2.peek target)
      rw [if_pos newer, waiting]
      exact (IsNewest.append_singleton_iff offered request held).2 (.inr ⟨newest, newer⟩)
    · -- every earlier offer is at most as new as the held one, which is not newer than the offer
      have notNewer : held.timestamp.isAfter request.timestamp = false := by simpa using newer
      have older : ∀ earlier ∈ offered, earlier.timestamp.isAfter request.timestamp = false :=
        fun earlier offer => Instant.isAfter_eq_false_trans (newest.not_isAfter offer) notNewer
      show Holds _
        ((if held.timestamp.isAfter request.timestamp then _ else (true, backlog.put target request)).2.peek target)
      rw [if_neg newer, peek_put, if_pos rfl]
      exact (IsNewest.append_singleton_iff offered request request).2 (.inl ⟨rfl, older⟩)

/-- One call keeps the entry of a target the newest offer for it since its last drain. -/
theorem holds_apply {backlog : Backlog} {target : BuildTarget} {offered : List BuildRequest}
    (holds : Holds offered (backlog.peek target)) (call : Call) :
    Holds (call.pending target offered) ((backlog.apply call).peek target) := by
  by_cases here : call.target = target
  · cases call with
    | offer other request =>
      simp only [Call.target] at here
      subst here
      simpa [Call.pending, apply] using holds_offer holds request
    | drain other =>
      simp only [Call.target] at here
      subst here
      simp [Call.pending, apply, drain, peek_erase, Holds]
    | peek other => exact holds
  · rw [peek_apply_of_ne backlog here]
    cases call with
    | offer other request => simpa [Call.pending, show other ≠ target from here] using holds
    | drain other => simpa [Call.pending, show other ≠ target from here] using holds
    | peek other => exact holds

theorem holds_run (calls : List Call) (target : BuildTarget) :
    Holds (offeredSince target calls) ((empty.run calls).peek target) := by
  induction calls using List.reverseRecOn with
  | nil => simp [Holds, empty, peek]
  | append_singleton calls call holds =>
    simpa using holds_apply holds call

namespace Holds

variable {offered : List BuildRequest} {held : Option BuildRequest}

theorem eq_some_iff (holds : Holds offered held) (request : BuildRequest) :
    held = some request ↔ IsNewest offered request := by
  cases held with
  | none =>
    have empty : offered = [] := holds
    simp only [reduceCtorEq, false_iff, empty]
    exact IsNewest.not_nil request
  | some newest =>
    have isNewest : IsNewest offered newest := holds
    exact ⟨fun same => Option.some.inj same ▸ isNewest, fun other => congrArg some (isNewest.unique other)⟩

theorem eq_none_iff (holds : Holds offered held) : held = none ↔ offered = [] := by
  cases held with
  | none => exact ⟨fun _ => holds, fun _ => rfl⟩
  | some newest =>
    have isNewest : IsNewest offered newest := holds
    simp only [reduceCtorEq, false_iff]
    rintro rfl
    exact IsNewest.not_nil newest isNewest

/-- Entries kept over two orders of the same offers, with distinct timestamps, are the same. -/
theorem eq_of_perm {reordered : List BuildRequest} {other : Option BuildRequest} (holds : Holds offered held)
    (holdsReordered : Holds reordered other) (reordering : offered.Perm reordered)
    (distinct : offered.Pairwise fun a b => a.timestamp ≠ b.timestamp) : other = held := by
  cases held with
  | none =>
    have empty : offered = [] := holds
    rw [empty, List.nil_perm] at reordering
    exact (holdsReordered.eq_none_iff).2 reordering
  | some newest =>
    have isNewest : IsNewest offered newest := holds
    exact (holdsReordered.eq_some_iff newest).2 (isNewest.perm reordering distinct)

end Holds

end Backlog

/-- Over any run of offers, drains and peeks from an empty backlog, a target's entry is the newest
request offered for it since its last drain, and there is none when none was offered; calls for
other targets leave the entry alone. Draining hands the entry over and leaves none; an offer is
taken exactly when the offered request is the entry afterwards; and when the timestamps differ,
every order of the same offers leaves the same entry. -/
theorem backlog_holds_newest_offer (calls : List Backlog.Call) (target : BuildTarget) :
    (∀ request, (Backlog.empty.run calls).peek target = some request ↔
        IsNewest (Backlog.offeredSince target calls) request) ∧
      ((Backlog.empty.run calls).peek target = none ↔ Backlog.offeredSince target calls = []) ∧
      (∀ (backlog : Backlog) (call : Backlog.Call), call.target ≠ target →
        (backlog.apply call).peek target = backlog.peek target) ∧
      ((Backlog.empty.run calls).drain target).1 = (Backlog.empty.run calls).peek target ∧
      ((Backlog.empty.run calls).drain target).2.peek target = none ∧
      (∀ (backlog : Backlog) (request : BuildRequest),
        (backlog.offer target request).1 = true ↔ (backlog.offer target request).2.peek target = some request) ∧
      ∀ reordered : List Backlog.Call,
        (Backlog.offeredSince target calls).Perm (Backlog.offeredSince target reordered) →
        (Backlog.offeredSince target calls).Pairwise (fun a b => a.timestamp ≠ b.timestamp) →
        (Backlog.empty.run reordered).peek target = (Backlog.empty.run calls).peek target := by
  have holds := Backlog.holds_run calls target
  refine ⟨holds.eq_some_iff, holds.eq_none_iff, fun backlog _ apart => Backlog.peek_apply_of_ne backlog apart,
    rfl, ?_, fun backlog => Backlog.offer_fst_eq_true_iff backlog target, ?_⟩
  · simp [Backlog.drain, Backlog.peek_erase]
  · intro reordered reordering distinct
    exact holds.eq_of_perm (Backlog.holds_run reordered target) reordering distinct

/-! Two pushes for one target, a second apart, offered in either order. -/

namespace TwoPushes

theorem firstDay_le : Instant.firstDay ≤ 0 := by decide

theorem le_lastDay : 0 ≤ Instant.lastDay := by decide

theorem wholeSecond_one : (0 : Nat) < 1000000000 ∨ 1 % 60 = 59 := by decide

theorem wholeSecond_two : (0 : Nat) < 1000000000 ∨ 2 % 60 = 59 := by decide

theorem inSecond : (0 : Nat) < 2000000000 := by decide

theorem one_lt_day : (1 : Nat) < 86400 := by decide

theorem two_lt_day : (2 : Nat) < 86400 := by decide

def older : BuildRequest :=
  ⟨"old", ⟨0, 1, 0, firstDay_le, le_lastDay, one_lt_day, inSecond, wholeSecond_one⟩, "repo", "main", "r1", "alice"⟩

def newer : BuildRequest :=
  ⟨"new", ⟨0, 2, 0, firstDay_le, le_lastDay, two_lt_day, inSecond, wholeSecond_two⟩, "repo", "main", "r2", "alice"⟩

end TwoPushes

open TwoPushes in
/-- The newer of two pushes is kept whichever arrives first. -/
theorem newer_push_kept_in_either_order :
    (Backlog.empty.run [.offer "main" older, .offer "main" newer]).peek "main" = some newer ∧
      (Backlog.empty.run [.offer "main" newer, .offer "main" older]).peek "main" =
        (Backlog.empty.run [.offer "main" older, .offer "main" newer]).peek "main" :=
  ⟨by decide,
    (backlog_holds_newest_offer [.offer "main" older, .offer "main" newer] "main").2.2.2.2.2.2
      [.offer "main" newer, .offer "main" older] (by decide) (by decide)⟩

end BenchDispatch
