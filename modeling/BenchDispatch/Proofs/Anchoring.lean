import Mathlib
import BenchDispatch.Config.Basic

/-! Target patterns are compiled as the text `^(?:p)$`, which is meant to anchor each pattern to
the whole target. On the matcher's side this works: between the text anchors a core form matches
a target exactly when it matches all of it from the first character (`matches_concatOf_anchors`),
and the lowering turns the anchors around one plain group into that form. So settings accept a
target when there are no patterns or some anchored pattern matches it, and an anchored pattern
whose text reads as the anchors around one group matches exactly the targets its group matches
whole.

The anchors govern the whole pattern only when the spliced text reads that way, which depends on
the pattern's own parentheses. `refs/heads/main)|(refs/heads/dev` is no pattern on its own, yet
its spliced text is an alternation of `^(?:refs/heads/main)` and `(refs/heads/dev)$`, accepted,
and matches `refs/heads/main-backup` by its first branch. -/

set_option autoImplicit false

namespace BenchDispatch

namespace Pattern

@[simp] theorem mem_dedupPositions {p : Nat} {ps : List Nat} : p ∈ dedupPositions ps ↔ p ∈ ps := by
  -- the fold keeps every position it has seen, so generalize over what it has kept so far
  suffices kept : ∀ acc : List Nat,
      p ∈ ps.foldl (fun acc q => if acc.contains q then acc else acc ++ [q]) acc ↔ p ∈ acc ∨ p ∈ ps by
    simpa [dedupPositions] using kept []
  induction ps with
  | nil => simp
  | cons q ps ih =>
    intro acc
    rw [List.foldl_cons, ih]
    by_cases seen : acc.contains q = true
    · have : q ∈ acc := by simpa using seen
      simp only [seen, if_true, List.mem_cons]
      constructor
      · rintro (h | h) <;> simp [h]
      · rintro (h | rfl | h) <;> simp [*]
    · simp only [seen, Bool.false_eq_true, ↓reduceIte, List.mem_append, List.mem_cons]
      tauto

namespace Hir

/-- The parts an item adds to a flattened concatenation: a concatenation its items, the empty
pattern none. -/
def concatPieces : Hir → List Hir
  | .concat inner => inner
  | .empty => []
  | other => [other]

/-- Put an item in front of merged parts, joining it to a literal that follows it. -/
def mergeLiteral (item : Hir) (acc : List Hir) : List Hir :=
  match item, acc with
  | .literal front, .literal back :: rest => .literal (front ++ back) :: rest
  | _, _ => item :: acc

/-- The pattern of merged parts: the empty pattern, the one part, or their concatenation. -/
def ofParts : List Hir → Hir
  | [] => .empty
  | [one] => one
  | many => .concat many

theorem concatOf_eq_ofParts (items : List Hir) :
    concatOf items = ofParts ((items.flatMap concatPieces).foldr mergeLiteral []) := rfl

/-- Whether the pattern matches the whole target, from its first character to its last. -/
def matchesWhole (h : Hir) (target : String) : Bool :=
  (h.ends target.toList.toArray 0).contains target.length

end Hir

section Ends

variable {text : Array Char}

theorem ends_empty (i : Nat) : Hir.empty.ends text i = [i] := by
  rw [Hir.ends]

theorem ends_literal (chars : List Char) (i : Nat) :
    (Hir.literal chars).ends text i = if literalAt text chars i then [i + chars.length] else [] := by
  rw [Hir.ends]

theorem ends_look (l : Look) (i : Nat) :
    (Hir.look l).ends text i = if l.holds text i then [i] else [] := by
  rw [Hir.ends]

theorem ends_concat (items : List Hir) (i : Nat) :
    (Hir.concat items).ends text i = Hir.endsAll text items i := by
  rw [Hir.ends]

theorem mem_endsAll_nil {i j : Nat} : j ∈ Hir.endsAll text [] i ↔ j = i := by
  simp [Hir.endsAll]

theorem mem_endsAll_cons {item : Hir} {rest : List Hir} {i j : Nat} :
    j ∈ Hir.endsAll text (item :: rest) i ↔ ∃ k ∈ item.ends text i, j ∈ Hir.endsAll text rest k := by
  simp [Hir.endsAll]

theorem mem_endsAll_singleton {item : Hir} {i j : Nat} :
    j ∈ Hir.endsAll text [item] i ↔ j ∈ item.ends text i := by
  simp [mem_endsAll_cons, mem_endsAll_nil]

theorem mem_endsAll_append {front back : List Hir} {i j : Nat} :
    j ∈ Hir.endsAll text (front ++ back) i ↔
      ∃ k ∈ Hir.endsAll text front i, j ∈ Hir.endsAll text back k := by
  induction front generalizing i with
  | nil => simp [mem_endsAll_nil]
  | cons item front ih =>
    simp only [List.cons_append, mem_endsAll_cons, ih]
    constructor
    · rintro ⟨k, first, m, middle, last⟩
      exact ⟨m, ⟨k, first, middle⟩, last⟩
    · rintro ⟨m, ⟨k, first, middle⟩, last⟩
      exact ⟨k, first, m, middle, last⟩

/-- Two literals in a row stand where their concatenation stands. -/
theorem literalAt_append (front back : List Char) (i : Nat) :
    literalAt text (front ++ back) i =
      (literalAt text front i && literalAt text back (i + front.length)) := by
  simp only [literalAt, Array.toList_extract, List.extract, List.length_append]
  rw [Nat.add_sub_cancel_left, Nat.add_sub_cancel_left, Nat.add_sub_cancel_left, ← List.drop_drop]
  generalize text.toList.drop i = rest
  rw [Bool.eq_iff_iff, Bool.and_eq_true, beq_iff_eq, beq_iff_eq, beq_iff_eq, List.take_add]
  constructor
  · intro whole
    have prefixLength : (List.take front.length rest).length = front.length := by
      have := congrArg List.length whole
      simp only [List.length_append, List.length_take] at this ⊢
      omega
    exact List.append_inj whole prefixLength
  · rintro ⟨first, second⟩
    rw [first, second]

theorem mem_endsAll_concatPieces {item : Hir} {i j : Nat} :
    j ∈ Hir.endsAll text item.concatPieces i ↔ j ∈ item.ends text i := by
  cases item with
  | concat inner => simp [Hir.concatPieces, ends_concat]
  | empty => simp [Hir.concatPieces, ends_empty, mem_endsAll_nil]
  | _ => simp [Hir.concatPieces, mem_endsAll_singleton]

theorem mem_endsAll_flatMap_concatPieces {items : List Hir} {i j : Nat} :
    j ∈ Hir.endsAll text (items.flatMap Hir.concatPieces) i ↔ j ∈ Hir.endsAll text items i := by
  induction items generalizing i with
  | nil => rfl
  | cons item items ih =>
    simp only [List.flatMap_cons, mem_endsAll_append, mem_endsAll_concatPieces, ih, mem_endsAll_cons]

theorem mem_endsAll_mergeLiteral {item : Hir} {acc : List Hir} {i j : Nat} :
    j ∈ Hir.endsAll text (item.mergeLiteral acc) i ↔ j ∈ Hir.endsAll text (item :: acc) i := by
  unfold Hir.mergeLiteral
  split
  · -- two literals: the joined literal stands exactly where the first and then the second do
    simp only [mem_endsAll_cons, ends_literal, literalAt_append, List.length_append]
    rename_i front back rest
    by_cases first : literalAt text front i <;>
      by_cases second : literalAt text back (i + front.length) <;>
      simp [first, second, Nat.add_assoc]
  · rfl

theorem mem_endsAll_foldr_mergeLiteral {parts : List Hir} {i j : Nat} :
    j ∈ Hir.endsAll text (parts.foldr Hir.mergeLiteral []) i ↔ j ∈ Hir.endsAll text parts i := by
  induction parts generalizing i with
  | nil => rfl
  | cons item parts ih => simp only [List.foldr_cons, mem_endsAll_mergeLiteral, mem_endsAll_cons, ih]

theorem mem_ends_ofParts {parts : List Hir} {i j : Nat} :
    j ∈ (Hir.ofParts parts).ends text i ↔ j ∈ Hir.endsAll text parts i := by
  match parts with
  | [] => simp [Hir.ofParts, ends_empty, mem_endsAll_nil]
  | [one] => simp [Hir.ofParts, mem_endsAll_singleton]
  | _ :: _ :: _ => simp [Hir.ofParts, ends_concat]

/-- Flattening, merging literals and dropping empty patterns keep the ends of a
concatenation. -/
theorem mem_ends_concatOf {items : List Hir} {i j : Nat} :
    j ∈ (Hir.concatOf items).ends text i ↔ j ∈ Hir.endsAll text items i := by
  rw [Hir.concatOf_eq_ofParts, mem_ends_ofParts, mem_endsAll_foldr_mergeLiteral,
    mem_endsAll_flatMap_concatPieces]

/-- Between the text anchors a match starts at the first position and ends at the last. -/
theorem mem_endsAll_anchors {core : Hir} {i j : Nat} :
    j ∈ Hir.endsAll text [.look .start, core, .look .finish] i ↔
      i = 0 ∧ j = text.size ∧ text.size ∈ core.ends text 0 := by
  simp only [mem_endsAll_cons, mem_endsAll_nil, ends_look, Look.holds, beq_iff_eq]
  constructor
  · rintro ⟨k, start, m, middle, e, finish, rfl⟩
    by_cases atStart : i = 0 <;> simp [atStart] at start
    subst start
    by_cases atEnd : m = text.size <;> simp [atEnd] at finish
    subst finish atEnd
    exact ⟨atStart, rfl, middle⟩
  · rintro ⟨rfl, rfl, whole⟩
    exact ⟨0, by simp, text.size, whole, text.size, by simp, rfl⟩

end Ends

theorem matches_eq_true_iff {core : Hir} {target : String} :
    core.matches target = true ↔
      ∃ i ≤ target.length, ∃ j, j ∈ core.ends target.toList.toArray i := by
  simp only [Hir.matches, List.any_eq_true, List.mem_range, Bool.not_eq_true',
    List.isEmpty_eq_false_iff_exists_mem, List.size_toArray, String.length_toList, Nat.lt_succ_iff]

/-- A core form between the text anchors matches a target exactly when it matches all of it. -/
theorem matches_concatOf_anchors (core : Hir) (target : String) :
    (Hir.concatOf [.look .start, core, .look .finish]).matches target = core.matchesWhole target := by
  rw [Bool.eq_iff_iff, matches_eq_true_iff, Hir.matchesWhole, List.contains_iff_mem]
  simp only [mem_ends_concatOf, mem_endsAll_anchors, List.size_toArray, String.length_toList]
  constructor
  · rintro ⟨_, _, _, -, -, whole⟩
    exact whole
  · intro whole
    exact ⟨0, Nat.zero_le _, _, rfl, rfl, whole⟩

/-- The syntax `^(?:body)$`: the two line anchors around one plain group. -/
def Ast.anchoredGroup (body : Ast) : Ast :=
  .concat [.assertion .startLine, .group (.plain []) body, .assertion .endLine]

/-- With the default flags the line anchors are the text anchors, and a plain group with no flag
changes lowers as its body does. -/
theorem ofAst?_anchoredGroup (body : Ast) :
    Hir.ofAst? body.anchoredGroup =
      (Hir.ofAst? body).map fun core => Hir.concatOf [.look .start, core, .look .finish] := by
  unfold Hir.ofAst?
  simp only [Ast.anchoredGroup, Lower.ast, Lower.astAll, Lower.look, Lower.flags, Lower.setFlags,
    StateT.run', bind, StateT.bind, get, getThe, MonadStateOf.get, StateT.get, modify, modifyGet,
    MonadStateOf.modifyGet, StateT.modifyGet, Functor.map, pure, StateT.pure, Flags.applyAll,
    List.foldl_nil, Except.pure]
  cases lowered : Lower.ast body ({}, 0) with
  | error => simp [lowered, Except.bind, Except.map]
  | ok result => simp [lowered, Except.bind, Except.map]

/-- A compiled text that reads as the anchors around one group matches exactly the targets the
group matches whole. -/
theorem Compiled.isMatch_of_anchoredGroup {text : String} {body : Ast} {compiled : Compiled}
    (reads : Ast.parse? text = some body.anchoredGroup) (compiles : Compiled.ofText? text = some compiled)
    (target : String) :
    compiled.isMatch target = (Hir.ofAst? body).any (·.matchesWhole target) := by
  unfold Compiled.ofText? at compiles
  simp only [reads, Option.bind_eq_bind, Option.bind_some, ofAst?_anchoredGroup] at compiles
  cases lowered : Hir.ofAst? body with
  | none => simp [lowered] at compiles
  | some core =>
    by_cases fits : (Hir.concatOf [.look .start, core, .look .finish]).fitsLimit = true
    · simp only [lowered, fits, Option.map_some, Option.bind_some, ↓reduceIte, Option.some.injEq]
        at compiles
      subst compiles
      simp [Compiled.isMatch, matches_concatOf_anchors]
    · simp [lowered, fits] at compiles

end Pattern

open Pattern

/-- A successful `mapM` in `Except` pairs every input with its result. -/
theorem forall₂_of_mapM_eq_ok {α β ε : Type} {f : α → Except ε β} {xs : List α} {ys : List β}
    (mapped : xs.mapM f = .ok ys) : List.Forall₂ (fun x y => f x = .ok y) xs ys := by
  induction xs generalizing ys with
  | nil =>
    cases mapped
    exact .nil
  | cons x xs ih =>
    rw [List.mapM_cons] at mapped
    cases head : f x with
    | error => simp [head] at mapped; cases mapped
    | ok y =>
      cases rest : xs.mapM f with
      | error => simp [head, rest] at mapped; cases mapped
      | ok zs =>
        simp only [head, rest] at mapped
        change Except.ok (y :: zs) = Except.ok ys at mapped
        cases mapped
        exact .cons head (ih rest)

namespace OrchestratorConfig

/-- A pattern's anchored text compiles to the given form. -/
def AnchoredAs (pattern : String) (compiled : Compiled) : Prop :=
  Compiled.ofText? (anchored pattern) = some compiled

/-- The patterns of a configuration that compiles, each beside its compiled anchored form. -/
theorem compilePatterns_forall₂ {c : OrchestratorConfig} {compiled : List Compiled}
    (accepted : c.compilePatterns = .ok compiled) :
    List.Forall₂ AnchoredAs c.targetPatterns compiled := by
  refine (forall₂_of_mapM_eq_ok accepted).imp fun pattern form compiles => ?_
  unfold AnchoredAs
  cases text : Compiled.ofText? (anchored pattern) with
  | none => simp [text] at compiles
  | some found => simp [text] at compiles; cases compiles; rfl

theorem compilePatterns_of_settings {c : OrchestratorConfig} {s : Settings}
    (accepted : c.settings = .ok s) : c.compilePatterns = .ok s.targetPatterns := by
  unfold settings at accepted
  cases compiled : c.compilePatterns with
  | error => simp [compiled] at accepted
  | ok patterns =>
    simp [compiled] at accepted
    subst accepted
    rfl

theorem exists_anchoredAs_of_mem {patterns : List String} {compiled : List Compiled}
    (paired : List.Forall₂ AnchoredAs patterns compiled) {pattern : String} (mem : pattern ∈ patterns) :
    ∃ form, AnchoredAs pattern form := by
  induction paired with
  | nil => cases mem
  | cons head _ ih =>
    rcases List.mem_cons.1 mem with rfl | mem
    · exact ⟨_, head⟩
    · exact ih mem

theorem exists_isMatch_iff {patterns : List String} {compiled : List Compiled}
    (paired : List.Forall₂ AnchoredAs patterns compiled) (target : String) :
    (∃ form ∈ compiled, form.isMatch target = true) ↔
      ∃ pattern ∈ patterns, ∃ form, AnchoredAs pattern form ∧ form.isMatch target = true := by
  induction paired with
  | nil => simp
  | @cons pattern form _ _ head _ ih =>
    -- the head's anchored text has one compiled form, the one paired with it
    have only : ∀ other, AnchoredAs pattern other ↔ other = form := by
      intro other
      unfold AnchoredAs at head ⊢
      rw [head, Option.some.injEq, eq_comm]
    simp only [List.mem_cons, exists_eq_or_imp, ih, only, exists_eq_left]

end OrchestratorConfig

/-- Settings accept a target exactly when there are no patterns or the anchored text of one of
them matches it; and the anchored text of a pattern that reads as the anchors around one group
matches exactly the targets that group matches whole. -/
theorem settings_match_through_anchored_groups (c : OrchestratorConfig) (s : Settings)
    (accepted : c.settings = .ok s) (target : String) :
    (s.matches target = true ↔ c.targetPatterns = [] ∨
      ∃ pattern ∈ c.targetPatterns, ∃ compiled,
        Compiled.ofText? (OrchestratorConfig.anchored pattern) = some compiled ∧
          compiled.isMatch target = true) ∧
    ∀ pattern ∈ c.targetPatterns, ∀ body : Ast,
      Ast.parse? (OrchestratorConfig.anchored pattern) = some body.anchoredGroup →
        ∃ compiled, Compiled.ofText? (OrchestratorConfig.anchored pattern) = some compiled ∧
          compiled.isMatch target = (Hir.ofAst? body).any (·.matchesWhole target) := by
  have paired := OrchestratorConfig.compilePatterns_forall₂
    (OrchestratorConfig.compilePatterns_of_settings accepted)
  constructor
  · have noPatterns : s.targetPatterns = [] ↔ c.targetPatterns = [] := by
      rw [← List.length_eq_zero_iff, ← paired.length_eq, List.length_eq_zero_iff]
    rw [Settings.matches, Bool.or_eq_true, List.isEmpty_iff, noPatterns, List.any_eq_true,
      OrchestratorConfig.exists_isMatch_iff paired]
    rfl
  · intro pattern mem body reads
    obtain ⟨compiled, compiles⟩ := OrchestratorConfig.exists_anchoredAs_of_mem paired mem
    exact ⟨compiled, compiles, Compiled.isMatch_of_anchoredGroup reads compiles target⟩

/-- A pattern kept inside its group is anchored: `refs/heads/main` refuses a longer ref. -/
theorem main_pattern_refuses_longer_ref :
    ∃ settings, ({ targetPatterns := ["refs/heads/main"] } : OrchestratorConfig).settings = .ok settings ∧
      settings.matches "refs/heads/main-backup" = false := by
  have computed : (({ targetPatterns := ["refs/heads/main"] } : OrchestratorConfig).settings.toOption.map
      fun settings => settings.matches "refs/heads/main-backup") = some false := by
    decide +kernel
  cases accepted : ({ targetPatterns := ["refs/heads/main"] } : OrchestratorConfig).settings with
  | error => simp [accepted, Except.toOption] at computed
  | ok settings =>
    refine ⟨settings, rfl, ?_⟩
    have matchIff := (settings_match_through_anchored_groups _ settings accepted "refs/heads/main-backup").1
    have compiledNoMatch : (Compiled.ofText? (OrchestratorConfig.anchored "refs/heads/main")).map
        (·.isMatch "refs/heads/main-backup") = some false := by
      decide +kernel
    rw [Bool.eq_false_iff, Ne, matchIff]
    rintro (empty | ⟨_, mem, compiled, compiles, found⟩)
    · cases empty
    · rw [List.mem_singleton] at mem
      subst mem
      simp [compiles, found] at compiledNoMatch

/-- A pattern that closes the group early escapes the anchors: it is no pattern on its own, yet
its anchored text is accepted and matches a ref that only begins with `refs/heads/main`. -/
theorem spliced_pattern_escapes_its_anchors :
    (Compiled.ofText? "refs/heads/main)|(refs/heads/dev").isNone = true ∧
      (({ targetPatterns := ["refs/heads/main)|(refs/heads/dev"] } : OrchestratorConfig).settings.toOption.map
        fun settings => settings.matches "refs/heads/main-backup") = some true := by
  decide +kernel

end BenchDispatch
