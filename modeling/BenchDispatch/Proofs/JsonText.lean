import BenchDispatch.Json.Parse
import Mathlib.Tactic.SplitIfs

/-! Compact JSON text reads back as the value it was written from. The escapes of a string read
back as its characters, whatever they are; the digits of a natural number read back as the number;
and a value built from these, nested in arrays and objects, reads back as itself, followed by
whatever text comes after it, as long as that text cannot continue a number. A whole text read by
`Value.parse?` gives its value back, since the reader's fuel, twice the text's length, outlasts
every character it consumes. -/

set_option autoImplicit false

namespace BenchDispatch.Json

/-! ## Strings -/

/-- The text between a string's quotes: each character as `escapeChar` writes it. -/
def escapedText (cs : List Char) : List Char :=
  cs.flatMap fun c => (escapeChar c).toList

private theorem toList_foldl_escape (init : String) (cs : List Char) :
    (cs.foldl (fun out c => out ++ escapeChar c) init).toList = init.toList ++ escapedText cs := by
  induction cs generalizing init with
  | nil => simp [escapedText]
  | cons c cs ih => simp [ih, escapedText, String.toList_append]

theorem toList_quote (s : String) : (quote s).toList = '"' :: escapedText s.toList ++ ['"'] := by
  simp [quote, String.toList_append, toList_foldl_escape]

/-- An escaped code unit that is no surrogate joins nothing: it is a character of its own. -/
theorem readString_pending {u : Nat} (plain : (isHighSurrogate u || isLowSurrogate u) = false)
    (acc : List Char) (paired : Bool) (cs : List Char) :
    readString acc paired (some u) cs = readString (Char.ofNat u :: acc) paired none cs := by
  rw [readString.eq_def, readString.eq_def]
  split
  · next a b c d rest =>
    cases codeUnit? a b c d with
    | none => rfl
    | some low => simp_all [flushUnit]
  · simp_all [flushUnit]

theorem codeUnit?_control : ∀ n < 0x20, codeUnit? '0' '0' (hexDigit (n / 16)) (hexDigit (n % 16)) = some n := by
  decide

theorem readString_escapeChar (acc : List Char) (paired : Bool) (c : Char) (more : List Char) :
    readString acc paired none ((escapeChar c).toList ++ more) = readString (c :: acc) paired none more := by
  unfold escapeChar
  split_ifs with quoteMark backslash newline cr tab backspace formFeed control
  · subst quoteMark
    simp [readString, flushUnit]
  · subst backslash
    simp [readString, flushUnit]
  · subst newline
    simp [readString, flushUnit]
  · subst cr
    simp [readString, flushUnit]
  · subst tab
    simp [readString, flushUnit]
  · have : c = Char.ofNat 8 := by rw [← backspace, Char.ofNat_toNat]
    subst this
    simp [readString, flushUnit]
  · have : c = Char.ofNat 12 := by rw [← formFeed, Char.ofNat_toNat]
    subst this
    simp [readString, flushUnit]
  · -- `\u00XX`: the code unit waits for a partner, and being no surrogate stands alone
    have unit : (isHighSurrogate c.toNat || isLowSurrogate c.toNat) = false := by
      simp [isHighSurrogate, isLowSurrogate]
      omega
    simp only [String.toList_ofList, List.cons_append, List.nil_append]
    rw [readString.eq_def]
    simp only [codeUnit?_control c.toNat control]
    rw [readString_pending unit, Char.ofNat_toNat]
  · rw [readString.eq_def]
    split
    · next a b d e rest same =>
      simp only [Char.toString, String.toList_singleton, List.cons_append, List.nil_append,
        List.cons.injEq] at same
      exact absurd same.1 backslash
    · simp [Char.toString, flushUnit, backslash, control]

/-- A string's escaped characters, then its closing quote, read back as the characters. -/
theorem readString_escapedText (acc : List Char) (paired : Bool) (cs rest : List Char) :
    readString acc paired none (escapedText cs ++ '"' :: rest) = some (acc.reverse ++ cs, paired, rest) := by
  induction cs generalizing acc with
  | nil => simp [escapedText, readString, flushUnit]
  | cons c cs ih =>
    simp only [escapedText, List.flatMap_cons, List.append_assoc] at ih ⊢
    rw [readString_escapeChar, ih]
    simp

/-! ## Natural numbers -/

/-- A character that would carry on the text of a number before it. -/
def continuesNumber (c : Char) : Bool :=
  c.isDigit || c == '.' || c == 'e' || c == 'E'

/-- Text that cannot carry on the value written before it. -/
def Delimits (rest : List Char) : Prop :=
  ∀ c ∈ rest.head?, continuesNumber c = false

theorem delimits_nil : Delimits [] := by
  simp [Delimits]

theorem delimits_cons {c : Char} (stops : continuesNumber c = false) (rest : List Char) :
    Delimits (c :: rest) := by
  simpa [Delimits] using stops

theorem readDigits_append {digits rest : List Char} (allDigits : ∀ c ∈ digits, c.isDigit = true)
    (delimited : Delimits rest) : readDigits (digits ++ rest) = (digits.map (·.toNat - '0'.toNat), rest) := by
  induction digits with
  | nil =>
    cases rest with
    | nil => rfl
    | cons c rest =>
      have notDigit : c.isDigit = false := by
        have := delimited c rfl
        simp only [continuesNumber, Bool.or_eq_false_iff] at this
        exact this.1.1.1
      simp [readDigits, notDigit]
  | cons c digits ih =>
    have digit : c.isDigit = true := allDigits c List.mem_cons_self
    simp [readDigits, digit, ih fun d member => allDigits d (List.mem_cons_of_mem c member)]

theorem head?_toDigits_ne_zero {n : Nat} (positive : 0 < n) : (Nat.toDigits 10 n).head? ≠ some '0' := by
  induction n using Nat.strongRecOn with
  | ind n ih =>
    rw [Nat.toDigits_eq_if (by decide)]
    split
    · simpa using Nat.pos_iff_ne_zero.1 positive
    · next large =>
      have leading := ih (n / 10) (by omega) (by omega)
      obtain ⟨first, digits, written⟩ := List.exists_cons_of_ne_nil (Nat.toDigits_ne_nil (b := 10) (n := n / 10))
      rw [written] at leading ⊢
      simpa using leading

theorem ofDigits_decimalDigits (n : Nat) : ofDigits (decimalDigits n) = n := by
  have digitValue : (fun acc digit => acc * 10 + digit) = fun acc digit => 10 * acc + digit := by
    funext acc digit
    rw [Nat.mul_comm]
  simp only [ofDigits, decimalDigits, List.foldl_map, digitValue]
  exact Nat.ofDigitChars_ten_toDigits

theorem toList_render_ofNat (n : Nat) : (Number.ofNat n).render.toList = Nat.toDigits 10 n := by
  have digit : ∀ c ∈ Nat.toDigits 10 n, Char.ofNat (c.toNat - '0'.toNat + '0'.toNat) = c := by
    intro c member
    have bounds := Char.isDigit_iff_toNat.1 (Nat.isDigit_of_mem_toDigits (by decide) (by decide) member)
    rw [Nat.sub_add_cancel bounds.1, Char.ofNat_toNat]
  simp only [Number.render, Number.ofNat, decimalDigits, List.map_map]
  simp only [Bool.false_eq_true, if_false, List.isEmpty_nil, if_true, String.toList_append,
    String.toList_ofList, String.toList_empty, List.append_nil, List.nil_append]
  exact (List.map_congr_left digit).trans (List.map_id _)

/-- The digits of a natural number, followed by text that cannot carry them on, read back as
the number. -/
theorem readNumber_toDigits (n : Nat) {rest : List Char} (delimited : Delimits rest) :
    readNumber (Nat.toDigits 10 n ++ rest) = some (Number.ofNat n, rest) := by
  have allDigits : ∀ c ∈ Nat.toDigits 10 n, c.isDigit = true := fun c member =>
    Nat.isDigit_of_mem_toDigits (by decide) (by decide) member
  have whole := readDigits_append allDigits delimited
  obtain ⟨first, digits, written⟩ := List.exists_cons_of_ne_nil (Nat.toDigits_ne_nil (b := 10) (n := n))
  unfold readNumber
  split
  next negative body unsigned =>
  -- a digit comes first, so there is no sign
  obtain ⟨rfl, rfl⟩ : negative = false ∧ body = Nat.toDigits 10 n ++ rest := by
    split at unsigned
    · next after minus =>
      rw [written, List.cons_append, List.cons.injEq] at minus
      have firstDigit := allDigits first (written ▸ List.mem_cons_self)
      rw [minus.1] at firstDigit
      contradiction
    · simp only [Prod.mk.injEq] at unsigned
      exact ⟨unsigned.1.symm, unsigned.2.symm⟩
  rw [whole]
  dsimp only
  split
  · next after empty =>
    simp at empty
  · next second others after leadingZero =>
    -- a zero first and more digits after it: only zero's digits start with a zero, and it has one
    rw [written, List.map_cons, Prod.mk.injEq, List.cons.injEq] at leadingZero
    have zero : first = '0' := by
      have bounds := Char.isDigit_iff_toNat.1 (allDigits first (written ▸ List.mem_cons_self))
      rw [← Char.ofNat_toNat first, show first.toNat = 48 by simp at leadingZero bounds; omega]
    have positive : 0 < n := by
      refine Nat.pos_of_ne_zero fun zero => ?_
      subst zero
      simp only [Nat.toDigits_zero, List.cons.injEq] at written
      simp [← written.2] at leadingZero
    exact (head?_toDigits_ne_zero positive (by rw [written, zero]; rfl)).elim
  · simp only [Option.bind_eq_bind, Option.bind_some]
    -- neither a point nor an exponent mark follows: the rest cannot carry the number on
    split
    · exact absurd (delimited '.' rfl) (by decide)
    · split
      · exact absurd (delimited 'e' rfl) (by decide)
      · exact absurd (delimited 'E' rfl) (by decide)
      · simp [Number.ofNat, decimalDigits]

theorem natural?_ofNat (n : Nat) : (Number.ofNat n).natural? = some n := by
  simp [Number.natural?, Number.ofNat, ofDigits_decimalDigits]

/-! ## Values -/

theorem isBlank_eq_false_of_isDigit {c : Char} (digit : c.isDigit = true) : isBlank c = false := by
  have bounds := Char.isDigit_iff_toNat.1 digit
  simp only [isBlank, Bool.or_eq_false_iff, beq_eq_false_iff_ne, ne_eq]
  refine ⟨⟨⟨?_, ?_⟩, ?_⟩, ?_⟩ <;> rintro rfl <;> simp at bounds

theorem skipBlank_cons {c : Char} (unblank : isBlank c = false) (cs : List Char) :
    skipBlank (c :: cs) = c :: cs := by
  simp [skipBlank, unblank]

theorem readValue_digit {c : Char} (digit : c.isDigit = true) (fuel : Nat) (cs : List Char) :
    readValue (fuel + 1) (c :: cs) = (readNumber (c :: cs)).map fun (n, after) => (.number n, after) := by
  rw [readValue, skipBlank_cons (isBlank_eq_false_of_isDigit digit)]
  split
  case h_7 => rfl
  all_goals
    -- a literal, a string or a container starts with a letter, a quote or a bracket, none a digit
    next _ _ same =>
      rw [List.cons.injEq] at same
      rw [same.1] at digit
      exact absurd digit (by decide)

/-- The values whose text reads back as themselves: no lone surrogate, and numbers only as natural
numbers, nested in arrays and objects to any depth. -/
inductive Value.Plain : Value → Prop
  | null : Value.Plain .null
  | bool (b : Bool) : Value.Plain (.bool b)
  | natural (n : Nat) : Value.Plain (.number (Number.ofNat n))
  | string (s : String) : Value.Plain (.string s)
  | array {items : List Value} (plain : ∀ item ∈ items, Value.Plain item) : Value.Plain (.array items)
  | object {members : List (String × Value)} (plain : ∀ member ∈ members, Value.Plain member.2) :
      Value.Plain (.object members)

/-- A value's text, followed by any text that cannot carry it on and given more fuel than the text
has characters, reads back as the value. -/
def Value.ReadsBack (v : Value) : Prop :=
  ∀ fuel rest, v.render.length < fuel → Delimits rest →
    readValue fuel (v.render.toList ++ rest) = some (v, rest)

/-- The text of a plain value starts with a character that is no blank and closes no array. -/
theorem Value.Plain.render_cons {v : Value} (plain : v.Plain) :
    ∃ c cs, v.render.toList = c :: cs ∧ isBlank c = false ∧ c ≠ ']' := by
  cases plain with
  | null => exact ⟨'n', ['u', 'l', 'l'], by simp [Value.render], rfl, by decide⟩
  | bool b =>
    cases b
    · exact ⟨'f', ['a', 'l', 's', 'e'], by simp [Value.render], rfl, by decide⟩
    · exact ⟨'t', ['r', 'u', 'e'], by simp [Value.render], rfl, by decide⟩
  | natural n =>
    obtain ⟨first, digits, written⟩ := List.exists_cons_of_ne_nil (Nat.toDigits_ne_nil (b := 10) (n := n))
    have digit := Nat.isDigit_of_mem_toDigits (by decide) (by decide) (written ▸ List.mem_cons_self)
    refine ⟨first, digits, by rw [Value.render, toList_render_ofNat, written], isBlank_eq_false_of_isDigit digit, ?_⟩
    rintro rfl
    exact absurd digit (by decide)
  | string s => exact ⟨'"', escapedText s.toList ++ ['"'], by simp [Value.render, toList_quote], rfl, by decide⟩
  | @array items => exact ⟨'[', (renderItems items).toList ++ [']'], by simp [Value.render, String.toList_append],
      rfl, by decide⟩
  | @object members => exact ⟨'\x7b', (renderMembers members).toList ++ ['\x7d'],
      by simp [Value.render, String.toList_append], rfl, by decide⟩

/-- Array items that each read back, after the opening bracket, read back as the array. -/
theorem readItems_renderItems {items : List Value} (nonempty : items ≠ [])
    (reads : ∀ item ∈ items, item.ReadsBack) (acc : List Value) (rest : List Char) {fuel : Nat}
    (enough : (renderItems items).length + 1 < fuel) :
    readItems fuel acc ((renderItems items).toList ++ ']' :: rest) = some (.array (acc.reverse ++ items), rest) := by
  induction items generalizing acc fuel with
  | nil => contradiction
  | cons item others ih =>
    obtain ⟨fuel, rfl⟩ : ∃ k, fuel = k + 1 := ⟨fuel - 1, by omega⟩
    cases others with
    | nil =>
      -- the last item, then the closing bracket
      have item_reads := reads item List.mem_cons_self fuel (']' :: rest)
        (by simp only [renderItems] at enough; omega) (delimits_cons (by decide) rest)
      rw [renderItems, readItems, item_reads]
      simp [skipBlank, isBlank]
    | cons next others =>
      -- an item, a comma and the items after it
      simp only [renderItems, String.toList_append, String.length_append, show ",".length = 1 from rfl] at enough ⊢
      have item_reads := reads item List.mem_cons_self fuel
        (',' :: ((renderItems (next :: others)).toList ++ ']' :: rest)) (by omega) (delimits_cons (by decide) _)
      rw [readItems]
      simp only [List.append_assoc, show ",".toList = [','] from rfl, List.cons_append, List.nil_append, item_reads,
        skipBlank_cons (show isBlank ',' = false by decide)]
      rw [ih (by simp) (fun other member => reads other (List.mem_cons_of_mem item member)) (item :: acc) (by omega)]
      simp

/-- Object members whose values each read back, after the opening brace, read back as the
object. -/
theorem readMembers_renderMembers {members : List (String × Value)} (nonempty : members ≠ [])
    (reads : ∀ member ∈ members, member.2.ReadsBack) (acc : List (String × Value)) (rest : List Char)
    {fuel : Nat} (enough : (renderMembers members).length + 1 < fuel) :
    readMembers fuel acc true ((renderMembers members).toList ++ '\x7d' :: rest) =
      some (.object (acc.reverse ++ members), rest) := by
  induction members generalizing acc fuel with
  | nil => contradiction
  | cons member others ih =>
    obtain ⟨name, value⟩ := member
    obtain ⟨fuel, rfl⟩ : ∃ k, fuel = k + 1 := ⟨fuel - 1, by omega⟩
    cases others with
    | nil =>
      -- the last member, then the closing brace
      simp only [renderMembers, String.toList_append, String.length_append, show ":".length = 1 from rfl] at enough ⊢
      have value_reads : readValue fuel (value.render.toList ++ '\x7d' :: rest) = some (value, '\x7d' :: rest) :=
        reads (name, value) List.mem_cons_self fuel _ (by dsimp only; omega) (delimits_cons (by decide) rest)
      rw [readMembers]
      simp [toList_quote, show ":".toList = [':'] from rfl, skipBlank, isBlank, readString_escapedText, value_reads]
    | cons next others =>
      -- a member, a comma and the members after it
      simp only [renderMembers, String.toList_append, String.length_append, show ":".length = 1 from rfl,
        show ",".length = 1 from rfl] at enough ⊢
      have value_reads : readValue fuel (value.render.toList ++ ',' :: ((renderMembers (next :: others)).toList ++
          '\x7d' :: rest)) = some (value, ',' :: ((renderMembers (next :: others)).toList ++ '\x7d' :: rest)) :=
        reads (name, value) List.mem_cons_self fuel _ (by dsimp only; omega) (delimits_cons (by decide) _)
      rw [readMembers]
      simp only [toList_quote, show ":".toList = [':'] from rfl, show ",".toList = [','] from rfl, List.append_assoc,
        List.cons_append, List.nil_append, skipBlank_cons (show isBlank '"' = false by decide),
        readString_escapedText, skipBlank_cons (show isBlank ':' = false by decide), value_reads,
        skipBlank_cons (show isBlank ',' = false by decide), List.reverse_nil, String.ofList_toList, Bool.and_self]
      rw [ih (by simp) (fun other member => reads other (List.mem_cons_of_mem _ member)) _ (by omega)]
      simp

/-- Every plain value reads back from its text. -/
theorem Value.Plain.readsBack {v : Value} (plain : v.Plain) : v.ReadsBack := by
  induction plain with
  | null =>
    intro fuel rest enough _
    obtain ⟨fuel, rfl⟩ : ∃ k, fuel = k + 1 := ⟨fuel - 1, by omega⟩
    simp [Value.render, readValue, skipBlank, isBlank]
  | bool b =>
    intro fuel rest enough _
    obtain ⟨fuel, rfl⟩ : ∃ k, fuel = k + 1 := ⟨fuel - 1, by omega⟩
    cases b <;> simp [Value.render, readValue, skipBlank, isBlank]
  | natural n =>
    intro fuel rest enough delimited
    obtain ⟨fuel, rfl⟩ : ∃ k, fuel = k + 1 := ⟨fuel - 1, by omega⟩
    obtain ⟨first, digits, written⟩ := List.exists_cons_of_ne_nil (Nat.toDigits_ne_nil (b := 10) (n := n))
    have digit := Nat.isDigit_of_mem_toDigits (by decide) (by decide) (written ▸ List.mem_cons_self)
    rw [Value.render, toList_render_ofNat, written, List.cons_append, readValue_digit digit, ← List.cons_append,
      ← written, readNumber_toDigits n delimited]
    rfl
  | string s =>
    intro fuel rest enough _
    obtain ⟨fuel, rfl⟩ : ∃ k, fuel = k + 1 := ⟨fuel - 1, by omega⟩
    simp [Value.render, toList_quote, readValue, skipBlank, isBlank, readString_escapedText]
  | @array items plain ih =>
    intro fuel rest enough _
    obtain ⟨fuel, rfl⟩ : ∃ k, fuel = k + 1 := ⟨fuel - 1, by omega⟩
    cases items with
    | nil => simp [Value.render, renderItems, readValue, skipBlank, isBlank]
    | cons item others =>
      obtain ⟨c, cs, written, unblank, unclosing⟩ := (plain item List.mem_cons_self).render_cons
      obtain ⟨tail, opening⟩ : ∃ tail, (renderItems (item :: others)).toList = c :: tail := by
        cases others <;> simp [renderItems, String.toList_append, written]
      simp only [Value.render, String.toList_append, String.length_append, show "[".length = 1 from rfl,
        show "]".length = 1 from rfl] at enough ⊢
      simp only [show "[".toList = ['['] from rfl, show "]".toList = [']'] from rfl, List.append_assoc,
        List.cons_append, List.nil_append, readValue, skipBlank_cons (show isBlank '[' = false by decide)]
      -- the first item opens with neither a blank nor a closing bracket: the array is not empty
      split
      · next after closing =>
        rw [opening, List.cons_append, skipBlank_cons unblank, List.cons.injEq] at closing
        exact absurd closing.1 unclosing
      · simpa using readItems_renderItems (by simp) ih [] rest (by omega)
  | @object members plain ih =>
    intro fuel rest enough _
    obtain ⟨fuel, rfl⟩ : ∃ k, fuel = k + 1 := ⟨fuel - 1, by omega⟩
    cases members with
    | nil => simp [Value.render, renderMembers, readValue, skipBlank, isBlank]
    | cons member others =>
      obtain ⟨tail, opening⟩ : ∃ tail, (renderMembers (member :: others)).toList = '"' :: tail := by
        cases others <;> simp [renderMembers, String.toList_append, toList_quote]
      simp only [Value.render, String.toList_append, String.length_append, show "\x7b".length = 1 from rfl,
        show "\x7d".length = 1 from rfl] at enough ⊢
      simp only [show "\x7b".toList = ['\x7b'] from rfl, show "\x7d".toList = ['\x7d'] from rfl, List.append_assoc,
        List.cons_append, List.nil_append, readValue, skipBlank_cons (show isBlank '\x7b' = false by decide)]
      -- the first member opens with the quote of its name: the object is not empty
      split
      · next after closing =>
        rw [opening, List.cons_append, skipBlank_cons (by decide), List.cons.injEq] at closing
        exact absurd closing.1 (by decide)
      · simpa using readMembers_renderMembers (by simp) ih [] rest (by omega)

theorem Value.Plain.parse?_render {v : Value} (plain : v.Plain) : Value.parse? v.render = some v := by
  have reads := plain.readsBack (2 * v.render.toList.length + 2) [] (by simp [String.length_toList]; omega)
    delimits_nil
  rw [List.append_nil] at reads
  simp [Value.parse?, reads]

end BenchDispatch.Json
