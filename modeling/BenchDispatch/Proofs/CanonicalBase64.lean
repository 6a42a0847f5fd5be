import BenchDispatch.Text.Base64
import BenchDispatch.Proofs.Bytes

/-! Base64 text is canonical: reading accepts exactly the texts that writing produces. A text of
`4k` symbols is read as `k - 1` full groups of four symbols, each standing for three bytes, and a
last group of two, three or four symbols padded with `=` to four, standing for one, two or three
bytes. Writing cuts the bytes the same way. The round trip `decode_encodedBytes` and its converse
`eq_encodedBytes_of_decode` meet in `decode_eq_ok_iff`, and for texts in `decode_toUTF8_eq_ok_iff`.

Reading is restated as a length check followed by `readGroups`, so that each of its steps can be
opened on its own. -/

set_option autoImplicit false

namespace BenchDispatch

namespace Base64

/-! ## The alphabet -/

/-- Each six-bit value is written as a symbol below 128 that reads back as the value. -/
theorem symbol_table : ∀ v : Fin 64, sextet? (symbol v).toUInt8 = some v.val ∧ (symbol v).toNat < 128 := by
  decide

/-- Each byte of the alphabet reads as a six-bit value whose symbol is written as that byte. -/
theorem sextet?_table :
    ∀ n : Fin 256, ∀ v ∈ sextet? (UInt8.ofNat n), v < 64 ∧ (symbol v).toUInt8 = UInt8.ofNat n := by
  decide +kernel

theorem sextet?_symbol {v : Nat} (small : v < 64) : sextet? (symbol v).toUInt8 = some v :=
  (symbol_table ⟨v, small⟩).1

theorem symbol_of_sextet? {byte : UInt8} {v : Nat} (read : sextet? byte = some v) :
    v < 64 ∧ (symbol v).toUInt8 = byte := by
  have table := sextet?_table ⟨byte.toNat, byte.toNat_lt⟩ v
  simp only [UInt8.ofNat_toNat] at table
  exact table read

theorem sextet?_padding : sextet? padding = none := by decide

theorem symbol_ne_padding {v : Nat} (small : v < 64) : (symbol v).toUInt8 ≠ padding := by
  intro same
  have read := sextet?_symbol small
  rw [same, sextet?_padding] at read
  cases read

theorem toNat_symbol_lt (v : Nat) : (symbol v).toNat < 128 := by
  by_cases small : v < 64
  · exact (symbol_table ⟨v, small⟩).2
  · have slash : symbol v = '/' := by
      simp only [symbol]
      rw [if_neg (by omega), if_neg (by omega), if_neg (by omega), if_neg (by omega)]
    rw [slash]
    decide

theorem toUInt8_padding_char : '='.toUInt8 = padding := rfl

/-! ## Writing -/

theorem ascii_encodeSymbols (bytes : List UInt8) : ∀ c ∈ encodeSymbols bytes, c.toNat < 128 := by
  have pad : ('=' : Char).toNat < 128 := by decide
  fun_induction encodeSymbols bytes with
  | case1 a b c rest _ _ _ ih =>
    intro d member
    simp only [List.mem_cons] at member
    rcases member with rfl | rfl | rfl | rfl | later
    · exact toNat_symbol_lt _
    · exact toNat_symbol_lt _
    · exact toNat_symbol_lt _
    · exact toNat_symbol_lt _
    · exact ih d later
  | case2 a b =>
    intro d member
    simp only [List.mem_cons, List.not_mem_nil, or_false] at member
    rcases member with rfl | rfl | rfl | rfl
    · exact toNat_symbol_lt _
    · exact toNat_symbol_lt _
    · exact toNat_symbol_lt _
    · exact pad
  | case3 a =>
    intro d member
    simp only [List.mem_cons, List.not_mem_nil, or_false] at member
    rcases member with rfl | rfl | rfl | rfl
    · exact toNat_symbol_lt _
    · exact toNat_symbol_lt _
    · exact pad
    · exact pad
  | case4 => intro d member; cases member

/-- The bytes of the base64 text of a list of bytes. -/
def encodedBytes (bytes : List UInt8) : List UInt8 :=
  (encodeSymbols bytes).map Char.toUInt8

theorem toList_toUTF8_encode (bytes : List UInt8) : (encode bytes).toUTF8.toList = encodedBytes bytes :=
  toList_toUTF8_ofList (ascii_encodeSymbols bytes)

/-- Writing cuts the bytes into groups of three from the front. -/
theorem encodeSymbols_append {front : List UInt8} (whole : front.length % 3 = 0) (back : List UInt8) :
    encodeSymbols (front ++ back) = encodeSymbols front ++ encodeSymbols back := by
  fun_induction encodeSymbols front with
  | case1 a b c rest _ _ _ ih =>
    have restWhole : rest.length % 3 = 0 := by simp only [List.length_cons] at whole; omega
    simp only [List.cons_append, encodeSymbols, ih restWhole]
    rfl
  | case2 a b => simp at whole
  | case3 a => simp at whole
  | case4 => rfl

/-! ## Bytes of groups -/

theorem quadBytes_groupValues (x y z : UInt8) :
    quadBytes [x.toNat / 4, x.toNat % 4 * 16 + y.toNat / 16, y.toNat % 16 * 4 + z.toNat / 64, z.toNat % 64] =
      [x, y, z] := by
  have hx : x.toNat < 256 := x.toNat_lt_size
  have hy : y.toNat < 256 := y.toNat_lt_size
  have hz : z.toNat < 256 := z.toNat_lt_size
  simp only [quadBytes, List.cons.injEq, and_true]
  exact ⟨toUInt8_toNat_eq (by omega), toUInt8_toNat_eq (by omega), toUInt8_toNat_eq (by omega)⟩

theorem encodeSymbols_quadBytes {a b c d : Nat} (ha : a < 64) (hb : b < 64) (hc : c < 64) (hd : d < 64) :
    encodeSymbols (quadBytes [a, b, c, d]) = [symbol a, symbol b, symbol c, symbol d] := by
  simp only [quadBytes, encodeSymbols]
  rw [toNat_toUInt8_of_lt (by omega), toNat_toUInt8_of_lt (by omega), toNat_toUInt8_of_lt (by omega)]
  simp only [List.cons.injEq, and_true]
  exact ⟨congrArg symbol (by omega), congrArg symbol (by omega), congrArg symbol (by omega),
    congrArg symbol (by omega)⟩

/-- Whole groups of six-bit values are written back as their symbols. -/
theorem encodeSymbols_quadBytes_of_whole :
    ∀ (values : List Nat), (∀ v ∈ values, v < 64) → values.length % 4 = 0 →
      encodeSymbols (quadBytes values) = values.map symbol
  | [], _, _ => rfl
  | [_], _, whole | [_, _], _, whole | [_, _, _], _, whole => by simp at whole
  | a :: b :: c :: d :: rest, small, whole => by
    have split : quadBytes (a :: b :: c :: d :: rest) = quadBytes [a, b, c, d] ++ quadBytes rest := rfl
    rw [split, encodeSymbols_append (by simp [quadBytes]),
      encodeSymbols_quadBytes (small a (by simp)) (small b (by simp)) (small c (by simp)) (small d (by simp)),
      encodeSymbols_quadBytes_of_whole rest (fun v member => small v (by simp [member]))
        (by simp only [List.length_cons] at whole; omega)]
    rfl

/-- Whole groups of three bytes are spelled by six-bit values, four to a group. -/
theorem exists_quadBytes :
    ∀ (bytes : List UInt8), bytes.length % 3 = 0 →
      ∃ values : List Nat, (∀ v ∈ values, v < 64) ∧ values.length = bytes.length / 3 * 4 ∧
        quadBytes values = bytes
  | [], _ => ⟨[], by simp, rfl, rfl⟩
  | [_], whole | [_, _], whole => by simp at whole
  | x :: y :: z :: rest, whole => by
    obtain ⟨values, small, counted, read⟩ :=
      exists_quadBytes rest (by simp only [List.length_cons] at whole; omega)
    have hx : x.toNat < 256 := x.toNat_lt_size
    have hy : y.toNat < 256 := y.toNat_lt_size
    have hz : z.toNat < 256 := z.toNat_lt_size
    refine ⟨[x.toNat / 4, x.toNat % 4 * 16 + y.toNat / 16, y.toNat % 16 * 4 + z.toNat / 64, z.toNat % 64] ++ values,
      ?_, by simp only [List.length_append, List.length_cons, List.length_nil, counted]; omega, ?_⟩
    · intro v member
      simp only [List.mem_append, List.mem_cons, List.not_mem_nil, or_false] at member
      rcases member with (rfl | rfl | rfl | rfl) | later
      · omega
      · omega
      · omega
      · omega
      · exact small v later
    · have split : quadBytes ([x.toNat / 4, x.toNat % 4 * 16 + y.toNat / 16, y.toNat % 16 * 4 + z.toNat / 64,
          z.toNat % 64] ++ values) = quadBytes [x.toNat / 4, x.toNat % 4 * 16 + y.toNat / 16,
          y.toNat % 16 * 4 + z.toNat / 64, z.toNat % 64] ++ quadBytes values := rfl
      rw [split, quadBytes_groupValues, read]
      rfl

theorem length_quadBytes : ∀ (values : List Nat), (quadBytes values).length = values.length / 4 * 3
  | a :: b :: c :: d :: rest => by
    rw [quadBytes]
    simp only [List.length_cons, length_quadBytes rest]
    omega
  | [] | [_] | [_, _] | [_, _, _] => by simp [quadBytes]

/-! ## Reading in steps -/

/-- The first check of reading: a final symbol standing alone must be in the alphabet or `=`. -/
def lengthCheck (input : List UInt8) : Except Error Unit :=
  if input.length % 4 = 1 then
    match input.getLast? with
    | some last =>
      if last ≠ padding ∧ (sextet? last).isNone then throw (.invalidSymbol (input.length - 1) last)
      else pure ()
    | none => pure ()
  else pure ()

/-- The bytes before the last group of one to four symbols. -/
def bodyLength (input : List UInt8) : Nat :=
  if input.length % 4 = 0 then input.length - 4 else input.length - input.length % 4

/-- Reading after the length check: the body as full groups, then the last group. -/
def readGroups (input : List UInt8) : Except Error (List UInt8) := do
  let length := input.length
  let bodyLength := bodyLength input
  let body ← sextets 0 (input.take bodyLength)
  let (values, pads, last) ← readLastGroup bodyLength 0 (input.drop bodyLength) [] 0 0 0
  if length > 0 ∧ values.length < 2 then throw (.invalidLength (bodyLength + values.length))
  if (pads + values.length) % 4 ≠ 0 then throw .invalidPadding
  let tail ← lastGroupBytes bodyLength values last
  pure (quadBytes body ++ tail)

/-- Reading is the length check followed by `readGroups`. -/
theorem decode_eq (input : List UInt8) : decode input = (lengthCheck input).bind fun _ => readGroups input := by
  unfold decode lengthCheck
  dsimp only
  by_cases r : input.length % 4 = 1
  · rw [if_pos r, if_pos r]
    cases input.getLast? with
    | none => rfl
    | some last =>
      dsimp only
      by_cases refused : last ≠ padding ∧ (sextet? last).isNone = true
      · rw [if_pos refused, if_pos refused]
        rfl
      · rw [if_neg refused, if_neg refused]
        rfl
  · rw [if_neg r, if_neg r]
    rfl

/-- What a successful read of the groups consists of. -/
theorem readGroups_eq_ok {input out : List UInt8} :
    readGroups input = .ok out ↔
      ∃ body values pads last tail,
        sextets 0 (input.take (bodyLength input)) = .ok body ∧
        readLastGroup (bodyLength input) 0 (input.drop (bodyLength input)) [] 0 0 0 = .ok (values, pads, last) ∧
        ¬ (input.length > 0 ∧ values.length < 2) ∧ (pads + values.length) % 4 = 0 ∧
        lastGroupBytes (bodyLength input) values last = .ok tail ∧ out = quadBytes body ++ tail := by
  constructor
  · intro read
    unfold readGroups at read
    cases hb : sextets 0 (input.take (bodyLength input)) with
    | error e => simp only [bind, Except.bind, hb] at read; cases read
    | ok body =>
      cases hg : readLastGroup (bodyLength input) 0 (input.drop (bodyLength input)) [] 0 0 0 with
      | error e => simp only [bind, Except.bind, hb, hg] at read; cases read
      | ok group =>
        obtain ⟨values, pads, last⟩ := group
        simp only [bind, Except.bind, hb, hg] at read
        by_cases short : input.length > 0 ∧ values.length < 2
        · rw [if_pos short] at read
          cases read
        · rw [if_neg short] at read
          by_cases unpadded : (pads + values.length) % 4 ≠ 0
          · rw [if_pos unpadded] at read
            cases read
          · rw [if_neg unpadded] at read
            cases ht : lastGroupBytes (bodyLength input) values last with
            | error e => rw [ht] at read; cases read
            | ok tail =>
              rw [ht] at read
              exact ⟨body, values, pads, last, tail, rfl, rfl, short, not_not.mp unpadded, ht,
                (Except.ok.inj read).symm⟩
  · rintro ⟨body, values, pads, last, tail, hb, hg, short, padded, ht, rfl⟩
    unfold readGroups
    simp only [bind, Except.bind, hb, hg]
    rw [if_neg short, if_neg (not_not.mpr padded), ht]
    rfl

/-! ## The body -/

theorem sextets_map_symbol (offset : Nat) :
    ∀ (values : List Nat), (∀ v ∈ values, v < 64) →
      sextets offset (values.map fun v => (symbol v).toUInt8) = .ok values
  | [], _ => rfl
  | v :: rest, small => by
    rw [List.map_cons, sextets, sextet?_symbol (small v List.mem_cons_self),
      sextets_map_symbol (offset + 1) rest (fun w member => small w (List.mem_cons_of_mem v member))]
    rfl

/-- Bytes that all read as six-bit values are the symbols of those values. -/
theorem eq_map_symbol_of_sextets :
    ∀ {offset : Nat} {input : List UInt8} {values : List Nat}, sextets offset input = .ok values →
      input = values.map (fun v => (symbol v).toUInt8) ∧ ∀ v ∈ values, v < 64
  | _, [], values, read => by
    cases read
    exact ⟨rfl, by simp⟩
  | offset, byte :: rest, values, read => by
    rw [sextets] at read
    cases found : sextet? byte with
    | none => rw [found] at read; cases read
    | some value =>
      rw [found] at read
      cases more : sextets (offset + 1) rest with
      | error e => rw [more] at read; cases read
      | ok others =>
        rw [more] at read
        cases read
        obtain ⟨small, written⟩ := symbol_of_sextet? found
        obtain ⟨restWritten, restSmall⟩ := eq_map_symbol_of_sextets more
        refine ⟨by rw [List.map_cons, written, restWritten], ?_⟩
        intro v member
        rcases List.mem_cons.1 member with rfl | later
        · exact small
        · exact restSmall v later

/-! ## The last group -/

/-- The last group reads as symbols followed by padding only, and no symbol comes after a `=`. -/
theorem readLastGroup_eq_ok {start index : Nat} {rest : List UInt8} {acc : List Nat} {pads firstPad : Nat}
    {last : UInt8} {values : List Nat} {pads' : Nat} {last' : UInt8}
    (read : readLastGroup start index rest acc pads firstPad last = .ok (values, pads', last')) :
    ∃ syms : List Nat, rest = syms.map (fun v => (symbol v).toUInt8) ++ List.replicate (pads' - pads) padding ∧
      pads ≤ pads' ∧ (0 < pads → syms = []) ∧ values = acc.reverse ++ syms ∧ ∀ v ∈ syms, v < 64 := by
  fun_induction readLastGroup start index rest acc pads firstPad last generalizing values pads' last' with
  | case1 => 
    cases read
    exact ⟨[], by simp, le_refl _, fun _ => rfl, by simp, by simp⟩
  | case2 => cases read
  | case3 index rest acc pads firstPad last late ih =>
    obtain ⟨syms, written, more, padded, listed, small⟩ := ih read
    have none : syms = [] := padded (Nat.succ_pos pads)
    subst none
    refine ⟨[], ?_, by omega, fun _ => rfl, listed, small⟩
    simp only [List.map_nil, List.nil_append] at written ⊢
    rw [written, show pads' - pads = pads' - (pads + 1) + 1 by omega, List.replicate_succ]
  | case4 => cases read
  | case5 => cases read
  | case6 index byte rest acc pads firstPad last notPad noPads value found ih =>
    obtain ⟨syms, written, more, padded, listed, small⟩ := ih read
    obtain ⟨valueSmall, symbolByte⟩ := symbol_of_sextet? found
    refine ⟨value :: syms, ?_, more, fun positive => absurd positive noPads, ?_, ?_⟩
    · rw [written, List.map_cons, symbolByte, List.cons_append]
    · rw [listed, List.reverse_cons, List.append_assoc, List.singleton_append]
    · intro v member
      rcases List.mem_cons.1 member with rfl | later
      · exact valueSmall
      · exact small v later

theorem readLastGroup_padding (start : Nat) (acc : List Nat) (last : UInt8) :
    ∀ (count index pads firstPad : Nat), 2 ≤ index →
      readLastGroup start index (List.replicate count padding) acc pads firstPad last =
        .ok (acc.reverse, pads + count, last)
  | 0, _, _, _, _ => rfl
  | count + 1, index, pads, firstPad, late => by
    rw [List.replicate_succ, readLastGroup, if_pos rfl, if_neg (by omega),
      readLastGroup_padding start acc last count (index + 1) (pads + 1) _ (by omega)]
    congr 3
    omega

/-- Symbols followed by padding read back as their values, when the padding starts at the third
symbol or later. -/
theorem readLastGroup_symbols (start : Nat) (count : Nat) :
    ∀ (syms : List Nat) (index : Nat) (acc : List Nat) (firstPad : Nat) (last : UInt8),
      (∀ v ∈ syms, v < 64) → (0 < count → 2 ≤ index + syms.length) →
      ∃ last', readLastGroup start index
        (syms.map (fun v => (symbol v).toUInt8) ++ List.replicate count padding) acc 0 firstPad last =
          .ok (acc.reverse ++ syms, count, last')
  | [], index, acc, firstPad, last, _, reach => by
    cases count with
    | zero =>
      refine ⟨last, ?_⟩
      rw [List.map_nil, List.replicate_zero, List.append_nil, List.append_nil]
      rfl
    | succ count =>
      refine ⟨last, ?_⟩
      rw [List.map_nil, List.nil_append, List.append_nil, readLastGroup_padding start acc last (count + 1) index 0
        firstPad (by simpa using reach (Nat.succ_pos count)), Nat.zero_add]
  | v :: syms, index, acc, firstPad, last, small, reach => by
    have vSmall := small v List.mem_cons_self
    obtain ⟨last', read⟩ := readLastGroup_symbols start count syms (index + 1) (v :: acc) firstPad
      (symbol v).toUInt8 (fun w member => small w (List.mem_cons_of_mem v member))
      (fun positive => by have := reach positive; simp only [List.length_cons] at this; omega)
    refine ⟨last', ?_⟩
    rw [List.map_cons, List.cons_append, readLastGroup, if_neg (symbol_ne_padding vSmall),
      if_neg (Nat.lt_irrefl 0), sextet?_symbol vSmall]
    dsimp only
    rw [read, List.reverse_cons, List.append_assoc, List.singleton_append]

/-- The last one to three bytes are written as two to four symbols, padded to four. -/
theorem lastGroup_of_tail :
    ∀ (tail : List UInt8), 1 ≤ tail.length → tail.length ≤ 3 →
      ∃ values : List Nat, (∀ v ∈ values, v < 64) ∧ values.length = tail.length + 1 ∧
        encodeSymbols tail = values.map symbol ++ List.replicate (3 - tail.length) '=' ∧
        ∀ start last, lastGroupBytes start values last = .ok tail
  | [], short, _ => absurd short (by simp)
  | [x], _, _ => by
    have hx : x.toNat < 256 := x.toNat_lt_size
    refine ⟨[x.toNat / 4, x.toNat % 4 * 16], ?_, rfl, rfl, fun start last => ?_⟩
    · intro v member
      simp only [List.mem_cons, List.not_mem_nil, or_false] at member
      omega
    · have zeroBits : ¬ x.toNat % 4 * 16 % 16 ≠ 0 := by omega
      have byte : x.toNat / 4 * 4 + x.toNat % 4 * 16 / 16 = x.toNat := by omega
      rw [lastGroupBytes, if_neg zeroBits, toUInt8_toNat_eq byte]
  | [x, y], _, _ => by
    have hx : x.toNat < 256 := x.toNat_lt_size
    have hy : y.toNat < 256 := y.toNat_lt_size
    refine ⟨[x.toNat / 4, x.toNat % 4 * 16 + y.toNat / 16, y.toNat % 16 * 4], ?_, rfl, rfl,
      fun start last => ?_⟩
    · intro v member
      simp only [List.mem_cons, List.not_mem_nil, or_false] at member
      omega
    · have zeroBits : ¬ y.toNat % 16 * 4 % 4 ≠ 0 := by omega
      have first : x.toNat / 4 * 4 + (x.toNat % 4 * 16 + y.toNat / 16) / 16 = x.toNat := by omega
      have second : (x.toNat % 4 * 16 + y.toNat / 16) % 16 * 16 + y.toNat % 16 * 4 / 4 = y.toNat := by omega
      rw [lastGroupBytes, if_neg zeroBits, toUInt8_toNat_eq first, toUInt8_toNat_eq second]
  | [x, y, z], _, _ => by
    have hx : x.toNat < 256 := x.toNat_lt_size
    have hy : y.toNat < 256 := y.toNat_lt_size
    have hz : z.toNat < 256 := z.toNat_lt_size
    refine ⟨[x.toNat / 4, x.toNat % 4 * 16 + y.toNat / 16, y.toNat % 16 * 4 + z.toNat / 64, z.toNat % 64], ?_,
      rfl, rfl, fun start last => ?_⟩
    · intro v member
      simp only [List.mem_cons, List.not_mem_nil, or_false] at member
      omega
    · simp only [lastGroupBytes]
      rw [quadBytes_groupValues]
  | _ :: _ :: _ :: _ :: _, _, long => absurd long (by simp)

/-- Two to four six-bit values that the last group accepts are written back as those symbols,
padded to four. -/
theorem encodeSymbols_of_lastGroupBytes {start : Nat} {values : List Nat} {last : UInt8} {tail : List UInt8}
    (small : ∀ v ∈ values, v < 64) (counted : 2 ≤ values.length ∧ values.length ≤ 4)
    (read : lastGroupBytes start values last = .ok tail) :
    encodeSymbols tail = values.map symbol ++ List.replicate (4 - values.length) '=' := by
  match values, small, counted, read with
  | [a, b], small, _, read =>
    have ha := small a (by simp)
    have hb := small b (by simp)
    rw [lastGroupBytes] at read
    split at read
    · cases read
    · next trailing =>
      cases read
      show encodeSymbols [(a * 4 + b / 16).toUInt8] = [symbol a, symbol b, '=', '=']
      simp only [encodeSymbols]
      rw [toNat_toUInt8_of_lt (by omega)]
      simp only [List.cons.injEq, and_true]
      exact ⟨congrArg symbol (by omega), congrArg symbol (by omega)⟩
  | [a, b, c], small, _, read =>
    have ha := small a (by simp)
    have hb := small b (by simp)
    have hc := small c (by simp)
    rw [lastGroupBytes] at read
    split at read
    · cases read
    · next trailing =>
      cases read
      show encodeSymbols [(a * 4 + b / 16).toUInt8, (b % 16 * 16 + c / 4).toUInt8] =
        [symbol a, symbol b, symbol c, '=']
      simp only [encodeSymbols]
      rw [toNat_toUInt8_of_lt (by omega), toNat_toUInt8_of_lt (by omega)]
      simp only [List.cons.injEq, and_true]
      exact ⟨congrArg symbol (by omega), congrArg symbol (by omega), congrArg symbol (by omega)⟩
  | [a, b, c, d], small, _, read =>
    simp only [lastGroupBytes] at read
    cases read
    rw [encodeSymbols_quadBytes (small a (by simp)) (small b (by simp)) (small c (by simp)) (small d (by simp))]
    rfl
  | [], _, counted, _ | [_], _, counted, _ => simp at counted
  | _ :: _ :: _ :: _ :: _ :: _, _, counted, _ => simp at counted; omega

/-! ## Canonical texts -/

theorem length_encodedBytes (bytes : List UInt8) : (encodedBytes bytes).length % 4 = 0 := by
  rw [encodedBytes, List.length_map]
  fun_induction encodeSymbols bytes with
  | case1 a b c rest _ _ _ ih =>
    simp only [List.length_cons]
    omega
  | case2 | case3 | case4 => simp

/-- Whole groups of six-bit values and then a last group: the text written for the bytes they
spell is the symbols of the groups, then the text written for the last group. -/
theorem encodedBytes_quadBytes_append {body : List Nat} (small : ∀ v ∈ body, v < 64) (whole : body.length % 4 = 0)
    {tail : List UInt8} {values : List Nat} {pads : Nat}
    (lastSymbols : encodeSymbols tail = values.map symbol ++ List.replicate pads '=') :
    encodedBytes (quadBytes body ++ tail) = body.map (fun v => (symbol v).toUInt8) ++
      (values.map (fun v => (symbol v).toUInt8) ++ List.replicate pads padding) := by
  have groups : (quadBytes body).length % 3 = 0 := by
    rw [length_quadBytes]
    omega
  rw [encodedBytes, encodeSymbols_append groups, encodeSymbols_quadBytes_of_whole body small whole, lastSymbols]
  simp only [List.map_append, List.map_map, List.map_replicate, toUInt8_padding_char]
  rfl

/-- Reading the bytes of a written text gives back the bytes written. -/
theorem decode_encodedBytes (bytes : List UInt8) : decode (encodedBytes bytes) = .ok bytes := by
  have checked : lengthCheck (encodedBytes bytes) = .ok () := by
    have whole := length_encodedBytes bytes
    rw [lengthCheck, if_neg (by omega)]
    rfl
  rw [decode_eq, checked]
  show readGroups (encodedBytes bytes) = .ok bytes
  by_cases empty : bytes = []
  · subst empty
    rfl
  -- the last one to three bytes form the last group, the others full groups
  have positive : 0 < bytes.length := List.length_pos_iff.2 empty
  set cut := (bytes.length - 1) / 3 * 3 with cutAt
  have frontLength : (bytes.take cut).length = cut := by rw [List.length_take]; omega
  have tailLength : (bytes.drop cut).length = bytes.length - cut := List.length_drop
  obtain ⟨values, small, counted, front⟩ := exists_quadBytes (bytes.take cut) (by omega)
  obtain ⟨lastValues, lastSmall, lastCounted, lastWritten, lastRead⟩ :=
    lastGroup_of_tail (bytes.drop cut) (by omega) (by omega)
  have written : encodedBytes bytes = values.map (fun v => (symbol v).toUInt8) ++
      (lastValues.map (fun v => (symbol v).toUInt8) ++ List.replicate (3 - (bytes.drop cut).length) padding) := by
    conv => lhs; rw [← List.take_append_drop cut bytes, ← front]
    exact encodedBytes_quadBytes_append small (by omega) lastWritten
  have total : (encodedBytes bytes).length = values.length + 4 := by
    rw [written]
    simp only [List.length_append, List.length_map, List.length_replicate]
    omega
  have body : bodyLength (encodedBytes bytes) = values.length := by
    rw [bodyLength, if_pos (by omega)]
    omega
  obtain ⟨last', lastGroup⟩ := readLastGroup_symbols values.length (3 - (bytes.drop cut).length)
    lastValues 0 [] 0 0 lastSmall (by omega)
  rw [readGroups_eq_ok]
  refine ⟨values, lastValues, 3 - (bytes.drop cut).length, last', bytes.drop cut, ?_, ?_, by omega, by omega,
    lastRead _ _, ?_⟩
  · rw [body, written, List.take_left' (by simp)]
    exact sextets_map_symbol 0 values small
  · rw [body, written, List.drop_left' (by simp)]
    exact lastGroup
  · rw [front, List.take_append_drop]

/-- A text that reads is the text written for the bytes it reads as. -/
theorem eq_encodedBytes_of_decode {input out : List UInt8} (read : decode input = .ok out) :
    input = encodedBytes out := by
  rw [decode_eq] at read
  cases checked : lengthCheck input with
  | error e => rw [checked] at read; cases read
  | ok u =>
    rw [checked] at read
    obtain ⟨body, values, pads, last, tail, readBody, readLast, short, padded, readTail, rfl⟩ :=
      readGroups_eq_ok.1 read
    by_cases empty : input = []
    · subst empty
      cases readBody
      cases readLast
      cases readTail
      rfl
    have positive : 0 < input.length := List.length_pos_iff.2 empty
    obtain ⟨syms, lastWritten, _, _, listed, lastSmall⟩ := readLastGroup_eq_ok readLast
    rw [List.reverse_nil, List.nil_append] at listed
    subst listed
    obtain ⟨bodyWritten, small⟩ := eq_map_symbol_of_sextets readBody
    -- the last group holds the four symbols after the body, so the body is whole groups
    have groupLength : (input.drop (bodyLength input)).length = values.length + pads := by
      rw [lastWritten]
      simp only [List.length_append, List.length_map, List.length_replicate, Nat.sub_zero]
    have bodyCounted : body.length = bodyLength input := by
      rw [← List.length_map (f := fun v => (symbol v).toUInt8), ← bodyWritten, List.length_take]
      unfold bodyLength
      split <;> omega
    have full : values.length + pads = 4 ∧ bodyLength input % 4 = 0 := by
      rw [List.length_drop] at groupLength
      unfold bodyLength at groupLength ⊢
      split at groupLength <;> split <;> omega
    have lastSymbols := encodeSymbols_of_lastGroupBytes lastSmall (by omega) readTail
    rw [show 4 - values.length = pads by omega] at lastSymbols
    rw [Nat.sub_zero] at lastWritten
    rw [encodedBytes_quadBytes_append small (by omega) lastSymbols, ← bodyWritten, ← lastWritten,
      List.take_append_drop]

/-- Base64 reading is strict: a text reads as some bytes exactly when it is the text written for
them. -/
theorem decode_eq_ok_iff {input out : List UInt8} : decode input = .ok out ↔ input = encodedBytes out := by
  constructor
  · exact eq_encodedBytes_of_decode
  · rintro rfl
    exact decode_encodedBytes out

/-- A text reads as base64 exactly when it is the base64 text of the bytes it reads as. -/
theorem decode_toUTF8_eq_ok_iff (text : String) (out : List UInt8) :
    decode text.toUTF8.toList = .ok out ↔ text = encode out := by
  rw [decode_eq_ok_iff, ← toList_toUTF8_encode]
  constructor
  · intro same
    have bytes := ByteArray.eq_of_toList_eq same
    rw [String.toUTF8_eq_toByteArray, String.toUTF8_eq_toByteArray] at bytes
    exact String.toByteArray_inj.1 bytes
  · rintro rfl
    rfl

end Base64

end BenchDispatch
