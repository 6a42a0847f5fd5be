import BenchDispatch.Gzip.Member
import BenchDispatch.Proofs.Bytes

/-! Gzip members written by `writeMember` read back as the data written (`readMember_writeMember`).
A written member is the fixed header, stored blocks of at most 65535 bytes and the trailer, laid
out so by `writeMember_layout`. Bits are read least significant first, so the bits of one byte are
its binary digits and sixteen bits from a byte boundary are two bytes little-endian
(`readBits_sixteen`). A stored block is read back whole (`inflateBlocks_stored`), the blocks one
after the other by induction on the way `storedBlocks` cuts the data (`inflateBlocks_storedBlocks`),
and the trailer's check value and size as the numbers written (`readLittleEndian_of_layout`). -/

set_option autoImplicit false

namespace BenchDispatch.Gzip

/-! ## Reading bits -/

namespace BitStream

theorem readBit_at {bytes : ByteArray} {p j : Nat} {b : UInt8} (found : bytes.data.toList[p]? = some b)
    (low : j < 8) : readBit ⟨bytes, 8 * p + j⟩ = some (b.toNat / 2 ^ j % 2, ⟨bytes, 8 * p + j + 1⟩) := by
  have index : (8 * p + j) / 8 = p := by omega
  have offset : (8 * p + j) % 8 = j := by omega
  have inside := ByteArray.lt_size_of_getElem? found
  unfold readBit
  simp only [index, offset, dif_pos inside, ByteArray.getElem_of_getElem? found inside, Nat.shiftRight_eq_div_pow]

theorem readBits_within {bytes : ByteArray} {p : Nat} {b : UInt8} (found : bytes.data.toList[p]? = some b) :
    ∀ (k j : Nat), j + k ≤ 8 →
      readBits ⟨bytes, 8 * p + j⟩ k = some (b.toNat / 2 ^ j % 2 ^ k, ⟨bytes, 8 * p + j + k⟩)
  | 0, j, _ => by simp [readBits, Nat.mod_one]
  | k + 1, j, fits => by
    have rest := readBits_within found k (j + 1) (by omega)
    rw [readBits, readBit_at found (by omega)]
    simp only [Option.bind_eq_bind, Option.bind_some]
    rw [show 8 * p + j + 1 = 8 * p + (j + 1) by omega, rest]
    simp only [Option.bind_some, Option.pure_def, Option.some.injEq, Prod.mk.injEq, BitStream.mk.injEq]
    refine ⟨?_, trivial, by omega⟩
    -- one more bit below the ones read after it
    rw [Nat.pow_succ, ← Nat.div_div_eq_div_mul, Nat.pow_succ', Nat.mod_mul]

/-- Reading `a + b` bits reads `a` bits, then `b` bits above them. -/
theorem readBits_add (a b : Nat) (s : BitStream) :
    s.readBits (a + b) =
      (s.readBits a).bind fun (low, s) => (s.readBits b).map fun (high, s) => (low + 2 ^ a * high, s) := by
  induction a generalizing s with
  | zero =>
    rw [Nat.zero_add, readBits, Option.bind_some]
    dsimp only
    cases s.readBits b with
    | none => rfl
    | some high => simp
  | succ a ih =>
    rw [Nat.add_right_comm, readBits, readBits]
    cases s.readBit with
    | none => rfl
    | some first =>
      obtain ⟨bit, s⟩ := first
      simp only [Option.bind_eq_bind, Option.bind_some]
      rw [ih]
      cases s.readBits a with
      | none => rfl
      | some low =>
        obtain ⟨low, s⟩ := low
        simp only [Option.bind_some, Option.pure_def]
        cases s.readBits b with
        | none => rfl
        | some high =>
          obtain ⟨high, s⟩ := high
          simp only [Option.map_some, Option.bind_some, Option.some.injEq, Prod.mk.injEq, and_true]
          ring

/-- Sixteen bits from a byte boundary are the two bytes there, little-endian. -/
theorem readBits_sixteen {bytes : ByteArray} {p : Nat} {b c : UInt8} (first : bytes.data.toList[p]? = some b)
    (second : bytes.data.toList[p + 1]? = some c) :
    readBits ⟨bytes, 8 * p⟩ 16 = some (b.toNat + 256 * c.toNat, ⟨bytes, 8 * (p + 2)⟩) := by
  have low := readBits_within first 8 0 (by omega)
  have high := readBits_within second 8 0 (by omega)
  have hb : b.toNat < 256 := b.toNat_lt_size
  have hc : c.toNat < 256 := c.toNat_lt_size
  rw [Nat.add_zero] at low high
  rw [show 16 = 8 + 8 from rfl, readBits_add, low, Option.bind_some, show 8 * p + 8 = 8 * (p + 1) by omega]
  dsimp only
  rw [high]
  simp only [Option.map_some, Option.some.injEq, Prod.mk.injEq, BitStream.mk.injEq, true_and]
  constructor
  · simp only [pow_zero, Nat.div_one, show (2 : Nat) ^ 8 = 256 from rfl]
    omega
  · omega

end BitStream

/-! ## Numbers written little-endian -/

@[simp]
theorem length_littleEndian (value width : Nat) : (littleEndian value width).length = width := by
  simp [littleEndian]

theorem getElem_littleEndian {value width i : Nat} (inside : i < (littleEndian value width).length) :
    (littleEndian value width)[i] = (value / 256 ^ i % 256).toUInt8 := by
  simp [littleEndian]

theorem littleEndian_two (n : Nat) : littleEndian n 2 = [(n % 256).toUInt8, (n / 256 % 256).toUInt8] := by
  simp [littleEndian, List.range_succ]

theorem toNat_littleEndian_two {n : Nat} (small : n < 65536) :
    (n % 256).toUInt8.toNat + 256 * (n / 256 % 256).toUInt8.toNat = n := by
  rw [toNat_toUInt8_of_lt (by omega), toNat_toUInt8_of_lt (by omega)]
  omega

/-- The little-endian digits base 256 of a number give back the number, below `256 ^ width`. -/
theorem foldr_littleEndian :
    ∀ (width value : Nat) (get : Nat → Nat), (∀ i < width, get i = value / 256 ^ i % 256) →
      (List.range width).foldr (fun i acc => acc * 256 + get i) 0 = value % 256 ^ width
  | 0, _, _, _ => by simp only [List.range_zero, List.foldr_nil, pow_zero, Nat.mod_one]
  | width + 1, value, get, digits => by
    -- the digits above the first are those of the number divided by 256
    have higher := foldr_littleEndian width (value / 256) (fun i => get (i + 1)) fun i inside => by
      rw [digits (i + 1) (by omega), Nat.div_div_eq_div_mul, ← Nat.pow_succ']
    rw [List.range_succ_eq_map, List.foldr_cons, List.foldr_map]
    simp only [Nat.succ_eq_add_one]
    rw [higher, digits 0 (by omega), Nat.pow_succ', Nat.mod_mul, pow_zero, Nat.div_one]
    ring

/-- A number written little-endian is read back. -/
theorem readLittleEndian_of_layout {bytes : ByteArray} {pre post : List UInt8} {value width : Nat}
    (layout : bytes.data.toList = pre ++ littleEndian value width ++ post) (small : value < 256 ^ width) :
    readLittleEndian bytes pre.length width = some value := by
  have size := ByteArray.size_of_layout layout
  rw [length_littleEndian] at size
  rw [readLittleEndian, if_pos (by omega), Option.some.injEq, ← Nat.mod_eq_of_lt small]
  refine foldr_littleEndian width value (fun i => (bytes.get! (pre.length + i)).toNat) fun i inside => ?_
  have found := getElem?_of_layout layout (i := i) (by simpa using inside)
  rw [ByteArray.get!_of_getElem? (found.trans (List.getElem?_eq_getElem (by simpa using inside))), getElem_littleEndian,
    toNat_toUInt8_of_lt (by omega)]

/-! ## Stored blocks -/

/-- The header of a stored block: the last-block bit, then the length and its complement. -/
def storedHeader (last : Bool) (length : Nat) : List UInt8 :=
  [if last then (1 : UInt8) else 0] ++ littleEndian length 2 ++ littleEndian (65535 - length) 2

@[simp]
theorem length_storedHeader (last : Bool) (length : Nat) : (storedHeader last length).length = 5 := by
  simp [storedHeader, littleEndian]

/-- A stored block's length, complement and bytes are read back from just after its first byte. -/
theorem readStored_at {bytes : ByteArray} {pre chunk post : List UInt8} {last : Bool} (fits : chunk.length ≤ 65535)
    (layout : bytes.data.toList = pre ++ (storedHeader last chunk.length ++ chunk) ++ post) (out : ByteArray) :
    readStored ⟨bytes, 8 * pre.length + 3⟩ out =
      some (out ++ ⟨chunk.toArray⟩, ⟨bytes, 8 * (pre.length + 5 + chunk.length)⟩) := by
  have header : storedHeader last chunk.length ++ chunk = [if last then (1 : UInt8) else 0,
      (chunk.length % 256).toUInt8, (chunk.length / 256 % 256).toUInt8,
      ((65535 - chunk.length) % 256).toUInt8, ((65535 - chunk.length) / 256 % 256).toUInt8] ++ chunk := by
    rw [storedHeader, littleEndian_two, littleEndian_two]
    rfl
  rw [header] at layout
  have byteAt := fun i (inside : i < 5 + chunk.length) =>
    getElem?_of_layout layout (i := i) (by simp only [List.length_append, List.length_cons]; omega)
  have lengthRead := BitStream.readBits_sixteen (p := pre.length + 1) ((byteAt 1 (by omega)).trans rfl)
    ((byteAt 2 (by omega)).trans rfl)
  have complementRead := BitStream.readBits_sixteen (p := pre.length + 3) ((byteAt 3 (by omega)).trans rfl)
    ((byteAt 4 (by omega)).trans rfl)
  rw [toNat_littleEndian_two (by omega)] at lengthRead
  rw [toNat_littleEndian_two (by omega)] at complementRead
  unfold readStored BitStream.alignToByte
  dsimp only
  rw [show (8 * pre.length + 3 + 7) / 8 * 8 = 8 * (pre.length + 1) by omega, lengthRead]
  simp only [Option.bind_eq_bind, Option.bind_some]
  rw [show 8 * (pre.length + 1 + 2) = 8 * (pre.length + 3) by omega, complementRead]
  simp only [Option.bind_some]
  have start : 8 * (pre.length + 3 + 2) / 8 = (pre ++ storedHeader last chunk.length).length := by
    rw [List.length_append, length_storedHeader]
    omega
  have ends : ((pre ++ storedHeader last chunk.length).length + chunk.length) * 8 =
      8 * (pre.length + 5 + chunk.length) := by
    rw [List.length_append, length_storedHeader]
    omega
  have chunkLayout : bytes.data.toList = (pre ++ storedHeader last chunk.length) ++ chunk ++ post := by
    rw [layout, ← header]
    simp only [List.append_assoc]
  have size := ByteArray.size_of_layout chunkLayout
  rw [start, if_neg (by omega), if_neg (by omega), ByteArray.extract_of_layout chunkLayout, ends]
  rfl

/-- One stored block: its first byte says whether it is the last, and that it is stored. -/
theorem inflateBlocks_stored {bytes : ByteArray} {pre chunk post : List UInt8} {last : Bool}
    (fits : chunk.length ≤ 65535)
    (layout : bytes.data.toList = pre ++ (storedHeader last chunk.length ++ chunk) ++ post) (fuel : Nat)
    (out : ByteArray) :
    inflateBlocks (fuel + 1) ⟨bytes, 8 * pre.length⟩ out =
      if last then some (out ++ ⟨chunk.toArray⟩, ⟨bytes, 8 * (pre.length + 5 + chunk.length)⟩)
      else inflateBlocks fuel ⟨bytes, 8 * (pre.length + 5 + chunk.length)⟩ (out ++ ⟨chunk.toArray⟩) := by
  have first : bytes.data.toList[pre.length]? = some (if last then 1 else 0) :=
    getElem?_of_layout layout (i := 0) (by simp)
  have lastRead := BitStream.readBit_at first (j := 0) (by omega)
  have kindRead := BitStream.readBits_within first 2 1 (by omega)
  rw [Nat.add_zero] at lastRead
  rw [inflateBlocks, lastRead]
  simp only [Option.bind_eq_bind, Option.bind_some]
  rw [kindRead]
  simp only [Option.bind_some]
  have kind : (if last then (1 : UInt8) else 0).toNat / 2 ^ 1 % 2 ^ 2 = 0 := by cases last <;> rfl
  rw [kind]
  rw [show 8 * pre.length + 1 + 2 = 8 * pre.length + 3 by omega, readStored_at fits layout]
  simp only [Option.bind_some]
  cases last <;> rfl

/-- Stored blocks are read back as the data they hold, ending just after the last block. -/
theorem inflateBlocks_storedBlocks (data : List UInt8) {bytes : ByteArray} {pre post : List UInt8}
    (layout : bytes.data.toList = pre ++ storedBlocks data ++ post) (fuel : Nat)
    (enough : (storedBlocks data).length < fuel) (out : ByteArray) :
    inflateBlocks fuel ⟨bytes, 8 * pre.length⟩ out =
      some (out ++ ⟨data.toArray⟩, ⟨bytes, 8 * (pre.length + (storedBlocks data).length)⟩) := by
  fun_induction storedBlocks data generalizing pre fuel out with
  | case1 data _ =>
    rename_i fits
    have block : bytes.data.toList = pre ++ (storedHeader true data.length ++ data) ++ post := layout
    have used : (storedHeader true data.length ++ data).length = 5 + data.length := by
      rw [List.length_append, length_storedHeader]
    change (storedHeader true data.length ++ data).length < fuel at enough
    obtain ⟨fuel, rfl⟩ : ∃ f, fuel = f + 1 := ⟨fuel - 1, by omega⟩
    change _ = some (_, (⟨bytes, 8 * (pre.length + (storedHeader true data.length ++ data).length)⟩ : BitStream))
    rw [inflateBlocks_stored fits block, if_pos rfl, used, Nat.add_assoc]
  | case2 data _ long =>
    rename_i ih
    have front : (data.take 65535).length = 65535 := by rw [List.length_take]; omega
    have block : bytes.data.toList = pre ++ (storedHeader false (data.take 65535).length ++ data.take 65535) ++
        (storedBlocks (data.drop 65535) ++ post) := by
      rw [front]
      exact layout.trans (by simp only [List.append_assoc]; rfl)
    have rest : bytes.data.toList = (pre ++ (storedHeader false (data.take 65535).length ++ data.take 65535)) ++
        storedBlocks (data.drop 65535) ++ post := by
      rw [block]
      simp only [List.append_assoc]
    have used : (storedHeader false 65535 ++ data.take 65535 ++ storedBlocks (data.drop 65535)).length =
        5 + 65535 + (storedBlocks (data.drop 65535)).length := by
      rw [List.length_append, List.length_append, length_storedHeader, front]
    change (storedHeader false 65535 ++ data.take 65535 ++ storedBlocks (data.drop 65535)).length < fuel at enough
    obtain ⟨fuel, rfl⟩ : ∃ f, fuel = f + 1 := ⟨fuel - 1, by omega⟩
    change _ = some (_, (⟨bytes, 8 * (pre.length +
      (storedHeader false 65535 ++ data.take 65535 ++ storedBlocks (data.drop 65535)).length)⟩ : BitStream))
    have next := ih rest fuel (by omega) (out ++ ⟨(data.take 65535).toArray⟩)
    rw [inflateBlocks_stored (by omega) block, if_neg Bool.false_ne_true]
    simp only [List.length_append, length_storedHeader, front] at next
    rw [front, show 8 * (pre.length + 5 + 65535) = 8 * (pre.length + (5 + 65535)) by omega, next, ByteArray.append_mk,
      List.take_append_drop, used]
    congr 3
    omega

/-! ## Members -/

/-- The header written before the blocks. -/
def memberHeader : List UInt8 := [0x1f, 0x8b, 8, 0, 0, 0, 0, 0, 0, 255]

/-- The trailer written after the blocks. -/
def memberTrailer (data : ByteArray) : List UInt8 :=
  littleEndian (crc32 data).toNat 4 ++ littleEndian (data.size % 4294967296) 4

theorem writeMember_layout (data : ByteArray) :
    (writeMember data).data.toList = memberHeader ++ storedBlocks data.toList ++ memberTrailer data := by
  rw [writeMember, List.toList_toArray]
  rfl

/-- The blocks of a written member are read back as the data, up to the trailer. -/
theorem inflate_writeMember (data : ByteArray) :
    inflate (writeMember data) 10 = some (data, 10 + (storedBlocks data.toList).length) := by
  have layout := writeMember_layout data
  have size := ByteArray.size_of_layout layout
  have headerLength : memberHeader.length = 10 := rfl
  have enough : (storedBlocks data.toList).length < (⟨writeMember data, 10 * 8⟩ : BitStream).remaining + 1 := by
    show _ < (writeMember data).size * 8 - 10 * 8 + 1
    rw [size, headerLength]
    omega
  have blocks := inflateBlocks_storedBlocks data.toList layout _ enough ByteArray.empty
  rw [headerLength, show 8 * 10 = 10 * 8 from rfl, ByteArray.empty_append_mk] at blocks
  rw [inflate, blocks, Option.bind_eq_bind, Option.bind_some]
  simp only [Option.pure_def, Option.some.injEq, Prod.mk.injEq, true_and]
  omega

theorem readMember_writeMember (data : ByteArray) : readMember (writeMember data) = some data := by
  have layout := writeMember_layout data
  have size := ByteArray.size_of_layout layout
  have headerLength : memberHeader.length = 10 := rfl
  have headerLayout : (writeMember data).data.toList =
      [] ++ memberHeader ++ (storedBlocks data.toList ++ memberTrailer data) := by
    rw [layout, List.nil_append, List.append_assoc]
  have crcLayout : (writeMember data).data.toList = (memberHeader ++ storedBlocks data.toList) ++
      littleEndian (crc32 data).toNat 4 ++ littleEndian (data.size % 4294967296) 4 := by
    rw [layout, memberTrailer]
    simp only [List.append_assoc]
  have sizeLayout : (writeMember data).data.toList =
      (memberHeader ++ storedBlocks data.toList ++ littleEndian (crc32 data).toNat 4) ++
        littleEndian (data.size % 4294967296) 4 ++ [] := by
    rw [layout, memberTrailer, List.append_nil]
    simp only [List.append_assoc]
  have crcRead := readLittleEndian_of_layout crcLayout (UInt32.toNat_lt _)
  have sizeRead := readLittleEndian_of_layout sizeLayout (Nat.mod_lt _ (by decide))
  simp only [List.length_append, length_littleEndian, headerLength] at crcRead sizeRead
  have headerByte := fun (i : Nat) (inside : i < 10) => getElem?_of_layout headerLayout (i := i) inside
  have magic0 := ByteArray.get!_of_getElem? ((headerByte 0 (by decide)).trans rfl)
  have magic1 := ByteArray.get!_of_getElem? ((headerByte 1 (by decide)).trans rfl)
  have method := ByteArray.get!_of_getElem? ((headerByte 2 (by decide)).trans rfl)
  have flags := ByteArray.get!_of_getElem? ((headerByte 3 (by decide)).trans rfl)
  simp only [List.length_nil, Nat.zero_add] at magic0 magic1 method flags
  have sizeOk : ¬ (writeMember data).size < 10 := by omega
  unfold readMember
  simp only [sizeOk, ↓reduceIte, magic0, ne_eq, not_true_eq_false, magic1, method, or_self, flags,
    UInt8.toNat_zero, Nat.zero_div, Nat.zero_mod, zero_ne_one, Option.pure_def, Option.bind_eq_bind, Option.bind_none,
    ite_not, Option.bind_some, inflate_writeMember, crcRead, sizeRead]

/-- A way of writing gzip members: whatever blocks it chooses, the first member of what it writes
reads back as the data. -/
structure Writer where
  write : ByteArray → ByteArray
  readsBack : ∀ data, readMember (write data) = some data

/-- The writer that stores the data in stored blocks. -/
def Writer.stored : Writer := ⟨writeMember, readMember_writeMember⟩

end BenchDispatch.Gzip
