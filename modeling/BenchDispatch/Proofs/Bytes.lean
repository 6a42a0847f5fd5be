import Mathlib

/-! Byte sequences seen as lists. `ByteArray.toList` is the list of the bytes in order, a text of
characters below 128 is written in UTF-8 as their codes, and the UTF-8 bytes of a text read back
as the text. A sequence laid out as three parts, `pre ++ mid ++ post`, has the bytes of `mid` at
the offsets after `pre`; the readers of framed formats are proved against such layouts. -/

set_option autoImplicit false

namespace BenchDispatch

/-! ## Lists of bytes -/

theorem ByteArray.toList_loop (bytes : ByteArray) (i : Nat) (acc : List UInt8) :
    ByteArray.toList.loop bytes i acc = acc.reverse ++ bytes.data.toList.drop i := by
  fun_induction ByteArray.toList.loop bytes i acc with
  | case1 i acc inside ih =>
    have remaining : bytes.data.toList.drop i = bytes.data[i] :: bytes.data.toList.drop (i + 1) := by
      rw [List.drop_eq_getElem_cons (by simpa using inside)]
      rfl
    rw [ih, remaining]
    simp [ByteArray.get!, inside]
  | case2 i acc outside =>
    rw [List.drop_of_length_le (by simpa using outside), List.append_nil]

/-- `ByteArray.toList` lists the bytes in order. -/
theorem ByteArray.toList_eq (bytes : ByteArray) : bytes.toList = bytes.data.toList := by
  rw [ByteArray.toList, ByteArray.toList_loop]
  rfl

theorem ByteArray.eq_of_toList_eq {a b : ByteArray} (same : a.toList = b.toList) : a = b := by
  rw [ByteArray.toList_eq, ByteArray.toList_eq] at same
  exact ByteArray.ext (Array.ext' same)

@[simp]
theorem ByteArray.toList_mk (bytes : List UInt8) : (ByteArray.mk bytes.toArray).toList = bytes := by
  rw [ByteArray.toList_eq, List.toList_toArray]

theorem ByteArray.mk_toList (bytes : ByteArray) : ByteArray.mk bytes.toList.toArray = bytes :=
  ByteArray.eq_of_toList_eq (ByteArray.toList_mk bytes.toList)

theorem ByteArray.append_mk (out : ByteArray) (front back : List UInt8) :
    out ++ ⟨front.toArray⟩ ++ ⟨back.toArray⟩ = out ++ ⟨(front ++ back).toArray⟩ := by
  apply ByteArray.ext
  simp only [ByteArray.data_append, List.append_toArray, Array.append_assoc]

theorem ByteArray.empty_append_mk (bytes : ByteArray) : ByteArray.empty ++ ⟨bytes.toList.toArray⟩ = bytes := by
  apply ByteArray.ext
  apply Array.ext'
  rw [ByteArray.data_append, Array.toList_append, List.toList_toArray, ByteArray.toList_eq]
  rfl

/-! ## Bytes of text -/

/-- A character below 128 is written in UTF-8 as one byte, its code. -/
theorem utf8EncodeChar_of_lt {c : Char} (ascii : c.toNat < 128) :
    String.utf8EncodeChar c = [c.toUInt8] := by
  apply String.utf8EncodeChar_eq_singleton
  have small : c.val ≤ UInt32.ofNatLT 0x7F (by decide) := by
    rw [UInt32.le_iff_toNat_le, UInt32.toNat_ofNatLT]
    exact Nat.le_of_lt_succ ascii
  simp only [Char.utf8Size, if_pos small]

/-- The UTF-8 bytes of a text of characters below 128 are their codes. -/
theorem toList_toUTF8_ofList {cs : List Char} (ascii : ∀ c ∈ cs, c.toNat < 128) :
    (String.ofList cs).toUTF8.toList = cs.map Char.toUInt8 := by
  rw [String.toUTF8_eq_toByteArray, String.toByteArray_ofList, ByteArray.toList_eq, List.utf8Encode,
    List.toList_data_toByteArray]
  induction cs with
  | nil => rfl
  | cons c cs ih =>
    rw [List.flatMap_cons, utf8EncodeChar_of_lt (ascii c List.mem_cons_self),
      ih fun d member => ascii d (List.mem_cons_of_mem c member), List.map_cons, List.singleton_append]

/-- Reading back the UTF-8 bytes of a text gives the text. -/
theorem fromUTF8?_toUTF8 (text : String) : String.fromUTF8? text.toUTF8 = some text := by
  rw [String.toUTF8_eq_toByteArray, String.fromUTF8?, dif_pos text.isValidUTF8]
  rfl

theorem fromUTF8?_of_valid {bytes : ByteArray} (valid : bytes.IsValidUTF8) :
    String.fromUTF8? bytes = some (String.fromUTF8 bytes valid) := by
  rw [String.fromUTF8?, dif_pos valid]

theorem fromUTF8?_eq_none {bytes : ByteArray} (invalid : ¬ bytes.IsValidUTF8) : String.fromUTF8? bytes = none := by
  rw [String.fromUTF8?, dif_neg invalid]

/-- The text read from bytes is written back as those bytes. -/
theorem toUTF8_of_fromUTF8? {bytes : ByteArray} {text : String} (read : String.fromUTF8? bytes = some text) :
    text.toUTF8 = bytes := by
  by_cases valid : bytes.IsValidUTF8
  · rw [fromUTF8?_of_valid valid, Option.some.injEq] at read
    subst read
    rfl
  · rw [fromUTF8?_eq_none valid] at read
    cases read

/-! ## Numbers as bytes -/

theorem toNat_toUInt8_of_lt {n : Nat} (small : n < 256) : n.toUInt8.toNat = n := by
  rw [Nat.toUInt8_eq]
  exact UInt8.toNat_ofNat_of_lt' small

theorem toUInt8_toNat_eq {n : Nat} {byte : UInt8} (same : n = byte.toNat) : n.toUInt8 = byte := by
  rw [same, Nat.toUInt8_eq, UInt8.ofNat_toNat]

/-! ## Layouts -/

/-- A byte inside a part of a sequence laid out in three parts. -/
theorem getElem?_of_layout {bytes pre mid post : List UInt8} (layout : bytes = pre ++ mid ++ post) {i : Nat}
    (inside : i < mid.length) : bytes[pre.length + i]? = mid[i]? := by
  rw [layout, List.append_assoc, List.getElem?_append_right (by omega), Nat.add_sub_cancel_left,
    List.getElem?_append_left inside]

theorem ByteArray.size_of_layout {bytes : ByteArray} {pre mid post : List UInt8}
    (layout : bytes.data.toList = pre ++ mid ++ post) : bytes.size = pre.length + mid.length + post.length := by
  rw [← ByteArray.size_data, ← Array.length_toList, layout, List.length_append, List.length_append]

/-- The bytes of a part of a sequence laid out in three parts. -/
theorem ByteArray.extract_of_layout {bytes : ByteArray} {pre mid post : List UInt8}
    (layout : bytes.data.toList = pre ++ mid ++ post) :
    bytes.extract pre.length (pre.length + mid.length) = ⟨mid.toArray⟩ := by
  apply ByteArray.ext
  apply Array.ext'
  rw [ByteArray.data_extract, Array.toList_extract, layout, List.extract_eq_take_drop, Nat.add_sub_cancel_left,
    List.append_assoc, List.drop_left, List.take_left]

theorem ByteArray.lt_size_of_getElem? {bytes : ByteArray} {p : Nat} {b : UInt8}
    (found : bytes.data.toList[p]? = some b) :
    p < bytes.size := by
  have inside := (List.getElem?_eq_some_iff.1 found).1
  simpa using inside

theorem ByteArray.getElem_of_getElem? {bytes : ByteArray} {p : Nat} {b : UInt8} (found : bytes.data.toList[p]? = some b)
    (inside : p < bytes.size) : bytes[p] = b := by
  obtain ⟨_, same⟩ := List.getElem?_eq_some_iff.1 found
  rw [← same]
  rfl

theorem ByteArray.get!_of_getElem? {bytes : ByteArray} {p : Nat} {b : UInt8} (found : bytes.data.toList[p]? = some b) :
    bytes.get! p = b := by
  have inside := ByteArray.lt_size_of_getElem? found
  rw [← ByteArray.getElem_of_getElem? found inside]
  cases bytes with
  | mk bytes => exact getElem!_pos bytes p inside

end BenchDispatch
