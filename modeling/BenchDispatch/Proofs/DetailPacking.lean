import BenchDispatch.Record.Detail
import BenchDispatch.Proofs.CanonicalBase64
import BenchDispatch.Proofs.GzipRoundTrip

/-! Packing and unpacking details. Packing fails in exactly two ways: compression without an
encoding (`unencodedCompression`), and bytes that are not UTF-8 when no encoding is asked
(`notText`); everything it packs unpacks to the bytes packed (`unpack_of_pack`). Base64 reading is
strict, so an uncompressed detail unpacks exactly when its data is the base64 text of some bytes,
and repacking what it unpacks to gives the detail back. All of it holds whatever compressor packing
uses, as long as its gzip members read back (`Gzip.Writer`). -/

set_option autoImplicit false

namespace BenchDispatch.BuildDetail

variable (compress : ByteArray → ByteArray) (gzip : Gzip.Writer)

/-! ## Packing -/

theorem pack_plain (kind : String) (bytes : ByteArray) :
    pack compress kind bytes none none =
      match String.fromUTF8? bytes with
      | some text => .ok ⟨kind, none, none, text⟩
      | none => .error (.notText kind) := by
  unfold pack
  simp only [pure_bind]
  cases String.fromUTF8? bytes <;> rfl

theorem pack_base64 (kind : String) (bytes : ByteArray) :
    pack compress kind bytes none (some .base64) = .ok ⟨kind, none, some .base64, Base64.encode bytes.toList⟩ := by
  unfold pack
  simp only [pure_bind]
  rfl

/-- The only ways packing fails: compression without an encoding, and bytes that are not text
when no encoding is asked. -/
theorem pack_eq_error {compress : ByteArray → ByteArray} {kind : String} {bytes : ByteArray} {compression : Option Compression}
    {encoding : Option TextEncoding} {error : RecordError}
    (failed : pack compress kind bytes compression encoding = .error error) :
    (error = .unencodedCompression kind ∧ compression = some .gzip ∧ encoding = none) ∨
      (error = .notText kind ∧ compression = none ∧ encoding = none ∧ ¬ bytes.IsValidUTF8) := by
  cases compression with
  | some c =>
    cases c
    cases encoding with
    | none =>
      cases failed
      exact Or.inl ⟨rfl, rfl, rfl⟩
    | some e =>
      cases e
      cases failed
  | none =>
    cases encoding with
    | some e =>
      cases e
      cases failed
    | none =>
      rw [pack_plain] at failed
      by_cases valid : bytes.IsValidUTF8
      · rw [fromUTF8?_of_valid valid] at failed
        cases failed
      · rw [fromUTF8?_eq_none valid] at failed
        cases failed
        exact Or.inr ⟨rfl, rfl, rfl, valid⟩

/-! ## Unpacking -/

theorem decode_encode_toUTF8 (bytes : ByteArray) :
    Base64.decode (Base64.encode bytes.toList).toUTF8.toList = .ok bytes.toList := by
  rw [Base64.toList_toUTF8_encode, Base64.decode_encodedBytes]

theorem unpack_plain (kind text : String) : unpack ⟨kind, none, none, text⟩ = .ok text.toUTF8 := rfl

/-- An uncompressed base64 detail unpacks to the bytes its data reads as, or fails with the
reason its data is not base64. -/
theorem unpack_base64 (kind data : String) :
    unpack ⟨kind, none, some .base64, data⟩ =
      match Base64.decode data.toUTF8.toList with
      | .ok bytes => .ok ⟨bytes.toArray⟩
      | .error reason => .error (.base64 kind reason) := by
  unfold unpack
  cases Base64.decode data.toUTF8.toList <;> rfl

/-- An uncompressed base64 detail unpacks exactly when its data is the base64 text of some bytes,
and then to those bytes. -/
theorem unpack_base64_eq_ok_iff {kind data : String} {bytes : ByteArray} :
    unpack ⟨kind, none, some .base64, data⟩ = .ok bytes ↔
      ∃ decoded, data = Base64.encode decoded ∧ bytes = ⟨decoded.toArray⟩ := by
  rw [unpack_base64]
  cases read : Base64.decode data.toUTF8.toList with
  | error reason =>
    refine ⟨fun unpacked => ?_, ?_⟩
    · cases unpacked
    · rintro ⟨decoded, rfl, -⟩
      rw [(Base64.decode_toUTF8_eq_ok_iff _ decoded).2 rfl] at read
      cases read
  | ok decoded =>
    refine ⟨fun unpacked => ?_, ?_⟩
    · cases unpacked
      exact ⟨decoded, (Base64.decode_toUTF8_eq_ok_iff data decoded).1 read, rfl⟩
    · rintro ⟨other, rfl, rfl⟩
      rw [(Base64.decode_toUTF8_eq_ok_iff _ other).2 rfl, Except.ok.injEq] at read
      rw [read]

theorem unpack_base64_refused {kind data : String} (refused : ¬ ∃ decoded, data = Base64.encode decoded) :
    ∃ reason, unpack ⟨kind, none, some .base64, data⟩ = .error (.base64 kind reason) := by
  rw [unpack_base64]
  cases read : Base64.decode data.toUTF8.toList with
  | error reason => exact ⟨reason, rfl⟩
  | ok decoded => exact absurd ⟨decoded, (Base64.decode_toUTF8_eq_ok_iff data decoded).1 read⟩ refused

/-- Gunzipping after base64 gives back what was gzipped. -/
theorem unpack_gzip_base64 (kind : String) (bytes : ByteArray) :
    unpack ⟨kind, some .gzip, some .base64, Base64.encode (gzip.write bytes).toList⟩ = .ok bytes := by
  unfold unpack
  simp only [decode_encode_toUTF8, ByteArray.mk_toList, pure_bind, gzip.readsBack]
  rfl

/-- A packed detail records what was asked and unpacks to the bytes packed. -/
theorem unpack_of_pack {gzip : Gzip.Writer} {kind : String} {bytes : ByteArray} {compression : Option Compression}
    {encoding : Option TextEncoding} {detail : BuildDetail}
    (packed : pack gzip.write kind bytes compression encoding = .ok detail) :
    detail.kind = kind ∧ detail.compression = compression ∧ detail.encoding = encoding ∧
      detail.unpack = .ok bytes := by
  cases compression with
  | some c =>
    cases c
    cases encoding with
    | none => cases packed
    | some e =>
      cases e
      cases packed
      exact ⟨rfl, rfl, rfl, unpack_gzip_base64 gzip kind bytes⟩
  | none =>
    cases encoding with
    | some e =>
      cases e
      cases packed
      exact ⟨rfl, rfl, rfl, unpack_base64_eq_ok_iff.2 ⟨bytes.toList, rfl, (ByteArray.mk_toList bytes).symm⟩⟩
    | none =>
      rw [pack_plain] at packed
      cases read : String.fromUTF8? bytes with
      | none =>
        rw [read] at packed
        cases packed
      | some text =>
        rw [read] at packed
        cases packed
        exact ⟨rfl, rfl, rfl, by rw [unpack_plain, toUTF8_of_fromUTF8? read]⟩

theorem unpackText_eq {detail : BuildDetail} {bytes : ByteArray} (unpacked : detail.unpack = .ok bytes) :
    detail.unpackText =
      match String.fromUTF8? bytes with
      | some text => .ok text
      | none => .error (.notText detail.kind) := by
  rw [unpackText, unpacked]
  rfl

/-- What a detail's text is, once its bytes are unpacked. -/
theorem unpackText_of_unpack {detail : BuildDetail} {bytes : ByteArray} (unpacked : detail.unpack = .ok bytes) :
    (∀ text : String, bytes = text.toUTF8 → detail.unpackText = .ok text) ∧
      (¬ bytes.IsValidUTF8 → detail.unpackText = .error (.notText detail.kind)) := by
  constructor
  · rintro text rfl
    rw [unpackText_eq unpacked, fromUTF8?_toUTF8]
  · intro invalid
    rw [unpackText_eq unpacked, fromUTF8?_eq_none invalid]

/-! ## Packing, then unpacking -/

/-- Packing refuses compression without an encoding, and otherwise refuses bytes that are not
UTF-8 when no encoding is asked; it never fails to compress. Whatever it packs records the
kind, compression and encoding asked, unpacks to the bytes packed, and unpacks as text to the
text the bytes are, or fails as not text when they are not UTF-8. -/
theorem pack_refusals_and_round_trip (kind : String) (bytes : ByteArray) (compression : Option Compression)
    (encoding : Option TextEncoding) :
    (pack gzip.write kind bytes compression encoding = .error (.unencodedCompression kind) ↔
      compression = some .gzip ∧ encoding = none) ∧
    (¬ (compression = some .gzip ∧ encoding = none) →
      (pack gzip.write kind bytes compression encoding = .error (.notText kind) ↔
        encoding = none ∧ ¬ bytes.IsValidUTF8)) ∧
    (¬ (compression = some .gzip ∧ encoding = none) → ¬ (encoding = none ∧ ¬ bytes.IsValidUTF8) →
      ∃ detail, pack gzip.write kind bytes compression encoding = .ok detail ∧
        detail.kind = kind ∧ detail.compression = compression ∧ detail.encoding = encoding ∧
        detail.unpack = .ok bytes ∧
        (∀ text : String, bytes = text.toUTF8 → detail.unpackText = .ok text) ∧
        (¬ bytes.IsValidUTF8 → detail.unpackText = .error (.notText kind))) ∧
    ∀ other, pack gzip.write kind bytes compression encoding ≠ .error (.compression other) := by
  refine ⟨⟨fun failed => ?_, ?_⟩, fun allowed => ⟨fun failed => ?_, ?_⟩, fun allowed textual => ?_,
    fun other failed => ?_⟩
  · rcases pack_eq_error failed with ⟨_, compressed, unencoded⟩ | ⟨wrong, _⟩
    · exact ⟨compressed, unencoded⟩
    · cases wrong
  · rintro ⟨rfl, rfl⟩
    rfl
  · rcases pack_eq_error failed with ⟨_, compressed, unencoded⟩ | ⟨_, _, unencoded, invalid⟩
    · exact absurd ⟨compressed, unencoded⟩ allowed
    · exact ⟨unencoded, invalid⟩
  · rintro ⟨rfl, invalid⟩
    -- no encoding was asked, so no compression was either
    have uncompressed : compression = none := by
      cases compression with
      | none => rfl
      | some c =>
        cases c
        exact absurd ⟨rfl, rfl⟩ allowed
    rw [uncompressed, pack_plain, fromUTF8?_eq_none invalid]
  · cases packed : pack gzip.write kind bytes compression encoding with
    | error error =>
      rcases pack_eq_error packed with ⟨_, compressed, unencoded⟩ | ⟨_, _, unencoded, invalid⟩
      · exact absurd ⟨compressed, unencoded⟩ allowed
      · exact absurd ⟨unencoded, invalid⟩ textual
    | ok detail =>
      obtain ⟨sameKind, sameCompression, sameEncoding, unpacked⟩ := unpack_of_pack packed
      obtain ⟨asText, notText⟩ := unpackText_of_unpack unpacked
      rw [sameKind] at notText
      exact ⟨detail, rfl, sameKind, sameCompression, sameEncoding, unpacked, asText, notText⟩
  · rcases pack_eq_error failed with ⟨wrong, _⟩ | ⟨wrong, _⟩ <;> cases wrong

theorem gzip_base64_detail_restores_bytes :
    ∃ detail, pack Gzip.writeMember "log" ⟨#[104, 105]⟩ (some .gzip) (some .base64) = .ok detail ∧
      detail.unpack = .ok ⟨#[104, 105]⟩ := by
  obtain ⟨detail, packed, -, -, -, unpacked, -⟩ :=
    (pack_refusals_and_round_trip .stored "log" ⟨#[104, 105]⟩ (some .gzip) (some .base64)).2.2.1
      (fun both => nomatch both.2) (fun both => nomatch both.1)
  exact ⟨detail, packed, unpacked⟩

/-- An uncompressed detail is packed back from the bytes it unpacks to. With base64, it unpacks
exactly when its data is the base64 text of some bytes, and otherwise fails with the reason its
data is not base64. -/
theorem uncompressed_unpack_inverts_pack (detail : BuildDetail) (uncompressed : detail.compression = none) :
    (∀ bytes, detail.unpack = .ok bytes → pack compress detail.kind bytes none detail.encoding = .ok detail) ∧
    (detail.encoding = some .base64 →
      ((∃ bytes, detail.unpack = .ok bytes) ↔ ∃ bytes : List UInt8, detail.data = Base64.encode bytes) ∧
      ((¬ ∃ bytes : List UInt8, detail.data = Base64.encode bytes) →
        ∃ reason, detail.unpack = .error (.base64 detail.kind reason))) := by
  obtain ⟨kind, compression, encoding, data⟩ := detail
  dsimp only at uncompressed ⊢
  subst uncompressed
  cases encoding with
  | none =>
    refine ⟨fun bytes unpacked => ?_, fun encoded => nomatch encoded⟩
    rw [unpack_plain, Except.ok.injEq] at unpacked
    rw [← unpacked, pack_plain, fromUTF8?_toUTF8]
  | some e =>
    cases e
    refine ⟨fun bytes unpacked => ?_,
      fun _ => ⟨⟨fun ⟨bytes, unpacked⟩ => ?_, fun ⟨decoded, encoded⟩ => ?_⟩,
        unpack_base64_refused⟩⟩
    · obtain ⟨decoded, rfl, rfl⟩ := unpack_base64_eq_ok_iff.1 unpacked
      rw [pack_base64, ByteArray.toList_mk]
    · obtain ⟨decoded, encoded, -⟩ := unpack_base64_eq_ok_iff.1 unpacked
      exact ⟨decoded, encoded⟩
    · exact ⟨_, unpack_base64_eq_ok_iff.2 ⟨decoded, encoded, rfl⟩⟩

theorem base64_detail_of_encoded_bytes_unpacks :
    ∃ bytes, (⟨"log", none, some .base64, Base64.encode [104, 105]⟩ : BuildDetail).unpack = .ok bytes :=
  ((uncompressed_unpack_inverts_pack Gzip.writeMember ⟨"log", none, some .base64, Base64.encode [104, 105]⟩ rfl).2 rfl).1.2
    ⟨[104, 105], rfl⟩

end BenchDispatch.BuildDetail
