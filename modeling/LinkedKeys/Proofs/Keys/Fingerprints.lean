import LinkedKeys.Proofs.Keys.Reading

namespace LinkedKeys.KeyLine

open Digest.Base64 (IsEncoding encode)

-- A digest of 32 bytes takes 43 symbols, and one mark of padding that is left out.
def ShowsDigest (raw : List UInt8) (fingerprint : String) : Prop :=
  ∃ symbols, fingerprint = "SHA256:" ++ String.ofList symbols ∧ symbols.length = 43 ∧
    IsEncoding (symbols ++ ['=']) (Digest.Sha256.digest raw)

theorem fingerprintOf_shows (raw : List UInt8) : ShowsDigest raw (fingerprintOf raw) := by
  obtain ⟨padding, encodes⟩ := Digest.Base64.encodeUnpadded_encodes (Digest.Sha256.digest raw)
  have size := Digest.Base64.encodes_length encodes
  have four := Digest.Base64.encodes_four encodes
  have short := encodes.short
  rw [Digest.Sha256.digest_length] at size
  obtain ⟨rfl, long⟩ : padding = 1 ∧
      (Digest.Base64.encodeUnpadded (Digest.Sha256.digest raw)).length = 43 := by omega
  have padded : Digest.Base64.encodeUnpadded (Digest.Sha256.digest raw) ++ ['='] =
      encode (Digest.Sha256.digest raw) := encodes.parts.symm
  refine ⟨_, rfl, long, ?_⟩
  rw [padded]
  exact Digest.Base64.encode_encodes (Digest.Sha256.digest raw)

theorem fingerprint?_encoding {body : List Char} {raw : List UInt8} (stands : IsEncoding body raw) :
    fingerprint? body = some (fingerprintOf raw) := by
  rw [fingerprint?, Digest.Base64.decode_iff.mpr stands]
  rfl

theorem fingerprint?_isSome (body : List Char) :
    (fingerprint? body).isSome = true ↔ ∃ raw, IsEncoding body raw := by
  rw [fingerprint?, Option.isSome_map, Option.isSome_iff_exists]
  exact exists_congr fun raw => Digest.Base64.decode_iff

-- What the body of a key line says about its fingerprint.
structure Fingerprinted (body : List Char) (fingerprint : Option String) : Prop where
  present : fingerprint.isSome = true ↔ ∃ raw, IsEncoding body raw
  unique : ∀ raw other, IsEncoding body raw → IsEncoding body other → other = raw
  shown : ∀ raw, IsEncoding body raw → ∃ text, fingerprint = some text ∧ ShowsDigest raw text

theorem body_fingerprinted (body : List Char) : Fingerprinted body (fingerprint? body) where
  present := fingerprint?_isSome body
  unique := fun _ _ one two => Digest.Base64.isEncoding_unique one two
  shown := fun raw stands => ⟨_, fingerprint?_encoding stands, fingerprintOf_shows raw⟩

theorem encode_plain {c : Char} {raw : List UInt8} (among : c ∈ encode raw) : Text.isBlank c = false := by
  obtain ⟨body, padding, encodes⟩ := Digest.Base64.encode_encodes raw
  rw [encodes.parts] at among
  rcases List.mem_append.mp among with symbol | pad
  · exact alphabet_plain c (encodes.symbols c symbol)
  · rw [List.eq_of_mem_replicate pad]
    decide

theorem encode_full {raw : List UInt8} (full : raw ≠ []) : encode raw ≠ [] := by
  intro empty
  have read := Digest.Base64.decode_encode raw
  rw [empty] at read
  exact full (Option.some.inj read).symm

theorem fields_two {algorithm body : List Char} (named : algorithm ≠ [])
    (plain : ∀ c ∈ algorithm, Text.isBlank c = false) (full : body ≠ [])
    (bodyPlain : ∀ c ∈ body, Text.isBlank c = false) :
    Text.fields (algorithm ++ ' ' :: body) = [algorithm, body] := by
  rw [Text.fields_append (by decide), Text.fields_word named plain, Text.fields_word full bodyPlain]
  rfl

-- Every line with a body has the fingerprint its body calls for, and a line made of bytes has theirs.
theorem fingerprint_iff_canonical :
    (∀ line algorithm body rest, Text.fields line = algorithm :: body :: rest →
      algorithm.head? ≠ some '#' →
        ∃ key, ofLine line = some key ∧ Fingerprinted body key.fingerprint) ∧
    ∀ algorithm raw, algorithm ≠ [] → (∀ c ∈ algorithm, Text.isBlank c = false) →
      algorithm.head? ≠ some '#' → raw ≠ [] →
        ∃ text, IsEncoding (encode raw) raw ∧ ShowsDigest raw text ∧
          ofLine (algorithm ++ ' ' :: encode raw) =
            some ⟨String.ofList algorithm, none, some text⟩ := by
  constructor
  · intro line algorithm body rest split unmarked
    have read := ofLine_fieldwise line
    rw [split, fieldwise, if_neg unmarked] at read
    exact ⟨_, read, body_fingerprinted body⟩
  · intro algorithm raw named plain unmarked full
    have stands := Digest.Base64.encode_encodes raw
    refine ⟨fingerprintOf raw, stands, fingerprintOf_shows raw, ?_⟩
    rw [ofLine_fieldwise, fields_two named plain (encode_full full) fun c among => encode_plain among,
      fieldwise, if_neg unmarked, ← fingerprint?_encoding stands]
    rfl

-- Three bytes of zeros, and bits that the padding should have left at zero.
theorem zeros_fingerprinted :
    (∃ text, ShowsDigest [0, 0, 0] text ∧
      ofLine "ssh-ed25519 AAAA".toList = some ⟨"ssh-ed25519", none, some text⟩) ∧
    ∃ key, ofLine "ssh-ed25519 AB== laptop".toList = some key ∧ key.fingerprint = none := by
  obtain ⟨ofText, ofBytes⟩ := fingerprint_iff_canonical
  constructor
  · obtain ⟨text, -, shows, read⟩ := ofBytes "ssh-ed25519".toList [0, 0, 0] (by decide)
      (by simp [Text.isBlank]) (by decide) (by decide)
    exact ⟨text, shows, read⟩
  · obtain ⟨key, read, fingerprinted⟩ := ofText "ssh-ed25519 AB== laptop".toList _ _ ["laptop".toList]
      (by rfl) (by decide)
    refine ⟨key, read, Option.not_isSome_iff_eq_none.mp fun shown => ?_⟩
    obtain ⟨raw, stands⟩ := fingerprinted.present.mp shown
    have decoded := Digest.Base64.decode_iff.mpr stands
    have refused : Digest.Base64.decode "AB==".toList = none := by decide
    cases refused.symm.trans decoded

end LinkedKeys.KeyLine
