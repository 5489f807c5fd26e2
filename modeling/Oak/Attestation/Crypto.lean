import Oak.Attestation.Message
import Oak.Attestation.Report
import Oak.Lib.Fallible

/-! The cryptography of the handshake (remote_attestation/rust/src/crypto.rs).
The algorithms themselves (SHA-256, X25519, HKDF-SHA256, AES-256-GCM,
ECDSA-P256) and prost's decoder are not modelled: they are the fields of a
`Primitives` structure, over an abstract type `K` of X25519 private keys and
`S` of ECDSA key pairs. What the handshake needs of them is stated as
`Primitives.Honest`. What crypto.rs builds on them is modelled: the key
negotiator that derives a pair of session keys from a shared secret, the
encryptor that uses one key of the pair to seal and the other to open, and
the signer and verifier of transcripts.

Randomness is an input: the private key a negotiator is created with, and the
nonce an encryption uses. -/

namespace Oak.Attestation

open Oak.Lib

/-- The functions of ring, sha2 and prost that the handshake calls. -/
structure Primitives (K S : Type) where
  /-- `Sha256::digest`. -/
  sha256 : List UInt8 → List.Vector UInt8 sha256HashLength
  /-- `EphemeralPrivateKey::compute_public_key` for X25519. -/
  x25519PublicKey : K → List.Vector UInt8 keyAgreementAlgorithmKeyLength
  /-- `agree_ephemeral` for X25519: the shared secret, or a failure. -/
  x25519Agree : K → List.Vector UInt8 keyAgreementAlgorithmKeyLength →
    Option (List.Vector UInt8 keyAgreementAlgorithmKeyLength)
  /-- `Salt::new(HKDF_SHA256, salt).extract(ikm).expand(info)` filled into a key. -/
  hkdfSha256 : List UInt8 → List UInt8 → List UInt8 → List.Vector UInt8 aeadAlgorithmKeyLength
  /-- `seal_in_place_append_tag` with AES-256-GCM and no associated data. -/
  aesGcmSeal : List.Vector UInt8 aeadAlgorithmKeyLength → List.Vector UInt8 nonceLength →
    List UInt8 → List UInt8
  /-- `open_in_place` with AES-256-GCM: the plaintext, or a failure. -/
  aesGcmOpen : List.Vector UInt8 aeadAlgorithmKeyLength → List.Vector UInt8 nonceLength →
    List UInt8 → Option (List UInt8)
  /-- The public key of an ECDSA-P256 key pair, as `0x04 | X | Y`. -/
  ecdsaPublicKey : S → List.Vector UInt8 signingAlgorithmKeyLength
  /-- `EcdsaKeyPair::sign` with `ECDSA_P256_SHA256_FIXED_SIGNING`. -/
  ecdsaSign : S → List UInt8 → List.Vector UInt8 signatureLength
  /-- `UnparsedPublicKey::verify` with `ECDSA_P256_SHA256_FIXED`. -/
  ecdsaVerify : List.Vector UInt8 signingAlgorithmKeyLength → List UInt8 →
    List.Vector UInt8 signatureLength → Bool
  /-- prost's `AttestationInfo::decode`. -/
  decodeAttestationInfo : List UInt8 → Option AttestationInfo

variable {K S : Type}

/-- What an honest run of the handshake takes of the primitives: both sides of
an X25519 agreement between two key pairs get the same secret, opening
inverts sealing under the same key and nonce, sealing appends AES-GCM's tag of
16 bytes, a signature verifies under the signer's public key, and prost's
decoder inverts its encoder. -/
structure Primitives.Honest (P : Primitives K S) : Prop where
  agree_comm : ∀ a b, P.x25519Agree a (P.x25519PublicKey b) = P.x25519Agree b (P.x25519PublicKey a)
  agree_isSome : ∀ a b, (P.x25519Agree a (P.x25519PublicKey b)).isSome
  open_seal : ∀ k n m, P.aesGcmOpen k n (P.aesGcmSeal k n m) = some m
  length_seal : ∀ k n m, (P.aesGcmSeal k n m).length = m.length + 16
  verify_sign : ∀ s m, P.ecdsaVerify (P.ecdsaPublicKey s) m (P.ecdsaSign s m) = true
  decode_encode : ∀ i, P.decodeAttestationInfo i.encode = some i

/-- Ideal signatures over digests: a signature a key pair made over one digest
verifies, under that key pair's public key, for that digest only. -/
def Primitives.IdealSignatures (P : Primitives K S) : Prop :=
  ∀ s (h h' : List.Vector UInt8 sha256HashLength),
    P.ecdsaVerify (P.ecdsaPublicKey s) h'.toList (P.ecdsaSign s h.toList) = true → h' = h

/-! ### Key negotiation -/

/-- `KeyNegotiatorType`. -/
inductive KeyNegotiatorType
  | server
  | client
  deriving DecidableEq

/-- `KeyNegotiator`, created with the private key `generate` drew. -/
structure KeyNegotiator (K : Type) where
  type : KeyNegotiatorType
  privateKey : K

/-- `AeadEncryptor`: a key to seal with and a key to open with. -/
structure AeadEncryptor where
  encryptionKey : List.Vector UInt8 aeadAlgorithmKeyLength
  decryptionKey : List.Vector UInt8 aeadAlgorithmKeyLength
  deriving DecidableEq

/-- `KEY_DERIVATION_SALT`. -/
def keyDerivationSalt : List UInt8 := "Remote Attestation Protocol v1".toUTF8.toList

/-- `SERVER_KEY_PURPOSE`. -/
def serverKeyPurpose : List UInt8 := "Remote Attestation Protocol Server Session Key".toUTF8.toList

/-- `CLIENT_KEY_PURPOSE`. -/
def clientKeyPurpose : List UInt8 := "Remote Attestation Protocol Client Session Key".toUTF8.toList

section Negotiation

variable (P : Primitives K S)

/-- `KeyNegotiator::public_key`. -/
def KeyNegotiator.publicKey (kn : KeyNegotiator K) : List.Vector UInt8 keyAgreementAlgorithmKeyLength :=
  P.x25519PublicKey kn.privateKey

/-- `KeyNegotiator::key_derivation_function`: HKDF over the purpose, then the
server's public key, then the client's. -/
def KeyNegotiator.keyDerivationFunction (keyMaterial : List.Vector UInt8 keyAgreementAlgorithmKeyLength)
    (keyPurpose : List UInt8)
    (serverPublicKey clientPublicKey : List.Vector UInt8 keyAgreementAlgorithmKeyLength) :
    List.Vector UInt8 aeadAlgorithmKeyLength :=
  P.hkdfSha256 keyDerivationSalt keyMaterial.toList
    (keyPurpose ++ serverPublicKey.toList ++ clientPublicKey.toList)

/-- `KeyNegotiator::derive_session_keys`: the encryption key, then the
decryption key. -/
def KeyNegotiator.deriveSessionKeys (kn : KeyNegotiator K)
    (peerPublicKey : List.Vector UInt8 keyAgreementAlgorithmKeyLength) :
    Except String (List.Vector UInt8 aeadAlgorithmKeyLength × List.Vector UInt8 aeadAlgorithmKeyLength) :=
  let selfPublicKey := kn.publicKey P
  match P.x25519Agree kn.privateKey peerPublicKey with
  | none => .error "Couldn't derive session keys"
  | some keyMaterial =>
    match kn.type with
    -- on the server side the server's key is its own
    | .server =>
      .ok (KeyNegotiator.keyDerivationFunction P keyMaterial serverKeyPurpose selfPublicKey peerPublicKey,
        KeyNegotiator.keyDerivationFunction P keyMaterial clientKeyPurpose selfPublicKey peerPublicKey)
    -- on the client side the server's key is the peer's
    | .client =>
      .ok (KeyNegotiator.keyDerivationFunction P keyMaterial clientKeyPurpose peerPublicKey selfPublicKey,
        KeyNegotiator.keyDerivationFunction P keyMaterial serverKeyPurpose peerPublicKey selfPublicKey)

/-- `KeyNegotiator::create_encryptor`. -/
def KeyNegotiator.createEncryptor (kn : KeyNegotiator K)
    (peerPublicKey : List.Vector UInt8 keyAgreementAlgorithmKeyLength) : Except String AeadEncryptor := do
  let (encryptionKey, decryptionKey) ← kn.deriveSessionKeys P peerPublicKey
  pure ⟨encryptionKey, decryptionKey⟩

/-- `AeadEncryptor::encrypt`, with the nonce `generate_nonce` drew. -/
def AeadEncryptor.encrypt (e : AeadEncryptor) (nonce : List.Vector UInt8 nonceLength)
    (data : List UInt8) : EncryptedData :=
  ⟨nonce, P.aesGcmSeal e.encryptionKey nonce data⟩

/-- `AeadEncryptor::decrypt`. -/
def AeadEncryptor.decrypt (e : AeadEncryptor) (data : EncryptedData) : Except String (List UInt8) :=
  context (P.aesGcmOpen e.decryptionKey data.nonce data.data) "Couldn't decrypt data"

/-- `SignatureVerifier::verify`. -/
def SignatureVerifier.verify (publicKey : List.Vector UInt8 signingAlgorithmKeyLength)
    (input : List UInt8) (signature : List.Vector UInt8 signatureLength) : Except String Unit :=
  if P.ecdsaVerify publicKey input signature then .ok () else .error "Signature verification failed"

end Negotiation

/-! ### The two negotiators agree -/

section Mirrored

variable {P : Primitives K S} (hP : P.Honest) (client server : K)
include hP

/-- A client and a server negotiator, each given the other's public key,
derive the same two keys in opposite roles: what one seals with, the other
opens with. -/
theorem createEncryptor_mirrored :
    ∃ e, (KeyNegotiator.createEncryptor P ⟨.client, client⟩ (P.x25519PublicKey server)) = .ok e ∧
      (KeyNegotiator.createEncryptor P ⟨.server, server⟩ (P.x25519PublicKey client)) =
        .ok ⟨e.decryptionKey, e.encryptionKey⟩ := by
  obtain ⟨km, hkm⟩ := Option.isSome_iff_exists.1 (hP.agree_isSome client server)
  have hkm' : P.x25519Agree server (P.x25519PublicKey client) = some km := by
    rw [← hP.agree_comm]
    exact hkm
  refine ⟨⟨KeyNegotiator.keyDerivationFunction P km clientKeyPurpose (P.x25519PublicKey server)
      (P.x25519PublicKey client),
    KeyNegotiator.keyDerivationFunction P km serverKeyPurpose (P.x25519PublicKey server)
      (P.x25519PublicKey client)⟩, ?_, ?_⟩
  · simp only [KeyNegotiator.createEncryptor, KeyNegotiator.deriveSessionKeys, hkm]
    rfl
  · simp only [KeyNegotiator.createEncryptor, KeyNegotiator.deriveSessionKeys, hkm']
    rfl

end Mirrored

theorem AeadEncryptor.decrypt_encrypt {P : Primitives K S} (hP : P.Honest) {e e' : AeadEncryptor}
    (hkey : e'.decryptionKey = e.encryptionKey) (nonce : List.Vector UInt8 nonceLength)
    (data : List UInt8) :
    AeadEncryptor.decrypt P e' (AeadEncryptor.encrypt P e nonce data) = .ok data := by
  rw [AeadEncryptor.decrypt, AeadEncryptor.encrypt, hkey, hP.open_seal]
  rfl

theorem SignatureVerifier.verify_sign {P : Primitives K S} (hP : P.Honest) (sg : S) (m : List UInt8) :
    SignatureVerifier.verify P (P.ecdsaPublicKey sg) m (P.ecdsaSign sg m) = .ok () := by
  rw [SignatureVerifier.verify, if_pos (hP.verify_sign sg m)]

theorem SignatureVerifier.ecdsaVerify_of_verify {P : Primitives K S}
    {pk : List.Vector UInt8 signingAlgorithmKeyLength} {m : List UInt8}
    {sig : List.Vector UInt8 signatureLength} {u : Unit}
    (h : SignatureVerifier.verify P pk m sig = .ok u) : P.ecdsaVerify pk m sig = true := by
  unfold SignatureVerifier.verify at h
  split at h
  · assumption
  · cases h

/-! ### Primitives that meet the assumptions

Stand-ins over one-byte keys, with no security at all: a digest is the
input's length, modulo 256, followed by the input's first 31 bytes; a
signature is the digest followed by the key; sealing appends a tag of zeros.
They meet `Honest` and `IdealSignatures`, so the hypotheses of the
handshake's theorems can hold together, and a handshake over them can be
computed. -/

/-- The first 32 bytes of a list, padded with zeros. -/
def pad32 (m : List UInt8) : List UInt8 := (m ++ List.replicate 32 0).take 32

@[simp] theorem length_pad32 (m : List UInt8) : (pad32 m).length = 32 := by
  simp [pad32]

theorem pad32_of_length {m : List UInt8} (h : m.length = 32) : pad32 m = m := by
  rw [pad32, List.take_left' h]

/-- The stand-in primitives; the decoder is the canonical one of report.rs's
messages. -/
def toyPrimitives : Primitives UInt8 UInt8 where
  sha256 m := ⟨pad32 (UInt8.ofNat m.length :: m), length_pad32 _⟩
  x25519PublicKey k := List.Vector.replicate _ k
  x25519Agree a pk := some (pk.map (· + a))
  hkdfSha256 salt ikm info := ⟨pad32 (salt ++ ikm ++ info), length_pad32 _⟩
  aesGcmSeal _ _ m := m ++ List.replicate 16 0
  aesGcmOpen _ _ c := some (c.take (c.length - 16))
  ecdsaPublicKey s := List.Vector.replicate _ s
  ecdsaSign s m := ⟨pad32 m ++ List.replicate 32 s, by simp [signatureLength]⟩
  ecdsaVerify pk m sig := sig.toList == pad32 m ++ List.replicate 32 (pk.toList.headD 0)
  decodeAttestationInfo := AttestationInfo.decode

theorem toyPrimitives_honest : toyPrimitives.Honest where
  agree_comm a b := by
    refine congrArg some (List.Vector.eq _ _ ?_)
    change (List.replicate _ b).map (· + a) = (List.replicate _ a).map (· + b)
    rw [List.map_replicate, List.map_replicate, UInt8.add_comm]
  agree_isSome _ _ := rfl
  open_seal _ _ _ := by simp [toyPrimitives]
  length_seal _ _ _ := by simp [toyPrimitives]
  verify_sign s m := by
    simp [toyPrimitives, signingAlgorithmKeyLength]
  decode_encode := AttestationInfo.decode_encode

theorem toyPrimitives_idealSignatures : toyPrimitives.IdealSignatures := by
  intro s h h' hv
  have hv : pad32 h.toList ++ List.replicate 32 s = pad32 h'.toList ++ List.replicate 32 s := by
    simpa [toyPrimitives, signingAlgorithmKeyLength] using hv
  apply List.Vector.eq
  rw [← pad32_of_length h.toList_length, ← pad32_of_length h'.toList_length]
  exact (List.append_cancel_right hv).symm

theorem toyPrimitives_sha256_ne {a a' x y : UInt8} {t t' : List UInt8} (hxy : x ≠ y) :
    toyPrimitives.sha256 (a :: x :: t) ≠ toyPrimitives.sha256 (a' :: y :: t') := by
  intro h
  have h₂ := congrArg (fun d => d.toList[2]?) h
  simp [toyPrimitives, pad32] at h₂
  exact hxy h₂

end Oak.Attestation
