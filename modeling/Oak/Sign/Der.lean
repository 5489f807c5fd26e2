import Mathlib.Data.List.Basic
import Oak.Lib.Fallible

/-! Ed25519 public keys in DER (oak_sign/src/lib.rs) and the signed challenges
the HTTP and gRPC server nodes verify with them
(oak_runtime/src/node/http/server.rs, oak_runtime/src/node/grpc/server/mod.rs).

simple_asn1's `from_der` and `to_der`, SHA-256 and ring's Ed25519 are not
modelled: they are the fields of `Primitives`, over an abstract type `S` of
Ed25519 key pairs. An ASN.1 block is modelled without its offset, which
simple_asn1's equality of blocks ignores, and the kinds of block that the
decoder never tells apart are one constructor. A call that panics is `none`. -/

namespace Oak.Sign

open Oak.Lib

/-- `simple_asn1::ASN1Block`, without offsets. -/
inductive ASN1Block
  /-- `BitString(_, nbits, bytes)`. -/
  | bitString (nbits : ℕ) (bytes : List UInt8)
  /-- `ObjectIdentifier(_, oid)`. -/
  | objectIdentifier (oid : List ℕ)
  /-- `Sequence(_, blocks)`. -/
  | sequence (blocks : List ASN1Block)
  /-- Every other kind of block, by its tag and content. -/
  | other (tag : ℕ) (content : List UInt8)

/-- `OID_ED_25519`. -/
def oidEd25519 : List ℕ := [1, 3, 101, 112]

/-- `ED_25519_ALG`: the `AlgorithmIdentifier` of Ed25519. -/
def ed25519Alg : ASN1Block := .sequence [.objectIdentifier oidEd25519]

/-- `v[0] == ED_25519_ALG.clone()`: the block is the algorithm identifier of
Ed25519. -/
def ASN1Block.isEd25519Alg : ASN1Block → Bool
  | .sequence [.objectIdentifier oid] => oid == oidEd25519
  | _ => false

@[simp] theorem ASN1Block.isEd25519Alg_ed25519Alg : ed25519Alg.isEd25519Alg = true := rfl

theorem ASN1Block.isEd25519Alg_iff {block : ASN1Block} : block.isEd25519Alg = true ↔ block = ed25519Alg := by
  constructor
  · intro h
    match block, h with
    | .sequence [.objectIdentifier oid], h => rw [beq_iff_eq.1 h]; rfl
  · rintro rfl
    rfl

/-- `BITS_PER_BYTE`. -/
def bitsPerByte : ℕ := 8

/-- `OAK_CHALLENGE`, as bytes. -/
def oakChallenge : List UInt8 := "oak-challenge".toUTF8.toList

/-- The functions of simple_asn1, sha2 and ring that oak_sign calls. -/
structure Primitives (S : Type) where
  /-- `simple_asn1::from_der`: the blocks, or `ASN1DecodeErr`. -/
  fromDer : List UInt8 → Option (List ASN1Block)
  /-- `simple_asn1::to_der`: the encoding, or `ASN1EncodeErr`. -/
  toDer : ASN1Block → Option (List UInt8)
  /-- `get_sha256`. -/
  sha256 : List UInt8 → List UInt8
  /-- The public key of an `Ed25519KeyPair`. -/
  ed25519PublicKey : S → List UInt8
  /-- `Ed25519KeyPair::sign`. -/
  ed25519Sign : S → List UInt8 → List UInt8
  /-- `UnparsedPublicKey::verify` with `ED25519`, on a key, a message and a signature. -/
  ed25519Verify : List UInt8 → List UInt8 → List UInt8 → Bool

/-- The errors oak_sign reports through `anyhow`. -/
inductive SignError
  /-- "Could not encode key to DER" -/
  | encodeFailed
  /-- "Invalid number of ASN.1 blocks: {}, expected: 1" -/
  | invalidBlockCount (n : ℕ)
  /-- "Invalid length of ASN.1 sequence: {}, expected: 2" -/
  | invalidSequenceLength (n : ℕ)
  /-- "Invalid ASN.1 block: {:?}, expected: BIT STRING" -/
  | invalidBitString (block : ASN1Block)
  /-- "Invalid algorithm: {:?}" -/
  | invalidAlgorithm (block : ASN1Block)
  /-- "Invalid ASN.1 block: {:?}, expected: SEQUENCE" -/
  | invalidSequence (block : ASN1Block)
  /-- "Input file signature verification failed for {}", with the hash. -/
  | verificationFailed (hash : List UInt8)

variable {S : Type} (P : Primitives S)

/-- The `SubjectPublicKeyInfo` that `encode_public_key_der` encodes: the
algorithm, and the key in a bit string whose length is in bits. -/
def publicKeyInfo (keyBytes : List UInt8) : ASN1Block :=
  .sequence [ed25519Alg, .bitString (keyBytes.length * bitsPerByte) keyBytes]

/-- `encode_public_key_der`. -/
def encodePublicKeyDer (keyBytes : List UInt8) : Except SignError (List UInt8) :=
  context (P.toDer (publicKeyInfo keyBytes)) .encodeFailed

/-- The checks of `decode_public_key_der` on the blocks `from_der` returned. -/
def decodeBlocks (asnBlocks : List ASN1Block) : Except SignError (List UInt8) :=
  match asnBlocks with
  | [.sequence v] =>
    match v with
    | [alg, key] =>
      if alg.isEd25519Alg then
        match key with
        | .bitString _ keyBytes => .ok keyBytes
        | _ => .error (.invalidBitString key)
      else .error (.invalidAlgorithm alg)
    | _ => .error (.invalidSequenceLength v.length)
  | [block] => .error (.invalidSequence block)
  | _ => .error (.invalidBlockCount asnBlocks.length)

/-- `decode_public_key_der`: `none` where `from_der(..).unwrap()` panics. -/
def decodePublicKeyDer (keyDer : List UInt8) : Option (Except SignError (List UInt8)) :=
  (P.fromDer keyDer).map decodeBlocks

/-- `SignatureBundle`. -/
structure SignatureBundle where
  publicKeyDer : List UInt8
  signedHash : List UInt8
  hash : List UInt8

/-- `SignatureBundle::create`. -/
def SignatureBundle.create (input : List UInt8) (keyPair : S) : Except SignError SignatureBundle := do
  let hash := P.sha256 input
  let publicKeyDer ← encodePublicKeyDer P (P.ed25519PublicKey keyPair)
  return ⟨publicKeyDer, P.ed25519Sign keyPair hash, hash⟩

/-- The signature check of `SignatureBundle::verify`, once the key is decoded. -/
def checkSignature (publicKeyBytes : List UInt8) (b : SignatureBundle) : Except SignError Unit :=
  if P.ed25519Verify publicKeyBytes b.hash b.signedHash then .ok () else .error (.verificationFailed b.hash)

/-- `SignatureBundle::verify`; `none` where decoding the key panics. -/
def SignatureBundle.verify (b : SignatureBundle) : Option (Except SignError Unit) :=
  (decodePublicKeyDer P b.publicKeyDer).map fun r => r.bind fun publicKeyBytes => checkSignature P publicKeyBytes b

/-- `oak.identity.SignedChallenge`. -/
structure SignedChallenge where
  signedHash : List UInt8
  publicKey : List UInt8

/-- The body both servers' `verify_signed_challenge` share: the bundle of the
challenge's key and signature over the hash of `OAK_CHALLENGE` is verified,
the key returned on success and the error mapped by `wrap` otherwise. -/
def verifySignedChallengeWith {ε : Type} (wrap : SignError → ε) (signature : SignedChallenge) :
    Option (Except ε (List UInt8)) :=
  let hash := P.sha256 oakChallenge
  let sigBundle : SignatureBundle := ⟨signature.publicKey, signature.signedHash, hash⟩
  (sigBundle.verify P).map fun
    | .ok () => .ok signature.publicKey
    | .error err => .error (wrap err)

/-- The errors of the HTTP server node's `get_user_identity`. -/
inductive HttpIdentityError
  /-- "Couldn't parse json formatted signed challenge" -/
  | couldNotParseJson
  /-- "Couldn't decode Base64 signed challenge" -/
  | couldNotDecodeBase64
  /-- "Couldn't parse protobuf encoded signed challenge" -/
  | couldNotParseProtobuf
  /-- "Couldn't verify the signature: {}." -/
  | couldNotVerify (err : SignError)
  /-- "At most one signed-challenge must be provided via an {} or an {} header." -/
  | atMostOneChallenge

/-- The gRPC server node's `OakIdentityError`. -/
inductive OakIdentityError
  | multipleIdentities
  | invalidIdentity
  deriving DecidableEq

/-- The HTTP server node's `verify_signed_challenge`. -/
def Http.verifySignedChallenge (signature : SignedChallenge) : Option (Except HttpIdentityError (List UInt8)) :=
  verifySignedChallengeWith P .couldNotVerify signature

/-- The gRPC server node's `verify_signed_challenge`. -/
def Grpc.verifySignedChallenge (signature : SignedChallenge) : Option (Except OakIdentityError (List UInt8)) :=
  verifySignedChallengeWith P (fun _ => .invalidIdentity) signature

/-- The parsers of a challenge header: serde_json's, base64's and prost's. -/
structure HeaderCodecs where
  parseJsonSignedChallenge : List UInt8 → Option SignedChallenge
  base64Decode : List UInt8 → Option (List UInt8)
  decodeSignedChallenge : List UInt8 → Option SignedChallenge

variable (C : HeaderCodecs)

/-- `verify_json_challenge`. -/
def Http.verifyJsonChallenge (signature : List UInt8) : Option (Except HttpIdentityError (List UInt8)) :=
  match C.parseJsonSignedChallenge signature with
  | none => some (.error .couldNotParseJson)
  | some c => Http.verifySignedChallenge P c

/-- `verify_protobuf_challenge`. -/
def Http.verifyProtobufChallenge (base64Signature : List UInt8) : Option (Except HttpIdentityError (List UInt8)) :=
  match C.base64Decode base64Signature with
  | none => some (.error .couldNotDecodeBase64)
  | some signatureBytes =>
    match C.decodeSignedChallenge signatureBytes with
    | none => some (.error .couldNotParseProtobuf)
    | some c => Http.verifySignedChallenge P c

/-- `get_user_identity`, on the values of the JSON and the protobuf challenge
headers, where present. -/
def Http.getUserIdentity (json protobuf : Option (List (List UInt8))) :
    Option (Except HttpIdentityError (List UInt8)) :=
  match json, protobuf with
  | some [jsonSignature], none => Http.verifyJsonChallenge P C jsonSignature
  | none, some [protobufSignature] => Http.verifyProtobufChallenge P C protobufSignature
  | none, none => some (.ok [])
  | _, _ => some (.error .atMostOneChallenge)

/-! ### Decoding -/

theorem decodeBlocks_eq_ok_iff {asnBlocks : List ASN1Block} {keyBytes : List UInt8} :
    decodeBlocks asnBlocks = .ok keyBytes ↔ ∃ nbits, asnBlocks = [.sequence [ed25519Alg, .bitString nbits keyBytes]] := by
  constructor
  · intro h
    -- each failed check is an error; only a bit string after the algorithm is `Ok`
    unfold decodeBlocks at h
    split at h
    · split at h
      · split at h
        · rename_i halg
          split at h
          · cases h
            exact ⟨_, by rw [ASN1Block.isEd25519Alg_iff.1 halg]⟩
          · cases h
        · cases h
      · cases h
    · cases h
    · cases h
  · rintro ⟨nbits, rfl⟩
    simp [decodeBlocks]

theorem decodePublicKeyDer_eq_none_iff {keyDer : List UInt8} :
    decodePublicKeyDer P keyDer = none ↔ P.fromDer keyDer = none := Option.map_eq_none_iff

theorem decodePublicKeyDer_eq_ok_iff {keyDer keyBytes : List UInt8} :
    decodePublicKeyDer P keyDer = some (.ok keyBytes) ↔
      ∃ nbits, P.fromDer keyDer = some [.sequence [ed25519Alg, .bitString nbits keyBytes]] := by
  rw [decodePublicKeyDer, Option.map_eq_some_iff]
  constructor
  · rintro ⟨asnBlocks, hder, hdec⟩
    obtain ⟨nbits, rfl⟩ := decodeBlocks_eq_ok_iff.1 hdec
    exact ⟨nbits, hder⟩
  · rintro ⟨nbits, hder⟩
    exact ⟨_, hder, decodeBlocks_eq_ok_iff.2 ⟨nbits, rfl⟩⟩

/-- `from_der` inverts `to_der`: what `to_der` encodes, `from_der` reads back
as that one block. -/
def Primitives.Inverts : Prop :=
  ∀ block der, P.toDer block = some der → P.fromDer der = some [block]

theorem decode_encode (hP : P.Inverts) {keyBytes der : List UInt8} (h : encodePublicKeyDer P keyBytes = .ok der) :
    decodePublicKeyDer P der = some (.ok keyBytes) := by
  have htoDer : P.toDer (publicKeyInfo keyBytes) = some der := by
    unfold encodePublicKeyDer at h
    cases hd : P.toDer (publicKeyInfo keyBytes) with
    | none => rw [hd, context_none] at h; cases h
    | some d => rw [hd, context_some] at h; cases h; rfl
  exact (decodePublicKeyDer_eq_ok_iff P).2 ⟨_, hP _ _ htoDer⟩

/-! ### Verifying a challenge -/

theorem checkSignature_eq_ok_iff {publicKeyBytes : List UInt8} {b : SignatureBundle} :
    checkSignature P publicKeyBytes b = .ok () ↔ P.ed25519Verify publicKeyBytes b.hash b.signedHash = true := by
  unfold checkSignature
  split
  · exact iff_of_true rfl ‹_›
  · exact iff_of_false (fun h => by cases h) ‹_›

theorem SignatureBundle.verify_eq_none_iff (b : SignatureBundle) :
    b.verify P = none ↔ P.fromDer b.publicKeyDer = none := by
  rw [SignatureBundle.verify, Option.map_eq_none_iff]
  exact decodePublicKeyDer_eq_none_iff P

theorem SignatureBundle.verify_eq_ok_iff (b : SignatureBundle) :
    b.verify P = some (.ok ()) ↔ ∃ nbits keyBytes,
      P.fromDer b.publicKeyDer = some [.sequence [ed25519Alg, .bitString nbits keyBytes]] ∧
      P.ed25519Verify keyBytes b.hash b.signedHash = true := by
  rw [SignatureBundle.verify, Option.map_eq_some_iff]
  constructor
  · rintro ⟨r, hdec, hr⟩
    obtain ⟨keyBytes, rfl, hcheck⟩ := Except.bind_eq_ok hr
    obtain ⟨nbits, hder⟩ := (decodePublicKeyDer_eq_ok_iff P).1 hdec
    exact ⟨nbits, keyBytes, hder, (checkSignature_eq_ok_iff P).1 hcheck⟩
  · rintro ⟨nbits, keyBytes, hder, hver⟩
    exact ⟨.ok keyBytes, (decodePublicKeyDer_eq_ok_iff P).2 ⟨nbits, hder⟩, (checkSignature_eq_ok_iff P).2 hver⟩

/-- The shared body of `verify_signed_challenge` panics exactly when decoding
the challenge's key does, and returns the key exactly when the bundle of the
key and the signature over the hash of `OAK_CHALLENGE` verifies. -/
theorem verifySignedChallengeWith_eq_none_iff {ε : Type} (wrap : SignError → ε) (c : SignedChallenge) :
    verifySignedChallengeWith P wrap c = none ↔ P.fromDer c.publicKey = none := by
  rw [verifySignedChallengeWith, Option.map_eq_none_iff]
  exact SignatureBundle.verify_eq_none_iff P _

theorem verifySignedChallengeWith_eq_ok_iff {ε : Type} (wrap : SignError → ε) (c : SignedChallenge)
    (pk : List UInt8) :
    verifySignedChallengeWith P wrap c = some (.ok pk) ↔
      pk = c.publicKey ∧ ∃ nbits keyBytes,
        P.fromDer c.publicKey = some [.sequence [ed25519Alg, .bitString nbits keyBytes]] ∧
        P.ed25519Verify keyBytes (P.sha256 oakChallenge) c.signedHash = true := by
  rw [verifySignedChallengeWith, Option.map_eq_some_iff]
  constructor
  · rintro ⟨r, hv, hr⟩
    cases r with
    | error err => cases hr
    | ok u =>
      cases hr
      exact ⟨rfl, (SignatureBundle.verify_eq_ok_iff P _).1 hv⟩
  · rintro ⟨rfl, h⟩
    exact ⟨.ok (), (SignatureBundle.verify_eq_ok_iff P _).2 h, rfl⟩

/-- A challenge signed by a key pair, over the hash of `OAK_CHALLENGE` and
carrying the key pair's encoded public key, is accepted by both servers,
when `from_der` inverts `to_der` and a signature verifies under the signer's
key. -/
theorem verifySignedChallengeWith_signed (hP : P.Inverts)
    (hsign : ∀ s m, P.ed25519Verify (P.ed25519PublicKey s) m (P.ed25519Sign s m) = true)
    {ε : Type} (wrap : SignError → ε) (s : S) {der : List UInt8}
    (hder : encodePublicKeyDer P (P.ed25519PublicKey s) = .ok der) :
    verifySignedChallengeWith P wrap ⟨P.ed25519Sign s (P.sha256 oakChallenge), der⟩ = some (.ok der) := by
  obtain ⟨nbits, hfrom⟩ := (decodePublicKeyDer_eq_ok_iff P).1 (decode_encode P hP hder)
  exact (verifySignedChallengeWith_eq_ok_iff P wrap _ der).2 ⟨rfl, nbits, _, hfrom, hsign s _⟩

/-- A bundle `SignatureBundle::create` made verifies. -/
theorem verify_create (hP : P.Inverts)
    (hsign : ∀ s m, P.ed25519Verify (P.ed25519PublicKey s) m (P.ed25519Sign s m) = true)
    {input : List UInt8} {s : S} {b : SignatureBundle} (h : SignatureBundle.create P input s = .ok b) :
    b.verify P = some (.ok ()) := by
  unfold SignatureBundle.create at h
  cases hder : encodePublicKeyDer P (P.ed25519PublicKey s) with
  | error err => rw [hder] at h; cases h
  | ok der =>
    rw [hder] at h
    cases h
    obtain ⟨nbits, hfrom⟩ := (decodePublicKeyDer_eq_ok_iff P).1 (decode_encode P hP hder)
    exact (SignatureBundle.verify_eq_ok_iff P _).2 ⟨nbits, _, hfrom, hsign s _⟩

/-- Stand-in primitives over one-byte key pairs: `to_der` writes a `SEQUENCE`
tag and the key of an Ed25519 `SubjectPublicKeyInfo` whose bit length is its
own, `from_der` reads such an encoding back and rejects every other input, the
hash is the length, and a signature is the key followed by the message, so
that it verifies under its own key only. -/
def toyKeyDer : Primitives UInt8 where
  fromDer
    | 0x30 :: keyBytes => some [publicKeyInfo keyBytes]
    | _ => none
  toDer
    | .sequence [.sequence [.objectIdentifier [1, 3, 101, 112]], .bitString nbits keyBytes] =>
      if nbits = keyBytes.length * 8 then some (0x30 :: keyBytes) else none
    | _ => none
  sha256 m := [m.length.toUInt8]
  ed25519PublicKey s := [s]
  ed25519Sign s m := s :: m
  ed25519Verify pk m sig := sig == pk ++ m

theorem toyKeyDer_inverts : toyKeyDer.Inverts := by
  intro block der h
  simp only [toyKeyDer] at h ⊢
  split at h
  · next nbits keyBytes =>
    split_ifs at h with hn
    cases h
    subst hn
    rfl
  · cases h

theorem toyKeyDer_verify_sign (s : UInt8) (m : List UInt8) :
    toyKeyDer.ed25519Verify (toyKeyDer.ed25519PublicKey s) m (toyKeyDer.ed25519Sign s m) = true := by
  simp [toyKeyDer]

/-- Key 7 signs `[1, 2, 3]`; the bundle verifies, and the same bundle with key
8's signature does not. -/
theorem verify_create_toy_key :
    SignatureBundle.create toyKeyDer [1, 2, 3] 7 = .ok ⟨[0x30, 7], [7, 3], [3]⟩ ∧
      (⟨[0x30, 7], [7, 3], [3]⟩ : SignatureBundle).verify toyKeyDer = some (.ok ()) ∧
      (⟨[0x30, 7], [8, 3], [3]⟩ : SignatureBundle).verify toyKeyDer = some (.error (.verificationFailed [3])) :=
  have hcreate : SignatureBundle.create toyKeyDer [1, 2, 3] 7 = .ok ⟨[0x30, 7], [7, 3], [3]⟩ := rfl
  ⟨hcreate, verify_create toyKeyDer toyKeyDer_inverts toyKeyDer_verify_sign hcreate, rfl⟩

/-- For every key the DER decoder rejects, `decode_public_key_der` panics
instead of returning an error, and so do both servers' checks of a signed
challenge carrying it, whatever its signature. -/
theorem decode_public_key_der_panics_on_rejected (d signedHash : List UInt8) (hd : P.fromDer d = none) :
    decodePublicKeyDer P d = none ∧ Http.verifySignedChallenge P ⟨signedHash, d⟩ = none ∧
      Grpc.verifySignedChallenge P ⟨signedHash, d⟩ = none :=
  ⟨(decodePublicKeyDer_eq_none_iff P).2 hd, (verifySignedChallengeWith_eq_none_iff P _ _).2 hd,
    (verifySignedChallengeWith_eq_none_iff P _ _).2 hd⟩

/-- Primitives whose `from_der` rejects an input shorter than a tag and a
length byte, which no DER encoding is, and reads any other as no block. -/
def truncatedDer : Primitives Unit where
  fromDer d := if d.length < 2 then none else some []
  toDer _ := none
  sha256 _ := []
  ed25519PublicKey _ := []
  ed25519Sign _ _ := []
  ed25519Verify _ _ _ := false

/-- A `SEQUENCE` tag without its length. -/
theorem decode_public_key_der_panics_on_truncated :
    truncatedDer.fromDer [0x30] = none ∧
      (decodePublicKeyDer truncatedDer [0x30] = none ∧ Http.verifySignedChallenge truncatedDer ⟨[], [0x30]⟩ = none ∧
        Grpc.verifySignedChallenge truncatedDer ⟨[], [0x30]⟩ = none) :=
  ⟨rfl, decode_public_key_der_panics_on_rejected truncatedDer [0x30] [] rfl⟩

/-! ### What the servers accept -/

/-- What a server needs of a challenge to return the identity `pk`: `pk` is
the challenge's key, which `from_der` reads as an Ed25519
`SubjectPublicKeyInfo` under whose key bytes the signature verifies over the
hash of `OAK_CHALLENGE`. -/
def ChallengeAccepted (c : SignedChallenge) (pk : List UInt8) : Prop :=
  pk = c.publicKey ∧ ∃ nbits keyBytes,
    P.fromDer c.publicKey = some [.sequence [ed25519Alg, .bitString nbits keyBytes]] ∧
    P.ed25519Verify keyBytes (P.sha256 oakChallenge) c.signedHash = true

theorem verify_signed_challenge_ok_iff (c : SignedChallenge) (pk : List UInt8) :
    (Http.verifySignedChallenge P c = some (.ok pk) ↔ ChallengeAccepted P c pk) ∧
      (Grpc.verifySignedChallenge P c = some (.ok pk) ↔ ChallengeAccepted P c pk) :=
  ⟨verifySignedChallengeWith_eq_ok_iff P _ c pk, verifySignedChallengeWith_eq_ok_iff P _ c pk⟩

/-- Both servers accept a challenge that a key pair signed over the hash of
`OAK_CHALLENGE` and that carries the key pair's encoded public key, and
return that key. -/
theorem signed_challenge_accepted_by_servers (hP : P.Inverts)
    (hsign : ∀ s m, P.ed25519Verify (P.ed25519PublicKey s) m (P.ed25519Sign s m) = true) (s : S)
    {der : List UInt8} (hder : encodePublicKeyDer P (P.ed25519PublicKey s) = .ok der) :
    Http.verifySignedChallenge P ⟨P.ed25519Sign s (P.sha256 oakChallenge), der⟩ = some (.ok der) ∧
      Grpc.verifySignedChallenge P ⟨P.ed25519Sign s (P.sha256 oakChallenge), der⟩ = some (.ok der) :=
  ⟨verifySignedChallengeWith_signed P hP hsign _ s hder, verifySignedChallengeWith_signed P hP hsign _ s hder⟩

/-- Key 7's signed challenge is accepted by both servers with its encoded key
as the identity; key 8's signature under key 7's encoding is refused. -/
theorem signed_challenge_accepted_toy_key :
    Http.verifySignedChallenge toyKeyDer ⟨toyKeyDer.ed25519Sign 7 (toyKeyDer.sha256 oakChallenge), [0x30, 7]⟩ =
        some (.ok [0x30, 7]) ∧
      Grpc.verifySignedChallenge toyKeyDer ⟨toyKeyDer.ed25519Sign 7 (toyKeyDer.sha256 oakChallenge), [0x30, 7]⟩ =
        some (.ok [0x30, 7]) ∧
      Grpc.verifySignedChallenge toyKeyDer ⟨toyKeyDer.ed25519Sign 8 (toyKeyDer.sha256 oakChallenge), [0x30, 7]⟩ =
        some (.error .invalidIdentity) :=
  have h := signed_challenge_accepted_by_servers toyKeyDer toyKeyDer_inverts toyKeyDer_verify_sign 7 rfl
  ⟨h.1, h.2, by decide +kernel⟩

/-- The challenge a request carries in exactly one challenge header, parsed:
a JSON one, or a protobuf one in base64. -/
def HeaderCodecs.Carries (json protobuf : Option (List (List UInt8))) (c : SignedChallenge) : Prop :=
  (∃ j, json = some [j] ∧ protobuf = none ∧ C.parseJsonSignedChallenge j = some c) ∨
    ∃ p bytes, json = none ∧ protobuf = some [p] ∧ C.base64Decode p = some bytes ∧
      C.decodeSignedChallenge bytes = some c

theorem verifyJsonChallenge_eq_ok_iff {j pk : List UInt8} :
    Http.verifyJsonChallenge P C j = some (.ok pk) ↔
      ∃ c, C.parseJsonSignedChallenge j = some c ∧ ChallengeAccepted P c pk := by
  unfold Http.verifyJsonChallenge
  cases hc : C.parseJsonSignedChallenge j with
  | none => simp
  | some c =>
    simp only [Option.some.injEq, exists_eq_left']
    exact verifySignedChallengeWith_eq_ok_iff P _ c pk

theorem verifyProtobufChallenge_eq_ok_iff {p pk : List UInt8} :
    Http.verifyProtobufChallenge P C p = some (.ok pk) ↔
      ∃ c bytes, C.base64Decode p = some bytes ∧ C.decodeSignedChallenge bytes = some c ∧
        ChallengeAccepted P c pk := by
  unfold Http.verifyProtobufChallenge
  cases hb : C.base64Decode p with
  | none => simp
  | some bytes =>
    cases hc : C.decodeSignedChallenge bytes with
    | none => simp [hc]
    | some c =>
      simp only [hc, Option.some.injEq, exists_eq_left']
      exact verifySignedChallengeWith_eq_ok_iff P _ c pk

/-- `get_user_identity` gives an identity only to a request without a
challenge, which gets the empty one, or to a request with exactly one
challenge header whose challenge a server accepts with that identity. -/
theorem get_user_identity_ok_iff (json protobuf : Option (List (List UInt8))) (pk : List UInt8) :
    Http.getUserIdentity P C json protobuf = some (.ok pk) ↔
      (json = none ∧ protobuf = none ∧ pk = []) ∨
        ∃ c, C.Carries json protobuf c ∧ ChallengeAccepted P c pk := by
  unfold Http.getUserIdentity
  split
  · rw [verifyJsonChallenge_eq_ok_iff]
    simp [HeaderCodecs.Carries]
  · rw [verifyProtobufChallenge_eq_ok_iff]
    simp [HeaderCodecs.Carries]
    constructor
    · rintro ⟨c, bytes, hb, hc, ha⟩
      exact ⟨c, ⟨bytes, hb, hc⟩, ha⟩
    · rintro ⟨c, ⟨bytes, hb, hc⟩, ha⟩
      exact ⟨c, bytes, hb, hc, ha⟩
  · simp [HeaderCodecs.Carries, eq_comm]
  · next hj hp hn =>
    -- two headers, or a header without exactly one value: refused
    refine iff_of_false (by simp) ?_
    rintro (⟨h₁, h₂, -⟩ | ⟨c, ⟨j, h₁, h₂, -⟩ | ⟨p, bytes, h₁, h₂, -⟩, -⟩)
    · exact hn h₁ h₂
    · exact hj j h₁ h₂
    · exact hp p h₁ h₂

end Oak.Sign
