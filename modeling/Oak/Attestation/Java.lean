import Oak.Attestation.Honest

/-! The Java client of remote_attestation/java: `Message`'s serializers over
`DataOutputStream` and `DataInputStream`, `KeyNegotiator`, `SignatureVerifier`
and `ClientHandshaker`, over the same primitives as the Rust side. A Java
message holds byte arrays of any length; a fixed-size field is written as
given when it has its size, as zeros when it is empty, and refused otherwise.

On the bytes of a Rust message the two sides agree: Java writes a message
exactly as bincode does, and reads back what bincode wrote. On the attestation
info they do not: Java always expects the report's data to be the hash of the
signing key's hash followed by the additional info's hash, while Rust puts the
signing key's hash alone there when the additional info is empty. With
additional info the two hash alike, and the handshake completes with mirrored
keys. -/

namespace Oak.Attestation.Java

open Oak.Lib

variable {K S : Type}

/-- `EPHEMERAL_PUBLIC_KEY_LENGTH`. -/
def ephemeralPublicKeyLength : ℕ := 32

/-- `TRANSCRIPT_SIGNATURE_LENGTH`. -/
def transcriptSignatureLength : ℕ := 64

/-- `SIGNING_PUBLIC_KEY_LENGTH`. -/
def signingPublicKeyLength : ℕ := 65

/-- `ARRAY_SERIALIZATION_PREFIX_LENGTH`. -/
def arraySerializationPrefixLength : ℕ := 8

/-! ### Messages -/

/-- `Message.ClientHello`. -/
structure ClientHello where
  random : List UInt8

/-- `Message.ServerIdentity`; the header and the version are constants. -/
structure ServerIdentity where
  ephemeralPublicKey : List UInt8
  random : List UInt8
  transcriptSignature : List UInt8
  signingPublicKey : List UInt8
  attestationInfo : List UInt8
  additionalInfo : List UInt8

/-- `Message.ClientIdentity`; the header is a constant. -/
structure ClientIdentity where
  ephemeralPublicKey : List UInt8
  transcriptSignature : List UInt8
  signingPublicKey : List UInt8
  attestationInfo : List UInt8

/-- `Message.writeFixedSizeArray`: an empty value is written as zeros. -/
def writeFixedSizeArray (value : List UInt8) (size : ℕ) (name : String) : Except String (List UInt8) :=
  if size > 0 then
    if value.length = 0 ∨ value.length = size then
      .ok (if value.length = 0 then List.replicate size 0 else value)
    else
      .error ("Incorrect " ++ name ++ " size, expected " ++ toString size ++ ", found " ++
        toString value.length)
  else .ok []

/-- `Message.writeVariableSizeArray`: the length as a little-endian `long`,
then the value. -/
def writeVariableSizeArray (value : List UInt8) (name : String) : Except String (List UInt8) := do
  let outputSizeBytes := writeU64 (UInt64.ofNat value.length)
  let sizeBytes ← writeFixedSizeArray outputSizeBytes arraySerializationPrefixLength (name ++ " size")
  let valueBytes ← writeFixedSizeArray value value.length name
  pure (sizeBytes ++ valueBytes)

/-- `Message.ClientHello.serialize`. -/
def ClientHello.serialize (m : ClientHello) : Except String (List UInt8) := do
  let random ← writeFixedSizeArray m.random replayProtectionArrayLength "random value"
  pure (clientHelloHeader :: random)

/-- `Message.ServerIdentity.serialize`. -/
def ServerIdentity.serialize (m : ServerIdentity) : Except String (List UInt8) := do
  let ephemeralPublicKey ←
    writeFixedSizeArray m.ephemeralPublicKey ephemeralPublicKeyLength "ephemeral public key"
  let random ← writeFixedSizeArray m.random replayProtectionArrayLength "random value"
  let transcriptSignature ←
    writeFixedSizeArray m.transcriptSignature transcriptSignatureLength "transcript signature"
  let signingPublicKey ← writeFixedSizeArray m.signingPublicKey signingPublicKeyLength "signing public key"
  let attestationInfo ← writeVariableSizeArray m.attestationInfo "attestation info"
  let additionalInfo ← writeVariableSizeArray m.additionalInfo "additional info"
  pure (serverIdentityHeader :: protocolVersion :: (ephemeralPublicKey ++ random ++ transcriptSignature ++
    signingPublicKey ++ attestationInfo ++ additionalInfo))

/-- `Message.ClientIdentity.serialize`. -/
def ClientIdentity.serialize (m : ClientIdentity) : Except String (List UInt8) := do
  let ephemeralPublicKey ←
    writeFixedSizeArray m.ephemeralPublicKey ephemeralPublicKeyLength "ephemeral public key"
  let transcriptSignature ←
    writeFixedSizeArray m.transcriptSignature transcriptSignatureLength "transcript signature"
  let signingPublicKey ← writeFixedSizeArray m.signingPublicKey signingPublicKeyLength "signing public key"
  let attestationInfo ← writeVariableSizeArray m.attestationInfo "attestation info"
  pure (clientIdentityHeader :: (ephemeralPublicKey ++ transcriptSignature ++ signingPublicKey ++
    attestationInfo))

/-- A `DataInputStream` over a byte array: the bytes not read yet. -/
abbrev Reader := StateT (List UInt8) (Except String)

/-- `DataInputStream.readByte`, which throws `EOFException` at the end. -/
def readByte : Reader UInt8 := fun bs =>
  match bs with
  | b :: rest => .ok (b, rest)
  | [] => .error "EOFException"

/-- `Message.readFixedSizeArray`. -/
def readFixedSizeArray (size : ℕ) (name : String) : Reader (List UInt8) := fun bs =>
  if size ≤ bs.length then .ok (bs.take size, bs.drop size)
  else .error ("Couldn't read " ++ name ++ " from input stream")

/-- `ByteBuffer.getInt` in little-endian order: the first four bytes as a
signed 32-bit number. -/
def getInt (bs : List UInt8) : ℤ :=
  let n := ofLE (bs.take 4)
  if n < 2 ^ 31 then n else n - 2 ^ 32

/-- `Message.readVariableSizeArray`: the size is read from the first four of
the prefix's eight bytes; a negative one fails to allocate. -/
def readVariableSizeArray (name : String) : Reader (List UInt8) := do
  let sizeBytes ← readFixedSizeArray arraySerializationPrefixLength (name ++ " size")
  let size := getInt sizeBytes
  if size < 0 then throw "NegativeArraySizeException"
  readFixedSizeArray size.toNat name

/-- The body of `Message.ServerIdentity.deserialize`; the bytes after the last
field are not looked at. -/
def ServerIdentity.read : Reader ServerIdentity := do
  let header ← readByte
  if header ≠ serverIdentityHeader then throw "Incorrect server identity message header"
  let version ← readByte
  if version ≠ protocolVersion then throw "Incorrect remote attestation protocol version"
  let ephemeralPublicKey ← readFixedSizeArray ephemeralPublicKeyLength "ephemeral public key"
  let random ← readFixedSizeArray replayProtectionArrayLength "random value"
  let transcriptSignature ← readFixedSizeArray transcriptSignatureLength "transcript signature"
  let signingPublicKey ← readFixedSizeArray signingPublicKeyLength "signing key"
  let attestationInfo ← readVariableSizeArray "attestation info"
  let additionalInfo ← readVariableSizeArray "additional info"
  pure ⟨ephemeralPublicKey, random, transcriptSignature, signingPublicKey, attestationInfo, additionalInfo⟩

/-- `Message.ServerIdentity.deserialize`. -/
def ServerIdentity.deserialize (input : List UInt8) : Except String ServerIdentity :=
  ServerIdentity.read.run' input

/-! ### Keys and signatures -/

/-- `KeyNegotiator`, created with the private key `X25519.generatePrivateKey` drew. -/
structure KeyNegotiator (K : Type) where
  privateKey : K

/-- `KeyNegotiator.EncryptorType`. -/
inductive EncryptorType
  | server
  | client

section Negotiation

variable (P : Primitives K S)

/-- `KeyNegotiator.getPublicKey`. -/
def KeyNegotiator.getPublicKey (kn : KeyNegotiator K) : List UInt8 :=
  (P.x25519PublicKey kn.privateKey).toList

/-- `KeyNegotiator.keyDerivationFunction`: HKDF over the purpose, then the two
public keys in the order given. -/
def KeyNegotiator.keyDerivationFunction (keyMaterial : List UInt8) (keyPurpose firstPublicKey secondPublicKey : List UInt8) :
    List.Vector UInt8 aeadAlgorithmKeyLength :=
  P.hkdfSha256 keyDerivationSalt keyMaterial (keyPurpose ++ firstPublicKey ++ secondPublicKey)

/-- `KeyNegotiator.createEncryptor`; `X25519.computeSharedSecret` throws on a
key that is not 32 bytes long or gives no secret. -/
def KeyNegotiator.createEncryptor (kn : KeyNegotiator K) (peerPublicKey : List UInt8)
    (encryptorType : EncryptorType) : Except String AeadEncryptor :=
  if h : peerPublicKey.length = keyAgreementAlgorithmKeyLength then
    match P.x25519Agree kn.privateKey ⟨peerPublicKey, h⟩ with
    | none => .error "InvalidKeyException"
    | some keyMaterial =>
      let selfPublicKey := kn.getPublicKey P
      match encryptorType with
      -- on the server side the server's key is its own
      | .server =>
        .ok ⟨KeyNegotiator.keyDerivationFunction P keyMaterial.toList serverKeyPurpose selfPublicKey peerPublicKey,
          KeyNegotiator.keyDerivationFunction P keyMaterial.toList clientKeyPurpose selfPublicKey peerPublicKey⟩
      -- on the client side the server's key is the peer's
      | .client =>
        .ok ⟨KeyNegotiator.keyDerivationFunction P keyMaterial.toList clientKeyPurpose peerPublicKey selfPublicKey,
          KeyNegotiator.keyDerivationFunction P keyMaterial.toList serverKeyPurpose peerPublicKey selfPublicKey⟩
  else .error "InvalidKeyException"

/-- `new SignatureVerifier(publicKey).verify(input, signature)`: the
constructor throws on a key that is not an uncompressed point of 65 bytes, and
`verify` answers `false` on a signature that does not parse. -/
def SignatureVerifier.verify (publicKey input signature : List UInt8) : Except String Bool :=
  if hk : publicKey.length = signingAlgorithmKeyLength then
    if hs : signature.length = signatureLength then
      .ok (P.ecdsaVerify ⟨publicKey, hk⟩ input ⟨signature, hs⟩)
    else .ok false
  else .error "GeneralSecurityException"

end Negotiation

/-! ### The client handshaker -/

/-- `ClientHandshaker.State`. -/
inductive State
  | initializing
  | expectingServerIdentity
  | completed
  | aborted
  deriving DecidableEq

/-- `ClientHandshaker`. -/
structure ClientHandshaker (K : Type) where
  expectedTeeMeasurement : List UInt8
  state : State
  transcript : List UInt8
  keyNegotiator : KeyNegotiator K
  encryptor : Option AeadEncryptor

/-- A method of the Java client: it returns or throws, and leaves the
handshaker as it changed it. -/
abbrev ClientMethod (K : Type) := ExceptT String (StateM (ClientHandshaker K))

/-- `new ClientHandshaker(expectedTeeMeasurement)`, with the private key its
negotiator drew. -/
def ClientHandshaker.new (expectedTeeMeasurement : List UInt8) (privateKey : K) : ClientHandshaker K :=
  ⟨expectedTeeMeasurement, .initializing, [], ⟨privateKey⟩, none⟩

/-- `ClientHandshaker.appendTranscript`. -/
def ClientHandshaker.appendTranscript (serializedMessage : List UInt8) : ClientMethod K Unit :=
  modify fun h => { h with transcript := h.transcript ++ serializedMessage }

/-- `ClientHandshaker.createClientHello`, with the array `Random.nextBytes` filled. -/
def ClientHandshaker.createClientHello (random : List.Vector UInt8 replayProtectionArrayLength) :
    ClientMethod K (List UInt8) :=
  tryCatch
    (do
      if (← get).state ≠ .initializing then
        throw "ClientHandshaker is not in the INITIALIZING state"
      let clientHello : ClientHello := ⟨random.toList⟩
      let serializedClientHello ← clientHello.serialize
      ClientHandshaker.appendTranscript serializedClientHello
      modify fun h => { h with state := .expectingServerIdentity }
      pure serializedClientHello)
    fun e => do
      modify fun h => { h with state := .aborted }
      throw e

section Client

variable (P : Primitives K S)

/-- `ClientHandshaker.verifyAttestationInfo`: the report's data must be the
hash of the signing key's hash followed by the additional info's hash, and its
measurement the one expected. A missing report reads as the default one. -/
def ClientHandshaker.verifyAttestationInfo (expectedTeeMeasurement : List UInt8)
    (serverIdentity : ServerIdentity) : Except String Bool := do
  let additionalInfo := serverIdentity.additionalInfo
  let attestationInfo ← context (P.decodeAttestationInfo serverIdentity.attestationInfo)
    "InvalidProtocolBufferException"
  let attestationReportData := (attestationInfo.report.map AttestationReport.data).getD []
  let publicKeyHash := (P.sha256 serverIdentity.signingPublicKey).toList
  let configHash := (P.sha256 additionalInfo).toList
  let buffer := publicKeyHash ++ configHash
  let hashBytes := (P.sha256 buffer).toList
  if hashBytes ≠ attestationReportData then pure false
  else pure (expectedTeeMeasurement = (attestationInfo.report.map AttestationReport.measurement).getD [])

/-- `ClientHandshaker.processServerIdentity`. -/
def ClientHandshaker.processServerIdentity (serializedServerIdentity : List UInt8) :
    ClientMethod K (List UInt8) :=
  tryCatch
    (do
      if (← get).state ≠ .expectingServerIdentity then
        throw "ClientHandshaker is not in the EXPECTING_SERVER_IDENTITY state"
      let serverIdentity ← ServerIdentity.deserialize serializedServerIdentity
      -- the constructor leaves the transcript signature empty
      let serverIdentityNoSignature : ServerIdentity := { serverIdentity with transcriptSignature := [] }
      let serializedServerIdentityNoSignature ← serverIdentityNoSignature.serialize
      ClientHandshaker.appendTranscript serializedServerIdentityNoSignature
      let transcriptHash := (P.sha256 (← get).transcript).toList
      unless ← SignatureVerifier.verify P serverIdentity.signingPublicKey transcriptHash
          serverIdentity.transcriptSignature do
        throw "Couldn't verify server transcript signature"
      unless ← ClientHandshaker.verifyAttestationInfo P (← get).expectedTeeMeasurement serverIdentity do
        throw "Couldn't verify attestation info"
      let clientIdentity : ClientIdentity := ⟨(← get).keyNegotiator.getPublicKey P, [], [], []⟩
      let serializedClientIdentity ← clientIdentity.serialize
      modify fun h => { h with transcript := h.transcript ++ serializedClientIdentity }
      let encryptor ← (← get).keyNegotiator.createEncryptor P serverIdentity.ephemeralPublicKey .client
      modify fun h => { h with encryptor := some encryptor, state := .completed }
      pure serializedClientIdentity)
    fun e => do
      modify fun h => { h with state := .aborted }
      throw e

end Client

/-! ### Java writes and reads what bincode writes -/

section Agreement

theorem writeFixedSizeArray_of_length {value : List UInt8} {size : ℕ} (h : value.length = size)
    (hpos : 0 < size) (name : String) : writeFixedSizeArray value size name = .ok value := by
  have hne : value.length ≠ 0 := by omega
  rw [writeFixedSizeArray, if_pos hpos, if_pos (Or.inr h), if_neg hne]

theorem writeFixedSizeArray_nil {size : ℕ} (hpos : 0 < size) (name : String) :
    writeFixedSizeArray [] size name = .ok (List.replicate size 0) := by
  rw [writeFixedSizeArray, if_pos hpos, List.length_nil, if_pos (Or.inl rfl), if_pos rfl]

theorem writeFixedSizeArray_self (value : List UInt8) (name : String) :
    writeFixedSizeArray value value.length name = .ok value := by
  cases value with
  | nil => rfl
  | cons b bs => exact writeFixedSizeArray_of_length rfl (by simp) name

theorem writeVariableSizeArray_eq (value : List UInt8) (name : String) :
    writeVariableSizeArray value name = .ok (putVec value) := by
  have hsize : writeFixedSizeArray (writeU64 (UInt64.ofNat value.length)) arraySerializationPrefixLength
      (name ++ " size") = .ok (writeU64 (UInt64.ofNat value.length)) :=
    writeFixedSizeArray_of_length (length_writeU64 _) (by decide) _
  simp only [writeVariableSizeArray, hsize, writeFixedSizeArray_self]
  rfl

theorem ClientHello.serialize_eq (random : List.Vector UInt8 replayProtectionArrayLength) :
    (⟨random.toList⟩ : ClientHello).serialize = .ok (Oak.Attestation.ClientHello.mk random).serialize := by
  simp only [ClientHello.serialize, writeFixedSizeArray_of_length random.toList_length (by decide)]
  rfl

/-- The Java message with the fields of a Rust one. -/
def ServerIdentity.ofRust (m : Oak.Attestation.ServerIdentity) : ServerIdentity :=
  ⟨m.ephemeralPublicKey.toList, m.random.toList, m.transcriptSignature.toList, m.signingPublicKey.toList,
    m.attestationInfo, m.additionalInfo⟩

theorem ServerIdentity.serialize_ofRust (m : Oak.Attestation.ServerIdentity) :
    (ServerIdentity.ofRust m).serialize = .ok m.serialize := by
  have h₁ : writeFixedSizeArray m.ephemeralPublicKey.toList ephemeralPublicKeyLength "ephemeral public key" =
      .ok m.ephemeralPublicKey.toList := writeFixedSizeArray_of_length m.ephemeralPublicKey.toList_length (by decide) _
  have h₂ : writeFixedSizeArray m.random.toList replayProtectionArrayLength "random value" =
      .ok m.random.toList := writeFixedSizeArray_of_length m.random.toList_length (by decide) _
  have h₃ : writeFixedSizeArray m.transcriptSignature.toList transcriptSignatureLength "transcript signature" =
      .ok m.transcriptSignature.toList :=
    writeFixedSizeArray_of_length m.transcriptSignature.toList_length (by decide) _
  have h₄ : writeFixedSizeArray m.signingPublicKey.toList signingPublicKeyLength "signing public key" =
      .ok m.signingPublicKey.toList := writeFixedSizeArray_of_length m.signingPublicKey.toList_length (by decide) _
  simp only [ServerIdentity.serialize, ServerIdentity.ofRust, h₁, h₂, h₃, h₄, writeVariableSizeArray_eq]
  rfl

theorem ServerIdentity.serialize_noSignature (m : Oak.Attestation.ServerIdentity) :
    (⟨m.ephemeralPublicKey.toList, m.random.toList, [], m.signingPublicKey.toList, m.attestationInfo,
      m.additionalInfo⟩ : ServerIdentity).serialize = .ok m.clearTranscriptSignature.serialize := by
  have hnil : writeFixedSizeArray [] transcriptSignatureLength "transcript signature" =
      .ok (zeros signatureLength).toList := writeFixedSizeArray_nil (by decide) _
  have hzeros : writeFixedSizeArray (zeros signatureLength).toList transcriptSignatureLength
      "transcript signature" = .ok (zeros signatureLength).toList :=
    writeFixedSizeArray_of_length (List.Vector.toList_length _) (by decide) _
  rw [← ServerIdentity.serialize_ofRust]
  simp only [ServerIdentity.serialize, ServerIdentity.ofRust, Oak.Attestation.ServerIdentity.clearTranscriptSignature,
    hnil, hzeros]

@[simp] theorem readByte_cons (b : UInt8) (rest : List UInt8) : readByte.run (b :: rest) = .ok (b, rest) :=
  rfl

theorem readFixedSizeArray_append {l : List UInt8} {size : ℕ} (h : l.length = size) (name : String)
    (rest : List UInt8) : (readFixedSizeArray size name).run (l ++ rest) = .ok (l, rest) := by
  subst h
  simp [readFixedSizeArray, StateT.run]

theorem getInt_writeU64 {n : ℕ} (h : n < 2 ^ 31) : getInt (writeU64 (UInt64.ofNat n)) = n := by
  have hn : (UInt64.ofNat n).toNat = n := by
    rw [UInt64.toNat_ofNat']
    omega
  have htake : (writeU64 (UInt64.ofNat n)).take 4 = toLE 4 n := by
    rw [writeU64, hn, show (8 : ℕ) = 4 + 4 from rfl, toLE_add, List.take_left' (length_toLE 4 n)]
  have hle : ofLE (toLE 4 n) = n := by
    rw [ofLE_toLE, Nat.mod_eq_of_lt (by omega)]
  simp only [getInt, htake, hle, if_pos h]

theorem readVariableSizeArray_putVec {v : List UInt8} (hv : v.length < 2 ^ 31) (name : String)
    (rest : List UInt8) : (readVariableSizeArray name).run (putVec v ++ rest) = .ok (v, rest) := by
  have hprefix : (readFixedSizeArray arraySerializationPrefixLength (name ++ " size")).run
      (writeU64 (UInt64.ofNat v.length) ++ (v ++ rest)) = .ok (writeU64 (UInt64.ofNat v.length), v ++ rest) :=
    readFixedSizeArray_append (length_writeU64 _) _ _
  have hsize : ¬((v.length : ℤ) < 0) := by omega
  rw [putVec, List.append_assoc]
  simp only [readVariableSizeArray, StateT.run_bind, hprefix, Except.ok_bind, getInt_writeU64 hv, if_neg hsize,
    Int.toNat_natCast]
  exact readFixedSizeArray_append rfl name rest

theorem ServerIdentity.deserialize_serialize (m : Oak.Attestation.ServerIdentity)
    (h₁ : m.attestationInfo.length < 2 ^ 31) (h₂ : m.additionalInfo.length < 2 ^ 31) :
    ServerIdentity.deserialize m.serialize = .ok (ServerIdentity.ofRust m) := by
  have e₁ (rest : List UInt8) : (readFixedSizeArray ephemeralPublicKeyLength "ephemeral public key").run
      (m.ephemeralPublicKey.toList ++ rest) = .ok (m.ephemeralPublicKey.toList, rest) :=
    readFixedSizeArray_append m.ephemeralPublicKey.toList_length _ _
  have e₂ (rest : List UInt8) : (readFixedSizeArray replayProtectionArrayLength "random value").run
      (m.random.toList ++ rest) = .ok (m.random.toList, rest) :=
    readFixedSizeArray_append m.random.toList_length _ _
  have e₃ (rest : List UInt8) : (readFixedSizeArray transcriptSignatureLength "transcript signature").run
      (m.transcriptSignature.toList ++ rest) = .ok (m.transcriptSignature.toList, rest) :=
    readFixedSizeArray_append m.transcriptSignature.toList_length _ _
  have e₄ (rest : List UInt8) : (readFixedSizeArray signingPublicKeyLength "signing key").run
      (m.signingPublicKey.toList ++ rest) = .ok (m.signingPublicKey.toList, rest) :=
    readFixedSizeArray_append m.signingPublicKey.toList_length _ _
  -- the last array is read to the end of the input
  have e₆ : (readVariableSizeArray "additional info").run (putVec m.additionalInfo) =
      .ok (m.additionalInfo, []) := by
    simpa using readVariableSizeArray_putVec h₂ "additional info" []
  rw [ServerIdentity.deserialize, StateT.run'_eq]
  simp only [ServerIdentity.read, Oak.Attestation.ServerIdentity.serialize, StateT.run_bind, readByte_cons, List.append_assoc, e₁, e₂, e₃, e₄,
    readVariableSizeArray_putVec h₁, e₆, Except.ok_bind, ne_eq, not_true_eq_false, if_false]
  rfl

theorem ClientIdentity.serialize_unattested (ephemeralPublicKey : List.Vector UInt8 keyAgreementAlgorithmKeyLength) :
    (⟨ephemeralPublicKey.toList, [], [], []⟩ : ClientIdentity).serialize =
      .ok (Oak.Attestation.ClientIdentity.new ephemeralPublicKey (zeros signingAlgorithmKeyLength) []).serialize := by
  have h₁ : writeFixedSizeArray ephemeralPublicKey.toList ephemeralPublicKeyLength "ephemeral public key" =
      .ok ephemeralPublicKey.toList := writeFixedSizeArray_of_length ephemeralPublicKey.toList_length (by decide) _
  have h₂ : writeFixedSizeArray [] transcriptSignatureLength "transcript signature" =
      .ok (zeros signatureLength).toList := writeFixedSizeArray_nil (by decide) _
  have h₃ : writeFixedSizeArray [] signingPublicKeyLength "signing public key" =
      .ok (zeros signingAlgorithmKeyLength).toList := writeFixedSizeArray_nil (by decide) _
  simp only [ClientIdentity.serialize, h₁, h₂, h₃, writeVariableSizeArray_eq]
  rfl

end Agreement

/-! ### The Java client against a Rust server -/

section Run

variable (P : Primitives K S)

theorem SignatureVerifier.verify_toList (publicKey : List.Vector UInt8 signingAlgorithmKeyLength)
    (input : List UInt8) (signature : List.Vector UInt8 signatureLength) :
    SignatureVerifier.verify P publicKey.toList input signature.toList =
      .ok (P.ecdsaVerify publicKey input signature) := by
  rw [SignatureVerifier.verify, dif_pos publicKey.toList_length, dif_pos signature.toList_length]
  rfl

theorem KeyNegotiator.createEncryptor_client (privateKey : K)
    (peerPublicKey : List.Vector UInt8 keyAgreementAlgorithmKeyLength) {e : AeadEncryptor}
    (he : Oak.Attestation.KeyNegotiator.createEncryptor P ⟨.client, privateKey⟩ peerPublicKey = .ok e) :
    KeyNegotiator.createEncryptor P ⟨privateKey⟩ peerPublicKey.toList .client = .ok e := by
  have hvec : (⟨peerPublicKey.toList, peerPublicKey.toList_length⟩ :
      List.Vector UInt8 keyAgreementAlgorithmKeyLength) = peerPublicKey := rfl
  rw [KeyNegotiator.createEncryptor, dif_pos peerPublicKey.toList_length, hvec]
  simp only [Oak.Attestation.KeyNegotiator.createEncryptor, Oak.Attestation.KeyNegotiator.deriveSessionKeys] at he
  cases hk : P.x25519Agree privateKey peerPublicKey with
  | none => simp [hk] at he
  | some keyMaterial =>
    simp only [hk, Except.ok_bind] at he
    rw [← Except.ok.inj he]
    rfl

theorem ClientHandshaker.exec_createClientHello_new (expectedTeeMeasurement : List UInt8) (privateKey : K)
    (random : List.Vector UInt8 replayProtectionArrayLength) :
    exec (ClientHandshaker.createClientHello random) (ClientHandshaker.new expectedTeeMeasurement privateKey) =
      (.ok (Oak.Attestation.ClientHello.mk random).serialize,
        { ClientHandshaker.new expectedTeeMeasurement privateKey with
          transcript := (Oak.Attestation.ClientHello.mk random).serialize, state := .expectingServerIdentity }) := by
  simp [ClientHandshaker.createClientHello, ClientHandshaker.new, ClientHandshaker.appendTranscript,
    exec_tryCatch_modify, exec_bind, exec_map, ClientHello.serialize_eq]

variable {h : ClientHandshaker K}

/-- A Rust server identity whose signature verifies over the Java client's
transcript, and whose attestation info Java's check refuses: the client
aborts. -/
theorem ClientHandshaker.exec_processServerIdentity_of_refused (hs : h.state = .expectingServerIdentity)
    {m : Oak.Attestation.ServerIdentity} (h₁ : m.attestationInfo.length < 2 ^ 31)
    (h₂ : m.additionalInfo.length < 2 ^ 31)
    (hv : P.ecdsaVerify m.signingPublicKey (P.sha256 (h.transcript ++ m.clearTranscriptSignature.serialize)).toList
      m.transcriptSignature = true)
    (hatt : ClientHandshaker.verifyAttestationInfo P h.expectedTeeMeasurement (ServerIdentity.ofRust m) = .ok false) :
    exec (ClientHandshaker.processServerIdentity P m.serialize) h =
      (.error "Couldn't verify attestation info",
        { h with transcript := h.transcript ++ m.clearTranscriptSignature.serialize, state := .aborted }) := by
  have hsv := SignatureVerifier.verify_toList P m.signingPublicKey
    (P.sha256 (h.transcript ++ m.clearTranscriptSignature.serialize)).toList m.transcriptSignature
  rw [hv] at hsv
  unfold ServerIdentity.ofRust at hatt
  simp [ClientHandshaker.processServerIdentity, ClientHandshaker.appendTranscript, exec_tryCatch_modify, exec_bind,
    hs, ServerIdentity.deserialize_serialize m h₁ h₂, ServerIdentity.ofRust,
    ServerIdentity.serialize_noSignature, hsv, hatt]

/-- A Rust server identity whose signature verifies over the Java client's
transcript and whose info Java accepts: the client sends the identity of a client
that does not attest itself, derives its keys, and completes. -/
theorem ClientHandshaker.exec_processServerIdentity_of_accepted (hs : h.state = .expectingServerIdentity)
    {m : Oak.Attestation.ServerIdentity} (h₁ : m.attestationInfo.length < 2 ^ 31)
    (h₂ : m.additionalInfo.length < 2 ^ 31)
    (hv : P.ecdsaVerify m.signingPublicKey (P.sha256 (h.transcript ++ m.clearTranscriptSignature.serialize)).toList
      m.transcriptSignature = true)
    (hatt : ClientHandshaker.verifyAttestationInfo P h.expectedTeeMeasurement (ServerIdentity.ofRust m) = .ok true)
    {e : AeadEncryptor} (he : h.keyNegotiator.createEncryptor P m.ephemeralPublicKey.toList .client = .ok e) :
    let ci := (Oak.Attestation.ClientIdentity.new (P.x25519PublicKey h.keyNegotiator.privateKey)
      (zeros signingAlgorithmKeyLength) []).serialize
    exec (ClientHandshaker.processServerIdentity P m.serialize) h =
      (.ok ci, { h with transcript := h.transcript ++ m.clearTranscriptSignature.serialize ++ ci,
                        encryptor := some e, state := .completed }) := by
  have hsv := SignatureVerifier.verify_toList P m.signingPublicKey
    (P.sha256 (h.transcript ++ m.clearTranscriptSignature.serialize)).toList m.transcriptSignature
  rw [hv] at hsv
  unfold ServerIdentity.ofRust at hatt
  simp [ClientHandshaker.processServerIdentity, ClientHandshaker.appendTranscript, exec_tryCatch_modify, exec_bind,
    hs, ServerIdentity.deserialize_serialize m h₁ h₂, ServerIdentity.ofRust,
    ServerIdentity.serialize_noSignature, hsv, hatt, KeyNegotiator.getPublicKey, ClientIdentity.serialize_unattested, he,
    exec_map, exec_modify]

variable {P}

/-- Java's check of the attestation info Rust makes with no additional info:
the report holds the signing key's hash, which Java compares with the hash of
that hash followed by the hash of nothing. -/
theorem ClientHandshaker.verifyAttestationInfo_createAttestationInfo_nil (hP : P.Honest) (sg : S)
    (teeCertificate expectedTeeMeasurement : List UInt8) {m : ServerIdentity}
    (hspk : m.signingPublicKey = (P.ecdsaPublicKey sg).toList)
    (hinfo : m.attestationInfo = createAttestationInfo P sg [] teeCertificate) (hadd : m.additionalInfo = [])
    (hcol : (P.sha256 ((P.sha256 (P.ecdsaPublicKey sg).toList).toList ++ (P.sha256 []).toList)).toList ≠
      (P.sha256 (P.ecdsaPublicKey sg).toList).toList) :
    ClientHandshaker.verifyAttestationInfo P expectedTeeMeasurement m = .ok false := by
  simp [ClientHandshaker.verifyAttestationInfo, hspk, hinfo, hadd, createAttestationInfo, hP.decode_encode,
    AttestationReport.new, hcol, pure, Except.pure]

theorem ClientHandshaker.verifyAttestationInfo_createAttestationInfo_of_ne_nil (hP : P.Honest) (sg : S)
    {additionalInfo : List UInt8} (ha : additionalInfo ≠ []) (teeCertificate expectedTeeMeasurement : List UInt8)
    {m : ServerIdentity} (hspk : m.signingPublicKey = (P.ecdsaPublicKey sg).toList)
    (hinfo : m.attestationInfo = createAttestationInfo P sg additionalInfo teeCertificate)
    (hadd : m.additionalInfo = additionalInfo) :
    ClientHandshaker.verifyAttestationInfo P expectedTeeMeasurement m =
      .ok (decide (expectedTeeMeasurement = testTeeMeasurement)) := by
  simp [ClientHandshaker.verifyAttestationInfo, hspk, hinfo, hadd, createAttestationInfo, hP.decode_encode,
    AttestationReport.new, ha, pure, Except.pure]

end Run

theorem java_client_refuses_server_without_additional_info {P : Primitives K S} (hP : P.Honest)
    {teeCertificate : List UInt8} {sg : S} (hfit : teeCertificate.length ≤ 752)
    (hcol : (P.sha256 ((P.sha256 (P.ecdsaPublicKey sg).toList).toList ++ (P.sha256 []).toList)).toList ≠
      (P.sha256 (P.ecdsaPublicKey sg).toList).toList)
    (expectedTeeMeasurement : List UInt8) (kc : K) (random : List.Vector UInt8 replayProtectionArrayLength)
    (ks : K) (rs : List.Vector UInt8 replayProtectionArrayLength) :
    ∃ (hello identity : List UInt8) (c₁ c₂ : ClientHandshaker K) (s₁ : ServerHandshaker K S),
      exec (ClientHandshaker.createClientHello random) (ClientHandshaker.new expectedTeeMeasurement kc) =
        (.ok hello, c₁) ∧
      exec (ServerHandshaker.nextStep P ks rs hello)
          (ServerHandshaker.new (AttestationBehavior.createSelfAttestation teeCertificate sg) []) =
        (.ok (some identity), s₁) ∧
      exec (ClientHandshaker.processServerIdentity P identity) c₁ = (.error "Couldn't verify attestation info", c₂) ∧
      c₂.state = .aborted := by
  have h1 := ClientHandshaker.exec_createClientHello_new expectedTeeMeasurement kc random
  -- the Rust server answers the Java hello with its signed identity
  have h2 := ServerHandshaker.exec_nextStep_clientHello P
    (h := ServerHandshaker.new (AttestationBehavior.createSelfAttestation teeCertificate sg) []) rfl ks rs ⟨random⟩
  rw [ServerHandshaker.exec_processClientHello_of_self P rfl rfl ks rs ⟨random⟩ rfl] at h2
  refine ⟨_, _, _, _, _, h1, h2, ClientHandshaker.exec_processServerIdentity_of_refused P rfl ?_ ?_ ?_
    (ClientHandshaker.verifyAttestationInfo_createAttestationInfo_nil hP sg teeCertificate _ rfl rfl rfl hcol), rfl⟩
  · -- the certificate keeps the info far below 2³¹ bytes
    have hcert := length_bytesField_le (by decide : 2 * 8 + 2 < 128) (b := teeCertificate) (by omega)
    simp only [Oak.Attestation.ServerIdentity.setTranscriptSignature, Oak.Attestation.ServerIdentity.new,
      length_createAttestationInfo]
    omega
  · simp [Oak.Attestation.ServerIdentity.setTranscriptSignature, Oak.Attestation.ServerIdentity.new,
      ServerHandshaker.new]
  · -- Java's transcript is the one the server signed
    rw [Oak.Attestation.ServerIdentity.clear_setTranscriptSignature, Oak.Attestation.ServerIdentity.clear_new]
    exact hP.verify_sign sg _

theorem java_client_refuses_server_without_additional_info_toy :
    toyPrimitives.Honest ∧ ([] : List UInt8).length ≤ 752 ∧
      (toyPrimitives.sha256 ((toyPrimitives.sha256 (toyPrimitives.ecdsaPublicKey 3).toList).toList ++
        (toyPrimitives.sha256 []).toList)).toList ≠ (toyPrimitives.sha256 (toyPrimitives.ecdsaPublicKey 3).toList).toList ∧
      ∃ (hello identity : List UInt8) (c₁ c₂ : ClientHandshaker UInt8) (s₁ : ServerHandshaker UInt8 UInt8),
        exec (ClientHandshaker.createClientHello toyDraws.clientRandom)
            (ClientHandshaker.new testTeeMeasurement toyDraws.clientKey) = (.ok hello, c₁) ∧
        exec (ServerHandshaker.nextStep toyPrimitives toyDraws.serverKey toyDraws.serverRandom hello)
            (ServerHandshaker.new (AttestationBehavior.createSelfAttestation [] 3) []) = (.ok (some identity), s₁) ∧
        exec (ClientHandshaker.processServerIdentity toyPrimitives identity) c₁ =
          (.error "Couldn't verify attestation info", c₂) ∧
        c₂.state = .aborted := by
  -- the stand-in digests of 65 and of 64 bytes differ in their length byte
  have hcol : (toyPrimitives.sha256 ((toyPrimitives.sha256 (toyPrimitives.ecdsaPublicKey 3).toList).toList ++
      (toyPrimitives.sha256 []).toList)).toList ≠ (toyPrimitives.sha256 (toyPrimitives.ecdsaPublicKey 3).toList).toList := by
    decide
  exact ⟨toyPrimitives_honest, by decide, hcol,
    java_client_refuses_server_without_additional_info toyPrimitives_honest (by decide : ([] : List UInt8).length ≤ 752)
      hcol testTeeMeasurement toyDraws.clientKey toyDraws.clientRandom toyDraws.serverKey toyDraws.serverRandom⟩

/-- With additional info the Java client and the Rust server complete the
handshake: Java accepts the server's identity, the transcript Java keeps is the
server's followed by the identity Java sends, which Rust accepts in turn, and the
two sides' keys are mirrored. -/
theorem java_client_completes_with_additional_info {P : Primitives K S} (hP : P.Honest)
    {teeCertificate additionalInfo : List UInt8} {sg : S} (hfit : teeCertificate.length ≤ 752)
    (hne : additionalInfo ≠ []) (hlen : additionalInfo.length < 2 ^ 31) (kc : K)
    (random : List.Vector UInt8 replayProtectionArrayLength) (ks : K) (rs : List.Vector UInt8 replayProtectionArrayLength)
    (ks' : K) (rs' : List.Vector UInt8 replayProtectionArrayLength) :
    ∃ (hello identity clientIdentity : List UInt8) (c₁ c₂ : ClientHandshaker K) (s₁ s₂ : ServerHandshaker K S)
      (e : AeadEncryptor),
      exec (ClientHandshaker.createClientHello random) (ClientHandshaker.new testTeeMeasurement kc) = (.ok hello, c₁) ∧
      exec (ServerHandshaker.nextStep P ks rs hello)
          (ServerHandshaker.new (AttestationBehavior.createSelfAttestation teeCertificate sg) additionalInfo) =
        (.ok (some identity), s₁) ∧
      exec (ClientHandshaker.processServerIdentity P identity) c₁ = (.ok clientIdentity, c₂) ∧
      exec (ServerHandshaker.nextStep P ks' rs' clientIdentity) s₁ = (.ok none, s₂) ∧
      c₂.state = .completed ∧ c₂.transcript = s₁.transcript.value ++ clientIdentity ∧
      c₂.encryptor = some e ∧ s₂.state = .completed ⟨e.decryptionKey, e.encryptionKey⟩ := by
  let si := Oak.Attestation.ServerIdentity.new (P.x25519PublicKey ks) rs (P.ecdsaPublicKey sg)
    (createAttestationInfo P sg additionalInfo teeCertificate) additionalInfo
  let s₀ : ServerHandshaker K S := ServerHandshaker.new (AttestationBehavior.createSelfAttestation teeCertificate sg)
    additionalInfo
  let s₁ : ServerHandshaker K S := { s₀ with
    transcript := (s₀.transcript.append (Oak.Attestation.ClientHello.mk random).serialize).append si.serialize,
    state := .expectingClientIdentity ⟨.server, ks⟩ }
  have h1 := ClientHandshaker.exec_createClientHello_new testTeeMeasurement kc random
  have h2 := ServerHandshaker.exec_nextStep_clientHello P (h := s₀) rfl ks rs ⟨random⟩
  rw [ServerHandshaker.exec_processClientHello_of_self P rfl rfl ks rs ⟨random⟩ rfl] at h2
  have hinfo : (createAttestationInfo P sg additionalInfo teeCertificate).length < 2 ^ 31 := by
    have hcert := length_bytesField_le (by decide : 2 * 8 + 2 < 128) (b := teeCertificate) (by omega)
    rw [length_createAttestationInfo]
    omega
  -- the keys the two sides derive are mirrored
  obtain ⟨e, hce, hse⟩ := createEncryptor_mirrored hP kc ks
  -- Rust takes the identity of a client that does not attest itself
  have hsize : (Oak.Attestation.ClientIdentity.new (P.x25519PublicKey kc) (zeros signingAlgorithmKeyLength)
      []).serialize.length ≤ maximumMessageSize := by
    simp [Oak.Attestation.ClientIdentity.length_serialize, Oak.Attestation.ClientIdentity.new, maximumMessageSize]
  obtain ⟨s₂, e', h4, hs₂, he'⟩ := ServerHandshaker.answer_clientIdentity hP s₁ rfl (fun _ h => by cases h) hsize rfl
    (fun h => by cases h) ks' rs'
  obtain rfl : e' = ⟨e.decryptionKey, e.encryptionKey⟩ := Except.ok.inj (he'.symm.trans hse)
  refine ⟨_, _, _, _, _, s₁, s₂, e, h1, h2,
    ClientHandshaker.exec_processServerIdentity_of_accepted P rfl ?_ ?_ ?_ ?_ (KeyNegotiator.createEncryptor_client P kc _ hce),
    h4, rfl, ?_, rfl, hs₂⟩
  · simpa [Oak.Attestation.ServerIdentity.setTranscriptSignature, Oak.Attestation.ServerIdentity.new, s₀,
      ServerHandshaker.new] using hinfo
  · simpa [Oak.Attestation.ServerIdentity.setTranscriptSignature, Oak.Attestation.ServerIdentity.new, s₀,
      ServerHandshaker.new] using hlen
  · -- Java's transcript is the one the server signed
    rw [Oak.Attestation.ServerIdentity.clear_setTranscriptSignature, Oak.Attestation.ServerIdentity.clear_new]
    exact hP.verify_sign sg _
  · -- with additional info both sides hash the same report data
    simpa [s₀, ServerHandshaker.new, ClientHandshaker.new] using
      ClientHandshaker.verifyAttestationInfo_createAttestationInfo_of_ne_nil hP sg hne teeCertificate
        testTeeMeasurement rfl rfl rfl
  · simp [s₁, s₀, si, ServerHandshaker.new, Transcript.append]

theorem java_client_completes_with_additional_info_toy :
    toyPrimitives.Honest ∧ ([] : List UInt8).length ≤ 752 ∧ ([1] : List UInt8) ≠ [] ∧
      ([1] : List UInt8).length < 2 ^ 31 ∧
      ∃ (hello identity clientIdentity : List UInt8) (c₁ c₂ : ClientHandshaker UInt8)
        (s₁ s₂ : ServerHandshaker UInt8 UInt8) (e : AeadEncryptor),
        exec (ClientHandshaker.createClientHello toyDraws.clientRandom)
            (ClientHandshaker.new testTeeMeasurement toyDraws.clientKey) = (.ok hello, c₁) ∧
        exec (ServerHandshaker.nextStep toyPrimitives toyDraws.serverKey toyDraws.serverRandom hello)
            (ServerHandshaker.new (AttestationBehavior.createSelfAttestation [] 3) [1]) = (.ok (some identity), s₁) ∧
        exec (ClientHandshaker.processServerIdentity toyPrimitives identity) c₁ = (.ok clientIdentity, c₂) ∧
        exec (ServerHandshaker.nextStep toyPrimitives 7 toyDraws.serverRandom clientIdentity) s₁ = (.ok none, s₂) ∧
        c₂.state = .completed ∧ c₂.transcript = s₁.transcript.value ++ clientIdentity ∧
        c₂.encryptor = some e ∧ s₂.state = .completed ⟨e.decryptionKey, e.encryptionKey⟩ :=
  ⟨toyPrimitives_honest, by decide, by decide, by decide,
    java_client_completes_with_additional_info toyPrimitives_honest (by decide) (by decide) (by decide)
      toyDraws.clientKey toyDraws.clientRandom toyDraws.serverKey toyDraws.serverRandom 7 toyDraws.serverRandom⟩

end Oak.Attestation.Java
