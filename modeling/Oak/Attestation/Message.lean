import Oak.Lib.Bincode

/-! The messages of the remote attestation handshake (remote_attestation/rust/
src/message.rs): `ClientHello`, `ServerIdentity`, `ClientIdentity` and
`EncryptedData`, serialized with bincode. Each handshake message is refused
when it is over `MAXIMUM_MESSAGE_SIZE` bytes or carries the wrong header; a
`ServerIdentity` also when it has the wrong protocol version.

A message's `header` is private and always its own constant: `new` sets it
and `deserialize` checks it. The model leaves it out of the structures and
writes the constant. The same holds for the `version` of a `ServerIdentity`. -/

namespace Oak.Attestation

open Oak.Lib

/-! ### Sizes (message.rs, and crypto.rs for the lengths of keys) -/

/-- `MAXIMUM_MESSAGE_SIZE`. -/
def maximumMessageSize : ℕ := 1024

/-- `CLIENT_HELLO_HEADER`. -/
def clientHelloHeader : UInt8 := 1

/-- `SERVER_IDENTITY_HEADER`. -/
def serverIdentityHeader : UInt8 := 2

/-- `CLIENT_IDENTITY_HEADER`. -/
def clientIdentityHeader : UInt8 := 3

/-- `ENCRYPTED_DATA_HEADER`. -/
def encryptedDataHeader : UInt8 := 4

/-- `PROTOCOL_VERSION`. -/
def protocolVersion : UInt8 := 1

/-- `REPLAY_PROTECTION_ARRAY_LENGTH`. -/
def replayProtectionArrayLength : ℕ := 32

/-- `NONCE_LENGTH`: the 96-bit nonces of `ring::aead`. -/
def nonceLength : ℕ := 12

/-- `SHA256_HASH_LENGTH`. -/
def sha256HashLength : ℕ := 32

/-- `KEY_AGREEMENT_ALGORITHM_KEY_LENGTH`. -/
def keyAgreementAlgorithmKeyLength : ℕ := 32

/-- `AEAD_ALGORITHM_KEY_LENGTH`. -/
def aeadAlgorithmKeyLength : ℕ := 32

/-- `SIGNING_ALGORITHM_KEY_LENGTH`. -/
def signingAlgorithmKeyLength : ℕ := 65

/-- `SIGNATURE_LENGTH`. -/
def signatureLength : ℕ := 64

/-- `[Default::default(); n]`. -/
def zeros (n : ℕ) : List.Vector UInt8 n := List.Vector.replicate n 0

/-! ### Messages -/

/-- `ClientHello`. -/
structure ClientHello where
  random : List.Vector UInt8 replayProtectionArrayLength
  deriving DecidableEq

/-- `ServerIdentity`. -/
structure ServerIdentity where
  ephemeralPublicKey : List.Vector UInt8 keyAgreementAlgorithmKeyLength
  random : List.Vector UInt8 replayProtectionArrayLength
  transcriptSignature : List.Vector UInt8 signatureLength
  signingPublicKey : List.Vector UInt8 signingAlgorithmKeyLength
  attestationInfo : List UInt8
  additionalInfo : List UInt8
  deriving DecidableEq

/-- `ClientIdentity`. -/
structure ClientIdentity where
  ephemeralPublicKey : List.Vector UInt8 keyAgreementAlgorithmKeyLength
  transcriptSignature : List.Vector UInt8 signatureLength
  signingPublicKey : List.Vector UInt8 signingAlgorithmKeyLength
  attestationInfo : List UInt8
  deriving DecidableEq

/-- `EncryptedData`. -/
structure EncryptedData where
  nonce : List.Vector UInt8 nonceLength
  data : List UInt8
  deriving DecidableEq

/-- `MessageWrapper`. -/
inductive MessageWrapper
  | clientHello (message : ClientHello)
  | serverIdentity (message : ServerIdentity)
  | clientIdentity (message : ClientIdentity)
  | encryptedData (message : EncryptedData)
  deriving DecidableEq

/-- `ServerIdentity::new`: the transcript signature starts as zeros. -/
def ServerIdentity.new (ephemeralPublicKey : List.Vector UInt8 keyAgreementAlgorithmKeyLength)
    (random : List.Vector UInt8 replayProtectionArrayLength)
    (signingPublicKey : List.Vector UInt8 signingAlgorithmKeyLength)
    (attestationInfo additionalInfo : List UInt8) : ServerIdentity :=
  ⟨ephemeralPublicKey, random, zeros signatureLength, signingPublicKey, attestationInfo,
    additionalInfo⟩

/-- `ServerIdentity::clear_transcript_signature`. -/
def ServerIdentity.clearTranscriptSignature (m : ServerIdentity) : ServerIdentity :=
  { m with transcriptSignature := zeros signatureLength }

/-- `ServerIdentity::set_transcript_signature`. -/
def ServerIdentity.setTranscriptSignature (m : ServerIdentity)
    (transcriptSignature : List.Vector UInt8 signatureLength) : ServerIdentity :=
  { m with transcriptSignature }

/-- `ClientIdentity::new`. -/
def ClientIdentity.new (ephemeralPublicKey : List.Vector UInt8 keyAgreementAlgorithmKeyLength)
    (signingPublicKey : List.Vector UInt8 signingAlgorithmKeyLength)
    (attestationInfo : List UInt8) : ClientIdentity :=
  ⟨ephemeralPublicKey, zeros signatureLength, signingPublicKey, attestationInfo⟩

/-- `ClientIdentity::clear_transcript_signature`. -/
def ClientIdentity.clearTranscriptSignature (m : ClientIdentity) : ClientIdentity :=
  { m with transcriptSignature := zeros signatureLength }

/-- `ClientIdentity::set_transcript_signature`. -/
def ClientIdentity.setTranscriptSignature (m : ClientIdentity)
    (transcriptSignature : List.Vector UInt8 signatureLength) : ClientIdentity :=
  { m with transcriptSignature }

@[simp] theorem ServerIdentity.clear_setTranscriptSignature (m : ServerIdentity) (s) :
    (m.setTranscriptSignature s).clearTranscriptSignature = m.clearTranscriptSignature := rfl

@[simp] theorem ServerIdentity.clear_new (epk random spk att add) :
    (ServerIdentity.new epk random spk att add).clearTranscriptSignature =
      ServerIdentity.new epk random spk att add := rfl

@[simp] theorem ClientIdentity.clear_setTranscriptSignature (m : ClientIdentity) (s) :
    (m.setTranscriptSignature s).clearTranscriptSignature = m.clearTranscriptSignature := rfl

@[simp] theorem ClientIdentity.clear_new (epk spk att) :
    (ClientIdentity.new epk spk att).clearTranscriptSignature = ClientIdentity.new epk spk att := rfl

/-! ### Serialization -/

/-- `bincode::serialize` of a `ClientHello`. -/
def ClientHello.serialize (m : ClientHello) : List UInt8 :=
  clientHelloHeader :: m.random.toList

/-- `bincode::serialize` of a `ServerIdentity`. -/
def ServerIdentity.serialize (m : ServerIdentity) : List UInt8 :=
  serverIdentityHeader :: protocolVersion :: (m.ephemeralPublicKey.toList ++ m.random.toList ++
    m.transcriptSignature.toList ++ m.signingPublicKey.toList ++ putVec m.attestationInfo ++
    putVec m.additionalInfo)

/-- `bincode::serialize` of a `ClientIdentity`. -/
def ClientIdentity.serialize (m : ClientIdentity) : List UInt8 :=
  clientIdentityHeader :: (m.ephemeralPublicKey.toList ++ m.transcriptSignature.toList ++
    m.signingPublicKey.toList ++ putVec m.attestationInfo)

/-- `bincode::serialize` of an `EncryptedData`. -/
def EncryptedData.serialize (m : EncryptedData) : List UInt8 :=
  encryptedDataHeader :: (m.nonce.toList ++ putVec m.data)

/-! ### Deserialization

bincode reads the fields in order and ignores the bytes after the last one.
Each decoder returns the header byte, and the version, beside the message. -/

/-- `bincode::deserialize` into a `ClientHello`. -/
def ClientHello.decode (bs : List UInt8) : Option (UInt8 × ClientHello) := do
  let (header, bs) ← getU8 bs
  let (random, _) ← getArray replayProtectionArrayLength bs
  pure (header, ⟨random⟩)

/-- `bincode::deserialize` into a `ServerIdentity`. -/
def ServerIdentity.decode (bs : List UInt8) : Option (UInt8 × UInt8 × ServerIdentity) := do
  let (header, bs) ← getU8 bs
  let (version, bs) ← getU8 bs
  let (ephemeralPublicKey, bs) ← getArray keyAgreementAlgorithmKeyLength bs
  let (random, bs) ← getArray replayProtectionArrayLength bs
  let (transcriptSignature, bs) ← getArray signatureLength bs
  let (signingPublicKey, bs) ← getArray signingAlgorithmKeyLength bs
  let (attestationInfo, bs) ← getVec bs
  let (additionalInfo, _) ← getVec bs
  pure (header, version, ⟨ephemeralPublicKey, random, transcriptSignature, signingPublicKey,
    attestationInfo, additionalInfo⟩)

/-- `bincode::deserialize` into a `ClientIdentity`. -/
def ClientIdentity.decode (bs : List UInt8) : Option (UInt8 × ClientIdentity) := do
  let (header, bs) ← getU8 bs
  let (ephemeralPublicKey, bs) ← getArray keyAgreementAlgorithmKeyLength bs
  let (transcriptSignature, bs) ← getArray signatureLength bs
  let (signingPublicKey, bs) ← getArray signingAlgorithmKeyLength bs
  let (attestationInfo, _) ← getVec bs
  pure (header, ⟨ephemeralPublicKey, transcriptSignature, signingPublicKey, attestationInfo⟩)

/-- `bincode::deserialize` into an `EncryptedData`. -/
def EncryptedData.decode (bs : List UInt8) : Option (UInt8 × EncryptedData) := do
  let (header, bs) ← getU8 bs
  let (nonce, bs) ← getArray nonceLength bs
  let (data, _) ← getVec bs
  pure (header, ⟨nonce, data⟩)

/-- The error for a handshake message over `MAXIMUM_MESSAGE_SIZE`. -/
def sizeExceeded (input : List UInt8) : String :=
  "Maximum handshake message size of 1024 exceeded, found " ++ toString input.length

/-- `ClientHello::deserialize`. -/
def ClientHello.deserialize (input : List UInt8) : Except String ClientHello :=
  if input.length ≤ maximumMessageSize then
    match ClientHello.decode input with
    | none => .error "Couldn't deserialize client hello message"
    | some (header, message) =>
      if header = clientHelloHeader then .ok message
      else .error "Incorrect client hello message header"
  else .error (sizeExceeded input)

/-- `ServerIdentity::deserialize`. -/
def ServerIdentity.deserialize (input : List UInt8) : Except String ServerIdentity :=
  if input.length ≤ maximumMessageSize then
    match ServerIdentity.decode input with
    | none => .error "Couldn't deserialize server identity message"
    | some (header, version, message) =>
      if header ≠ serverIdentityHeader then .error "Incorrect server identity message header"
      else if version ≠ protocolVersion then .error "Incorrect remote attestation protocol version"
      else .ok message
  else .error (sizeExceeded input)

/-- `ClientIdentity::deserialize`. -/
def ClientIdentity.deserialize (input : List UInt8) : Except String ClientIdentity :=
  if input.length ≤ maximumMessageSize then
    match ClientIdentity.decode input with
    | none => .error "Couldn't deserialize client identity message"
    | some (header, message) =>
      if header = clientIdentityHeader then .ok message
      else .error "Incorrect client identity message header"
  else .error (sizeExceeded input)

/-- `EncryptedData::deserialize`: no size limit. -/
def EncryptedData.deserialize (input : List UInt8) : Except String EncryptedData :=
  match EncryptedData.decode input with
  | none => .error "Couldn't deserialize encrypted data message"
  | some (header, message) =>
    if header = encryptedDataHeader then .ok message
    else .error "Incorrect encrypted data message header"

/-- `deserialize_message`: the first byte chooses the message. -/
def deserializeMessage (input : List UInt8) : Except String MessageWrapper :=
  match input with
  | [] => .error "Empty input"
  | header :: _ =>
    if header = clientHelloHeader then MessageWrapper.clientHello <$> ClientHello.deserialize input
    else if header = serverIdentityHeader then
      MessageWrapper.serverIdentity <$> ServerIdentity.deserialize input
    else if header = clientIdentityHeader then
      MessageWrapper.clientIdentity <$> ClientIdentity.deserialize input
    else if header = encryptedDataHeader then
      MessageWrapper.encryptedData <$> EncryptedData.deserialize input
    else .error ("Unknown message header: " ++ toString header)

/-! ### Sizes of serialized messages -/

@[simp] theorem ClientHello.length_serialize (m : ClientHello) : m.serialize.length = 33 := by
  simp only [ClientHello.serialize, List.length_cons, List.Vector.toList_length]
  rfl

theorem ServerIdentity.length_serialize (m : ServerIdentity) :
    m.serialize.length = 211 + m.attestationInfo.length + m.additionalInfo.length := by
  simp only [ServerIdentity.serialize, List.length_cons, List.length_append, List.Vector.toList_length,
    length_putVec]
  simp only [keyAgreementAlgorithmKeyLength, replayProtectionArrayLength, signatureLength,
    signingAlgorithmKeyLength]
  omega

theorem ClientIdentity.length_serialize (m : ClientIdentity) :
    m.serialize.length = 170 + m.attestationInfo.length := by
  simp only [ClientIdentity.serialize, List.length_cons, List.length_append, List.Vector.toList_length,
    length_putVec]
  simp only [keyAgreementAlgorithmKeyLength, signatureLength, signingAlgorithmKeyLength]
  omega

/-! ### Deserialization inverts serialization -/

theorem ClientHello.decode_serialize (m : ClientHello) :
    ClientHello.decode m.serialize = some (clientHelloHeader, m) := by
  have h := getArray_append m.random []
  rw [List.append_nil] at h
  simp only [ClientHello.decode, ClientHello.serialize, getU8_cons, Option.bind_eq_bind,
    Option.bind_some, h]
  rfl

theorem ServerIdentity.decode_serialize (m : ServerIdentity) (hsize : m.serialize.length < 2 ^ 64) :
    ServerIdentity.decode m.serialize = some (serverIdentityHeader, protocolVersion, m) := by
  have hlen := m.length_serialize
  have ha : m.attestationInfo.length < 2 ^ 64 := by omega
  have hb : m.additionalInfo.length < 2 ^ 64 := by omega
  have hvec := getVec_putVec_append m.additionalInfo hb []
  rw [List.append_nil] at hvec
  simp only [ServerIdentity.decode, ServerIdentity.serialize, getU8_cons, Option.bind_eq_bind,
    Option.bind_some, List.append_assoc, getArray_append, getVec_putVec_append _ ha, hvec]
  rfl

theorem ClientIdentity.decode_serialize (m : ClientIdentity) (hsize : m.serialize.length < 2 ^ 64) :
    ClientIdentity.decode m.serialize = some (clientIdentityHeader, m) := by
  have hlen := m.length_serialize
  have hvec := getVec_putVec_append m.attestationInfo (by omega) []
  rw [List.append_nil] at hvec
  simp only [ClientIdentity.decode, ClientIdentity.serialize, getU8_cons, Option.bind_eq_bind,
    Option.bind_some, List.append_assoc, getArray_append, hvec]
  rfl

theorem EncryptedData.decode_serialize (m : EncryptedData) (hsize : m.data.length < 2 ^ 64) :
    EncryptedData.decode m.serialize = some (encryptedDataHeader, m) := by
  have hvec := getVec_putVec_append m.data hsize []
  rw [List.append_nil] at hvec
  simp only [EncryptedData.decode, EncryptedData.serialize, getU8_cons, Option.bind_eq_bind,
    Option.bind_some, getArray_append, hvec]
  rfl

@[simp] theorem deserializeMessage_clientHello (m : ClientHello) :
    deserializeMessage m.serialize = .ok (.clientHello m) := by
  have hsize : m.serialize.length ≤ maximumMessageSize := by
    rw [ClientHello.length_serialize]
    decide
  rw [ClientHello.serialize, deserializeMessage, if_pos rfl, ← ClientHello.serialize,
    ClientHello.deserialize, if_pos hsize, ClientHello.decode_serialize]
  rfl

theorem deserializeMessage_serverIdentity (m : ServerIdentity)
    (hsize : m.serialize.length ≤ maximumMessageSize) :
    deserializeMessage m.serialize = .ok (.serverIdentity m) := by
  have hdec := ServerIdentity.decode_serialize m (by unfold maximumMessageSize at hsize; omega)
  rw [ServerIdentity.serialize, deserializeMessage, if_neg (by decide), if_pos rfl,
    ← ServerIdentity.serialize, ServerIdentity.deserialize, if_pos hsize, hdec]
  rfl

theorem deserializeMessage_clientIdentity (m : ClientIdentity)
    (hsize : m.serialize.length ≤ maximumMessageSize) :
    deserializeMessage m.serialize = .ok (.clientIdentity m) := by
  have hdec := ClientIdentity.decode_serialize m (by unfold maximumMessageSize at hsize; omega)
  rw [ClientIdentity.serialize, deserializeMessage, if_neg (by decide), if_neg (by decide),
    if_pos rfl, ← ClientIdentity.serialize, ClientIdentity.deserialize, if_pos hsize, hdec]
  rfl

theorem deserializeMessage_encryptedData (m : EncryptedData) (hsize : m.data.length < 2 ^ 64) :
    deserializeMessage m.serialize = .ok (.encryptedData m) := by
  rw [EncryptedData.serialize, deserializeMessage, if_neg (by decide), if_neg (by decide),
    if_neg (by decide), if_pos rfl, ← EncryptedData.serialize, EncryptedData.deserialize,
    EncryptedData.decode_serialize m hsize]
  rfl

theorem ServerIdentity.deserialize_of_large {input : List UInt8}
    (h : maximumMessageSize < input.length) :
    ServerIdentity.deserialize input = .error (sizeExceeded input) := by
  rw [ServerIdentity.deserialize, if_neg (by omega)]

theorem ClientIdentity.deserialize_of_large {input : List UInt8}
    (h : maximumMessageSize < input.length) :
    ClientIdentity.deserialize input = .error (sizeExceeded input) := by
  rw [ClientIdentity.deserialize, if_neg (by omega)]

theorem deserializeMessage_serverIdentity_of_large (m : ServerIdentity)
    (h : maximumMessageSize < m.serialize.length) :
    deserializeMessage m.serialize = .error (sizeExceeded m.serialize) := by
  rw [ServerIdentity.serialize, deserializeMessage, if_neg (by decide), if_pos rfl,
    ← ServerIdentity.serialize, ServerIdentity.deserialize_of_large h]
  rfl

theorem deserializeMessage_clientIdentity_of_large (m : ClientIdentity)
    (h : maximumMessageSize < m.serialize.length) :
    deserializeMessage m.serialize = .error (sizeExceeded m.serialize) := by
  rw [ClientIdentity.serialize, deserializeMessage, if_neg (by decide), if_neg (by decide),
    if_pos rfl, ← ClientIdentity.serialize, ClientIdentity.deserialize_of_large h]
  rfl

/-! ### What a serialization determines -/

theorem ClientHello.serialize_injective {m m' : ClientHello} (h : m.serialize = m'.serialize) : m = m' := by
  obtain ⟨r⟩ := m
  obtain ⟨r'⟩ := m'
  rw [ClientHello.serialize, ClientHello.serialize, List.cons_inj_right] at h
  exact congrArg ClientHello.mk (List.Vector.eq _ _ h)

theorem ServerIdentity.ephemeralPublicKey_random_of_serialize {m m' : ServerIdentity}
    (h : m.serialize = m'.serialize) :
    m.ephemeralPublicKey = m'.ephemeralPublicKey ∧ m.random = m'.random := by
  simp only [ServerIdentity.serialize, List.cons_inj_right, List.append_assoc] at h
  obtain ⟨hk, h⟩ := List.append_inj h (by simp)
  obtain ⟨hr, -⟩ := List.append_inj h (by simp)
  exact ⟨List.Vector.eq _ _ hk, List.Vector.eq _ _ hr⟩

end Oak.Attestation
