import Oak.Attestation.Crypto

/-! The handshakers of remote_attestation/rust/src/handshaker.rs. The client
sends a `ClientHello`, the server answers with a `ServerIdentity`, the client
answers with a `ClientIdentity`, and each side then derives an encryptor.
Each side keeps a transcript of the messages it has seen; a side that attests
itself signs its transcript, and a side that attests its peer checks the
peer's signature over its own transcript and the peer's attestation info.

The methods take `&mut self` and return a `Result`; they are computations of
`ExceptT String (StateM _)` over the handshaker, so that what a method changed
before failing stays changed. The randomness a method draws (a private key,
a random array) is its argument. The texts of errors are those the code
raises; the contexts anyhow adds to an error on its way out are left out. -/

namespace Oak.Attestation

open Oak.Lib

variable {K S : Type}

/-! ### Behaviour and transcript -/

/-- `AttestationBehavior`, holding the signer `Signer::create` made. -/
structure AttestationBehavior (S : Type) where
  expectedTeeMeasurement : Option (List UInt8)
  teeCertificate : Option (List UInt8)
  signer : Option S

/-- `AttestationBehavior::create_peer_attestation`. -/
def AttestationBehavior.createPeerAttestation (expectedTeeMeasurement : List UInt8) :
    AttestationBehavior S :=
  ⟨some expectedTeeMeasurement, none, none⟩

/-- `AttestationBehavior::create_self_attestation`. -/
def AttestationBehavior.createSelfAttestation (teeCertificate : List UInt8) (signer : S) :
    AttestationBehavior S :=
  ⟨none, some teeCertificate, some signer⟩

/-- `AttestationBehavior::create_bidirectional_attestation`. -/
def AttestationBehavior.createBidirectionalAttestation (teeCertificate expectedTeeMeasurement : List UInt8)
    (signer : S) : AttestationBehavior S :=
  ⟨some expectedTeeMeasurement, some teeCertificate, some signer⟩

/-- `AttestationBehavior::contains_peer_attestation`. -/
def AttestationBehavior.containsPeerAttestation (b : AttestationBehavior S) : Bool :=
  b.expectedTeeMeasurement.isSome

/-- `AttestationBehavior::contains_self_attestation`. -/
def AttestationBehavior.containsSelfAttestation (b : AttestationBehavior S) : Bool :=
  b.teeCertificate.isSome && b.signer.isSome

/-- `Transcript`: the messages sent and received, serialized one after another. -/
structure Transcript where
  value : List UInt8

/-- `Transcript::append`, given the message's serialization. -/
def Transcript.append (t : Transcript) (bytes : List UInt8) : Transcript := ⟨t.value ++ bytes⟩

/-! ### Attestation info -/

section Info

variable (P : Primitives K S)

/-- `Transcript::get_sha256`. -/
def Transcript.getSha256 (t : Transcript) : List.Vector UInt8 sha256HashLength := P.sha256 t.value

/-- `create_attestation_info`: a report whose data is the hash of the signing
key, or, when there is additional info, the hash of that hash followed by the
hash of the additional info. -/
def createAttestationInfo (signer : S) (additionalInfo teeCertificate : List UInt8) : List UInt8 :=
  let signingPublicKey := P.ecdsaPublicKey signer
  let data := (P.sha256 signingPublicKey.toList).toList
  let data := if additionalInfo ≠ [] then (P.sha256 (data ++ (P.sha256 additionalInfo).toList)).toList
    else data
  AttestationInfo.encode ⟨some (AttestationReport.new data), teeCertificate⟩

/-- `verify_attestation_info`: the info decodes, holds a report with data, and
the report's measurement is the one expected. -/
def verifyAttestationInfo (attestationInfoBytes expectedTeeMeasurement : List UInt8) :
    Except String Unit := do
  let attestationInfo ← context (P.decodeAttestationInfo attestationInfoBytes)
    "Couldn't decode attestation info Protobuf message"
  let report ← context attestationInfo.report "Couldn't find report in peer attestation info"
  if report.data = [] then throw "Hash of the public key and additional info is not provided."
  if expectedTeeMeasurement = report.measurement then pure () else throw "Incorrect TEE measurement"

end Info

/-! ### States -/

/-- `ClientHandshakerState`. -/
inductive ClientHandshakerState (K : Type)
  | initializing
  | expectingServerIdentity (keyNegotiator : KeyNegotiator K)
  | completed (encryptor : AeadEncryptor)
  | aborted
  | messageProcessing

/-- `ServerHandshakerState`. -/
inductive ServerHandshakerState (K : Type)
  | expectingClientHello
  | expectingClientIdentity (keyNegotiator : KeyNegotiator K)
  | completed (encryptor : AeadEncryptor)
  | aborted
  | messageProcessing

/-- The `Debug` text of a client state. -/
def ClientHandshakerState.name : ClientHandshakerState K → String
  | .initializing => "Initializing"
  | .expectingServerIdentity _ => "ExpectingServerIdentity"
  | .completed _ => "Completed"
  | .aborted => "Aborted"
  | .messageProcessing => "MessageProcessing"

/-- The `Debug` text of a server state. -/
def ServerHandshakerState.name : ServerHandshakerState K → String
  | .expectingClientHello => "ExpectingClientHello"
  | .expectingClientIdentity _ => "ExpectingClientIdentity"
  | .completed _ => "Completed"
  | .aborted => "Aborted"
  | .messageProcessing => "MessageProcessing"

/-- The `Debug` text of a message. -/
def MessageWrapper.name : MessageWrapper → String
  | .clientHello _ => "ClientHello"
  | .serverIdentity _ => "ServerIdentity"
  | .clientIdentity _ => "ClientIdentity"
  | .encryptedData _ => "EncryptedData"

/-- `ClientHandshaker`. -/
structure ClientHandshaker (K S : Type) where
  behavior : AttestationBehavior S
  state : ClientHandshakerState K
  transcript : Transcript
  serverVerifier : ServerIdentity → Except String Unit

/-- `ServerHandshaker`. -/
structure ServerHandshaker (K S : Type) where
  behavior : AttestationBehavior S
  state : ServerHandshakerState K
  transcript : Transcript
  additionalInfo : List UInt8

/-- A method of the client handshaker. -/
abbrev ClientMethod (K S : Type) := ExceptT String (StateM (ClientHandshaker K S))

/-- A method of the server handshaker. -/
abbrev ServerMethod (K S : Type) := ExceptT String (StateM (ServerHandshaker K S))

/-- `ClientHandshaker::new`. -/
def ClientHandshaker.new (behavior : AttestationBehavior S)
    (serverVerifier : ServerIdentity → Except String Unit) : ClientHandshaker K S :=
  ⟨behavior, .initializing, ⟨[]⟩, serverVerifier⟩

/-- `ServerHandshaker::new`. -/
def ServerHandshaker.new (behavior : AttestationBehavior S) (additionalInfo : List UInt8) :
    ServerHandshaker K S :=
  ⟨behavior, .expectingClientHello, ⟨[]⟩, additionalInfo⟩

/-- `Encryptor`. -/
structure Encryptor where
  encryptor : AeadEncryptor

/-- `ClientHandshaker::get_encryptor`. -/
def ClientHandshaker.getEncryptor (h : ClientHandshaker K S) : Except String Encryptor :=
  match h.state with
  | .completed encryptor => .ok ⟨encryptor⟩
  | _ => .error "Handshake is not complete"

/-- `ServerHandshaker::get_encryptor`. -/
def ServerHandshaker.getEncryptor (h : ServerHandshaker K S) : Except String Encryptor :=
  match h.state with
  | .completed encryptor => .ok ⟨encryptor⟩
  | _ => .error "Handshake is not complete"

/-! ### The client -/

section Client

variable (P : Primitives K S)

/-- `ClientHandshaker::create_client_hello_util`, with the private key of the
key negotiator and the random array it draws. -/
def ClientHandshaker.createClientHelloUtil (privateKey : K)
    (random : List.Vector UInt8 replayProtectionArrayLength) : ClientMethod K S (List UInt8) := do
  match (← get).state with
  | .initializing =>
    let keyNegotiator : KeyNegotiator K := ⟨.client, privateKey⟩
    let clientHello : ClientHello := ⟨random⟩
    modify fun h => { h with transcript := h.transcript.append clientHello.serialize }
    let serializedClientHello := clientHello.serialize
    modify fun h => { h with state := .expectingServerIdentity keyNegotiator }
    pure serializedClientHello
  | state =>
    throw ("Client hello message can't be created in " ++ state.name ++ " state, needed Initializing")

/-- `ClientHandshaker::create_client_hello`: a failure aborts the handshake. -/
def ClientHandshaker.createClientHello (privateKey : K)
    (random : List.Vector UInt8 replayProtectionArrayLength) : ClientMethod K S (List UInt8) :=
  tryCatch (ClientHandshaker.createClientHelloUtil privateKey random) fun error => do
    modify fun h => { h with state := .aborted }
    throw error

/-- The peer-attestation block of `process_server_identity`: the transcript
takes the server identity without its signature, the signature must verify
over the transcript, and the attestation info must carry the expected
measurement. -/
def ClientHandshaker.verifyServerIdentity (serverIdentity : ServerIdentity) : ClientMethod K S Unit := do
  if (← get).behavior.containsPeerAttestation then
    let serverIdentityNoSignature := serverIdentity.clearTranscriptSignature
    modify fun h => { h with transcript := h.transcript.append serverIdentityNoSignature.serialize }
    let self ← get
    SignatureVerifier.verify P serverIdentity.signingPublicKey (self.transcript.getSha256 P).toList
      serverIdentity.transcriptSignature
    let expectedTeeMeasurement ← context self.behavior.expectedTeeMeasurement
      "Couldn't get expected TEE measurement"
    verifyAttestationInfo P serverIdentity.attestationInfo expectedTeeMeasurement

/-- The `client_identity` of `process_server_identity`: under self
attestation an identity with attestation info, added to the transcript
unsigned and then signed over it; otherwise an identity with no key and no
info. -/
def ClientHandshaker.createClientIdentity
    (ephemeralPublicKey : List.Vector UInt8 keyAgreementAlgorithmKeyLength) :
    ClientMethod K S ClientIdentity := do
  let self ← get
  if self.behavior.containsSelfAttestation then
    let signer ← context self.behavior.signer "Couldn't access attestation signer"
    let teeCertificate ← context self.behavior.teeCertificate "Couldn't access TEE certificate"
    let attestationInfo := createAttestationInfo P signer [] teeCertificate
    let clientIdentity := ClientIdentity.new ephemeralPublicKey (P.ecdsaPublicKey signer) attestationInfo
    modify fun h => { h with transcript := h.transcript.append clientIdentity.serialize }
    let transcriptSignature := P.ecdsaSign signer ((← get).transcript.getSha256 P).toList
    pure (clientIdentity.setTranscriptSignature transcriptSignature)
  else
    pure (ClientIdentity.new ephemeralPublicKey (zeros signingAlgorithmKeyLength) [])

/-- `ClientHandshaker::process_server_identity`. -/
def ClientHandshaker.processServerIdentity (serverIdentity : ServerIdentity)
    (keyNegotiator : KeyNegotiator K) : ClientMethod K S ClientIdentity := do
  ClientHandshaker.verifyServerIdentity P serverIdentity
  let clientIdentity ← ClientHandshaker.createClientIdentity P (keyNegotiator.publicKey P)
  (← get).serverVerifier serverIdentity
  let encryptor ← keyNegotiator.createEncryptor P serverIdentity.ephemeralPublicKey
  modify fun h => { h with state := .completed encryptor }
  pure clientIdentity

/-- `ClientHandshaker::next_step_util`. -/
def ClientHandshaker.nextStepUtil (message : List UInt8) : ClientMethod K S (Option (List UInt8)) := do
  match ← deserializeMessage message with
  | .serverIdentity serverIdentity =>
    -- `std::mem::take` leaves `MessageProcessing` in the handshaker
    let state := (← get).state
    modify fun h => { h with state := .messageProcessing }
    match state with
    | .expectingServerIdentity keyNegotiator =>
      let clientIdentity ← ClientHandshaker.processServerIdentity P serverIdentity keyNegotiator
      pure (some clientIdentity.serialize)
    | .aborted => throw "Remote attestation handshake is aborted"
    | .messageProcessing => throw "Cannot process new messages while in the MessageProcessing state"
    | _ =>
      throw ("Incorrect handshake message received, in state " ++ (← get).state.name ++
        ", found ServerIdentity")
  | unsupportedMessage =>
    throw ("Receiving " ++ unsupportedMessage.name ++ " is not supported by the client handshaker")

/-- `ClientHandshaker::next_step`: a failure aborts the handshake. -/
def ClientHandshaker.nextStep (message : List UInt8) : ClientMethod K S (Option (List UInt8)) :=
  tryCatch (ClientHandshaker.nextStepUtil P message) fun error => do
    modify fun h => { h with state := .aborted }
    throw error

end Client

/-! ### The server -/

section Server

variable (P : Primitives K S)

/-- The self-attestation branch of `process_client_hello`: an identity with
attestation info and the additional info; the transcript takes the client
hello and the identity unsigned, and the identity is signed over it. -/
def ServerHandshaker.createServerIdentity
    (ephemeralPublicKey : List.Vector UInt8 keyAgreementAlgorithmKeyLength)
    (random : List.Vector UInt8 replayProtectionArrayLength) (clientHello : ClientHello) :
    ServerMethod K S ServerIdentity := do
  let self ← get
  let signer ← context self.behavior.signer "Couldn't get attestation signer"
  let teeCertificate ← context self.behavior.teeCertificate "Couldn't get TEE certificate"
  let additionalInfo := self.additionalInfo
  let attestationInfo := createAttestationInfo P signer additionalInfo teeCertificate
  let serverIdentity := ServerIdentity.new ephemeralPublicKey random (P.ecdsaPublicKey signer)
    attestationInfo additionalInfo
  modify fun h => { h with transcript := h.transcript.append clientHello.serialize }
  modify fun h => { h with transcript := h.transcript.append serverIdentity.serialize }
  let transcriptSignature := P.ecdsaSign signer ((← get).transcript.getSha256 P).toList
  pure (serverIdentity.setTranscriptSignature transcriptSignature)

/-- `ServerHandshaker::process_client_hello`, with the private key of the key
negotiator and the random array it draws. -/
def ServerHandshaker.processClientHello (privateKey : K)
    (random : List.Vector UInt8 replayProtectionArrayLength) (clientHello : ClientHello) :
    ServerMethod K S ServerIdentity := do
  let keyNegotiator : KeyNegotiator K := ⟨.server, privateKey⟩
  let ephemeralPublicKey := keyNegotiator.publicKey P
  let self ← get
  let serverIdentity ← (if self.behavior.containsSelfAttestation then
      ServerHandshaker.createServerIdentity P ephemeralPublicKey random clientHello
    else
      pure (ServerIdentity.new ephemeralPublicKey random (zeros signingAlgorithmKeyLength) [] []))
  modify fun h => { h with state := .expectingClientIdentity keyNegotiator }
  pure serverIdentity

/-- The peer-attestation block of `process_client_identity`. -/
def ServerHandshaker.verifyClientIdentity (clientIdentity : ClientIdentity) : ServerMethod K S Unit := do
  if (← get).behavior.containsPeerAttestation then
    let clientIdentityNoSignature := clientIdentity.clearTranscriptSignature
    modify fun h => { h with transcript := h.transcript.append clientIdentityNoSignature.serialize }
    let self ← get
    SignatureVerifier.verify P clientIdentity.signingPublicKey (self.transcript.getSha256 P).toList
      clientIdentity.transcriptSignature
    let expectedTeeMeasurement ← context self.behavior.expectedTeeMeasurement
      "Couldn't get expected TEE measurement"
    verifyAttestationInfo P clientIdentity.attestationInfo expectedTeeMeasurement

/-- `ServerHandshaker::process_client_identity`. -/
def ServerHandshaker.processClientIdentity (clientIdentity : ClientIdentity)
    (keyNegotiator : KeyNegotiator K) : ServerMethod K S Unit := do
  ServerHandshaker.verifyClientIdentity P clientIdentity
  let encryptor ← keyNegotiator.createEncryptor P clientIdentity.ephemeralPublicKey
  modify fun h => { h with state := .completed encryptor }

/-- `ServerHandshaker::next_step_util`, with what `process_client_hello`
would draw. -/
def ServerHandshaker.nextStepUtil (privateKey : K)
    (random : List.Vector UInt8 replayProtectionArrayLength) (message : List UInt8) :
    ServerMethod K S (Option (List UInt8)) := do
  match ← deserializeMessage message with
  | .clientHello clientHello =>
    match (← get).state with
    | .expectingClientHello =>
      let serverIdentity ← ServerHandshaker.processClientHello P privateKey random clientHello
      pure (some serverIdentity.serialize)
    | .aborted => throw "Remote attestation handshake is aborted"
    | .messageProcessing => throw "Cannot process new messages while in the MessageProcessing state"
    | state =>
      throw ("Incorrect handshake message received, in state " ++ state.name ++ ", found ClientHello")
  | .clientIdentity clientIdentity =>
    -- `std::mem::take` leaves `MessageProcessing` in the handshaker
    let state := (← get).state
    modify fun h => { h with state := .messageProcessing }
    match state with
    | .expectingClientIdentity keyNegotiator =>
      ServerHandshaker.processClientIdentity P clientIdentity keyNegotiator
      pure none
    | .messageProcessing => throw "Cannot process new messages while in the MessageProcessing state"
    | _ =>
      throw ("Incorrect handshake message received, in state " ++ (← get).state.name ++
        ", found ClientIdentity")
  | unsupportedMessage =>
    throw ("Receiving " ++ unsupportedMessage.name ++ " is not supported by the server handshaker")

/-- `ServerHandshaker::next_step`: a failure aborts the handshake. -/
def ServerHandshaker.nextStep (privateKey : K)
    (random : List.Vector UInt8 replayProtectionArrayLength) (message : List UInt8) :
    ServerMethod K S (Option (List UInt8)) :=
  tryCatch (ServerHandshaker.nextStepUtil P privateKey random message) fun error => do
    modify fun h => { h with state := .aborted }
    throw error

end Server

/-! ### The encryptor of a completed handshake -/

section Channel

variable (P : Primitives K S)

/-- `Encryptor::encrypt`, with the nonce drawn. -/
def Encryptor.encrypt (e : Encryptor) (nonce : List.Vector UInt8 nonceLength) (message : List UInt8) :
    List UInt8 :=
  (AeadEncryptor.encrypt P e.encryptor nonce message).serialize

/-- `Encryptor::decrypt`. -/
def Encryptor.decrypt (e : Encryptor) (message : List UInt8) : Except String (List UInt8) := do
  match ← deserializeMessage message with
  | .encryptedData data => AeadEncryptor.decrypt P e.encryptor data
  | incorrectMessage =>
    throw ("Incorrect protocol message received, in state EncryptedData, found " ++ incorrectMessage.name)

end Channel

end Oak.Attestation
