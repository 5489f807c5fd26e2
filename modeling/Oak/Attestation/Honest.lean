import Oak.Attestation.Spec

/-! The honest handshake of tests/handshaker.rs: the client's hello, the
server's identity, the client's identity and the server's last step, each
message delivered as it was sent. It completes on both sides with mirrored
session keys when

* a side that attests its peer expects the measurement of the placeholder
  report, and its peer attests itself;
* a server that attests its client also attests itself, to a client that
  checks it: the client signs a transcript that starts with its hello and
  holds the server's identity exactly when it checks that identity, while the
  server keeps the hello and its identity only when it attests itself;
* the certificates and the additional info fit the identities into
  `MAXIMUM_MESSAGE_SIZE`.

The first condition alone does not suffice: a server that only checks its
client, and a certificate of a thousand bytes, each stop the handshake. -/

namespace Oak.Attestation

open Oak.Lib

variable {K S : Type} (P : Primitives K S)

/-- The randomness of one handshake: each side's ephemeral private key and
random array. -/
structure Draws (K : Type) where
  clientKey : K
  clientRandom : List.Vector UInt8 replayProtectionArrayLength
  serverKey : K
  serverRandom : List.Vector UInt8 replayProtectionArrayLength

/-- The calls of `test_handshake`: the two handshakers after them, or `none`
where the test panics (a call that fails, a reply that is missing, or a last
reply that is not empty). -/
def testHandshake (d : Draws K) (client : ClientHandshaker K S) (server : ServerHandshaker K S) :
    Option (ClientHandshaker K S × ServerHandshaker K S) :=
  match exec (ClientHandshaker.createClientHello d.clientKey d.clientRandom) client with
  | (.ok clientHello, client) =>
    match exec (ServerHandshaker.nextStep P d.serverKey d.serverRandom clientHello) server with
    | (.ok (some serverIdentity), server) =>
      match exec (ClientHandshaker.nextStep P serverIdentity) client with
      | (.ok (some clientIdentity), client) =>
        match exec (ServerHandshaker.nextStep P d.serverKey d.serverRandom clientIdentity) server with
        | (.ok none, server) => some (client, server)
        | _ => none
      | _ => none
    | _ => none
  | _ => none

/-! ### Behaviours that can complete a handshake -/

/-- A side that attests its peer expects the placeholder report's measurement,
and its peer attests itself. -/
def AttestationBehavior.Expects (b peer : AttestationBehavior S) : Prop :=
  b.containsPeerAttestation = true →
    peer.containsSelfAttestation = true ∧ b.expectedTeeMeasurement = some testTeeMeasurement

theorem AttestationBehavior.Expects.measurement {b peer : AttestationBehavior S} (h : b.Expects peer)
    (m : List UInt8) (hm : b.expectedTeeMeasurement = some m) : m = testTeeMeasurement := by
  have hpeer : b.containsPeerAttestation = true := AttestationBehavior.containsPeerAttestation_iff.2 ⟨m, hm⟩
  rw [(h hpeer).2] at hm
  exact (Option.some.inj hm).symm

/-- Two behaviours that can complete a handshake. -/
structure Compatible (client server : AttestationBehavior S) : Prop where
  client_expects : client.Expects server
  server_expects : server.Expects client
  /-- The two transcripts the client's signature is made and checked over
  agree only when the server keeps its hello and identity and the client
  keeps the server's identity. -/
  server_peer : server.containsPeerAttestation = true →
    server.containsSelfAttestation = true ∧ client.containsPeerAttestation = true

/-- The certificates and the additional info leave each identity within
`MAXIMUM_MESSAGE_SIZE`: 211 bytes of fields, 58 of report and 3 of field
header around each certificate. -/
structure Fits (client server : AttestationBehavior S) (additionalInfo : List UInt8) : Prop where
  server : ∀ c, server.teeCertificate = some c → c.length + additionalInfo.length ≤ 752
  client : ∀ c, client.teeCertificate = some c → c.length ≤ 793

/-! ### The honest steps -/

section Steps

variable {P}

theorem ClientHandshaker.verifyServerIdentity_honest (hP : P.Honest) {h : ClientHandshaker K S}
    (hexp : ∀ m, h.behavior.expectedTeeMeasurement = some m → m = testTeeMeasurement) {si : ServerIdentity}
    (hsi : h.behavior.containsPeerAttestation = true → si.SignedOver P h.transcript.value) :
    ∃ t : Transcript, exec (ClientHandshaker.verifyServerIdentity P si) h = (.ok (), { h with transcript := t }) ∧
      (h.behavior.containsPeerAttestation = true →
        t = h.transcript.append si.clearTranscriptSignature.serialize) := by
  cases hm : h.behavior.expectedTeeMeasurement with
  | none =>
    refine ⟨h.transcript, ClientHandshaker.exec_verifyServerIdentity_of_not_peer P hm si, fun hpeer => ?_⟩
    obtain ⟨m, hm'⟩ := AttestationBehavior.containsPeerAttestation_iff.1 hpeer
    rw [hm] at hm'
    cases hm'
  | some m =>
    have hpeer : h.behavior.containsPeerAttestation = true :=
      AttestationBehavior.containsPeerAttestation_iff.2 ⟨m, hm⟩
    rw [hexp m hm] at hm
    exact ⟨_, ClientHandshaker.exec_verifyServerIdentity_of_signedOver hP hm (hsi hpeer), fun _ => rfl⟩

theorem ServerHandshaker.verifyClientIdentity_honest (hP : P.Honest) {h : ServerHandshaker K S}
    (hexp : ∀ m, h.behavior.expectedTeeMeasurement = some m → m = testTeeMeasurement) {ci : ClientIdentity}
    (hci : h.behavior.containsPeerAttestation = true → ci.SignedOver P h.transcript.value) :
    ∃ t : Transcript, exec (ServerHandshaker.verifyClientIdentity P ci) h = (.ok (), { h with transcript := t }) := by
  cases hm : h.behavior.expectedTeeMeasurement with
  | none => exact ⟨h.transcript, ServerHandshaker.exec_verifyClientIdentity_of_not_peer P hm ci⟩
  | some m =>
    have hpeer : h.behavior.containsPeerAttestation = true :=
      AttestationBehavior.containsPeerAttestation_iff.2 ⟨m, hm⟩
    rw [hexp m hm] at hm
    exact ⟨_, ServerHandshaker.exec_verifyClientIdentity_of_signedOver hP hm (hci hpeer)⟩

theorem ClientHandshaker.createClientIdentity_honest {h : ClientHandshaker K S}
    (hfit : ∀ c, h.behavior.teeCertificate = some c → c.length ≤ 793)
    (epk : List.Vector UInt8 keyAgreementAlgorithmKeyLength) :
    ∃ (ci : ClientIdentity) (t : Transcript), exec (ClientHandshaker.createClientIdentity P epk) h = (.ok ci, { h with transcript := t }) ∧
      ci.ephemeralPublicKey = epk ∧ ci.serialize.length ≤ maximumMessageSize ∧
      (h.behavior.containsSelfAttestation = true → ci.SignedOver P h.transcript.value) := by
  cases hself : h.behavior.containsSelfAttestation with
  | false =>
    refine ⟨_, h.transcript, ClientHandshaker.exec_createClientIdentity_of_not_self P hself epk, rfl, ?_,
      fun h => by cases h⟩
    rw [ClientIdentity.length_serialize]
    simp [ClientIdentity.new, maximumMessageSize]
  | true =>
    obtain ⟨sg, c, hsg, hc⟩ := AttestationBehavior.containsSelfAttestation_iff.1 hself
    refine ⟨_, _, ClientHandshaker.exec_createClientIdentity_of_self P hsg hc epk rfl, rfl, ?_,
      fun _ => ⟨sg, [], c, rfl, rfl, rfl⟩⟩
    have hcert := length_bytesField_le (by decide : 2 * 8 + 2 < 128) (b := c)
      (by have := hfit c hc; omega)
    have := hfit c hc
    rw [ClientIdentity.length_serialize]
    simp only [ClientIdentity.setTranscriptSignature, ClientIdentity.new, length_createAttestationInfo,
      maximumMessageSize]
    omega

theorem ClientHandshaker.createClientHello_new (B : AttestationBehavior S) (v : ServerIdentity → Except String Unit)
    (k : K) (r : List.Vector UInt8 replayProtectionArrayLength) :
    ∃ c₁ : ClientHandshaker K S,
      exec (ClientHandshaker.createClientHello k r) (ClientHandshaker.new B v) = (.ok (ClientHello.mk r).serialize, c₁) ∧
      c₁.behavior = B ∧ c₁.serverVerifier = v ∧ c₁.state = .expectingServerIdentity ⟨.client, k⟩ ∧
      c₁.transcript.value = (ClientHello.mk r).serialize :=
  ⟨_, ClientHandshaker.exec_createClientHello (h := ClientHandshaker.new B v) rfl k r, rfl, rfl, rfl, rfl⟩

/-- A fresh server answers a hello with an identity that fits a message; under
self attestation it is signed over the hello, which the server keeps with the
identity. -/
theorem ServerHandshaker.answer_hello {Bs : AttestationBehavior S} {additionalInfo : List UInt8}
    (hfit : ∀ c, Bs.teeCertificate = some c → c.length + additionalInfo.length ≤ 752) (k : K)
    (r : List.Vector UInt8 replayProtectionArrayLength) (ch : ClientHello) :
    ∃ (si : ServerIdentity) (s₁ : ServerHandshaker K S),
      exec (ServerHandshaker.nextStep P k r ch.serialize) (ServerHandshaker.new Bs additionalInfo) =
        (.ok (some si.serialize), s₁) ∧
      s₁.behavior = Bs ∧ s₁.state = .expectingClientIdentity ⟨.server, k⟩ ∧
      si.ephemeralPublicKey = P.x25519PublicKey k ∧ si.serialize.length ≤ maximumMessageSize ∧
      (Bs.containsSelfAttestation = true →
        si.SignedOver P ch.serialize ∧ s₁.transcript.value = ch.serialize ++ si.clearTranscriptSignature.serialize) := by
  rw [ServerHandshaker.exec_nextStep_clientHello P rfl]
  cases hself : Bs.containsSelfAttestation with
  | false =>
    rw [ServerHandshaker.exec_processClientHello_of_not_self P hself]
    refine ⟨_, _, rfl, rfl, rfl, rfl, ?_, fun h => by cases h⟩
    rw [ServerIdentity.length_serialize]
    simp [ServerIdentity.new, maximumMessageSize]
  | true =>
    obtain ⟨sg, c, hsg, hc⟩ := AttestationBehavior.containsSelfAttestation_iff.1 hself
    rw [ServerHandshaker.exec_processClientHello_of_self P hsg hc k r ch rfl]
    refine ⟨_, _, rfl, rfl, rfl, rfl, ?_, fun _ => ⟨⟨sg, additionalInfo, c, rfl, rfl, rfl⟩, rfl⟩⟩
    have := hfit c hc
    have hcert := length_bytesField_le (by decide : 2 * 8 + 2 < 128) (b := c) (by omega)
    rw [ServerIdentity.length_serialize]
    simp only [ServerIdentity.setTranscriptSignature, ServerIdentity.new, ServerHandshaker.new,
      length_createAttestationInfo, maximumMessageSize]
    omega

/-- A client expecting the server's identity answers an honest one with an
identity that fits a message, and completes; under self and peer attestation
its identity is signed over the hello and the server's identity. -/
theorem ClientHandshaker.answer_serverIdentity (hP : P.Honest) (c₁ : ClientHandshaker K S) {k k' : K}
    (hs : c₁.state = .expectingServerIdentity ⟨.client, k⟩)
    (hv : ∀ si, c₁.serverVerifier si = .ok ())
    (hexp : ∀ m, c₁.behavior.expectedTeeMeasurement = some m → m = testTeeMeasurement)
    (hfit : ∀ c, c₁.behavior.teeCertificate = some c → c.length ≤ 793)
    {si : ServerIdentity} (hsize : si.serialize.length ≤ maximumMessageSize)
    (hk : si.ephemeralPublicKey = P.x25519PublicKey k')
    (hsi : c₁.behavior.containsPeerAttestation = true → si.SignedOver P c₁.transcript.value) :
    ∃ (ci : ClientIdentity) (c₂ : ClientHandshaker K S) (e : AeadEncryptor),
      exec (ClientHandshaker.nextStep P si.serialize) c₁ = (.ok (some ci.serialize), c₂) ∧
      c₂.state = .completed e ∧ KeyNegotiator.createEncryptor P ⟨.client, k⟩ (P.x25519PublicKey k') = .ok e ∧
      ci.ephemeralPublicKey = P.x25519PublicKey k ∧ ci.serialize.length ≤ maximumMessageSize ∧
      (c₁.behavior.containsSelfAttestation = true → c₁.behavior.containsPeerAttestation = true →
        ci.SignedOver P (c₁.transcript.value ++ si.clearTranscriptSignature.serialize)) := by
  obtain ⟨e, he, -⟩ := createEncryptor_mirrored hP k k'
  -- the checks, then the identity, each from the handshaker the one before left
  obtain ⟨t₁, hver, ht₁⟩ := ClientHandshaker.verifyServerIdentity_honest hP
    (h := { c₁ with state := .messageProcessing }) hexp hsi
  obtain ⟨ci, t₂, hci, hcik, hcisize, hcisigned⟩ := ClientHandshaker.createClientIdentity_honest
    (h := { c₁ with state := .messageProcessing, transcript := t₁ }) hfit (KeyNegotiator.publicKey P ⟨.client, k⟩)
  have hproc := ClientHandshaker.exec_processServerIdentity_of_ok P hver hci (hv si) (by rw [hk]; exact he)
  refine ⟨ci, { c₁ with state := .completed e, transcript := t₂ }, e, ?_, rfl, he, hcik, hcisize,
    fun hself hpeer => ?_⟩
  · rw [ClientHandshaker.exec_nextStep_serverIdentity P (deserializeMessage_serverIdentity si hsize) hs, hproc]
  · have hsigned := hcisigned hself
    rw [ht₁ hpeer] at hsigned
    exact hsigned

theorem ServerHandshaker.answer_clientIdentity (hP : P.Honest) (s₁ : ServerHandshaker K S) {k k' : K}
    (hs : s₁.state = .expectingClientIdentity ⟨.server, k⟩)
    (hexp : ∀ m, s₁.behavior.expectedTeeMeasurement = some m → m = testTeeMeasurement)
    {ci : ClientIdentity} (hsize : ci.serialize.length ≤ maximumMessageSize)
    (hk : ci.ephemeralPublicKey = P.x25519PublicKey k')
    (hci : s₁.behavior.containsPeerAttestation = true → ci.SignedOver P s₁.transcript.value) (k'' : K)
    (r : List.Vector UInt8 replayProtectionArrayLength) :
    ∃ (s₂ : ServerHandshaker K S) (e : AeadEncryptor), exec (ServerHandshaker.nextStep P k'' r ci.serialize) s₁ = (.ok none, s₂) ∧
      s₂.state = .completed e ∧ KeyNegotiator.createEncryptor P ⟨.server, k⟩ (P.x25519PublicKey k') = .ok e := by
  obtain ⟨e', -, he⟩ := createEncryptor_mirrored hP k' k
  obtain ⟨t₁, hver⟩ := ServerHandshaker.verifyClientIdentity_honest hP
    (h := { s₁ with state := .messageProcessing }) hexp hci
  refine ⟨{ s₁ with state := .completed ⟨e'.decryptionKey, e'.encryptionKey⟩, transcript := t₁ }, _, ?_, rfl, he⟩
  rw [ServerHandshaker.exec_nextStep_clientIdentity P (deserializeMessage_clientIdentity ci hsize) hs,
    ServerHandshaker.exec_processClientIdentity, hver, hk, he]

end Steps

/-! ### The handshake -/

theorem honest_handshake (hP : P.Honest) {Bc Bs : AttestationBehavior S} (hB : Compatible Bc Bs)
    {additionalInfo : List UInt8} (hfit : Fits Bc Bs additionalInfo) {v : ServerIdentity → Except String Unit}
    (hv : ∀ si, v si = .ok ()) (d : Draws K) :
    ∃ (c : ClientHandshaker K S) (s : ServerHandshaker K S) (ec es : AeadEncryptor),
      testHandshake P d (ClientHandshaker.new Bc v) (ServerHandshaker.new Bs additionalInfo) = some (c, s) ∧
      c.state = .completed ec ∧ s.state = .completed es ∧
      ∀ (nonce : List.Vector UInt8 nonceLength) (m : List UInt8), m.length + 16 < 2 ^ 64 →
        Encryptor.decrypt P ⟨es⟩ (Encryptor.encrypt P ⟨ec⟩ nonce m) = .ok m ∧
        Encryptor.decrypt P ⟨ec⟩ (Encryptor.encrypt P ⟨es⟩ nonce m) = .ok m := by
  obtain ⟨c₁, h1, hb₀, hv₀, hs₀, ht₀⟩ := ClientHandshaker.createClientHello_new Bc v d.clientKey d.clientRandom
  obtain ⟨si, s₁, h2, hb₁, hs₁, hsik, hsisize, hsiself⟩ :=
    ServerHandshaker.answer_hello (P := P) hfit.server d.serverKey d.serverRandom ⟨d.clientRandom⟩
  obtain ⟨ci, c₂, ec, h3, hc₂, hec, hcik, hcisize, hcisigned⟩ :=
    ClientHandshaker.answer_serverIdentity hP c₁ hs₀ (hv₀ ▸ hv) (hb₀ ▸ hB.client_expects.measurement)
      (hb₀ ▸ hfit.client) hsisize hsik (fun hpeer => by
        rw [ht₀]
        rw [hb₀] at hpeer
        exact (hsiself (hB.client_expects hpeer).1).1)
  -- the server checks the client's signature over the hello and its own identity
  have hci : s₁.behavior.containsPeerAttestation = true → ci.SignedOver P s₁.transcript.value := by
    intro hpeer
    rw [hb₁] at hpeer
    obtain ⟨hsself, hcpeer⟩ := hB.server_peer hpeer
    rw [(hsiself hsself).2, ← ht₀]
    exact hcisigned (hb₀ ▸ (hB.server_expects hpeer).1) (hb₀ ▸ hcpeer)
  obtain ⟨s₂, es, h4, hs₂, hes⟩ := ServerHandshaker.answer_clientIdentity hP s₁ hs₁
    (hb₁ ▸ hB.server_expects.measurement) hcisize hcik hci d.serverKey d.serverRandom
  -- the two sides derive one pair of keys in opposite roles
  obtain ⟨e, hce, hse⟩ := createEncryptor_mirrored hP d.clientKey d.serverKey
  have hec' : ec = e := Except.ok.inj (hec.symm.trans hce)
  have hes' : es = ⟨e.decryptionKey, e.encryptionKey⟩ := Except.ok.inj (hes.symm.trans hse)
  subst ec es
  refine ⟨c₂, s₂, e, ⟨e.decryptionKey, e.encryptionKey⟩, ?_, hc₂, hs₂,
    fun nonce m hm => ⟨Encryptor.decrypt_encrypt hP rfl nonce hm, Encryptor.decrypt_encrypt hP rfl nonce hm⟩⟩
  simp only [testHandshake, h1, h2, h3, h4]

/-! ### Runs over the stand-in primitives -/

/-- The randomness of the runs below. -/
def toyDraws : Draws UInt8 := ⟨1, List.Vector.replicate _ 5, 2, List.Vector.replicate _ 6⟩

theorem honest_handshake_bidirectional :
    ∃ (c : ClientHandshaker UInt8 UInt8) (s : ServerHandshaker UInt8 UInt8) (ec es : AeadEncryptor),
      testHandshake toyPrimitives toyDraws
          (ClientHandshaker.new (AttestationBehavior.createBidirectionalAttestation [] testTeeMeasurement 3)
            fun _ => .ok ())
          (ServerHandshaker.new (AttestationBehavior.createBidirectionalAttestation [] testTeeMeasurement 4)
            [1, 2, 3]) = some (c, s) ∧
      c.state = .completed ec ∧ s.state = .completed es ∧
      ∀ (nonce : List.Vector UInt8 nonceLength) (m : List UInt8), m.length + 16 < 2 ^ 64 →
        Encryptor.decrypt toyPrimitives ⟨es⟩ (Encryptor.encrypt toyPrimitives ⟨ec⟩ nonce m) = .ok m ∧
        Encryptor.decrypt toyPrimitives ⟨ec⟩ (Encryptor.encrypt toyPrimitives ⟨es⟩ nonce m) = .ok m :=
  honest_handshake toyPrimitives toyPrimitives_honest
    ⟨fun _ => ⟨rfl, rfl⟩, fun _ => ⟨rfl, rfl⟩, fun _ => ⟨rfl, rfl⟩⟩
    ⟨fun c hc => by cases hc; decide, fun c hc => by cases hc; decide⟩ (fun _ => rfl) toyDraws

/-- Two ways the handshake stops although each side that attests its peer
faces a peer that attests itself, with the expected measurement: a server that
checks its client without attesting itself, whose transcript then lacks the
hello the client signed; and a certificate that pushes the server's identity
past `MAXIMUM_MESSAGE_SIZE`. -/
theorem handshake_stops_for_expecting_behaviors :
    toyPrimitives.Honest ∧
      (AttestationBehavior.createSelfAttestation [] (3 : UInt8)).Expects
        (AttestationBehavior.createPeerAttestation testTeeMeasurement) ∧
      (AttestationBehavior.createPeerAttestation testTeeMeasurement).Expects
        (AttestationBehavior.createSelfAttestation [] (3 : UInt8)) ∧
      testHandshake toyPrimitives toyDraws
          (ClientHandshaker.new (AttestationBehavior.createSelfAttestation [] 3) fun _ => .ok ())
          (ServerHandshaker.new (AttestationBehavior.createPeerAttestation testTeeMeasurement) []) = none ∧
      (AttestationBehavior.createBidirectionalAttestation [] testTeeMeasurement (3 : UInt8)).Expects
        (AttestationBehavior.createBidirectionalAttestation (List.replicate 1000 0) testTeeMeasurement 4) ∧
      (AttestationBehavior.createBidirectionalAttestation (List.replicate 1000 0) testTeeMeasurement
        (4 : UInt8)).Expects (AttestationBehavior.createBidirectionalAttestation [] testTeeMeasurement 3) ∧
      testHandshake toyPrimitives toyDraws
          (ClientHandshaker.new (AttestationBehavior.createBidirectionalAttestation [] testTeeMeasurement 3)
            fun _ => .ok ())
          (ServerHandshaker.new
            (AttestationBehavior.createBidirectionalAttestation (List.replicate 1000 0) testTeeMeasurement 4)
            []) = none :=
  ⟨toyPrimitives_honest, (fun h => by cases h), (fun _ => ⟨rfl, rfl⟩), (by decide +kernel),
    (fun _ => ⟨rfl, rfl⟩), (fun _ => ⟨rfl, rfl⟩), (by decide +kernel)⟩

end Oak.Attestation
