import Oak.Attestation.Handshaker

/-! What each method of the handshakers computes, once and for all: one lemma
per method, stated for a handshaker in the state the method acts on, with
the method's result and the handshaker it leaves. The honest run, the replay
checks and the interoperability results are assembled from these lemmas and
never unfold a method. -/

namespace Oak.Attestation

open Oak.Lib

variable {K S : Type} (P : Primitives K S)

theorem AttestationBehavior.containsSelfAttestation_iff {b : AttestationBehavior S} :
    b.containsSelfAttestation = true ↔ ∃ sg c, b.signer = some sg ∧ b.teeCertificate = some c := by
  unfold AttestationBehavior.containsSelfAttestation
  cases b.signer <;> cases b.teeCertificate <;> simp

theorem AttestationBehavior.containsPeerAttestation_iff {b : AttestationBehavior S} :
    b.containsPeerAttestation = true ↔ ∃ m, b.expectedTeeMeasurement = some m := by
  unfold AttestationBehavior.containsPeerAttestation
  cases b.expectedTeeMeasurement <;> simp

/-! ### The client -/

section Client

variable {h : ClientHandshaker K S}

theorem ClientHandshaker.exec_createClientHello (hs : h.state = .initializing) (k : K)
    (r : List.Vector UInt8 replayProtectionArrayLength) :
    exec (ClientHandshaker.createClientHello k r) h =
      (.ok (ClientHello.mk r).serialize,
        { h with transcript := h.transcript.append (ClientHello.mk r).serialize,
                 state := .expectingServerIdentity ⟨.client, k⟩ }) := by
  rw [ClientHandshaker.createClientHello, exec_tryCatch_modify]
  simp [ClientHandshaker.createClientHelloUtil, exec_bind, exec_map, hs]

/-- The peer-attestation block of `process_server_identity` under peer
attestation: the transcript takes the identity without its signature, then
the signature and the attestation info are checked. -/
theorem ClientHandshaker.exec_verifyServerIdentity_of_peer {m : List UInt8}
    (hm : h.behavior.expectedTeeMeasurement = some m) (si : ServerIdentity) :
    exec (ClientHandshaker.verifyServerIdentity P si) h =
      ((SignatureVerifier.verify P si.signingPublicKey
          (P.sha256 (h.transcript.value ++ si.clearTranscriptSignature.serialize)).toList
          si.transcriptSignature).bind fun _ => verifyAttestationInfo P si.attestationInfo m,
        { h with transcript := h.transcript.append si.clearTranscriptSignature.serialize }) := by
  have hpeer : h.behavior.containsPeerAttestation = true := by
    simp [AttestationBehavior.containsPeerAttestation, hm]
  unfold ClientHandshaker.verifyServerIdentity
  rw [exec_bind_ok (exec_get _), if_pos hpeer, exec_bind_ok (exec_modify _ _), exec_bind_ok (exec_get _),
    exec_bind]
  simp only [Transcript.getSha256, Transcript.append]
  cases SignatureVerifier.verify P si.signingPublicKey
      (P.sha256 (h.transcript.value ++ si.clearTranscriptSignature.serialize)).toList si.transcriptSignature <;>
    simp [exec_bind, hm, Except.bind]

theorem ClientHandshaker.exec_verifyServerIdentity_of_not_peer
    (hm : h.behavior.expectedTeeMeasurement = none) (si : ServerIdentity) :
    exec (ClientHandshaker.verifyServerIdentity P si) h = (.ok (), h) := by
  have hpeer : h.behavior.containsPeerAttestation = false := by
    simp [AttestationBehavior.containsPeerAttestation, hm]
  unfold ClientHandshaker.verifyServerIdentity
  rw [exec_bind_ok (exec_get _), if_neg (by simp [hpeer])]
  rfl

theorem ClientHandshaker.exec_createClientIdentity_of_self {sg : S} {c : List UInt8}
    (hsg : h.behavior.signer = some sg) (hc : h.behavior.teeCertificate = some c)
    (epk : List.Vector UInt8 keyAgreementAlgorithmKeyLength) {ci : ClientIdentity}
    (hci : ci = ClientIdentity.new epk (P.ecdsaPublicKey sg) (createAttestationInfo P sg [] c)) :
    exec (ClientHandshaker.createClientIdentity P epk) h =
      (.ok (ci.setTranscriptSignature (P.ecdsaSign sg (P.sha256 (h.transcript.value ++ ci.serialize)).toList)),
        { h with transcript := h.transcript.append ci.serialize }) := by
  subst hci
  simp [ClientHandshaker.createClientIdentity, AttestationBehavior.containsSelfAttestation, exec_bind,
    exec_map, hsg, hc, Transcript.getSha256, Transcript.append]

theorem ClientHandshaker.exec_createClientIdentity_of_not_self
    (hself : h.behavior.containsSelfAttestation = false)
    (epk : List.Vector UInt8 keyAgreementAlgorithmKeyLength) :
    exec (ClientHandshaker.createClientIdentity P epk) h =
      (.ok (ClientIdentity.new epk (zeros signingAlgorithmKeyLength) []), h) := by
  simp [ClientHandshaker.createClientIdentity, exec_bind, hself]

theorem ClientHandshaker.exec_processServerIdentity_of_ok {si : ServerIdentity} {kn : KeyNegotiator K}
    {h₁ h₂ : ClientHandshaker K S} {ci : ClientIdentity} {e : AeadEncryptor}
    (hv : exec (ClientHandshaker.verifyServerIdentity P si) h = (.ok (), h₁))
    (hci : exec (ClientHandshaker.createClientIdentity P (kn.publicKey P)) h₁ = (.ok ci, h₂))
    (hsv : h₂.serverVerifier si = .ok ())
    (he : kn.createEncryptor P si.ephemeralPublicKey = .ok e) :
    exec (ClientHandshaker.processServerIdentity P si kn) h =
      (.ok ci, { h₂ with state := .completed e }) := by
  unfold ClientHandshaker.processServerIdentity
  rw [exec_bind_ok hv, exec_bind_ok hci, exec_bind_ok (exec_get _), hsv, exec_bind_ok (exec_liftM _ _),
    he, exec_bind_ok (exec_liftM _ _), exec_bind_ok (exec_modify _ _), exec_pure]

theorem ClientHandshaker.processServerIdentity_inv {si : ServerIdentity} {kn : KeyNegotiator K}
    {h' : ClientHandshaker K S} {ci : ClientIdentity}
    (hx : exec (ClientHandshaker.processServerIdentity P si kn) h = (.ok ci, h')) :
    ∃ h₁ h₂ e, exec (ClientHandshaker.verifyServerIdentity P si) h = (.ok (), h₁) ∧
      exec (ClientHandshaker.createClientIdentity P (kn.publicKey P)) h₁ = (.ok ci, h₂) ∧
      h₂.serverVerifier si = .ok () ∧ kn.createEncryptor P si.ephemeralPublicKey = .ok e ∧
      h' = { h₂ with state := .completed e } := by
  unfold ClientHandshaker.processServerIdentity at hx
  obtain ⟨⟨⟩, h₁, hv, hx₁⟩ := exec_bind_eq_ok hx
  obtain ⟨ci', h₂, hci, hx₂⟩ := exec_bind_eq_ok hx₁
  rw [exec_bind_ok (exec_get _)] at hx₂
  -- the verifier and the key derivation leave the handshaker alone
  obtain ⟨⟨⟩, h₃, hsv₀, hx₄⟩ := exec_bind_eq_ok hx₂
  obtain ⟨hsv, hh₃⟩ := exec_liftM_eq_ok hsv₀
  subst h₃
  obtain ⟨e, h₄, he₀, hx₅⟩ := exec_bind_eq_ok hx₄
  obtain ⟨he, hh₄⟩ := exec_liftM_eq_ok he₀
  subst h₄
  rw [exec_bind_ok (exec_modify _ _), exec_pure] at hx₅
  cases hx₅
  exact ⟨h₁, h₂, e, hv, hci, hsv, he, rfl⟩

theorem ClientHandshaker.exec_nextStep_serverIdentity {m : List UInt8} {si : ServerIdentity}
    {kn : KeyNegotiator K} (hd : deserializeMessage m = .ok (.serverIdentity si))
    (hs : h.state = .expectingServerIdentity kn) :
    exec (ClientHandshaker.nextStep P m) h =
      match exec (ClientHandshaker.processServerIdentity P si kn) { h with state := .messageProcessing } with
      | (.ok ci, h') => (.ok (some ci.serialize), h')
      | (.error err, h') => (.error err, { h' with state := .aborted }) := by
  rw [ClientHandshaker.nextStep, exec_tryCatch_modify]
  unfold ClientHandshaker.nextStepUtil
  rw [exec_bind_ok (by rw [exec_liftM, hd]), exec_bind_ok (exec_get _), exec_bind_ok (exec_modify _ _),
    hs, exec_bind]
  rcases exec (ClientHandshaker.processServerIdentity P si kn) { h with state := .messageProcessing }
    with ⟨_ | ci, h'⟩ <;> rfl

theorem ClientHandshaker.exec_nextStep_of_error {m : List UInt8} {err : String}
    (hd : deserializeMessage m = .error err) :
    exec (ClientHandshaker.nextStep P m) h = (.error err, { h with state := .aborted }) := by
  rw [ClientHandshaker.nextStep, exec_tryCatch_modify]
  unfold ClientHandshaker.nextStepUtil
  rw [exec_bind_error (by rw [exec_liftM, hd])]

end Client

/-! ### The server -/

section Server

variable {h : ServerHandshaker K S}

/-- Under self attestation the server's identity carries its attestation info
and additional info; the transcript takes the hello and the identity, and the
identity is signed over it. -/
theorem ServerHandshaker.exec_processClientHello_of_self {sg : S} {c : List UInt8}
    (hsg : h.behavior.signer = some sg) (hc : h.behavior.teeCertificate = some c) (k : K)
    (r : List.Vector UInt8 replayProtectionArrayLength) (ch : ClientHello) {si : ServerIdentity}
    (hsi : si = ServerIdentity.new (P.x25519PublicKey k) r (P.ecdsaPublicKey sg)
      (createAttestationInfo P sg h.additionalInfo c) h.additionalInfo) :
    exec (ServerHandshaker.processClientHello P k r ch) h =
      (.ok (si.setTranscriptSignature
          (P.ecdsaSign sg (P.sha256 (h.transcript.value ++ ch.serialize ++ si.serialize)).toList)),
        { h with transcript := (h.transcript.append ch.serialize).append si.serialize,
                 state := .expectingClientIdentity ⟨.server, k⟩ }) := by
  subst hsi
  simp [ServerHandshaker.processClientHello, ServerHandshaker.createServerIdentity,
    AttestationBehavior.containsSelfAttestation, KeyNegotiator.publicKey, exec_bind, exec_map, hsg, hc,
    Transcript.getSha256, Transcript.append]

theorem ServerHandshaker.exec_processClientHello_of_not_self
    (hself : h.behavior.containsSelfAttestation = false) (k : K)
    (r : List.Vector UInt8 replayProtectionArrayLength) (ch : ClientHello) :
    exec (ServerHandshaker.processClientHello P k r ch) h =
      (.ok (ServerIdentity.new (P.x25519PublicKey k) r (zeros signingAlgorithmKeyLength) [] []),
        { h with state := .expectingClientIdentity ⟨.server, k⟩ }) := by
  simp [ServerHandshaker.processClientHello, KeyNegotiator.publicKey, exec_bind, exec_map, hself]

theorem ServerHandshaker.exec_nextStep_clientHello (hs : h.state = .expectingClientHello) (k : K)
    (r : List.Vector UInt8 replayProtectionArrayLength) (ch : ClientHello) :
    exec (ServerHandshaker.nextStep P k r ch.serialize) h =
      match exec (ServerHandshaker.processClientHello P k r ch) h with
      | (.ok si, h') => (.ok (some si.serialize), h')
      | (.error err, h') => (.error err, { h' with state := .aborted }) := by
  rw [ServerHandshaker.nextStep, exec_tryCatch_modify]
  unfold ServerHandshaker.nextStepUtil
  rw [exec_bind_ok (by rw [exec_liftM, deserializeMessage_clientHello]), exec_bind_ok (exec_get _), hs,
    exec_bind]
  rcases exec (ServerHandshaker.processClientHello P k r ch) h with ⟨_ | si, h'⟩ <;> rfl

theorem ServerHandshaker.exec_verifyClientIdentity_of_peer {m : List UInt8}
    (hm : h.behavior.expectedTeeMeasurement = some m) (ci : ClientIdentity) :
    exec (ServerHandshaker.verifyClientIdentity P ci) h =
      ((SignatureVerifier.verify P ci.signingPublicKey
          (P.sha256 (h.transcript.value ++ ci.clearTranscriptSignature.serialize)).toList
          ci.transcriptSignature).bind fun _ => verifyAttestationInfo P ci.attestationInfo m,
        { h with transcript := h.transcript.append ci.clearTranscriptSignature.serialize }) := by
  have hpeer : h.behavior.containsPeerAttestation = true := by
    simp [AttestationBehavior.containsPeerAttestation, hm]
  unfold ServerHandshaker.verifyClientIdentity
  rw [exec_bind_ok (exec_get _), if_pos hpeer, exec_bind_ok (exec_modify _ _), exec_bind_ok (exec_get _),
    exec_bind]
  simp only [Transcript.getSha256, Transcript.append]
  cases SignatureVerifier.verify P ci.signingPublicKey
      (P.sha256 (h.transcript.value ++ ci.clearTranscriptSignature.serialize)).toList ci.transcriptSignature <;>
    simp [exec_bind, hm, Except.bind]

theorem ServerHandshaker.exec_verifyClientIdentity_of_not_peer
    (hm : h.behavior.expectedTeeMeasurement = none) (ci : ClientIdentity) :
    exec (ServerHandshaker.verifyClientIdentity P ci) h = (.ok (), h) := by
  have hpeer : h.behavior.containsPeerAttestation = false := by
    simp [AttestationBehavior.containsPeerAttestation, hm]
  unfold ServerHandshaker.verifyClientIdentity
  rw [exec_bind_ok (exec_get _), if_neg (by simp [hpeer])]
  rfl

theorem ServerHandshaker.exec_processClientIdentity (ci : ClientIdentity) (kn : KeyNegotiator K) :
    exec (ServerHandshaker.processClientIdentity P ci kn) h =
      match exec (ServerHandshaker.verifyClientIdentity P ci) h with
      | (.ok _, h₁) =>
        match kn.createEncryptor P ci.ephemeralPublicKey with
        | .ok e => (.ok (), { h₁ with state := .completed e })
        | .error err => (.error err, h₁)
      | (.error err, h₁) => (.error err, h₁) := by
  unfold ServerHandshaker.processClientIdentity
  rw [exec_bind]
  rcases exec (ServerHandshaker.verifyClientIdentity P ci) h with ⟨_ | ⟨⟩, h₁⟩
  · rfl
  · cases kn.createEncryptor P ci.ephemeralPublicKey <;> rfl

theorem ServerHandshaker.exec_nextStep_clientIdentity {m : List UInt8} {ci : ClientIdentity}
    {kn : KeyNegotiator K} (hd : deserializeMessage m = .ok (.clientIdentity ci))
    (hs : h.state = .expectingClientIdentity kn) (k : K)
    (r : List.Vector UInt8 replayProtectionArrayLength) :
    exec (ServerHandshaker.nextStep P k r m) h =
      match exec (ServerHandshaker.processClientIdentity P ci kn) { h with state := .messageProcessing } with
      | (.ok _, h') => (.ok none, h')
      | (.error err, h') => (.error err, { h' with state := .aborted }) := by
  rw [ServerHandshaker.nextStep, exec_tryCatch_modify]
  unfold ServerHandshaker.nextStepUtil
  rw [exec_bind_ok (by rw [exec_liftM, hd]), exec_bind_ok (exec_get _), exec_bind_ok (exec_modify _ _),
    hs, exec_bind]
  rcases exec (ServerHandshaker.processClientIdentity P ci kn) { h with state := .messageProcessing }
    with ⟨_ | ⟨⟩, h'⟩ <;> rfl

theorem ServerHandshaker.exec_nextStep_of_error {m : List UInt8} {err : String}
    (hd : deserializeMessage m = .error err) (k : K) (r : List.Vector UInt8 replayProtectionArrayLength) :
    exec (ServerHandshaker.nextStep P k r m) h = (.error err, { h with state := .aborted }) := by
  rw [ServerHandshaker.nextStep, exec_tryCatch_modify]
  unfold ServerHandshaker.nextStepUtil
  rw [exec_bind_error (by rw [exec_liftM, hd])]

end Server

/-! ### Attestation info and signed identities -/

section Attested

variable {P}

theorem length_createAttestationInfo (sg : S) (additionalInfo teeCertificate : List UInt8) :
    (createAttestationInfo P sg additionalInfo teeCertificate).length =
      58 + (bytesField 2 teeCertificate).length := by
  unfold createAttestationInfo
  split <;> exact AttestationInfo.length_encode_new (List.Vector.toList_length _) _

theorem verifyAttestationInfo_createAttestationInfo (hP : P.Honest) (sg : S)
    (additionalInfo teeCertificate : List UInt8) :
    verifyAttestationInfo P (createAttestationInfo P sg additionalInfo teeCertificate) testTeeMeasurement =
      .ok () := by
  -- the report's data is a digest, so it is not empty
  have hne : ∀ d : List.Vector UInt8 sha256HashLength, d.toList ≠ [] := fun d =>
    List.ne_nil_of_length_pos (by rw [d.toList_length]; decide)
  unfold createAttestationInfo
  split <;> simp [verifyAttestationInfo, hP.decode_encode, AttestationReport.new, hne, bind, Except.bind,
    pure, Except.pure]

/-- The server identity is signed, by a key pair whose attestation info it
carries, over the transcript `t` followed by the identity without its
signature. -/
def ServerIdentity.SignedOver (P : Primitives K S) (si : ServerIdentity) (t : List UInt8) : Prop :=
  ∃ sg additionalInfo teeCertificate, si.signingPublicKey = P.ecdsaPublicKey sg ∧
    si.attestationInfo = createAttestationInfo P sg additionalInfo teeCertificate ∧
    si.transcriptSignature = P.ecdsaSign sg (P.sha256 (t ++ si.clearTranscriptSignature.serialize)).toList

/-- The client identity is signed, by a key pair whose attestation info it
carries, over the transcript `t` followed by the identity without its
signature. -/
def ClientIdentity.SignedOver (P : Primitives K S) (ci : ClientIdentity) (t : List UInt8) : Prop :=
  ∃ sg additionalInfo teeCertificate, ci.signingPublicKey = P.ecdsaPublicKey sg ∧
    ci.attestationInfo = createAttestationInfo P sg additionalInfo teeCertificate ∧
    ci.transcriptSignature = P.ecdsaSign sg (P.sha256 (t ++ ci.clearTranscriptSignature.serialize)).toList

theorem ClientHandshaker.exec_verifyServerIdentity_of_signedOver (hP : P.Honest) {h : ClientHandshaker K S}
    (hm : h.behavior.expectedTeeMeasurement = some testTeeMeasurement) {si : ServerIdentity}
    (hsi : si.SignedOver P h.transcript.value) :
    exec (ClientHandshaker.verifyServerIdentity P si) h =
      (.ok (), { h with transcript := h.transcript.append si.clearTranscriptSignature.serialize }) := by
  obtain ⟨sg, a, c, hpk, hinfo, hsig⟩ := hsi
  rw [ClientHandshaker.exec_verifyServerIdentity_of_peer P hm, hpk, hinfo, hsig,
    SignatureVerifier.verify_sign hP]
  simp [Except.bind, verifyAttestationInfo_createAttestationInfo hP]

theorem ServerHandshaker.exec_verifyClientIdentity_of_signedOver (hP : P.Honest) {h : ServerHandshaker K S}
    (hm : h.behavior.expectedTeeMeasurement = some testTeeMeasurement) {ci : ClientIdentity}
    (hci : ci.SignedOver P h.transcript.value) :
    exec (ServerHandshaker.verifyClientIdentity P ci) h =
      (.ok (), { h with transcript := h.transcript.append ci.clearTranscriptSignature.serialize }) := by
  obtain ⟨sg, a, c, hpk, hinfo, hsig⟩ := hci
  rw [ServerHandshaker.exec_verifyClientIdentity_of_peer P hm, hpk, hinfo, hsig,
    SignatureVerifier.verify_sign hP]
  simp [Except.bind, verifyAttestationInfo_createAttestationInfo hP]

end Attested

/-! ### What a side that attests itself sent and kept -/

section Sent

/-- A server that attests itself and answered a hello sent an identity signed
over its transcript and the hello, with the random array and the ephemeral key
it drew, and keeps the hello and the identity without its signature. -/
theorem ServerHandshaker.nextStep_clientHello_of_self {h h' : ServerHandshaker K S}
    (hs : h.state = .expectingClientHello) (hself : h.behavior.containsSelfAttestation = true) {k : K}
    {r : List.Vector UInt8 replayProtectionArrayLength} {ch : ClientHello} {identity : List UInt8}
    (hx : exec (ServerHandshaker.nextStep P k r ch.serialize) h = (.ok (some identity), h')) :
    ∃ si : ServerIdentity, identity = si.serialize ∧ si.SignedOver P (h.transcript.value ++ ch.serialize) ∧
      si.random = r ∧ si.ephemeralPublicKey = P.x25519PublicKey k ∧
      h'.transcript.value = h.transcript.value ++ ch.serialize ++ si.clearTranscriptSignature.serialize ∧
      h'.behavior = h.behavior ∧ h'.state = .expectingClientIdentity ⟨.server, k⟩ := by
  obtain ⟨sg, c, hsg, hc⟩ := AttestationBehavior.containsSelfAttestation_iff.1 hself
  rw [ServerHandshaker.exec_nextStep_clientHello P hs,
    ServerHandshaker.exec_processClientHello_of_self P hsg hc k r ch rfl] at hx
  obtain ⟨hid, rfl⟩ := Prod.mk.inj hx
  exact ⟨_, (Option.some.inj (Except.ok.inj hid)).symm, ⟨sg, h.additionalInfo, c, rfl, rfl, rfl⟩, rfl, rfl,
    rfl, rfl, rfl⟩

/-- A client that attests itself and its peer and answered a server identity
sent an identity signed over its transcript and the server's identity, and
keeps both identities without their signatures. -/
theorem ClientHandshaker.nextStep_serverIdentity_of_self {h h' : ClientHandshaker K S} {kn : KeyNegotiator K}
    (hs : h.state = .expectingServerIdentity kn) {m : List UInt8}
    (hm : h.behavior.expectedTeeMeasurement = some m) (hself : h.behavior.containsSelfAttestation = true)
    {bytes : List UInt8} {si : ServerIdentity} (hd : deserializeMessage bytes = .ok (.serverIdentity si))
    {identity : List UInt8} (hx : exec (ClientHandshaker.nextStep P bytes) h = (.ok (some identity), h')) :
    ∃ ci : ClientIdentity, identity = ci.serialize ∧
      ci.SignedOver P (h.transcript.value ++ si.clearTranscriptSignature.serialize) ∧
      h'.transcript.value =
        h.transcript.value ++ si.clearTranscriptSignature.serialize ++ ci.clearTranscriptSignature.serialize := by
  obtain ⟨sg, c, hsg, hc⟩ := AttestationBehavior.containsSelfAttestation_iff.1 hself
  rw [ClientHandshaker.exec_nextStep_serverIdentity P hd hs] at hx
  rcases hp : exec (ClientHandshaker.processServerIdentity P si kn) { h with state := .messageProcessing }
    with ⟨err | ci, h₃⟩
  · rw [hp] at hx
    cases hx
  · rw [hp] at hx
    obtain ⟨hid, rfl⟩ := Prod.mk.inj hx
    obtain ⟨h₁, h₂, e, hv, hci, -, -, rfl⟩ := ClientHandshaker.processServerIdentity_inv P hp
    -- the checks appended the server's identity, the identity creation the client's
    rw [ClientHandshaker.exec_verifyServerIdentity_of_peer P (h := { h with state := .messageProcessing }) hm]
      at hv
    obtain ⟨-, hh₁⟩ := Prod.mk.inj hv
    have hsg₁ : h₁.behavior.signer = some sg := by rw [← hh₁]; exact hsg
    have hc₁ : h₁.behavior.teeCertificate = some c := by rw [← hh₁]; exact hc
    rw [ClientHandshaker.exec_createClientIdentity_of_self P hsg₁ hc₁ _ rfl] at hci
    obtain ⟨hci₁, hh₂⟩ := Prod.mk.inj hci
    subst h₂
    obtain rfl := Except.ok.inj hci₁
    refine ⟨_, (Option.some.inj (Except.ok.inj hid)).symm, ⟨sg, [], c, rfl, rfl, ?_⟩, ?_⟩
    · rw [← hh₁]
      rfl
    · rw [← hh₁]
      rfl

end Sent

/-! ### The channel -/

theorem Encryptor.decrypt_encrypt {P : Primitives K S} (hP : P.Honest) {e e' : AeadEncryptor}
    (hkey : e'.decryptionKey = e.encryptionKey) (nonce : List.Vector UInt8 nonceLength) {m : List UInt8}
    (hm : m.length + 16 < 2 ^ 64) :
    Encryptor.decrypt P ⟨e'⟩ (Encryptor.encrypt P ⟨e⟩ nonce m) = .ok m := by
  have hlen : (AeadEncryptor.encrypt P e nonce m).data.length < 2 ^ 64 := by
    rw [AeadEncryptor.encrypt, hP.length_seal]
    exact hm
  unfold Encryptor.decrypt Encryptor.encrypt
  rw [deserializeMessage_encryptedData _ hlen]
  exact AeadEncryptor.decrypt_encrypt hP hkey nonce m

end Oak.Attestation
