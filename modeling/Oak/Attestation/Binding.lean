import Oak.Attestation.Spec

/-! What peer attestation checks of the attestation info (handshaker.rs,
`verify_attestation_info`). Its documentation says the report's data is the
hash of the signing key presented in the identity, as `create_attestation_info`
writes it; the code checks only that the info decodes to a report with some
data and the expected measurement. A side that attests its peer therefore
completes on an identity whose report vouches for no key: nothing ties the key
the transcript is signed with to the report. -/

namespace Oak.Attestation

open Oak.Lib

variable {K S : Type} {P : Primitives K S}

/-- The report data `create_attestation_info` derives from a signing key and
additional info: the key's digest, or, with additional info, the digest of the
key's digest followed by the info's digest. -/
def reportData (P : Primitives K S) (signingPublicKey : List.Vector UInt8 signingAlgorithmKeyLength)
    (additionalInfo : List UInt8) : List UInt8 :=
  let data := (P.sha256 signingPublicKey.toList).toList
  if additionalInfo ≠ [] then (P.sha256 (data ++ (P.sha256 additionalInfo).toList)).toList else data

theorem length_reportData (pk : List.Vector UInt8 signingAlgorithmKeyLength) (additionalInfo : List UInt8) :
    (reportData P pk additionalInfo).length = 32 := by
  unfold reportData
  split <;> exact List.Vector.toList_length _

/-! ### The check -/

theorem verifyAttestationInfo_eq_ok_iff {bytes m : List UInt8} :
    verifyAttestationInfo P bytes m = .ok () ↔
      ∃ report certificate, P.decodeAttestationInfo bytes = some ⟨some report, certificate⟩ ∧
        report.data ≠ [] ∧ report.measurement = m := by
  unfold verifyAttestationInfo
  cases hd : P.decodeAttestationInfo bytes with
  | none => simp [context, bind, Except.bind]
  | some info =>
    obtain ⟨report, certificate⟩ := info
    cases report with
    | none => simp [context, bind, Except.bind]
    | some report =>
      by_cases hdata : report.data = []
      · simp [context, bind, Except.bind, hdata, throw, throwThe, MonadExceptOf.throw]
      · by_cases hm : m = report.measurement
        · simp [context, bind, Except.bind, hdata, hm, pure, Except.pure]
        · simp [context, bind, Except.bind, hdata, hm, Ne.symm hm, throw, throwThe, MonadExceptOf.throw]

theorem verifyAttestationInfo_encode (hP : P.Honest) {report : AttestationReport} (hdata : report.data ≠ [])
    (certificate : List UInt8) :
    verifyAttestationInfo P (AttestationInfo.encode ⟨some report, certificate⟩) report.measurement = .ok () :=
  verifyAttestationInfo_eq_ok_iff.2 ⟨report, certificate, hP.decode_encode _, hdata, rfl⟩

/-! ### Identities the checks pass -/

theorem ClientHandshaker.createClientIdentity_ok (h : ClientHandshaker K S)
    (epk : List.Vector UInt8 keyAgreementAlgorithmKeyLength) :
    ∃ ci h₂, exec (ClientHandshaker.createClientIdentity P epk) h = (.ok ci, h₂) ∧
      h₂.serverVerifier = h.serverVerifier := by
  cases hself : h.behavior.containsSelfAttestation with
  | false => exact ⟨_, _, ClientHandshaker.exec_createClientIdentity_of_not_self P hself epk, rfl⟩
  | true =>
    obtain ⟨sg, c, hsg, hc⟩ := AttestationBehavior.containsSelfAttestation_iff.1 hself
    exact ⟨_, _, ClientHandshaker.exec_createClientIdentity_of_self P hsg hc epk rfl, rfl⟩

theorem KeyNegotiator.createEncryptor_ok (hP : P.Honest) (kn : KeyNegotiator K) (k : K) :
    ∃ e, kn.createEncryptor P (P.x25519PublicKey k) = .ok e := by
  obtain ⟨km, hkm⟩ := Option.isSome_iff_exists.1 (hP.agree_isSome kn.privateKey k)
  unfold KeyNegotiator.createEncryptor KeyNegotiator.deriveSessionKeys
  rw [hkm]
  cases kn.type <;> exact ⟨_, rfl⟩

section Accepted

variable (hP : P.Honest) (sg : S) (k : K) (report : AttestationReport) (certificate : List UInt8)
include hP

/-- A client that attests its server, with a verifier that accepts, completes
on every identity signed over its transcript whose info holds a report with
some data and the expected measurement. -/
theorem ClientHandshaker.processServerIdentity_of_report {h : ClientHandshaker K S}
    (hm : h.behavior.expectedTeeMeasurement = some report.measurement) (hv : ∀ si, h.serverVerifier si = .ok ())
    (kn : KeyNegotiator K) (r : List.Vector UInt8 replayProtectionArrayLength) (additionalInfo : List UInt8)
    (hdata : report.data ≠ []) :
    ∃ ci e h', exec (ClientHandshaker.processServerIdentity P
        ((ServerIdentity.new (P.x25519PublicKey k) r (P.ecdsaPublicKey sg)
            (AttestationInfo.encode ⟨some report, certificate⟩) additionalInfo).setTranscriptSignature
          (P.ecdsaSign sg (P.sha256 (h.transcript.value ++ (ServerIdentity.new (P.x25519PublicKey k) r
            (P.ecdsaPublicKey sg) (AttestationInfo.encode ⟨some report, certificate⟩)
            additionalInfo).serialize)).toList)) kn) h = (.ok ci, h') ∧ h'.state = .completed e := by
  have hver := ClientHandshaker.exec_verifyServerIdentity_of_peer P hm
    ((ServerIdentity.new (P.x25519PublicKey k) r (P.ecdsaPublicKey sg)
      (AttestationInfo.encode ⟨some report, certificate⟩) additionalInfo).setTranscriptSignature
      (P.ecdsaSign sg (P.sha256 (h.transcript.value ++ (ServerIdentity.new (P.x25519PublicKey k) r
        (P.ecdsaPublicKey sg) (AttestationInfo.encode ⟨some report, certificate⟩)
        additionalInfo).serialize)).toList))
  simp only [ServerIdentity.clear_setTranscriptSignature, ServerIdentity.clear_new] at hver
  dsimp only [ServerIdentity.setTranscriptSignature, ServerIdentity.new] at hver
  rw [SignatureVerifier.verify_sign hP, Except.bind, verifyAttestationInfo_encode hP hdata certificate] at hver
  obtain ⟨ci, h₂, hci, hsv⟩ := ClientHandshaker.createClientIdentity_ok (P := P) _ (kn.publicKey P)
  obtain ⟨e, he⟩ := KeyNegotiator.createEncryptor_ok hP kn k
  exact ⟨ci, e, _, ClientHandshaker.exec_processServerIdentity_of_ok P hver hci (by rw [hsv]; exact hv _) he,
    rfl⟩

/-- A server that attests its client completes on every identity signed over
its transcript whose info holds a report with some data and the expected
measurement. -/
theorem ServerHandshaker.processClientIdentity_of_report {h : ServerHandshaker K S}
    (hm : h.behavior.expectedTeeMeasurement = some report.measurement) (kn : KeyNegotiator K)
    (hdata : report.data ≠ []) :
    ∃ e h', exec (ServerHandshaker.processClientIdentity P
        ((ClientIdentity.new (P.x25519PublicKey k) (P.ecdsaPublicKey sg)
            (AttestationInfo.encode ⟨some report, certificate⟩)).setTranscriptSignature
          (P.ecdsaSign sg (P.sha256 (h.transcript.value ++ (ClientIdentity.new (P.x25519PublicKey k)
            (P.ecdsaPublicKey sg) (AttestationInfo.encode ⟨some report, certificate⟩)).serialize)).toList))
        kn) h = (.ok (), h') ∧ h'.state = .completed e := by
  obtain ⟨e, he⟩ := KeyNegotiator.createEncryptor_ok hP kn k
  refine ⟨e, ?h', ?hx, ?hs⟩
  case hx =>
    rw [ServerHandshaker.exec_processClientIdentity, ServerHandshaker.exec_verifyClientIdentity_of_peer P hm]
    simp only [ClientIdentity.clear_setTranscriptSignature, ClientIdentity.clear_new]
    dsimp only [ClientIdentity.setTranscriptSignature, ClientIdentity.new]
    rw [SignatureVerifier.verify_sign hP, Except.bind, verifyAttestationInfo_encode hP hdata certificate]
    dsimp only
    rw [he]
  case hs => rfl

end Accepted

/-- Peer attestation accepts a report bound to no key. For every signing key
pair, expected measurement and certificate: a client that attests its server
(with a verifier that accepts) completes on a server identity signed by that
key pair whose report holds the measurement and one byte of data, not the
digest `create_attestation_info` derives from the identity's key and
additional info; and a server that attests its client completes on such a
client identity. -/
theorem peer_attestation_ignores_report_data (hP : P.Honest) (sg : S) (m certificate : List UInt8) :
    (∀ (h : ClientHandshaker K S) (kn : KeyNegotiator K) (k : K)
        (r : List.Vector UInt8 replayProtectionArrayLength) (additionalInfo : List UInt8),
      h.behavior.expectedTeeMeasurement = some m → (∀ si, h.serverVerifier si = .ok ()) →
      ∃ (si : ServerIdentity) (report : AttestationReport), si.ephemeralPublicKey = P.x25519PublicKey k ∧
        si.random = r ∧ si.signingPublicKey = P.ecdsaPublicKey sg ∧ si.additionalInfo = additionalInfo ∧
        P.decodeAttestationInfo si.attestationInfo = some ⟨some report, certificate⟩ ∧
        report.measurement = m ∧ report.data ≠ reportData P si.signingPublicKey si.additionalInfo ∧
        ∃ ci e h', exec (ClientHandshaker.processServerIdentity P si kn) h = (.ok ci, h') ∧
          h'.state = .completed e) ∧
    (∀ (h : ServerHandshaker K S) (kn : KeyNegotiator K) (k : K),
      h.behavior.expectedTeeMeasurement = some m →
      ∃ (ci : ClientIdentity) (report : AttestationReport), ci.ephemeralPublicKey = P.x25519PublicKey k ∧
        ci.signingPublicKey = P.ecdsaPublicKey sg ∧
        P.decodeAttestationInfo ci.attestationInfo = some ⟨some report, certificate⟩ ∧
        report.measurement = m ∧ report.data ≠ reportData P ci.signingPublicKey [] ∧
        ∃ e h', exec (ServerHandshaker.processClientIdentity P ci kn) h = (.ok (), h') ∧
          h'.state = .completed e) := by
  -- a report of one byte of data: a digest has 32
  let report : AttestationReport := ⟨0, 0, 0, [0], m, []⟩
  have hdata : report.data ≠ [] := List.cons_ne_nil _ _
  have hne : ∀ pk additionalInfo, report.data ≠ reportData P pk additionalInfo := by
    intro pk additionalInfo heq
    have hlen := congrArg List.length heq
    rw [length_reportData] at hlen
    cases hlen
  refine ⟨fun h kn k r additionalInfo hm hv => ?_, fun h kn k hm => ?_⟩
  · exact ⟨_, report, rfl, rfl, rfl, rfl, hP.decode_encode _, rfl, hne _ _,
      ClientHandshaker.processServerIdentity_of_report hP sg k report certificate hm hv kn r additionalInfo hdata⟩
  · exact ⟨_, report, rfl, rfl, hP.decode_encode _, rfl, hne _ _,
      ServerHandshaker.processClientIdentity_of_report hP sg k report certificate hm kn hdata⟩

/-- Over the stand-in primitives, a client and a server that expect the
placeholder measurement each complete on an identity whose report holds one
byte of data. -/
theorem peer_attestation_ignores_report_data_toy :
    (∃ (si : ServerIdentity) (report : AttestationReport),
      toyPrimitives.decodeAttestationInfo si.attestationInfo = some ⟨some report, []⟩ ∧
      report.measurement = testTeeMeasurement ∧
      report.data ≠ reportData toyPrimitives si.signingPublicKey si.additionalInfo ∧
      ∃ ci e h', exec (ClientHandshaker.processServerIdentity toyPrimitives si ⟨.client, 1⟩)
          (ClientHandshaker.new (K := UInt8) (AttestationBehavior.createPeerAttestation testTeeMeasurement)
            fun _ => .ok ()) = (.ok ci, h') ∧ h'.state = .completed e) ∧
    ∃ (ci : ClientIdentity) (report : AttestationReport),
      toyPrimitives.decodeAttestationInfo ci.attestationInfo = some ⟨some report, []⟩ ∧
      report.measurement = testTeeMeasurement ∧ report.data ≠ reportData toyPrimitives ci.signingPublicKey [] ∧
      ∃ e h', exec (ServerHandshaker.processClientIdentity toyPrimitives ci ⟨.server, 4⟩)
          (ServerHandshaker.new (K := UInt8) (AttestationBehavior.createPeerAttestation testTeeMeasurement) []) =
        (.ok (), h') ∧ h'.state = .completed e := by
  have hmain := peer_attestation_ignores_report_data toyPrimitives_honest (2 : UInt8) testTeeMeasurement []
  obtain ⟨si, report, -, -, -, -, hinfo, hm, hne, hx⟩ := hmain.1
    (ClientHandshaker.new (AttestationBehavior.createPeerAttestation testTeeMeasurement) fun _ => .ok ())
    ⟨.client, 1⟩ 3 (List.Vector.replicate _ 5) [] rfl fun _ => rfl
  obtain ⟨ci, report', -, -, hinfo', hm', hne', hx'⟩ := hmain.2
    (ServerHandshaker.new (AttestationBehavior.createPeerAttestation testTeeMeasurement) []) ⟨.server, 4⟩ 1 rfl
  exact ⟨⟨si, report, hinfo, hm, hne, hx⟩, ci, report', hinfo', hm', hne', hx'⟩

end Oak.Attestation
