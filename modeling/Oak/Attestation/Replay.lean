import Oak.Attestation.Honest

/-! Replay protection (handshaker.rs, `Transcript`). A side that attests itself
signs the digest of its transcript, which holds the random arrays and keys
drawn in its session; a side that attests its peer checks that signature over
its own transcript. With ideal signatures, and with SHA-256 free of collisions
between the transcripts of the two sessions, a message replayed from one
session into another is refused, and the side that refuses it aborts:

* a `ServerIdentity` of one session, in a session whose hello holds another
  random array;
* a `ClientIdentity` of one session, in a session whose server identity holds
  another random array or another ephemeral key. -/

namespace Oak.Attestation

open Oak.Lib

variable {K S : Type} {P : Primitives K S}

/-! ### A signature over another digest is refused -/

section Refusal

variable (hsig : P.IdealSignatures)
include hsig

theorem ClientHandshaker.nextStep_refuses {h : ClientHandshaker K S} {kn : KeyNegotiator K}
    (hs : h.state = .expectingServerIdentity kn) {m : List UInt8}
    (hm : h.behavior.expectedTeeMeasurement = some m) {bytes : List UInt8} {si : ServerIdentity}
    (hd : deserializeMessage bytes = .ok (.serverIdentity si)) {t : List UInt8} (hsi : si.SignedOver P t)
    (hne : P.sha256 (h.transcript.value ++ si.clearTranscriptSignature.serialize) ≠
      P.sha256 (t ++ si.clearTranscriptSignature.serialize)) :
    ∃ err h', exec (ClientHandshaker.nextStep P bytes) h = (.error err, h') ∧ h'.state = .aborted := by
  rw [ClientHandshaker.exec_nextStep_serverIdentity P hd hs]
  rcases hp : exec (ClientHandshaker.processServerIdentity P si kn) { h with state := .messageProcessing }
    with ⟨err | ci, h'⟩
  · exact ⟨err, _, rfl, rfl⟩
  · -- the checks passed, so the signature verified over the client's digest
    exfalso
    obtain ⟨h₁, -, -, hv, -, -, -, -⟩ := ClientHandshaker.processServerIdentity_inv P hp
    rw [ClientHandshaker.exec_verifyServerIdentity_of_peer P (h := { h with state := .messageProcessing }) hm]
      at hv
    obtain ⟨u, hver, -⟩ := Except.bind_eq_ok (Prod.mk.inj hv).1
    obtain ⟨sg, -, -, hpk, -, hσ⟩ := hsi
    have hok := SignatureVerifier.ecdsaVerify_of_verify hver
    rw [hpk, hσ] at hok
    exact hne (hsig sg _ _ hok)

theorem ServerHandshaker.nextStep_refuses {h : ServerHandshaker K S} {kn : KeyNegotiator K}
    (hs : h.state = .expectingClientIdentity kn) {m : List UInt8}
    (hm : h.behavior.expectedTeeMeasurement = some m) {bytes : List UInt8} {ci : ClientIdentity}
    (hd : deserializeMessage bytes = .ok (.clientIdentity ci)) {t : List UInt8} (hci : ci.SignedOver P t)
    (hne : P.sha256 (h.transcript.value ++ ci.clearTranscriptSignature.serialize) ≠
      P.sha256 (t ++ ci.clearTranscriptSignature.serialize))
    (k : K) (r : List.Vector UInt8 replayProtectionArrayLength) :
    ∃ err h', exec (ServerHandshaker.nextStep P k r bytes) h = (.error err, h') ∧ h'.state = .aborted := by
  rw [ServerHandshaker.exec_nextStep_clientIdentity P hd hs, ServerHandshaker.exec_processClientIdentity,
    ServerHandshaker.exec_verifyClientIdentity_of_peer P (h := { h with state := .messageProcessing }) hm]
  cases hver : SignatureVerifier.verify P ci.signingPublicKey
      (P.sha256 (h.transcript.value ++ ci.clearTranscriptSignature.serialize)).toList ci.transcriptSignature with
  | error err => exact ⟨err, _, rfl, rfl⟩
  | ok u =>
    -- the signature verified over the server's digest
    exfalso
    obtain ⟨sg, -, -, hpk, -, hσ⟩ := hci
    have hok := SignatureVerifier.ecdsaVerify_of_verify hver
    rw [hpk, hσ] at hok
    exact hne (hsig sg _ _ hok)

end Refusal

/-! ### Two sessions -/

section Sessions

variable (hsig : P.IdealSignatures)
include hsig

theorem replayed_server_identity_refused
    {Bs : AttestationBehavior S} (hBs : Bs.containsSelfAttestation = true) {additionalInfo : List UInt8}
    {ks : K} {rs r₁ : List.Vector UInt8 replayProtectionArrayLength} {identity : List UInt8}
    {s₁ : ServerHandshaker K S}
    (h₁ : exec (ServerHandshaker.nextStep P ks rs (ClientHello.mk r₁).serialize)
      (ServerHandshaker.new Bs additionalInfo) = (.ok (some identity), s₁))
    {Bc : AttestationBehavior S} (hBc : Bc.containsPeerAttestation = true)
    {v : ServerIdentity → Except String Unit} {kc : K} {r₂ : List.Vector UInt8 replayProtectionArrayLength}
    {hello : List UInt8} {c₂ : ClientHandshaker K S}
    (h₂ : exec (ClientHandshaker.createClientHello kc r₂) (ClientHandshaker.new Bc v) = (.ok hello, c₂))
    (hr : r₂ ≠ r₁)
    (hcr : ∀ X, Set.InjOn P.sha256 {s₁.transcript.value, c₂.transcript.value ++ X}) :
    ∃ err c₂', exec (ClientHandshaker.nextStep P identity) c₂ = (.error err, c₂') ∧ c₂'.state = .aborted := by
  -- what the first session's server sent and kept
  obtain ⟨si, rfl, hsigned, -, -, ht₁, -, -⟩ :=
    ServerHandshaker.nextStep_clientHello_of_self P (h := ServerHandshaker.new Bs additionalInfo) rfl hBs h₁
  -- the second session's client keeps its own hello
  rw [ClientHandshaker.exec_createClientHello rfl] at h₂
  obtain ⟨-, rfl⟩ := Prod.mk.inj h₂
  obtain ⟨m, hm⟩ := AttestationBehavior.containsPeerAttestation_iff.1 hBc
  by_cases hsize : si.serialize.length ≤ maximumMessageSize
  · refine ClientHandshaker.nextStep_refuses hsig rfl hm (deserializeMessage_serverIdentity si hsize)
      hsigned fun hdig => hr ?_
    -- the two transcripts would be one, and so would the two hellos
    have htr := hcr si.clearTranscriptSignature.serialize (Set.mem_insert_of_mem _ rfl)
      (Set.mem_insert _ _) (by rw [ht₁]; exact hdig)
    rw [ht₁] at htr
    have hhello := List.append_cancel_right htr
    exact congrArg ClientHello.random (ClientHello.serialize_injective hhello)
  · exact ⟨_, _, ClientHandshaker.exec_nextStep_of_error P
      (deserializeMessage_serverIdentity_of_large si (by omega)), rfl⟩

theorem replayed_client_identity_refused
    {Bc : AttestationBehavior S} (hBcs : Bc.containsSelfAttestation = true)
    (hBcp : Bc.containsPeerAttestation = true) {v : ServerIdentity → Except String Unit} {kc : K}
    {r₁ : List.Vector UInt8 replayProtectionArrayLength} {hello : List UInt8} {c₁ : ClientHandshaker K S}
    (h₁ : exec (ClientHandshaker.createClientHello kc r₁) (ClientHandshaker.new Bc v) = (.ok hello, c₁))
    {serverIdentity : List UInt8} {si₁ : ServerIdentity}
    (hd₁ : deserializeMessage serverIdentity = .ok (.serverIdentity si₁))
    {identity : List UInt8} {c₁' : ClientHandshaker K S}
    (h₁' : exec (ClientHandshaker.nextStep P serverIdentity) c₁ = (.ok (some identity), c₁'))
    {Bs : AttestationBehavior S} (hBss : Bs.containsSelfAttestation = true)
    (hBsp : Bs.containsPeerAttestation = true) {additionalInfo : List UInt8} {ks : K}
    {rs r₂ : List.Vector UInt8 replayProtectionArrayLength} {identity₂ : List UInt8}
    {s₂ : ServerHandshaker K S}
    (h₂ : exec (ServerHandshaker.nextStep P ks rs (ClientHello.mk r₂).serialize)
      (ServerHandshaker.new Bs additionalInfo) = (.ok (some identity₂), s₂))
    (hdiff : si₁.random ≠ rs ∨ si₁.ephemeralPublicKey ≠ P.x25519PublicKey ks)
    (hcr : ∀ X, Set.InjOn P.sha256 {c₁'.transcript.value, s₂.transcript.value ++ X}) (k : K)
    (r : List.Vector UInt8 replayProtectionArrayLength) :
    ∃ err s₂', exec (ServerHandshaker.nextStep P k r identity) s₂ = (.error err, s₂') ∧ s₂'.state = .aborted := by
  -- what the first session's client sent and kept
  rw [ClientHandshaker.exec_createClientHello rfl] at h₁
  obtain ⟨-, rfl⟩ := Prod.mk.inj h₁
  obtain ⟨mc, hmc⟩ := AttestationBehavior.containsPeerAttestation_iff.1 hBcp
  obtain ⟨ci, rfl, hsigned, ht₁⟩ := ClientHandshaker.nextStep_serverIdentity_of_self P rfl hmc hBcs hd₁ h₁'
  -- what the second session's server sent and kept
  obtain ⟨si₂, -, -, hr₂, hk₂, ht₂, hb₂, hs₂⟩ :=
    ServerHandshaker.nextStep_clientHello_of_self P (h := ServerHandshaker.new Bs additionalInfo) rfl hBss h₂
  have hpeer : s₂.behavior.containsPeerAttestation = true := by rw [hb₂]; exact hBsp
  obtain ⟨ms, hms⟩ := AttestationBehavior.containsPeerAttestation_iff.1 hpeer
  by_cases hsize : ci.serialize.length ≤ maximumMessageSize
  · refine ServerHandshaker.nextStep_refuses hsig hs₂ hms (deserializeMessage_clientIdentity ci hsize)
      hsigned (fun hdig => ?_) k r
    -- the two transcripts would be one, and so would the two server identities
    have htr := hcr ci.clearTranscriptSignature.serialize (Set.mem_insert_of_mem _ rfl)
      (Set.mem_insert _ _) (by rw [ht₁]; exact hdig)
    rw [ht₁, ht₂] at htr
    have hpre := List.append_cancel_right htr
    obtain ⟨-, hsi⟩ := List.append_inj hpre (by
      simp [ServerHandshaker.new, ClientHandshaker.new, Transcript.append, ClientHello.serialize,
        List.Vector.toList_length])
    obtain ⟨hk, hrnd⟩ := ServerIdentity.ephemeralPublicKey_random_of_serialize hsi
    rcases hdiff with hne | hne
    · exact hne (hrnd.symm.trans hr₂)
    · exact hne (hk.symm.trans hk₂)
  · exact ⟨_, _, ServerHandshaker.exec_nextStep_of_error P
      (deserializeMessage_clientIdentity_of_large ci (by omega)) k r, rfl⟩

/-- The two replays of tests/handshaker.rs, over any two sessions, each with its
own client and server configuration: the first session's server identity is
refused by the second session's client, which attests its peer, once the two
hellos differ; and the first session's client identity, made by a client that
attests itself, by the second session's server, which attests both ways, once
the two server identities differ. -/
theorem transcript_signatures_prevent_replay
    {Bc₁ Bs₁ Bc₂ Bs₂ : AttestationBehavior S}
    (hBc₁ : Bc₁.containsSelfAttestation = true ∧ Bc₁.containsPeerAttestation = true)
    (hBs₁ : Bs₁.containsSelfAttestation = true) (hBc₂ : Bc₂.containsPeerAttestation = true)
    (hBs₂ : Bs₂.containsSelfAttestation = true ∧ Bs₂.containsPeerAttestation = true)
    {v₁ v₂ : ServerIdentity → Except String Unit} {additionalInfo₁ additionalInfo₂ : List UInt8} (d₁ d₂ : Draws K)
    {hello₁ serverIdentity₁ clientIdentity₁ hello₂ serverIdentity₂ : List UInt8}
    {c₁ c₁' c₂ : ClientHandshaker K S} {s₁ s₂ : ServerHandshaker K S}
    (hc₁ : exec (ClientHandshaker.createClientHello d₁.clientKey d₁.clientRandom)
      (ClientHandshaker.new Bc₁ v₁) = (.ok hello₁, c₁))
    (hs₁ : exec (ServerHandshaker.nextStep P d₁.serverKey d₁.serverRandom hello₁)
      (ServerHandshaker.new Bs₁ additionalInfo₁) = (.ok (some serverIdentity₁), s₁))
    (hc₁' : exec (ClientHandshaker.nextStep P serverIdentity₁) c₁ = (.ok (some clientIdentity₁), c₁'))
    (hc₂ : exec (ClientHandshaker.createClientHello d₂.clientKey d₂.clientRandom)
      (ClientHandshaker.new Bc₂ v₂) = (.ok hello₂, c₂))
    (hs₂ : exec (ServerHandshaker.nextStep P d₂.serverKey d₂.serverRandom hello₂)
      (ServerHandshaker.new Bs₂ additionalInfo₂) = (.ok (some serverIdentity₂), s₂))
    (hcr : ∀ X, Set.InjOn P.sha256 {s₁.transcript.value, c₂.transcript.value ++ X} ∧
      Set.InjOn P.sha256 {c₁'.transcript.value, s₂.transcript.value ++ X}) :
    (d₂.clientRandom ≠ d₁.clientRandom →
      ∃ err c₂', exec (ClientHandshaker.nextStep P serverIdentity₁) c₂ = (.error err, c₂') ∧
        c₂'.state = .aborted) ∧
    (d₁.serverRandom ≠ d₂.serverRandom ∨ P.x25519PublicKey d₁.serverKey ≠ P.x25519PublicKey d₂.serverKey →
      ∀ k r, ∃ err s₂', exec (ServerHandshaker.nextStep P k r clientIdentity₁) s₂ = (.error err, s₂') ∧
        s₂'.state = .aborted) := by
  have hhello : hello₁ = (ClientHello.mk d₁.clientRandom).serialize := by
    rw [ClientHandshaker.exec_createClientHello rfl] at hc₁
    exact (Except.ok.inj (Prod.mk.inj hc₁).1).symm
  subst hhello
  have hhello : hello₂ = (ClientHello.mk d₂.clientRandom).serialize := by
    rw [ClientHandshaker.exec_createClientHello rfl] at hc₂
    exact (Except.ok.inj (Prod.mk.inj hc₂).1).symm
  subst hhello
  refine ⟨fun hr => replayed_server_identity_refused hsig hBs₁ hs₁ hBc₂ hc₂ hr fun X => (hcr X).1,
    fun hdiff k r => ?_⟩
  -- the first client read the first server's identity, which therefore fit
  obtain ⟨si, rfl, -, hrnd, hkey, -, -, -⟩ :=
    ServerHandshaker.nextStep_clientHello_of_self P (h := ServerHandshaker.new Bs₁ additionalInfo₁) rfl hBs₁ hs₁
  by_cases hsize : si.serialize.length ≤ maximumMessageSize
  · refine replayed_client_identity_refused hsig hBc₁.1 hBc₁.2 hc₁ (deserializeMessage_serverIdentity si hsize)
      hc₁' hBs₂.1 hBs₂.2 hs₂ ?_ (fun X => (hcr X).2) k r
    rw [hrnd, hkey]
    exact hdiff
  · rw [ClientHandshaker.exec_nextStep_of_error P (deserializeMessage_serverIdentity_of_large si (by omega))]
      at hc₁'
    cases hc₁'

end Sessions

/-- A second session's draws, which differ from those of `toyDraws` in every
random array. -/
def toyDraws₂ : Draws UInt8 := ⟨3, List.Vector.replicate _ 7, 4, List.Vector.replicate _ 8⟩

/-- A first session of two sides that attest both ways, and a second one of a
client that only attests its peer and a server with another signer and
additional info: both replays are refused. -/
theorem transcript_signatures_prevent_replay_toy :
    ∃ (hello₁ serverIdentity₁ clientIdentity₁ hello₂ serverIdentity₂ : List UInt8)
      (c₁ c₁' c₂ : ClientHandshaker UInt8 UInt8) (s₁ s₂ : ServerHandshaker UInt8 UInt8),
      toyPrimitives.IdealSignatures ∧
      exec (ClientHandshaker.createClientHello toyDraws.clientKey toyDraws.clientRandom)
          (ClientHandshaker.new (AttestationBehavior.createBidirectionalAttestation [] testTeeMeasurement 3)
            fun _ => .ok ()) = (.ok hello₁, c₁) ∧
      exec (ServerHandshaker.nextStep toyPrimitives toyDraws.serverKey toyDraws.serverRandom hello₁)
          (ServerHandshaker.new (AttestationBehavior.createBidirectionalAttestation [] testTeeMeasurement 4) []) =
        (.ok (some serverIdentity₁), s₁) ∧
      exec (ClientHandshaker.nextStep toyPrimitives serverIdentity₁) c₁ = (.ok (some clientIdentity₁), c₁') ∧
      exec (ClientHandshaker.createClientHello toyDraws₂.clientKey toyDraws₂.clientRandom)
          (ClientHandshaker.new (AttestationBehavior.createPeerAttestation testTeeMeasurement)
            fun _ => .ok ()) = (.ok hello₂, c₂) ∧
      exec (ServerHandshaker.nextStep toyPrimitives toyDraws₂.serverKey toyDraws₂.serverRandom hello₂)
          (ServerHandshaker.new (AttestationBehavior.createBidirectionalAttestation [] testTeeMeasurement 5) [1]) =
        (.ok (some serverIdentity₂), s₂) ∧
      (∀ X, Set.InjOn toyPrimitives.sha256 {s₁.transcript.value, c₂.transcript.value ++ X} ∧
        Set.InjOn toyPrimitives.sha256 {c₁'.transcript.value, s₂.transcript.value ++ X}) ∧
      toyDraws₂.clientRandom ≠ toyDraws.clientRandom ∧ toyDraws.serverRandom ≠ toyDraws₂.serverRandom ∧
      (∃ err c₂', exec (ClientHandshaker.nextStep toyPrimitives serverIdentity₁) c₂ = (.error err, c₂') ∧
        c₂'.state = .aborted) ∧
      ∀ k r, ∃ err s₂', exec (ServerHandshaker.nextStep toyPrimitives k r clientIdentity₁) s₂ = (.error err, s₂') ∧
        s₂'.state = .aborted := by
  have hfit : Fits (AttestationBehavior.createBidirectionalAttestation [] testTeeMeasurement (3 : UInt8))
      (AttestationBehavior.createBidirectionalAttestation [] testTeeMeasurement 4) [] :=
    ⟨fun c hc => by cases hc; decide, fun c hc => by cases hc; decide⟩
  -- the first session up to the client's identity, the second up to the server's
  obtain ⟨c₁, h1, hb₁, hv₁, hs₁, ht₁⟩ := ClientHandshaker.createClientHello_new (K := UInt8)
    (AttestationBehavior.createBidirectionalAttestation [] testTeeMeasurement (3 : UInt8)) (fun _ => .ok ())
    toyDraws.clientKey toyDraws.clientRandom
  obtain ⟨si₁, s₁, h2, -, -, hk₁, hsize₁, hself₁⟩ :=
    ServerHandshaker.answer_hello (P := toyPrimitives) hfit.server toyDraws.serverKey toyDraws.serverRandom
      ⟨toyDraws.clientRandom⟩
  obtain ⟨ci, c₁', -, h3, -⟩ := ClientHandshaker.answer_serverIdentity toyPrimitives_honest c₁ hs₁
    (by rw [hv₁]; exact fun _ => rfl) (by rw [hb₁]; exact fun m hm => by cases hm; rfl) (by rw [hb₁]; exact hfit.client)
    hsize₁ hk₁ fun _ => by rw [ht₁]; exact (hself₁ rfl).1
  obtain ⟨ci', -, -, ht₁'⟩ := ClientHandshaker.nextStep_serverIdentity_of_self toyPrimitives hs₁
    (by rw [hb₁]; rfl) (by rw [hb₁]; rfl) (deserializeMessage_serverIdentity si₁ hsize₁) h3
  -- the second session runs under other configurations: a client that only
  -- attests its peer, and a server with another signer and additional info
  have hfit₂ : Fits (AttestationBehavior.createPeerAttestation (S := UInt8) testTeeMeasurement)
      (AttestationBehavior.createBidirectionalAttestation [] testTeeMeasurement 5) [1] :=
    ⟨fun c hc => by cases hc; decide, fun c hc => by cases hc⟩
  obtain ⟨c₂, h4, -, -, -, ht₂⟩ := ClientHandshaker.createClientHello_new (K := UInt8)
    (AttestationBehavior.createPeerAttestation (S := UInt8) testTeeMeasurement) (fun _ => .ok ())
    toyDraws₂.clientKey toyDraws₂.clientRandom
  obtain ⟨si₂, s₂, h5, -, -, -, -, hself₂⟩ :=
    ServerHandshaker.answer_hello (P := toyPrimitives) hfit₂.server toyDraws₂.serverKey toyDraws₂.serverRandom
      ⟨toyDraws₂.clientRandom⟩
  -- the transcripts of the two sessions differ in the first byte of the hello's random array
  have hcr : ∀ X, Set.InjOn toyPrimitives.sha256 {s₁.transcript.value, c₂.transcript.value ++ X} ∧
      Set.InjOn toyPrimitives.sha256 {c₁'.transcript.value, s₂.transcript.value ++ X} := by
    intro X
    refine ⟨Set.injOn_pair.2 fun h => absurd h ?_, Set.injOn_pair.2 fun h => absurd h ?_⟩
    · rw [(hself₁ rfl).2, ht₂]
      exact toyPrimitives_sha256_ne (by decide : (5 : UInt8) ≠ 7)
    · rw [ht₁', ht₁, (hself₂ rfl).2]
      exact toyPrimitives_sha256_ne (by decide : (5 : UInt8) ≠ 7)
  have hr : toyDraws₂.clientRandom ≠ toyDraws.clientRandom := by decide
  have hs : toyDraws.serverRandom ≠ toyDraws₂.serverRandom := by decide
  have hmain := transcript_signatures_prevent_replay toyPrimitives_idealSignatures ⟨rfl, rfl⟩ rfl rfl ⟨rfl, rfl⟩
    toyDraws toyDraws₂ h1 h2 h3 h4 h5 hcr
  exact ⟨_, _, _, _, _, _, _, _, _, _, toyPrimitives_idealSignatures, h1, h2, h3, h4, h5, hcr, hr, hs,
    hmain.1 hr, hmain.2 (Or.inl hs)⟩

end Oak.Attestation
