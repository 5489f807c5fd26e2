import Oak.Attestation.Handshaker
import Oak.Lib.Machine

/-! The handshakers as state machines driven by their user. The client's user
calls `create_client_hello` and `next_step` with any bytes, in any order; the
server's user calls `next_step` with any bytes. Over every such run:

* no call leaves the handshaker in `MessageProcessing`, the placeholder that
  `std::mem::take` leaves while a message is processed;
* a call that fails leaves it `Aborted`, and from `Aborted` every call fails;
* `get_encryptor` succeeds exactly in `Completed`;
* the client is `Completed` only after exactly two calls that succeeded,
  `create_client_hello` and `next_step` on a `ServerIdentity`, and the server
  only after two `next_step`s that succeeded, on a `ClientHello` and then on a
  `ClientIdentity`.

All of it comes from one lemma per handshaker saying what a call can do: it
succeeds and takes one of the two forward transitions, or it fails and
aborts. -/

namespace Oak.Attestation

open Oak.Lib

variable {K S : Type} (P : Primitives K S)

/-! ### What the client's methods can do -/

section Client

theorem ClientHandshaker.createClientHelloUtil_cases (k : K)
    (r : List.Vector UInt8 replayProtectionArrayLength) (h : ClientHandshaker K S) :
    (h.state = .initializing ∧
      exec (ClientHandshaker.createClientHelloUtil k r) h = (.ok (ClientHello.mk r).serialize,
        { h with transcript := h.transcript.append (ClientHello.mk r).serialize,
                 state := .expectingServerIdentity ⟨.client, k⟩ })) ∨
    ∃ err, exec (ClientHandshaker.createClientHelloUtil k r) h = (.error err, h) := by
  cases hs : h.state <;>
    simp [ClientHandshaker.createClientHelloUtil, exec_bind, exec_map, hs]

theorem ClientHandshaker.processServerIdentity_ok {si : ServerIdentity} {kn : KeyNegotiator K}
    {h h' : ClientHandshaker K S} {ci : ClientIdentity}
    (hx : exec (ClientHandshaker.processServerIdentity P si kn) h = (.ok ci, h')) :
    ∃ e, h'.state = .completed e := by
  unfold ClientHandshaker.processServerIdentity at hx
  -- the attestation checks, the identity, the verifier, the encryptor
  obtain ⟨_, _, -, hx⟩ := exec_bind_eq_ok hx
  obtain ⟨_, _, -, hx⟩ := exec_bind_eq_ok hx
  obtain ⟨_, _, -, hx⟩ := exec_bind_eq_ok hx
  obtain ⟨_, _, -, hx⟩ := exec_bind_eq_ok hx
  obtain ⟨e, _, -, hx⟩ := exec_bind_eq_ok hx
  rw [exec_bind_ok (exec_modify _ _), exec_pure] at hx
  cases hx
  exact ⟨e, rfl⟩

theorem ClientHandshaker.nextStepUtil_ok {m : List UInt8} {h h' : ClientHandshaker K S}
    {r : Option (List UInt8)} (hx : exec (ClientHandshaker.nextStepUtil P m) h = (.ok r, h')) :
    (∃ si, deserializeMessage m = .ok (.serverIdentity si)) ∧
      (∃ kn, h.state = .expectingServerIdentity kn) ∧ ∃ e, h'.state = .completed e := by
  unfold ClientHandshaker.nextStepUtil at hx
  obtain ⟨msg, h₁, hd, hx⟩ := exec_bind_eq_ok hx
  obtain ⟨hd, hh⟩ := exec_liftM_eq_ok hd
  rw [hh] at hx
  cases msg with
  | serverIdentity si =>
    rw [exec_bind_ok (exec_get _), exec_bind_ok (exec_modify _ _)] at hx
    -- the state taken out of the handshaker decides the arm
    cases hs : h.state with
    | expectingServerIdentity kn =>
      rw [hs] at hx
      obtain ⟨ci, _, hci, hx⟩ := exec_bind_eq_ok hx
      rw [exec_pure] at hx
      cases hx
      exact ⟨⟨si, hd⟩, ⟨kn, rfl⟩, ClientHandshaker.processServerIdentity_ok P hci⟩
    | _ => simp [hs, exec_bind] at hx
  | _ => simp at hx

end Client

/-! ### What the server's methods can do -/

section Server

theorem ServerHandshaker.processClientHello_ok {k : K}
    {r : List.Vector UInt8 replayProtectionArrayLength} {ch : ClientHello}
    {h h' : ServerHandshaker K S} {si : ServerIdentity}
    (hx : exec (ServerHandshaker.processClientHello P k r ch) h = (.ok si, h')) :
    h'.state = .expectingClientIdentity ⟨.server, k⟩ := by
  unfold ServerHandshaker.processClientHello at hx
  obtain ⟨_, _, -, hx⟩ := exec_bind_eq_ok hx
  obtain ⟨_, _, -, hx⟩ := exec_bind_eq_ok hx
  rw [exec_bind_ok (exec_modify _ _), exec_pure] at hx
  cases hx
  rfl

theorem ServerHandshaker.processClientIdentity_ok {ci : ClientIdentity} {kn : KeyNegotiator K}
    {h h' : ServerHandshaker K S} {u : Unit}
    (hx : exec (ServerHandshaker.processClientIdentity P ci kn) h = (.ok u, h')) :
    ∃ e, h'.state = .completed e := by
  unfold ServerHandshaker.processClientIdentity at hx
  obtain ⟨_, _, -, hx⟩ := exec_bind_eq_ok hx
  obtain ⟨e, _, -, hx⟩ := exec_bind_eq_ok hx
  rw [exec_modify] at hx
  cases hx
  exact ⟨e, rfl⟩

theorem ServerHandshaker.nextStepUtil_ok {k : K} {rnd : List.Vector UInt8 replayProtectionArrayLength}
    {m : List UInt8} {h h' : ServerHandshaker K S} {r : Option (List UInt8)}
    (hx : exec (ServerHandshaker.nextStepUtil P k rnd m) h = (.ok r, h')) :
    ((∃ ch, deserializeMessage m = .ok (.clientHello ch)) ∧ h.state = .expectingClientHello ∧
        h'.state = .expectingClientIdentity ⟨.server, k⟩) ∨
      ((∃ ci, deserializeMessage m = .ok (.clientIdentity ci)) ∧
        (∃ kn, h.state = .expectingClientIdentity kn) ∧ ∃ e, h'.state = .completed e) := by
  unfold ServerHandshaker.nextStepUtil at hx
  obtain ⟨msg, h₁, hd, hx⟩ := exec_bind_eq_ok hx
  obtain ⟨hd, hh⟩ := exec_liftM_eq_ok hd
  rw [hh] at hx
  cases msg with
  | clientHello ch =>
    rw [exec_bind_ok (exec_get _)] at hx
    cases hs : h.state with
    | expectingClientHello =>
      rw [hs] at hx
      obtain ⟨si, _, hsi, hx⟩ := exec_bind_eq_ok hx
      rw [exec_pure] at hx
      cases hx
      exact .inl ⟨⟨ch, hd⟩, rfl, ServerHandshaker.processClientHello_ok P hsi⟩
    | _ => simp [hs] at hx
  | clientIdentity ci =>
    rw [exec_bind_ok (exec_get _), exec_bind_ok (exec_modify _ _)] at hx
    cases hs : h.state with
    | expectingClientIdentity kn =>
      rw [hs] at hx
      obtain ⟨_, _, hci, hx⟩ := exec_bind_eq_ok hx
      rw [exec_pure] at hx
      cases hx
      exact .inr ⟨⟨ci, hd⟩, ⟨kn, rfl⟩, ServerHandshaker.processClientIdentity_ok P hci⟩
    | _ => simp [hs, exec_bind] at hx
  | _ => simp at hx

end Server

/-! ### Calls -/

/-- A call the client's user makes, with what `create_client_hello` draws. -/
inductive ClientCall (K : Type)
  | createClientHello (privateKey : K) (random : List.Vector UInt8 replayProtectionArrayLength)
  | nextStep (message : List UInt8)

/-- A call the server's user makes: `next_step`, with what it would draw. -/
structure ServerCall (K : Type) where
  privateKey : K
  random : List.Vector UInt8 replayProtectionArrayLength
  message : List UInt8

/-- The result of a call and the handshaker after it; the message
`create_client_hello` returns is given as `some`. -/
def ClientHandshaker.call (h : ClientHandshaker K S) :
    ClientCall K → Except String (Option (List UInt8)) × ClientHandshaker K S
  | .createClientHello k r =>
    let (result, h') := exec (ClientHandshaker.createClientHello k r) h
    (some <$> result, h')
  | .nextStep m => exec (ClientHandshaker.nextStep P m) h

/-- The result of a call and the handshaker after it. -/
def ServerHandshaker.call (h : ServerHandshaker K S) (c : ServerCall K) :
    Except String (Option (List UInt8)) × ServerHandshaker K S :=
  exec (ServerHandshaker.nextStep P c.privateKey c.random c.message) h

/-- The client as a machine: every call is a step. -/
def ClientHandshaker.step (h : ClientHandshaker K S) (c : ClientCall K) :
    Option (ClientHandshaker K S × Except String (Option (List UInt8))) :=
  some ((h.call P c).2, (h.call P c).1)

/-- The server as a machine: every call is a step. -/
def ServerHandshaker.step (h : ServerHandshaker K S) (c : ServerCall K) :
    Option (ServerHandshaker K S × Except String (Option (List UInt8))) :=
  some ((h.call P c).2, (h.call P c).1)

/-- `create_client_hello` from `Initializing`, which leaves the client
expecting the server's identity. -/
def ClientHandshaker.Hello (c : ClientCall K) (h h' : ClientHandshaker K S) : Prop :=
  ∃ k r, c = .createClientHello k r ∧ h.state = .initializing ∧
    h'.state = .expectingServerIdentity ⟨.client, k⟩

/-- `next_step` on a `ServerIdentity` from `ExpectingServerIdentity`, which
completes the client. -/
def ClientHandshaker.Completes (c : ClientCall K) (h h' : ClientHandshaker K S) : Prop :=
  ∃ m si, c = .nextStep m ∧ deserializeMessage m = .ok (.serverIdentity si) ∧
    (∃ kn, h.state = .expectingServerIdentity kn) ∧ ∃ e, h'.state = .completed e

/-- `next_step` on a `ClientHello` from `ExpectingClientHello`, which leaves
the server expecting the client's identity. -/
def ServerHandshaker.Hello (c : ServerCall K) (h h' : ServerHandshaker K S) : Prop :=
  (∃ ch, deserializeMessage c.message = .ok (.clientHello ch)) ∧ h.state = .expectingClientHello ∧
    h'.state = .expectingClientIdentity ⟨.server, c.privateKey⟩

/-- `next_step` on a `ClientIdentity` from `ExpectingClientIdentity`, which
completes the server. -/
def ServerHandshaker.Completes (c : ServerCall K) (h h' : ServerHandshaker K S) : Prop :=
  (∃ ci, deserializeMessage c.message = .ok (.clientIdentity ci)) ∧
    (∃ kn, h.state = .expectingClientIdentity kn) ∧ ∃ e, h'.state = .completed e

theorem ClientHandshaker.call_cases (h : ClientHandshaker K S) (c : ClientCall K) :
    ((∃ out, (h.call P c).1 = .ok out) ∧
        (ClientHandshaker.Hello c h (h.call P c).2 ∨ ClientHandshaker.Completes c h (h.call P c).2)) ∨
      ((∃ err, (h.call P c).1 = .error err) ∧ (h.call P c).2.state = .aborted) := by
  cases c with
  | createClientHello k r =>
    simp only [ClientHandshaker.call, ClientHandshaker.createClientHello, exec_tryCatch_modify]
    rcases ClientHandshaker.createClientHelloUtil_cases k r h with ⟨hs, hx⟩ | ⟨err, hx⟩
    · rw [hx]
      exact .inl ⟨⟨_, rfl⟩, .inl ⟨k, r, rfl, hs, rfl⟩⟩
    · rw [hx]
      exact .inr ⟨⟨err, rfl⟩, rfl⟩
  | nextStep m =>
    simp only [ClientHandshaker.call, ClientHandshaker.nextStep, exec_tryCatch_modify]
    rcases hx : exec (ClientHandshaker.nextStepUtil P m) h with ⟨_ | out, h'⟩
    · exact .inr ⟨⟨_, rfl⟩, rfl⟩
    · obtain ⟨⟨si, hsi⟩, hs, hc⟩ := ClientHandshaker.nextStepUtil_ok P hx
      exact .inl ⟨⟨out, rfl⟩, .inr ⟨m, si, rfl, hsi, hs, hc⟩⟩

theorem ServerHandshaker.call_cases (h : ServerHandshaker K S) (c : ServerCall K) :
    ((∃ out, (h.call P c).1 = .ok out) ∧
        (ServerHandshaker.Hello c h (h.call P c).2 ∨ ServerHandshaker.Completes c h (h.call P c).2)) ∨
      ((∃ err, (h.call P c).1 = .error err) ∧ (h.call P c).2.state = .aborted) := by
  simp only [ServerHandshaker.call, ServerHandshaker.nextStep, exec_tryCatch_modify]
  rcases hx : exec (ServerHandshaker.nextStepUtil P c.privateKey c.random c.message) h with ⟨_ | out, h'⟩
  · exact .inr ⟨⟨_, rfl⟩, rfl⟩
  · exact .inl ⟨⟨out, rfl⟩, ServerHandshaker.nextStepUtil_ok P hx⟩

theorem ClientHandshaker.call_of_aborted {h : ClientHandshaker K S} (hs : h.state = .aborted)
    (c : ClientCall K) : (∃ err, (h.call P c).1 = .error err) ∧ (h.call P c).2.state = .aborted := by
  rcases h.call_cases P c with ⟨-, ⟨_, _, -, hi, -⟩ | ⟨_, _, -, -, ⟨_, he⟩, -⟩⟩ | hfail
  · rw [hs] at hi
    cases hi
  · rw [hs] at he
    cases he
  · exact hfail

theorem ServerHandshaker.call_of_aborted {h : ServerHandshaker K S} (hs : h.state = .aborted)
    (c : ServerCall K) : (∃ err, (h.call P c).1 = .error err) ∧ (h.call P c).2.state = .aborted := by
  rcases h.call_cases P c with ⟨-, ⟨-, hi, -⟩ | ⟨-, ⟨_, he⟩, -⟩⟩ | hfail
  · rw [hs] at hi
    cases hi
  · rw [hs] at he
    cases he
  · exact hfail

/-! ### Runs -/

/-- An entry of a client run. -/
abbrev ClientEntry (K S : Type) := Entry (ClientHandshaker K S) (ClientCall K) (Except String (Option (List UInt8)))

/-- An entry of a server run. -/
abbrev ServerEntry (K S : Type) := Entry (ServerHandshaker K S) (ServerCall K) (Except String (Option (List UInt8)))

/-- A `create_client_hello` that succeeded. -/
def ClientEntry.SentHello (e : ClientEntry K S) : Prop :=
  (∃ out, e.reply = .ok out) ∧ ClientHandshaker.Hello e.act e.pre e.post

/-- A `next_step` that succeeded on a `ServerIdentity`. -/
def ClientEntry.AcceptedIdentity (e : ClientEntry K S) : Prop :=
  (∃ out, e.reply = .ok out) ∧ ClientHandshaker.Completes e.act e.pre e.post

/-- A `next_step` that succeeded on a `ClientHello`. -/
def ServerEntry.AcceptedHello (e : ServerEntry K S) : Prop :=
  (∃ out, e.reply = .ok out) ∧ ServerHandshaker.Hello e.act e.pre e.post

/-- A `next_step` that succeeded on a `ClientIdentity`. -/
def ServerEntry.AcceptedIdentity (e : ServerEntry K S) : Prop :=
  (∃ out, e.reply = .ok out) ∧ ServerHandshaker.Completes e.act e.pre e.post

/-- How far a client run has got: nowhere, past the hello, completed, or
aborted. -/
def ClientProgress (tr : List (ClientEntry K S)) (h : ClientHandshaker K S) : Prop :=
  (tr = [] ∧ h.state = .initializing) ∨
    (∃ e₁, tr = [e₁] ∧ e₁.SentHello ∧ ∃ kn, h.state = .expectingServerIdentity kn) ∨
    (∃ e₁ e₂, tr = [e₁, e₂] ∧ e₁.SentHello ∧ e₂.AcceptedIdentity ∧ ∃ e, h.state = .completed e) ∨
    h.state = .aborted

/-- How far a server run has got. -/
def ServerProgress (tr : List (ServerEntry K S)) (h : ServerHandshaker K S) : Prop :=
  (tr = [] ∧ h.state = .expectingClientHello) ∨
    (∃ e₁, tr = [e₁] ∧ e₁.AcceptedHello ∧ ∃ kn, h.state = .expectingClientIdentity kn) ∨
    (∃ e₁ e₂, tr = [e₁, e₂] ∧ e₁.AcceptedHello ∧ e₂.AcceptedIdentity ∧ ∃ e, h.state = .completed e) ∨
    h.state = .aborted

theorem ClientProgress.step {tr : List (ClientEntry K S)} {h : ClientHandshaker K S}
    (hp : ClientProgress tr h) (c : ClientCall K) :
    ClientProgress (tr ++ [⟨h, c, (h.call P c).2, (h.call P c).1⟩]) (h.call P c).2 := by
  rcases h.call_cases P c with ⟨hok, hhello | hdone⟩ | ⟨-, habort⟩
  · -- a hello is sent only from `Initializing`, where the run is empty
    obtain ⟨_, _, -, hi, he⟩ := id hhello
    rcases hp with ⟨rfl, -⟩ | ⟨-, -, -, _, hs⟩ | ⟨-, -, -, -, -, _, hs⟩ | hs
    · exact .inr (.inl ⟨_, rfl, ⟨hok, hhello⟩, _, he⟩)
    all_goals rw [hs] at hi; cases hi
  · -- the identity is accepted only while expecting it, just after the hello
    obtain ⟨_, _, -, -, ⟨_, hi⟩, he⟩ := id hdone
    rcases hp with ⟨-, hs⟩ | ⟨e₁, rfl, h₁, -⟩ | ⟨-, -, -, -, -, _, hs⟩ | hs
    · rw [hs] at hi
      cases hi
    · exact .inr (.inr (.inl ⟨e₁, _, rfl, h₁, ⟨hok, hdone⟩, he⟩))
    all_goals rw [hs] at hi; cases hi
  · exact .inr (.inr (.inr habort))

theorem ServerProgress.step {tr : List (ServerEntry K S)} {h : ServerHandshaker K S}
    (hp : ServerProgress tr h) (c : ServerCall K) :
    ServerProgress (tr ++ [⟨h, c, (h.call P c).2, (h.call P c).1⟩]) (h.call P c).2 := by
  rcases h.call_cases P c with ⟨hok, hhello | hdone⟩ | ⟨-, habort⟩
  · obtain ⟨-, hi, he⟩ := id hhello
    rcases hp with ⟨rfl, -⟩ | ⟨-, -, -, _, hs⟩ | ⟨-, -, -, -, -, _, hs⟩ | hs
    · exact .inr (.inl ⟨_, rfl, ⟨hok, hhello⟩, _, he⟩)
    all_goals rw [hs] at hi; cases hi
  · obtain ⟨-, ⟨_, hi⟩, he⟩ := id hdone
    rcases hp with ⟨-, hs⟩ | ⟨e₁, rfl, h₁, -⟩ | ⟨-, -, -, -, -, _, hs⟩ | hs
    · rw [hs] at hi
      cases hi
    · exact .inr (.inr (.inl ⟨e₁, _, rfl, h₁, ⟨hok, hdone⟩, he⟩))
    all_goals rw [hs] at hi; cases hi
  · exact .inr (.inr (.inr habort))

theorem ClientProgress.of_run {B : AttestationBehavior S} {v : ServerIdentity → Except String Unit}
    {tr : List (ClientEntry K S)} {h : ClientHandshaker K S}
    (hr : Run (ClientHandshaker.step P) (ClientHandshaker.new B v) tr h) : ClientProgress tr h := by
  refine hr.history_invariant (fun tr h => ClientProgress tr h) (.inl ⟨rfl, rfl⟩) ?_
  intro tr h c h' r _ hp hst
  cases hst
  exact hp.step P c

theorem ServerProgress.of_run {B : AttestationBehavior S} {a : List UInt8}
    {tr : List (ServerEntry K S)} {h : ServerHandshaker K S}
    (hr : Run (ServerHandshaker.step P) (ServerHandshaker.new B a) tr h) : ServerProgress tr h := by
  refine hr.history_invariant (fun tr h => ServerProgress tr h) (.inl ⟨rfl, rfl⟩) ?_
  intro tr h c h' r _ hp hst
  cases hst
  exact hp.step P c

theorem ClientProgress.state_ne {tr : List (ClientEntry K S)} {h : ClientHandshaker K S}
    (hp : ClientProgress tr h) : h.state ≠ .messageProcessing := by
  rcases hp with ⟨-, hs⟩ | ⟨-, -, -, _, hs⟩ | ⟨-, -, -, -, -, _, hs⟩ | hs <;> rw [hs] <;> nofun

theorem ServerProgress.state_ne {tr : List (ServerEntry K S)} {h : ServerHandshaker K S}
    (hp : ServerProgress tr h) : h.state ≠ .messageProcessing := by
  rcases hp with ⟨-, hs⟩ | ⟨-, -, -, _, hs⟩ | ⟨-, -, -, -, -, _, hs⟩ | hs <;> rw [hs] <;> nofun

theorem ClientHandshaker.getEncryptor_ok_iff (h : ClientHandshaker K S) :
    (∃ enc, h.getEncryptor = .ok enc) ↔ ∃ e, h.state = .completed e := by
  unfold ClientHandshaker.getEncryptor
  cases h.state <;> simp

theorem ServerHandshaker.getEncryptor_ok_iff (h : ServerHandshaker K S) :
    (∃ enc, h.getEncryptor = .ok enc) ↔ ∃ e, h.state = .completed e := by
  unfold ServerHandshaker.getEncryptor
  cases h.state <;> simp

/-- The state machine of the client over a run of calls. -/
structure ClientSafe (tr : List (ClientEntry K S)) (h : ClientHandshaker K S) : Prop where
  not_processing : ∀ t ∈ states tr h, t.state ≠ .messageProcessing
  error_aborts : ∀ e ∈ tr, ∀ err, e.reply = .error err → e.post.state = .aborted
  aborted_absorbs : ∀ e ∈ tr, e.pre.state = .aborted →
    (∃ err, e.reply = .error err) ∧ e.post.state = .aborted
  encryptor_iff : ∀ t ∈ states tr h, (∃ enc, t.getEncryptor = .ok enc) ↔ ∃ e, t.state = .completed e
  completed_via : ∀ e, h.state = .completed e →
    ∃ e₁ e₂, tr = [e₁, e₂] ∧ e₁.SentHello ∧ e₂.AcceptedIdentity

/-- The state machine of the server over a run of calls. -/
structure ServerSafe (tr : List (ServerEntry K S)) (h : ServerHandshaker K S) : Prop where
  not_processing : ∀ t ∈ states tr h, t.state ≠ .messageProcessing
  error_aborts : ∀ e ∈ tr, ∀ err, e.reply = .error err → e.post.state = .aborted
  aborted_absorbs : ∀ e ∈ tr, e.pre.state = .aborted →
    (∃ err, e.reply = .error err) ∧ e.post.state = .aborted
  encryptor_iff : ∀ t ∈ states tr h, (∃ enc, t.getEncryptor = .ok enc) ↔ ∃ e, t.state = .completed e
  completed_via : ∀ e, h.state = .completed e →
    ∃ e₁ e₂, tr = [e₁, e₂] ∧ e₁.AcceptedHello ∧ e₂.AcceptedIdentity

theorem ClientHandshaker.entry_of_run {B : AttestationBehavior S} {v : ServerIdentity → Except String Unit}
    {tr : List (ClientEntry K S)} {h : ClientHandshaker K S}
    (hr : Run (ClientHandshaker.step P) (ClientHandshaker.new B v) tr h) {e : ClientEntry K S}
    (he : e ∈ tr) : e.post = (e.pre.call P e.act).2 ∧ e.reply = (e.pre.call P e.act).1 := by
  obtain ⟨-, hst⟩ := hr.entry e he
  obtain ⟨hpost, hreply⟩ := Prod.mk.inj (Option.some.inj hst)
  exact ⟨hpost.symm, hreply.symm⟩

theorem ServerHandshaker.entry_of_run {B : AttestationBehavior S} {a : List UInt8}
    {tr : List (ServerEntry K S)} {h : ServerHandshaker K S}
    (hr : Run (ServerHandshaker.step P) (ServerHandshaker.new B a) tr h) {e : ServerEntry K S}
    (he : e ∈ tr) : e.post = (e.pre.call P e.act).2 ∧ e.reply = (e.pre.call P e.act).1 := by
  obtain ⟨-, hst⟩ := hr.entry e he
  obtain ⟨hpost, hreply⟩ := Prod.mk.inj (Option.some.inj hst)
  exact ⟨hpost.symm, hreply.symm⟩

theorem ClientSafe.of_run {B : AttestationBehavior S} {v : ServerIdentity → Except String Unit}
    {tr : List (ClientEntry K S)} {h : ClientHandshaker K S}
    (hr : Run (ClientHandshaker.step P) (ClientHandshaker.new B v) tr h) : ClientSafe tr h where
  not_processing t ht := by
    obtain ⟨tr', hr'⟩ := hr.reachable_of_mem_states t ht
    exact (ClientProgress.of_run P hr').state_ne
  error_aborts e he err herr := by
    obtain ⟨hpost, hreply⟩ := ClientHandshaker.entry_of_run P hr he
    rcases e.pre.call_cases P e.act with ⟨⟨out, hok⟩, -⟩ | ⟨-, habort⟩
    · rw [← hreply, herr] at hok
      cases hok
    · rw [hpost]
      exact habort
  aborted_absorbs e he hs := by
    obtain ⟨hpost, hreply⟩ := ClientHandshaker.entry_of_run P hr he
    rw [hpost, hreply]
    exact ClientHandshaker.call_of_aborted P hs e.act
  encryptor_iff t _ := t.getEncryptor_ok_iff
  completed_via e hs := by
    rcases ClientProgress.of_run P hr with ⟨-, hi⟩ | ⟨-, -, -, _, hi⟩ | ⟨e₁, e₂, rfl, h₁, h₂, -⟩ | hi
    · rw [hs] at hi
      cases hi
    · rw [hs] at hi
      cases hi
    · exact ⟨e₁, e₂, rfl, h₁, h₂⟩
    · rw [hs] at hi
      cases hi

theorem ServerSafe.of_run {B : AttestationBehavior S} {a : List UInt8}
    {tr : List (ServerEntry K S)} {h : ServerHandshaker K S}
    (hr : Run (ServerHandshaker.step P) (ServerHandshaker.new B a) tr h) : ServerSafe tr h where
  not_processing t ht := by
    obtain ⟨tr', hr'⟩ := hr.reachable_of_mem_states t ht
    exact (ServerProgress.of_run P hr').state_ne
  error_aborts e he err herr := by
    obtain ⟨hpost, hreply⟩ := ServerHandshaker.entry_of_run P hr he
    rcases e.pre.call_cases P e.act with ⟨⟨out, hok⟩, -⟩ | ⟨-, habort⟩
    · rw [← hreply, herr] at hok
      cases hok
    · rw [hpost]
      exact habort
  aborted_absorbs e he hs := by
    obtain ⟨hpost, hreply⟩ := ServerHandshaker.entry_of_run P hr he
    rw [hpost, hreply]
    exact ServerHandshaker.call_of_aborted P hs e.act
  encryptor_iff t _ := t.getEncryptor_ok_iff
  completed_via e hs := by
    rcases ServerProgress.of_run P hr with ⟨-, hi⟩ | ⟨-, -, -, _, hi⟩ | ⟨e₁, e₂, rfl, h₁, h₂, -⟩ | hi
    · rw [hs] at hi
      cases hi
    · rw [hs] at hi
      cases hi
    · exact ⟨e₁, e₂, rfl, h₁, h₂⟩
    · rw [hs] at hi
      cases hi

/-- The handshakers' state machines, over every run of calls with any bytes:
never `MessageProcessing` after a call, `Aborted` after a failure and for
good, an encryptor only when `Completed`, and `Completed` only after the two
calls of the protocol succeeded. -/
theorem handshaker_state_machine (P : Primitives K S) :
    (∀ (B : AttestationBehavior S) (v : ServerIdentity → Except String Unit) tr h,
      Run (ClientHandshaker.step P) (ClientHandshaker.new B v) tr h → ClientSafe tr h) ∧
    (∀ (B : AttestationBehavior S) (a : List UInt8) tr h,
      Run (ServerHandshaker.step P) (ServerHandshaker.new B a) tr h → ServerSafe tr h) :=
  ⟨fun _ _ _ _ hr => ClientSafe.of_run P hr, fun _ _ _ _ hr => ServerSafe.of_run P hr⟩

/-- A bidirectional handshake run call by call, each side given the bytes the
other side's last call returned: both sides reach `Completed`. -/
theorem handshaker_state_machine_completes :
    ∃ (trc : List (ClientEntry UInt8 UInt8)) (c : ClientHandshaker UInt8 UInt8)
      (trs : List (ServerEntry UInt8 UInt8)) (s : ServerHandshaker UInt8 UInt8),
      Run (ClientHandshaker.step toyPrimitives) (ClientHandshaker.new
        (AttestationBehavior.createBidirectionalAttestation [] testTeeMeasurement 3) fun _ => .ok ()) trc c ∧
      ClientSafe trc c ∧ c.state.name = "Completed" ∧
      Run (ServerHandshaker.step toyPrimitives) (ServerHandshaker.new
        (AttestationBehavior.createBidirectionalAttestation [] testTeeMeasurement 4) []) trs s ∧
      ServerSafe trs s ∧ s.state.name = "Completed" := by
  let sent : Except String (Option (List UInt8)) → List UInt8 := fun r => (r.toOption.bind id).getD []
  let c₀ := ClientHandshaker.new (K := UInt8)
    (AttestationBehavior.createBidirectionalAttestation [] testTeeMeasurement (3 : UInt8)) fun _ => .ok ()
  let s₀ := ServerHandshaker.new (K := UInt8)
    (AttestationBehavior.createBidirectionalAttestation [] testTeeMeasurement (4 : UInt8)) []
  let hello := c₀.call toyPrimitives (.createClientHello 1 (List.Vector.replicate _ 5))
  let serverIdentity := s₀.call toyPrimitives ⟨2, List.Vector.replicate _ 6, sent hello.1⟩
  let clientIdentity := hello.2.call toyPrimitives (.nextStep (sent serverIdentity.1))
  have hc := ((Run.nil : Run (ClientHandshaker.step toyPrimitives) c₀ [] c₀).snoc
    (a := .createClientHello 1 (List.Vector.replicate _ 5)) rfl).snoc
    (a := .nextStep (sent serverIdentity.1)) rfl
  have hs := ((Run.nil : Run (ServerHandshaker.step toyPrimitives) s₀ [] s₀).snoc
    (a := ⟨2, List.Vector.replicate _ 6, sent hello.1⟩) rfl).snoc
    (a := ⟨2, List.Vector.replicate _ 6, sent clientIdentity.1⟩) rfl
  refine ⟨_, _, _, _, hc, (handshaker_state_machine toyPrimitives).1 _ _ _ _ hc, by decide +kernel,
    hs, (handshaker_state_machine toyPrimitives).2 _ _ _ _ hs, by decide +kernel⟩

end Oak.Attestation
