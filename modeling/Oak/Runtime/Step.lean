import Oak.Runtime.Frame
import Oak.Lib.Machine

/-! The `Runtime` as a system: the calls Nodes make through the ABI (and the
Runtime's own `remove_node_id` and `stop`, and the unparking of a thread parked
in `wait_on_channels`) as requests of a step function, the
state `RuntimeProxy::create_runtime` starts from, and for each operation an
inversion lemma that says everything it can do. -/

namespace Oak

open Oak.Lib

/-- A call into the `Runtime` by Node `nodeId`. Handle values the source draws
at random are part of the request. -/
inductive Action where
  | channelCreate (nodeId : NodeId) (label : Label) (downgrade : Downgrading)
      (writeHandle readHandle : Handle)
  | handleClone (nodeId : NodeId) (handle newHandle : Handle)
  | channelClose (nodeId : NodeId) (handle : Handle)
  | channelWrite (nodeId : NodeId) (writeHandle : Handle) (nodeMsg : NodeMessage)
      (downgrade : Downgrading)
  | channelRead (nodeId : NodeId) (readHandle : Handle) (downgrade : Downgrading)
      (handles : List Handle)
  | channelTryReadMessage (nodeId : NodeId) (handle : Handle) (bytesCapacity handlesCapacity : Nat)
      (downgrade : Downgrading) (handles : List Handle)
  | waitOnChannels (nodeId : NodeId) (readHandles : List Handle) (downgrade : Downgrading)
  | unpark (nodeId : NodeId)
  | nodeRegister (nodeId : NodeId) (label : Label) (initialHandle : Handle) (downgrade : Downgrading)
      (privilege : NodePrivilege) (isolation : NodeIsolation) (newHandle : Handle)
  | removeNodeId (nodeId : NodeId) (order : List Handle)
  | stop

/-- The Node whose thread makes the call; an unparking and `stop` are not
calls of a Node. -/
def Action.caller : Action → Option NodeId
  | .channelCreate n .. | .handleClone n .. | .channelClose n .. | .channelWrite n .. | .channelRead n ..
  | .channelTryReadMessage n .. | .waitOnChannels n .. | .nodeRegister n .. | .removeNodeId n .. => some n
  | .unpark _ | .stop => none

/-- What a call returns. -/
inductive Reply where
  | handles (r : Except OakStatus (Handle × Handle))
  | handle (r : Except OakStatus Handle)
  | status (r : Except OakStatus Unit)
  | read (r : Except OakStatus (Option NodeMessage))
  | tryRead (r : Except OakStatus (Option NodeReadStatus))
  | statuses (r : Except OakStatus (List ChannelReadStatus))
  /-- `wait_on_channels` has not returned: its thread is parked. -/
  | parked
  | done
  deriving DecidableEq

namespace Runtime

/-- `RuntimeProxy::create_runtime`: no channels, and the implicit initial Node
with id 0, label public untrusted and no privilege. -/
def create : Runtime where
  terminating := false
  nextChannelId := 0
  channels := ∅
  nodeInfos := Finmap.singleton 0 ⟨Label.publicUntrusted, NodePrivilege.default, ∅⟩
  nextNodeId := 1
  parked := ∅

/-- What a pass of `wait_on_channels` replies: its result, once the call returns. -/
def waitReply : Option (Except OakStatus (List ChannelReadStatus)) → Reply
  | some r => .statuses r
  | none => .parked

/-- Node 0 creates a channel and sends its write handle over it to a Node it
creates with the read handle; Node 0 then waits on the read handle and parks,
and the new Node's write unparks it. -/
def handoff : List Action :=
  [.channelCreate 0 Label.publicUntrusted .no 1 2, .channelWrite 0 1 ⟨[], [1]⟩ .no,
    .nodeRegister 0 Label.publicUntrusted 2 .no NodePrivilege.default .sandboxed 5, .channelRead 1 5 .no [6],
    .waitOnChannels 0 [2] .no, .channelWrite 1 6 ⟨[7], []⟩ .no, .unpark 0]

/-- One call, on the state it is made in. -/
def call (s : Runtime) : Action → Option (Runtime × Reply)
  | .channelCreate n l d wh rh => (s.channelCreate n l d wh rh).map fun p => (p.1, .handles p.2)
  | .handleClone n h h' => (s.handleClone n h h').map fun p => (p.1, .handle p.2)
  | .channelClose n h => (s.channelClose n h).map fun p => (p.1, .status p.2)
  | .channelWrite n h m d => (s.channelWrite n h m d).map fun p => (p.1, .status p.2)
  | .channelRead n h d hs => (s.channelRead n h d hs).map fun p => (p.1, .read p.2)
  | .channelTryReadMessage n h b k d hs =>
    (s.channelTryReadMessage n h b k d hs).map fun p => (p.1, .tryRead p.2)
  | .waitOnChannels n hs d => (s.waitOnChannels n hs d).map fun p => (p.1, waitReply p.2)
  | .unpark n => (s.unpark n).map fun p => (p.1, waitReply p.2)
  | .nodeRegister n l h d p i h' => (s.nodeRegister n l h d p i h').map fun p => (p.1, .status p.2)
  | .removeNodeId n order => (s.removeNodeId n order).map fun s' => (s', .done)
  | .stop => some (s.stop, .done)

/-- One step: a call, which a Node whose thread is parked in `wait_on_channels`
cannot make. -/
def step (s : Runtime) (a : Action) : Option (Runtime × Reply) :=
  match a.caller with
  | some n => if n ∈ s.parked then none else s.call a
  | none => s.call a

theorem call_of_step {s s' : Runtime} {a : Action} {r : Reply} (h : s.step a = some (s', r)) :
    s.call a = some (s', r) ∧ ∀ n, a.caller = some n → n ∉ s.parked := by
  unfold step at h
  split at h
  · next n hn =>
    split at h
    · cases h
    · next hp => exact ⟨h, fun m hm => by rw [hn, Option.some.injEq] at hm; exact hm ▸ hp⟩
  · next hn => exact ⟨h, fun m hm => by rw [hn] at hm; cases hm⟩

/-- The entries of the `Runtime`'s runs. -/
abbrev Event := Entry Runtime Action Reply

/-! ### Closing handles -/

/-- The table of Node `n` without `handle`. -/
def eraseHandle (s : Runtime) (n : NodeId) (i : NodeInfo) (handle : Handle) : Runtime :=
  { s with nodeInfos := s.nodeInfos.insert n ({ i with abiHandles := i.abiHandles.erase handle }) }

theorem channelClose_cases {s s' : Runtime} {n : NodeId} {handle : Handle}
    {r : Except OakStatus Unit} (h : s.channelClose n handle = some (s', r)) :
    ∃ i, s.nodeInfos.lookup n = some i ∧
      ((i.abiHandles.lookup handle = none ∧ s' = s ∧ r = .error .errBadHandle) ∨
        ∃ half, i.abiHandles.lookup handle = some half ∧
          s' = (s.eraseHandle n i handle).dropHalves [half] ∧ r = .ok ()) := by
  unfold channelClose at h
  split at h
  · cases h
  · next i hi =>
    refine ⟨i, hi, ?_⟩
    split at h
    · next hl =>
      simp only [Option.some.injEq, Prod.mk.injEq] at h
      exact .inl ⟨hl, h.1.symm, h.2.symm⟩
    · next half hl =>
      simp only [Option.some.injEq, Prod.mk.injEq] at h
      exact .inr ⟨half, hl, h.1.symm, h.2.symm⟩

theorem Counted.eraseHandle {s : Runtime} {P : Multiset ChannelHalf} {n : NodeId} {i : NodeInfo}
    {handle : Handle} {half : ChannelHalf} (hs : s.Counted P) (hi : s.nodeInfos.lookup n = some i)
    (hl : i.abiHandles.lookup handle = some half) : (s.eraseHandle n i handle).Counted (half ::ₘ P) := by
  refine hs.of_halves_eq rfl ?_
  have key := halves_insert_node hi ({ i with abiHandles := i.abiHandles.erase handle })
  rw [NodeInfo.tableHalves_erase hl, Multiset.add_cons] at key
  change half ::ₘ ((s.eraseHandle n i handle).halves + _) = _ at key
  apply add_right_cancel (b := NodeInfo.tableHalves { i with abiHandles := i.abiHandles.erase handle })
  rw [Multiset.add_cons, Multiset.cons_add, add_right_comm, ← Multiset.cons_add, key, add_right_comm]

theorem lookup_eraseHandle_self (s : Runtime) (n : NodeId) (i : NodeInfo) (handle : Handle) :
    (s.eraseHandle n i handle).nodeInfos.lookup n =
      some { i with abiHandles := i.abiHandles.erase handle } := by
  simp [eraseHandle]

theorem Counted.channelClose {s s' : Runtime} {P : Multiset ChannelHalf} {n : NodeId}
    {handle : Handle} {r : Except OakStatus Unit} (hs : s.Counted P)
    (h : s.channelClose n handle = some (s', r)) : s'.Counted P := by
  obtain ⟨i, hi, ⟨-, rfl, -⟩ | ⟨half, hl, rfl, -⟩⟩ := channelClose_cases h
  · exact hs
  · exact (hs.eraseHandle hi hl).dropHalves

theorem frame_channelClose {s s' : Runtime} {n : NodeId} {handle : Handle}
    {r : Except OakStatus Unit} (h : s.channelClose n handle = some (s', r)) : Frame s s' := by
  obtain ⟨i, hi, ⟨-, rfl, -⟩ | ⟨half, -, rfl, -⟩⟩ := channelClose_cases h
  · exact Frame.refl _
  · exact (frame_setTable hi _).trans (frame_dropHalves _ _)

theorem closeHandles_spec {s s' : Runtime} {P : Multiset ChannelHalf} {n : NodeId}
    {order : List Handle} {i : NodeInfo} (hs : s.Counted P) (hi : s.nodeInfos.lookup n = some i)
    (h : s.closeHandles n order = some s') :
    s'.Counted P ∧ Frame s s' ∧
      ∃ i', s'.nodeInfos.lookup n = some i' ∧ i'.abiHandles.keys = i.abiHandles.keys \ order.toFinset := by
  induction order generalizing s i with
  | nil =>
    rw [closeHandles, Option.some.injEq] at h
    subst h
    exact ⟨hs, Frame.refl s, i, hi, by simp⟩
  | cons handle order ih =>
    rw [closeHandles] at h
    split at h
    · next s₁ h₁ =>
      obtain ⟨i₀, hi₀, ⟨-, -, hr⟩ | ⟨half, hl, rfl, -⟩⟩ := channelClose_cases h₁
      · cases hr
      · rw [hi] at hi₀
        cases hi₀
        have hi₁ : (((s.eraseHandle n i handle).dropHalves [half]).nodeInfos.lookup n) =
            some { i with abiHandles := i.abiHandles.erase handle } := by
          rw [dropHalves_nodeInfos, lookup_eraseHandle_self]
        obtain ⟨hc, hf, i', hi', hk⟩ := ih (hs.channelClose h₁) hi₁ h
        refine ⟨hc, (frame_channelClose h₁).trans hf, i', hi', ?_⟩
        rw [hk, Finmap.keys_erase, List.toFinset_cons, Finset.sdiff_insert, Finset.erase_sdiff_comm]
    · cases h

/-! ### What each operation can do -/

/-- The state with a new channel of label `l`, empty and with no halves yet, at
the next channel id. -/
def addChannel (s : Runtime) (l : Label) : Runtime :=
  { s with nextChannelId := s.nextChannelId + 1
           channels := s.channels.insert s.nextChannelId ⟨[], 0, 0, l⟩ }

/-- The state with a new Node of label `l` and privilege `p`, with an empty
table, at the next Node id. -/
def addNode (s : Runtime) (l : Label) (p : NodePrivilege) : Runtime :=
  { s with nextNodeId := s.nextNodeId + 1
           nodeInfos := s.nodeInfos.insert s.nextNodeId ⟨l, p, ∅⟩ }

theorem channelCreate_cases {s s' : Runtime} {n : NodeId} {l : Label} {dg : Downgrading}
    {wh rh : Handle} {r : Except OakStatus (Handle × Handle)}
    (h : s.channelCreate n l dg wh rh = some (s', r)) :
    (s' = s ∧ ∃ e, r = .error e) ∨
    ∃ info s₃, s.terminating = false ∧ s.nodeInfos.lookup n = some info ∧
      validateCanWriteToLabel info Label.publicUntrusted dg = .ok () ∧
      validateCanWriteToLabel info l dg = .ok () ∧
      (((s.addChannel l).halfNew ⟨s.nextChannelId, .write⟩).halfNew ⟨s.nextChannelId, .read⟩).newAbiHandle
        n ⟨s.nextChannelId, .write⟩ wh = some s₃ ∧
      s₃.newAbiHandle n ⟨s.nextChannelId, .read⟩ rh = some s' ∧ r = .ok (wh, rh) := by
  unfold channelCreate at h
  split at h
  · simp only [Option.some.injEq, Prod.mk.injEq] at h
    exact .inl ⟨h.1.symm, _, h.2.symm⟩
  · next hterm =>
    split at h
    · cases h
    · next info hi =>
      split at h
      · next e he =>
        simp only [Option.some.injEq, Prod.mk.injEq] at h
        exact .inl ⟨h.1.symm, _, h.2.symm⟩
      · next hv₁ =>
        split at h
        · next e he =>
          simp only [Option.some.injEq, Prod.mk.injEq] at h
          exact .inl ⟨h.1.symm, _, h.2.symm⟩
        · next hv₂ =>
          dsimp only at h
          split at h
          · cases h
          · next s₃ h₃ =>
            split at h
            · cases h
            · next s₄ h₄ =>
              simp only [Option.some.injEq, Prod.mk.injEq] at h
              obtain ⟨rfl, rfl⟩ := h
              exact .inr ⟨info, s₃, by simpa using hterm, hi, hv₁, hv₂, h₃, h₄, rfl⟩

theorem handleClone_cases {s s' : Runtime} {n : NodeId} {handle newHandle : Handle}
    {r : Except OakStatus Handle} (h : s.handleClone n handle newHandle = some (s', r)) :
    (s' = s ∧ ∃ e, r = .error e) ∨
    ∃ info half, s.nodeInfos.lookup n = some info ∧ info.abiHandles.lookup handle = some half ∧
      (s.halfNew half).newAbiHandle n half newHandle = some s' ∧ r = .ok newHandle := by
  unfold handleClone at h
  split at h
  · simp only [Option.some.injEq, Prod.mk.injEq] at h
    exact .inl ⟨h.1.symm, _, h.2.symm⟩
  · split at h
    · cases h
    · next info hi =>
      split at h
      · next s₁ e h₁ =>
        obtain ⟨-, rfl, rfl⟩ := abiToHalf_error h₁
        simp only [Option.some.injEq, Prod.mk.injEq] at h
        exact .inl ⟨h.1.symm, _, h.2.symm⟩
      · next s₁ half h₁ =>
        obtain ⟨hl, rfl⟩ := abiToHalf_ok h₁
        split at h
        · next s₂ h₂ =>
          simp only [Option.some.injEq, Prod.mk.injEq] at h
          obtain ⟨rfl, rfl⟩ := h
          exact .inr ⟨info, half, hi, hl, h₂, rfl⟩
        · cases h

/-- A successful write: the write half and the message's halves are cloned, the
message is pushed on the channel, which has a reader, and the write half's
clone is dropped. -/
theorem channelWrite_ok {s s' : Runtime} {n : NodeId} {wh : Handle} {nodeMsg : NodeMessage}
    {dg : Downgrading} (h : s.channelWrite n wh nodeMsg dg = some (s', .ok ())) :
    ∃ info half ch new ch₂, s.nodeInfos.lookup n = some info ∧
      info.abiHandles.lookup wh = some half ∧ half.direction = .write ∧
      (s.halfNew half).channels.lookup half.channel = some ch ∧
      validateCanWriteToLabel info ch.label dg = .ok () ∧ (∀ x ∈ new, x ∈ info.tableHalves) ∧
      ((s.halfNew half).halvesNew new).channels.lookup half.channel = some ch₂ ∧ ch₂.hasReaders ∧
      s' = (((s.halfNew half).halvesNew new).setChannel half.channel
        { ch₂ with messages := ch₂.messages ++ [⟨nodeMsg.bytes, new⟩] }).dropHalves [half] := by
  unfold channelWrite at h
  split at h
  · cases h
  · next info hi =>
    split at h
    · cases h
    · next s₁ half h₁ =>
      obtain ⟨hl, hd, rfl⟩ := abiToWriteHalf_ok h₁
      split at h
      · cases h
      · next ch hch =>
        split at h
        · cases h
        · next hv =>
          obtain ⟨new, hnew, hm | hm⟩ := messageFrom_spec (s.halfNew half) info nodeMsg
          · rw [hm] at h
            simp only at h
            split at h
            · cases h
            · next ch₂ hch₂ =>
              split at h
              · next hr =>
                simp only [Option.some.injEq, Prod.mk.injEq] at h
                exact ⟨info, half, ch, new, ch₂, hi, hl, hd, hch, hv, hnew, hch₂, hr, h.1.symm⟩
              · cases h
          · rw [hm] at h
            cases h

theorem channelWrite_error {s s' : Runtime} {n : NodeId} {wh : Handle} {nodeMsg : NodeMessage}
    {dg : Downgrading} {e : OakStatus} (h : s.channelWrite n wh nodeMsg dg = some (s', .error e)) :
    ∃ info, s.nodeInfos.lookup n = some info ∧ Restored info s s' := by
  unfold channelWrite at h
  split at h
  · cases h
  · next info hi =>
    refine ⟨info, hi, ?_⟩
    split at h
    · next s₁ e₁ h₁ =>
      simp only [Option.some.injEq, Prod.mk.injEq] at h
      obtain ⟨rfl, -⟩ := h
      obtain ⟨-, rfl | ⟨half, hl, -, rfl⟩⟩ := abiToWriteHalf_error h₁
      · exact Restored.refl info _
      · exact restored_halfNew_drop (NodeInfo.mem_tableHalves hl) _
    · next s₁ half h₁ =>
      obtain ⟨hl, -, rfl⟩ := abiToWriteHalf_ok h₁
      have hm := NodeInfo.mem_tableHalves hl
      split at h
      · cases h
      · next ch hch =>
        split at h
        · simp only [Option.some.injEq, Prod.mk.injEq] at h
          rw [← h.1]
          exact restored_halfNew_drop hm s
        · obtain ⟨new, hnew, hmf | hmf⟩ := messageFrom_spec (s.halfNew half) info nodeMsg
          · rw [hmf] at h
            simp only at h
            split at h
            · cases h
            · next ch₂ hch₂ =>
              split at h
              · cases h
              · -- no reader: the message's clones are dropped, then the write half's
                simp only [Option.some.injEq, Prod.mk.injEq] at h
                rw [← h.1, ← dropHalves_append]
                refine ⟨half :: new, new ++ [half], ?_, ?_, rfl⟩
                · intro x hx
                  rcases List.mem_cons.1 hx with rfl | hx
                  · exact hm
                  · exact hnew x hx
                · simp
          · rw [hmf] at h
            simp only [Option.some.injEq, Prod.mk.injEq] at h
            rw [← h.1, ← dropHalves_append]
            refine ⟨half :: new, new ++ [half], ?_, ?_, rfl⟩
            · intro x hx
              rcases List.mem_cons.1 hx with rfl | hx
              · exact hm
              · exact hnew x hx
            · simp

/-- How a read ends: with nothing taken, after the read half was cloned and
dropped (an error, or an empty queue), or with the front message popped and
translated into new handles of the reader. -/
theorem channelRead_cases {s s' : Runtime} {n : NodeId} {rh : Handle} {dg : Downgrading}
    {handles : List Handle} {r : Except OakStatus (Option NodeMessage)}
    (h : s.channelRead n rh dg handles = some (s', r)) :
    (∃ info, s.nodeInfos.lookup n = some info ∧ Restored info s s' ∧
      (r = .ok none ∨ ∃ e, r = .error e)) ∨
    ∃ info half ch m rest s₃, s.nodeInfos.lookup n = some info ∧
      info.abiHandles.lookup rh = some half ∧ half.direction = .read ∧
      (s.halfNew half).channels.lookup half.channel = some ch ∧
      validateCanReadFromLabel info ch.label dg = .ok () ∧ ch.messages = m :: rest ∧
      ((s.halfNew half).setChannel half.channel { ch with messages := rest }).nodeMessageFrom
        n m handles = some (s₃, ⟨m.data, handles⟩) ∧
      s' = s₃.dropHalves [half] ∧ r = .ok (some ⟨m.data, handles⟩) := by
  unfold channelRead at h
  split at h
  · cases h
  · next info hi =>
    split at h
    · next s₁ e h₁ =>
      simp only [Option.some.injEq, Prod.mk.injEq] at h
      obtain ⟨rfl, rfl⟩ := h
      obtain ⟨-, rfl | ⟨half, hl, -, rfl⟩⟩ := abiToReadHalf_error h₁
      · exact .inl ⟨info, hi, Restored.refl info _, .inr ⟨_, rfl⟩⟩
      · exact .inl ⟨info, hi, restored_halfNew_drop (NodeInfo.mem_tableHalves hl) _, .inr ⟨_, rfl⟩⟩
    · next s₁ half h₁ =>
      obtain ⟨hl, hd, rfl⟩ := abiToReadHalf_ok h₁
      have hres := restored_halfNew_drop (NodeInfo.mem_tableHalves hl) s
      split at h
      · cases h
      · next ch hch =>
        split at h
        · simp only [Option.some.injEq, Prod.mk.injEq] at h
          obtain ⟨rfl, rfl⟩ := h
          exact .inl ⟨info, hi, hres, .inr ⟨_, rfl⟩⟩
        · next hv =>
          split at h
          · next hm =>
            split at h <;> simp only [Option.some.injEq, Prod.mk.injEq] at h <;>
              obtain ⟨rfl, rfl⟩ := h
            · exact .inl ⟨info, hi, hres, .inl rfl⟩
            · exact .inl ⟨info, hi, hres, .inr ⟨_, rfl⟩⟩
          · next m rest hm =>
            dsimp only at h
            split at h
            · cases h
            · next s₃ nodeMsg h₃ =>
              simp only [Option.some.injEq, Prod.mk.injEq] at h
              obtain ⟨rfl, rfl⟩ := h
              obtain ⟨-, -, -, rfl⟩ := nodeMessageFrom_spec h₃
              exact .inr ⟨info, half, ch, m, rest, s₃, hi, hl, hd, hch, hv, hm, h₃, rfl, rfl⟩

theorem channelTryReadMessage_cases {s s' : Runtime} {n : NodeId} {rh : Handle}
    {bytesCapacity handlesCapacity : Nat} {dg : Downgrading} {handles : List Handle}
    {r : Except OakStatus (Option NodeReadStatus)}
    (h : s.channelTryReadMessage n rh bytesCapacity handlesCapacity dg handles = some (s', r)) :
    (∃ info, s.nodeInfos.lookup n = some info ∧ Restored info s s' ∧
      (r = .ok none ∨ ∃ e, r = .error e)) ∨
    (∃ info half ch front rest, s.nodeInfos.lookup n = some info ∧
      info.abiHandles.lookup rh = some half ∧ half.direction = .read ∧
      (s.halfNew half).channels.lookup half.channel = some ch ∧ ch.messages = front :: rest ∧
      (front.data.length > bytesCapacity ∨ front.channels.length > handlesCapacity) ∧
      Restored info s s' ∧
      r = .ok (some (.needsCapacity front.data.length front.channels.length))) ∨
    ∃ info half ch m rest s₃, s.nodeInfos.lookup n = some info ∧
      info.abiHandles.lookup rh = some half ∧ half.direction = .read ∧
      (s.halfNew half).channels.lookup half.channel = some ch ∧
      validateCanReadFromLabel info ch.label dg = .ok () ∧ ch.messages = m :: rest ∧
      ((s.halfNew half).setChannel half.channel { ch with messages := rest }).nodeMessageFrom
        n m handles = some (s₃, ⟨m.data, handles⟩) ∧
      s' = s₃.dropHalves [half] ∧ r = .ok (some (.success ⟨m.data, handles⟩)) := by
  unfold channelTryReadMessage at h
  split at h
  · cases h
  · next info hi =>
    split at h
    · next s₁ e h₁ =>
      simp only [Option.some.injEq, Prod.mk.injEq] at h
      obtain ⟨rfl, rfl⟩ := h
      obtain ⟨-, rfl | ⟨half, hl, -, rfl⟩⟩ := abiToReadHalf_error h₁
      · exact .inl ⟨info, hi, Restored.refl info _, .inr ⟨_, rfl⟩⟩
      · exact .inl ⟨info, hi, restored_halfNew_drop (NodeInfo.mem_tableHalves hl) _, .inr ⟨_, rfl⟩⟩
    · next s₁ half h₁ =>
      obtain ⟨hl, hd, rfl⟩ := abiToReadHalf_ok h₁
      have hres := restored_halfNew_drop (NodeInfo.mem_tableHalves hl) s
      split at h
      · cases h
      · next ch hch =>
        split at h
        · simp only [Option.some.injEq, Prod.mk.injEq] at h
          obtain ⟨rfl, rfl⟩ := h
          exact .inl ⟨info, hi, hres, .inr ⟨_, rfl⟩⟩
        · next hv =>
          split at h
          · next hm =>
            split at h <;> simp only [Option.some.injEq, Prod.mk.injEq] at h <;>
              obtain ⟨rfl, rfl⟩ := h
            · exact .inl ⟨info, hi, hres, .inl rfl⟩
            · exact .inl ⟨info, hi, hres, .inr ⟨_, rfl⟩⟩
          · next front rest hm =>
            split at h
            · next hcap =>
              simp only [Option.some.injEq, Prod.mk.injEq] at h
              obtain ⟨rfl, rfl⟩ := h
              exact .inr (.inl ⟨info, half, ch, front, rest, hi, hl, hd, hch, hm, hcap, hres, rfl⟩)
            · dsimp only at h
              split at h
              · cases h
              · next s₃ nodeMsg h₃ =>
                simp only [Option.some.injEq, Prod.mk.injEq] at h
                obtain ⟨rfl, rfl⟩ := h
                obtain ⟨-, -, -, rfl⟩ := nodeMessageFrom_spec h₃
                exact .inr (.inr ⟨info, half, ch, front, rest, s₃, hi, hl, hd, hch, hv, hm, h₃, rfl, rfl⟩)

theorem nodeRegister_cases {s s' : Runtime} {n : NodeId} {l : Label} {ih : Handle}
    {dg : Downgrading} {p : NodePrivilege} {iso : NodeIsolation} {nh : Handle}
    {r : Except OakStatus Unit} (h : s.nodeRegister n l ih dg p iso nh = some (s', r)) :
    (s' = s ∧ ∃ e, r = .error e) ∨
    (∃ info, s.nodeInfos.lookup n = some info ∧ Restored info s s' ∧ ∃ e, r = .error e) ∨
    ∃ info reader, s.terminating = false ∧ s.nodeInfos.lookup n = some info ∧
      validateCanWriteToLabel info Label.publicUntrusted dg = .ok () ∧
      validateCanWriteToLabel info l dg = .ok () ∧
      info.abiHandles.lookup ih = some reader ∧ reader.direction = .read ∧
      ((s.halfNew reader).addNode l p).newAbiHandle s.nextNodeId reader nh = some s' ∧ r = .ok () := by
  unfold nodeRegister at h
  split at h
  · simp only [Option.some.injEq, Prod.mk.injEq] at h
    exact .inl ⟨h.1.symm, _, h.2.symm⟩
  · next hterm =>
    split at h
    · cases h
    · next info hi =>
      split at h
      · simp only [Option.some.injEq, Prod.mk.injEq] at h
        exact .inl ⟨h.1.symm, _, h.2.symm⟩
      · next hv₁ =>
        split at h
        · simp only [Option.some.injEq, Prod.mk.injEq] at h
          exact .inl ⟨h.1.symm, _, h.2.symm⟩
        · next hv₂ =>
          split at h
          · simp only [Option.some.injEq, Prod.mk.injEq] at h
            exact .inl ⟨h.1.symm, _, h.2.symm⟩
          · split at h
            · next s₁ e h₁ =>
              simp only [Option.some.injEq, Prod.mk.injEq] at h
              obtain ⟨rfl, rfl⟩ := h
              obtain ⟨-, rfl | ⟨half, hl, -, rfl⟩⟩ := abiToReadHalf_error h₁
              · exact .inl ⟨rfl, _, rfl⟩
              · exact .inr (.inl ⟨info, hi, restored_halfNew_drop (NodeInfo.mem_tableHalves hl) _, _, rfl⟩)
            · next s₁ reader h₁ =>
              obtain ⟨hl, hd, rfl⟩ := abiToReadHalf_ok h₁
              dsimp only at h
              split at h
              · next s₃ h₃ =>
                simp only [Option.some.injEq, Prod.mk.injEq] at h
                obtain ⟨rfl, rfl⟩ := h
                refine .inr (.inr ⟨info, reader, by simpa using hterm, hi, hv₁, hv₂, hl, hd, ?_, rfl⟩)
                rw [← halfNew_nextNodeId s reader]
                exact h₃
              · cases h

theorem removeNodeId_cases {s s' : Runtime} {n : NodeId} {order : List Handle}
    (h : s.removeNodeId n order = some s') :
    ∃ info s₁, s.nodeInfos.lookup n = some info ∧ order.toFinset = info.abiHandles.keys ∧
      s.closeHandles n order = some s₁ ∧ s' = { s₁ with nodeInfos := s₁.nodeInfos.erase n } := by
  unfold removeNodeId at h
  split at h
  · cases h
  · next info hi =>
    split at h
    · next hord =>
      split at h
      · next s₁ h₁ =>
        exact ⟨info, s₁, hi, hord.2, h₁, (Option.some.inj h).symm⟩
      · cases h
    · cases h

theorem waitLoop_cases (t : Runtime) (n : NodeId) (info : NodeInfo) (w : ParkedWait) :
    (∃ r, t.waitLoop n info w = (t.dropHalves (w.readers.map Prod.snd), some r)) ∨
      t.waitLoop n info w = ({ t with parked := t.parked.insert n w }, none) := by
  unfold waitLoop
  split
  · exact .inl ⟨_, rfl⟩
  · dsimp only
    split
    · exact .inl ⟨_, rfl⟩
    · exact .inr rfl

theorem waitOnChannels_spec {s s' : Runtime} {n : NodeId} {hs : List Handle} {dg : Downgrading}
    {r : Option (Except OakStatus (List ChannelReadStatus))} (h : s.waitOnChannels n hs dg = some (s', r)) :
    ∃ info, s.nodeInfos.lookup n = some info ∧
      (collectReaders s info 0 hs).1.waitLoop n info ⟨hs, (collectReaders s info 0 hs).2, dg⟩ = (s', r) := by
  unfold waitOnChannels at h
  split at h
  · cases h
  · next info hi => exact ⟨info, hi, Option.some.inj h⟩

theorem unpark_spec {s s' : Runtime} {n : NodeId} {r : Option (Except OakStatus (List ChannelReadStatus))}
    (h : s.unpark n = some (s', r)) :
    ∃ w info, s.parked.lookup n = some w ∧ s.nodeInfos.lookup n = some info ∧
      ({ s with parked := s.parked.erase n } : Runtime).waitLoop n info w = (s', r) := by
  unfold unpark at h
  split at h
  · next w info hw hi => exact ⟨w, info, hw, hi, Option.some.inj h⟩
  · cases h

theorem collectReaders_spec {s : Runtime} {P : Multiset ChannelHalf} {n : NodeId} {info : NodeInfo}
    (hs : s.Counted P) (hi : s.nodeInfos.lookup n = some info) (i : Nat) (handles : List Handle) :
    (collectReaders s info i handles).1.Counted
        (↑((collectReaders s info i handles).2.map Prod.snd) + P) ∧
      Frame s (collectReaders s info i handles).1 := by
  induction handles generalizing s i P with
  | nil => simpa [collectReaders] using ⟨hs, Frame.refl s⟩
  | cons handle handles ih =>
    rw [collectReaders]
    split
    · next s₁ half h₁ =>
      obtain ⟨hl, -, rfl⟩ := abiToReadHalf_ok h₁
      have hc := hs.halfNew (hs.live_of_table hi (NodeInfo.mem_tableHalves hl))
      obtain ⟨hc', hf⟩ := ih hc (by rw [halfNew_nodeInfos]; exact hi) (i + 1)
      refine ⟨?_, (frame_halfNew s half).trans hf⟩
      rw [List.map_cons, ← Multiset.cons_coe, Multiset.cons_add, ← Multiset.add_cons]
      exact hc'
    · next s₁ e h₁ =>
      obtain ⟨-, hr⟩ := abiToReadHalf_error h₁
      have hres : Restored info s s₁ := by
        rcases hr with rfl | ⟨half, hl, -, rfl⟩
        · exact Restored.refl info _
        · exact restored_halfNew_drop (NodeInfo.mem_tableHalves hl) _
      have hi₁ : s₁.nodeInfos.lookup n = some info := by
        rw [hres.nodeInfos_eq]
        exact hi
      obtain ⟨hc', hf⟩ := ih (hres.counted hs hi) hi₁ (i + 1)
      exact ⟨hc', hres.frame.trans hf⟩

/-- The half a handle names, when it is a read handle of the table. -/
def readHalf (info : NodeInfo) (handle : Handle) : Option ChannelHalf :=
  match info.abiHandles.lookup handle with
  | some half => if half.direction = .read then some half else none
  | none => none

theorem abiToReadHalf_toOption (s : Runtime) (info : NodeInfo) (handle : Handle) :
    (abiToReadHalf s info handle).2.toOption = readHalf info handle := by
  unfold abiToReadHalf abiToHalf readHalf
  cases hl : info.abiHandles.lookup handle with
  | none => rfl
  | some half => cases hd : half.direction <;> simp [hd, Except.toOption]

theorem collectReaders_snd (s : Runtime) (info : NodeInfo) (i : Nat) (handles : List Handle) :
    (collectReaders s info i handles).2 =
      ((handles.map (readHalf info)).zipIdx i).filterMap fun p => p.1.map ((p.2, ·)) := by
  induction handles generalizing s i with
  | nil => rfl
  | cons handle handles ih =>
    have ho := abiToReadHalf_toOption s info handle
    rw [collectReaders, List.map_cons, List.zipIdx_cons]
    split
    · next s₁ half h₁ =>
      rw [h₁] at ho
      simp only [Except.toOption] at ho
      simp [← ho, ih]
    · next s₁ e h₁ =>
      rw [h₁] at ho
      simp only [Except.toOption] at ho
      simp [← ho, ih]

theorem readers_snd (info : NodeInfo) (i : Nat) (handles : List Handle) :
    (((handles.map (readHalf info)).zipIdx i).filterMap fun p => p.1.map ((p.2, ·))).map Prod.snd =
      handles.filterMap (readHalf info) := by
  induction handles generalizing i with
  | nil => rfl
  | cons handle handles ih => cases hr : readHalf info handle <;> simp [List.zipIdx_cons, hr, ih]

theorem readHalf_eq_some {info : NodeInfo} {handle : Handle} {half : ChannelHalf} :
    readHalf info handle = some half ↔ info.abiHandles.lookup handle = some half ∧ half.direction = .read := by
  unfold readHalf
  cases info.abiHandles.lookup handle with
  | none => simp
  | some half' =>
    by_cases hd : half'.direction = .read
    · simp only [hd, if_true, Option.some.injEq]
      constructor
      · rintro rfl
        exact ⟨rfl, hd⟩
      · rintro ⟨rfl, -⟩
        rfl
    · simp only [hd, if_false, reduceCtorEq, Option.some.injEq, false_iff, not_and]
      rintro rfl
      exact hd

theorem collectReaders_nodeInfos (s : Runtime) (info : NodeInfo) (i : Nat) (handles : List Handle) :
    (collectReaders s info i handles).1.nodeInfos = s.nodeInfos := by
  induction handles generalizing s i with
  | nil => rfl
  | cons handle handles ih =>
    rw [collectReaders]
    split
    · next s₁ half h₁ =>
      obtain ⟨-, -, rfl⟩ := abiToReadHalf_ok h₁
      rw [ih, halfNew_nodeInfos]
    · next s₁ e h₁ =>
      obtain ⟨-, rfl | ⟨half, -, -, rfl⟩⟩ := abiToReadHalf_error h₁
      · exact ih _ (i + 1)
      · rw [ih, dropHalves_nodeInfos, halfNew_nodeInfos]

end Runtime

end Oak
