import Oak.Runtime.Step

/-! The invariant of the `Runtime` over whole runs. Every reachable state is
`WellFormed`: reference counts are exact, the halves held by parked
`wait_on_channels` calls counted with those in tables and queues (`Counted s
s.parkedHalves`), ids of live channels and Nodes lie below their counters, and
a parked call holds the read halves of its handles in its Node's table, which
no other Node's call changes. Along a run the state `Grows`: counters only
increase, and a Node or channel keeps the label (and a Node the privilege) it
was created with for as long as it lives. -/

namespace Oak

open Oak.Lib

namespace Runtime

/-- Live channels and Nodes have ids already handed out. -/
structure Fresh (s : Runtime) : Prop where
  channel_lt : ∀ c ∈ s.channels, c < s.nextChannelId
  node_lt : ∀ n ∈ s.nodeInfos, n < s.nextNodeId

/-- What every operation keeps, with `pending` the halves held outside tables
and queues. -/
structure Consistent (s : Runtime) (pending : Multiset ChannelHalf) : Prop where
  counted : s.Counted pending
  fresh : s.Fresh

/-- How a later state of a run relates to an earlier one. -/
structure Grows (s s' : Runtime) : Prop where
  nextChannelId_le : s.nextChannelId ≤ s'.nextChannelId
  nextNodeId_le : s.nextNodeId ≤ s'.nextNodeId
  node : ∀ n i', s'.nodeInfos.lookup n = some i' → n < s.nextNodeId →
    ∃ i, s.nodeInfos.lookup n = some i ∧ i'.label = i.label ∧ i'.privilege = i.privilege
  channel : ∀ c ch', s'.channels.lookup c = some ch' → c < s.nextChannelId →
    ∃ ch, s.channels.lookup c = some ch ∧ ch'.label = ch.label

theorem Grows.refl (s : Runtime) : Grows s s where
  nextChannelId_le := le_rfl
  nextNodeId_le := le_rfl
  node _ i h _ := ⟨i, h, rfl, rfl⟩
  channel _ ch h _ := ⟨ch, h, rfl⟩

theorem Grows.trans {s₁ s₂ s₃ : Runtime} (h₁ : Grows s₁ s₂) (h₂ : Grows s₂ s₃) : Grows s₁ s₃ where
  nextChannelId_le := h₁.nextChannelId_le.trans h₂.nextChannelId_le
  nextNodeId_le := h₁.nextNodeId_le.trans h₂.nextNodeId_le
  node n i₃ h hn := by
    obtain ⟨i₂, h₂', hl₂, hp₂⟩ := h₂.node n i₃ h (lt_of_lt_of_le hn h₁.nextNodeId_le)
    obtain ⟨i₁, h₁', hl₁, hp₁⟩ := h₁.node n i₂ h₂' hn
    exact ⟨i₁, h₁', hl₂.trans hl₁, hp₂.trans hp₁⟩
  channel c ch₃ h hc := by
    obtain ⟨ch₂, h₂', hl₂⟩ := h₂.channel c ch₃ h (lt_of_lt_of_le hc h₁.nextChannelId_le)
    obtain ⟨ch₁, h₁', hl₁⟩ := h₁.channel c ch₂ h₂' hc
    exact ⟨ch₁, h₁', hl₂.trans hl₁⟩

theorem Frame.grows {s s' : Runtime} (h : Frame s s') : Grows s s' where
  nextChannelId_le := h.nextChannelId.ge
  nextNodeId_le := h.nextNodeId.ge
  node n i h' _ := h.nodes n i h'
  channel c ch h' _ := by
    obtain ⟨ch₀, h₀, -, hl⟩ := h.channels c ch h'
    exact ⟨ch₀, h₀, hl⟩

theorem Fresh.of_frame {s s' : Runtime} (hs : s.Fresh) (h : Frame s s') : s'.Fresh where
  channel_lt c hc := by
    obtain ⟨ch', hch'⟩ := Finmap.mem_iff.1 hc
    obtain ⟨ch, hch, -⟩ := h.channels c ch' hch'
    rw [h.nextChannelId]
    exact hs.channel_lt c (Finmap.mem_of_lookup_eq_some hch)
  node_lt n hn := by
    obtain ⟨i', hi'⟩ := Finmap.mem_iff.1 hn
    obtain ⟨i, hi, -⟩ := h.nodes n i' hi'
    rw [h.nextNodeId]
    exact hs.node_lt n (Finmap.mem_of_lookup_eq_some hi)

theorem Fresh.nextChannelId_notMem {s : Runtime} (hs : s.Fresh) : s.nextChannelId ∉ s.channels :=
  fun h => lt_irrefl _ (hs.channel_lt _ h)

theorem Fresh.nextNodeId_notMem {s : Runtime} (hs : s.Fresh) : s.nextNodeId ∉ s.nodeInfos :=
  fun h => lt_irrefl _ (hs.node_lt _ h)

/-! ### A new channel -/

@[simp] theorem addChannel_nodeInfos (s : Runtime) (l : Label) :
    (s.addChannel l).nodeInfos = s.nodeInfos := rfl

theorem lookup_addChannel_self (s : Runtime) (l : Label) :
    (s.addChannel l).channels.lookup s.nextChannelId = some ⟨[], 0, 0, l⟩ := by
  simp [addChannel]

theorem Counted.addChannel {s : Runtime} {P : Multiset ChannelHalf} (h : s.Counted P)
    (hf : s.Fresh) (l : Label) : (s.addChannel l).Counted P :=
  (h.insert_fresh_channel hf.nextChannelId_notMem l).congr rfl rfl

theorem Fresh.addChannel {s : Runtime} (hs : s.Fresh) (l : Label) : (s.addChannel l).Fresh where
  channel_lt c hc := by
    rcases Finmap.mem_insert.1 hc with rfl | hc
    · exact Nat.lt_succ_self _
    · exact Nat.lt_succ_of_lt (hs.channel_lt c hc)
  node_lt := hs.node_lt

theorem grows_addChannel (s : Runtime) (l : Label) : Grows s (s.addChannel l) where
  nextChannelId_le := Nat.le_succ _
  nextNodeId_le := le_rfl
  node n i h _ := ⟨i, h, rfl, rfl⟩
  channel c ch h hc := by
    rw [addChannel, Finmap.lookup_insert_of_ne _ (Nat.ne_of_lt hc)] at h
    exact ⟨ch, h, rfl⟩

/-! ### Pushing and popping a queue -/

theorem Counted.push {s : Runtime} {P : Multiset ChannelHalf} {c : ChannelId} {ch : Channel}
    {m : Message} (h : s.Counted (↑m.channels + P)) (hl : s.channels.lookup c = some ch) :
    (s.setChannel c { ch with messages := ch.messages ++ [m] }).Counted P := by
  refine h.insert_channel hl (fun d => by cases d <;> rfl) ?_
  have key := setChannel_halves hl { ch with messages := ch.messages ++ [m] }
  have hq : ({ ch with messages := ch.messages ++ [m] } : Channel).queuedHalves =
      ch.queuedHalves ++ m.channels := by simp [Channel.queuedHalves]
  have hS : (s.setChannel c { ch with messages := ch.messages ++ [m] }).halves = s.halves + ↑m.channels := by
    apply add_right_cancel (b := (ch.queuedHalves : Multiset ChannelHalf))
    rw [key, hq, ← Multiset.coe_add]
    abel
  rw [hS, add_assoc]

theorem Counted.pop {s : Runtime} {P : Multiset ChannelHalf} {c : ChannelId} {ch : Channel}
    {m : Message} {rest : List Message} (h : s.Counted P) (hl : s.channels.lookup c = some ch)
    (hm : ch.messages = m :: rest) :
    (s.setChannel c { ch with messages := rest }).Counted (↑m.channels + P) := by
  refine h.insert_channel hl (fun d => by cases d <;> rfl) ?_
  have key := setChannel_halves hl { ch with messages := rest }
  have hq : ch.queuedHalves = m.channels ++ ({ ch with messages := rest } : Channel).queuedHalves := by
    simp [Channel.queuedHalves, hm]
  have hS : (s.setChannel c { ch with messages := rest }).halves + ↑m.channels = s.halves := by
    apply add_right_cancel (b := (({ ch with messages := rest } : Channel).queuedHalves :
      Multiset ChannelHalf))
    rw [← key, hq, ← Multiset.coe_add]
    abel
  rw [← hS, add_assoc]

theorem Fresh.setChannel {s : Runtime} {c : ChannelId} {ch : Channel} (hs : s.Fresh)
    (hl : s.channels.lookup c = some ch) (ch' : Channel) : (s.setChannel c ch').Fresh where
  channel_lt c' hc' := by
    rcases Finmap.mem_insert.1 hc' with rfl | hc'
    · exact hs.channel_lt c' (Finmap.mem_of_lookup_eq_some hl)
    · exact hs.channel_lt c' hc'
  node_lt := hs.node_lt

theorem grows_setChannel {s : Runtime} {c : ChannelId} {ch : Channel}
    (hl : s.channels.lookup c = some ch) (ch' : Channel) (hlabel : ch'.label = ch.label) :
    Grows s (s.setChannel c ch') where
  nextChannelId_le := le_rfl
  nextNodeId_le := le_rfl
  node n i h _ := ⟨i, h, rfl, rfl⟩
  channel c' ch₁ h _ := by
    by_cases hc : c' = c
    · subst hc
      simp only [setChannel, Finmap.lookup_insert, Option.some.injEq] at h
      exact ⟨ch, hl, h ▸ hlabel⟩
    · rw [setChannel, Finmap.lookup_insert_of_ne _ hc] at h
      exact ⟨ch₁, h, rfl⟩

/-! ### A new Node, and a Node removed -/

@[simp] theorem addNode_channels (s : Runtime) (l : Label) (p : NodePrivilege) :
    (s.addNode l p).channels = s.channels := rfl

theorem Counted.addNode {s : Runtime} {P : Multiset ChannelHalf} (h : s.Counted P) (hf : s.Fresh)
    (l : Label) (p : NodePrivilege) : (s.addNode l p).Counted P := by
  have hh : (s.addNode l p).halves = s.halves := by
    simp [halves, Runtime.addNode, sumVals_insert_of_notMem hf.nextNodeId_notMem]
  exact h.of_halves_eq rfl (by rw [hh])

theorem Fresh.addNode {s : Runtime} (hs : s.Fresh) (l : Label) (p : NodePrivilege) :
    (s.addNode l p).Fresh where
  channel_lt := hs.channel_lt
  node_lt n hn := by
    rcases Finmap.mem_insert.1 hn with rfl | hn
    · exact Nat.lt_succ_self _
    · exact Nat.lt_succ_of_lt (hs.node_lt n hn)

theorem grows_addNode (s : Runtime) (l : Label) (p : NodePrivilege) : Grows s (s.addNode l p) where
  nextChannelId_le := le_rfl
  nextNodeId_le := Nat.le_succ _
  node n i h hn := by
    rw [addNode, Finmap.lookup_insert_of_ne _ (Nat.ne_of_lt hn)] at h
    exact ⟨i, h, rfl, rfl⟩
  channel c ch h _ := ⟨ch, h, rfl⟩

/-- The Node with id `n` gone. -/
def eraseNode (s : Runtime) (n : NodeId) : Runtime := { s with nodeInfos := s.nodeInfos.erase n }

theorem Counted.eraseNode {s : Runtime} {P : Multiset ChannelHalf} {n : NodeId} {i : NodeInfo}
    (h : s.Counted P) (hi : s.nodeInfos.lookup n = some i) (he : i.abiHandles.keys = ∅) :
    (s.eraseNode n).Counted P := by
  have ht : i.abiHandles = ∅ := by
    apply Finmap.ext_lookup
    intro x
    rw [Finmap.lookup_empty, Finmap.lookup_eq_none, ← Finmap.mem_keys, he]
    exact Finset.notMem_empty x
  have key := halves_erase_node hi
  have hz : i.tableHalves = 0 := by
    rw [NodeInfo.tableHalves, ht]
    rfl
  rw [hz, add_zero] at key
  exact h.of_halves_eq rfl (by rw [Runtime.eraseNode, key])

theorem Fresh.eraseNode {s : Runtime} (hs : s.Fresh) (n : NodeId) : (s.eraseNode n).Fresh where
  channel_lt := hs.channel_lt
  node_lt m hm := hs.node_lt m (Finmap.mem_erase.1 hm).2

theorem grows_eraseNode (s : Runtime) (n : NodeId) : Grows s (s.eraseNode n) where
  nextChannelId_le := le_rfl
  nextNodeId_le := le_rfl
  node m i h _ := by
    have hm : m ≠ n := by
      rintro rfl
      simp [eraseNode] at h
    rw [eraseNode, Finmap.lookup_erase_ne hm] at h
    exact ⟨i, h, rfl, rfl⟩
  channel c ch h _ := ⟨ch, h, rfl⟩

/-! ### Every operation keeps the invariant -/

section Ops

variable {s s' : Runtime} {P : Multiset ChannelHalf}

theorem Consistent.of_frame (hs : s.Consistent P) (h : Frame s s') (hc : s'.Counted P) :
    s'.Consistent P ∧ Grows s s' :=
  ⟨⟨hc, hs.fresh.of_frame h⟩, h.grows⟩

theorem Consistent.restored {i : NodeInfo} {n : NodeId} (hs : s.Consistent P)
    (hi : s.nodeInfos.lookup n = some i) (h : Restored i s s') : s'.Consistent P ∧ Grows s s' :=
  hs.of_frame h.frame (h.counted hs.counted hi)

theorem Consistent.channelCreate {n : NodeId} {l : Label} {dg : Downgrading} {wh rh : Handle}
    {r : Except OakStatus (Handle × Handle)} (hs : s.Consistent P)
    (h : s.channelCreate n l dg wh rh = some (s', r)) : s'.Consistent P ∧ Grows s s' := by
  rcases channelCreate_cases h with ⟨rfl, -⟩ | ⟨info, s₃, -, -, -, -, h₃, h₄, -⟩
  · exact ⟨hs, Grows.refl _⟩
  · -- the new channel gets its two halves, each put in the creator's table
    have hmem : s.nextChannelId ∈ (s.addChannel l).channels :=
      Finmap.mem_of_lookup_eq_some (lookup_addChannel_self s l)
    have c₁ := (hs.counted.addChannel hs.fresh l).halfNew (h := ⟨s.nextChannelId, .write⟩) hmem
    have c₂ := c₁.halfNew (h := ⟨s.nextChannelId, .read⟩) (mem_halfNew_channels.2 hmem)
    rw [Multiset.cons_swap] at c₂
    have c₄ := (c₂.newAbiHandle h₃).newAbiHandle h₄
    have hf : Frame (s.addChannel l) s' :=
      (((frame_halfNew _ _).trans (frame_halfNew _ _)).trans (frame_newAbiHandle h₃)).trans
        (frame_newAbiHandle h₄)
    exact ⟨⟨c₄, (hs.fresh.addChannel l).of_frame hf⟩, (grows_addChannel s l).trans hf.grows⟩

theorem Consistent.handleClone {n : NodeId} {h₀ h₁ : Handle} {r : Except OakStatus Handle}
    (hs : s.Consistent P) (h : s.handleClone n h₀ h₁ = some (s', r)) : s'.Consistent P ∧ Grows s s' := by
  rcases handleClone_cases h with ⟨rfl, -⟩ | ⟨info, half, hi, hl, h₂, -⟩
  · exact ⟨hs, Grows.refl _⟩
  · have hc := (hs.counted.halfNew (hs.counted.live_of_table hi (NodeInfo.mem_tableHalves hl))).newAbiHandle h₂
    exact hs.of_frame ((frame_halfNew s half).trans (frame_newAbiHandle h₂)) hc

theorem Consistent.channelClose {n : NodeId} {handle : Handle} {r : Except OakStatus Unit}
    (hs : s.Consistent P) (h : s.channelClose n handle = some (s', r)) : s'.Consistent P ∧ Grows s s' :=
  hs.of_frame (frame_channelClose h) (hs.counted.channelClose h)

theorem Consistent.channelWrite {n : NodeId} {wh : Handle} {nodeMsg : NodeMessage} {dg : Downgrading}
    {r : Except OakStatus Unit} (hs : s.Consistent P) (h : s.channelWrite n wh nodeMsg dg = some (s', r)) :
    s'.Consistent P ∧ Grows s s' := by
  cases r with
  | error e =>
    obtain ⟨info, hi, hres⟩ := channelWrite_error h
    exact hs.restored hi hres
  | ok u =>
    obtain ⟨info, half, ch, new, ch₂, hi, hl, -, -, -, hnew, hch₂, -, rfl⟩ := channelWrite_ok h
    -- the clones: the write half, then the message's halves
    have c₁ := hs.counted.halfNew (hs.counted.live_of_table hi (NodeInfo.mem_tableHalves hl))
    have c₂ : ((s.halfNew half).halvesNew new).Counted (↑new + half ::ₘ P) := c₁.halvesNew fun x hx =>
      mem_halfNew_channels.2 (hs.counted.live_of_table hi (hnew x hx))
    -- the message's halves move into the queue, the write half's clone is dropped
    have c₃ := (c₂.push (m := ⟨nodeMsg.bytes, new⟩) hch₂)
    have c₄ := c₃.dropHalves_single
    have hf₁ : Frame s ((s.halfNew half).halvesNew new) := (frame_halfNew s half).trans (frame_halvesNew _ _)
    have hf₁' := hs.fresh.of_frame hf₁
    obtain ⟨ch₀, -, -, hlabel⟩ := hf₁.channels _ _ hch₂
    have hg := hf₁.grows.trans (grows_setChannel hch₂
      { ch₂ with messages := ch₂.messages ++ [⟨nodeMsg.bytes, new⟩] } rfl)
    exact ⟨⟨c₄, (hf₁'.setChannel hch₂ _).of_frame (frame_dropHalves _ _)⟩,
      hg.trans (frame_dropHalves _ _).grows⟩

theorem Consistent.channelRead {n : NodeId} {rh : Handle} {dg : Downgrading} {handles : List Handle}
    {r : Except OakStatus (Option NodeMessage)} (hs : s.Consistent P)
    (h : s.channelRead n rh dg handles = some (s', r)) : s'.Consistent P ∧ Grows s s' := by
  rcases channelRead_cases h with ⟨info, hi, hres, -⟩ |
      ⟨info, half, ch, m, rest, s₃, hi, hl, -, hch, -, hm, h₃, rfl, -⟩
  · exact hs.restored hi hres
  · -- the read half is cloned, the front message popped and translated, the clone dropped
    have c₁ := hs.counted.halfNew (hs.counted.live_of_table hi (NodeInfo.mem_tableHalves hl))
    have c₃ := (c₁.pop hch hm).nodeMessageFrom h₃
    have hf₁ := frame_halfNew s half
    have hfr := (hs.fresh.of_frame hf₁).setChannel hch { ch with messages := rest }
    have hf₂ := (frame_nodeMessageFrom h₃).trans (frame_dropHalves s₃ [half])
    exact ⟨⟨c₃.dropHalves_single, hfr.of_frame hf₂⟩,
      (hf₁.grows.trans (grows_setChannel hch { ch with messages := rest } rfl)).trans hf₂.grows⟩

theorem Consistent.channelTryReadMessage {n : NodeId} {rh : Handle} {b k : Nat} {dg : Downgrading}
    {handles : List Handle} {r : Except OakStatus (Option NodeReadStatus)} (hs : s.Consistent P)
    (h : s.channelTryReadMessage n rh b k dg handles = some (s', r)) : s'.Consistent P ∧ Grows s s' := by
  rcases channelTryReadMessage_cases h with ⟨info, hi, hres, -⟩ |
      ⟨info, -, -, -, -, hi, -, -, -, -, -, hres, -⟩ |
      ⟨info, half, ch, m, rest, s₃, hi, hl, -, hch, -, hm, h₃, rfl, -⟩
  · exact hs.restored hi hres
  · exact hs.restored hi hres
  · have c₁ := hs.counted.halfNew (hs.counted.live_of_table hi (NodeInfo.mem_tableHalves hl))
    have c₃ := (c₁.pop hch hm).nodeMessageFrom h₃
    have hf₁ := frame_halfNew s half
    have hfr := (hs.fresh.of_frame hf₁).setChannel hch { ch with messages := rest }
    have hf₂ := (frame_nodeMessageFrom h₃).trans (frame_dropHalves s₃ [half])
    exact ⟨⟨c₃.dropHalves_single, hfr.of_frame hf₂⟩,
      (hf₁.grows.trans (grows_setChannel hch { ch with messages := rest } rfl)).trans hf₂.grows⟩

theorem Consistent.nodeRegister {n : NodeId} {l : Label} {ih : Handle} {dg : Downgrading}
    {p : NodePrivilege} {iso : NodeIsolation} {nh : Handle} {r : Except OakStatus Unit}
    (hs : s.Consistent P) (h : s.nodeRegister n l ih dg p iso nh = some (s', r)) :
    s'.Consistent P ∧ Grows s s' := by
  rcases nodeRegister_cases h with ⟨rfl, -⟩ | ⟨info, hi, hres, -⟩ |
      ⟨info, reader, -, hi, -, -, hl, -, h₃, -⟩
  · exact ⟨hs, Grows.refl _⟩
  · exact hs.restored hi hres
  · -- the initial read half is cloned into the table of the new Node
    have hf₁ := frame_halfNew s reader
    have hfr := hs.fresh.of_frame hf₁
    have c₁ := hs.counted.halfNew (hs.counted.live_of_table hi (NodeInfo.mem_tableHalves hl))
    have c₃ := (c₁.addNode hfr l p).newAbiHandle h₃
    have hf₃ := frame_newAbiHandle h₃
    exact ⟨⟨c₃, (hfr.addNode l p).of_frame hf₃⟩,
      (hf₁.grows.trans (grows_addNode _ l p)).trans hf₃.grows⟩

theorem Consistent.removeNodeId {n : NodeId} {order : List Handle} (hs : s.Consistent P)
    (h : s.removeNodeId n order = some s') : s'.Consistent P ∧ Grows s s' := by
  obtain ⟨info, s₁, hi, hord, h₁, rfl⟩ := removeNodeId_cases h
  obtain ⟨hc, hf, i', hi', hk⟩ := closeHandles_spec hs.counted hi h₁
  -- every handle was closed, so the table is empty when the Node goes
  have he : i'.abiHandles.keys = ∅ := by rw [hk, hord, Finset.sdiff_self]
  exact ⟨⟨hc.eraseNode hi' he, (hs.fresh.of_frame hf).eraseNode n⟩,
    hf.grows.trans (grows_eraseNode s₁ n)⟩

theorem Consistent.stop (hs : s.Consistent P) : s.stop.Consistent P ∧ Grows s s.stop :=
  ⟨⟨hs.counted.congr rfl rfl, hs.fresh.channel_lt, hs.fresh.node_lt⟩,
    ⟨le_rfl, le_rfl, fun _ i h _ => ⟨i, h, rfl, rfl⟩, fun _ ch h _ => ⟨ch, h, rfl⟩⟩⟩

end Ops

/-! ### What a Node's call leaves of the others -/

/-- `s'` has the parked calls of `s`, and every Node of `s` other than `m` has
the table it had: what a call of Node `m` leaves. -/
structure Touches (m : NodeId) (s s' : Runtime) : Prop where
  parked : s'.parked = s.parked
  others : ∀ k, k ≠ m → k ∈ s.nodeInfos → s'.nodeInfos.lookup k = s.nodeInfos.lookup k

section Touches

variable {m : NodeId} {s s' s₁ : Runtime}

theorem Touches.refl (m : NodeId) (s : Runtime) : Touches m s s := ⟨rfl, fun _ _ _ => rfl⟩

theorem Touches.trans (h₁ : Touches m s s₁) (h₂ : Touches m s₁ s') : Touches m s s' where
  parked := h₂.parked.trans h₁.parked
  others k hk hmem := by
    obtain ⟨i, hi⟩ := Finmap.mem_iff.1 hmem
    have h₁k := h₁.others k hk hmem
    rw [h₂.others k hk (Finmap.mem_of_lookup_eq_some (h₁k.trans hi)), h₁k]

theorem touches_of_frame (hf : Frame s s') (hn : s'.nodeInfos = s.nodeInfos) : Touches m s s' :=
  ⟨hf.parked, fun _ _ _ => by rw [hn]⟩

theorem touches_halfNew (s : Runtime) (h : ChannelHalf) : Touches m s (s.halfNew h) :=
  touches_of_frame (frame_halfNew s h) (halfNew_nodeInfos s h)

theorem touches_dropHalves (s : Runtime) (hs : List ChannelHalf) : Touches m s (s.dropHalves hs) :=
  touches_of_frame (frame_dropHalves s hs) (dropHalves_nodeInfos s hs)

theorem Restored.touches {i : NodeInfo} (hr : Restored i s s') : Touches m s s' :=
  touches_of_frame hr.frame hr.nodeInfos_eq

theorem touches_setChannel (s : Runtime) (c : ChannelId) (ch : Channel) : Touches m s (s.setChannel c ch) :=
  ⟨rfl, fun _ _ _ => rfl⟩

theorem touches_setTable (s : Runtime) (i : NodeInfo) :
    Touches m s { s with nodeInfos := s.nodeInfos.insert m i } :=
  ⟨rfl, fun _ hk _ => Finmap.lookup_insert_of_ne _ hk⟩

theorem touches_newAbiHandle {half : ChannelHalf} {handle : Handle}
    (h : s.newAbiHandle m half handle = some s') : Touches m s s' := by
  obtain ⟨i, -, -, rfl⟩ := newAbiHandle_spec h
  exact touches_setTable s _

theorem touches_newAbiHandles {hs : List ChannelHalf} {handles : List Handle}
    (h : s.newAbiHandles m hs handles = some s') : Touches m s s' := by
  induction hs generalizing s handles with
  | nil =>
    cases handles with
    | nil => rw [Runtime.newAbiHandles, Option.some.injEq] at h; exact h ▸ Touches.refl _ _
    | cons _ _ => cases h
  | cons x hs ih =>
    cases handles with
    | nil => cases h
    | cons handle handles =>
      rw [Runtime.newAbiHandles] at h
      split at h
      · next s₂ h₂ => exact ((touches_halfNew s x).trans (touches_newAbiHandle h₂)).trans (ih h)
      · cases h

theorem touches_nodeMessageFrom {msg : Message} {handles : List Handle} {nodeMsg : NodeMessage}
    (h : s.nodeMessageFrom m msg handles = some (s', nodeMsg)) : Touches m s s' := by
  obtain ⟨s₂, h₂, rfl, -⟩ := nodeMessageFrom_spec h
  exact (touches_newAbiHandles h₂).trans (touches_dropHalves _ _)

theorem touches_channelClose {handle : Handle} {r : Except OakStatus Unit}
    (h : s.channelClose m handle = some (s', r)) : Touches m s s' := by
  obtain ⟨i, -, ⟨-, rfl, -⟩ | ⟨half, -, rfl, -⟩⟩ := channelClose_cases h
  · exact Touches.refl _ _
  · exact (touches_setTable s _).trans (touches_dropHalves _ _)

theorem touches_closeHandles {order : List Handle} (h : s.closeHandles m order = some s') :
    Touches m s s' := by
  induction order generalizing s with
  | nil =>
    rw [closeHandles, Option.some.injEq] at h
    exact h ▸ Touches.refl _ _
  | cons handle order ih =>
    rw [closeHandles] at h
    split at h
    · next s₂ h₂ => exact (touches_channelClose h₂).trans (ih h)
    · cases h

theorem touches_newNode (hf : s.Fresh) (l : Label) (p : NodePrivilege) {half : ChannelHalf}
    {handle : Handle} (h : (s.addNode l p).newAbiHandle s.nextNodeId half handle = some s') :
    Touches m s s' := by
  obtain ⟨i, -, -, rfl⟩ := newAbiHandle_spec h
  refine ⟨rfl, fun k _ hk => ?_⟩
  have hne : k ≠ s.nextNodeId := Nat.ne_of_lt (hf.node_lt k hk)
  simp only [addNode, Finmap.lookup_insert_of_ne _ hne]

end Touches

section Calls

variable {s s' : Runtime}

theorem touches_channelCreate {n : NodeId} {l : Label} {dg : Downgrading} {wh rh : Handle}
    {r : Except OakStatus (Handle × Handle)} (h : s.channelCreate n l dg wh rh = some (s', r)) :
    Touches n s s' := by
  rcases channelCreate_cases h with ⟨rfl, -⟩ | ⟨info, s₃, -, -, -, -, h₃, h₄, -⟩
  · exact Touches.refl _ _
  · exact ((((⟨rfl, fun _ _ _ => rfl⟩ : Touches n s (s.addChannel l)).trans (touches_halfNew _ _)).trans
      (touches_halfNew _ _)).trans (touches_newAbiHandle h₃)).trans (touches_newAbiHandle h₄)

theorem touches_handleClone {n : NodeId} {h₀ h₁ : Handle} {r : Except OakStatus Handle}
    (h : s.handleClone n h₀ h₁ = some (s', r)) : Touches n s s' := by
  rcases handleClone_cases h with ⟨rfl, -⟩ | ⟨info, half, -, -, h₂, -⟩
  · exact Touches.refl _ _
  · exact (touches_halfNew s half).trans (touches_newAbiHandle h₂)

theorem touches_channelWrite {n : NodeId} {wh : Handle} {nodeMsg : NodeMessage} {dg : Downgrading}
    {r : Except OakStatus Unit} (h : s.channelWrite n wh nodeMsg dg = some (s', r)) : Touches n s s' := by
  cases r with
  | error e =>
    obtain ⟨info, -, hres⟩ := channelWrite_error h
    exact hres.touches
  | ok u =>
    obtain ⟨info, half, ch, new, ch₂, -, -, -, -, -, -, -, -, rfl⟩ := channelWrite_ok h
    exact ((touches_of_frame ((frame_halfNew s half).trans (frame_halvesNew _ new)) (by simp)).trans
      (touches_setChannel _ _ _)).trans (touches_dropHalves _ _)

theorem touches_channelRead {n : NodeId} {rh : Handle} {dg : Downgrading} {handles : List Handle}
    {r : Except OakStatus (Option NodeMessage)} (h : s.channelRead n rh dg handles = some (s', r)) :
    Touches n s s' := by
  rcases channelRead_cases h with ⟨info, -, hres, -⟩ | ⟨info, half, ch, m, rest, s₃, -, -, -, -, -, -, h₃, rfl, -⟩
  · exact hres.touches
  · exact (((touches_halfNew s half).trans (touches_setChannel _ _ _)).trans (touches_nodeMessageFrom h₃)).trans
      (touches_dropHalves _ _)

theorem touches_channelTryReadMessage {n : NodeId} {rh : Handle} {b k : Nat} {dg : Downgrading}
    {handles : List Handle} {r : Except OakStatus (Option NodeReadStatus)}
    (h : s.channelTryReadMessage n rh b k dg handles = some (s', r)) : Touches n s s' := by
  rcases channelTryReadMessage_cases h with ⟨info, -, hres, -⟩ | ⟨info, -, -, -, -, -, -, -, -, -, -, hres, -⟩ |
      ⟨info, half, ch, m, rest, s₃, -, -, -, -, -, -, h₃, rfl, -⟩
  · exact hres.touches
  · exact hres.touches
  · exact (((touches_halfNew s half).trans (touches_setChannel _ _ _)).trans (touches_nodeMessageFrom h₃)).trans
      (touches_dropHalves _ _)

theorem touches_nodeRegister {n : NodeId} {l : Label} {ih : Handle} {dg : Downgrading}
    {p : NodePrivilege} {iso : NodeIsolation} {nh : Handle} {r : Except OakStatus Unit} (hf : s.Fresh)
    (h : s.nodeRegister n l ih dg p iso nh = some (s', r)) : Touches n s s' := by
  rcases nodeRegister_cases h with ⟨rfl, -⟩ | ⟨info, -, hres, -⟩ | ⟨info, reader, -, -, -, -, -, -, h₃, -⟩
  · exact Touches.refl _ _
  · exact hres.touches
  · rw [← halfNew_nextNodeId s reader] at h₃
    exact (touches_halfNew s reader).trans
      (touches_newNode (hf.of_frame (frame_halfNew s reader)) l p h₃)

theorem touches_removeNodeId {n : NodeId} {order : List Handle} (h : s.removeNodeId n order = some s') :
    Touches n s s' := by
  obtain ⟨info, s₁, -, -, h₁, rfl⟩ := removeNodeId_cases h
  exact (touches_closeHandles h₁).trans ⟨rfl, fun _ hk _ => Finmap.lookup_erase_ne hk⟩

end Calls

/-! ### The invariant, and parked calls -/

/-- Each parked call is of a Node of the state and holds the read halves its
handles name in that Node's table, with their positions. -/
def ParkedHeld (s : Runtime) : Prop :=
  ∀ n w, s.parked.lookup n = some w → ∃ info, s.nodeInfos.lookup n = some info ∧
    w.readers = ((w.readHandles.map (readHalf info)).zipIdx 0).filterMap fun p => p.1.map ((p.2, ·))

structure WellFormed (s : Runtime) : Prop where
  consistent : s.Consistent s.parkedHalves
  parked : s.ParkedHeld

section Parked

variable {s s' : Runtime}

theorem WellFormed.counted (hs : s.WellFormed) : s.Counted s.parkedHalves := hs.consistent.counted

theorem WellFormed.fresh (hs : s.WellFormed) : s.Fresh := hs.consistent.fresh

theorem parkedHalves_of_parked_eq (h : s'.parked = s.parked) : s'.parkedHalves = s.parkedHalves := by
  rw [parkedHalves, parkedHalves, h]

theorem ParkedHeld.touches {m : NodeId} (hs : s.ParkedHeld) (ht : Touches m s s') (hm : m ∉ s.parked) :
    s'.ParkedHeld := by
  intro n w hw
  rw [ht.parked] at hw
  obtain ⟨info, hi, hr⟩ := hs n w hw
  have hn : n ≠ m := by
    rintro rfl
    exact hm (Finmap.mem_of_lookup_eq_some hw)
  exact ⟨info, (ht.others n hn (Finmap.mem_of_lookup_eq_some hi)).trans hi, hr⟩

theorem WellFormed.of_touches {m : NodeId} (hs : s.WellFormed) (hc : s'.Consistent s.parkedHalves)
    (ht : Touches m s s') (hm : m ∉ s.parked) : s'.WellFormed :=
  ⟨parkedHalves_of_parked_eq ht.parked ▸ hc, hs.parked.touches ht hm⟩

theorem Consistent.setParked {P : Multiset ChannelHalf} (hs : s.Consistent P)
    (q : Finmap (fun _ : NodeId => ParkedWait)) : ({ s with parked := q } : Runtime).Consistent P :=
  ⟨hs.counted.congr rfl rfl, hs.fresh.channel_lt, hs.fresh.node_lt⟩

theorem grows_setParked (s : Runtime) (q : Finmap (fun _ : NodeId => ParkedWait)) :
    Grows s { s with parked := q } :=
  ⟨le_rfl, le_rfl, fun _ i h _ => ⟨i, h, rfl, rfl⟩, fun _ ch h _ => ⟨ch, h, rfl⟩⟩

/-- A pass of the loop by Node `n`'s call `w`, which holds its readers on top
of the parked calls of `t`, none of them `n`'s: the call returns, dropping its
readers, or parks. -/
theorem Consistent.waitLoop {t t' : Runtime} {n : NodeId} {info : NodeInfo} {w : ParkedWait}
    {r : Option (Except OakStatus (List ChannelReadStatus))}
    (ht : t.Consistent (↑(w.readers.map Prod.snd) + t.parkedHalves)) (hn : n ∉ t.parked)
    (h : t.waitLoop n info w = (t', r)) :
    t'.Consistent t'.parkedHalves ∧ Grows t t' ∧ t'.nodeInfos = t.nodeInfos ∧
      (∀ k, k ≠ n → t'.parked.lookup k = t.parked.lookup k) ∧ (t'.parked.lookup n = none ∨ t'.parked.lookup n = some w) := by
  rcases waitLoop_cases t n info w with ⟨r', he⟩ | he <;> rw [he, Prod.mk.injEq] at h <;> obtain ⟨rfl, -⟩ := h
  · have hf := frame_dropHalves t (w.readers.map Prod.snd)
    refine ⟨⟨?_, ht.fresh.of_frame hf⟩, hf.grows, by simp, fun k _ => by simp, .inl ?_⟩
    · rw [parkedHalves_of_parked_eq hf.parked]
      exact ht.counted.dropHalves
    · rw [dropHalves_parked]
      exact Finmap.lookup_eq_none.2 hn
  · refine ⟨?_, grows_setParked t _, rfl, fun k hk => Finmap.lookup_insert_of_ne _ hk, .inr (by simp)⟩
    have hp : ({ t with parked := t.parked.insert n w } : Runtime).parkedHalves =
        ↑(w.readers.map Prod.snd) + t.parkedHalves :=
      sumVals_insert_of_notMem hn w
    rw [hp]
    exact ht.setParked _

theorem WellFormed.waitOnChannels {n : NodeId} {hs₀ : List Handle} {dg : Downgrading}
    {r : Option (Except OakStatus (List ChannelReadStatus))} (hs : s.WellFormed) (hn : n ∉ s.parked)
    (h : s.waitOnChannels n hs₀ dg = some (s', r)) : s'.WellFormed ∧ Grows s s' := by
  obtain ⟨info, hi, hloop⟩ := waitOnChannels_spec h
  obtain ⟨hc, hf⟩ := collectReaders_spec hs.counted hi 0 hs₀
  have hp := hf.parked
  have hn₁ : n ∉ (collectReaders s info 0 hs₀).1.parked := by rw [hp]; exact hn
  rw [← parkedHalves_of_parked_eq hp] at hc
  obtain ⟨hc', hg, hnodes, hothers, hself⟩ :=
    Consistent.waitLoop ⟨hc, hs.fresh.of_frame hf⟩ hn₁ hloop
  have hnodes' : s'.nodeInfos = s.nodeInfos := hnodes.trans (collectReaders_nodeInfos s info 0 hs₀)
  refine ⟨⟨hc', fun k w hw => ?_⟩, hf.grows.trans hg⟩
  rw [hnodes']
  by_cases hk : k = n
  · -- the call parked: its readers are the read halves its handles name
    subst hk
    rcases hself with hnone | hsome
    · rw [hnone] at hw
      cases hw
    · rw [hsome, Option.some.injEq] at hw
      subst hw
      exact ⟨info, hi, collectReaders_snd s info 0 hs₀⟩
  · rw [hothers k hk, hp] at hw
    obtain ⟨i, hi', hr⟩ := hs.parked k w hw
    exact ⟨i, hi', hr⟩

theorem WellFormed.unpark {n : NodeId} {r : Option (Except OakStatus (List ChannelReadStatus))}
    (hs : s.WellFormed) (h : s.unpark n = some (s', r)) : s'.WellFormed ∧ Grows s s' := by
  obtain ⟨w, info, hw, hi, hloop⟩ := unpark_spec h
  -- taken off the parked calls, the call holds its readers itself
  have hsplit : s.parkedHalves = ↑(w.readers.map Prod.snd) + ({ s with parked := s.parked.erase n } : Runtime).parkedHalves :=
    sumVals_erase hw
  have hc : ({ s with parked := s.parked.erase n } : Runtime).Consistent
      (↑(w.readers.map Prod.snd) + ({ s with parked := s.parked.erase n } : Runtime).parkedHalves) := by
    rw [← hsplit]
    exact hs.consistent.setParked _
  obtain ⟨hc', hg, hnodes, hothers, hself⟩ := Consistent.waitLoop hc (Finmap.notMem_erase_self) hloop
  refine ⟨⟨hc', fun k w' hw' => ?_⟩, (grows_setParked s _).trans hg⟩
  rw [hnodes]
  by_cases hk : k = n
  · subst hk
    rcases hself with hnone | hsome
    · rw [hnone] at hw'
      cases hw'
    · rw [hsome, Option.some.injEq] at hw'
      subst hw'
      exact hs.parked k w hw
  · rw [hothers k hk] at hw'
    exact hs.parked k w' (by rwa [Finmap.lookup_erase_ne hk] at hw')

theorem WellFormed.step {a : Action} {r : Reply} (hs : s.WellFormed) (h : s.step a = some (s', r)) :
    s'.WellFormed ∧ Grows s s' := by
  obtain ⟨h, hcaller⟩ := call_of_step h
  cases a with
  | stop =>
    simp only [Runtime.call, Option.some.injEq, Prod.mk.injEq] at h
    obtain ⟨rfl, -⟩ := h
    obtain ⟨hc, hg⟩ := hs.consistent.stop
    exact ⟨⟨hc, hs.parked⟩, hg⟩
  | unpark n =>
    simp only [Runtime.call, Option.map_eq_some_iff, Prod.mk.injEq] at h
    obtain ⟨⟨s₁, r₁⟩, h₁, rfl, -⟩ := h
    exact hs.unpark h₁
  | waitOnChannels n hs₀ dg =>
    simp only [Runtime.call, Option.map_eq_some_iff, Prod.mk.injEq] at h
    obtain ⟨⟨s₁, r₁⟩, h₁, rfl, -⟩ := h
    exact hs.waitOnChannels (hcaller n rfl) h₁
  | removeNodeId n order =>
    simp only [Runtime.call, Option.map_eq_some_iff, Prod.mk.injEq] at h
    obtain ⟨s₁, h₁, rfl, -⟩ := h
    obtain ⟨hc, hg⟩ := hs.consistent.removeNodeId h₁
    exact ⟨hs.of_touches hc (touches_removeNodeId h₁) (hcaller n rfl), hg⟩
  | nodeRegister n =>
    simp only [Runtime.call, Option.map_eq_some_iff, Prod.mk.injEq] at h
    obtain ⟨⟨s₁, r₁⟩, h₁, rfl, -⟩ := h
    obtain ⟨hc, hg⟩ := hs.consistent.nodeRegister h₁
    exact ⟨hs.of_touches hc (touches_nodeRegister hs.fresh h₁) (hcaller n rfl), hg⟩
  | channelCreate n =>
    simp only [Runtime.call, Option.map_eq_some_iff, Prod.mk.injEq] at h
    obtain ⟨⟨s₁, r₁⟩, h₁, rfl, -⟩ := h
    obtain ⟨hc, hg⟩ := hs.consistent.channelCreate h₁
    exact ⟨hs.of_touches hc (touches_channelCreate h₁) (hcaller n rfl), hg⟩
  | handleClone n =>
    simp only [Runtime.call, Option.map_eq_some_iff, Prod.mk.injEq] at h
    obtain ⟨⟨s₁, r₁⟩, h₁, rfl, -⟩ := h
    obtain ⟨hc, hg⟩ := hs.consistent.handleClone h₁
    exact ⟨hs.of_touches hc (touches_handleClone h₁) (hcaller n rfl), hg⟩
  | channelClose n =>
    simp only [Runtime.call, Option.map_eq_some_iff, Prod.mk.injEq] at h
    obtain ⟨⟨s₁, r₁⟩, h₁, rfl, -⟩ := h
    obtain ⟨hc, hg⟩ := hs.consistent.channelClose h₁
    exact ⟨hs.of_touches hc (touches_channelClose h₁) (hcaller n rfl), hg⟩
  | channelWrite n =>
    simp only [Runtime.call, Option.map_eq_some_iff, Prod.mk.injEq] at h
    obtain ⟨⟨s₁, r₁⟩, h₁, rfl, -⟩ := h
    obtain ⟨hc, hg⟩ := hs.consistent.channelWrite h₁
    exact ⟨hs.of_touches hc (touches_channelWrite h₁) (hcaller n rfl), hg⟩
  | channelRead n =>
    simp only [Runtime.call, Option.map_eq_some_iff, Prod.mk.injEq] at h
    obtain ⟨⟨s₁, r₁⟩, h₁, rfl, -⟩ := h
    obtain ⟨hc, hg⟩ := hs.consistent.channelRead h₁
    exact ⟨hs.of_touches hc (touches_channelRead h₁) (hcaller n rfl), hg⟩
  | channelTryReadMessage n =>
    simp only [Runtime.call, Option.map_eq_some_iff, Prod.mk.injEq] at h
    obtain ⟨⟨s₁, r₁⟩, h₁, rfl, -⟩ := h
    obtain ⟨hc, hg⟩ := hs.consistent.channelTryReadMessage h₁
    exact ⟨hs.of_touches hc (touches_channelTryReadMessage h₁) (hcaller n rfl), hg⟩

end Parked

theorem wellFormed_create : create.WellFormed where
  consistent :=
    { counted :=
        { count_eq := fun _ _ _ h => by simp [create] at h
          live := fun x hx => by
            have : create.halves + create.parkedHalves = 0 := rfl
            rw [this] at hx
            exact absurd hx (Multiset.notMem_zero x) }
      fresh :=
        { channel_lt := fun _ hc => absurd hc Finmap.notMem_empty
          node_lt := fun n hn => by
            obtain rfl := (Finmap.mem_singleton _ _ _).1 hn
            exact Nat.zero_lt_one } }
  parked _ _ h := by simp [create] at h

theorem WellFormed.mem_parkedHalves {s : Runtime} (hs : s.WellFormed) {x : ChannelHalf}
    (hx : x ∈ s.parkedHalves) : x ∈ s.halves ∧ x.direction = .read := by
  obtain ⟨n, w, hw, hxw⟩ := mem_sumVals.1 hx
  obtain ⟨info, hi, hr⟩ := hs.parked n w hw
  rw [Multiset.mem_coe, hr, readers_snd, List.mem_filterMap] at hxw
  obtain ⟨h, -, hh⟩ := hxw
  obtain ⟨hl, hd⟩ := readHalf_eq_some.1 hh
  exact ⟨Multiset.mem_of_le (tableHalves_le_halves hi) (NodeInfo.mem_tableHalves hl), hd⟩

theorem WellFormed.count_parkedHalves_write {s : Runtime} (hs : s.WellFormed) (c : ChannelId) :
    s.parkedHalves.count ⟨c, .write⟩ = 0 :=
  Multiset.count_eq_zero.2 fun hm => by
    have hd := (hs.mem_parkedHalves hm).2
    cases hd

theorem WellFormed.count_parkedHalves_read {s : Runtime} (hs : s.WellFormed) {c : ChannelId}
    (h0 : s.halves.count ⟨c, .read⟩ = 0) : s.parkedHalves.count ⟨c, .read⟩ = 0 :=
  Multiset.count_eq_zero.2 fun hm => (Multiset.count_eq_zero.1 h0) (hs.mem_parkedHalves hm).1

theorem WellFormed.of_run {tr : List Event} {s : Runtime} (h : Run Runtime.step create tr s) :
    s.WellFormed :=
  h.invariant _ wellFormed_create fun _ _ _ _ hs hst => (hs.step hst).1

theorem Grows.of_reachable_step {tr : List Event} {s s' : Runtime} {a : Action} {r : Reply}
    (h : Run Runtime.step create tr s) (hst : s.step a = some (s', r)) : Grows s s' :=
  ((WellFormed.of_run h).step hst).2

theorem Grows.of_run {tr : List Event} {s : Runtime} (h : Run Runtime.step create tr s) :
    ∀ e ∈ tr, Grows e.pre s :=
  h.rel_pre_last Grows (fun _ _ _ => Grows.trans) fun _ _ _ _ _ => Grows.of_reachable_step

end Runtime

end Oak
