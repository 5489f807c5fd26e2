import Oak.Runtime.Invariant

/-! Channels live exactly as long as a half refers to them. `Drop for
ChannelHalf` frees a `Channel` with its last half and never earlier, so in
every reachable state each half in a handle table or a queued message names a
live channel, and each live channel is named by some half: nothing dangles and
nothing is kept that no Node can reach. -/

namespace Oak

open Oak.Lib

namespace Channel

/-- A channel some half still refers to: one of its counts is not zero. -/
def Held (ch : Channel) : Prop := ch.readerCount ≠ 0 ∨ ch.writerCount ≠ 0

theorem held_incCount (ch : Channel) (d : ChannelHalfDirection) : (ch.incCount d).Held := by
  cases d with
  | read => exact .inl (Nat.succ_ne_zero _)
  | write => exact .inr (Nat.succ_ne_zero _)

theorem held_iff_count {ch : Channel} : ch.Held ↔ ∃ d, ch.count d ≠ 0 := by
  constructor
  · rintro (h | h)
    · exact ⟨.read, h⟩
    · exact ⟨.write, h⟩
  · rintro ⟨d, hd⟩
    cases d with
    | read => exact .inl hd
    | write => exact .inr hd

end Channel

namespace Runtime

/-- Every live channel is held. -/
def AllHeld (s : Runtime) : Prop := ∀ c ch, s.channels.lookup c = some ch → ch.Held

section Held

variable {s s' : Runtime}

theorem AllHeld.of_channels_eq (hs : s.AllHeld) (h : s'.channels = s.channels) : s'.AllHeld := by
  intro c ch hc
  rw [h] at hc
  exact hs c ch hc

theorem AllHeld.insert (hs : s.AllHeld) {c : ChannelId} {ch : Channel} (h : ch.Held) :
    ({ s with channels := s.channels.insert c ch } : Runtime).AllHeld := by
  intro c' ch' hc'
  by_cases hcc : c' = c
  · subst hcc
    rw [Finmap.lookup_insert, Option.some.injEq] at hc'
    exact hc' ▸ h
  · rw [Finmap.lookup_insert_of_ne _ hcc] at hc'
    exact hs c' ch' hc'

theorem AllHeld.erase (hs : s.AllHeld) (c : ChannelId) :
    ({ s with channels := s.channels.erase c } : Runtime).AllHeld := by
  intro c' ch' hc'
  by_cases hcc : c' = c
  · subst hcc
    rw [Finmap.lookup_erase] at hc'
    cases hc'
  · rw [Finmap.lookup_erase_ne hcc] at hc'
    exact hs c' ch' hc'

theorem AllHeld.setMessages (hs : s.AllHeld) {c : ChannelId} {ch : Channel}
    (hc : s.channels.lookup c = some ch) (ms : List Message) :
    (s.setChannel c { ch with messages := ms }).AllHeld :=
  hs.insert (hs c ch hc)

theorem AllHeld.halfNew (hs : s.AllHeld) (h : ChannelHalf) : (s.halfNew h).AllHeld := by
  unfold Runtime.halfNew
  split
  · exact hs.insert (Channel.held_incCount _ _)
  · exact hs

theorem AllHeld.halvesNew (hs : s.AllHeld) (hl : List ChannelHalf) : (s.halvesNew hl).AllHeld := by
  induction hl generalizing s with
  | nil => exact hs
  | cons h hl ih => exact ih (hs.halfNew h)

theorem AllHeld.dropHalves (hs : s.AllHeld) (hl : List ChannelHalf) :
    (s.dropHalves hl).AllHeld := by
  induction s, hl using dropHalves.induct with
  | case1 s => rwa [dropHalves_nil]
  | case2 s x rest hc ih =>
    rw [dropHalves_cons_none rest hc]
    exact ih hs
  | case3 s x rest ch hc hz ih =>
    rw [dropHalves_cons_free rest hc hz]
    exact ih (hs.erase _)
  | case4 s x rest ch hc hz ih =>
    rw [dropHalves_cons_keep rest hc hz]
    exact ih (hs.insert (not_and_or.1 hz))

theorem AllHeld.newAbiHandle (hs : s.AllHeld) {n : NodeId} {half : ChannelHalf} {handle : Handle}
    (h : s.newAbiHandle n half handle = some s') : s'.AllHeld :=
  hs.of_channels_eq (newAbiHandle_channels h)

theorem AllHeld.newAbiHandles (hs : s.AllHeld) {n : NodeId} {hl : List ChannelHalf}
    {handles : List Handle} (h : s.newAbiHandles n hl handles = some s') : s'.AllHeld := by
  induction hl generalizing s handles with
  | nil =>
    cases handles with
    | nil =>
      rw [newAbiHandles, Option.some.injEq] at h
      exact h ▸ hs
    | cons _ _ => cases h
  | cons x hl ih =>
    cases handles with
    | nil => cases h
    | cons handle handles =>
      rw [newAbiHandles] at h
      split at h
      · next s₁ h₁ => exact ih ((hs.halfNew x).newAbiHandle h₁) h
      · cases h

theorem AllHeld.nodeMessageFrom (hs : s.AllHeld) {n : NodeId} {msg : Message} {handles : List Handle}
    {nodeMsg : NodeMessage} (h : s.nodeMessageFrom n msg handles = some (s', nodeMsg)) :
    s'.AllHeld := by
  obtain ⟨s₁, h₁, rfl, -⟩ := nodeMessageFrom_spec h
  exact (hs.newAbiHandles h₁).dropHalves _

theorem AllHeld.restored {i : NodeInfo} (hs : s.AllHeld) (h : Restored i s s') : s'.AllHeld := by
  obtain ⟨cl, dl, -, -, rfl⟩ := h
  exact (hs.halvesNew cl).dropHalves dl

theorem AllHeld.collectReaders (hs : s.AllHeld) (info : NodeInfo) (i : ℕ) (handles : List Handle) :
    (collectReaders s info i handles).1.AllHeld := by
  induction handles generalizing s i with
  | nil => exact hs
  | cons handle handles ih =>
    rw [collectReaders]
    split
    · next s₁ half h₁ =>
      obtain ⟨-, -, rfl⟩ := abiToReadHalf_ok h₁
      exact ih (hs.halfNew half) (i + 1)
    · next s₁ e h₁ =>
      -- a write half was cloned and dropped again, or nothing happened
      obtain ⟨-, rfl | ⟨half, -, -, rfl⟩⟩ := abiToReadHalf_error h₁
      · exact ih hs (i + 1)
      · exact ih ((hs.halfNew half).dropHalves [half]) (i + 1)

theorem AllHeld.channelClose (hs : s.AllHeld) {n : NodeId} {handle : Handle}
    {r : Except OakStatus Unit} (h : s.channelClose n handle = some (s', r)) : s'.AllHeld := by
  obtain ⟨i, -, ⟨-, rfl, -⟩ | ⟨half, -, rfl, -⟩⟩ := channelClose_cases h
  · exact hs
  · have he : (s.eraseHandle n i handle).AllHeld := hs.of_channels_eq rfl
    exact he.dropHalves [half]

theorem AllHeld.closeHandles (hs : s.AllHeld) {n : NodeId} {order : List Handle}
    (h : s.closeHandles n order = some s') : s'.AllHeld := by
  induction order generalizing s with
  | nil =>
    rw [closeHandles, Option.some.injEq] at h
    exact h ▸ hs
  | cons handle order ih =>
    rw [closeHandles] at h
    split at h
    · next s₁ h₁ => exact ih (hs.channelClose h₁) h
    · cases h

theorem AllHeld.addChannel_write (hs : s.AllHeld) (l : Label) :
    ((s.addChannel l).halfNew ⟨s.nextChannelId, .write⟩).AllHeld := by
  intro c ch hc
  simp only [Runtime.halfNew, lookup_addChannel_self] at hc
  simp only [addChannel] at hc
  by_cases hcc : c = s.nextChannelId
  · subst hcc
    rw [Finmap.lookup_insert, Option.some.injEq] at hc
    exact hc ▸ Channel.held_incCount _ _
  · rw [Finmap.lookup_insert_of_ne _ hcc, Finmap.lookup_insert_of_ne _ hcc] at hc
    exact hs c ch hc

end Held

/-! ### Every operation keeps every channel held -/

section Ops

variable {s s' : Runtime}

theorem AllHeld.channelCreate {n : NodeId} {l : Label} {dg : Downgrading} {wh rh : Handle}
    {r : Except OakStatus (Handle × Handle)} (hs : s.AllHeld)
    (h : s.channelCreate n l dg wh rh = some (s', r)) : s'.AllHeld := by
  rcases channelCreate_cases h with ⟨rfl, -⟩ | ⟨info, s₃, -, -, -, -, h₃, h₄, -⟩
  · exact hs
  · exact ((hs.addChannel_write l).halfNew _ |>.newAbiHandle h₃).newAbiHandle h₄

theorem AllHeld.handleClone {n : NodeId} {h₀ h₁ : Handle} {r : Except OakStatus Handle}
    (hs : s.AllHeld) (h : s.handleClone n h₀ h₁ = some (s', r)) : s'.AllHeld := by
  rcases handleClone_cases h with ⟨rfl, -⟩ | ⟨info, half, -, -, h₂, -⟩
  · exact hs
  · exact (hs.halfNew half).newAbiHandle h₂

theorem AllHeld.channelWrite {n : NodeId} {wh : Handle} {nodeMsg : NodeMessage} {dg : Downgrading}
    {r : Except OakStatus Unit} (hs : s.AllHeld) (h : s.channelWrite n wh nodeMsg dg = some (s', r)) :
    s'.AllHeld := by
  cases r with
  | error e =>
    obtain ⟨info, -, hres⟩ := channelWrite_error h
    exact hs.restored hres
  | ok u =>
    obtain ⟨info, half, ch, new, ch₂, -, -, -, -, -, -, hch₂, -, rfl⟩ := channelWrite_ok h
    exact (((hs.halfNew half).halvesNew new).setMessages hch₂ _).dropHalves [half]

theorem AllHeld.channelRead {n : NodeId} {rh : Handle} {dg : Downgrading} {handles : List Handle}
    {r : Except OakStatus (Option NodeMessage)} (hs : s.AllHeld)
    (h : s.channelRead n rh dg handles = some (s', r)) : s'.AllHeld := by
  rcases channelRead_cases h with ⟨info, -, hres, -⟩ |
      ⟨info, half, ch, m, rest, s₃, -, -, -, hch, -, -, h₃, rfl, -⟩
  · exact hs.restored hres
  · exact (((hs.halfNew half).setMessages hch rest).nodeMessageFrom h₃).dropHalves [half]

theorem AllHeld.channelTryReadMessage {n : NodeId} {rh : Handle} {b k : Nat} {dg : Downgrading}
    {handles : List Handle} {r : Except OakStatus (Option NodeReadStatus)} (hs : s.AllHeld)
    (h : s.channelTryReadMessage n rh b k dg handles = some (s', r)) : s'.AllHeld := by
  rcases channelTryReadMessage_cases h with ⟨info, -, hres, -⟩ |
      ⟨info, -, -, -, -, -, -, -, -, -, -, hres, -⟩ |
      ⟨info, half, ch, m, rest, s₃, -, -, -, hch, -, -, h₃, rfl, -⟩
  · exact hs.restored hres
  · exact hs.restored hres
  · exact (((hs.halfNew half).setMessages hch rest).nodeMessageFrom h₃).dropHalves [half]

theorem AllHeld.waitLoop (hs : s.AllHeld) (n : NodeId) (info : NodeInfo) (w : ParkedWait) :
    (s.waitLoop n info w).1.AllHeld := by
  rcases waitLoop_cases s n info w with ⟨r, he⟩ | he <;> rw [he]
  · exact hs.dropHalves _
  · exact hs.of_channels_eq rfl

theorem AllHeld.waitOnChannels {n : NodeId} {hs₀ : List Handle} {dg : Downgrading}
    {r : Option (Except OakStatus (List ChannelReadStatus))} (hs : s.AllHeld)
    (h : s.waitOnChannels n hs₀ dg = some (s', r)) : s'.AllHeld := by
  obtain ⟨info, -, he⟩ := waitOnChannels_spec h
  have hl := (hs.collectReaders info 0 hs₀).waitLoop n info ⟨hs₀, (Runtime.collectReaders s info 0 hs₀).2, dg⟩
  rw [he] at hl
  exact hl

theorem AllHeld.unpark {n : NodeId} {r : Option (Except OakStatus (List ChannelReadStatus))} (hs : s.AllHeld)
    (h : s.unpark n = some (s', r)) : s'.AllHeld := by
  obtain ⟨w, info, -, -, he⟩ := unpark_spec h
  have hw : ({ s with parked := s.parked.erase n } : Runtime).AllHeld := hs.of_channels_eq rfl
  have hl := hw.waitLoop n info w
  rw [he] at hl
  exact hl

theorem AllHeld.nodeRegister {n : NodeId} {l : Label} {ih : Handle} {dg : Downgrading}
    {p : NodePrivilege} {iso : NodeIsolation} {nh : Handle} {r : Except OakStatus Unit}
    (hs : s.AllHeld) (h : s.nodeRegister n l ih dg p iso nh = some (s', r)) : s'.AllHeld := by
  rcases nodeRegister_cases h with ⟨rfl, -⟩ | ⟨info, -, hres, -⟩ |
      ⟨info, reader, -, -, -, -, -, -, h₃, -⟩
  · exact hs
  · exact hs.restored hres
  · exact ((hs.halfNew reader).of_channels_eq (addNode_channels _ l p)).newAbiHandle h₃

theorem AllHeld.removeNodeId {n : NodeId} {order : List Handle} (hs : s.AllHeld)
    (h : s.removeNodeId n order = some s') : s'.AllHeld := by
  obtain ⟨info, s₁, -, -, h₁, rfl⟩ := removeNodeId_cases h
  exact (hs.closeHandles h₁).of_channels_eq rfl

theorem AllHeld.step {a : Action} {r : Reply} (hs : s.AllHeld) (h : s.step a = some (s', r)) :
    s'.AllHeld := by
  replace h := (call_of_step h).1
  cases a with
  | stop =>
    simp only [Runtime.call, Option.some.injEq, Prod.mk.injEq] at h
    obtain ⟨rfl, -⟩ := h
    exact hs.of_channels_eq rfl
  | removeNodeId n order =>
    simp only [Runtime.call, Option.map_eq_some_iff, Prod.mk.injEq] at h
    obtain ⟨s₁, h₁, rfl, -⟩ := h
    exact hs.removeNodeId h₁
  | _ =>
    simp only [Runtime.call, Option.map_eq_some_iff, Prod.mk.injEq] at h
    obtain ⟨⟨s₁, r₁⟩, h₁, rfl, -⟩ := h
    first
      | exact hs.channelCreate h₁ | exact hs.handleClone h₁ | exact hs.channelClose h₁
      | exact hs.channelWrite h₁ | exact hs.channelRead h₁ | exact hs.channelTryReadMessage h₁
      | exact hs.waitOnChannels h₁ | exact hs.unpark h₁ | exact hs.nodeRegister h₁

end Ops

theorem AllHeld.of_run {tr : List Event} {s : Runtime} (h : Run Runtime.step create tr s) :
    s.AllHeld :=
  h.invariant _ (fun _ _ hc => by simp [create] at hc) fun _ _ _ _ hs hst => hs.step hst

/-! ### Nothing dangles, nothing is kept -/

theorem queuedHalves_le_halves {s : Runtime} {c : ChannelId} {ch : Channel}
    (hc : s.channels.lookup c = some ch) : ↑ch.queuedHalves ≤ s.halves := by
  rw [halves, sumVals_erase hc]
  exact (Multiset.le_add_right _ _).trans (Multiset.le_add_left _ _)

/-- How the channel map and the halves in the Nodes' tables and the queues agree. -/
structure HeldExactly (s : Runtime) : Prop where
  handle_live : ∀ n i handle half, s.nodeInfos.lookup n = some i →
    i.abiHandles.lookup handle = some half → half.channel ∈ s.channels
  queued_live : ∀ c ch, s.channels.lookup c = some ch →
    ∀ x ∈ ch.queuedHalves, x.channel ∈ s.channels
  held : ∀ c ∈ s.channels, ∃ x ∈ s.halves, x.channel = c

theorem HeldExactly.of_wellFormed {s : Runtime} (hs : s.WellFormed) (ha : s.AllHeld) :
    s.HeldExactly where
  handle_live _ _ _ _ hn hl := hs.counted.live_of_table hn (NodeInfo.mem_tableHalves hl)
  queued_live _ _ hch x hx :=
    hs.counted.live x (Multiset.mem_add.2 (.inl (Multiset.mem_of_le (queuedHalves_le_halves hch) hx)))
  held c hmem := by
    obtain ⟨ch, hch⟩ := Finmap.mem_iff.1 hmem
    obtain ⟨d, hd⟩ := Channel.held_iff_count.1 (ha c ch hch)
    -- the count of a held end is the number of its halves, so one exists; a
    -- parked call's half is in its Node's table too
    rw [hs.counted.count_eq c ch d hch, Multiset.count_ne_zero, Multiset.mem_add] at hd
    rcases hd with hx | hx
    · exact ⟨⟨c, d⟩, hx, rfl⟩
    · exact ⟨⟨c, d⟩, (hs.mem_parkedHalves hx).1, rfl⟩

/-- In every state a run reaches, the live channels are exactly those some half names. -/
theorem channels_held_exactly {tr : List Event} {s : Runtime} (h : Run Runtime.step create tr s) :
    s.HeldExactly :=
  HeldExactly.of_wellFormed (WellFormed.of_run h) (AllHeld.of_run h)

/-- Node 0 creates two channels and closes both handles of the first: the
first is freed and the second is live. -/
theorem channels_held_exactly_closed :
    ∃ tr s, Run Runtime.step create tr s ∧ s.channels.lookup 0 = none ∧ (s.channels.lookup 1).isSome ∧
      s.HeldExactly := by
  let acts : List Action := [.channelCreate 0 Label.publicUntrusted .no 1 2,
    .channelCreate 0 Label.publicUntrusted .no 3 4, .channelClose 0 1, .channelClose 0 2]
  obtain ⟨⟨tr, s⟩, he⟩ := Option.isSome_iff_exists.1
    (by decide +kernel : (runFrom Runtime.step create acts).isSome)
  have hfree : (runFrom Runtime.step create acts).map (fun p => (p.2.channels.lookup 0).isSome) = some false := by
    decide +kernel
  have hlive : (runFrom Runtime.step create acts).map (fun p => (p.2.channels.lookup 1).isSome) = some true := by
    decide +kernel
  rw [he, Option.map_some, Option.some.injEq] at hfree hlive
  have hrun := Run.of_runFrom_init he
  exact ⟨tr, s, hrun, Option.not_isSome_iff_eq_none.1 (by simp [hfree]), hlive, channels_held_exactly hrun⟩

end Runtime

end Oak
