import Oak.Runtime.Invariant

/-! What the exact reference counts give the Runtime's orphan detection. The
counts of a channel are the numbers of its halves held in tables and queues,
and, for the reader count, of the read halves that `wait_on_channels` calls
parked on it hold; those are read halves the parked Node's table holds too. So
`Channel::has_writers` and `has_readers` tell whether such halves exist: a
`channel_status` call that gets past its label check reports `Orphaned`
exactly for an empty channel with no write half, and a `channel_write` that
gets past its handle and label checks fails with `ErrChannelClosed` exactly
when no read half is left in a table or a queue. -/

namespace Oak

open Oak.Lib

namespace Runtime

theorem halvesNew_halves (s : Runtime) (hs : List ChannelHalf) : (s.halvesNew hs).halves = s.halves := by
  induction hs generalizing s with
  | nil => rfl
  | cons h hs ih => rw [halvesNew_cons, ih, halfNew_halves]

theorem abiToHalves_of_mem (s : Runtime) (info : NodeInfo) (acc : List ChannelHalf) {hs : List Handle}
    (hm : ∀ h ∈ hs, h ∈ info.abiHandles) :
    ∃ new, (∀ x ∈ new, x ∈ info.tableHalves) ∧
      abiToHalves s info acc hs = (s.halvesNew new, .ok (acc ++ new)) := by
  induction hs generalizing s acc with
  | nil => exact ⟨[], by simp, by simp [abiToHalves]⟩
  | cons handle hs ih =>
    obtain ⟨half, hl⟩ := Finmap.mem_iff.1 (hm handle List.mem_cons_self)
    obtain ⟨new, hnew, he⟩ := ih (s.halfNew half) (acc ++ [half])
      fun h hh => hm h (List.mem_cons_of_mem _ hh)
    refine ⟨half :: new, ?_, ?_⟩
    · intro x hx
      rcases List.mem_cons.1 hx with rfl | hx
      · exact NodeInfo.mem_tableHalves hl
      · exact hnew x hx
    · simp [abiToHalves, abiToHalf, hl, he]

theorem messageFrom_of_mem (s : Runtime) (info : NodeInfo) {nodeMsg : NodeMessage}
    (hm : ∀ h ∈ nodeMsg.handles, h ∈ info.abiHandles) :
    ∃ new, (∀ x ∈ new, x ∈ info.tableHalves) ∧
      messageFrom s info nodeMsg = (s.halvesNew new, .ok ⟨nodeMsg.bytes, new⟩) := by
  obtain ⟨new, hnew, he⟩ := abiToHalves_of_mem s info [] hm
  exact ⟨new, hnew, by simp [messageFrom, he]⟩

theorem channelStatus_orphaned_iff {info : NodeInfo} {half : ChannelHalf} {ch : Channel}
    {dg : Downgrading} (hd : half.direction = .read)
    (hv : validateCanReadFromLabel info ch.label dg = .ok ()) :
    channelStatus info half ch dg = .ok .orphaned ↔ ch.messages = [] ∧ ch.writerCount = 0 := by
  unfold channelStatus
  rw [hd]
  simp only [hv]
  by_cases hm : ch.messages = []
  · by_cases hw : ch.writerCount = 0 <;> simp [hm, hw, Channel.hasWriters]
  · simp [hm]

theorem channelWrite_closed_iff {s : Runtime} (hs : s.WellFormed) {n : NodeId} {info : NodeInfo}
    {wh : Handle} {half : ChannelHalf} {ch : Channel} {nodeMsg : NodeMessage} {dg : Downgrading}
    (hi : s.nodeInfos.lookup n = some info) (hl : info.abiHandles.lookup wh = some half)
    (hd : half.direction = .write) (hch : s.channels.lookup half.channel = some ch)
    (hv : validateCanWriteToLabel info ch.label dg = .ok ())
    (hm : ∀ h ∈ nodeMsg.handles, h ∈ info.abiHandles) :
    (∃ s', s.channelWrite n wh nodeMsg dg = some (s', .error .errChannelClosed)) ↔
      s.halves.count ⟨half.channel, .read⟩ = 0 := by
  obtain ⟨new, hnew, hmf⟩ := messageFrom_of_mem (s.halfNew half) info hm
  have hw : abiToWriteHalf s info wh = (s.halfNew half, .ok half) := by
    simp [abiToWriteHalf, abiToHalf, hl, hd]
  have hch₁ : (s.halfNew half).channels.lookup half.channel = some (ch.incCount half.direction) := by
    simp [halfNew_of_lookup hch]
  -- the channel after the clones, with its read count
  have hc₂ : half.channel ∈ ((s.halfNew half).halvesNew new).channels :=
    mem_halvesNew_channels.2 (mem_halfNew_channels.2 (Finmap.mem_of_lookup_eq_some hch))
  obtain ⟨ch₂, hch₂⟩ := Finmap.mem_iff.1 hc₂
  have c₁ := hs.counted.halfNew (Finmap.mem_of_lookup_eq_some hch) (h := half)
  have c₂ : ((s.halfNew half).halvesNew new).Counted (↑new + half ::ₘ s.parkedHalves) :=
    c₁.halvesNew fun x hx => mem_halfNew_channels.2 (hs.counted.live_of_table hi (hnew x hx))
  have hcount := c₂.count_eq half.channel ch₂ .read hch₂
  rw [halvesNew_halves, halfNew_halves] at hcount
  have hne : (⟨half.channel, .read⟩ : ChannelHalf) ≠ half := fun e => by
    rw [← e] at hd
    cases hd
  -- a message can carry a half twice, but only halves still held
  have hnew0 : s.halves.count ⟨half.channel, .read⟩ = 0 →
      Multiset.count ⟨half.channel, .read⟩ (↑new : Multiset ChannelHalf) = 0 := by
    intro h0
    rw [Multiset.count_eq_zero] at h0 ⊢
    intro hx
    exact h0 (Multiset.mem_of_le (tableHalves_le_halves hi) (hnew _ (Multiset.mem_coe.1 hx)))
  have hread : ch₂.readerCount = 0 ↔ s.halves.count ⟨half.channel, .read⟩ = 0 := by
    change ch₂.count .read = 0 ↔ _
    rw [hcount, Multiset.add_cons, Multiset.add_cons, Multiset.count_cons_of_ne hne, Multiset.count_add,
      Multiset.count_add]
    constructor
    · intro h0
      omega
    · intro h0
      rw [h0, hnew0 h0, hs.count_parkedHalves_read h0]
  have hwrite : s.channelWrite n wh nodeMsg dg =
      if ch₂.hasReaders then
        some ((((s.halfNew half).halvesNew new).setChannel half.channel
          { ch₂ with messages := ch₂.messages ++ [⟨nodeMsg.bytes, new⟩] }).dropHalves [half], .ok ())
      else
        some (((((s.halfNew half).halvesNew new).dropHalves new).dropHalves [half]),
          .error .errChannelClosed) := by
    simp only [channelWrite, hi, hw, hch₁, Channel.label_incCount, hv, hmf, hch₂]
    split <;> rfl
  rw [hwrite, ← hread]
  by_cases hr : ch₂.hasReaders = true
  · have hpos : ch₂.readerCount ≠ 0 := by
      simpa [Channel.hasReaders, Nat.pos_iff_ne_zero] using hr
    simp [hr, hpos]
  · have hz : ch₂.readerCount = 0 := by simpa [Channel.hasReaders] using hr
    simp [hr, hz]

/-- Orphan detection in `s` is exact: the counts are the numbers of halves held
in tables and queues, and for readers also by parked calls, which hold only read
halves that tables hold too; the checks built on them answer accordingly. -/
structure CountsExact (s : Runtime) : Prop where
  counts : ∀ c ch, s.channels.lookup c = some ch →
    ch.writerCount = s.halves.count ⟨c, .write⟩ ∧
      ch.readerCount = s.halves.count ⟨c, .read⟩ + s.parkedHalves.count ⟨c, .read⟩
  parked_held : ∀ x ∈ s.parkedHalves, x ∈ s.halves ∧ x.direction = .read
  orphaned_iff : ∀ info half ch dg, s.channels.lookup half.channel = some ch →
    half.direction = .read → validateCanReadFromLabel info ch.label dg = .ok () →
    (channelStatus info half ch dg = .ok .orphaned ↔
      ch.messages = [] ∧ s.halves.count ⟨half.channel, .write⟩ = 0)
  closed_iff : ∀ n info wh half ch nodeMsg dg, s.nodeInfos.lookup n = some info →
    info.abiHandles.lookup wh = some half → half.direction = .write →
    s.channels.lookup half.channel = some ch → validateCanWriteToLabel info ch.label dg = .ok () →
    (∀ h ∈ nodeMsg.handles, h ∈ info.abiHandles) →
    ((∃ s', s.channelWrite n wh nodeMsg dg = some (s', .error .errChannelClosed)) ↔
      s.halves.count ⟨half.channel, .read⟩ = 0)

theorem WellFormed.writerCount_eq {s : Runtime} (hs : s.WellFormed) {c : ChannelId} {ch : Channel}
    (h : s.channels.lookup c = some ch) : ch.writerCount = s.halves.count ⟨c, .write⟩ := by
  have hw := hs.counted.count_eq c ch .write h
  rw [Multiset.count_add, hs.count_parkedHalves_write c, add_zero] at hw
  exact hw

theorem WellFormed.countsExact {s : Runtime} (hs : s.WellFormed) : s.CountsExact where
  counts c ch h := by
    have hr := hs.counted.count_eq c ch .read h
    rw [Multiset.count_add] at hr
    exact ⟨hs.writerCount_eq h, hr⟩
  parked_held _ hx := hs.mem_parkedHalves hx
  orphaned_iff info half ch dg hch hd hv := by
    rw [channelStatus_orphaned_iff hd hv, hs.writerCount_eq hch]
  closed_iff _ _ _ _ _ _ _ hi hl hd hch hv hm := channelWrite_closed_iff hs hi hl hd hch hv hm

/-- In every state a run of the `Runtime` reaches, whatever Nodes did before,
each channel's reader and writer counts are its halves held in tables and
queues, and orphan detection is exact for calls that pass their label checks. -/
theorem reader_writer_counts_exact {tr : List Event} {s : Runtime}
    (h : Run Runtime.step create tr s) : s.CountsExact :=
  (WellFormed.of_run h).countsExact

/-- Node 0's `wait_on_channels` in `handoff` parks holding a clone of its read
half: the channel's reader count is the two read halves in tables and the one
the parked call holds. -/
theorem reader_writer_counts_exact_parked :
    ∃ tr s, Run Runtime.step create tr s ∧ s.parkedHalves.count ⟨0, .read⟩ = 1 ∧ s.CountsExact := by
  obtain ⟨⟨tr, s⟩, he⟩ := Option.isSome_iff_exists.1
    (by decide +kernel : (runFrom Runtime.step create (handoff.take 5)).isSome)
  have hcount : (runFrom Runtime.step create (handoff.take 5)).map (fun p => p.2.parkedHalves.count ⟨0, .read⟩) =
      some 1 := by decide +kernel
  rw [he, Option.map_some, Option.some.injEq] at hcount
  have hr := Run.of_runFrom_init he
  exact ⟨tr, s, hr, hcount, reader_writer_counts_exact hr⟩

/-- The reader count is not the number of read halves in tables and queues: a
parked `wait_on_channels` holds one more. After the first five calls of
`handoff` the channel has three readers, and tables and queues hold two read
halves of it. -/
theorem parked_call_holds_reader :
    ∃ tr s ch, Run Runtime.step create tr s ∧ s.channels.lookup 0 = some ch ∧ ch.readerCount = 3 ∧
      s.halves.count ⟨0, .read⟩ = 2 := by
  obtain ⟨⟨tr, s⟩, he⟩ := Option.isSome_iff_exists.1
    (by decide +kernel : (runFrom Runtime.step create (handoff.take 5)).isSome)
  have hcounts : (runFrom Runtime.step create (handoff.take 5)).map
      (fun p => ((p.2.channels.lookup 0).map Channel.readerCount, p.2.halves.count ⟨0, .read⟩)) =
      some (some 3, 2) := by decide +kernel
  rw [he, Option.map_some, Option.some.injEq, Prod.mk.injEq, Option.map_eq_some_iff] at hcounts
  obtain ⟨⟨ch, hch, h3⟩, h2⟩ := hcounts
  exact ⟨tr, s, ch, Run.of_runFrom_init he, hch, h3, h2⟩

/-- The label check comes first: Node 0 creates a channel it may write to but
not read, and closes the write handle; the channel is empty and has no write
half, yet its status for Node 0 is `PermissionDenied`, not `Orphaned`. -/
theorem orphaned_status_needs_permission :
    ∃ tr s, Run Runtime.step create tr s ∧ ∃ info half ch,
      s.nodeInfos.lookup 0 = some info ∧ info.abiHandles.lookup 2 = some half ∧
      s.channels.lookup half.channel = some ch ∧ ch.messages = [] ∧
      s.halves.count ⟨half.channel, .write⟩ = 0 ∧
      channelStatus info half ch .no = .ok .permissionDenied := by
  have h₀ : Run Runtime.step create [] create := Run.nil
  have h₁ := h₀.snoc (a := .channelCreate 0 ⟨[⟨some (.tlsEndpointTag "a")⟩], []⟩ .no 1 2) rfl
  have h₂ := h₁.snoc (a := .channelClose 0 1) rfl
  refine ⟨_, _, h₂, _, ⟨0, .read⟩, ⟨[], 0, 1, ⟨[⟨some (.tlsEndpointTag "a")⟩], []⟩⟩,
    by simp; rfl, rfl, ?_, rfl, ?_, rfl⟩
  · -- dropping the write half leaves the read half: the channel stays, with no writer
    rw [dropHalves_cons_keep _ rfl (by decide), dropHalves_nil]
    rfl
  · exact ((WellFormed.of_run h₂).writerCount_eq (c := 0)
      (by rw [dropHalves_cons_keep _ rfl (by decide), dropHalves_nil]; rfl)).symm

/-- The reader count is more than the read halves in tables and queues, since a
parked `wait_on_channels` holds one of its own; and `Orphaned` is answered only
to a Node that may read the channel. -/
theorem reader_count_and_orphaned_status_diverge :
    (∃ tr s ch, Run Runtime.step create tr s ∧ s.channels.lookup 0 = some ch ∧ ch.readerCount = 3 ∧
      s.halves.count ⟨0, .read⟩ = 2) ∧
    ∃ tr s, Run Runtime.step create tr s ∧ ∃ info half ch,
      s.nodeInfos.lookup 0 = some info ∧ info.abiHandles.lookup 2 = some half ∧
      s.channels.lookup half.channel = some ch ∧ ch.messages = [] ∧
      s.halves.count ⟨half.channel, .write⟩ = 0 ∧
      channelStatus info half ch .no = .ok .permissionDenied :=
  ⟨parked_call_holds_reader, orphaned_status_needs_permission⟩

end Runtime

end Oak
