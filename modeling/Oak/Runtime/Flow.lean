import Oak.Runtime.Invariant

/-! Information-flow control over runs of the `Runtime`. A successful write
passed `validate_can_write_to_label`, a read that returned a message passed
`validate_can_read_from_label`, and a channel or Node was created only under a
label the creator may write to, as may it write to public untrusted. Labels of
Nodes and channels never change, and ids are never reused, so these one-step
checks chain: data written by one Node and read by another, through any number
of channels and Nodes without downgrading, moves up the `flows_to` order. -/

namespace Oak

open Oak.Lib

namespace Runtime

/-- The write an entry made, if it is a `channel_write` that succeeded: the
writer, the channel its handle names, whether it downgraded, and the bytes. -/
def writeOf (e : Event) : Option (NodeId × ChannelId × Downgrading × List UInt8) :=
  match e.act, e.reply with
  | .channelWrite n wh nodeMsg dg, .status (.ok ()) =>
    ((e.pre.nodeInfos.lookup n).bind fun info => info.abiHandles.lookup wh).map
      fun half => (n, half.channel, dg, nodeMsg.bytes)
  | _, _ => none

/-- The message an entry took, if it is a read or try-read that returned one:
the reader, the channel its handle names, whether it downgraded, and the bytes. -/
def readOf (e : Event) : Option (NodeId × ChannelId × Downgrading × List UInt8) :=
  match e.act, e.reply with
  | .channelRead n rh dg _, .read (.ok (some nodeMsg)) =>
    ((e.pre.nodeInfos.lookup n).bind fun info => info.abiHandles.lookup rh).map
      fun half => (n, half.channel, dg, nodeMsg.bytes)
  | .channelTryReadMessage n rh _ _ dg _, .tryRead (.ok (some (.success nodeMsg))) =>
    ((e.pre.nodeInfos.lookup n).bind fun info => info.abiHandles.lookup rh).map
      fun half => (n, half.channel, dg, nodeMsg.bytes)
  | _, _ => none

theorem validateCanWriteToLabel_eq_ok {info : NodeInfo} {l : Label} {dg : Downgrading} :
    validateCanWriteToLabel info l dg = .ok () ↔ (effectiveLabel info info.label dg).flowsTo l = true := by
  unfold validateCanWriteToLabel
  split <;> simp_all

theorem validateCanReadFromLabel_eq_ok {info : NodeInfo} {l : Label} {dg : Downgrading} :
    validateCanReadFromLabel info l dg = .ok () ↔ (effectiveLabel info l dg).flowsTo info.label = true := by
  unfold validateCanReadFromLabel
  split <;> simp_all

theorem lookup_halfNew_label {s : Runtime} {h : ChannelHalf} {c : ChannelId} {ch₁ : Channel}
    (hc : (s.halfNew h).channels.lookup c = some ch₁) :
    ∃ ch, s.channels.lookup c = some ch ∧ ch₁.label = ch.label := by
  obtain ⟨ch, hch, -, hl⟩ := (frame_halfNew s h).channels c ch₁ hc
  exact ⟨ch, hch, hl⟩

/-! ### One step -/

section Step

variable {s s' : Runtime} {a : Action} {r : Reply}

theorem channelWrite_flow {n : NodeId} {wh : Handle} {nodeMsg : NodeMessage} {dg : Downgrading}
    (h : s.channelWrite n wh nodeMsg dg = some (s', .ok ())) :
    ∃ info half ch, s.nodeInfos.lookup n = some info ∧ info.abiHandles.lookup wh = some half ∧
      s.channels.lookup half.channel = some ch ∧
      (effectiveLabel info info.label dg).flowsTo ch.label = true := by
  obtain ⟨info, half, ch₁, -, -, hi, hl, -, hch₁, hv, -⟩ := channelWrite_ok h
  obtain ⟨ch, hch, hlabel⟩ := lookup_halfNew_label hch₁
  rw [validateCanWriteToLabel_eq_ok, hlabel] at hv
  exact ⟨info, half, ch, hi, hl, hch, hv⟩

theorem read_flow {info : NodeInfo} {half : ChannelHalf} {ch : Channel}
    {dg : Downgrading} (hch : (s.halfNew half).channels.lookup half.channel = some ch)
    (hv : validateCanReadFromLabel info ch.label dg = .ok ()) :
    ∃ ch₀, s.channels.lookup half.channel = some ch₀ ∧
      (effectiveLabel info ch₀.label dg).flowsTo info.label = true := by
  obtain ⟨ch₀, hch₀, hlabel⟩ := lookup_halfNew_label hch
  rw [validateCanReadFromLabel_eq_ok, hlabel] at hv
  exact ⟨ch₀, hch₀, hv⟩

theorem channelRead_flow {n : NodeId} {rh : Handle} {dg : Downgrading} {hs : List Handle}
    {nodeMsg : NodeMessage} (h : s.channelRead n rh dg hs = some (s', .ok (some nodeMsg))) :
    ∃ info half ch, s.nodeInfos.lookup n = some info ∧ info.abiHandles.lookup rh = some half ∧
      s.channels.lookup half.channel = some ch ∧
      (effectiveLabel info ch.label dg).flowsTo info.label = true := by
  rcases channelRead_cases h with ⟨-, -, -, hr | ⟨e, hr⟩⟩ |
      ⟨info, half, ch, -, -, -, hi, hl, -, hch, hv, -⟩
  · cases hr
  · cases hr
  · obtain ⟨ch₀, hch₀, hflow⟩ := read_flow hch hv
    exact ⟨info, half, ch₀, hi, hl, hch₀, hflow⟩

theorem channelTryReadMessage_flow {n : NodeId} {rh : Handle} {b k : Nat} {dg : Downgrading}
    {hs : List Handle} {nodeMsg : NodeMessage}
    (h : s.channelTryReadMessage n rh b k dg hs = some (s', .ok (some (.success nodeMsg)))) :
    ∃ info half ch, s.nodeInfos.lookup n = some info ∧ info.abiHandles.lookup rh = some half ∧
      s.channels.lookup half.channel = some ch ∧
      (effectiveLabel info ch.label dg).flowsTo info.label = true := by
  rcases channelTryReadMessage_cases h with ⟨-, -, -, hr | ⟨e, hr⟩⟩ |
      ⟨-, -, -, front, -, -, -, -, -, -, -, -, hr⟩ | ⟨info, half, ch, -, -, -, hi, hl, -, hch, hv, -⟩
  · cases hr
  · cases hr
  · cases hr
  · obtain ⟨ch₀, hch₀, hflow⟩ := read_flow hch hv
    exact ⟨info, half, ch₀, hi, hl, hch₀, hflow⟩

theorem channelCreate_flow {n : NodeId} {l : Label} {dg : Downgrading} {wh rh : Handle}
    {p : Handle × Handle} (h : s.channelCreate n l dg wh rh = some (s', .ok p)) :
    ∃ info, s.nodeInfos.lookup n = some info ∧
      (effectiveLabel info info.label dg).flowsTo l = true ∧
      (effectiveLabel info info.label dg).flowsTo Label.publicUntrusted = true ∧
      ∃ ch, s'.channels.lookup s.nextChannelId = some ch ∧ ch.label = l := by
  rcases channelCreate_cases h with ⟨-, e, he⟩ | ⟨info, s₃, -, hi, hv₁, hv₂, h₃, h₄, -⟩
  · cases he
  · -- the two clones and the two table entries keep the new channel's label
    have hf : Frame (s.addChannel l) s' :=
      ((frame_halfNew _ _).trans (frame_halfNew _ _)).trans
        ((frame_newAbiHandle h₃).trans (frame_newAbiHandle h₄))
    have hmem : s.nextChannelId ∈ s'.channels := by
      rw [newAbiHandle_channels h₄, newAbiHandle_channels h₃, mem_halfNew_channels,
        mem_halfNew_channels]
      exact Finmap.mem_of_lookup_eq_some (lookup_addChannel_self s l)
    obtain ⟨ch, hch⟩ := Finmap.mem_iff.1 hmem
    obtain ⟨ch₀, hch₀, -, hlabel⟩ := hf.channels _ ch hch
    rw [lookup_addChannel_self, Option.some.injEq] at hch₀
    subst hch₀
    rw [validateCanWriteToLabel_eq_ok] at hv₁ hv₂
    exact ⟨info, hi, hv₂, hv₁, ch, hch, hlabel⟩

theorem nodeRegister_flow {n : NodeId} {l : Label} {ih : Handle} {dg : Downgrading}
    {p : NodePrivilege} {iso : NodeIsolation} {nh : Handle}
    (h : s.nodeRegister n l ih dg p iso nh = some (s', .ok ())) :
    ∃ info, s.nodeInfos.lookup n = some info ∧
      (effectiveLabel info info.label dg).flowsTo l = true ∧
      (effectiveLabel info info.label dg).flowsTo Label.publicUntrusted = true ∧
      ∃ i, s'.nodeInfos.lookup s.nextNodeId = some i ∧ i.label = l := by
  rcases nodeRegister_cases h with ⟨-, e, he⟩ | ⟨-, -, -, e, he⟩ |
      ⟨info, reader, -, hi, hv₁, hv₂, -, -, h₃, -⟩
  · cases he
  · cases he
  · obtain ⟨i, hi₀, -, rfl⟩ := newAbiHandle_spec h₃
    have hnew : i = ⟨l, p, ∅⟩ := by simpa [addNode] using hi₀.symm
    subst hnew
    rw [validateCanWriteToLabel_eq_ok] at hv₁ hv₂
    exact ⟨info, hi, hv₂, hv₁, ⟨l, p, Finmap.insert nh reader ∅⟩, by simp, rfl⟩

theorem writeOf_spec {e : Event} {n : NodeId} {c : ChannelId} {dg : Downgrading} {bytes : List UInt8}
    (hw : writeOf e = some (n, c, dg, bytes)) :
    ∃ wh nodeMsg info half, e.act = .channelWrite n wh nodeMsg dg ∧ e.reply = .status (.ok ()) ∧
      e.pre.nodeInfos.lookup n = some info ∧ info.abiHandles.lookup wh = some half ∧
      half.channel = c ∧ nodeMsg.bytes = bytes := by
  unfold writeOf at hw
  split at hw
  · next n' wh nodeMsg dg' ha hr =>
    simp only [Option.map_eq_some_iff, Option.bind_eq_some_iff, Prod.mk.injEq] at hw
    obtain ⟨half, ⟨info, hi, hl⟩, rfl, hc, rfl, hb⟩ := hw
    exact ⟨wh, nodeMsg, info, half, ha, hr, hi, hl, hc, hb⟩
  · cases hw

theorem readOf_spec {e : Event} {n : NodeId} {c : ChannelId} {dg : Downgrading} {bytes : List UInt8}
    (hr : readOf e = some (n, c, dg, bytes)) :
    ∃ rh nodeMsg info half, e.pre.nodeInfos.lookup n = some info ∧
      info.abiHandles.lookup rh = some half ∧ half.channel = c ∧ nodeMsg.bytes = bytes ∧
      ((∃ hs, e.act = .channelRead n rh dg hs ∧ e.reply = .read (.ok (some nodeMsg))) ∨
        (∃ b k hs, e.act = .channelTryReadMessage n rh b k dg hs ∧
          e.reply = .tryRead (.ok (some (.success nodeMsg))))) := by
  unfold readOf at hr
  split at hr
  · next n' rh dg' hs nodeMsg ha hre =>
    simp only [Option.map_eq_some_iff, Option.bind_eq_some_iff, Prod.mk.injEq] at hr
    obtain ⟨half, ⟨info, hi, hl⟩, rfl, hc, rfl, hb⟩ := hr
    exact ⟨rh, nodeMsg, info, half, hi, hl, hc, hb, .inl ⟨hs, ha, hre⟩⟩
  · next n' rh b k dg' hs nodeMsg ha hre =>
    simp only [Option.map_eq_some_iff, Option.bind_eq_some_iff, Prod.mk.injEq] at hr
    obtain ⟨half, ⟨info, hi, hl⟩, rfl, hc, rfl, hb⟩ := hr
    exact ⟨rh, nodeMsg, info, half, hi, hl, hc, hb, .inr ⟨b, k, hs, ha, hre⟩⟩
  · cases hr

theorem lookup_handle_unique {s : Runtime} {n : NodeId} {h : Handle} {i i' : NodeInfo}
    {half half' : ChannelHalf} (hi : s.nodeInfos.lookup n = some i) (hi' : s.nodeInfos.lookup n = some i')
    (hl : i.abiHandles.lookup h = some half) (hl' : i'.abiHandles.lookup h = some half') :
    i' = i ∧ half' = half := by
  obtain rfl := Option.some.inj (hi'.symm.trans hi)
  exact ⟨rfl, Option.some.inj (hl'.symm.trans hl)⟩

theorem writeOf_flow (h : s.step a = some (s', r)) {n : NodeId} {c : ChannelId} {dg : Downgrading}
    {bytes : List UInt8} (hw : writeOf ⟨s, a, s', r⟩ = some (n, c, dg, bytes)) :
    ∃ info ch, s.nodeInfos.lookup n = some info ∧ s.channels.lookup c = some ch ∧
      (effectiveLabel info info.label dg).flowsTo ch.label = true := by
  obtain ⟨wh, nodeMsg, info', half', rfl, rfl, hi', hl', rfl, -⟩ := writeOf_spec hw
  replace h := (call_of_step h).1
  simp only [Runtime.call, Option.map_eq_some_iff, Prod.mk.injEq] at h
  obtain ⟨⟨s₁, r₁⟩, h₁, rfl, hr⟩ := h
  cases hr
  obtain ⟨info, half, ch, hi, hl, hch, hflow⟩ := channelWrite_flow h₁
  obtain ⟨rfl, rfl⟩ := lookup_handle_unique hi hi' hl hl'
  exact ⟨info', ch, hi', hch, hflow⟩

theorem readOf_flow (h : s.step a = some (s', r)) {n : NodeId} {c : ChannelId} {dg : Downgrading}
    {bytes : List UInt8} (hr : readOf ⟨s, a, s', r⟩ = some (n, c, dg, bytes)) :
    ∃ info ch, s.nodeInfos.lookup n = some info ∧ s.channels.lookup c = some ch ∧
      (effectiveLabel info ch.label dg).flowsTo info.label = true := by
  obtain ⟨rh, nodeMsg, info', half', hi', hl', rfl, -, ⟨hs, rfl, rfl⟩ | ⟨b, k, hs, rfl, rfl⟩⟩ :=
    readOf_spec hr
  all_goals
    replace h := (call_of_step h).1
    simp only [Runtime.call, Option.map_eq_some_iff, Prod.mk.injEq] at h
    obtain ⟨⟨s₁, r₁⟩, h₁, rfl, hr₁⟩ := h
    cases hr₁
  · obtain ⟨info, half, ch, hi, hl, hch, hflow⟩ := channelRead_flow h₁
    obtain ⟨rfl, rfl⟩ := lookup_handle_unique hi hi' hl hl'
    exact ⟨info', ch, hi', hch, hflow⟩
  · obtain ⟨info, half, ch, hi, hl, hch, hflow⟩ := channelTryReadMessage_flow h₁
    obtain ⟨rfl, rfl⟩ := lookup_handle_unique hi hi' hl hl'
    exact ⟨info', ch, hi', hch, hflow⟩

end Step

/-! ### Whole runs -/

theorem Grows.node_label_eq {s s' : Runtime} (hg : Grows s s') (hs : s.Fresh) {n : NodeId}
    {i i' : NodeInfo} (hi : s.nodeInfos.lookup n = some i) (hi' : s'.nodeInfos.lookup n = some i') :
    i'.label = i.label := by
  obtain ⟨i₀, hi₀, hl, -⟩ := hg.node n i' hi' (hs.node_lt n (Finmap.mem_of_lookup_eq_some hi))
  obtain rfl := Option.some.inj (hi.symm.trans hi₀)
  exact hl

theorem Grows.channel_label_eq {s s' : Runtime} (hg : Grows s s') (hs : s.Fresh) {c : ChannelId}
    {ch ch' : Channel} (hc : s.channels.lookup c = some ch) (hc' : s'.channels.lookup c = some ch') :
    ch'.label = ch.label := by
  obtain ⟨ch₀, hc₀, hl⟩ := hg.channel c ch' hc' (hs.channel_lt c (Finmap.mem_of_lookup_eq_some hc))
  obtain rfl := Option.some.inj (hc.symm.trans hc₀)
  exact hl

section Run

variable {tr : List Event} {s : Runtime}

theorem wellFormed_of_mem_states (h : Run Runtime.step create tr s) :
    ∀ t ∈ states tr s, t.WellFormed := by
  intro t ht
  obtain ⟨tr', hr⟩ := h.reachable_of_mem_states t ht
  exact WellFormed.of_run hr

theorem grows_total (h : Run Runtime.step create tr s) :
    ∀ t ∈ states tr s, ∀ t' ∈ states tr s, Grows t t' ∨ Grows t' t :=
  h.rel_states_total Grows Grows.refl (fun _ _ _ => Grows.trans) fun _ _ _ _ _ =>
    Grows.of_reachable_step

theorem node_label_stable (h : Run Runtime.step create tr s) {t t' : Runtime}
    (ht : t ∈ states tr s) (ht' : t' ∈ states tr s) {n : NodeId} {i i' : NodeInfo}
    (hi : t.nodeInfos.lookup n = some i) (hi' : t'.nodeInfos.lookup n = some i') :
    i'.label = i.label := by
  rcases grows_total h t ht t' ht' with hg | hg
  · exact hg.node_label_eq (wellFormed_of_mem_states h t ht).fresh hi hi'
  · exact (hg.node_label_eq (wellFormed_of_mem_states h t' ht').fresh hi' hi).symm

theorem channel_label_stable (h : Run Runtime.step create tr s) {t t' : Runtime}
    (ht : t ∈ states tr s) (ht' : t' ∈ states tr s) {c : ChannelId} {ch ch' : Channel}
    (hc : t.channels.lookup c = some ch) (hc' : t'.channels.lookup c = some ch') :
    ch'.label = ch.label := by
  rcases grows_total h t ht t' ht' with hg | hg
  · exact hg.channel_label_eq (wellFormed_of_mem_states h t ht).fresh hc hc'
  · exact (hg.channel_label_eq (wellFormed_of_mem_states h t' ht').fresh hc' hc).symm

theorem pre_mem_states {e : Event} (he : e ∈ tr) : e.pre ∈ states tr s :=
  List.mem_cons_of_mem _ (List.mem_map_of_mem he)

/-- Data moves from Node `a` to Node `b` in one hop of a run: `a` wrote to a
channel and `b` read from it, neither downgrading. -/
def Hop (tr : List Event) (a b : NodeId) : Prop :=
  ∃ c, (∃ e ∈ tr, ∃ bytes, writeOf e = some (a, c, .no, bytes)) ∧
    (∃ e ∈ tr, ∃ bytes, readOf e = some (b, c, .no, bytes))

theorem Hop.flowsTo (h : Run Runtime.step create tr s) {a b : NodeId} (hab : Hop tr a b)
    {t t' : Runtime} (ht : t ∈ states tr s) (ht' : t' ∈ states tr s) {ia ib : NodeInfo}
    (hia : t.nodeInfos.lookup a = some ia) (hib : t'.nodeInfos.lookup b = some ib) :
    ia.label.flowsTo ib.label = true := by
  obtain ⟨c, ⟨ew, hew, bw, hw⟩, ⟨er, her, br, hr⟩⟩ := hab
  obtain ⟨iw, chw, hiw, hchw, hfw⟩ := writeOf_flow (h.entry ew hew).2 hw
  obtain ⟨ir, chr, hir, hchr, hfr⟩ := readOf_flow (h.entry er her).2 hr
  -- labels read at the write and at the read are those read in t and t'
  have hw_label := node_label_stable h (pre_mem_states hew) ht hiw hia
  have hr_label := node_label_stable h (pre_mem_states her) ht' hir hib
  have hc_label := channel_label_stable h (pre_mem_states hew) (pre_mem_states her) hchw hchr
  have hfr' : chw.label.flowsTo ir.label = true := by
    rw [← hc_label]
    exact hfr
  rw [hw_label, hr_label]
  exact Label.flowsTo_trans hfw hfr'

theorem Hop.source_live {a b : NodeId} (hab : Hop tr a b) :
    ∃ e ∈ tr, ∃ i, e.pre.nodeInfos.lookup a = some i := by
  obtain ⟨c, ⟨e, he, bytes, hw⟩, -⟩ := hab
  obtain ⟨-, -, i, -, -, -, hi, -⟩ := writeOf_spec hw
  exact ⟨e, he, i, hi⟩

theorem chain_flowsTo (h : Run Runtime.step create tr s) {a z : NodeId}
    (haz : Relation.TransGen (Hop tr) a z) {t t' : Runtime} (ht : t ∈ states tr s)
    (ht' : t' ∈ states tr s) {ia iz : NodeInfo} (hia : t.nodeInfos.lookup a = some ia)
    (hiz : t'.nodeInfos.lookup z = some iz) : ia.label.flowsTo iz.label = true := by
  induction haz generalizing t' iz with
  | single hab => exact hab.flowsTo h ht ht' hia hiz
  | @tail b c _ hbc ih =>
    -- go through a state where the middle Node lives
    obtain ⟨e, he, ib, hib⟩ := hbc.source_live
    exact Label.flowsTo_trans (ih (pre_mem_states he) hib) (hbc.flowsTo h (pre_mem_states he) ht' hib hiz)

theorem step_channelCreate_flow {s s' : Runtime} {n : NodeId} {l : Label} {dg : Downgrading}
    {wh rh : Handle} {p : Handle × Handle}
    (h : s.step (.channelCreate n l dg wh rh) = some (s', .handles (.ok p))) :
    ∃ info, s.nodeInfos.lookup n = some info ∧
      (effectiveLabel info info.label dg).flowsTo l = true ∧
      (effectiveLabel info info.label dg).flowsTo Label.publicUntrusted = true ∧
      ∃ ch, s'.channels.lookup s.nextChannelId = some ch ∧ ch.label = l := by
  replace h := (call_of_step h).1
  simp only [Runtime.call, Option.map_eq_some_iff, Prod.mk.injEq] at h
  obtain ⟨⟨s₁, r₁⟩, h₁, rfl, hr⟩ := h
  cases hr
  exact channelCreate_flow h₁

theorem step_nodeRegister_flow {s s' : Runtime} {n : NodeId} {l : Label} {ih : Handle}
    {dg : Downgrading} {p : NodePrivilege} {iso : NodeIsolation} {nh : Handle}
    (h : s.step (.nodeRegister n l ih dg p iso nh) = some (s', .status (.ok ()))) :
    ∃ info, s.nodeInfos.lookup n = some info ∧
      (effectiveLabel info info.label dg).flowsTo l = true ∧
      (effectiveLabel info info.label dg).flowsTo Label.publicUntrusted = true ∧
      ∃ i, s'.nodeInfos.lookup s.nextNodeId = some i ∧ i.label = l := by
  replace h := (call_of_step h).1
  simp only [Runtime.call, Option.map_eq_some_iff, Prod.mk.injEq] at h
  obtain ⟨⟨s₁, r₁⟩, h₁, rfl, hr⟩ := h
  cases hr
  exact nodeRegister_flow h₁

/-- Information-flow safety of a run that reached `s`: every write, read and
creation it made passed its label check, labels never change, and data moves
up the label order along any chain of writes and reads without downgrading. -/
structure FlowSafe (tr : List Event) (s : Runtime) : Prop where
  writes : ∀ e ∈ tr, ∀ n c dg bytes, writeOf e = some (n, c, dg, bytes) →
    ∃ info ch, e.pre.nodeInfos.lookup n = some info ∧ e.pre.channels.lookup c = some ch ∧
      (effectiveLabel info info.label dg).flowsTo ch.label = true
  reads : ∀ e ∈ tr, ∀ n c dg bytes, readOf e = some (n, c, dg, bytes) →
    ∃ info ch, e.pre.nodeInfos.lookup n = some info ∧ e.pre.channels.lookup c = some ch ∧
      (effectiveLabel info ch.label dg).flowsTo info.label = true
  channel_created : ∀ e ∈ tr, ∀ n l dg wh rh p, e.act = .channelCreate n l dg wh rh →
    e.reply = .handles (.ok p) → ∃ info, e.pre.nodeInfos.lookup n = some info ∧
      (effectiveLabel info info.label dg).flowsTo l = true ∧
      (effectiveLabel info info.label dg).flowsTo Label.publicUntrusted = true ∧
      ∃ ch, e.post.channels.lookup e.pre.nextChannelId = some ch ∧ ch.label = l
  node_created : ∀ e ∈ tr, ∀ n l ih dg p iso nh, e.act = .nodeRegister n l ih dg p iso nh →
    e.reply = .status (.ok ()) → ∃ info, e.pre.nodeInfos.lookup n = some info ∧
      (effectiveLabel info info.label dg).flowsTo l = true ∧
      (effectiveLabel info info.label dg).flowsTo Label.publicUntrusted = true ∧
      ∃ i, e.post.nodeInfos.lookup e.pre.nextNodeId = some i ∧ i.label = l
  node_label : ∀ t ∈ states tr s, ∀ t' ∈ states tr s, ∀ n i i',
    t.nodeInfos.lookup n = some i → t'.nodeInfos.lookup n = some i' → i'.label = i.label
  channel_label : ∀ t ∈ states tr s, ∀ t' ∈ states tr s, ∀ c ch ch',
    t.channels.lookup c = some ch → t'.channels.lookup c = some ch' → ch'.label = ch.label
  chain : ∀ a z, Relation.TransGen (Hop tr) a z → ∀ t ∈ states tr s, ∀ t' ∈ states tr s,
    ∀ ia iz, t.nodeInfos.lookup a = some ia → t'.nodeInfos.lookup z = some iz →
      ia.label.flowsTo iz.label = true

/-- Every run of the `Runtime`, whatever Nodes asked for and in whatever order,
is information-flow safe. -/
theorem information_flow_safe (h : Run Runtime.step create tr s) : FlowSafe tr s where
  writes e he _ _ _ _ hw := writeOf_flow (h.entry e he).2 hw
  reads e he _ _ _ _ hr := readOf_flow (h.entry e he).2 hr
  channel_created e he _ _ _ _ _ _ ha hr := by
    have hst := (h.entry e he).2
    rw [ha, hr] at hst
    exact step_channelCreate_flow hst
  node_created e he _ _ _ _ _ _ _ ha hr := by
    have hst := (h.entry e he).2
    rw [ha, hr] at hst
    exact step_nodeRegister_flow hst
  node_label _ ht _ ht' _ _ _ hi hi' := node_label_stable h ht ht' hi hi'
  channel_label _ ht _ ht' _ _ _ hc hc' := channel_label_stable h ht ht' hc hc'
  chain _ _ haz _ ht _ ht' _ _ hia hiz := chain_flowsTo h haz ht ht' hia hiz

/-- In `handoff` data moves from Node 0 to the Node it creates: Node 0 writes to
channel 0 and Node 1 reads from it. -/
theorem information_flow_safe_handoff :
    ∃ tr s, Run Runtime.step create tr s ∧ Hop tr 0 1 ∧ FlowSafe tr s := by
  obtain ⟨⟨tr, s⟩, he⟩ := Option.isSome_iff_exists.1
    (by decide +kernel : (runFrom Runtime.step create handoff).isSome)
  have hw : (runFrom Runtime.step create handoff).map (fun p => p.1.filterMap writeOf) =
      some [(0, 0, .no, []), (1, 0, .no, [7])] := by decide +kernel
  have hr : (runFrom Runtime.step create handoff).map (fun p => p.1.filterMap readOf) =
      some [(1, 0, .no, [])] := by decide +kernel
  rw [he, Option.map_some, Option.some.injEq] at hw hr
  obtain ⟨ew, hew, hw₀⟩ := List.mem_filterMap.1 (hw ▸ List.mem_cons_self : (0, 0, .no, []) ∈ tr.filterMap writeOf)
  obtain ⟨er, her, hr₁⟩ := List.mem_filterMap.1 (hr ▸ List.mem_cons_self : (1, 0, .no, []) ∈ tr.filterMap readOf)
  have hrun := Run.of_runFrom_init he
  exact ⟨tr, s, hrun, ⟨0, ⟨ew, hew, [], hw₀⟩, ⟨er, her, [], hr₁⟩⟩, information_flow_safe hrun⟩

end Run

end Runtime

end Oak
