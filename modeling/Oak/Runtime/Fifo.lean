import Oak.Lib.Fifo
import Oak.Runtime.Flow

/-! Each channel of the `Runtime` is a first-in first-out queue. Whatever
Nodes do, through whatever handles to a channel, the bytes that successful
reads returned from it are a prefix of the bytes that successful writes put on
it, in the same order, and a live channel queues exactly the rest. A write that
fails leaves every queue as it was, and so does a try-read that asks for more
capacity, which reports the sizes of the front message. -/

namespace Oak

open Oak.Lib

namespace Runtime

/-- The bytes queued on channel `c`, oldest first, if the channel lives. -/
def queue (s : Runtime) (c : ChannelId) : Option (List (List UInt8)) :=
  (s.channels.lookup c).map fun ch => ch.messages.map Message.data

theorem queue_of_lookup {s : Runtime} {c : ChannelId} {ch : Channel}
    (h : s.channels.lookup c = some ch) : s.queue c = some (ch.messages.map Message.data) := by
  simp [queue, h]

theorem queue_eq_none {s : Runtime} {c : ChannelId} : s.queue c = none ↔ c ∉ s.channels := by
  simp [queue, Finmap.lookup_eq_none]

theorem queue_setChannel (s : Runtime) (c : ChannelId) (ch : Channel) (c' : ChannelId) :
    (s.setChannel c ch).queue c' = if c' = c then some (ch.messages.map Message.data) else s.queue c' := by
  by_cases hc : c' = c
  · subst hc
    simp [queue, setChannel]
  · simp [queue, setChannel, Finmap.lookup_insert_of_ne _ hc, hc]

theorem queue_addChannel (s : Runtime) (l : Label) (c : ChannelId) :
    (s.addChannel l).queue c = if c = s.nextChannelId then some [] else s.queue c := by
  by_cases hc : c = s.nextChannelId
  · subst hc
    simp [queue, addChannel]
  · simp [queue, addChannel, Finmap.lookup_insert_of_ne _ hc, hc]

theorem Frame.queue_kept {s s' : Runtime} (h : Frame s s') (c : ChannelId) :
    Kept (s.queue c) (s'.queue c) := by
  cases hc : s'.channels.lookup c with
  | none => exact .inl (by simp [queue, hc])
  | some ch' =>
    obtain ⟨ch, hch, hm, -⟩ := h.channels c ch' hc
    exact .inr (by simp [queue, hc, hch, hm])

/-- Every queue of `s` is in `s'`, with the same messages. -/
def QueuesKept (s s' : Runtime) : Prop :=
  ∀ c ch, s.channels.lookup c = some ch → ∃ ch', s'.channels.lookup c = some ch' ∧ ch'.messages = ch.messages

theorem Restored.queuesKept {i : NodeInfo} {s s' : Runtime} {n : NodeId} (hr : Restored i s s')
    (hs : s.WellFormed) (hi : s.nodeInfos.lookup n = some i) : QueuesKept s s' := by
  intro c ch hc
  obtain ⟨ch', hc'⟩ := Finmap.mem_iff.1 (hr.mem_channels hs.counted hi (Finmap.mem_of_lookup_eq_some hc))
  obtain ⟨ch₀, hc₀, hm, -⟩ := hr.frame.channels c ch' hc'
  obtain rfl := Option.some.inj (hc.symm.trans hc₀)
  exact ⟨ch', hc', hm⟩

/-! ### What an entry put on and took off a queue -/

/-- The bytes an entry wrote to channel `c`: those of a successful write
through a handle to `c`. -/
def wrote (e : Event) (c : ChannelId) : List (List UInt8) :=
  match writeOf e with
  | some (_, c', _, bytes) => if c' = c then [bytes] else []
  | none => []

/-- The bytes an entry read from channel `c`: those of a read or try-read that
returned a message, through a handle to `c`. -/
def took (e : Event) (c : ChannelId) : List (List UInt8) :=
  match readOf e with
  | some (_, c', _, bytes) => if c' = c then [bytes] else []
  | none => []

/-- The bytes a run wrote to channel `c`, oldest first. -/
def written (tr : List Event) (c : ChannelId) : List (List UInt8) := tr.flatMap fun e => wrote e c

/-- The bytes a run read from channel `c`, oldest first. -/
def taken (tr : List Event) (c : ChannelId) : List (List UInt8) := tr.flatMap fun e => took e c

@[simp] theorem written_append (tr : List Event) (e : Event) (c : ChannelId) :
    written (tr ++ [e]) c = written tr c ++ wrote e c := by
  simp [written]

@[simp] theorem taken_append (tr : List Event) (e : Event) (c : ChannelId) :
    taken (tr ++ [e]) c = taken tr c ++ took e c := by
  simp [taken]

theorem wrote_of_writeOf_none {e : Event} (h : writeOf e = none) (c : ChannelId) : wrote e c = [] := by
  simp [wrote, h]

theorem took_of_readOf_none {e : Event} (h : readOf e = none) (c : ChannelId) : took e c = [] := by
  simp [took, h]

theorem queueMoves_of_kept {e : Event} (hw : writeOf e = none) (hr : readOf e = none)
    (hk : ∀ c, Kept (e.pre.queue c) (e.post.queue c)) (c : ChannelId) :
    QueueMoves (wrote e c) (took e c) (e.pre.queue c) (e.post.queue c) := by
  rw [wrote_of_writeOf_none hw, took_of_readOf_none hr]
  exact QueueMoves.of_kept (hk c)

/-! ### One step -/

section Step

variable {s s' : Runtime}

theorem channelWrite_queueMoves {n : NodeId} {wh : Handle} {nodeMsg : NodeMessage} {dg : Downgrading}
    (h : s.channelWrite n wh nodeMsg dg = some (s', .ok ())) (c : ChannelId) :
    QueueMoves (wrote ⟨s, .channelWrite n wh nodeMsg dg, s', .status (.ok ())⟩ c) []
      (s.queue c) (s'.queue c) := by
  obtain ⟨info, half, ch, new, ch₂, hi, hl, -, -, -, -, hch₂, -, hs'⟩ := channelWrite_ok h
  have hw : wrote ⟨s, .channelWrite n wh nodeMsg dg, s', .status (.ok ())⟩ c =
      if half.channel = c then [nodeMsg.bytes] else [] := by
    simp [wrote, writeOf, hi, hl]
  rw [hw]
  subst hs'
  -- the clones keep every queue; the push changes the one of `half.channel`
  set s₁ := (s.halfNew half).halvesNew new
  set s₂ := s₁.setChannel half.channel { ch₂ with messages := ch₂.messages ++ [⟨nodeMsg.bytes, new⟩] }
  have hk₁ := ((frame_halfNew s half).trans (frame_halvesNew _ new)).queue_kept c
  have hk₃ := (frame_dropHalves s₂ [half]).queue_kept c
  by_cases hc : half.channel = c
  · subst hc
    rw [if_pos rfl]
    refine QueueMoves.of_kept_left hk₁ (by rw [queue_of_lookup hch₂]; exact Option.some_ne_none _) (QueueMoves.kept ?_ hk₃)
    rw [queue_setChannel, if_pos rfl, queue_of_lookup hch₂, List.map_append]
    exact queueMoves_push _ _
  · rw [if_neg hc]
    have hk₂ : Kept (s₁.queue c) (s₂.queue c) := by
      rw [queue_setChannel, if_neg (Ne.symm hc)]
      exact Kept.refl _
    exact QueueMoves.of_kept (hk₁.trans (hk₂.trans hk₃))

theorem pop_queueMoves {n : NodeId} {half : ChannelHalf} {ch : Channel} {m : Message}
    {rest : List Message} {handles : List Handle} {s₃ : Runtime} {nodeMsg : NodeMessage}
    (hch : (s.halfNew half).channels.lookup half.channel = some ch) (hm : ch.messages = m :: rest)
    (h₃ : ((s.halfNew half).setChannel half.channel { ch with messages := rest }).nodeMessageFrom
      n m handles = some (s₃, nodeMsg)) (c : ChannelId) :
    QueueMoves [] (if half.channel = c then [m.data] else []) (s.queue c) ((s₃.dropHalves [half]).queue c) := by
  set s₂ := (s.halfNew half).setChannel half.channel { ch with messages := rest }
  have hk₁ := (frame_halfNew s half).queue_kept c
  have hk₃ := ((frame_nodeMessageFrom h₃).trans (frame_dropHalves s₃ [half])).queue_kept c
  by_cases hc : half.channel = c
  · subst hc
    rw [if_pos rfl]
    refine QueueMoves.of_kept_left hk₁ (by rw [queue_of_lookup hch]; exact Option.some_ne_none _) (QueueMoves.kept ?_ hk₃)
    rw [queue_setChannel, if_pos rfl, queue_of_lookup hch, hm]
    exact queueMoves_pop _ _
  · rw [if_neg hc]
    have hk₂ : Kept ((s.halfNew half).queue c) (s₂.queue c) := by
      rw [queue_setChannel, if_neg (Ne.symm hc)]
      exact Kept.refl _
    exact QueueMoves.of_kept (hk₁.trans (hk₂.trans hk₃))

theorem channelRead_queueMoves {n : NodeId} {rh : Handle} {dg : Downgrading} {handles : List Handle}
    {r : Except OakStatus (Option NodeMessage)}
    (h : s.channelRead n rh dg handles = some (s', r)) (c : ChannelId) :
    QueueMoves [] (took ⟨s, .channelRead n rh dg handles, s', .read r⟩ c) (s.queue c) (s'.queue c) := by
  rcases channelRead_cases h with ⟨info, hi, hres, hr⟩ |
      ⟨info, half, ch, m, rest, s₃, hi, hl, -, hch, -, hm, h₃, rfl, rfl⟩
  · have ht : took ⟨s, .channelRead n rh dg handles, s', .read r⟩ c = [] := by
      rcases hr with rfl | ⟨e, rfl⟩ <;> rfl
    rw [ht]
    exact QueueMoves.of_kept (hres.frame.queue_kept c)
  · have ht : took ⟨s, .channelRead n rh dg handles, s₃.dropHalves [half], .read (.ok (some ⟨m.data, handles⟩))⟩ c =
        if half.channel = c then [m.data] else [] := by
      simp [took, readOf, hi, hl]
    rw [ht]
    exact pop_queueMoves hch hm h₃ c

theorem channelTryReadMessage_queueMoves {n : NodeId} {rh : Handle} {b k : Nat} {dg : Downgrading}
    {handles : List Handle} {r : Except OakStatus (Option NodeReadStatus)}
    (h : s.channelTryReadMessage n rh b k dg handles = some (s', r)) (c : ChannelId) :
    QueueMoves [] (took ⟨s, .channelTryReadMessage n rh b k dg handles, s', .tryRead r⟩ c)
      (s.queue c) (s'.queue c) := by
  rcases channelTryReadMessage_cases h with ⟨info, hi, hres, hr⟩ |
      ⟨info, -, -, -, -, hi, -, -, -, -, -, hres, rfl⟩ |
      ⟨info, half, ch, m, rest, s₃, hi, hl, -, hch, -, hm, h₃, rfl, rfl⟩
  · have ht : took ⟨s, .channelTryReadMessage n rh b k dg handles, s', .tryRead r⟩ c = [] := by
      rcases hr with rfl | ⟨e, rfl⟩ <;> rfl
    rw [ht]
    exact QueueMoves.of_kept (hres.frame.queue_kept c)
  · exact QueueMoves.of_kept (hres.frame.queue_kept c)
  · have ht : took ⟨s, .channelTryReadMessage n rh b k dg handles, s₃.dropHalves [half],
        .tryRead (.ok (some (.success ⟨m.data, handles⟩)))⟩ c =
        if half.channel = c then [m.data] else [] := by
      simp [took, readOf, hi, hl]
    rw [ht]
    exact pop_queueMoves hch hm h₃ c

theorem channelCreate_queueMoves {n : NodeId} {l : Label} {dg : Downgrading} {wh rh : Handle}
    {r : Except OakStatus (Handle × Handle)} (hs : s.WellFormed)
    (h : s.channelCreate n l dg wh rh = some (s', r)) (c : ChannelId) :
    QueueMoves [] [] (s.queue c) (s'.queue c) := by
  rcases channelCreate_cases h with ⟨rfl, -⟩ | ⟨info, s₃, -, -, -, -, h₃, h₄, -⟩
  · exact QueueMoves.of_kept (Kept.refl _)
  · have hf : Frame (s.addChannel l) s' :=
      (((frame_halfNew _ _).trans (frame_halfNew _ _)).trans (frame_newAbiHandle h₃)).trans
        (frame_newAbiHandle h₄)
    have hk := hf.queue_kept c
    rw [queue_addChannel] at hk
    by_cases hc : c = s.nextChannelId
    · rw [if_pos hc] at hk
      have hnone : s.queue c = none := queue_eq_none.2 (hc ▸ hs.fresh.nextChannelId_notMem)
      rw [hnone, queueMoves_none_left]
      rcases hk with hk | hk
      · exact ⟨.inl hk, rfl, rfl⟩
      · exact ⟨.inr hk, rfl, rfl⟩
    · rw [if_neg hc] at hk
      exact QueueMoves.of_kept hk

theorem nodeRegister_queue_kept {n : NodeId} {l : Label} {ih : Handle} {dg : Downgrading}
    {p : NodePrivilege} {iso : NodeIsolation} {nh : Handle} {r : Except OakStatus Unit}
    (h : s.nodeRegister n l ih dg p iso nh = some (s', r)) (c : ChannelId) :
    Kept (s.queue c) (s'.queue c) := by
  rcases nodeRegister_cases h with ⟨rfl, -⟩ | ⟨info, -, hres, -⟩ | ⟨info, reader, -, -, -, -, -, -, h₃, -⟩
  · exact Kept.refl _
  · exact hres.frame.queue_kept c
  · -- the new Node changes no channel
    have hadd : ((s.halfNew reader).addNode l p).queue c = (s.halfNew reader).queue c := by
      simp [queue]
    have hk := (frame_newAbiHandle h₃).queue_kept c
    rw [hadd] at hk
    exact ((frame_halfNew s reader).queue_kept c).trans hk

theorem removeNodeId_queue_kept {n : NodeId} {order : List Handle} (hs : s.WellFormed)
    (h : s.removeNodeId n order = some s') (c : ChannelId) : Kept (s.queue c) (s'.queue c) := by
  obtain ⟨info, s₁, hi, -, h₁, rfl⟩ := removeNodeId_cases h
  obtain ⟨-, hf, -⟩ := closeHandles_spec hs.counted hi h₁
  exact hf.queue_kept c

theorem waitLoop_queue_kept (t : Runtime) (n : NodeId) (info : NodeInfo) (w : ParkedWait) (c : ChannelId) :
    Kept (t.queue c) ((t.waitLoop n info w).1.queue c) := by
  rcases waitLoop_cases t n info w with ⟨r, he⟩ | he <;> rw [he]
  · exact (frame_dropHalves _ _).queue_kept c
  · exact Kept.refl _

theorem waitOnChannels_queue_kept {n : NodeId} {hs₀ : List Handle} {dg : Downgrading}
    {r : Option (Except OakStatus (List ChannelReadStatus))} (hs : s.WellFormed)
    (h : s.waitOnChannels n hs₀ dg = some (s', r)) (c : ChannelId) : Kept (s.queue c) (s'.queue c) := by
  obtain ⟨info, hi, he⟩ := waitOnChannels_spec h
  obtain ⟨-, hf⟩ := collectReaders_spec hs.counted hi 0 hs₀
  have hk := waitLoop_queue_kept (collectReaders s info 0 hs₀).1 n info ⟨hs₀, (collectReaders s info 0 hs₀).2, dg⟩ c
  rw [he] at hk
  exact (hf.queue_kept c).trans hk

theorem unpark_queue_kept {n : NodeId} {r : Option (Except OakStatus (List ChannelReadStatus))}
    (h : s.unpark n = some (s', r)) (c : ChannelId) : Kept (s.queue c) (s'.queue c) := by
  obtain ⟨w, info, -, -, he⟩ := unpark_spec h
  have hk := waitLoop_queue_kept { s with parked := s.parked.erase n } n info w c
  rw [he] at hk
  exact hk

theorem handleClone_queue_kept {n : NodeId} {h₀ h₁ : Handle} {r : Except OakStatus Handle}
    (h : s.handleClone n h₀ h₁ = some (s', r)) (c : ChannelId) : Kept (s.queue c) (s'.queue c) := by
  rcases handleClone_cases h with ⟨rfl, -⟩ | ⟨info, half, -, -, h₂, -⟩
  · exact Kept.refl _
  · exact ((frame_halfNew s half).trans (frame_newAbiHandle h₂)).queue_kept c

theorem queueMoves_step {a : Action} {r : Reply} (hs : s.WellFormed) (h : s.step a = some (s', r))
    (c : ChannelId) :
    QueueMoves (wrote ⟨s, a, s', r⟩ c) (took ⟨s, a, s', r⟩ c) (s.queue c) (s'.queue c) := by
  replace h := (call_of_step h).1
  cases a with
  | stop =>
    simp only [Runtime.call, Option.some.injEq, Prod.mk.injEq] at h
    obtain ⟨rfl, rfl⟩ := h
    exact queueMoves_of_kept rfl rfl (fun _ => Kept.refl _) c
  | removeNodeId n order =>
    simp only [Runtime.call, Option.map_eq_some_iff, Prod.mk.injEq] at h
    obtain ⟨s₁, h₁, rfl, rfl⟩ := h
    exact queueMoves_of_kept rfl rfl (removeNodeId_queue_kept hs h₁) c
  | channelWrite n wh nodeMsg dg =>
    simp only [Runtime.call, Option.map_eq_some_iff, Prod.mk.injEq] at h
    obtain ⟨⟨s₁, r₁⟩, h₁, rfl, rfl⟩ := h
    cases r₁ with
    | error e =>
      obtain ⟨info, -, hres⟩ := channelWrite_error h₁
      exact queueMoves_of_kept rfl rfl hres.frame.queue_kept c
    | ok u =>
      rw [took_of_readOf_none rfl]
      exact channelWrite_queueMoves h₁ c
  | channelRead n rh dg handles =>
    simp only [Runtime.call, Option.map_eq_some_iff, Prod.mk.injEq] at h
    obtain ⟨⟨s₁, r₁⟩, h₁, rfl, rfl⟩ := h
    rw [wrote_of_writeOf_none rfl]
    exact channelRead_queueMoves h₁ c
  | channelTryReadMessage n rh b k dg handles =>
    simp only [Runtime.call, Option.map_eq_some_iff, Prod.mk.injEq] at h
    obtain ⟨⟨s₁, r₁⟩, h₁, rfl, rfl⟩ := h
    rw [wrote_of_writeOf_none rfl]
    exact channelTryReadMessage_queueMoves h₁ c
  | channelCreate n l dg wh rh =>
    simp only [Runtime.call, Option.map_eq_some_iff, Prod.mk.injEq] at h
    obtain ⟨⟨s₁, r₁⟩, h₁, rfl, rfl⟩ := h
    rw [wrote_of_writeOf_none rfl, took_of_readOf_none rfl]
    exact channelCreate_queueMoves hs h₁ c
  | handleClone n h₀ h₁ =>
    simp only [Runtime.call, Option.map_eq_some_iff, Prod.mk.injEq] at h
    obtain ⟨⟨s₁, r₁⟩, h₂, rfl, rfl⟩ := h
    exact queueMoves_of_kept rfl rfl (handleClone_queue_kept h₂) c
  | channelClose n handle =>
    simp only [Runtime.call, Option.map_eq_some_iff, Prod.mk.injEq] at h
    obtain ⟨⟨s₁, r₁⟩, h₁, rfl, rfl⟩ := h
    exact queueMoves_of_kept rfl rfl (frame_channelClose h₁).queue_kept c
  | waitOnChannels n hs₀ dg =>
    simp only [Runtime.call, Option.map_eq_some_iff, Prod.mk.injEq] at h
    obtain ⟨⟨s₁, r₁⟩, h₁, rfl, rfl⟩ := h
    exact queueMoves_of_kept rfl rfl (waitOnChannels_queue_kept hs h₁) c
  | unpark n =>
    simp only [Runtime.call, Option.map_eq_some_iff, Prod.mk.injEq] at h
    obtain ⟨⟨s₁, r₁⟩, h₁, rfl, rfl⟩ := h
    exact queueMoves_of_kept rfl rfl (unpark_queue_kept h₁) c
  | nodeRegister n l ih dg p iso nh =>
    simp only [Runtime.call, Option.map_eq_some_iff, Prod.mk.injEq] at h
    obtain ⟨⟨s₁, r₁⟩, h₁, rfl, rfl⟩ := h
    exact queueMoves_of_kept rfl rfl (nodeRegister_queue_kept h₁) c

theorem channelWrite_error_queuesKept {n : NodeId} {wh : Handle} {nodeMsg : NodeMessage}
    {dg : Downgrading} {e : OakStatus} (hs : s.WellFormed)
    (h : s.channelWrite n wh nodeMsg dg = some (s', .error e)) : QueuesKept s s' := by
  obtain ⟨info, hi, hres⟩ := channelWrite_error h
  exact hres.queuesKept hs hi

theorem channelTryReadMessage_needsCapacity {n : NodeId} {rh : Handle} {bc hc : Nat}
    {dg : Downgrading} {handles : List Handle} {b k : Nat} (hs : s.WellFormed)
    (h : s.channelTryReadMessage n rh bc hc dg handles = some (s', .ok (some (.needsCapacity b k)))) :
    QueuesKept s s' ∧ ∃ info half ch front rest, s.nodeInfos.lookup n = some info ∧
      info.abiHandles.lookup rh = some half ∧ s.channels.lookup half.channel = some ch ∧
      ch.messages = front :: rest ∧ (front.data.length > bc ∨ front.channels.length > hc) ∧
      b = front.data.length ∧ k = front.channels.length := by
  rcases channelTryReadMessage_cases h with ⟨-, -, -, hr | ⟨e, hr⟩⟩ |
      ⟨info, half, ch, front, rest, hi, hl, -, hch, hm, hcap, hres, hr⟩ |
      ⟨_, _, _, _, _, _, -, -, -, -, -, -, -, -, hr⟩
  · cases hr
  · cases hr
  · -- the clone of the read half changed the counts, not the queue
    obtain ⟨ch₀, hch₀, hm₀, -⟩ := (frame_halfNew s half).channels _ ch hch
    simp only [Except.ok.injEq, Option.some.injEq, NodeReadStatus.needsCapacity.injEq] at hr
    exact ⟨hres.queuesKept hs hi, info, half, ch₀, front, rest, hi, hl, hch₀, hm₀ ▸ hm, hcap, hr⟩
  · cases hr

end Step

/-! ### Whole runs -/

/-- The history of a run agrees with every queue, and nothing was written to
an id not yet handed out to a channel. -/
structure Fifo (tr : List Event) (s : Runtime) : Prop where
  accounted : ∀ c, Accounted (written tr c) (taken tr c) (s.queue c)
  unborn : ∀ c, s.nextChannelId ≤ c → written tr c = []

theorem fifo_create : Fifo [] create where
  accounted _ := List.prefix_rfl
  unborn _ _ := rfl

theorem Grows.le_of_born {s s' : Runtime} (hg : Grows s s') {c : ChannelId} (h₀ : s.queue c = none)
    (h₁ : s'.queue c ≠ none) : s.nextChannelId ≤ c := by
  by_contra hlt
  obtain ⟨ch', hc'⟩ := Finmap.mem_iff.1 (not_not.1 (mt queue_eq_none.2 h₁))
  obtain ⟨ch, hch, -⟩ := hg.channel c ch' hc' (not_le.1 hlt)
  exact queue_eq_none.1 h₀ (Finmap.mem_of_lookup_eq_some hch)

theorem Fifo.step {tr : List Event} {s s' : Runtime} {a : Action} {r : Reply} (hf : Fifo tr s)
    (hs : s.WellFormed) (h : s.step a = some (s', r)) : Fifo (tr ++ [⟨s, a, s', r⟩]) s' := by
  have hg := (hs.step h).2
  have hm := queueMoves_step hs h
  refine ⟨fun c => ?_, fun c hc => ?_⟩
  · rw [written_append, taken_append]
    exact (hf.accounted c).moves (hm c) fun h₀ h₁ => hf.unborn c (hg.le_of_born h₀ h₁)
  · -- an id past the counter names no channel, so nothing was pushed on it
    have hc₀ : s.nextChannelId ≤ c := hg.nextChannelId_le.trans hc
    have hnone : s.queue c = none :=
      queue_eq_none.2 fun hmem => absurd (hs.fresh.channel_lt c hmem) (not_lt.2 hc₀)
    have hw := (queueMoves_none_left.1 (hnone ▸ hm c)).2.1
    rw [written_append, hf.unborn c hc₀, hw, List.append_nil]

theorem Fifo.of_run {tr : List Event} {s : Runtime} (h : Run Runtime.step create tr s) : Fifo tr s :=
  h.history_invariant Fifo fifo_create fun _ _ _ _ _ hr hf hst => hf.step (WellFormed.of_run hr) hst

/-- First-in first-out channels over a run that reached `s`. -/
structure FifoSafe (tr : List Event) (s : Runtime) : Prop where
  taken_prefix : ∀ c, taken tr c <+: written tr c
  queued : ∀ c ch, s.channels.lookup c = some ch →
    taken tr c ++ ch.messages.map Message.data = written tr c
  failed_write : ∀ e ∈ tr, ∀ n wh nodeMsg dg err, e.act = .channelWrite n wh nodeMsg dg →
    e.reply = .status (.error err) → QueuesKept e.pre e.post
  needs_capacity : ∀ e ∈ tr, ∀ n rh bc hc dg handles b k,
    e.act = .channelTryReadMessage n rh bc hc dg handles →
    e.reply = .tryRead (.ok (some (.needsCapacity b k))) →
    QueuesKept e.pre e.post ∧ ∃ info half ch front rest, e.pre.nodeInfos.lookup n = some info ∧
      info.abiHandles.lookup rh = some half ∧ e.pre.channels.lookup half.channel = some ch ∧
      ch.messages = front :: rest ∧ (front.data.length > bc ∨ front.channels.length > hc) ∧
      b = front.data.length ∧ k = front.channels.length

/-- In every run of the `Runtime`, whatever Nodes did and in whatever order,
each channel delivers what was written to it in order, without loss or
duplication; failed writes and capacity answers leave the queues alone. -/
theorem channel_fifo {tr : List Event} {s : Runtime} (h : Run Runtime.step create tr s) :
    FifoSafe tr s where
  taken_prefix c := Accounted.prefix ((Fifo.of_run h).accounted c)
  queued c ch hc := by
    have ha := (Fifo.of_run h).accounted c
    rw [queue_of_lookup hc] at ha
    exact ha
  failed_write e he n wh nodeMsg dg err ha hr := by
    obtain ⟨⟨tr', hr'⟩, hst⟩ := h.entry e he
    rw [ha, hr] at hst
    replace hst := (call_of_step hst).1
    simp only [Runtime.call, Option.map_eq_some_iff, Prod.mk.injEq] at hst
    obtain ⟨⟨s₁, r₁⟩, h₁, rfl, hr₁⟩ := hst
    cases hr₁
    exact channelWrite_error_queuesKept (WellFormed.of_run hr') h₁
  needs_capacity e he n rh bc hc dg handles b k ha hr := by
    obtain ⟨⟨tr', hr'⟩, hst⟩ := h.entry e he
    rw [ha, hr] at hst
    replace hst := (call_of_step hst).1
    simp only [Runtime.call, Option.map_eq_some_iff, Prod.mk.injEq] at hst
    obtain ⟨⟨s₁, r₁⟩, h₁, rfl, hr₁⟩ := hst
    cases hr₁
    exact channelTryReadMessage_needsCapacity (WellFormed.of_run hr') h₁

/-- `handoff`, then Node 1 writes through its read handle, which fails, and Node 0
tries to read the waiting message with room for none of it. -/
def handoffRetry : List Action :=
  handoff ++ [.channelWrite 1 5 ⟨[8], []⟩ .no, .channelTryReadMessage 0 2 0 0 .no [9]]

/-- Channel 0 of `handoffRetry` takes two messages and delivers the first; the
last two calls are a failed write and a try-read answered `NeedsCapacity`. -/
theorem channel_fifo_handoff :
    ∃ tr s, Run Runtime.step create tr s ∧ written tr 0 = [[], [7]] ∧ taken tr 0 = [[]] ∧
      (tr.map Entry.reply).drop 7 = [.status (.error .errBadHandle), .tryRead (.ok (some (.needsCapacity 1 0)))] ∧
      FifoSafe tr s := by
  obtain ⟨⟨tr, s⟩, he⟩ := Option.isSome_iff_exists.1
    (by decide +kernel : (runFrom Runtime.step create handoffRetry).isSome)
  have hw : (runFrom Runtime.step create handoffRetry).map (fun p => written p.1 0) = some [[], [7]] := by
    decide +kernel
  have ht : (runFrom Runtime.step create handoffRetry).map (fun p => taken p.1 0) = some [[]] := by
    decide +kernel
  have hr : (runFrom Runtime.step create handoffRetry).map (fun p => (p.1.map Entry.reply).drop 7) =
      some [.status (.error .errBadHandle), .tryRead (.ok (some (.needsCapacity 1 0)))] := by
    decide +kernel
  rw [he, Option.map_some, Option.some.injEq] at hw ht hr
  have hrun := Run.of_runFrom_init he
  exact ⟨tr, s, hrun, hw, ht, hr, channel_fifo hrun⟩

end Runtime

end Oak
