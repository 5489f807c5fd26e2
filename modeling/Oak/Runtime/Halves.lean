import Oak.Runtime.State

/-! The channel halves a `Runtime` holds, and the reference-count invariant.
A half is held by a Node's handle table or by a message queued on a live
channel; clones made in the middle of an operation are held by the operation
itself, and are passed around here as a `pending` multiset. `Counted s pending`
says that every live channel's reader and writer counts are the numbers of its
read and write halves held or pending, and that no held or pending half refers
to a freed channel. The lemmas below show how `ChannelHalf::new`,
`ChannelHalf::drop` (with the freeing of channels it triggers) and the table
and queue updates move halves between held and pending. -/

namespace Oak

open Oak.Lib

/-- The halves in a handle table. -/
def NodeInfo.tableHalves (i : NodeInfo) : Multiset ChannelHalf :=
  sumVals (fun h => ({h} : Multiset ChannelHalf)) i.abiHandles

namespace Runtime

/-- Every half held by a table or by a queued message of a live channel. -/
def halves (s : Runtime) : Multiset ChannelHalf :=
  sumVals NodeInfo.tableHalves s.nodeInfos +
    sumVals (fun ch : Channel => (ch.queuedHalves : Multiset ChannelHalf)) s.channels

/-- The reference counts of live channels count the held and pending halves. -/
structure Counted (s : Runtime) (pending : Multiset ChannelHalf) : Prop where
  count_eq : ∀ c ch d, s.channels.lookup c = some ch →
    ch.count d = (s.halves + pending).count ⟨c, d⟩
  live : ∀ h ∈ s.halves + pending, h.channel ∈ s.channels

theorem halves_of_channels_eq {s s' : Runtime} (hn : s'.nodeInfos = s.nodeInfos)
    (hc : sumVals (fun ch : Channel => (ch.queuedHalves : Multiset ChannelHalf)) s'.channels =
      sumVals (fun ch : Channel => (ch.queuedHalves : Multiset ChannelHalf)) s.channels) :
    s'.halves = s.halves := by
  rw [halves, halves, hn, hc]

theorem queued_insert_same {s : Runtime} {c : ChannelId} {ch ch' : Channel}
    (h : s.channels.lookup c = some ch) (hq : ch'.queuedHalves = ch.queuedHalves) :
    sumVals (fun ch : Channel => (ch.queuedHalves : Multiset ChannelHalf)) (s.channels.insert c ch') =
      sumVals (fun ch : Channel => (ch.queuedHalves : Multiset ChannelHalf)) s.channels := by
  have := sumVals_insert_add (f := fun ch : Channel => (ch.queuedHalves : Multiset ChannelHalf)) h ch'
  rw [hq] at this
  exact add_right_cancel this

theorem halves_insert_channel_same {s : Runtime} {c : ChannelId} {ch ch' : Channel}
    (h : s.channels.lookup c = some ch) (hq : ch'.queuedHalves = ch.queuedHalves) :
    ({ s with channels := s.channels.insert c ch' } : Runtime).halves = s.halves :=
  halves_of_channels_eq rfl (queued_insert_same h hq)

theorem halves_erase_channel {s : Runtime} {c : ChannelId} {ch : Channel}
    (h : s.channels.lookup c = some ch) :
    ({ s with channels := s.channels.erase c } : Runtime).halves + ch.queuedHalves = s.halves := by
  simp only [halves]
  rw [sumVals_erase (f := fun ch : Channel => (ch.queuedHalves : Multiset ChannelHalf)) h]
  abel

/-! ### `ChannelHalf::new` -/

theorem halfNew_of_lookup {s : Runtime} {h : ChannelHalf} {ch : Channel}
    (hc : s.channels.lookup h.channel = some ch) :
    s.halfNew h = { s with channels := s.channels.insert h.channel (ch.incCount h.direction) } := by
  simp [halfNew, hc]

@[simp] theorem halfNew_nodeInfos (s : Runtime) (h : ChannelHalf) :
    (s.halfNew h).nodeInfos = s.nodeInfos := by
  unfold halfNew; split <;> rfl

@[simp] theorem halfNew_terminating (s : Runtime) (h : ChannelHalf) :
    (s.halfNew h).terminating = s.terminating := by
  unfold halfNew; split <;> rfl

@[simp] theorem halfNew_nextChannelId (s : Runtime) (h : ChannelHalf) :
    (s.halfNew h).nextChannelId = s.nextChannelId := by
  unfold halfNew; split <;> rfl

@[simp] theorem halfNew_nextNodeId (s : Runtime) (h : ChannelHalf) :
    (s.halfNew h).nextNodeId = s.nextNodeId := by
  unfold halfNew; split <;> rfl

@[simp] theorem halfNew_parked (s : Runtime) (h : ChannelHalf) : (s.halfNew h).parked = s.parked := by
  unfold halfNew; split <;> rfl

theorem halfNew_halves (s : Runtime) (h : ChannelHalf) : (s.halfNew h).halves = s.halves := by
  unfold halfNew
  split
  · next ch hc => exact halves_insert_channel_same hc (Channel.queuedHalves_incCount ch _)
  · rfl

theorem mem_halfNew_channels {s : Runtime} {h : ChannelHalf} {c : ChannelId} :
    c ∈ (s.halfNew h).channels ↔ c ∈ s.channels := by
  unfold halfNew
  split
  · next ch hc =>
    simp only [Finmap.mem_insert]
    constructor
    · rintro (rfl | hm)
      · exact Finmap.mem_of_lookup_eq_some hc
      · exact hm
    · exact Or.inr
  · rfl

theorem lookup_halfNew {s : Runtime} {h : ChannelHalf} {c : ChannelId} :
    (s.halfNew h).channels.lookup c =
      (s.channels.lookup c).map fun ch => if c = h.channel then ch.incCount h.direction else ch := by
  unfold halfNew
  split
  · next ch hc =>
    by_cases hch : c = h.channel
    · subst hch; simp [hc]
    · simp [Finmap.lookup_insert_of_ne _ hch, hch]
  · next hc =>
    by_cases hch : c = h.channel
    · subst hch; simp [hc]
    · cases s.channels.lookup c <;> simp [hch]

theorem Counted.halfNew {s : Runtime} {P : Multiset ChannelHalf} {h : ChannelHalf}
    (hs : s.Counted P) (hl : h.channel ∈ s.channels) : (s.halfNew h).Counted (h ::ₘ P) := by
  obtain ⟨ch, hc⟩ := Finmap.mem_iff.1 hl
  constructor
  · intro c ch' d hc'
    rw [lookup_halfNew] at hc'
    rw [halfNew_halves, Multiset.add_cons, Multiset.count_cons]
    simp only [Option.map_eq_some_iff] at hc'
    obtain ⟨ch₀, h₀, rfl⟩ := hc'
    have hcount := hs.count_eq c ch₀ d h₀
    by_cases hch : c = h.channel
    · subst hch
      by_cases hd : d = h.direction
      · subst hd; simp [hcount]
      · have hne : (⟨h.channel, d⟩ : ChannelHalf) ≠ h := fun e => hd (congrArg ChannelHalf.direction e)
        simp [Channel.count_incCount_ne _ hd, hcount, hne]
    · have hne : (⟨c, d⟩ : ChannelHalf) ≠ h := fun e => hch (congrArg ChannelHalf.channel e)
      simp [hch, hcount, hne]
  · intro x hx
    rw [halfNew_halves, Multiset.add_cons, Multiset.mem_cons] at hx
    rw [mem_halfNew_channels]
    rcases hx with rfl | hx
    · exact hl
    · exact hs.live x hx


/-! ### `ChannelHalf::drop` -/

@[simp] theorem dropHalves_nil (s : Runtime) : s.dropHalves [] = s := by
  rw [dropHalves]

theorem dropHalves_cons_none {s : Runtime} {h : ChannelHalf} (rest : List ChannelHalf)
    (hc : s.channels.lookup h.channel = none) : s.dropHalves (h :: rest) = s.dropHalves rest := by
  rw [dropHalves]
  split
  · rfl
  · simp_all

theorem dropHalves_cons_free {s : Runtime} {h : ChannelHalf} {ch : Channel} (rest : List ChannelHalf)
    (hc : s.channels.lookup h.channel = some ch)
    (hz : (ch.decCount h.direction).readerCount = 0 ∧ (ch.decCount h.direction).writerCount = 0) :
    s.dropHalves (h :: rest) =
      ({ s with channels := s.channels.erase h.channel } : Runtime).dropHalves
        (ch.queuedHalves ++ rest) := by
  rw [dropHalves]
  split
  · simp_all
  · next ch' hc' =>
    rw [hc] at hc'
    cases hc'
    rw [if_pos hz]

theorem dropHalves_cons_keep {s : Runtime} {h : ChannelHalf} {ch : Channel} (rest : List ChannelHalf)
    (hc : s.channels.lookup h.channel = some ch)
    (hz : ¬((ch.decCount h.direction).readerCount = 0 ∧ (ch.decCount h.direction).writerCount = 0)) :
    s.dropHalves (h :: rest) =
      ({ s with channels := s.channels.insert h.channel (ch.decCount h.direction) } : Runtime).dropHalves
        rest := by
  rw [dropHalves]
  split
  · simp_all
  · next ch' hc' =>
    rw [hc] at hc'
    cases hc'
    rw [if_neg hz]

theorem dropHalves_frame (s : Runtime) (hs : List ChannelHalf) :
    (s.dropHalves hs).nodeInfos = s.nodeInfos ∧ (s.dropHalves hs).terminating = s.terminating ∧
      (s.dropHalves hs).nextChannelId = s.nextChannelId ∧
      (s.dropHalves hs).nextNodeId = s.nextNodeId ∧ (s.dropHalves hs).parked = s.parked := by
  induction s, hs using dropHalves.induct with
  | case1 s => simp
  | case2 s h rest hc ih => rw [dropHalves_cons_none rest hc]; exact ih
  | case3 s h rest ch hc hz ih => rw [dropHalves_cons_free rest hc hz]; exact ih
  | case4 s h rest ch hc hz ih => rw [dropHalves_cons_keep rest hc hz]; exact ih

@[simp] theorem dropHalves_nodeInfos (s : Runtime) (hs : List ChannelHalf) :
    (s.dropHalves hs).nodeInfos = s.nodeInfos := (dropHalves_frame s hs).1

@[simp] theorem dropHalves_terminating (s : Runtime) (hs : List ChannelHalf) :
    (s.dropHalves hs).terminating = s.terminating := (dropHalves_frame s hs).2.1

@[simp] theorem dropHalves_nextChannelId (s : Runtime) (hs : List ChannelHalf) :
    (s.dropHalves hs).nextChannelId = s.nextChannelId := (dropHalves_frame s hs).2.2.1

@[simp] theorem dropHalves_nextNodeId (s : Runtime) (hs : List ChannelHalf) :
    (s.dropHalves hs).nextNodeId = s.nextNodeId := (dropHalves_frame s hs).2.2.2.1

@[simp] theorem dropHalves_parked (s : Runtime) (hs : List ChannelHalf) :
    (s.dropHalves hs).parked = s.parked := (dropHalves_frame s hs).2.2.2.2

theorem lookup_dropHalves {s : Runtime} {hs : List ChannelHalf} {c : ChannelId} {ch' : Channel}
    (h : (s.dropHalves hs).channels.lookup c = some ch') :
    ∃ ch, s.channels.lookup c = some ch ∧ ch'.messages = ch.messages ∧ ch'.label = ch.label := by
  induction s, hs using dropHalves.induct with
  | case1 s => exact ⟨ch', by simpa using h, rfl, rfl⟩
  | case2 s x rest hc ih => rw [dropHalves_cons_none rest hc] at h; exact ih h
  | case3 s x rest ch hc hz ih =>
    rw [dropHalves_cons_free rest hc hz] at h
    obtain ⟨ch₁, h₁, hm, hl⟩ := ih h
    have hne : c ≠ x.channel := by
      rintro rfl
      simp at h₁
    exact ⟨ch₁, by simpa [Finmap.lookup_erase_ne hne] using h₁, hm, hl⟩
  | case4 s x rest ch hc hz ih =>
    rw [dropHalves_cons_keep rest hc hz] at h
    obtain ⟨ch₁, h₁, hm, hl⟩ := ih h
    by_cases hcx : c = x.channel
    · subst hcx
      simp only [Finmap.lookup_insert, Option.some.injEq] at h₁
      subst h₁
      exact ⟨ch, hc, by simpa using hm, by simpa using hl⟩
    · exact ⟨ch₁, by simpa [Finmap.lookup_insert_of_ne _ hcx] using h₁, hm, hl⟩

theorem Counted.lookup_of_mem {s : Runtime} {P : Multiset ChannelHalf} (hs : s.Counted P)
    {x : ChannelHalf} (hm : x ∈ s.halves + P) : ∃ ch, s.channels.lookup x.channel = some ch :=
  Finmap.mem_iff.1 (hs.live x hm)

theorem Counted.dropFree {s : Runtime} {P : Multiset ChannelHalf} {x : ChannelHalf} {ch : Channel}
    (h : s.Counted (x ::ₘ P)) (hc : s.channels.lookup x.channel = some ch)
    (hz : (ch.decCount x.direction).readerCount = 0 ∧ (ch.decCount x.direction).writerCount = 0) :
    ({ s with channels := s.channels.erase x.channel } : Runtime).Counted (↑ch.queuedHalves + P) := by
  -- the halves of the freed channel move from its queue to the pending list
  have hsplit : s.halves + x ::ₘ P =
      x ::ₘ (({ s with channels := s.channels.erase x.channel } : Runtime).halves +
        (↑ch.queuedHalves + P)) := by
    rw [← halves_erase_channel hc, Multiset.add_cons, add_assoc]
  have hcount : ∀ d, ch.count d = Multiset.count ⟨x.channel, d⟩ (x ::ₘ
      (({ s with channels := s.channels.erase x.channel } : Runtime).halves +
        (↑ch.queuedHalves + P))) := fun d => hsplit ▸ h.count_eq x.channel ch d hc
  constructor
  · intro c ch₁ d hc₁
    have hne : c ≠ x.channel := by rintro rfl; simp at hc₁
    rw [Finmap.lookup_erase_ne hne] at hc₁
    have := hsplit ▸ h.count_eq c ch₁ d hc₁
    have hx : (⟨c, d⟩ : ChannelHalf) ≠ x := fun e => hne (congrArg ChannelHalf.channel e)
    rwa [Multiset.count_cons_of_ne hx] at this
  · intro y hy
    rw [Finmap.mem_erase]
    refine ⟨fun hyc => ?_, h.live y (hsplit ▸ Multiset.mem_cons_of_mem hy)⟩
    -- a half of the freed channel would still be counted
    have hpos := Multiset.count_pos.2 hy
    have hcy := hcount y.direction
    have hy' : (⟨x.channel, y.direction⟩ : ChannelHalf) = y := by rw [← hyc]
    rw [hy'] at hcy
    have h2 := Channel.count_eq_zero_of_counts hz y.direction
    by_cases hd : y.direction = x.direction
    · have hyx : y = x := by rw [← hy', hd]
      subst hyx
      have h1 := Channel.count_decCount_self ch y.direction
      rw [Multiset.count_cons_self] at hcy
      omega
    · have h1 := Channel.count_decCount_ne ch hd
      have hxy : y ≠ x := fun e => hd (congrArg ChannelHalf.direction e)
      rw [Multiset.count_cons_of_ne hxy] at hcy
      omega

theorem Counted.dropKeep {s : Runtime} {P : Multiset ChannelHalf} {x : ChannelHalf} {ch : Channel}
    (h : s.Counted (x ::ₘ P)) (hc : s.channels.lookup x.channel = some ch) :
    ({ s with channels := s.channels.insert x.channel (ch.decCount x.direction) } : Runtime).Counted P := by
  have hhalves := halves_insert_channel_same (s := s) hc (Channel.queuedHalves_decCount ch x.direction)
  have hsplit : s.halves + x ::ₘ P = x ::ₘ (s.halves + P) := Multiset.add_cons _ _ _
  constructor
  · intro c ch₁ d hc₁
    rw [hhalves]
    by_cases hcx : c = x.channel
    · subst hcx
      rw [Finmap.lookup_insert, Option.some.injEq] at hc₁
      subst hc₁
      have := h.count_eq x.channel ch d hc
      rw [hsplit] at this
      by_cases hd : d = x.direction
      · subst hd
        have hx : (⟨x.channel, x.direction⟩ : ChannelHalf) = x := rfl
        rw [hx, Multiset.count_cons_self] at this
        rw [Channel.count_decCount_self, this, hx, Nat.add_sub_cancel]
      · have hx : (⟨x.channel, d⟩ : ChannelHalf) ≠ x := fun e => hd (congrArg ChannelHalf.direction e)
        rw [Multiset.count_cons_of_ne hx] at this
        rw [Channel.count_decCount_ne _ hd, this]
    · rw [Finmap.lookup_insert_of_ne _ hcx] at hc₁
      have := h.count_eq c ch₁ d hc₁
      have hx : (⟨c, d⟩ : ChannelHalf) ≠ x := fun e => hcx (congrArg ChannelHalf.channel e)
      rwa [hsplit, Multiset.count_cons_of_ne hx] at this
  · intro y hy
    rw [hhalves] at hy
    have := h.live y (by rw [hsplit]; exact Multiset.mem_cons_of_mem hy)
    exact Finmap.mem_insert.2 (Or.inr this)

theorem Counted.dropHalves {s : Runtime} {P : Multiset ChannelHalf} {hs : List ChannelHalf}
    (h : s.Counted (↑hs + P)) : (s.dropHalves hs).Counted P := by
  induction s, hs using Runtime.dropHalves.induct with
  | case1 s => simpa using h
  | case2 s x rest hc ih =>
    obtain ⟨ch, hch⟩ := h.lookup_of_mem (x := x) (by simp)
    rw [hc] at hch
    cases hch
  | case3 s x rest ch hc hz ih =>
    rw [dropHalves_cons_free rest hc hz]
    apply ih
    have h' : s.Counted (x ::ₘ (↑rest + P)) := by rwa [← Multiset.cons_add, Multiset.cons_coe]
    have := h'.dropFree hc hz
    rwa [← add_assoc, Multiset.coe_add] at this
  | case4 s x rest ch hc hz ih =>
    rw [dropHalves_cons_keep rest hc hz]
    apply ih
    have h' : s.Counted (x ::ₘ (↑rest + P)) := by rwa [← Multiset.cons_add, Multiset.cons_coe]
    exact h'.dropKeep hc

theorem Counted.dropHalves_single {s : Runtime} {P : Multiset ChannelHalf} {x : ChannelHalf}
    (h : s.Counted (x ::ₘ P)) : (s.dropHalves [x]).Counted P :=
  Counted.dropHalves (by simpa using h)

theorem dropHalves_append (s : Runtime) (hs hs' : List ChannelHalf) :
    s.dropHalves (hs ++ hs') = (s.dropHalves hs).dropHalves hs' := by
  induction s, hs using Runtime.dropHalves.induct with
  | case1 s => simp
  | case2 s x rest hc ih => rw [List.cons_append, dropHalves_cons_none _ hc, dropHalves_cons_none _ hc, ih]
  | case3 s x rest ch hc hz ih =>
    rw [List.cons_append, dropHalves_cons_free _ hc hz, dropHalves_cons_free _ hc hz, ← List.append_assoc, ih]
  | case4 s x rest ch hc hz ih =>
    rw [List.cons_append, dropHalves_cons_keep _ hc hz, dropHalves_cons_keep _ hc hz, ih]

theorem Counted.mem_dropHalves {s : Runtime} {P : Multiset ChannelHalf} {hs : List ChannelHalf}
    (h : s.Counted (↑hs + P)) (hheld : ∀ x ∈ hs, x ∈ s.halves) {c : ChannelId} (hc : c ∈ s.channels) :
    c ∈ (s.dropHalves hs).channels := by
  induction s, hs using Runtime.dropHalves.induct with
  | case1 s => simpa using hc
  | case2 s x rest hx ih =>
    obtain ⟨ch, hch⟩ := h.lookup_of_mem (x := x) (by simp)
    rw [hx] at hch
    cases hch
  | case3 s x rest ch hx hz ih =>
    exfalso
    have h' : s.Counted (x ::ₘ (↑rest + P)) := by rwa [← Multiset.cons_add, Multiset.cons_coe]
    -- `x` is held and pending, so its end counts at least two
    have hcount := h'.count_eq x.channel ch x.direction hx
    have htwo : 2 ≤ Multiset.count x (s.halves + x ::ₘ (↑rest + P)) := by
      rw [Multiset.add_cons, Multiset.count_cons_self]
      have := Multiset.count_pos.2 (Multiset.mem_add.2 (Or.inl (hheld x List.mem_cons_self)) :
        x ∈ s.halves + (↑rest + P))
      omega
    have h0 := Channel.count_eq_zero_of_counts hz x.direction
    rw [Channel.count_decCount_self] at h0
    have hx' : (⟨x.channel, x.direction⟩ : ChannelHalf) = x := rfl
    rw [hx'] at hcount
    omega
  | case4 s x rest ch hx hz ih =>
    rw [dropHalves_cons_keep rest hx hz]
    have h' : s.Counted (x ::ₘ (↑rest + P)) := by rwa [← Multiset.cons_add, Multiset.cons_coe]
    have hhalves := halves_insert_channel_same (s := s) hx (Channel.queuedHalves_decCount ch x.direction)
    exact ih (h'.dropKeep hx) (fun y hy => hhalves ▸ hheld y (List.mem_cons_of_mem _ hy))
      (Finmap.mem_insert.2 (Or.inr hc))

/-! ### Moving halves between held and pending -/

theorem Counted.of_halves_eq {s s' : Runtime} {P P' : Multiset ChannelHalf} (h : s.Counted P)
    (hc : s'.channels = s.channels) (hh : s'.halves + P' = s.halves + P) : s'.Counted P' where
  count_eq c ch d hl := by
    rw [hh]
    exact h.count_eq c ch d (hc ▸ hl)
  live x hx := by
    rw [hc]
    exact h.live x (hh ▸ hx)

theorem Counted.congr {s s' : Runtime} {P : Multiset ChannelHalf} (h : s.Counted P)
    (hc : s'.channels = s.channels) (hn : s'.nodeInfos = s.nodeInfos) : s'.Counted P :=
  h.of_halves_eq hc (by rw [halves, halves, hc, hn])

theorem NodeInfo.tableHalves_insert {i : NodeInfo} {handle : Handle} (hn : handle ∉ i.abiHandles)
    (half : ChannelHalf) :
    ({ i with abiHandles := i.abiHandles.insert handle half } : NodeInfo).tableHalves =
      half ::ₘ i.tableHalves := by
  simp [NodeInfo.tableHalves, sumVals_insert_of_notMem hn]

theorem NodeInfo.tableHalves_erase {i : NodeInfo} {handle : Handle} {half : ChannelHalf}
    (hl : i.abiHandles.lookup handle = some half) :
    i.tableHalves = half ::ₘ ({ i with abiHandles := i.abiHandles.erase handle } : NodeInfo).tableHalves := by
  simp [NodeInfo.tableHalves, sumVals_erase hl]

@[simp] theorem NodeInfo.tableHalves_empty (l : Label) (p : NodePrivilege) :
    (⟨l, p, ∅⟩ : NodeInfo).tableHalves = 0 := rfl

theorem halves_insert_node {s : Runtime} {n : NodeId} {i : NodeInfo} (hl : s.nodeInfos.lookup n = some i)
    (i' : NodeInfo) :
    ({ s with nodeInfos := s.nodeInfos.insert n i' } : Runtime).halves + i.tableHalves =
      s.halves + i'.tableHalves := by
  have hsum := sumVals_insert_add (f := NodeInfo.tableHalves) hl i'
  simp only [halves]
  calc _ = (sumVals NodeInfo.tableHalves (s.nodeInfos.insert n i') + i.tableHalves) +
          sumVals (fun ch : Channel => (ch.queuedHalves : Multiset ChannelHalf)) s.channels := by abel
    _ = _ := by rw [hsum]; abel

theorem halves_erase_node {s : Runtime} {n : NodeId} {i : NodeInfo} (hl : s.nodeInfos.lookup n = some i) :
    ({ s with nodeInfos := s.nodeInfos.erase n } : Runtime).halves + i.tableHalves = s.halves := by
  simp only [halves]
  rw [sumVals_erase (f := NodeInfo.tableHalves) hl]
  abel

/-- The state with the live channel `c` replaced by `ch`: a queue push or pop. -/
def setChannel (s : Runtime) (c : ChannelId) (ch : Channel) : Runtime :=
  { s with channels := s.channels.insert c ch }

theorem setChannel_halves {s : Runtime} {c : ChannelId} {ch : Channel}
    (hl : s.channels.lookup c = some ch) (ch' : Channel) :
    (s.setChannel c ch').halves + ch.queuedHalves = s.halves + ch'.queuedHalves := by
  have hsum := sumVals_insert_add (f := fun ch : Channel => (ch.queuedHalves : Multiset ChannelHalf)) hl ch'
  simp only [halves, setChannel]
  rw [add_assoc, hsum, add_assoc]

theorem halves_insert_fresh_channel {s : Runtime} {c : ChannelId} (hc : c ∉ s.channels) (l : Label) :
    ({ s with channels := s.channels.insert c ⟨[], 0, 0, l⟩ } : Runtime).halves = s.halves := by
  simp [halves, sumVals_insert_of_notMem hc, Channel.queuedHalves]

theorem Counted.insert_channel {s : Runtime} {P P' : Multiset ChannelHalf} {c : ChannelId}
    {ch ch' : Channel} (h : s.Counted P) (hl : s.channels.lookup c = some ch)
    (hcount : ∀ d, ch'.count d = ch.count d)
    (hh : (s.setChannel c ch').halves + P' = s.halves + P) :
    (s.setChannel c ch').Counted P' where
  count_eq c₁ ch₁ d hl₁ := by
    rw [hh]
    by_cases hc : c₁ = c
    · subst hc
      simp only [setChannel, Finmap.lookup_insert, Option.some.injEq] at hl₁
      subst hl₁
      rw [hcount]
      exact h.count_eq c₁ ch d hl
    · rw [setChannel, Finmap.lookup_insert_of_ne _ hc] at hl₁
      exact h.count_eq c₁ ch₁ d hl₁
  live x hx := Finmap.mem_insert.2 (Or.inr (h.live x (hh ▸ hx)))

theorem Counted.insert_fresh_channel {s : Runtime} {P : Multiset ChannelHalf} {c : ChannelId}
    (h : s.Counted P) (hc : c ∉ s.channels) (l : Label) :
    ({ s with channels := s.channels.insert c ⟨[], 0, 0, l⟩ } : Runtime).Counted P where
  count_eq c₁ ch₁ d hl₁ := by
    rw [halves_insert_fresh_channel hc]
    by_cases hc₁ : c₁ = c
    · subst hc₁
      simp only [Finmap.lookup_insert, Option.some.injEq] at hl₁
      subst hl₁
      -- no held or pending half names a channel that is not live
      have hz : Multiset.count ⟨c₁, d⟩ (s.halves + P) = 0 :=
        Multiset.count_eq_zero.2 fun hm => hc (h.live _ hm)
      rw [hz]
      cases d <;> rfl
    · rw [Finmap.lookup_insert_of_ne _ hc₁] at hl₁
      exact h.count_eq c₁ ch₁ d hl₁
  live x hx := by
    rw [halves_insert_fresh_channel hc] at hx
    exact Finmap.mem_insert.2 (Or.inr (h.live x hx))

end Runtime

end Oak
