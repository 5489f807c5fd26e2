import Oak.Runtime.Ops
import Oak.Runtime.Halves

/-! The parts of the operations that only translate handles: cloning the halves
a Node's handles name, putting halves in a table and taking them out, and
dropping clones again. Each gets an inversion lemma saying exactly what it did,
and lemmas saying that it keeps the reference counts (`Counted`) and that it
leaves Nodes, counters and the queues and labels of channels alone (`Frame`). -/

namespace Oak

open Oak.Lib

namespace Runtime

/-- Halves cloned one after another, as the `map` of `message_from` does. -/
def halvesNew (s : Runtime) (hs : List ChannelHalf) : Runtime := hs.foldl halfNew s

@[simp] theorem halvesNew_nil (s : Runtime) : s.halvesNew [] = s := rfl

@[simp] theorem halvesNew_cons (s : Runtime) (h : ChannelHalf) (hs : List ChannelHalf) :
    s.halvesNew (h :: hs) = (s.halfNew h).halvesNew hs := rfl

theorem mem_halvesNew_channels {s : Runtime} {hs : List ChannelHalf} {c : ChannelId} :
    c ∈ (s.halvesNew hs).channels ↔ c ∈ s.channels := by
  induction hs generalizing s with
  | nil => rfl
  | cons h hs ih => rw [halvesNew_cons, ih, mem_halfNew_channels]

@[simp] theorem halvesNew_nodeInfos (s : Runtime) (hs : List ChannelHalf) :
    (s.halvesNew hs).nodeInfos = s.nodeInfos := by
  induction hs generalizing s with
  | nil => rfl
  | cons h hs ih => rw [halvesNew_cons, ih, halfNew_nodeInfos]

theorem Counted.halvesNew {s : Runtime} {P : Multiset ChannelHalf} {hs : List ChannelHalf}
    (h : s.Counted P) (hl : ∀ x ∈ hs, x.channel ∈ s.channels) :
    (s.halvesNew hs).Counted (↑hs + P) := by
  induction hs generalizing s P with
  | nil => simpa using h
  | cons x hs ih =>
    have h₁ := h.halfNew (hl x List.mem_cons_self)
    have hl₁ : ∀ y ∈ hs, y.channel ∈ (s.halfNew x).channels := fun y hy =>
      mem_halfNew_channels.2 (hl y (List.mem_cons_of_mem _ hy))
    rw [halvesNew_cons, ← Multiset.cons_coe, Multiset.cons_add, ← Multiset.add_cons]
    exact ih h₁ hl₁

theorem NodeInfo.mem_tableHalves {i : NodeInfo} {handle : Handle} {half : ChannelHalf}
    (hh : i.abiHandles.lookup handle = some half) : half ∈ i.tableHalves := by
  rw [NodeInfo.tableHalves_erase hh]
  exact Multiset.mem_cons_self _ _

theorem tableHalves_le_halves {s : Runtime} {n : NodeId} {i : NodeInfo}
    (hn : s.nodeInfos.lookup n = some i) : i.tableHalves ≤ s.halves := by
  rw [halves, sumVals_erase hn, add_assoc]
  exact Multiset.le_add_right _ _

theorem Counted.live_of_table {s : Runtime} {P : Multiset ChannelHalf} (h : s.Counted P)
    {n : NodeId} {i : NodeInfo} (hn : s.nodeInfos.lookup n = some i) {x : ChannelHalf}
    (hx : x ∈ i.tableHalves) : x.channel ∈ s.channels :=
  h.live x (Multiset.mem_add.2 (Or.inl (Multiset.mem_of_le (tableHalves_le_halves hn) hx)))

/-! ### What the bookkeeping leaves alone -/

/-- Two states agree on what handle translation never changes: the counters,
the Nodes' labels and privileges, and the queues and labels of the channels
still live, none of which is new. -/
structure Frame (s s' : Runtime) : Prop where
  terminating : s'.terminating = s.terminating
  nextChannelId : s'.nextChannelId = s.nextChannelId
  nextNodeId : s'.nextNodeId = s.nextNodeId
  parked : s'.parked = s.parked
  nodes : ∀ n i', s'.nodeInfos.lookup n = some i' →
    ∃ i, s.nodeInfos.lookup n = some i ∧ i'.label = i.label ∧ i'.privilege = i.privilege
  channels : ∀ c ch', s'.channels.lookup c = some ch' →
    ∃ ch, s.channels.lookup c = some ch ∧ ch'.messages = ch.messages ∧ ch'.label = ch.label

theorem Frame.refl (s : Runtime) : Frame s s where
  terminating := rfl
  nextChannelId := rfl
  nextNodeId := rfl
  parked := rfl
  nodes _ i h := ⟨i, h, rfl, rfl⟩
  channels _ ch h := ⟨ch, h, rfl, rfl⟩

theorem Frame.trans {s₁ s₂ s₃ : Runtime} (h₁ : Frame s₁ s₂) (h₂ : Frame s₂ s₃) : Frame s₁ s₃ where
  terminating := h₂.terminating.trans h₁.terminating
  nextChannelId := h₂.nextChannelId.trans h₁.nextChannelId
  nextNodeId := h₂.nextNodeId.trans h₁.nextNodeId
  parked := h₂.parked.trans h₁.parked
  nodes n i₃ h := by
    obtain ⟨i₂, h₂', hl₂, hp₂⟩ := h₂.nodes n i₃ h
    obtain ⟨i₁, h₁', hl₁, hp₁⟩ := h₁.nodes n i₂ h₂'
    exact ⟨i₁, h₁', hl₂.trans hl₁, hp₂.trans hp₁⟩
  channels c ch₃ h := by
    obtain ⟨ch₂, h₂', hm₂, hl₂⟩ := h₂.channels c ch₃ h
    obtain ⟨ch₁, h₁', hm₁, hl₁⟩ := h₁.channels c ch₂ h₂'
    exact ⟨ch₁, h₁', hm₂.trans hm₁, hl₂.trans hl₁⟩

theorem Frame.of_channels {s s' : Runtime} (ht : s'.terminating = s.terminating)
    (hc : s'.nextChannelId = s.nextChannelId) (hn : s'.nextNodeId = s.nextNodeId)
    (hp : s'.parked = s.parked) (hi : s'.nodeInfos = s.nodeInfos)
    (hch : ∀ c ch', s'.channels.lookup c = some ch' →
      ∃ ch, s.channels.lookup c = some ch ∧ ch'.messages = ch.messages ∧ ch'.label = ch.label) :
    Frame s s' where
  terminating := ht
  nextChannelId := hc
  nextNodeId := hn
  parked := hp
  nodes _ i h := ⟨i, hi ▸ h, rfl, rfl⟩
  channels := hch

theorem frame_halfNew (s : Runtime) (h : ChannelHalf) : Frame s (s.halfNew h) := by
  refine Frame.of_channels (by simp) (by simp) (by simp) (by simp) (by simp) fun c ch' hc => ?_
  rw [lookup_halfNew, Option.map_eq_some_iff] at hc
  obtain ⟨ch, hch, rfl⟩ := hc
  refine ⟨ch, hch, ?_, ?_⟩ <;> split <;> simp

theorem frame_halvesNew (s : Runtime) (hs : List ChannelHalf) : Frame s (s.halvesNew hs) := by
  induction hs generalizing s with
  | nil => exact Frame.refl s
  | cons h hs ih => exact (frame_halfNew s h).trans (ih _)

theorem frame_dropHalves (s : Runtime) (hs : List ChannelHalf) : Frame s (s.dropHalves hs) :=
  Frame.of_channels (by simp) (by simp) (by simp) (by simp) (by simp) fun _ _ hc => lookup_dropHalves hc

theorem frame_setTable {s : Runtime} {n : NodeId} {i : NodeInfo} (hn : s.nodeInfos.lookup n = some i)
    (t : Finmap (fun _ : Handle => ChannelHalf)) :
    Frame s { s with nodeInfos := s.nodeInfos.insert n { i with abiHandles := t } } where
  terminating := rfl
  nextChannelId := rfl
  nextNodeId := rfl
  parked := rfl
  nodes m i' h := by
    by_cases hm : m = n
    · subst hm
      simp only [Finmap.lookup_insert, Option.some.injEq] at h
      exact ⟨i, hn, by rw [← h], by rw [← h]⟩
    · rw [Finmap.lookup_insert_of_ne _ hm] at h
      exact ⟨i', h, rfl, rfl⟩
  channels c ch h := ⟨ch, h, rfl, rfl⟩

/-! ### Handles into halves -/

theorem abiToHalf_ok {s s' : Runtime} {info : NodeInfo} {handle : Handle} {half : ChannelHalf}
    (h : abiToHalf s info handle = (s', .ok half)) :
    info.abiHandles.lookup handle = some half ∧ s' = s.halfNew half := by
  unfold abiToHalf at h
  split at h
  · next half' hl =>
    simp only [Prod.mk.injEq, Except.ok.injEq] at h
    obtain ⟨rfl, rfl⟩ := h
    exact ⟨hl, rfl⟩
  · cases h

theorem abiToHalf_error {s s' : Runtime} {info : NodeInfo} {handle : Handle} {e : OakStatus}
    (h : abiToHalf s info handle = (s', .error e)) :
    info.abiHandles.lookup handle = none ∧ s' = s ∧ e = .errBadHandle := by
  unfold abiToHalf at h
  split at h
  · cases h
  · next hl =>
    simp only [Prod.mk.injEq, Except.error.injEq] at h
    exact ⟨hl, h.1.symm, h.2.symm⟩

theorem abiToReadHalf_ok {s s' : Runtime} {info : NodeInfo} {handle : Handle} {half : ChannelHalf}
    (h : abiToReadHalf s info handle = (s', .ok half)) :
    info.abiHandles.lookup handle = some half ∧ half.direction = .read ∧ s' = s.halfNew half := by
  unfold abiToReadHalf at h
  split at h
  · next s₁ half₁ h₁ =>
    obtain ⟨hl, rfl⟩ := abiToHalf_ok h₁
    split at h
    · next hd =>
      simp only [Prod.mk.injEq, Except.ok.injEq] at h
      obtain ⟨rfl, rfl⟩ := h
      exact ⟨hl, hd, rfl⟩
    · cases h
  · cases h

theorem abiToReadHalf_error {s s' : Runtime} {info : NodeInfo} {handle : Handle} {e : OakStatus}
    (h : abiToReadHalf s info handle = (s', .error e)) :
    e = .errBadHandle ∧ (s' = s ∨ ∃ half, info.abiHandles.lookup handle = some half ∧
      half.direction = .write ∧ s' = (s.halfNew half).dropHalves [half]) := by
  unfold abiToReadHalf at h
  split at h
  · next s₁ half₁ h₁ =>
    obtain ⟨hl, rfl⟩ := abiToHalf_ok h₁
    split at h
    · cases h
    · next hd =>
      simp only [Prod.mk.injEq, Except.error.injEq] at h
      obtain ⟨rfl, rfl⟩ := h
      exact ⟨rfl, .inr ⟨half₁, hl, hd, rfl⟩⟩
  · next s₁ e₁ h₁ =>
    obtain ⟨-, rfl, rfl⟩ := abiToHalf_error h₁
    simp only [Prod.mk.injEq, Except.error.injEq] at h
    obtain ⟨rfl, rfl⟩ := h
    exact ⟨rfl, .inl rfl⟩

theorem abiToWriteHalf_ok {s s' : Runtime} {info : NodeInfo} {handle : Handle} {half : ChannelHalf}
    (h : abiToWriteHalf s info handle = (s', .ok half)) :
    info.abiHandles.lookup handle = some half ∧ half.direction = .write ∧ s' = s.halfNew half := by
  unfold abiToWriteHalf at h
  split at h
  · next s₁ half₁ h₁ =>
    obtain ⟨hl, rfl⟩ := abiToHalf_ok h₁
    split at h
    · cases h
    · next hd =>
      simp only [Prod.mk.injEq, Except.ok.injEq] at h
      obtain ⟨rfl, rfl⟩ := h
      exact ⟨hl, hd, rfl⟩
  · cases h

theorem abiToWriteHalf_error {s s' : Runtime} {info : NodeInfo} {handle : Handle} {e : OakStatus}
    (h : abiToWriteHalf s info handle = (s', .error e)) :
    e = .errBadHandle ∧ (s' = s ∨ ∃ half, info.abiHandles.lookup handle = some half ∧
      half.direction = .read ∧ s' = (s.halfNew half).dropHalves [half]) := by
  unfold abiToWriteHalf at h
  split at h
  · next s₁ half₁ h₁ =>
    obtain ⟨hl, rfl⟩ := abiToHalf_ok h₁
    split at h
    · next hd =>
      simp only [Prod.mk.injEq, Except.error.injEq] at h
      obtain ⟨rfl, rfl⟩ := h
      exact ⟨rfl, .inr ⟨half₁, hl, hd, rfl⟩⟩
    · cases h
  · next s₁ e₁ h₁ =>
    obtain ⟨-, rfl, rfl⟩ := abiToHalf_error h₁
    simp only [Prod.mk.injEq, Except.error.injEq] at h
    obtain ⟨rfl, rfl⟩ := h
    exact ⟨rfl, .inl rfl⟩

theorem abiToHalves_spec (s : Runtime) (info : NodeInfo) (acc : List ChannelHalf) (hs : List Handle) :
    ∃ new : List ChannelHalf, (∀ x ∈ new, x ∈ info.tableHalves) ∧
      (abiToHalves s info acc hs = ((s.halvesNew new), .ok (acc ++ new)) ∨
        (abiToHalves s info acc hs = ((s.halvesNew new).dropHalves (acc ++ new), .error .errBadHandle))) := by
  induction hs generalizing s acc with
  | nil => exact ⟨[], by simp, .inl (by simp [abiToHalves])⟩
  | cons handle hs ih =>
    rw [abiToHalves]
    match h : abiToHalf s info handle with
    | (s', .ok half) =>
      obtain ⟨hl, rfl⟩ := abiToHalf_ok h
      obtain ⟨new, hnew, hr⟩ := ih (s.halfNew half) (acc ++ [half])
      refine ⟨half :: new, ?_, ?_⟩
      · intro x hx
        rcases List.mem_cons.1 hx with rfl | hx
        · exact NodeInfo.mem_tableHalves hl
        · exact hnew x hx
      · simpa using hr
    | (s', .error e) =>
      obtain ⟨-, rfl, rfl⟩ := abiToHalf_error h
      exact ⟨[], by simp, .inr (by simp)⟩

theorem messageFrom_spec (s : Runtime) (info : NodeInfo) (nodeMsg : NodeMessage) :
    ∃ new : List ChannelHalf, (∀ x ∈ new, x ∈ info.tableHalves) ∧
      (messageFrom s info nodeMsg = (s.halvesNew new, .ok ⟨nodeMsg.bytes, new⟩) ∨
        messageFrom s info nodeMsg = ((s.halvesNew new).dropHalves new, .error .errBadHandle)) := by
  obtain ⟨new, hnew, hr⟩ := abiToHalves_spec s info [] nodeMsg.handles
  refine ⟨new, hnew, ?_⟩
  unfold messageFrom
  rcases hr with hr | hr <;> rw [hr] <;> simp

/-! ### Halves into handles -/

theorem newAbiHandle_spec {s s' : Runtime} {n : NodeId} {half : ChannelHalf} {handle : Handle}
    (h : s.newAbiHandle n half handle = some s') :
    ∃ i, s.nodeInfos.lookup n = some i ∧ handle ∉ i.abiHandles ∧
      s' = { s with nodeInfos :=
        s.nodeInfos.insert n ({ i with abiHandles := i.abiHandles.insert handle half }) } := by
  unfold newAbiHandle at h
  split at h
  · next i hi =>
    split at h
    · cases h
    · next hm => exact ⟨i, hi, hm, (Option.some.inj h).symm⟩
  · cases h

@[simp] theorem newAbiHandle_channels {s s' : Runtime} {n : NodeId} {half : ChannelHalf}
    {handle : Handle} (h : s.newAbiHandle n half handle = some s') : s'.channels = s.channels := by
  obtain ⟨i, -, -, rfl⟩ := newAbiHandle_spec h
  rfl

theorem newAbiHandle_halves {s s' : Runtime} {n : NodeId} {half : ChannelHalf} {handle : Handle}
    (h : s.newAbiHandle n half handle = some s') : s'.halves = half ::ₘ s.halves := by
  obtain ⟨i, hi, hm, rfl⟩ := newAbiHandle_spec h
  have key := halves_insert_node hi ({ i with abiHandles := i.abiHandles.insert handle half })
  rw [NodeInfo.tableHalves_insert hm] at key
  apply add_right_cancel (b := i.tableHalves)
  rw [key, Multiset.add_cons, Multiset.cons_add]

theorem Counted.newAbiHandle {s s' : Runtime} {P : Multiset ChannelHalf} {n : NodeId}
    {half : ChannelHalf} {handle : Handle} (hs : s.Counted (half ::ₘ P))
    (h : s.newAbiHandle n half handle = some s') : s'.Counted P := by
  refine hs.of_halves_eq (newAbiHandle_channels h) ?_
  rw [newAbiHandle_halves h, Multiset.add_cons, Multiset.cons_add]

theorem frame_newAbiHandle {s s' : Runtime} {n : NodeId} {half : ChannelHalf} {handle : Handle}
    (h : s.newAbiHandle n half handle = some s') : Frame s s' := by
  obtain ⟨i, hi, -, rfl⟩ := newAbiHandle_spec h
  exact frame_setTable hi _

theorem Counted.newAbiHandles {s s' : Runtime} {P : Multiset ChannelHalf} {n : NodeId}
    {hs : List ChannelHalf} {handles : List Handle} (h : s.Counted (↑hs + P))
    (hn : s.newAbiHandles n hs handles = some s') : s'.Counted (↑hs + P) := by
  induction hs generalizing s handles P with
  | nil =>
    cases handles with
    | nil => rw [Runtime.newAbiHandles, Option.some.injEq] at hn; exact hn ▸ h
    | cons _ _ => cases hn
  | cons x hs ih =>
    cases handles with
    | nil => cases hn
    | cons handle handles =>
      rw [Runtime.newAbiHandles] at hn
      split at hn
      · next s₁ h₁ =>
        have hx : x.channel ∈ s.channels := h.live x (by simp)
        have h₂ := (h.halfNew hx).newAbiHandle h₁
        rw [← Multiset.cons_coe, Multiset.cons_add, ← Multiset.add_cons] at h₂ ⊢
        exact ih h₂ hn
      · cases hn

theorem frame_newAbiHandles {s s' : Runtime} {n : NodeId} {hs : List ChannelHalf}
    {handles : List Handle} (hn : s.newAbiHandles n hs handles = some s') : Frame s s' := by
  induction hs generalizing s handles with
  | nil =>
    cases handles with
    | nil => rw [Runtime.newAbiHandles, Option.some.injEq] at hn; exact hn ▸ Frame.refl s
    | cons _ _ => cases hn
  | cons x hs ih =>
    cases handles with
    | nil => cases hn
    | cons handle handles =>
      rw [Runtime.newAbiHandles] at hn
      split at hn
      · next s₁ h₁ => exact ((frame_halfNew s x).trans (frame_newAbiHandle h₁)).trans (ih hn)
      · cases hn

theorem nodeMessageFrom_spec {s s' : Runtime} {n : NodeId} {msg : Message} {handles : List Handle}
    {nodeMsg : NodeMessage} (h : s.nodeMessageFrom n msg handles = some (s', nodeMsg)) :
    ∃ s₁, s.newAbiHandles n msg.channels handles = some s₁ ∧ s' = s₁.dropHalves msg.channels ∧
      nodeMsg = ⟨msg.data, handles⟩ := by
  unfold nodeMessageFrom at h
  split at h
  · next s₁ h₁ =>
    simp only [Option.some.injEq, Prod.mk.injEq] at h
    exact ⟨s₁, h₁, h.1.symm, h.2.symm⟩
  · cases h

theorem Counted.nodeMessageFrom {s s' : Runtime} {P : Multiset ChannelHalf} {n : NodeId}
    {msg : Message} {handles : List Handle} {nodeMsg : NodeMessage} (hs : s.Counted (↑msg.channels + P))
    (h : s.nodeMessageFrom n msg handles = some (s', nodeMsg)) : s'.Counted P := by
  obtain ⟨s₁, h₁, rfl, -⟩ := nodeMessageFrom_spec h
  exact (hs.newAbiHandles h₁).dropHalves

theorem frame_nodeMessageFrom {s s' : Runtime} {n : NodeId} {msg : Message} {handles : List Handle}
    {nodeMsg : NodeMessage} (h : s.nodeMessageFrom n msg handles = some (s', nodeMsg)) : Frame s s' := by
  obtain ⟨s₁, h₁, rfl, -⟩ := nodeMessageFrom_spec h
  exact (frame_newAbiHandles h₁).trans (frame_dropHalves _ _)

/-! ### Clones made and dropped again -/

/-- `s'` is what is left of `s` once clones of halves of the table `i` were made
and then all dropped again, in any order: what an operation that fails after
translating handles leaves. -/
def Restored (i : NodeInfo) (s s' : Runtime) : Prop :=
  ∃ cl dl : List ChannelHalf, (∀ x ∈ cl, x ∈ i.tableHalves) ∧
    (dl : Multiset ChannelHalf) = cl ∧ s' = (s.halvesNew cl).dropHalves dl

theorem Restored.refl (i : NodeInfo) (s : Runtime) : Restored i s s :=
  ⟨[], [], by simp, rfl, by simp⟩

theorem restored_halfNew_drop {i : NodeInfo} {half : ChannelHalf} (hm : half ∈ i.tableHalves)
    (s : Runtime) : Restored i s ((s.halfNew half).dropHalves [half]) :=
  ⟨[half], [half], by simpa using hm, rfl, rfl⟩

theorem Restored.nodeInfos_eq {i : NodeInfo} {s s' : Runtime} (hr : Restored i s s') :
    s'.nodeInfos = s.nodeInfos := by
  obtain ⟨cl, dl, -, -, rfl⟩ := hr
  simp

theorem Restored.counted {i : NodeInfo} {s s' : Runtime} {P : Multiset ChannelHalf} {n : NodeId}
    (hr : Restored i s s') (hs : s.Counted P) (hi : s.nodeInfos.lookup n = some i) : s'.Counted P := by
  obtain ⟨cl, dl, hcl, hdl, rfl⟩ := hr
  have h := hs.halvesNew fun x hx => hs.live_of_table hi (hcl x hx)
  rw [← hdl] at h
  exact h.dropHalves

theorem Restored.frame {i : NodeInfo} {s s' : Runtime} (hr : Restored i s s') : Frame s s' := by
  obtain ⟨cl, dl, -, -, rfl⟩ := hr
  exact (frame_halvesNew s cl).trans (frame_dropHalves _ _)

theorem Restored.mem_channels {i : NodeInfo} {s s' : Runtime} {P : Multiset ChannelHalf} {n : NodeId}
    (hr : Restored i s s') (hs : s.Counted P) (hi : s.nodeInfos.lookup n = some i) {c : ChannelId}
    (hc : c ∈ s.channels) : c ∈ s'.channels := by
  obtain ⟨cl, dl, hcl, hdl, rfl⟩ := hr
  have h := hs.halvesNew fun x hx => hs.live_of_table hi (hcl x hx)
  rw [← hdl] at h
  have hheld : ∀ x ∈ dl, x ∈ (s.halvesNew cl).halves := by
    intro x hx
    have hx' : x ∈ cl := by rw [← Multiset.mem_coe, ← hdl]; exact hx
    have hn : (s.halvesNew cl).nodeInfos.lookup n = some i := by rw [halvesNew_nodeInfos]; exact hi
    exact Multiset.mem_of_le (tableHalves_le_halves hn) (hcl x hx')
  exact h.mem_dropHalves hheld (mem_halvesNew_channels.2 hc)

end Runtime

end Oak
