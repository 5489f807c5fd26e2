import Mathlib.Data.List.Zip
import Oak.Lib.Collect
import Oak.Wasm.Abi

/-! The executor of oak_async (experimental/oak_async/src/executor.rs). A
future that waits for a channel registers as a reader, under an id, with the
handle it reads, and removes itself when it is dropped. Once the pool stalls,
`block_on` collects the waiting readers into one reader per handle, asks
`wait_on_channels` about those handles, and wakes each collected reader whose
status is not `NotReady`.

The `HashMap`s are association lists, their order of entries the order the
maps are iterated in: every statement below holds for every such order. A
reader's waker is not modelled; a round returns the ids it woke. -/

namespace Oak.Async

open Oak.Lib

/-- `ReaderId`. -/
abbrev ReaderId := UInt64

/-- `Executor`: the next reader id, and the handle each waiting reader reads. -/
structure Executor where
  nextReaderId : ReaderId
  waitingReaders : AList (fun _ : ReaderId => Handle)

/-- `Executor::default()`. -/
def Executor.default : Executor := ⟨0, ∅⟩

/-- `Executor::add_waiting_reader`. -/
def Executor.addWaitingReader (e : Executor) (readerId : ReaderId) (handle : Handle) : Executor :=
  { e with waitingReaders := e.waitingReaders.insert readerId handle }

/-- `Executor::remove_waiting_reader`: a reader not waiting is only logged. -/
def Executor.removeWaitingReader (e : Executor) (readerId : ReaderId) : Executor :=
  { e with waitingReaders := e.waitingReaders.erase readerId }

/-- `Executor::new_id`, with `wrapping_add`. -/
def Executor.newId (e : Executor) : ReaderId × Executor :=
  (e.nextReaderId, { e with nextReaderId := e.nextReaderId + 1 })

/-- `Executor::none_waiting`. -/
def Executor.noneWaiting (e : Executor) : Bool := e.waitingReaders.entries.isEmpty

/-- `Executor::pending_handles`: the waiting readers collected into a map from
handles to reader ids, then unzipped. -/
def Executor.pendingHandles (e : Executor) : List Handle × List ReaderId :=
  ((collect (e.waitingReaders.entries.map fun r => (r.2, r.1))).entries.map fun p => (p.1, p.2)).unzip

/-- `Executor::wake_reader`: `none` where the reader is not waiting and the
call panics. -/
def Executor.wakeReader (e : Executor) (readerId : ReaderId) : Option Executor :=
  if readerId ∈ e.waitingReaders then some { e with waitingReaders := e.waitingReaders.erase readerId }
  else none

/-- The loop of `block_on` over the statuses zipped with the reader ids: the
executor after it and the readers woken, in order; `none` where a
`wake_reader` panics. -/
def Executor.wakeReaders (e : Executor) : List (ChannelReadStatus × ReaderId) → Option (Executor × List ReaderId)
  | [] => some (e, [])
  | (status, readerId) :: rest =>
    match status with
    | .notReady => e.wakeReaders rest
    | _ =>
      match e.wakeReader readerId with
      | none => none
      | some e' => (e'.wakeReaders rest).map fun r => (r.1, readerId :: r.2)

/-- The body of `block_on`'s loop once the pool stalled with readers waiting,
with `waitOnChannels` the answer of `oak::wait_on_channels`. -/
def Executor.blockOnRound (e : Executor)
    (waitOnChannels : List Handle → Except OakStatus (List ChannelReadStatus)) :
    Option (Except OakStatus (Executor × List ReaderId)) :=
  match waitOnChannels e.pendingHandles.1 with
  | .error status => some (.error status)
  | .ok channelStatuses => (e.wakeReaders (channelStatuses.zip e.pendingHandles.2)).map .ok

/-- `oak::wait_on_channels` for the host's answer to the handles: the status
it returned and the notification space it left. -/
def sdkWaitOnChannels (host : List Handle → OakStatus × List UInt8) (handles : List Handle) :
    Except OakStatus (List ChannelReadStatus) :=
  Sdk.waitOnChannelsUtil (host handles).1 (host handles).2 handles.length

/-! ### `pending_handles` -/

/-- What `pending_handles` returns: as many handles as reader ids, no handle
and no reader id twice, each reader id registered on the handle beside it,
and every handle of a waiting reader among them. -/
structure PendingSpec (e : Executor) (handles : List Handle) (readerIds : List ReaderId) : Prop where
  length_eq : handles.length = readerIds.length
  handles_nodup : handles.Nodup
  readerIds_nodup : readerIds.Nodup
  registered : ∀ p ∈ handles.zip readerIds, e.waitingReaders.lookup p.2 = some p.1
  complete : ∀ r h, e.waitingReaders.lookup r = some h → h ∈ handles

section Pending

variable (e : Executor)

/-- The pairs `pending_handles` unzips: the entries of the collected map. -/
def Executor.pendingPairs : List (Handle × ReaderId) :=
  (collect (e.waitingReaders.entries.map fun r => (r.2, r.1))).entries.map fun p => (p.1, p.2)

theorem Executor.pendingHandles_fst : e.pendingHandles.1 = e.pendingPairs.map Prod.fst := List.unzip_fst

theorem Executor.pendingHandles_snd : e.pendingHandles.2 = e.pendingPairs.map Prod.snd := List.unzip_snd

theorem Executor.lookup_of_mem_pendingPairs {p : Handle × ReaderId} (hp : p ∈ e.pendingPairs) :
    e.waitingReaders.lookup p.2 = some p.1 := by
  obtain ⟨x, hx, rfl⟩ := List.mem_map.1 hp
  obtain ⟨r, hr, hrx⟩ := List.mem_map.1 (mem_entries_collect hx)
  obtain ⟨h₁, h₂⟩ := Prod.mk.inj hrx
  rw [← h₁, ← h₂]
  exact AList.mem_lookup_iff.2 hr

theorem Executor.pendingHandles_spec : PendingSpec e e.pendingHandles.1 e.pendingHandles.2 := by
  have hkeys : e.pendingPairs.map Prod.fst = (collect (e.waitingReaders.entries.map fun r => (r.2, r.1))).keys := by
    simp [Executor.pendingPairs, AList.keys, List.keys, List.map_map, Function.comp_def]
  refine ⟨?_, ?_, ?_, ?_, ?_⟩
  · rw [e.pendingHandles_fst, e.pendingHandles_snd, List.length_map, List.length_map]
  · rw [e.pendingHandles_fst, hkeys]
    exact AList.keys_nodup _
  · -- two pairs with one reader id are one waiting reader's
    rw [e.pendingHandles_snd]
    refine List.Nodup.map_on (fun x hx y hy hxy => ?_) ?_
    · have h₁ := e.lookup_of_mem_pendingPairs hx
      rw [hxy, e.lookup_of_mem_pendingPairs hy, Option.some.injEq] at h₁
      exact Prod.ext h₁.symm hxy
    · exact List.Nodup.map (fun x y hxy => Sigma.ext (Prod.mk.inj hxy).1 (heq_of_eq (Prod.mk.inj hxy).2))
        (collect _).nodupKeys.nodup
  · intro p hp
    rw [Executor.pendingHandles, List.zip_unzip] at hp
    exact e.lookup_of_mem_pendingPairs hp
  · intro r h hrh
    rw [e.pendingHandles_fst, hkeys, ← AList.mem_keys, mem_collect]
    exact ⟨r, List.mem_map.2 ⟨⟨r, h⟩, AList.mem_lookup_iff.1 hrh, rfl⟩⟩

end Pending

/-! ### One round of `block_on` -/

/-- The readers a round wakes: those paired with a status other than `NotReady`. -/
def wokenReaders (ps : List (ChannelReadStatus × ReaderId)) : List ReaderId :=
  (ps.filter fun p => p.1 ≠ .notReady).map Prod.snd

theorem mem_wokenReaders {ps : List (ChannelReadStatus × ReaderId)} {r : ReaderId} :
    r ∈ wokenReaders ps ↔ ∃ status, (status, r) ∈ ps ∧ status ≠ .notReady := by
  simp [wokenReaders]

theorem wakeReaders_cons_notReady (e : Executor) (readerId : ReaderId) (rest : List (ChannelReadStatus × ReaderId)) :
    e.wakeReaders ((.notReady, readerId) :: rest) = e.wakeReaders rest := rfl

theorem wakeReaders_cons_of_ne (e : Executor) {status : ChannelReadStatus} (hst : status ≠ .notReady)
    (readerId : ReaderId) (rest : List (ChannelReadStatus × ReaderId)) :
    e.wakeReaders ((status, readerId) :: rest) =
      match e.wakeReader readerId with
      | none => none
      | some e' => (e'.wakeReaders rest).map fun r => (r.1, readerId :: r.2) := by
  cases status <;> first | exact absurd rfl hst | rfl

/-- The loop wakes, once each, the readers paired with a status other than
`NotReady`, and removes them from the waiting set, when the readers are
distinct and all waiting. -/
theorem wakeReaders_eq {e : Executor} {ps : List (ChannelReadStatus × ReaderId)} (hnd : (ps.map Prod.snd).Nodup)
    (hreg : ∀ p ∈ ps, p.2 ∈ e.waitingReaders) :
    ∃ e', e.wakeReaders ps = some (e', wokenReaders ps) ∧
      ∀ r, e'.waitingReaders.lookup r = if r ∈ wokenReaders ps then none else e.waitingReaders.lookup r := by
  induction ps generalizing e with
  | nil => exact ⟨e, rfl, fun r => by simp [wokenReaders]⟩
  | cons p ps ih =>
    obtain ⟨status, r₀⟩ := p
    rw [List.map_cons, List.nodup_cons] at hnd
    by_cases hst : status = .notReady
    · subst hst
      obtain ⟨e', he', hlookup⟩ := ih hnd.2 fun p hp => hreg p (List.mem_cons_of_mem _ hp)
      have hwoken : wokenReaders ((.notReady, r₀) :: ps) = wokenReaders ps := by
        rw [wokenReaders, List.filter_cons_of_neg (by simp), wokenReaders]
      rw [wakeReaders_cons_notReady, hwoken]
      exact ⟨e', he', hlookup⟩
    · -- the reader is waiting, and the rest stay waiting once it is removed
      let e₁ : Executor := { e with waitingReaders := e.waitingReaders.erase r₀ }
      have hwake : e.wakeReader r₀ = some e₁ := if_pos (hreg _ List.mem_cons_self)
      have hreg₁ : ∀ p ∈ ps, p.2 ∈ e₁.waitingReaders := by
        intro p hp
        refine AList.mem_erase.2 ⟨fun h => hnd.1 ?_, hreg p (List.mem_cons_of_mem _ hp)⟩
        show r₀ ∈ _
        rw [← h]
        exact List.mem_map_of_mem hp
      obtain ⟨e', he', hlookup⟩ := ih hnd.2 hreg₁
      have hwoken : wokenReaders ((status, r₀) :: ps) = r₀ :: wokenReaders ps := by
        simp [wokenReaders, hst]
      refine ⟨e', by rw [wakeReaders_cons_of_ne e hst, hwake]; simp [he', hwoken], fun r => ?_⟩
      rw [hlookup r, hwoken]
      by_cases hr : r = r₀
      · subst hr
        simp [e₁, AList.lookup_erase]
      · simp [e₁, hr, AList.lookup_erase_ne hr]

/-- What a round of `block_on` does, as the executor's comments say: each
reader is woken at most once, each woken reader waited on a handle whose
status is not `NotReady`, the woken readers leave the waiting set, and a
reader still waiting reads a handle whose status was `NotReady` or a handle
shared with a reader that was woken. -/
structure RoundSpec (e : Executor) (handles : List Handle) (statuses : List ChannelReadStatus)
    (e' : Executor) (woken : List ReaderId) : Prop where
  woken_nodup : woken.Nodup
  woken_ready : ∀ r ∈ woken, ∃ h status, e.waitingReaders.lookup r = some h ∧
    (h, status) ∈ handles.zip statuses ∧ status ≠ .notReady
  lookup_eq : ∀ r, e'.waitingReaders.lookup r = if r ∈ woken then none else e.waitingReaders.lookup r
  still_waiting : ∀ r h, e'.waitingReaders.lookup r = some h →
    (h, .notReady) ∈ handles.zip statuses ∨ ∃ r' ∈ woken, e.waitingReaders.lookup r' = some h

section Round

variable (e : Executor) {statuses : List ChannelReadStatus}

theorem zip_pendingHandles_snd :
    statuses.zip e.pendingHandles.2 = (statuses.zip e.pendingPairs).map (Prod.map id Prod.snd) := by
  rw [e.pendingHandles_snd, List.zip_map_right]

theorem mem_handles_zip {st : ChannelReadStatus} {p : Handle × ReaderId} (hp : (st, p) ∈ statuses.zip e.pendingPairs) :
    (p.1, st) ∈ e.pendingHandles.1.zip statuses := by
  rw [e.pendingHandles_fst, List.zip_map_left, ← List.zip_swap]
  exact List.mem_map.2 ⟨(p, st), List.mem_map.2 ⟨(st, p), hp, rfl⟩, rfl⟩

theorem wakeReaders_pending (hlen : statuses.length = e.pendingHandles.1.length) :
    ∃ e' woken, e.wakeReaders (statuses.zip e.pendingHandles.2) = some (e', woken) ∧
      RoundSpec e e.pendingHandles.1 statuses e' woken := by
  have hspec := e.pendingHandles_spec
  have hlen' : statuses.length = e.pendingPairs.length := by rw [hlen, e.pendingHandles_fst, List.length_map]
  -- the reader ids zipped with the statuses are the pending ones, each waiting
  have hnd : ((statuses.zip e.pendingHandles.2).map Prod.snd).Nodup := by
    rw [List.map_snd_zip (by rw [hlen, hspec.length_eq])]
    exact hspec.readerIds_nodup
  have hreg : ∀ p ∈ statuses.zip e.pendingHandles.2, p.2 ∈ e.waitingReaders := by
    intro p hp
    rw [zip_pendingHandles_snd] at hp
    obtain ⟨⟨st, q⟩, hq, rfl⟩ := List.mem_map.1 hp
    exact AList.lookup_isSome.1 (by simp [e.lookup_of_mem_pendingPairs (List.of_mem_zip hq).2])
  obtain ⟨e', he', hlookup⟩ := wakeReaders_eq hnd hreg
  refine ⟨e', _, he', ⟨?_, ?_, hlookup, ?_⟩⟩
  · exact hnd.sublist (List.filter_sublist.map _)
  · intro r hr
    obtain ⟨st, hmem, hst⟩ := mem_wokenReaders.1 hr
    rw [zip_pendingHandles_snd] at hmem
    obtain ⟨⟨st', q⟩, hq, hqe⟩ := List.mem_map.1 hmem
    obtain ⟨rfl, rfl⟩ := Prod.mk.inj hqe
    exact ⟨q.1, st', e.lookup_of_mem_pendingPairs (List.of_mem_zip hq).2, mem_handles_zip e hq, hst⟩
  · intro r h hrh
    rw [hlookup r] at hrh
    split at hrh
    · cases hrh
    · -- the handle's collected reader was woken unless its status was `NotReady`
      have hh := hspec.complete r h hrh
      rw [e.pendingHandles_fst] at hh
      obtain ⟨p, hp, rfl⟩ := List.mem_map.1 hh
      obtain ⟨i, hi', rfl⟩ := List.getElem_of_mem hp
      have hi : i < statuses.length := by omega
      have hmem : (statuses[i], e.pendingPairs[i]) ∈ statuses.zip e.pendingPairs :=
        List.mem_iff_getElem.2 ⟨i, by simp [hlen', hi'], by simp⟩
      by_cases hst : statuses[i] = .notReady
      · left
        have := mem_handles_zip e hmem
        rwa [hst] at this
      · right
        refine ⟨e.pendingPairs[i].2, mem_wokenReaders.2 ⟨statuses[i], ?_, hst⟩,
          e.lookup_of_mem_pendingPairs (List.getElem_mem hi')⟩
        rw [zip_pendingHandles_snd]
        exact List.mem_map.2 ⟨_, hmem, rfl⟩

end Round

/-- The bookkeeping of the oak_async executor, for every set of waiting
readers and every answer of the host to `wait_on_channels`: `pending_handles`
returns as many handles as reader ids, no handle and no reader id twice, each
reader id registered on its handle, and every waiting reader's handle; and the
round of `block_on` that follows either returns the error `wait_on_channels`
returned, or, when it returned statuses, wakes each reader at most once and never
panics, leaving each reader still waiting on a handle whose status was `NotReady`
or on a handle shared with a reader that was woken. -/
theorem pending_handles_wake_once (e : Executor) (host : List Handle → OakStatus × List UInt8) :
    PendingSpec e e.pendingHandles.1 e.pendingHandles.2 ∧
      ((∃ status, sdkWaitOnChannels host e.pendingHandles.1 = .error status ∧
          e.blockOnRound (sdkWaitOnChannels host) = some (.error status)) ∨
        ∃ statuses e' woken, sdkWaitOnChannels host e.pendingHandles.1 = .ok statuses ∧
          e.blockOnRound (sdkWaitOnChannels host) = some (.ok (e', woken)) ∧
          RoundSpec e e.pendingHandles.1 statuses e' woken) := by
  refine ⟨e.pendingHandles_spec, ?_⟩
  cases hw : sdkWaitOnChannels host e.pendingHandles.1 with
  | error status => exact .inl ⟨status, rfl, by rw [Executor.blockOnRound, hw]⟩
  | ok statuses =>
    -- the SDK returns one status a handle
    have hlen : statuses.length = e.pendingHandles.1.length := Sdk.length_of_waitOnChannelsUtil hw
    obtain ⟨e', woken, hwake, hround⟩ := wakeReaders_pending e hlen
    exact .inr ⟨statuses, e', woken, rfl, by rw [Executor.blockOnRound, hw]; simp [hwake], hround⟩

end Oak.Async
