import Oak.Lib.Bytes
import Oak.Runtime.Ops

/-! The buffers that cross the Wasm host ABI, as the SDK (the guest) and the
`WasmInterface` (the host) each lay them out. Handles travel as eight
little-endian bytes each: the SDK packs them for `channel_write` and the host
fetches them, the host writes them for `channel_read` and the SDK unpacks them.
For `wait_on_channels` the SDK builds a notification space of nine bytes a
handle, eight for the handle and one for its status: the host decodes the
handles from it and writes each status into the ninth byte of its slot, where
the SDK reads it back.

Guest memory is a flat list of bytes; a pointer is an offset into it. -/

namespace Oak

open Oak.Lib

/-- `oak_abi::SPACE_BYTES_PER_HANDLE`. -/
def spaceBytesPerHandle : ℕ := 9

/-- A read status as the byte the host stores: `*status as u8`. -/
def ChannelReadStatus.toU8 : ChannelReadStatus → UInt8
  | .notReady => 0
  | .readReady => 1
  | .invalidChannel => 2
  | .orphaned => 3
  | .permissionDenied => 4

/-- `ChannelReadStatus::from_i32`. -/
def ChannelReadStatus.fromI32 : ℤ → Option ChannelReadStatus
  | 0 => some .notReady
  | 1 => some .readReady
  | 2 => some .invalidChannel
  | 3 => some .orphaned
  | 4 => some .permissionDenied
  | _ => none

@[simp] theorem ChannelReadStatus.fromI32_toU8 (st : ChannelReadStatus) :
    ChannelReadStatus.fromI32 (st.toU8.toNat : ℤ) = some st := by
  cases st <;> rfl

/-! ### The SDK -/

namespace Sdk

/-- `oak::handle::pack`. -/
def pack (handles : List Handle) : List UInt8 := handles.flatMap writeU64

/-- `oak::handle::unpack`: `handleCount` handles read from a cursor over
`bytes`; `none` where `unwrap` panics, the bytes running out. -/
def unpack (bytes : List UInt8) : ℕ → Option (List Handle)
  | 0 => some []
  | k + 1 => do
    let handle ← readU64 bytes
    let handles ← unpack (bytes.drop 8) k
    pure (handle :: handles)

/-- `new_handle_space`: each handle's bytes, then a zero status byte. -/
def newHandleSpace (handles : List Handle) : List UInt8 :=
  handles.flatMap fun handle => writeU64 handle ++ [0x00]

/-- `result_from_status`. -/
def resultFromStatus (status : OakStatus) : Except OakStatus Unit :=
  match status with
  | .ok => .ok ()
  | status => .error status

/-- What `wait_on_channels_util` reads for slot `i` of the notification space:
its last byte as a status, or `Unspecified` for a byte that is no status. -/
def statusAt (space : List UInt8) (i : ℕ) : Except OakStatus ChannelReadStatus :=
  match (space[i * spaceBytesPerHandle + (spaceBytesPerHandle - 1)]?).bind
      fun b => ChannelReadStatus.fromI32 b.toNat with
  | some status => .ok status
  | none => .error .oakStatusUnspecified

/-- The loop of `wait_on_channels_util` over the `n` slots of the space the
host left, returning at the first byte that is no status. -/
def waitResults (space : List UInt8) (n : ℕ) : Except OakStatus (List ChannelReadStatus) :=
  (List.range n).mapM (statusAt space)

/-- `wait_on_channels_util`, from the status the host returned and the space as
it left it. -/
def waitOnChannelsUtil (status : OakStatus) (space : List UInt8) (n : ℕ) :
    Except OakStatus (List ChannelReadStatus) :=
  match resultFromStatus status with
  | .error e => .error e
  | .ok () => waitResults space n

/-- `prep_handle_space`: the status byte of slot `i` cleared for each `i`
below `space.len() / 8`; `none` where an index leaves the space and the write
panics. -/
def prepHandleSpace (space : List UInt8) : Option (List UInt8) :=
  (List.range (space.length / 8)).foldlM
    (fun space i => setIndex space (i * spaceBytesPerHandle + (spaceBytesPerHandle - 1)) 0) space

end Sdk

/-! ### The host -/

namespace WasmInterface

/-- `fetch_handles`: `handlesCount` handles of eight bytes at `handles`;
`none` where `read_u64` panics on a short chunk. -/
def fetchHandles (mem : List UInt8) (handles handlesCount : ℕ) :
    Option (Except OakStatus (List Handle)) :=
  match memGet mem handles (handlesCount * 8) with
  | none => some (.error .errInvalidArgs)
  | some rawHandles => ((chunks 8 rawHandles).mapM readU64).map .ok

/-- The loop of `channel_read_util` writing handle `i` into bytes `8i` to `8i + 8`. -/
def writeHandleSlots (raw : List UInt8) : ℕ → List Handle → List UInt8
  | _, [] => raw
  | i, handle :: handles => writeHandleSlots (splice raw (i * 8) (writeU64 handle)) (i + 1) handles

/-- The handle bytes `channel_read_util` writes for a message: a zeroed buffer
of eight bytes a handle, with each slot overwritten. -/
def channelReadHandleBytes (handles : List Handle) : List UInt8 :=
  writeHandleSlots (List.replicate (handles.length * 8) 0) 0 handles

/-- The handles of a notification space: `chunks(9).map(read_u64)`. -/
def decodeHandleSpace (handlesRaw : List UInt8) : Option (List Handle) :=
  (chunks 9 handlesRaw).mapM readU64

/-- The status writes of `wait_on_channels_util`: status `i` at byte
`status_buff + 8 + 9i`. -/
def setStatuses (statusBuff : ℕ) : List UInt8 → ℕ → List ChannelReadStatus → Except OakStatus (List UInt8)
  | mem, _, [] => .ok mem
  | mem, i, status :: statuses =>
    match memSet mem (statusBuff + 8 + i * 9) [status.toU8] with
    | none => .error .errInvalidArgs
    | some mem' => setStatuses statusBuff mem' (i + 1) statuses

/-- `wait_on_channels_util`, with `waitOnChannels` the Runtime's answer for the
decoded handles: the guest memory after, or the error status; `none` where
`read_u64` panics. -/
def waitOnChannelsUtil (waitOnChannels : List Handle → Except OakStatus (List ChannelReadStatus))
    (mem : List UInt8) (statusBuff handlesCount : ℕ) : Option (Except OakStatus (List UInt8)) :=
  match memGet mem statusBuff (handlesCount * spaceBytesPerHandle) with
  | none => some (.error .errInvalidArgs)
  | some handlesRaw =>
    match decodeHandleSpace handlesRaw with
    | none => none
    | some handles =>
      match waitOnChannels handles with
      | .error e => some (.error e)
      | .ok statuses => some (setStatuses statusBuff mem 0 statuses)

end WasmInterface

/-! ### Handle buffers -/

theorem length_slot (h : Handle) (b : UInt8) : (writeU64 h ++ [b]).length = 9 := by
  simp

namespace Sdk

@[simp] theorem length_pack (handles : List Handle) : (pack handles).length = handles.length * 8 := by
  rw [pack, length_flatMap_uniform _ length_writeU64]

theorem unpack_pack_append (handles : List Handle) (rest : List UInt8) :
    unpack (pack handles ++ rest) handles.length = some handles := by
  induction handles with
  | nil => rfl
  | cons h hs ih =>
    have hdrop : (pack (h :: hs) ++ rest).drop 8 = pack hs ++ rest := by
      simp [pack]
    have hread : readU64 (pack (h :: hs) ++ rest) = some h := by
      simpa [pack] using readU64_writeU64_append h (pack hs ++ rest)
    simp only [List.length_cons, unpack, hread, hdrop, ih]
    rfl

theorem length_newHandleSpace (handles : List Handle) :
    (newHandleSpace handles).length = spaceBytesPerHandle * handles.length := by
  rw [newHandleSpace, length_flatMap_uniform _ (fun h => length_slot h 0), Nat.mul_comm]
  rfl

theorem waitOnChannelsUtil_ok (space : List UInt8) (n : ℕ) :
    waitOnChannelsUtil .ok space n = waitResults space n := rfl

theorem length_of_waitOnChannelsUtil {status : OakStatus} {space : List UInt8} {n : ℕ}
    {statuses : List ChannelReadStatus} (h : waitOnChannelsUtil status space n = .ok statuses) :
    statuses.length = n := by
  unfold waitOnChannelsUtil at h
  split at h
  · cases h
  · rw [length_of_mapM_eq_ok h, List.length_range]

end Sdk

namespace WasmInterface

theorem writeHandleSlots_eq (handles : List Handle) : ∀ (pre : List UInt8) (i : ℕ), pre.length = i * 8 →
    writeHandleSlots (pre ++ List.replicate (handles.length * 8) 0) i handles = pre ++ Sdk.pack handles := by
  induction handles with
  | nil =>
    intro pre i _
    simp [writeHandleSlots, Sdk.pack]
  | cons h hs ih =>
    intro pre i hi
    have hslot : splice (pre ++ List.replicate ((hs.length + 1) * 8) 0) (i * 8) (writeU64 h) =
        (pre ++ writeU64 h) ++ List.replicate (hs.length * 8) 0 := by
      have hmid := splice_append_middle pre (List.replicate ((hs.length + 1) * 8) (0 : UInt8)) []
        (writeU64 h) (i := 0) (by simp)
      simp only [List.append_nil, Nat.add_zero, hi] at hmid
      rw [hmid, splice]
      simp [Nat.succ_mul, List.drop_replicate]
    rw [List.length_cons, writeHandleSlots, hslot, ih _ (i + 1) (by simp [hi, Nat.succ_mul])]
    simp [Sdk.pack]

theorem channelReadHandleBytes_eq_pack (handles : List Handle) :
    channelReadHandleBytes handles = Sdk.pack handles := by
  rw [channelReadHandleBytes]
  simpa using writeHandleSlots_eq handles [] 0 rfl

theorem fetchHandles_pack (pre post : List UInt8) (handles : List Handle) :
    fetchHandles (pre ++ Sdk.pack handles ++ post) pre.length handles.length = some (.ok handles) := by
  have hget := memGet_append_middle pre (Sdk.pack handles) post
  rw [Sdk.length_pack] at hget
  have hchunks : chunks 8 (Sdk.pack handles) = handles.map writeU64 :=
    chunks_flatMap (n := 8) writeU64 (fun x => length_writeU64 x) handles
  rw [fetchHandles, hget]
  dsimp only
  rw [hchunks, mapM_map_some readU64_writeU64]
  rfl

theorem unpack_channelReadHandleBytes {mem mem' : List UInt8} {p : ℕ} {handles : List Handle}
    (h : memSet mem p (channelReadHandleBytes handles) = some mem') :
    (memGet mem' p (handles.length * 8)).bind (fun buf => Sdk.unpack buf handles.length) =
      some handles := by
  rw [channelReadHandleBytes_eq_pack] at h
  rw [memSet] at h
  split at h
  · next hle =>
    cases h
    -- the buffer is the slot just written, between what was before and after it
    have hp : (mem.take p).length = p := List.length_take_of_le (by omega)
    have hget : memGet (splice mem p (Sdk.pack handles)) p (handles.length * 8) = some (Sdk.pack handles) := by
      have hmid := memGet_append_middle (mem.take p) (Sdk.pack handles)
        (mem.drop (p + (Sdk.pack handles).length))
      rw [hp, Sdk.length_pack] at hmid
      rw [splice, Sdk.length_pack]
      exact hmid
    rw [hget, Option.bind_some, ← List.append_nil (Sdk.pack handles), Sdk.unpack_pack_append]
  · cases h

end WasmInterface

/-! ### The notification space -/

/-- The notification space once the host stored `statuses`, one a handle. -/
def statusSpace (handles : List Handle) (statuses : List ChannelReadStatus) : List UInt8 :=
  (handles.zip statuses).flatMap fun p => writeU64 p.1 ++ [p.2.toU8]

theorem splice_slot (h : Handle) (b₀ b : UInt8) (rest : List UInt8) :
    splice (writeU64 h ++ [b₀] ++ rest) 8 [b] = writeU64 h ++ [b] ++ rest := by
  have htake : (writeU64 h ++ [b₀] ++ rest).take 8 = writeU64 h := by
    rw [List.append_assoc, List.take_append_of_le_length (by simp), List.take_of_length_le (by simp)]
  have hdrop : (writeU64 h ++ [b₀] ++ rest).drop (8 + [b].length) = rest := by
    rw [show 8 + [b].length = (writeU64 h ++ [b₀]).length by simp, List.drop_left]
  rw [splice, htake, hdrop]

namespace WasmInterface

theorem decodeHandleSpace_newHandleSpace (handles : List Handle) :
    decodeHandleSpace (Sdk.newHandleSpace handles) = some handles := by
  rw [decodeHandleSpace, Sdk.newHandleSpace, chunks_flatMap (n := 9) _ (fun h => length_slot h 0)]
  exact mapM_map_some (fun h => readU64_writeU64_append h [0]) handles

theorem setStatuses_eq (statusBuff : ℕ) (post : List UInt8) :
    ∀ (handles : List Handle) (statuses : List ChannelReadStatus) (pre : List UInt8) (i : ℕ),
      handles.length = statuses.length → pre.length = statusBuff + i * 9 →
      setStatuses statusBuff (pre ++ Sdk.newHandleSpace handles ++ post) i statuses =
        .ok (pre ++ statusSpace handles statuses ++ post)
  | [], [], pre, i, _, _ => by simp [setStatuses, Sdk.newHandleSpace, statusSpace]
  | h :: handles, st :: statuses, pre, i, hlen, hpre => by
    have hslot : Sdk.newHandleSpace (h :: handles) = writeU64 h ++ [0] ++ Sdk.newHandleSpace handles := by
      simp [Sdk.newHandleSpace]
    -- the write lands on byte 8 of the first slot after `pre`
    have hbound : 8 + [st.toU8].length ≤ (writeU64 h ++ [0] ++ Sdk.newHandleSpace handles).length := by
      simp only [List.length_append, length_writeU64, List.length_singleton]
      omega
    have hset : memSet (pre ++ Sdk.newHandleSpace (h :: handles) ++ post) (statusBuff + 8 + i * 9)
        [st.toU8] = some ((pre ++ (writeU64 h ++ [st.toU8])) ++ Sdk.newHandleSpace handles ++ post) := by
      rw [show statusBuff + 8 + i * 9 = pre.length + 8 by omega, hslot,
        memSet_append_middle pre _ post [st.toU8] hbound, splice_slot]
      simp only [List.append_assoc]
    rw [setStatuses, hset]
    dsimp only
    rw [setStatuses_eq statusBuff post handles statuses _ (i + 1) (by simpa using hlen)
      (by simp [hpre]; omega)]
    simp [statusSpace]
  | [], _ :: _, _, _, hlen, _ => absurd hlen (by simp)
  | _ :: _, [], _, _, hlen, _ => absurd hlen (by simp)

end WasmInterface

namespace Sdk

theorem waitResults_statusSpace {handles : List Handle} {statuses : List ChannelReadStatus}
    (hlen : handles.length = statuses.length) :
    waitResults (statusSpace handles statuses) handles.length = .ok statuses := by
  have hzip : (handles.zip statuses).length = handles.length := by simp [hlen]
  have hread : ∀ i ∈ List.range handles.length,
      statusAt (statusSpace handles statuses) i = .ok (statuses.getD i .notReady) := by
    intro i hi
    have hi' : i < (handles.zip statuses).length := by rw [hzip]; exact List.mem_range.1 hi
    have hs : i < statuses.length := by rw [← hlen]; exact List.mem_range.1 hi
    have hcell : ∀ p : Handle × ChannelReadStatus, (writeU64 p.1 ++ [p.2.toU8])[8]? = some p.2.toU8 := by
      intro p
      rw [List.getElem?_append_right (by simp), length_writeU64]
      rfl
    have hbyte : (statusSpace handles statuses)[i * 9 + 8]? = some (statuses[i].toU8) := by
      rw [statusSpace, getElem?_flatMap_uniform (k := 9) (i := i) (j := 8)
        (fun p : Handle × ChannelReadStatus => writeU64 p.1 ++ [p.2.toU8])
        (fun p => length_slot p.1 p.2.toU8) _ hi' (by omega), hcell, List.getElem_zip]
    have hidx : i * spaceBytesPerHandle + (spaceBytesPerHandle - 1) = i * 9 + 8 := by
      unfold spaceBytesPerHandle
      rfl
    rw [statusAt, hidx, hbyte, Option.bind_some, ChannelReadStatus.fromI32_toU8,
      List.getD_eq_getElem?_getD, List.getElem?_eq_getElem hs]
    rfl
  rw [waitResults, mapM_eq_ok _ hread, hlen, map_getD_range]

end Sdk


theorem take_slot (h : Handle) (b : UInt8) : (writeU64 h ++ [b]).take 8 = writeU64 h := by
  rw [List.take_append_of_le_length (by simp), List.take_of_length_le (by simp)]

theorem handleBytes_statusSpace {handles : List Handle} {statuses : List ChannelReadStatus}
    (hlen : handles.length = statuses.length) :
    (chunks 9 (statusSpace handles statuses)).map (List.take 8) =
      (chunks 9 (Sdk.newHandleSpace handles)).map (List.take 8) := by
  rw [statusSpace, Sdk.newHandleSpace,
    chunks_flatMap (n := 9) _ (fun p : Handle × ChannelReadStatus => length_slot p.1 p.2.toU8),
    chunks_flatMap (n := 9) _ (fun h => length_slot h 0), List.map_map, List.map_map]
  have hfst : (handles.zip statuses).map Prod.fst = handles := List.map_fst_zip (by omega)
  calc (handles.zip statuses).map (List.take 8 ∘ fun p => writeU64 p.1 ++ [p.2.toU8])
      = ((handles.zip statuses).map Prod.fst).map writeU64 := by
        rw [List.map_map]
        exact List.map_congr_left fun p _ => take_slot p.1 p.2.toU8
    _ = handles.map (List.take 8 ∘ fun h => writeU64 h ++ [0]) := by
        rw [hfst]
        exact List.map_congr_left fun h _ => (take_slot h 0).symm

namespace WasmInterface

theorem waitOnChannelsUtil_newHandleSpace
    (waitOnChannels : List Handle → Except OakStatus (List ChannelReadStatus))
    (pre post : List UInt8) (handles : List Handle) :
    waitOnChannelsUtil waitOnChannels (pre ++ Sdk.newHandleSpace handles ++ post) pre.length
        handles.length =
      match waitOnChannels handles with
      | .error e => some (.error e)
      | .ok statuses => some (setStatuses pre.length (pre ++ Sdk.newHandleSpace handles ++ post) 0 statuses) := by
  have hget := memGet_append_middle pre (Sdk.newHandleSpace handles) post
  rw [Sdk.length_newHandleSpace, Nat.mul_comm] at hget
  rw [waitOnChannelsUtil, hget]
  dsimp only
  rw [decodeHandleSpace_newHandleSpace]

theorem waitOnChannelsUtil_ok {waitOnChannels : List Handle → Except OakStatus (List ChannelReadStatus)}
    {handles : List Handle} {statuses : List ChannelReadStatus}
    (hw : waitOnChannels handles = .ok statuses) (hlen : statuses.length = handles.length)
    (pre post : List UInt8) :
    waitOnChannelsUtil waitOnChannels (pre ++ Sdk.newHandleSpace handles ++ post) pre.length
        handles.length = some (.ok (pre ++ statusSpace handles statuses ++ post)) := by
  rw [waitOnChannelsUtil_newHandleSpace, hw]
  dsimp only
  rw [setStatuses_eq pre.length post handles statuses pre 0 hlen.symm (by simp)]

end WasmInterface

theorem Runtime.waitLoop_length {t : Runtime} {n : NodeId} {info : NodeInfo} {w : ParkedWait}
    {statuses : List ChannelReadStatus} (h : (t.waitLoop n info w).2 = some (.ok statuses)) :
    statuses.length = w.readHandles.length := by
  unfold Runtime.waitLoop at h
  split at h
  · simp at h
  · dsimp only at h
    split at h
    · simp only [Option.some.injEq, Except.ok.injEq] at h
      rw [← h, length_foldl_set, List.length_replicate]
    · cases h

theorem Runtime.waitOnChannels_length {s s' : Runtime} {n : NodeId} {handles : List Handle}
    {dg : Downgrading} {statuses : List ChannelReadStatus}
    (h : s.waitOnChannels n handles dg = some (s', some (.ok statuses))) : statuses.length = handles.length := by
  unfold Runtime.waitOnChannels at h
  split at h
  · cases h
  · exact Runtime.waitLoop_length (congrArg Prod.snd (Option.some.inj h))

theorem Runtime.unpark_length {s s' : Runtime} {n : NodeId} {w : ParkedWait}
    {statuses : List ChannelReadStatus} (hw : s.parked.lookup n = some w)
    (h : s.unpark n = some (s', some (.ok statuses))) : statuses.length = w.readHandles.length := by
  unfold Runtime.unpark at h
  split at h
  · next w' info hw' _ =>
    obtain rfl : w' = w := Option.some.inj (hw'.symm.trans hw)
    exact Runtime.waitLoop_length (congrArg Prod.snd (Option.some.inj h))
  · cases h

/-- The Wasm host ABI buffers agree between the SDK and the host. -/
structure AbiAgrees : Prop where
  fetch_pack : ∀ (pre post : List UInt8) (handles : List Handle),
    WasmInterface.fetchHandles (pre ++ Sdk.pack handles ++ post) pre.length handles.length =
      some (.ok handles)
  unpack_read : ∀ (mem mem' : List UInt8) (p : ℕ) (handles : List Handle),
    memSet mem p (WasmInterface.channelReadHandleBytes handles) = some mem' →
    (memGet mem' p (handles.length * 8)).bind (fun buf => Sdk.unpack buf handles.length) = some handles
  space_length : ∀ handles : List Handle,
    (Sdk.newHandleSpace handles).length = spaceBytesPerHandle * handles.length
  space_decode : ∀ (pre post : List UInt8) (handles : List Handle),
    memGet (pre ++ Sdk.newHandleSpace handles ++ post) pre.length
        (handles.length * spaceBytesPerHandle) = some (Sdk.newHandleSpace handles) ∧
      WasmInterface.decodeHandleSpace (Sdk.newHandleSpace handles) = some handles
  statuses : ∀ (waitOnChannels : List Handle → Except OakStatus (List ChannelReadStatus))
    (pre post : List UInt8) (handles : List Handle) (statuses : List ChannelReadStatus),
    waitOnChannels handles = .ok statuses → statuses.length = handles.length →
    ∃ space, space.length = (Sdk.newHandleSpace handles).length ∧
      WasmInterface.waitOnChannelsUtil waitOnChannels (pre ++ Sdk.newHandleSpace handles ++ post)
        pre.length handles.length = some (.ok (pre ++ space ++ post)) ∧
      Sdk.waitOnChannelsUtil .ok space handles.length = .ok statuses ∧
      (chunks 9 space).map (List.take 8) = (chunks 9 (Sdk.newHandleSpace handles)).map (List.take 8)
  runtime_statuses : ∀ (s s' : Runtime) (n : NodeId) (handles : List Handle) (dg : Downgrading)
    (statuses : List ChannelReadStatus),
    s.waitOnChannels n handles dg = some (s', some (.ok statuses)) → statuses.length = handles.length
  runtime_woken_statuses : ∀ (s s' : Runtime) (n : NodeId) (w : ParkedWait) (statuses : List ChannelReadStatus),
    s.parked.lookup n = some w → s.unpark n = some (s', some (.ok statuses)) →
      statuses.length = w.readHandles.length

theorem length_statusSpace {handles : List Handle} {statuses : List ChannelReadStatus}
    (hlen : handles.length = statuses.length) :
    (statusSpace handles statuses).length = (Sdk.newHandleSpace handles).length := by
  rw [statusSpace, Sdk.newHandleSpace,
    length_flatMap_uniform _ (fun p : Handle × ChannelReadStatus => length_slot p.1 p.2.toU8),
    length_flatMap_uniform _ (fun h => length_slot h 0), List.length_zip, hlen, Nat.min_self]

/-- For every list of handles and every answer of the Runtime, the guest and
the host lay out and read the ABI buffers alike. -/
theorem wasm_abi_buffers_agree : AbiAgrees where
  fetch_pack := WasmInterface.fetchHandles_pack
  unpack_read _ _ _ _ h := WasmInterface.unpack_channelReadHandleBytes h
  space_length := Sdk.length_newHandleSpace
  space_decode pre post handles := by
    refine ⟨?_, WasmInterface.decodeHandleSpace_newHandleSpace handles⟩
    have hget := memGet_append_middle pre (Sdk.newHandleSpace handles) post
    rwa [Sdk.length_newHandleSpace, Nat.mul_comm] at hget
  statuses waitOnChannels pre post handles statuses hw hlen :=
    ⟨statusSpace handles statuses, length_statusSpace hlen.symm,
      WasmInterface.waitOnChannelsUtil_ok hw hlen pre post,
      (Sdk.waitOnChannelsUtil_ok _ _).trans (Sdk.waitResults_statusSpace hlen.symm),
      handleBytes_statusSpace hlen.symm⟩
  runtime_statuses _ _ _ _ _ _ h := Runtime.waitOnChannels_length h
  runtime_woken_statuses _ _ _ _ _ hw h := Runtime.unpark_length hw h

/-! ### Preparing a notification space -/

namespace Sdk

/-- The space with the status bytes of its first `k` slots cleared. -/
def clearStatuses (space : List UInt8) (k : ℕ) : List UInt8 :=
  space.mapIdx fun j b => if j % 9 = 8 ∧ j / 9 < k then 0 else b

@[simp] theorem length_clearStatuses (space : List UInt8) (k : ℕ) :
    (clearStatuses space k).length = space.length := by
  simp [clearStatuses]

theorem clearStatuses_zero (space : List UInt8) : clearStatuses space 0 = space := by
  apply List.ext_getElem (length_clearStatuses space 0)
  intro j _ _
  simp [clearStatuses]

theorem clearStatuses_succ (space : List UInt8) (k : ℕ) :
    (clearStatuses space k).set (k * 9 + 8) 0 = clearStatuses space (k + 1) := by
  apply List.ext_getElem (by simp)
  intro j h₁ _
  rw [List.getElem_set]
  by_cases hj : k * 9 + 8 = j
  · rw [if_pos hj]
    simp only [clearStatuses, List.getElem_mapIdx]
    rw [if_pos (by omega)]
  · rw [if_neg hj]
    simp only [clearStatuses, List.getElem_mapIdx]
    -- slot `k`'s status byte is the one byte whose condition changes
    have hiff : (j % 9 = 8 ∧ j / 9 < k) ↔ (j % 9 = 8 ∧ j / 9 < k + 1) := by omega
    simp only [hiff]

theorem foldlM_clearStatuses (space : List UInt8) (k : ℕ) :
    (List.range k).foldlM
        (fun space i => setIndex space (i * spaceBytesPerHandle + (spaceBytesPerHandle - 1)) 0) space =
      if 9 * k ≤ space.length then some (clearStatuses space k) else none := by
  induction k with
  | zero => simp [clearStatuses_zero]
  | succ k ih =>
    rw [List.range_succ, List.foldlM_append, ih]
    by_cases hk : 9 * k ≤ space.length
    · have hset : setIndex (clearStatuses space k) (k * 9 + 8) 0 =
          if 9 * (k + 1) ≤ space.length then some (clearStatuses space (k + 1)) else none := by
        unfold setIndex
        rw [length_clearStatuses]
        by_cases hk' : 9 * (k + 1) ≤ space.length
        · rw [if_pos (by omega), if_pos hk', clearStatuses_succ]
        · rw [if_neg (by omega), if_neg hk']
      simpa [if_pos hk, spaceBytesPerHandle] using hset
    · rw [if_neg hk, if_neg (by omega)]
      rfl

/-- `prep_handle_space` on the space of `n` handles: below eight handles it
clears exactly the status bytes; from eight on, `space.len() / 8` counts more
slots than the space has, and the loop writes past its end. -/
theorem prep_handle_space_clears_below_eight (n : ℕ) (space : List UInt8) (hs : space.length = 9 * n) :
    (n < 8 → ∃ space', prepHandleSpace space = some space' ∧ space'.length = space.length ∧
        ∀ j < space.length, space'[j]? = if j % 9 = 8 then some 0 else space[j]?) ∧
      (8 ≤ n → prepHandleSpace space = none) := by
  rw [prepHandleSpace, foldlM_clearStatuses, hs]
  refine ⟨fun hn => ?_, fun hn => ?_⟩
  · have hcount : 9 * n / 8 = n := by omega
    rw [hcount, if_pos le_rfl]
    refine ⟨_, rfl, by simp [hs], fun j hj => ?_⟩
    rw [clearStatuses, List.getElem?_mapIdx]
    by_cases hj8 : j % 9 = 8
    · rw [if_pos hj8, List.getElem?_eq_getElem (by omega), Option.map_some, if_pos ⟨hj8, by omega⟩]
    · rw [if_neg hj8, List.getElem?_eq_getElem (by omega), Option.map_some, if_neg (by omega)]
  · rw [if_neg (by omega)]

theorem prep_handle_space_eight_handles :
    (newHandleSpace (List.replicate 8 0)).length = 9 * 8 ∧
      prepHandleSpace (newHandleSpace (List.replicate 8 0)) = none :=
  ⟨by rw [length_newHandleSpace]; rfl,
    (prep_handle_space_clears_below_eight 8 _ (by rw [length_newHandleSpace]; rfl)).2 le_rfl⟩

end Sdk

end Oak
