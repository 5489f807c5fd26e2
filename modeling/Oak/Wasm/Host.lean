import Oak.Wasm.Read

/-! The host functions of the Wasm Node that write messages, create channels
and clone handles (oak_runtime/src/node/wasm/mod.rs). Each reads its arguments
out of guest memory, calls the Runtime, and writes back the handles it gets.
`channel_create` and `handle_clone` check the addresses they write to before
they call the Runtime, so that no failure leaves a handle in the Node's table
that the guest was not told of: on every error the Runtime and guest memory are
as they were, and on success the guest finds each new handle at its address,
naming in the Node's table the half it should. -/

namespace Oak

open Oak.Lib

namespace Runtime

/-- The half the table of Node `n` gives `handle`. -/
def tableLookup (s : Runtime) (n : NodeId) (handle : Handle) : Option ChannelHalf :=
  (s.nodeInfos.lookup n).bind fun i => i.abiHandles.lookup handle

theorem tableLookup_newAbiHandle_self {s s' : Runtime} {n : NodeId} {half : ChannelHalf} {handle : Handle}
    (h : s.newAbiHandle n half handle = some s') : s'.tableLookup n handle = some half := by
  obtain ⟨i, -, -, rfl⟩ := newAbiHandle_spec h
  simp [tableLookup]

theorem tableLookup_newAbiHandle_of_ne {s s' : Runtime} {n : NodeId} {half : ChannelHalf} {handle h' : Handle}
    (h : s.newAbiHandle n half handle = some s') (hne : h' ≠ handle) :
    s'.tableLookup n h' = s.tableLookup n h' := by
  obtain ⟨i, hi, -, rfl⟩ := newAbiHandle_spec h
  simp [tableLookup, hi, Finmap.lookup_insert_of_ne _ hne]

theorem ne_of_newAbiHandle {s s' : Runtime} {n : NodeId} {half half' : ChannelHalf} {handle h' : Handle}
    (h : s.newAbiHandle n half handle = some s') (hh : s.tableLookup n h' = some half') : handle ≠ h' := by
  obtain ⟨i, hi, hnot, -⟩ := newAbiHandle_spec h
  rintro rfl
  rw [tableLookup, hi, Option.bind_some] at hh
  exact hnot (Finmap.mem_iff.2 ⟨half', hh⟩)

end Runtime

namespace WasmInterface

/-- `fetch_bytes`. -/
def fetchBytes (mem : List UInt8) (bytesPtr bytesLength : ℕ) : Except OakStatus (List UInt8) :=
  match memGet mem bytesPtr bytesLength with
  | none => .error .errInvalidArgs
  | some bytes => .ok bytes

/-- `fetch_string`: the bytes, which `String::from_utf8` must accept. -/
def fetchString (mem : List UInt8) (stringPtr stringLength : ℕ) : Except OakStatus String :=
  match fetchBytes mem stringPtr stringLength with
  | .error e => .error e
  | .ok bytes =>
    match String.fromUTF8? ⟨bytes.toArray⟩ with
    | none => .error .errInvalidArgs
    | some string => .ok string

/-- `fetch_proto`, with the message's decoder `decode`. -/
def fetchProto {T : Type} (decode : List UInt8 → Option T) (mem : List UInt8) (dataPtr dataLength : ℕ) :
    Except OakStatus T :=
  match fetchBytes mem dataPtr dataLength with
  | .error e => .error e
  | .ok bytes =>
    match decode bytes with
    | none => .error .errInvalidArgs
    | some t => .ok t

/-- `fetch_message`; `none` where `fetch_handles` panics. -/
def fetchMessage (mem : List UInt8) (source sourceLength handles handlesCount : ℕ) :
    Option (Except OakStatus NodeMessage) :=
  match fetchBytes mem source sourceLength with
  | .error e => some (.error e)
  | .ok bytes =>
    match fetchHandles mem handles handlesCount with
    | none => none
    | some (.error e) => some (.error e)
    | some (.ok handles) => some (.ok ⟨bytes, handles⟩)

/-- `channel_write` (`.no`) and `channel_write_with_downgrade` (`.yes`) of Node
`nodeId`; `none` where the call cannot return. -/
def channelWrite (s : Runtime) (nodeId : NodeId) (mem : List UInt8) (writerHandle : Handle)
    (source sourceLength handles handlesCount : ℕ) (downgrade : Downgrading) :
    Option (Runtime × Except OakStatus Unit) :=
  match fetchMessage mem source sourceLength handles handlesCount with
  | none => none
  | some (.error e) => some (s, .error e)
  | some (.ok msg) => s.channelWrite nodeId writerHandle msg downgrade

/-- `handle_clone` of Node `nodeId`: the Runtime and guest memory after the
call, and its status. `newHandle` is the handle value the Runtime draws. -/
def handleClone (s : Runtime) (nodeId : NodeId) (mem : List UInt8) (handle : Handle)
    (clonedHandleOut : ℕ) (newHandle : Handle) : Option (Runtime × List UInt8 × Except OakStatus Unit) :=
  -- the address is checked first, so that a failed write cannot leak the clone
  match validatePtr mem clonedHandleOut 8 with
  | .error e => some (s, mem, .error e)
  | .ok () =>
    match s.handleClone nodeId handle newHandle with
    | none => none
    | some (s', .error e) => some (s', mem, .error e)
    | some (s', .ok clonedHandle) =>
      match memSet mem clonedHandleOut (writeU64 clonedHandle) with
      | none => some (s', mem, .error .errInvalidArgs)
      | some mem' => some (s', mem', .ok ())

/-- `channel_create_using_creator` of Node `nodeId`, the creator being
`channel_create` (`.no`) or `channel_create_with_downgrade` (`.yes`), and
`decodeLabel` the protobuf decoder of a `Label`. `writeHandle` and `readHandle`
are the handle values the Runtime draws. -/
def channelCreateUsingCreator (s : Runtime) (nodeId : NodeId) (mem : List UInt8)
    (decodeLabel : List UInt8 → Option Label) (writeAddr readAddr namePtr nameLength labelPtr labelLength : ℕ)
    (downgrade : Downgrading) (writeHandle readHandle : Handle) :
    Option (Runtime × List UInt8 × Except OakStatus Unit) :=
  if s.terminating then some (s, mem, .error .errTerminated) else
  match validatePtr mem writeAddr 8 with
  | .error e => some (s, mem, .error e)
  | .ok () =>
    match validatePtr mem readAddr 8 with
    | .error e => some (s, mem, .error e)
    | .ok () =>
      match fetchString mem namePtr nameLength with
      | .error e => some (s, mem, .error e)
      | .ok _ =>
        match fetchProto decodeLabel mem labelPtr labelLength with
        | .error e => some (s, mem, .error e)
        | .ok label =>
          match s.channelCreate nodeId label downgrade writeHandle readHandle with
          | none => none
          | some (s', .error e) => some (s', mem, .error e)
          | some (s', .ok (w, r)) =>
            match memSet mem writeAddr (writeU64 w) with
            | none => some (s', mem, .error .errInvalidArgs)
            | some mem₁ =>
              match memSet mem₁ readAddr (writeU64 r) with
              | none => some (s', mem₁, .error .errInvalidArgs)
              | some mem₂ => some (s', mem₂, .ok ())

/-! ### Reading arguments -/

theorem fetchHandles_ne_none (mem : List UInt8) (handles handlesCount : ℕ) :
    fetchHandles mem handles handlesCount ≠ none := by
  unfold fetchHandles
  split
  · exact Option.some_ne_none _
  · next raw hraw =>
    have hlen : raw.length = handlesCount * 8 := by
      rw [memGet] at hraw
      split at hraw
      · next hle =>
        cases hraw
        simp only [List.length_take, List.length_drop]
        omega
      · cases hraw
    -- each chunk has eight bytes, which `readU64` reads
    have hchunks := chunks_length_of_mul (n := 8) raw hlen
    intro hnone
    apply mapM_ne_none (g := readU64) fun c hc => ?_
    · rwa [Option.map_eq_none_iff] at hnone
    · rw [readU64, if_pos (show 8 ≤ c.length from (hchunks c hc).ge)]
      exact Option.some_ne_none _

/-! ### Creating and cloning handles -/

theorem memSet_of_validatePtr {mem : List UInt8} {addr : ℕ} (h : validatePtr mem addr 8 = .ok ())
    (x : UInt64) : ∃ mem', memSet mem addr (writeU64 x) = some mem' ∧ mem'.length = mem.length := by
  apply memSet_of_le
  unfold validatePtr at h
  split at h
  · cases h
  · rw [length_writeU64]
    omega

theorem memGet_memSet_writeU64 {mem mem' : List UInt8} {p : ℕ} {x : UInt64}
    (h : memSet mem p (writeU64 x) = some mem') : memGet mem' p 8 = some (writeU64 x) := by
  rw [← length_writeU64 x]
  exact memGet_memSet_self h

theorem unchanged_of_error {s s' : Runtime} {mem mem' : List UInt8} {e : OakStatus} {r : Except OakStatus Unit}
    {P : Prop} (h : some (s, mem, Except.error e) = some (s', mem', r)) :
    (∀ e, r = .error e → s' = s ∧ mem' = mem) ∧ (r = .ok () → P) := by
  cases h
  exact ⟨fun _ _ => ⟨rfl, rfl⟩, fun h => by cases h⟩

/-- `handle_clone` leaks no handle: on every error the Runtime and guest memory
are as they were; on success the guest finds the new handle at
`cloned_handle_out`, naming in the Node's table a clone of the half the old
handle names. -/
theorem handle_clone_leaks_no_handle {s s' : Runtime} {n : NodeId} {mem mem' : List UInt8} {handle : Handle}
    {out : ℕ} {newHandle : Handle} {r : Except OakStatus Unit}
    (h : handleClone s n mem handle out newHandle = some (s', mem', r)) :
    (∀ e, r = .error e → s' = s ∧ mem' = mem) ∧
      (r = .ok () → memGet mem' out 8 = some (writeU64 newHandle) ∧
        ∃ half, s.tableLookup n handle = some half ∧ s'.tableLookup n newHandle = some half) := by
  unfold handleClone at h
  split at h
  · exact unchanged_of_error h
  · next hv =>
    obtain ⟨mem₁, hset, -⟩ := memSet_of_validatePtr hv newHandle
    split at h
    · cases h
    · next s₁ e hclone =>
      rcases Runtime.handleClone_cases hclone with ⟨rfl, -⟩ | ⟨-, -, -, -, -, hr⟩
      · exact unchanged_of_error h
      · cases hr
    · next s₁ cloned hclone =>
      rcases Runtime.handleClone_cases hclone with ⟨-, e, he⟩ | ⟨info, half, hi, hl, h₂, hr⟩
      · cases he
      · cases hr
        rw [hset] at h
        cases h
        refine ⟨(fun _ he => by cases he), fun _ => ⟨memGet_memSet_writeU64 hset, half, ?_, ?_⟩⟩
        · rw [Runtime.tableLookup, hi, Option.bind_some, hl]
        · exact Runtime.tableLookup_newAbiHandle_self h₂

theorem handle_clone_of_created_write_handle :
    ∃ s s' mem', Runtime.create.channelCreate 0 Label.publicUntrusted .no 1 2 = some (s, .ok (1, 2)) ∧
      handleClone s 0 (List.replicate 8 0) 1 0 3 = some (s', mem', .ok ()) ∧
      memGet mem' 0 8 = some (writeU64 3) ∧
      ∃ half, s.tableLookup 0 1 = some half ∧ s'.tableLookup 0 3 = some half := by
  obtain ⟨s, s', mem', hs, h⟩ : ∃ s s' mem', Runtime.create.channelCreate 0 Label.publicUntrusted .no 1 2 =
      some (s, .ok (1, 2)) ∧ handleClone s 0 (List.replicate 8 0) 1 0 3 = some (s', mem', .ok ()) :=
    ⟨_, _, _, rfl, rfl⟩
  exact ⟨s, s', mem', hs, h, (handle_clone_leaks_no_handle h).2 rfl⟩

/-- `channel_create` leaks no handle either: on every error the Runtime and
guest memory are as they were. On success, with the two addresses eight bytes
apart, the guest finds the write handle at `write_addr` and the read handle at
`read_addr`, naming in the Node's table the two ends of the new channel. -/
theorem channel_create_delivers_handles {s s' : Runtime} {n : NodeId} {mem mem' : List UInt8}
    {decodeLabel : List UInt8 → Option Label} {writeAddr readAddr namePtr nameLength labelPtr labelLength : ℕ}
    {dg : Downgrading} {wh rh : Handle} {r : Except OakStatus Unit}
    (h : channelCreateUsingCreator s n mem decodeLabel writeAddr readAddr namePtr nameLength labelPtr labelLength
      dg wh rh = some (s', mem', r)) :
    (∀ e, r = .error e → s' = s ∧ mem' = mem) ∧
      (r = .ok () → (writeAddr + 8 ≤ readAddr ∨ readAddr + 8 ≤ writeAddr) →
        memGet mem' writeAddr 8 = some (writeU64 wh) ∧ memGet mem' readAddr 8 = some (writeU64 rh) ∧
        s'.tableLookup n wh = some ⟨s.nextChannelId, .write⟩ ∧
        s'.tableLookup n rh = some ⟨s.nextChannelId, .read⟩) := by
  unfold channelCreateUsingCreator at h
  -- every check before the Runtime's call fails with nothing changed
  split at h
  · exact unchanged_of_error h
  split at h
  · exact unchanged_of_error h
  rename_i hw
  split at h
  · exact unchanged_of_error h
  rename_i hr
  split at h
  · exact unchanged_of_error h
  split at h
  · exact unchanged_of_error h
  split at h
  · cases h
  · next s₁ e hc =>
    rcases Runtime.channelCreate_cases hc with ⟨rfl, -⟩ | ⟨-, -, -, -, -, -, -, -, hres⟩
    · exact unchanged_of_error h
    · cases hres
  · next s₁ w r' hc =>
    rcases Runtime.channelCreate_cases hc with ⟨-, e, he⟩ | ⟨info, s₃, -, -, -, -, h₃, h₄, hres⟩
    · cases he
    simp only [Except.ok.injEq, Prod.mk.injEq] at hres
    obtain ⟨rfl, rfl⟩ := hres
    -- both addresses were checked, so both writes succeed
    obtain ⟨mem₁, hset₁, hlen₁⟩ := memSet_of_validatePtr hw w
    obtain ⟨mem₂, hset₂, -⟩ := @memSet_of_validatePtr mem₁ readAddr (by unfold validatePtr at hr ⊢; rwa [hlen₁]) r'
    simp only [hset₁, hset₂] at h
    cases h
    refine ⟨(fun _ he => by cases he), fun _ hdisj => ⟨?_, memGet_memSet_writeU64 hset₂, ?_,
      Runtime.tableLookup_newAbiHandle_self h₄⟩⟩
    · rw [memGet_memSet_of_disjoint hset₂ (by rwa [length_writeU64])]
      exact memGet_memSet_writeU64 hset₁
    · -- the read handle is new to the table, so the write handle keeps its half
      have hw₃ := Runtime.tableLookup_newAbiHandle_self h₃
      rw [Runtime.tableLookup_newAbiHandle_of_ne h₄ (Runtime.ne_of_newAbiHandle h₄ hw₃).symm, hw₃]

theorem channel_create_delivers_handles_fresh :
    ∃ s' mem', channelCreateUsingCreator Runtime.create 0 (List.replicate 16 0)
        (fun _ => some Label.publicUntrusted) 0 8 0 0 0 0 .no 1 2 = some (s', mem', .ok ()) ∧
      memGet mem' 0 8 = some (writeU64 1) ∧ memGet mem' 8 8 = some (writeU64 2) ∧
      s'.tableLookup 0 1 = some ⟨0, .write⟩ ∧ s'.tableLookup 0 2 = some ⟨0, .read⟩ := by
  obtain ⟨s', mem', h⟩ : ∃ s' mem', channelCreateUsingCreator Runtime.create 0 (List.replicate 16 0)
      (fun _ => some Label.publicUntrusted) 0 8 0 0 0 0 .no 1 2 = some (s', mem', .ok ()) := ⟨_, _, rfl⟩
  exact ⟨s', mem', h, (channel_create_delivers_handles h).2 rfl (Or.inl le_rfl)⟩

end WasmInterface

end Oak
