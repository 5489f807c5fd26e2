import Oak.Wasm.Abi
import Oak.Runtime.Fifo

/-! The host side of `channel_read`. `channel_read_util` checks the data and
handle buffers against guest memory, asks the Runtime for the front message,
and only then writes the two sizes, the bytes and the handles to guest memory.
The sizes' addresses are never checked beforehand, and the handle buffer is
checked for `handles_capacity * 8` computed in `u32`: a write that then fails
returns `ErrInvalidArgs` with the message already taken off its queue and its
handles already in the Node's table. Every other failure leaves the queues and
the tables as they were. -/

namespace Oak

open Oak.Lib

namespace Runtime

theorem length_of_newAbiHandles {s s' : Runtime} {n : NodeId} {halves : List ChannelHalf}
    {handles : List Handle} (h : s.newAbiHandles n halves handles = some s') : handles.length = halves.length := by
  induction halves generalizing s handles with
  | nil =>
    cases handles with
    | nil => rfl
    | cons _ _ => cases h
  | cons half halves ih =>
    cases handles with
    | nil => cases h
    | cons handle handles =>
      unfold newAbiHandles at h
      split at h
      · simp only [List.length_cons, ih h]
      · cases h

theorem channelTryReadMessage_success {s s' : Runtime} {n : NodeId} {rh : Handle} {b k : Nat}
    {dg : Downgrading} {handles : List Handle} {m : NodeMessage}
    (h : s.channelTryReadMessage n rh b k dg handles = some (s', .ok (some (.success m)))) :
    m.bytes.length ≤ b ∧ m.handles.length ≤ k := by
  unfold channelTryReadMessage at h
  split at h
  · cases h
  split at h
  · simp at h
  split at h
  · cases h
  split at h
  · simp at h
  split at h
  · split at h <;> simp at h
  · next front rest _ =>
    split at h
    · simp at h
    · next hcap =>
      dsimp only at h
      split at h
      · cases h
      · next s₃ nodeMsg h₃ =>
        simp only [Option.some.injEq, Prod.mk.injEq, Except.ok.injEq, NodeReadStatus.success.injEq] at h
        obtain ⟨s₁, h₁, -, rfl⟩ := nodeMessageFrom_spec h₃
        obtain ⟨-, rfl⟩ := h
        have hlen := length_of_newAbiHandles h₁
        simp only [gt_iff_lt, not_or, not_lt] at hcap
        exact ⟨hcap.1, hlen ▸ hcap.2⟩

end Runtime

namespace WasmInterface

/-- `validate_ptr`: `offset` bytes at `addr` lie in guest memory. -/
def validatePtr (mem : List UInt8) (addr offset : ℕ) : Except OakStatus Unit :=
  if mem.length < addr + offset then .error .errInvalidArgs else .ok ()

/-- The sizes `channel_read_util` reports for what the Runtime returned. -/
def readSizes : Option NodeReadStatus → ℕ × ℕ
  | none => (0, 0)
  | some (.success msg) => (msg.bytes.length, msg.handles.length)
  | some (.needsCapacity a b) => (a, b)

/-- The part of `channel_read_util` after the Runtime answered `msg`: the two
sizes as `u32`s, then for a message its bytes and its handles, each written to
guest memory; and the status. -/
def writeRead (mem : List UInt8) (dest destCapacity actualLengthAddr handlesDest actualHandleCountAddr : ℕ)
    (msg : Option NodeReadStatus) : List UInt8 × Except OakStatus Unit :=
  match memSet mem actualLengthAddr (toLE 4 (readSizes msg).1) with
  | none => (mem, .error .errInvalidArgs)
  | some mem₁ =>
    match memSet mem₁ actualHandleCountAddr (toLE 4 (readSizes msg).2) with
    | none => (mem₁, .error .errInvalidArgs)
    | some mem₂ =>
      match msg with
      | some (.success m) =>
        match memSet mem₂ dest m.bytes with
        | none => (mem₂, .error .errInvalidArgs)
        | some mem₃ =>
          match memSet mem₃ handlesDest (channelReadHandleBytes m.handles) with
          | none => (mem₃, .error .errInvalidArgs)
          | some mem₄ => (mem₄, .ok ())
      | none => (mem₂, .error .errChannelEmpty)
      | some (.needsCapacity x _) =>
        if x > destCapacity then (mem₂, .error .errBufferTooSmall) else (mem₂, .error .errHandleSpaceTooSmall)

/-- `channel_read_util` of Node `nodeId` (`channel_read` with `.no`, and
`channel_read_with_downgrade` with `.yes`): the Runtime and guest memory after
the call, and its status; `none` where the Runtime's read cannot happen.
`handles` are the handle values the Runtime draws for the message's halves. -/
def channelReadUtil (s : Runtime) (nodeId : NodeId) (mem : List UInt8) (readerHandle : Handle)
    (dest destCapacity actualLengthAddr handlesDest handlesCapacity actualHandleCountAddr : ℕ)
    (downgrade : Downgrading) (handles : List Handle) : Option (Runtime × List UInt8 × Except OakStatus Unit) :=
  match validatePtr mem dest destCapacity with
  | .error e => some (s, mem, .error e)
  | .ok () =>
    -- `handles_capacity * 8` is a `u32` product
    match validatePtr mem handlesDest (handlesCapacity * 8 % 2 ^ 32) with
    | .error e => some (s, mem, .error e)
    | .ok () =>
      match s.channelTryReadMessage nodeId readerHandle destCapacity handlesCapacity downgrade handles with
      | none => none
      | some (s₁, .error e) => some (s₁, mem, .error e)
      | some (s₁, .ok msg) =>
        let r := writeRead mem dest destCapacity actualLengthAddr handlesDest actualHandleCountAddr msg
        some (s₁, r.1, r.2)

theorem length_channelReadHandleBytes (handles : List Handle) :
    (channelReadHandleBytes handles).length = handles.length * 8 := by
  rw [channelReadHandleBytes_eq_pack, Sdk.length_pack]

theorem writeRead_success (mem : List UInt8) (dest destCapacity actualLengthAddr handlesDest actualHandleCountAddr : ℕ)
    (m : NodeMessage) :
    (writeRead mem dest destCapacity actualLengthAddr handlesDest actualHandleCountAddr (some (.success m))).2 =
      if actualLengthAddr + 4 ≤ mem.length ∧ actualHandleCountAddr + 4 ≤ mem.length ∧
          dest + m.bytes.length ≤ mem.length ∧ handlesDest + m.handles.length * 8 ≤ mem.length then .ok ()
      else .error .errInvalidArgs := by
  unfold writeRead
  split
  · next h₁ =>
    rw [memSet_eq_none, length_toLE] at h₁
    rw [if_neg (by omega)]
  · next mem₁ h₁ =>
    obtain ⟨hin₁, hl₁⟩ := memSet_eq_some h₁
    rw [length_toLE] at hin₁
    split
    · next h₂ =>
      rw [memSet_eq_none, length_toLE, hl₁] at h₂
      rw [if_neg (by omega)]
    · next mem₂ h₂ =>
      obtain ⟨hin₂, hl₂⟩ := memSet_eq_some h₂
      rw [length_toLE, hl₁] at hin₂
      dsimp only
      split
      · next h₃ =>
        rw [memSet_eq_none, hl₂, hl₁] at h₃
        rw [if_neg (by omega)]
      · next mem₃ h₃ =>
        obtain ⟨hin₃, hl₃⟩ := memSet_eq_some h₃
        rw [hl₂, hl₁] at hin₃
        split
        · next h₄ =>
          rw [memSet_eq_none, hl₃, hl₂, hl₁, length_channelReadHandleBytes] at h₄
          rw [if_neg (by omega)]
        · next mem₄ h₄ =>
          obtain ⟨hin₄, -⟩ := memSet_eq_some h₄
          rw [hl₃, hl₂, hl₁, length_channelReadHandleBytes] at hin₄
          rw [if_pos ⟨by omega, by omega, by omega, by omega⟩]

/-- How a failed `channel_read` ends: with the Runtime's state restored (the
handle was cloned and dropped again, or not touched), or with `ErrInvalidArgs`
after the Runtime gave a message, when a write to guest memory failed. -/
theorem channelReadUtil_error_cases {s s' : Runtime} {n : NodeId} {info : NodeInfo}
    (hn : s.nodeInfos.lookup n = some info) {mem mem' : List UInt8} {rh : Handle}
    {dest destCapacity lenAddr handlesDest handlesCapacity countAddr : ℕ} {dg : Downgrading}
    {handles : List Handle} {e : OakStatus}
    (h : channelReadUtil s n mem rh dest destCapacity lenAddr handlesDest handlesCapacity countAddr dg handles =
      some (s', mem', .error e)) :
    Runtime.Restored info s s' ∨
      e = .errInvalidArgs ∧ dest + destCapacity ≤ mem.length ∧
        handlesDest + handlesCapacity * 8 % 2 ^ 32 ≤ mem.length ∧
        ∃ m, s.channelTryReadMessage n rh destCapacity handlesCapacity dg handles = some (s', .ok (some (.success m))) ∧
          ¬(lenAddr + 4 ≤ mem.length ∧ countAddr + 4 ≤ mem.length ∧
            dest + m.bytes.length ≤ mem.length ∧ handlesDest + m.handles.length * 8 ≤ mem.length) := by
  unfold channelReadUtil at h
  split at h
  · simp only [Option.some.injEq, Prod.mk.injEq] at h
    obtain ⟨rfl, -⟩ := h
    exact .inl (Runtime.Restored.refl info s)
  · next hv₁ =>
    split at h
    · simp only [Option.some.injEq, Prod.mk.injEq] at h
      obtain ⟨rfl, -⟩ := h
      exact .inl (Runtime.Restored.refl info s)
    · next hv₂ =>
      have hin₁ : dest + destCapacity ≤ mem.length := by
        unfold validatePtr at hv₁
        split at hv₁
        · cases hv₁
        · omega
      have hin₂ : handlesDest + handlesCapacity * 8 % 2 ^ 32 ≤ mem.length := by
        unfold validatePtr at hv₂
        split at hv₂
        · cases hv₂
        · omega
      split at h
      · cases h
      · next s₁ e' hr =>
        simp only [Option.some.injEq, Prod.mk.injEq] at h
        obtain ⟨rfl, -, -⟩ := h
        -- a Runtime error restores the state
        rcases Runtime.channelTryReadMessage_cases hr with ⟨info', hi, hres, -⟩ | hcap | hmsg
        · rw [hn] at hi
          cases hi
          exact .inl hres
        · simp at hcap
        · simp at hmsg
      · next s₁ msg hr =>
        simp only [Option.some.injEq, Prod.mk.injEq] at h
        obtain ⟨rfl, -, hw⟩ := h
        rcases Runtime.channelTryReadMessage_cases hr with ⟨info', hi, hres, -⟩ | ⟨info', -, -, -, -, hi, -, -, -, -, -, hres, -⟩ |
            ⟨-, -, -, m, -, -, -, -, -, -, -, -, -, -, hr'⟩
        · rw [hn] at hi
          cases hi
          exact .inl hres
        · rw [hn] at hi
          cases hi
          exact .inl hres
        · -- the Runtime gave a message: only a failed write can fail the call
          cases hr'
          rw [writeRead_success] at hw
          split at hw
          · cases hw
          · next hfail =>
            cases hw
            exact .inr ⟨rfl, hin₁, hin₂, _, hr, hfail⟩

/-- The failures that leave every queue and every Node's handle table as they
were: all but `ErrInvalidArgs`, and that one too when both size addresses lie
in guest memory and `handles_capacity * 8` does not wrap. -/
theorem channelReadUtil_error_kept {s s' : Runtime} {n : NodeId} {info : NodeInfo} (hs : s.WellFormed)
    (hn : s.nodeInfos.lookup n = some info) {mem mem' : List UInt8} {rh : Handle}
    {dest destCapacity lenAddr handlesDest handlesCapacity countAddr : ℕ} {dg : Downgrading}
    {handles : List Handle} {e : OakStatus}
    (h : channelReadUtil s n mem rh dest destCapacity lenAddr handlesDest handlesCapacity countAddr dg handles =
      some (s', mem', .error e))
    (he : e ≠ .errInvalidArgs ∨ lenAddr + 4 ≤ mem.length ∧ countAddr + 4 ≤ mem.length ∧ handlesCapacity < 2 ^ 29) :
    Runtime.QueuesKept s s' ∧ s'.nodeInfos = s.nodeInfos := by
  have hres : Runtime.Restored info s s' := by
    rcases channelReadUtil_error_cases hn h with hres | ⟨rfl, hin₁, hin₂, m, hr, hfail⟩
    · exact hres
    · -- the message fits the capacities the two buffers were checked for
      obtain ⟨hb, hk⟩ := Runtime.channelTryReadMessage_success hr
      rcases he with he | ⟨hl, hc, hcap⟩
      · exact absurd rfl he
      · have hmod : handlesCapacity * 8 % 2 ^ 32 = handlesCapacity * 8 := Nat.mod_eq_of_lt (by omega)
        exact absurd ⟨hl, hc, by omega, by omega⟩ hfail
  exact ⟨hres.queuesKept hs hn, hres.nodeInfos_eq⟩

/-- Once the buffers passed their checks and the Runtime gave a message, a
write that leaves guest memory fails the call with `ErrInvalidArgs`, in the
state the read left. -/
theorem channelReadUtil_of_write_fails {s s₁ : Runtime} {n : NodeId} {mem : List UInt8} {rh : Handle}
    {dest destCapacity lenAddr handlesDest handlesCapacity countAddr : ℕ} {dg : Downgrading}
    {handles : List Handle} {m : NodeMessage} (hin₁ : dest + destCapacity ≤ mem.length)
    (hin₂ : handlesDest + handlesCapacity * 8 % 2 ^ 32 ≤ mem.length)
    (hr : s.channelTryReadMessage n rh destCapacity handlesCapacity dg handles = some (s₁, .ok (some (.success m))))
    (hfail : ¬(lenAddr + 4 ≤ mem.length ∧ countAddr + 4 ≤ mem.length ∧
      dest + m.bytes.length ≤ mem.length ∧ handlesDest + m.handles.length * 8 ≤ mem.length)) :
    ∃ mem', channelReadUtil s n mem rh dest destCapacity lenAddr handlesDest handlesCapacity countAddr dg handles =
      some (s₁, mem', .error .errInvalidArgs) := by
  have hv₁ : validatePtr mem dest destCapacity = .ok () := if_neg (by omega)
  have hv₂ : validatePtr mem handlesDest (handlesCapacity * 8 % 2 ^ 32) = .ok () := if_neg (by omega)
  have hw := writeRead_success mem dest destCapacity lenAddr handlesDest countAddr m
  rw [if_neg hfail] at hw
  refine ⟨(writeRead mem dest destCapacity lenAddr handlesDest countAddr (some (.success m))).1, ?_⟩
  simp only [channelReadUtil, hv₁, hv₂, hr, hw]

/-- Once the buffers passed their checks and the Runtime gave a message, a
length address outside guest memory fails the call with `ErrInvalidArgs`, in
the state the read left: the message is off its queue. -/
theorem channelReadUtil_takes_message {s s₁ : Runtime} {n : NodeId} {mem : List UInt8} {rh : Handle}
    {dest destCapacity lenAddr handlesDest handlesCapacity countAddr : ℕ} {dg : Downgrading}
    {handles : List Handle} {m : NodeMessage} (hin₁ : dest + destCapacity ≤ mem.length)
    (hin₂ : handlesDest + handlesCapacity * 8 % 2 ^ 32 ≤ mem.length)
    (hr : s.channelTryReadMessage n rh destCapacity handlesCapacity dg handles = some (s₁, .ok (some (.success m))))
    (hlen : mem.length < lenAddr + 4) :
    ∃ mem', channelReadUtil s n mem rh dest destCapacity lenAddr handlesDest handlesCapacity countAddr dg handles =
      some (s₁, mem', .error .errInvalidArgs) :=
  channelReadUtil_of_write_fails hin₁ hin₂ hr (by omega)

/-- The failures of `channel_read` in every state a run reaches: each leaves every
queue and every Node's table as they were, but for an `ErrInvalidArgs` that a
write to guest memory returned after the Runtime gave a message. That one does
happen: with both buffers in memory, an actual-length address outside it fails
the call in the state the read left. -/
theorem channel_read_failures {tr : List Runtime.Event} {s : Runtime} (hrun : Run Runtime.step Runtime.create tr s)
    {n : NodeId} {info : NodeInfo} (hn : s.nodeInfos.lookup n = some info) :
    (∀ mem rh dest destCapacity lenAddr handlesDest handlesCapacity countAddr dg handles s' mem' e,
      channelReadUtil s n mem rh dest destCapacity lenAddr handlesDest handlesCapacity countAddr dg handles =
        some (s', mem', .error e) →
      (e ≠ .errInvalidArgs ∨ lenAddr + 4 ≤ mem.length ∧ countAddr + 4 ≤ mem.length ∧ handlesCapacity < 2 ^ 29) →
      Runtime.QueuesKept s s' ∧ s'.nodeInfos = s.nodeInfos) ∧
    ∀ mem rh dest destCapacity lenAddr handlesDest handlesCapacity countAddr dg handles s₁ m,
      dest + destCapacity ≤ mem.length → handlesDest + handlesCapacity * 8 % 2 ^ 32 ≤ mem.length →
      s.channelTryReadMessage n rh destCapacity handlesCapacity dg handles = some (s₁, .ok (some (.success m))) →
      mem.length < lenAddr + 4 →
      ∃ mem', channelReadUtil s n mem rh dest destCapacity lenAddr handlesDest handlesCapacity countAddr dg handles =
        some (s₁, mem', .error .errInvalidArgs) :=
  ⟨fun _ _ _ _ _ _ _ _ _ _ _ _ _ h he => channelReadUtil_error_kept (Runtime.WellFormed.of_run hrun) hn h he,
    fun _ _ _ _ _ _ _ _ _ _ _ _ hin₁ hin₂ hr hlen => channelReadUtil_takes_message hin₁ hin₂ hr hlen⟩

/-- Node 0 creates a channel and writes to it one byte with a clone of its write
handle. A read with no room for the byte fails with `ErrBufferTooSmall` and
keeps the queue; a read with room for it, an eight-byte guest memory and an
actual-length address past its end fails with `ErrInvalidArgs`, the message off
its queue. -/
theorem channel_read_failures_after_write :
    ∃ tr s s' mem' s₁ mem₁, Run Runtime.step Runtime.create tr s ∧ s.queue 0 = some [[7]] ∧
      channelReadUtil s 0 (List.replicate 8 0) 2 0 0 0 0 1 4 .no [3] = some (s', mem', .error .errBufferTooSmall) ∧
      Runtime.QueuesKept s s' ∧
      channelReadUtil s 0 (List.replicate 8 0) 2 0 1 8 0 1 0 .no [3] = some (s₁, mem₁, .error .errInvalidArgs) ∧
      s₁.queue 0 = some [] := by
  let acts : List Action := [.channelCreate 0 Label.publicUntrusted .no 1 2, .channelWrite 0 1 ⟨[7], [1]⟩ .no]
  obtain ⟨⟨tr, s⟩, he⟩ := Option.isSome_iff_exists.1
    (by decide +kernel : (runFrom Runtime.step Runtime.create acts).isSome)
  have hinfo : (runFrom Runtime.step Runtime.create acts).map (fun p => (p.2.nodeInfos.lookup 0).isSome) =
      some true := by decide +kernel
  have hq : (runFrom Runtime.step Runtime.create acts).map (fun p => p.2.queue 0) = some (some [[7]]) := by
    decide +kernel
  have hsmall : (runFrom Runtime.step Runtime.create acts).map (fun p =>
      (channelReadUtil p.2 0 (List.replicate 8 0) 2 0 0 0 0 1 4 .no [3]).map fun q => q.2.2) =
      some (some (.error .errBufferTooSmall)) := by decide +kernel
  have hread : (runFrom Runtime.step Runtime.create acts).map (fun p =>
      (p.2.channelTryReadMessage 0 2 1 1 .no [3]).map fun q => q.2) =
      some (some (.ok (some (.success ⟨[7], [3]⟩)))) := by decide +kernel
  have hq₁ : (runFrom Runtime.step Runtime.create acts).map (fun p =>
      (p.2.channelTryReadMessage 0 2 1 1 .no [3]).map fun q => q.1.queue 0) = some (some (some [])) := by
    decide +kernel
  rw [he, Option.map_some, Option.some.injEq] at hinfo hq hsmall hread hq₁
  have hrun := Run.of_runFrom_init he
  obtain ⟨info, hi⟩ := Option.isSome_iff_exists.1 hinfo
  obtain ⟨⟨s', mem', r⟩, hcall, rfl⟩ := Option.map_eq_some_iff.1 hsmall
  obtain ⟨⟨s₁, r₁⟩, htry, rfl⟩ := Option.map_eq_some_iff.1 hread
  have hqueue : s₁.queue 0 = some [] := by simpa [htry] using hq₁
  obtain ⟨hkept, -⟩ := (channel_read_failures hrun hi).1 _ _ _ _ _ _ _ _ _ _ _ _ _ hcall (.inl (by decide))
  obtain ⟨mem₁, hfail⟩ := (channel_read_failures hrun hi).2 (List.replicate 8 0) 2 0 1 8 0 1 0 .no [3] s₁ ⟨[7], [3]⟩
    (by decide) (by decide) htry (by decide)
  exact ⟨tr, s, s', mem', s₁, mem₁, hrun, hq, hcall, hkept, hfail, hqueue⟩

/-- A handle capacity that is a multiple of `2 ^ 29` passes the handle buffer's
check as a buffer of no bytes, since `handles_capacity * 8` wraps to zero in
`u32`. With the data buffer in guest memory and `handles_dest` at most its
size, the Runtime may hand over a message whose handles do not fit at
`handles_dest`; it is then off its queue when the write of its handles fails
with `ErrInvalidArgs`. -/
theorem channel_read_handles_capacity_wraps {s s₁ : Runtime} {n : NodeId} {mem : List UInt8} {rh : Handle}
    {dest destCapacity lenAddr handlesDest countAddr j : ℕ} {dg : Downgrading} {handles : List Handle}
    {m : NodeMessage} (hdest : dest + destCapacity ≤ mem.length) (hhd : handlesDest ≤ mem.length)
    (hr : s.channelTryReadMessage n rh destCapacity (2 ^ 29 * j) dg handles = some (s₁, .ok (some (.success m))))
    (hk : mem.length < handlesDest + m.handles.length * 8) :
    mem.length < handlesDest + 2 ^ 29 * j * 8 ∧
      ∃ mem', channelReadUtil s n mem rh dest destCapacity lenAddr handlesDest (2 ^ 29 * j) countAddr dg handles =
        some (s₁, mem', .error .errInvalidArgs) := by
  have hwrap : 2 ^ 29 * j * 8 % 2 ^ 32 = 0 := by
    rw [Nat.mul_right_comm, show 2 ^ 29 * 8 = 2 ^ 32 by decide, Nat.mul_mod_right]
  -- the Runtime hands over at most the capacity it was told
  have hcap := (Runtime.channelTryReadMessage_success hr).2
  refine ⟨by omega, channelReadUtil_of_write_fails hdest (by omega) hr (by omega)⟩

end WasmInterface

/-- Node 0 creates a channel and writes to it one byte with a clone of its
write handle. Reading with an eight-byte guest memory and an actual-length
address past its end fails with `ErrInvalidArgs`, yet the message is off the
queue and the Node's table holds a new handle 3 for the half it carried. -/
theorem channel_read_error_takes_message :
    ∃ tr s s' mem', Run Runtime.step Runtime.create tr s ∧ s.queue 0 = some [[7]] ∧
      (s.nodeInfos.lookup 0).map (fun info => info.abiHandles.lookup 3) = some none ∧
      WasmInterface.channelReadUtil s 0 (List.replicate 8 0) 2 0 1 8 0 1 0 .no [3] =
        some (s', mem', .error .errInvalidArgs) ∧
      s'.queue 0 = some [] ∧
      (s'.nodeInfos.lookup 0).map (fun info => info.abiHandles.lookup 3) = some (some ⟨0, .write⟩) := by
  have h₁ := (Run.nil : Run Runtime.step Runtime.create [] Runtime.create).snoc
    (a := .channelCreate 0 Label.publicUntrusted .no 1 2) rfl
  have h₂ := h₁.snoc (a := .channelWrite 0 1 ⟨[7], [1]⟩ .no) rfl
  -- the write drops the clone of its handle's half; the channel keeps a writer
  rw [Runtime.dropHalves_cons_keep _ rfl (by decide), Runtime.dropHalves_nil] at h₂
  refine ⟨_, _, _, _, h₂, rfl, rfl, rfl, ?_, ?_⟩ <;> dsimp only [List.nil_append] <;>
  -- the read drops the message's own half, then the clone of the read half
  rw [Runtime.dropHalves_cons_keep (h := ⟨Runtime.create.nextChannelId, .write⟩) _ rfl (by decide),
    Runtime.dropHalves_nil,
    Runtime.dropHalves_cons_keep _ rfl (by decide), Runtime.dropHalves_nil] <;> rfl

/-- Node 0 creates a channel and writes to it a message of no bytes carrying a
clone of its write handle. A read with an eight-byte guest memory, the handle
buffer at its end and a handle capacity of `2 ^ 29` passes both checks, takes
the message off the queue, and fails with `ErrInvalidArgs` writing its handle. -/
theorem channel_read_handles_capacity_wraps_run :
    ∃ tr s s₁, Run Runtime.step Runtime.create tr s ∧ s.queue 0 = some [[]] ∧
      (∃ mem', WasmInterface.channelReadUtil s 0 (List.replicate 8 0) 2 0 0 0 8 (2 ^ 29 * 1) 4 .no [3] =
        some (s₁, mem', .error .errInvalidArgs)) ∧ s₁.queue 0 = some [] := by
  have h₁ := (Run.nil : Run Runtime.step Runtime.create [] Runtime.create).snoc
    (a := .channelCreate 0 Label.publicUntrusted .no 1 2) rfl
  have h₂ := h₁.snoc (a := .channelWrite 0 1 ⟨[], [1]⟩ .no) rfl
  rw [Runtime.dropHalves_cons_keep _ rfl (by decide), Runtime.dropHalves_nil] at h₂
  refine ⟨_, _, _, h₂, rfl, (@WasmInterface.channel_read_handles_capacity_wraps _ _ 0
    (List.replicate 8 0) 2 0 0 0 8 4 1 .no [3] ⟨[], [3]⟩ (by decide) (by decide) rfl (by decide)).2, ?_⟩
  -- the read drops the message's own half, then the clone of the read half
  dsimp only [List.nil_append]
  rw [Runtime.dropHalves_cons_keep (h := ⟨Runtime.create.nextChannelId, .write⟩) _ rfl (by decide),
    Runtime.dropHalves_nil, Runtime.dropHalves_cons_keep _ rfl (by decide), Runtime.dropHalves_nil]
  rfl

end Oak
