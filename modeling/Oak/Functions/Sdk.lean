import Oak.Functions.Host

/-! The guest side of the Oak Functions ABI (oak_functions/sdk/oak_functions/src/lib.rs): the
SDK functions a Wasm module calls. Each makes one host call, decodes the status code it gets
back, and, where the host handed it a buffer, loads the pointer and the length from its two
out-parameters. The buffer it returns is the room the host wrote to, as `from_alloc_buffer`
takes it over: a pointer and a length into guest memory, whose bytes are what memory holds
there.

The SDK's out-parameters start out null and zero; the host overwrites both before the SDK
loads them, so those first stores are left out. -/

namespace Oak.Functions

open Oak.Lib

/-- `result_from_status`. -/
def resultFromStatus {α : Type} (status : Int32) (val : α) : Except OakStatus α :=
  match OakStatus.fromI32 status with
  | some .ok => .ok val
  | some status => .error status
  | none => .error .unspecified

/-- A vector or a slice of the guest: its pointer and its length. -/
structure Buffer where
  ptr : UInt32
  len : UInt32
  deriving DecidableEq, Repr

namespace Sdk

variable (alloc : Alloc)

/-- A call into a host function, which returns its status code. -/
def hostCall (call : HostCall) : GuestM Int32 := fun s =>
  let (status, s) := s.invokeIndex alloc call
  .ok status s

/-- A 32-bit load from guest memory; out of bounds it traps. -/
def loadU32 (p : UInt32) : GuestM UInt32 := fun s =>
  match memGet s.memory p.toNat 4 with
  | some bs => .ok (readU32 bs) s
  | none => .error () s

/-- `read_request`, its locals `buf_ptr` and `buf_len` at `bufPtrPtr` and `bufLenPtr`. -/
def readRequest (bufPtrPtr bufLenPtr : UInt32) : GuestM (Except OakStatus Buffer) := do
  let statusCode ← hostCall alloc (.readRequest bufPtrPtr bufLenPtr)
  match OakStatus.fromI32 statusCode with
  | none => pure (.error .errInternal)
  | some .ok =>
    let bufPtr ← loadU32 bufPtrPtr
    let bufLen ← loadU32 bufLenPtr
    pure (.ok ⟨bufPtr, bufLen⟩)
  | some status => pure (.error status)

/-- `write_response`. -/
def writeResponse (buf : Buffer) : GuestM (Except OakStatus Unit) := do
  let status ← hostCall alloc (.writeResponse buf.ptr buf.len)
  pure (resultFromStatus status ())

/-- `storage_get_item`, its locals `value_ptr` and `value_len` at `valuePtrPtr` and
`valueLenPtr`. -/
def storageGetItem (key : Buffer) (valuePtrPtr valueLenPtr : UInt32) : GuestM (Except OakStatus (Option Buffer)) := do
  let statusCode ← hostCall alloc (.storageGetItem key.ptr key.len valuePtrPtr valueLenPtr)
  match OakStatus.fromI32 statusCode with
  | none => pure (.error .errInternal)
  | some .ok =>
    let valuePtr ← loadU32 valuePtrPtr
    let valueLen ← loadU32 valueLenPtr
    pure (.ok (some ⟨valuePtr, valueLen⟩))
  | some .errStorageItemNotFound => pure (.ok none)
  | some status => pure (.error status)

/-- `write_log_message`. -/
def writeLogMessage (message : Buffer) : GuestM (Except OakStatus Unit) := do
  let status ← hostCall alloc (.writeLogMessage message.ptr message.len)
  pure (resultFromStatus status ())

end Sdk

/-- `expect`: the value, or a panic, which traps. -/
def expect {α : Type} (result : Except OakStatus α) : GuestM α :=
  match result with
  | .ok a => pure a
  | .error _ => throw ()

/-- `Vec::default()`: no bytes, at the dangling pointer of an empty allocation. -/
def Buffer.empty : Buffer := ⟨1, 0⟩

/-- The bytes of a buffer, as the guest reads them from memory. -/
def Buffer.bytes (memory : List UInt8) (buf : Buffer) : Option (List UInt8) :=
  memGet memory buf.ptr.toNat buf.len.toNat

/-! ### The SDK calls, run -/

namespace Sdk

variable (alloc : Alloc) {s : WasmState}

theorem hostCall_run (call : HostCall) :
    (hostCall alloc call).run s = .ok (s.invokeIndex alloc call).1 (s.invokeIndex alloc call).2 := rfl

theorem loadU32_run {p x : UInt32} (h : memGet s.memory p.toNat 4 = some (writeU32 x)) :
    (loadU32 p).run s = .ok x s := by
  simp only [EStateM.run, loadU32, h, readU32_writeU32]

@[simp] theorem resultFromStatus_toI32 {α : Type} (status : OakStatus) (val : α) :
    resultFromStatus status.toI32 val = if status = .ok then .ok val else .error status := by
  cases status <;> rfl

theorem length_toUInt32 {l : List UInt8} (h : l.length < 2 ^ 32) : l.length.toUInt32.toNat = l.length := by
  rw [Nat.toUInt32_eq, UInt32.toNat_ofNat', Nat.mod_eq_of_lt h]

theorem writeResponse_run {buf : Buffer} {bytes : List UInt8} (h : buf.bytes s.memory = some bytes) :
    (writeResponse alloc buf).run s = .ok (.ok ()) { s with responseBytes := bytes } := by
  rw [Buffer.bytes] at h
  have hcall : (hostCall alloc (.writeResponse buf.ptr buf.len)).run s =
      .ok OakStatus.ok.toI32 { s with responseBytes := bytes } := by
    rw [hostCall_run]
    simp only [WasmState.invokeIndex, WasmState.writeResponse, h]
    rfl
  simp only [writeResponse, EStateM.run_bind, hcall, resultFromStatus_toI32]
  rfl

theorem storageGetItem_run_of_get_none {key : Buffer} {keyBytes : List UInt8} {valuePtrPtr valueLenPtr : UInt32}
    (hkey : key.bytes s.memory = some keyBytes) (hget : s.lookupData.get keyBytes = none) :
    (storageGetItem alloc key valuePtrPtr valueLenPtr).run s = .ok (.ok none) s := by
  rw [Buffer.bytes] at hkey
  have hcall : (hostCall alloc (.storageGetItem key.ptr key.len valuePtrPtr valueLenPtr)).run s =
      .ok OakStatus.errStorageItemNotFound.toI32 s := by
    rw [hostCall_run]
    simp only [WasmState.invokeIndex, WasmState.storageGetItem, hkey, hget]
    rfl
  simp only [storageGetItem, EStateM.run_bind, hcall, OakStatus.fromI32_toI32]
  rfl

section Sound

variable {alloc} {lo hi : ℕ} (ha : alloc.Sound lo hi) {ptrPtr lenPtr : UInt32} (hslots : Slots lo hi ptrPtr lenPtr)
include ha hslots

theorem readRequest_run (hmem : hi ≤ s.memory.length) (hreq : s.requestBytes.length < 2 ^ 32) :
    ∃ memory buf, (readRequest alloc ptrPtr lenPtr).run s = .ok (.ok buf) { s with memory } ∧
      buf.bytes memory = some s.requestBytes ∧ hi ≤ memory.length := by
  obtain ⟨memory, heq, hhanded, hlen⟩ := s.writeAllocated_handed ha hslots hmem hreq
  refine ⟨memory, ⟨(alloc s.memory s.requestBytes.length.toUInt32).2, s.requestBytes.length.toUInt32⟩, ?_, ?_, hlen⟩
  · have hcall : (hostCall alloc (.readRequest ptrPtr lenPtr)).run s = .ok OakStatus.ok.toI32 { s with memory } := by
      rw [hostCall_run]
      simp only [WasmState.invokeIndex, WasmState.readRequest, heq]
      rfl
    simp only [readRequest, EStateM.run_bind, hcall, OakStatus.fromI32_toI32,
      loadU32_run (s := { s with memory }) hhanded.ptr_at, loadU32_run (s := { s with memory }) hhanded.len_at]
    rfl
  · rw [Buffer.bytes, length_toUInt32 hreq]
    exact hhanded.bytes_at

theorem storageGetItem_run_of_get {key : Buffer} {keyBytes value : List UInt8} (hmem : hi ≤ s.memory.length)
    (hkey : key.bytes s.memory = some keyBytes) (hget : s.lookupData.get keyBytes = some value)
    (hval : value.length < 2 ^ 32) :
    ∃ memory buf, (storageGetItem alloc key ptrPtr lenPtr).run s = .ok (.ok (some buf)) { s with memory } ∧
      buf.bytes memory = some value ∧ hi ≤ memory.length := by
  rw [Buffer.bytes] at hkey
  obtain ⟨memory, heq, hhanded, hlen⟩ := s.writeAllocated_handed ha hslots hmem hval
  refine ⟨memory, ⟨(alloc s.memory value.length.toUInt32).2, value.length.toUInt32⟩, ?_, ?_, hlen⟩
  · have hcall : (hostCall alloc (.storageGetItem key.ptr key.len ptrPtr lenPtr)).run s =
        .ok OakStatus.ok.toI32 { s with memory } := by
      rw [hostCall_run]
      simp only [WasmState.invokeIndex, WasmState.storageGetItem, hkey, hget, heq]
      rfl
    simp only [storageGetItem, EStateM.run_bind, hcall, OakStatus.fromI32_toI32,
      loadU32_run (s := { s with memory }) hhanded.ptr_at, loadU32_run (s := { s with memory }) hhanded.len_at]
    rfl
  · rw [Buffer.bytes, length_toUInt32 hval]
    exact hhanded.bytes_at

end Sound

end Sdk

end Oak.Functions
