import Oak.Functions.Lookup
import Oak.Functions.Policy
import Oak.Lib.Bytes
import Oak.Lib.Batch

/-! The host side of the Oak Functions ABI (oak_functions/loader/src/server.rs): the state a
Wasm invocation runs in, and the host functions the guest calls, which read and write the
guest's linear memory. To hand the guest a buffer, the host calls back into the guest's own
`alloc` for room, writes the bytes there, and writes the pointer and the length to two
out-parameters the guest passed.

A guest is code that runs against this state and may trap; `handle_invoke` answers with the
response bytes the guest left, whether it returned or trapped. The logger, the extensions and
the instantiation of the module are left out: an invocation starts from the guest memory the
instance exports. -/

namespace Oak.Functions

open Oak.Lib

/-- `oak_functions_abi::proto::OakStatus`. -/
inductive OakStatus
  | unspecified
  | ok
  | errInvalidArgs
  | errInternal
  | errStorageItemNotFound
  | errTensorFlowModelNotFound
  | errBadTensorFlowModelInput
  deriving DecidableEq, Repr

namespace OakStatus

/-- `status as i32`. -/
def toI32 : OakStatus → Int32
  | .unspecified => 0
  | .ok => 1
  | .errInvalidArgs => 2
  | .errInternal => 3
  | .errStorageItemNotFound => 4
  | .errTensorFlowModelNotFound => 5
  | .errBadTensorFlowModelInput => 6

/-- `OakStatus::from_i32`. -/
def fromI32 (value : Int32) : Option OakStatus :=
  match value.toInt with
  | 0 => some .unspecified
  | 1 => some .ok
  | 2 => some .errInvalidArgs
  | 3 => some .errInternal
  | 4 => some .errStorageItemNotFound
  | 5 => some .errTensorFlowModelNotFound
  | 6 => some .errBadTensorFlowModelInput
  | _ => none

@[simp] theorem fromI32_toI32 (status : OakStatus) : fromI32 status.toI32 = some status := by
  cases status <;> rfl

end OakStatus

/-- `map_host_errors`: the status code the guest receives. -/
def mapHostErrors (result : Except OakStatus Unit) : Int32 :=
  match result with
  | .error status => status.toI32
  | .ok () => OakStatus.ok.toI32

/-- `WasmState`, with the guest memory in place of the reference to it, and without its
logger and extensions. -/
structure WasmState where
  requestBytes : List UInt8
  responseBytes : List UInt8
  lookupData : LookupData
  memory : List UInt8

/-- The guest's exported `alloc`, as the host calls it: from the guest memory and a length,
the memory after the guest ran and the pointer it returned. -/
abbrev Alloc := List UInt8 → UInt32 → List UInt8 × UInt32

/-- The host calls `invoke_index` dispatches to, with their arguments. -/
inductive HostCall
  | readRequest (destPtrPtr destLenPtr : UInt32)
  | writeResponse (bufPtr bufLen : UInt32)
  | storageGetItem (keyPtr keyLen valuePtrPtr valueLenPtr : UInt32)
  | writeLogMessage (bufPtr bufLen : UInt32)
  deriving DecidableEq, Repr

namespace WasmState

/-- `validate_range`. -/
def validateRange (s : WasmState) (addr offset : UInt32) : Except OakStatus Unit :=
  if addr.toNat + offset.toNat ≤ s.memory.length then .ok () else .error .errInvalidArgs

/-- `write_buffer_to_wasm_memory`. -/
def writeBufferToWasmMemory (s : WasmState) (source : List UInt8) (dest : UInt32) :
    Except OakStatus WasmState :=
  match s.validateRange dest source.length.toUInt32 with
  | .error e => .error e
  | .ok () =>
    match memSet s.memory dest.toNat source with
    | some memory => .ok { s with memory }
    | none => .error .errInvalidArgs

/-- `write_u32_to_wasm_memory`. -/
def writeU32ToWasmMemory (s : WasmState) (value address : UInt32) : Except OakStatus WasmState :=
  match memSet s.memory address.toNat (writeU32 value) with
  | some memory => .ok { s with memory }
  | none => .error .errInvalidArgs

variable (alloc : Alloc)

/-- The end `read_request` and `storage_get_item` share: room for `bytes` from the guest's
`alloc`, the bytes written there, then the pointer and the length written to the guest's
out-parameters. A failed write leaves what was done before it. -/
def writeAllocated (s : WasmState) (bytes : List UInt8) (ptrPtr lenPtr : UInt32) :
    Except OakStatus Unit × WasmState :=
  let (memory, destPtr) := alloc s.memory bytes.length.toUInt32
  let s := { s with memory }
  match s.writeBufferToWasmMemory bytes destPtr with
  | .error e => (.error e, s)
  | .ok s =>
    match s.writeU32ToWasmMemory destPtr ptrPtr with
    | .error e => (.error e, s)
    | .ok s =>
      match s.writeU32ToWasmMemory bytes.length.toUInt32 lenPtr with
      | .error e => (.error e, s)
      | .ok s => (.ok (), s)

/-- `read_request`. -/
def readRequest (s : WasmState) (destPtrPtr destLenPtr : UInt32) : Except OakStatus Unit × WasmState :=
  s.writeAllocated alloc s.requestBytes destPtrPtr destLenPtr

/-- `write_response`. -/
def writeResponse (s : WasmState) (bufPtr bufLen : UInt32) : Except OakStatus Unit × WasmState :=
  match memGet s.memory bufPtr.toNat bufLen.toNat with
  | none => (.error .errInvalidArgs, s)
  | some response => (.ok (), { s with responseBytes := response })

/-- `write_log_message`: the message is only logged, once it is found to be UTF-8. -/
def writeLogMessage (s : WasmState) (bufPtr bufLen : UInt32) : Except OakStatus Unit :=
  match memGet s.memory bufPtr.toNat bufLen.toNat with
  | none => .error .errInvalidArgs
  | some rawLog => if ByteArray.validateUTF8 ⟨rawLog.toArray⟩ then .ok () else .error .errInvalidArgs

/-- `storage_get_item`. -/
def storageGetItem (s : WasmState) (keyPtr keyLen valuePtrPtr valueLenPtr : UInt32) :
    Except OakStatus Unit × WasmState :=
  match memGet s.memory keyPtr.toNat keyLen.toNat with
  | none => (.error .errInvalidArgs, s)
  | some key =>
    match s.lookupData.get key with
    | some value => s.writeAllocated alloc value valuePtrPtr valueLenPtr
    | none => (.error .errStorageItemNotFound, s)

/-- `invoke_index` on the four host functions of the ABI. -/
def invokeIndex (s : WasmState) : HostCall → Int32 × WasmState
  | .readRequest destPtrPtr destLenPtr =>
    let (result, s) := s.readRequest alloc destPtrPtr destLenPtr
    (mapHostErrors result, s)
  | .writeResponse bufPtr bufLen =>
    let (result, s) := s.writeResponse bufPtr bufLen
    (mapHostErrors result, s)
  | .storageGetItem keyPtr keyLen valuePtrPtr valueLenPtr =>
    let (result, s) := s.storageGetItem alloc keyPtr keyLen valuePtrPtr valueLenPtr
    (mapHostErrors result, s)
  | .writeLogMessage bufPtr bufLen => (mapHostErrors (s.writeLogMessage bufPtr bufLen), s)

end WasmState

/-- Guest code: it returns a value or traps, and leaves the host state as it was then. -/
abbrev GuestM := EStateM Unit WasmState

/-- `WasmHandler::handle_invoke`, once the module is instantiated with `memory`: the guest's
`main` runs on the request body, and the response is a success holding the bytes the guest
last wrote as its response, whether `main` returned or trapped. -/
def handleInvoke (memory : List UInt8) (lookupData : LookupData) (main : GuestM Unit) (requestBody : List UInt8) :
    Response :=
  match main.run ⟨requestBody, [], lookupData, memory⟩ with
  | .ok () s => Response.create .success s.responseBytes
  | .error () s => Response.create .success s.responseBytes

theorem handleInvoke_of_run {memory : List UInt8} {lookupData : LookupData} {main : GuestM Unit}
    {requestBody : List UInt8} {s : WasmState} (h : main.run ⟨requestBody, [], lookupData, memory⟩ = .ok () s) :
    handleInvoke memory lookupData main requestBody = Response.create .success s.responseBytes := by
  rw [handleInvoke, h]

/-! ### Writes into guest memory -/

namespace WasmState

variable (alloc : Alloc) {s : WasmState}

theorem validateRange_eq_ok {addr offset : UInt32} :
    s.validateRange addr offset = .ok () ↔ addr.toNat + offset.toNat ≤ s.memory.length := by
  unfold validateRange
  split
  · next h => simp [h]
  · next h => simp [h]

theorem writeBufferToWasmMemory_of_memSet {source memory : List UInt8} {dest : UInt32}
    (hs : source.length < 2 ^ 32) (h : memSet s.memory dest.toNat source = some memory) :
    s.writeBufferToWasmMemory source dest = .ok { s with memory } := by
  have hlen : source.length.toUInt32.toNat = source.length := by
    rw [Nat.toUInt32_eq, UInt32.toNat_ofNat', Nat.mod_eq_of_lt hs]
  have hin : dest.toNat + source.length.toUInt32.toNat ≤ s.memory.length := by
    rw [hlen]
    exact (memSet_eq_some h).1
  rw [writeBufferToWasmMemory, validateRange_eq_ok.2 hin]
  simp only [h]

theorem writeU32ToWasmMemory_of_memSet {value address : UInt32} {memory : List UInt8}
    (h : memSet s.memory address.toNat (writeU32 value) = some memory) :
    s.writeU32ToWasmMemory value address = .ok { s with memory } := by
  rw [writeU32ToWasmMemory, h]

theorem writeAllocated_eq {bytes memory : List UInt8} {ptr ptrPtr lenPtr : UInt32}
    (halloc : alloc s.memory bytes.length.toUInt32 = (memory, ptr)) (hb : bytes.length < 2 ^ 32)
    (hroom : ptr.toNat + bytes.length ≤ memory.length) (hp : ptrPtr.toNat + 4 ≤ memory.length)
    (hl : lenPtr.toNat + 4 ≤ memory.length) :
    ∃ m₁ m₂ m₃, memSet memory ptr.toNat bytes = some m₁ ∧ memSet m₁ ptrPtr.toNat (writeU32 ptr) = some m₂ ∧
      memSet m₂ lenPtr.toNat (writeU32 bytes.length.toUInt32) = some m₃ ∧
      s.writeAllocated alloc bytes ptrPtr lenPtr = (.ok (), { s with memory := m₃ }) := by
  obtain ⟨m₁, h₁, hlen₁⟩ := memSet_of_le hroom
  obtain ⟨m₂, h₂, hlen₂⟩ := @memSet_of_le _ m₁ (writeU32 ptr) ptrPtr.toNat (by rw [length_writeU32]; omega)
  obtain ⟨m₃, h₃, -⟩ := @memSet_of_le _ m₂ (writeU32 bytes.length.toUInt32) lenPtr.toNat
    (by rw [length_writeU32]; omega)
  refine ⟨m₁, m₂, m₃, h₁, h₂, h₃, ?_⟩
  unfold writeAllocated
  rw [halloc]
  dsimp only
  rw [writeBufferToWasmMemory_of_memSet hb h₁]
  dsimp only
  rw [writeU32ToWasmMemory_of_memSet h₂]
  dsimp only
  rw [writeU32ToWasmMemory_of_memSet h₃]

end WasmState

/-- What the guest finds in `memory` once the host handed it `bytes`: the bytes in the room
at `ptr`, and `ptr` and the length in its two out-parameters. -/
structure Handed (memory bytes : List UInt8) (ptr ptrPtr lenPtr : UInt32) : Prop where
  bytes_at : memGet memory ptr.toNat bytes.length = some bytes
  ptr_at : memGet memory ptrPtr.toNat 4 = some (writeU32 ptr)
  len_at : memGet memory lenPtr.toNat 4 = some (writeU32 bytes.length.toUInt32)

/-- Two ranges of memory that do not meet. -/
def Apart (p n q m : ℕ) : Prop := p + n ≤ q ∨ q + m ≤ p

theorem handed_of_memSet {memory m₁ m₂ m₃ bytes : List UInt8} {ptr ptrPtr lenPtr : UInt32}
    (h₁ : memSet memory ptr.toNat bytes = some m₁) (h₂ : memSet m₁ ptrPtr.toNat (writeU32 ptr) = some m₂)
    (h₃ : memSet m₂ lenPtr.toNat (writeU32 bytes.length.toUInt32) = some m₃)
    (hroomPtr : Apart ptr.toNat bytes.length ptrPtr.toNat 4) (hroomLen : Apart ptr.toNat bytes.length lenPtr.toNat 4)
    (hslots : Apart ptrPtr.toNat 4 lenPtr.toNat 4) :
    Handed m₃ bytes ptr ptrPtr lenPtr where
  bytes_at := by
    rw [memGet_memSet_of_disjoint h₃ (by rw [length_writeU32]; exact hroomLen),
      memGet_memSet_of_disjoint h₂ (by rw [length_writeU32]; exact hroomPtr)]
    exact memGet_memSet_self h₁
  ptr_at := by
    rw [memGet_memSet_of_disjoint h₃ (by rw [length_writeU32]; exact hslots)]
    simpa using memGet_memSet_self h₂
  len_at := by simpa using memGet_memSet_self h₃

/-! ### What the guest cannot change -/

namespace WasmState

variable (alloc : Alloc) {s s' : WasmState}

theorem writeBufferToWasmMemory_memory {source : List UInt8} {dest : UInt32}
    (h : s.writeBufferToWasmMemory source dest = .ok s') : ∃ memory, s' = { s with memory } := by
  unfold writeBufferToWasmMemory at h
  split at h
  · cases h
  · split at h
    · next memory _ =>
      cases h
      exact ⟨memory, rfl⟩
    · cases h

theorem writeU32ToWasmMemory_memory {value address : UInt32} (h : s.writeU32ToWasmMemory value address = .ok s') :
    ∃ memory, s' = { s with memory } := by
  unfold writeU32ToWasmMemory at h
  split at h
  · next memory _ =>
    cases h
    exact ⟨memory, rfl⟩
  · cases h

theorem writeAllocated_memory (bytes : List UInt8) (ptrPtr lenPtr : UInt32) :
    ∃ memory, (s.writeAllocated alloc bytes ptrPtr lenPtr).2 = { s with memory } := by
  unfold writeAllocated
  dsimp only
  split
  · exact ⟨_, rfl⟩
  · next s₁ h₁ =>
    obtain ⟨m₁, rfl⟩ := writeBufferToWasmMemory_memory h₁
    split
    · exact ⟨m₁, rfl⟩
    · next s₂ h₂ =>
      obtain ⟨m₂, rfl⟩ := writeU32ToWasmMemory_memory h₂
      split
      · exact ⟨m₂, rfl⟩
      · next s₃ h₃ =>
        obtain ⟨m₃, rfl⟩ := writeU32ToWasmMemory_memory h₃
        exact ⟨m₃, rfl⟩

theorem invokeIndex_keeps (call : HostCall) :
    (s.invokeIndex alloc call).2.requestBytes = s.requestBytes ∧ (s.invokeIndex alloc call).2.lookupData = s.lookupData := by
  cases call with
  | readRequest destPtrPtr destLenPtr =>
    obtain ⟨memory, h⟩ := s.writeAllocated_memory alloc s.requestBytes destPtrPtr destLenPtr
    simp only [invokeIndex, readRequest, h, and_self]
  | writeResponse bufPtr bufLen =>
    simp only [invokeIndex, writeResponse]
    split <;> exact ⟨rfl, rfl⟩
  | storageGetItem keyPtr keyLen valuePtrPtr valueLenPtr =>
    simp only [invokeIndex, storageGetItem]
    split
    · exact ⟨rfl, rfl⟩
    · split
      · next value _ =>
        obtain ⟨memory, h⟩ := s.writeAllocated_memory alloc value valuePtrPtr valueLenPtr
        rw [h]
        exact ⟨rfl, rfl⟩
      · exact ⟨rfl, rfl⟩
  | writeLogMessage bufPtr bufLen => exact ⟨rfl, rfl⟩

end WasmState

theorem host_calls_keep_request_and_lookup_data (alloc : Alloc) (s : WasmState) (calls : List HostCall) :
    (feed (WasmState.invokeIndex alloc) s calls).2.requestBytes = s.requestBytes ∧
      (feed (WasmState.invokeIndex alloc) s calls).2.lookupData = s.lookupData := by
  apply feed_invariant (fun t : WasmState => t.requestBytes = s.requestBytes ∧ t.lookupData = s.lookupData)
  · intro t call ht
    obtain ⟨hreq, hdata⟩ := t.invokeIndex_keeps alloc call
    exact ⟨hreq.trans ht.1, hdata.trans ht.2⟩
  · exact ⟨rfl, rfl⟩

/-! ### What the host needs of the guest -/

/-- The guest's `alloc` as the host relies on it: the room it returns lies inside the memory
after the call and apart from the guest's stack `[lo, hi)`, and memory does not shrink. -/
structure Alloc.Sound (alloc : Alloc) (lo hi : ℕ) : Prop where
  inside : ∀ memory len, (alloc memory len).2.toNat + len.toNat ≤ (alloc memory len).1.length
  away : ∀ memory len, Apart (alloc memory len).2.toNat len.toNat lo (hi - lo)
  grows : ∀ memory len, memory.length ≤ (alloc memory len).1.length

/-- Two out-parameters of four bytes in the guest's stack `[lo, hi)`, apart from each other. -/
structure Slots (lo hi : ℕ) (ptrPtr lenPtr : UInt32) : Prop where
  ptr_lo : lo ≤ ptrPtr.toNat
  ptr_hi : ptrPtr.toNat + 4 ≤ hi
  len_lo : lo ≤ lenPtr.toNat
  len_hi : lenPtr.toNat + 4 ≤ hi
  apart : Apart ptrPtr.toNat 4 lenPtr.toNat 4

theorem apart_of_stack {p n lo hi q : ℕ} (h : Apart p n lo (hi - lo)) (hlo : lo ≤ q) (hhi : q + 4 ≤ hi) :
    Apart p n q 4 := by
  unfold Apart at h ⊢
  omega

section Handing

variable {alloc : Alloc} {lo hi : ℕ} (ha : alloc.Sound lo hi) {ptrPtr lenPtr : UInt32} (hslots : Slots lo hi ptrPtr lenPtr)
include ha hslots

/-- The host hands the guest `bytes`: with a sound `alloc` and out-parameters in the stack of
a memory that holds it, the writes succeed, and the guest finds the bytes, the pointer and
the length. -/
theorem WasmState.writeAllocated_handed {s : WasmState} (hmem : hi ≤ s.memory.length) {bytes : List UInt8}
    (hb : bytes.length < 2 ^ 32) :
    ∃ memory, s.writeAllocated alloc bytes ptrPtr lenPtr = (.ok (), { s with memory }) ∧
      Handed memory bytes (alloc s.memory bytes.length.toUInt32).2 ptrPtr lenPtr ∧ hi ≤ memory.length := by
  have hlen : bytes.length.toUInt32.toNat = bytes.length := by
    rw [Nat.toUInt32_eq, UInt32.toNat_ofNat', Nat.mod_eq_of_lt hb]
  have hinside := ha.inside s.memory bytes.length.toUInt32
  have haway := ha.away s.memory bytes.length.toUInt32
  have hgrows := ha.grows s.memory bytes.length.toUInt32
  rw [hlen] at hinside haway
  obtain ⟨m₁, m₂, m₃, h₁, h₂, h₃, heq⟩ :=
    @WasmState.writeAllocated_eq alloc s bytes _ _ ptrPtr lenPtr (Prod.ext rfl rfl) hb hinside
      (by have := hslots.ptr_hi; omega) (by have := hslots.len_hi; omega)
  refine ⟨m₃, heq, handed_of_memSet h₁ h₂ h₃ ?_ ?_ hslots.apart, ?_⟩
  · exact apart_of_stack haway hslots.ptr_lo hslots.ptr_hi
  · exact apart_of_stack haway hslots.len_lo hslots.len_hi
  · rw [(memSet_eq_some h₃).2, (memSet_eq_some h₂).2, (memSet_eq_some h₁).2]
    omega

end Handing

end Oak.Functions
