import Oak.Functions.Sdk

/-! The key-value lookup example of Oak Functions
(oak_functions/examples/key_value_lookup/module/src/lib.rs): a Wasm module whose `main` reads
the request, looks it up as a key through `storage_get_item`, and writes the value found, or
nothing, as its response. Run by the loader through `handle_invoke`, it answers a request with
the lookup data's value under it, provided the guest's `alloc` never hands out its stack and
the request and the value each fit a `u32` length. -/

namespace Oak.Examples.KeyValueLookup

open Oak.Lib Oak.Functions

/-- Where `main`'s two SDK calls keep their out-parameters, in the guest's stack. -/
structure Frame where
  bufPtrPtr : UInt32
  bufLenPtr : UInt32
  valuePtrPtr : UInt32
  valueLenPtr : UInt32

variable (alloc : Alloc)

/-- `main`. -/
def main (frame : Frame) : GuestM Unit := do
  let request ← expect (← Sdk.readRequest alloc frame.bufPtrPtr frame.bufLenPtr)
  let value ← expect (← Sdk.storageGetItem alloc request frame.valuePtrPtr frame.valueLenPtr)
  let response := value.getD Buffer.empty
  expect (← Sdk.writeResponse alloc response)

section Run

variable {alloc} {lo hi : ℕ} (ha : alloc.Sound lo hi) {frame : Frame}
  (hread : Slots lo hi frame.bufPtrPtr frame.bufLenPtr) (hstore : Slots lo hi frame.valuePtrPtr frame.valueLenPtr)
include ha hread hstore

theorem main_run {s : WasmState} (hmem : hi ≤ s.memory.length) (hreq : s.requestBytes.length < 2 ^ 32)
    (hvalue : ∀ value, s.lookupData.get s.requestBytes = some value → value.length < 2 ^ 32) :
    ∃ memory, (main alloc frame).run s =
      .ok () { s with memory, responseBytes := (s.lookupData.get s.requestBytes).getD [] } := by
  obtain ⟨m₁, request, hr, hbytes, hlen₁⟩ := Sdk.readRequest_run ha hread hmem hreq
  cases hget : s.lookupData.get s.requestBytes with
  | none =>
    -- no value: the response is the empty vector, which lies inside any memory of one byte
    have hs := @Sdk.storageGetItem_run_of_get_none alloc { s with memory := m₁ } request s.requestBytes
      frame.valuePtrPtr frame.valueLenPtr hbytes hget
    have hempty : Buffer.empty.bytes m₁ = some [] := by
      have h1 : Buffer.empty.ptr.toNat + Buffer.empty.len.toNat ≤ m₁.length := by
        have := hread.ptr_hi
        simp only [Buffer.empty, UInt32.reduceToNat]
        omega
      rw [Buffer.bytes, memGet, if_pos h1]
      rfl
    have hw := Sdk.writeResponse_run (s := { s with memory := m₁ }) alloc hempty
    refine ⟨m₁, ?_⟩
    simp only [main, EStateM.run_bind, hr, expect, EStateM.run_pure, hs, Option.getD_none, hw]
  | some value =>
    obtain ⟨m₂, buf, hs, hvalueBytes, -⟩ :=
      Sdk.storageGetItem_run_of_get (s := { s with memory := m₁ }) ha hstore hlen₁ hbytes hget (hvalue value hget)
    have hw := Sdk.writeResponse_run (s := { s with memory := m₂ }) alloc hvalueBytes
    refine ⟨m₂, ?_⟩
    simp only [main, EStateM.run_bind, hr, expect, EStateM.run_pure, hs, Option.getD_some, hw]

/-- Run by the loader, the module answers a request with the value the lookup data holds
under it, or with an empty body when it holds none. -/
theorem key_value_lookup_answers_lookup {memory : List UInt8} (hmem : hi ≤ memory.length) (lookupData : LookupData)
    {request : List UInt8} (hreq : request.length < 2 ^ 32)
    (hvalue : ∀ value, lookupData.get request = some value → value.length < 2 ^ 32) :
    handleInvoke memory lookupData (main alloc frame) request =
      Response.create .success ((lookupData.get request).getD []) := by
  obtain ⟨memory', hrun⟩ := main_run (s := ⟨request, [], lookupData, memory⟩) ha hread hstore hmem hreq hvalue
  exact handleInvoke_of_run hrun

end Run

/-- A guest whose `alloc` always gives the room right above its 16-byte stack, growing memory
to hold it, asked for key `[1]` of lookup data holding `[1] ↦ [2]`. -/
theorem key_value_lookup_answers_lookup_stack_of_sixteen :
    handleInvoke (List.replicate 16 0) ⟨none, (∅ : Entries).insert [1] [2]⟩
        (main (fun memory len => (memory ++ List.replicate (16 + len.toNat) 0, 16)) ⟨0, 4, 8, 12⟩) [1] =
      Response.create .success ((LookupData.get ⟨none, (∅ : Entries).insert [1] [2]⟩ [1]).getD []) :=
  @key_value_lookup_answers_lookup _ 0 16
    ⟨fun memory len => by simp, fun _ _ => Or.inr (by simp), fun memory len => by simp⟩ _
    ⟨by decide, by decide, by decide, by decide, Or.inl (by decide)⟩
    ⟨by decide, by decide, by decide, by decide, Or.inl (by decide)⟩
    _ (by simp) _ _ (by decide) (fun value hv => by
      dsimp only [LookupData.get] at hv
      rw [AList.lookup_insert, Option.some.injEq] at hv
      rw [← hv]
      decide)

end Oak.Examples.KeyValueLookup
