import Oak.Wasm.Read
import Oak.Label
import Oak.Lib.Protobuf

/-! The SDK's reads that try twice (sdk/rust/oak/src/lib.rs) against the host.
The first attempt uses the buffers the SDK has. When the host answers that a
buffer is too small, with the sizes it needs, the SDK reserves more room and
tries once more. `channel_read_util` reserves the needed size less the
vector's length, as `Vec::reserve` counts from the length, so the second attempt
reads the message. `read_label_with` reserves the needed size less the
capacity, on an empty vector. For a label of up to twice the 1024 bytes it
starts with, the room left already covers that, the capacity stays, and the
second attempt fails again. -/

namespace Oak

open Oak.Lib

/-! ### Labels on the wire -/

/-- prost's encoding of a `Tag`: the one field of its `oneof`, if any. -/
def Tag.encode (t : Tag) : List UInt8 :=
  match t.tag with
  | none => []
  | some (.webAssemblyModuleTag hash) => messageField 1 (some (bytesField 1 hash))
  | some (.webAssemblyModuleSignatureTag publicKey) => messageField 2 (some (bytesField 1 publicKey))
  | some (.tlsEndpointTag authority) => messageField 3 (some (bytesField 1 authority.toUTF8.toList))
  | some (.publicKeyIdentityTag publicKey) => messageField 4 (some (bytesField 1 publicKey))
  | some .topTag => messageField 6 (some [])

/-- prost's encoding of a `Label`: each tag as one element of its repeated field. -/
def Label.encode (l : Label) : List UInt8 :=
  l.confidentialityTags.flatMap (fun t => messageField 1 (some t.encode)) ++
    l.integrityTags.flatMap fun t => messageField 2 (some t.encode)

namespace WasmInterface

/-- `LabelReadStatus`. -/
inductive LabelReadStatus
  | success (label : List UInt8)
  | needsCapacity (size : ℕ)

/-- `serialize_label`: encoding into a vector cannot fail. -/
def serializeLabel (label : Label) (capacity : ℕ) : LabelReadStatus :=
  if label.encode.length > capacity then .needsCapacity label.encode.length else .success label.encode

/-- `write_label_to_memory`. -/
def writeLabelToMemory (mem : List UInt8) (label : LabelReadStatus) (dest actualLengthAddr : ℕ) :
    List UInt8 × Except OakStatus Unit :=
  let actualLength := match label with
    | .success label => label.length
    | .needsCapacity a => a
  match memSet mem actualLengthAddr (toLE 4 actualLength) with
  | none => (mem, .error .errInvalidArgs)
  | some mem₁ =>
    match label with
    | .success label =>
      match memSet mem₁ dest label with
      | none => (mem₁, .error .errInvalidArgs)
      | some mem₂ => (mem₂, .ok ())
    | .needsCapacity _ => (mem₁, .error .errBufferTooSmall)

/-- `node_label_read`, `node_privilege_read` and `channel_label_read` once the
Runtime gave the label: guest memory after the call, and its status. -/
def labelReadUtil (mem : List UInt8) (label : Label) (dest destCapacity actualLengthAddr : ℕ) :
    List UInt8 × Except OakStatus Unit :=
  match validatePtr mem dest destCapacity with
  | .error e => (mem, .error e)
  | .ok () => writeLabelToMemory mem (serializeLabel label destCapacity) dest actualLengthAddr

/-- Where `channel_read_util` writes in guest memory: the two sizes at their
addresses, `size` bytes at `dest` and `count` handles at `handlesDest`; each
range inside memory, and no two meeting. -/
structure ReadLayout (memLength lenAddr countAddr dest size handlesDest count : ℕ) : Prop where
  len_le : lenAddr + 4 ≤ memLength
  count_le : countAddr + 4 ≤ memLength
  dest_le : dest + size ≤ memLength
  handles_le : handlesDest + count * 8 ≤ memLength
  len_count : lenAddr + 4 ≤ countAddr ∨ countAddr + 4 ≤ lenAddr
  len_dest : lenAddr + 4 ≤ dest ∨ dest + size ≤ lenAddr
  len_handles : lenAddr + 4 ≤ handlesDest ∨ handlesDest + count * 8 ≤ lenAddr
  count_dest : countAddr + 4 ≤ dest ∨ dest + size ≤ countAddr
  count_handles : countAddr + 4 ≤ handlesDest ∨ handlesDest + count * 8 ≤ countAddr
  dest_handles : dest + size ≤ handlesDest ∨ handlesDest + count * 8 ≤ dest

theorem writeRead_success_memory {mem : List UInt8} {lenAddr countAddr dest destCapacity handlesDest : ℕ}
    {m : NodeMessage}
    (hl : ReadLayout mem.length lenAddr countAddr dest m.bytes.length handlesDest m.handles.length) :
    ∃ mem', writeRead mem dest destCapacity lenAddr handlesDest countAddr (some (.success m)) = (mem', .ok ()) ∧
      memGet mem' lenAddr 4 = some (toLE 4 m.bytes.length) ∧
      memGet mem' countAddr 4 = some (toLE 4 m.handles.length) ∧
      memGet mem' dest m.bytes.length = some m.bytes ∧
      memGet mem' handlesDest (m.handles.length * 8) = some (channelReadHandleBytes m.handles) := by
  obtain ⟨mem₁, h₁, hl₁⟩ :=
    memSet_of_le (show lenAddr + (toLE 4 m.bytes.length).length ≤ mem.length by rw [length_toLE]; exact hl.len_le)
  obtain ⟨mem₂, h₂, hl₂⟩ :=
    memSet_of_le (show countAddr + (toLE 4 m.handles.length).length ≤ mem₁.length by
      rw [length_toLE, hl₁]; exact hl.count_le)
  obtain ⟨mem₃, h₃, hl₃⟩ :=
    memSet_of_le (show dest + m.bytes.length ≤ mem₂.length by rw [hl₂, hl₁]; exact hl.dest_le)
  obtain ⟨mem₄, h₄, -⟩ :=
    memSet_of_le (show handlesDest + (channelReadHandleBytes m.handles).length ≤ mem₃.length by
      rw [length_channelReadHandleBytes, hl₃, hl₂, hl₁]; exact hl.handles_le)
  have hw : writeRead mem dest destCapacity lenAddr handlesDest countAddr (some (.success m)) = (mem₄, .ok ()) := by
    simp only [writeRead, readSizes, h₁, h₂, h₃, h₄]
  have hlen₄ := length_channelReadHandleBytes m.handles
  refine ⟨mem₄, hw, ?_, ?_, ?_, ?_⟩
  · -- each value is read back past the writes that followed it, which lie apart from it
    rw [memGet_memSet_of_disjoint h₄ (by rw [hlen₄]; exact hl.len_handles),
      memGet_memSet_of_disjoint h₃ hl.len_dest,
      memGet_memSet_of_disjoint h₂ (by rw [length_toLE]; exact hl.len_count)]
    simpa using memGet_memSet_self h₁
  · rw [memGet_memSet_of_disjoint h₄ (by rw [hlen₄]; exact hl.count_handles),
      memGet_memSet_of_disjoint h₃ hl.count_dest]
    simpa using memGet_memSet_self h₂
  · rw [memGet_memSet_of_disjoint h₄ (by rw [hlen₄]; exact hl.dest_handles)]
    exact memGet_memSet_self h₃
  · rw [← hlen₄]
    exact memGet_memSet_self h₄

theorem writeRead_needsCapacity_memory {mem : List UInt8} {lenAddr countAddr dest destCapacity handlesDest : ℕ}
    {b h : ℕ} (hl : ReadLayout mem.length lenAddr countAddr dest 0 handlesDest 0) :
    ∃ mem', writeRead mem dest destCapacity lenAddr handlesDest countAddr (some (.needsCapacity b h)) =
        (mem', .error (if b > destCapacity then .errBufferTooSmall else .errHandleSpaceTooSmall)) ∧
      memGet mem' lenAddr 4 = some (toLE 4 b) ∧ memGet mem' countAddr 4 = some (toLE 4 h) := by
  obtain ⟨mem₁, h₁, hl₁⟩ :=
    memSet_of_le (show lenAddr + (toLE 4 b).length ≤ mem.length by rw [length_toLE]; exact hl.len_le)
  obtain ⟨mem₂, h₂, -⟩ :=
    memSet_of_le (show countAddr + (toLE 4 h).length ≤ mem₁.length by rw [length_toLE, hl₁]; exact hl.count_le)
  refine ⟨mem₂, ?_, ?_, ?_⟩
  · simp only [writeRead, readSizes, h₁, h₂]
    split <;> rfl
  · rw [memGet_memSet_of_disjoint h₂ (by rw [length_toLE]; exact hl.len_count)]
    simpa using memGet_memSet_self h₁
  · simpa using memGet_memSet_self h₂

/-- What the host leaves in guest memory after a label read with the buffer
and the size apart inside memory: the label's size as an `u32`, and, when it
fits, the label's encoding, with status `Ok`; otherwise `ErrBufferTooSmall`. -/
theorem labelReadUtil_memory {mem : List UInt8} {label : Label} {dest destCapacity lenAddr : ℕ}
    (hdest : dest + destCapacity ≤ mem.length) (hlen : lenAddr + 4 ≤ mem.length)
    (hapart : lenAddr + 4 ≤ dest ∨ dest + destCapacity ≤ lenAddr) :
    memGet (labelReadUtil mem label dest destCapacity lenAddr).1 lenAddr 4 = some (toLE 4 label.encode.length) ∧
      (labelReadUtil mem label dest destCapacity lenAddr).2 =
        (if label.encode.length > destCapacity then .error .errBufferTooSmall else .ok ()) ∧
      (label.encode.length ≤ destCapacity →
        memGet (labelReadUtil mem label dest destCapacity lenAddr).1 dest label.encode.length = some label.encode) := by
  have hv : validatePtr mem dest destCapacity = .ok () := if_neg (by omega)
  obtain ⟨mem₁, h₁, hl₁⟩ :=
    memSet_of_le (show lenAddr + (toLE 4 label.encode.length).length ≤ mem.length by rw [length_toLE]; exact hlen)
  by_cases hfit : label.encode.length > destCapacity
  · have hr : labelReadUtil mem label dest destCapacity lenAddr = (mem₁, .error .errBufferTooSmall) := by
      simp only [labelReadUtil, hv, writeLabelToMemory, serializeLabel, if_pos hfit, h₁]
    rw [hr, if_pos hfit]
    exact ⟨by simpa using memGet_memSet_self h₁, rfl, fun hle => absurd hle (by omega)⟩
  · obtain ⟨mem₂, h₂, -⟩ := memSet_of_le (show dest + label.encode.length ≤ mem₁.length by rw [hl₁]; omega)
    have hr : labelReadUtil mem label dest destCapacity lenAddr = (mem₂, .ok ()) := by
      simp only [labelReadUtil, hv, writeLabelToMemory, serializeLabel, if_neg hfit, h₁, h₂]
    rw [hr, if_neg hfit]
    refine ⟨?_, rfl, fun _ => memGet_memSet_self h₂⟩
    rw [memGet_memSet_of_disjoint h₂ (by omega)]
    simpa using memGet_memSet_self h₁

end WasmInterface

/-! ### Vectors -/

namespace Sdk

/-- `Vec::reserve(additional)` on a vector of `len` items and capacity `cap`:
the capacity stays when the room left suffices, and otherwise becomes what the
growth policy `grow` gives for the `len + additional` items needed. -/
def reserve (grow : ℕ → ℕ → ℕ) (len cap additional : ℕ) : ℕ :=
  if additional ≤ cap - len then cap else grow cap (len + additional)

/-- A growth policy gives at least the room asked for, as `Vec::reserve` promises. -/
def GrowsEnough (grow : ℕ → ℕ → ℕ) : Prop := ∀ cap need, need ≤ grow cap need

/-- The growth policy of the standard library for bytes: double the capacity,
or what is needed if more, and at least eight. -/
def stdGrow (cap need : ℕ) : ℕ := max (2 * cap) (max need 8)

theorem growsEnough_stdGrow : GrowsEnough stdGrow := by
  intro cap need
  unfold stdGrow
  omega

theorem le_reserve {grow : ℕ → ℕ → ℕ} (hg : GrowsEnough grow) {len cap : ℕ} (hlen : len ≤ cap)
    (additional : ℕ) : len + additional ≤ reserve grow len cap additional := by
  unfold reserve
  split
  · omega
  · exact hg _ _

/-! ### `read_label_with` -/

/-- What a label read tells the SDK, for a buffer of capacity `cap`: the
status, the size the host wrote to `actual_size`, and the bytes in the buffer. -/
def labelAnswer (label : Label) (cap : ℕ) : OakStatus × ℕ × List UInt8 :=
  if label.encode.length > cap then (.errBufferTooSmall, label.encode.length, [])
  else (.ok, label.encode.length, label.encode)

/-- The loop of `read_label_with` over `resized`, with `fetch` the host call on a
buffer of the given capacity: the bytes handed to `Label::deserialize`, or the
status. The vector stays empty until the last step, so `reserve` counts from
zero. -/
def readLabelLoop (grow : ℕ → ℕ → ℕ) (fetch : ℕ → OakStatus × ℕ × List UInt8) :
    List Bool → ℕ → Except OakStatus (List UInt8)
  | [], _ => .error .errInternal
  | resized :: rest, cap =>
    match fetch cap with
    | (.ok, actualSize, written) => .ok (written.take actualSize)
    | (.errBufferTooSmall, actualSize, _) =>
      if !resized then readLabelLoop grow fetch rest (reserve grow 0 cap (actualSize - cap))
      else .error .errBufferTooSmall
    | (s, _, _) => .error s

/-- `read_label_with`, starting from `Vec::with_capacity(1024)`. -/
def readLabelWith (grow : ℕ → ℕ → ℕ) (fetch : ℕ → OakStatus × ℕ × List UInt8) : Except OakStatus (List UInt8) :=
  readLabelLoop grow fetch [false, true] 1024

theorem readLabelWith_labelAnswer (grow : ℕ → ℕ → ℕ) (label : Label) :
    readLabelWith grow (labelAnswer label) =
      if label.encode.length ≤ 1024 ∨ label.encode.length ≤ reserve grow 0 1024 (label.encode.length - 1024)
      then .ok label.encode else .error .errBufferTooSmall := by
  by_cases h₁ : label.encode.length ≤ 1024
  · have hfit : ¬label.encode.length > 1024 := by omega
    simp [readLabelWith, readLabelLoop, labelAnswer, hfit, h₁]
  · -- the first attempt asks for the size; the second uses what `reserve` left
    have hbig : label.encode.length > 1024 := by omega
    by_cases h₂ : label.encode.length ≤ reserve grow 0 1024 (label.encode.length - 1024)
    · have hfit : ¬label.encode.length > reserve grow 0 1024 (label.encode.length - 1024) := by omega
      simp [readLabelWith, readLabelLoop, labelAnswer, hbig, hfit, h₂]
    · have hover : label.encode.length > reserve grow 0 1024 (label.encode.length - 1024) := by omega
      simp [readLabelWith, readLabelLoop, labelAnswer, hbig, hover, h₁, h₂]

theorem readLabelWith_fails_of_le {grow : ℕ → ℕ → ℕ} {label : Label} (h₁ : 1024 < label.encode.length)
    (h₂ : label.encode.length ≤ 2048) : readLabelWith grow (labelAnswer label) = .error .errBufferTooSmall := by
  have hkeep : reserve grow 0 1024 (label.encode.length - 1024) = 1024 := by
    rw [reserve, if_pos (by omega)]
  rw [readLabelWith_labelAnswer, hkeep, if_neg (by omega)]

theorem readLabelWith_stdGrow_fails {label : Label} (h : 1024 < label.encode.length) :
    readLabelWith stdGrow (labelAnswer label) = .error .errBufferTooSmall := by
  have hgrow : reserve stdGrow 0 1024 (label.encode.length - 1024) < label.encode.length := by
    unfold reserve stdGrow
    split <;> omega
  rw [readLabelWith_labelAnswer, if_neg (by omega)]

/-! ### `channel_read_util` -/

/-- What a `channel_read` call tells the SDK: the status, the sizes the host
wrote to `actual_size` and `actual_handle_count`, and the bytes in the data and
handle buffers. -/
structure ReadAnswer where
  status : OakStatus
  actualSize : ℕ
  actualHandleCount : ℕ
  data : List UInt8
  handleBytes : List UInt8

/-- The loop of `channel_read_util` over `resized`, with `read` the host call
given the data capacity and the handle count, on the caller's buffer of length
`bufLen` and capacity `bufCap` and a `handles_buf` of capacity `handlesBufCap`:
the bytes and the handles read, or the status; `none` where `unpack` panics.
`handles_buf` stays empty until the last step, so its `reserve` counts from
zero. -/
def channelReadLoop (grow : ℕ → ℕ → ℕ) (read : ℕ → ℕ → ReadAnswer) (bufLen : ℕ) :
    List Bool → ℕ → ℕ → Option (Except OakStatus (List UInt8 × List Handle))
  | [], _, _ => some (.error .errInternal)
  | resized :: rest, bufCap, handlesBufCap =>
    let a := read bufCap (handlesBufCap / 8)
    match a.status with
    | .ok =>
      (unpack (a.handleBytes.take (a.actualHandleCount * 8)) a.actualHandleCount).map fun handles =>
        .ok (a.data.take a.actualSize, handles)
    | .errChannelEmpty =>
      (unpack (a.handleBytes.take (a.actualHandleCount * 8)) a.actualHandleCount).map fun _ =>
        .error .errChannelEmpty
    | .errBufferTooSmall | .errHandleSpaceTooSmall =>
      if !resized then
        let bufCap := if a.actualSize > bufCap then reserve grow bufLen bufCap (a.actualSize - bufLen) else bufCap
        let handlesBufCap :=
          if a.actualHandleCount > handlesBufCap / 8 then reserve grow 0 handlesBufCap (a.actualHandleCount * 8)
          else handlesBufCap
        channelReadLoop grow read bufLen rest bufCap handlesBufCap
      else some (.error a.status)
    | s => some (.error s)

/-- `channel_read_util` of the SDK. -/
def channelReadUtil (grow : ℕ → ℕ → ℕ) (read : ℕ → ℕ → ReadAnswer) (bufLen bufCap handlesBufCap : ℕ) :
    Option (Except OakStatus (List UInt8 × List Handle)) :=
  channelReadLoop grow read bufLen [false, true] bufCap handlesBufCap

/-- What the host answers a `channel_read` on a channel whose front message is
`m`, with room for `bytesCapacity` bytes and `handlesCapacity` handles: the
sizes it needs when either does not fit, and otherwise the message, its handles
eight bytes each. The sizes are read back as `u32`s. -/
def channelAnswer (m : NodeMessage) (bytesCapacity handlesCapacity : ℕ) : ReadAnswer :=
  if m.bytes.length > bytesCapacity ∨ m.handles.length > handlesCapacity then
    ⟨if m.bytes.length > bytesCapacity then .errBufferTooSmall else .errHandleSpaceTooSmall,
      m.bytes.length % 2 ^ 32, m.handles.length % 2 ^ 32, [], []⟩
  else
    ⟨.ok, m.bytes.length % 2 ^ 32, m.handles.length % 2 ^ 32, m.bytes,
      WasmInterface.channelReadHandleBytes m.handles⟩

section ChannelRead

variable {grow : ℕ → ℕ → ℕ} {m : NodeMessage} (hb : m.bytes.length < 2 ^ 32) (hh : m.handles.length < 2 ^ 32)
include hb hh

theorem channelReadLoop_of_fits (bufLen : ℕ) (resized : Bool) (rest : List Bool) {bufCap handlesBufCap : ℕ}
    (hfit : m.bytes.length ≤ bufCap ∧ m.handles.length ≤ handlesBufCap / 8) :
    channelReadLoop grow (channelAnswer m) bufLen (resized :: rest) bufCap handlesBufCap = some (.ok (m.bytes, m.handles)) := by
  have hanswer : channelAnswer m bufCap (handlesBufCap / 8) =
      ⟨.ok, m.bytes.length, m.handles.length, m.bytes, WasmInterface.channelReadHandleBytes m.handles⟩ := by
    rw [channelAnswer, if_neg (by omega), Nat.mod_eq_of_lt hb, Nat.mod_eq_of_lt hh]
  have hunpack : unpack ((WasmInterface.channelReadHandleBytes m.handles).take (m.handles.length * 8))
      m.handles.length = some m.handles := by
    rw [WasmInterface.channelReadHandleBytes_eq_pack, List.take_of_length_le (by rw [length_pack]),
      ← List.append_nil (pack m.handles), unpack_pack_append]
  rw [channelReadLoop, hanswer]
  dsimp only
  rw [hunpack, Option.map_some, List.take_length]

theorem channelReadLoop_resized (hg : GrowsEnough grow) {bufLen bufCap : ℕ} (hlen : bufLen ≤ bufCap)
    (handlesBufCap : ℕ) (rest : List Bool) (hover : m.bytes.length > bufCap ∨ m.handles.length > handlesBufCap / 8) :
    ∃ bufCap' handlesBufCap', m.bytes.length ≤ bufCap' ∧ m.handles.length ≤ handlesBufCap' / 8 ∧
      channelReadLoop grow (channelAnswer m) bufLen (false :: rest) bufCap handlesBufCap =
        channelReadLoop grow (channelAnswer m) bufLen rest bufCap' handlesBufCap' := by
  -- `reserve` counts from the length, so each vector gets room for what was asked
  have hbuf : m.bytes.length ≤
      if m.bytes.length > bufCap then reserve grow bufLen bufCap (m.bytes.length - bufLen) else bufCap := by
    split
    · have := le_reserve hg hlen (m.bytes.length - bufLen)
      omega
    · omega
  have hhandles : m.handles.length ≤
      (if m.handles.length > handlesBufCap / 8 then reserve grow 0 handlesBufCap (m.handles.length * 8)
        else handlesBufCap) / 8 := by
    split
    · have := le_reserve hg (Nat.zero_le handlesBufCap) (m.handles.length * 8)
      omega
    · omega
  refine ⟨_, _, hbuf, hhandles, ?_⟩
  -- the host answers with one of the two statuses that make the SDK grow its vectors
  by_cases hbig : m.bytes.length > bufCap
  · have hanswer : channelAnswer m bufCap (handlesBufCap / 8) =
        ⟨.errBufferTooSmall, m.bytes.length, m.handles.length, [], []⟩ := by
      rw [channelAnswer, if_pos hover, if_pos hbig, Nat.mod_eq_of_lt hb, Nat.mod_eq_of_lt hh]
    rw [channelReadLoop, hanswer]
    rfl
  · have hanswer : channelAnswer m bufCap (handlesBufCap / 8) =
        ⟨.errHandleSpaceTooSmall, m.bytes.length, m.handles.length, [], []⟩ := by
      rw [channelAnswer, if_pos hover, if_neg hbig, Nat.mod_eq_of_lt hb, Nat.mod_eq_of_lt hh]
    rw [channelReadLoop, hanswer]
    rfl

/-- With a growth policy that gives the room asked for, and whatever buffers
the caller starts with, `channel_read_util` reads the front message, once the
first attempt made room for it if needed. -/
theorem channelReadUtil_channelAnswer (hg : GrowsEnough grow) {bufLen bufCap : ℕ} (hlen : bufLen ≤ bufCap)
    (handlesBufCap : ℕ) :
    channelReadUtil grow (channelAnswer m) bufLen bufCap handlesBufCap = some (.ok (m.bytes, m.handles)) := by
  by_cases hfit : m.bytes.length ≤ bufCap ∧ m.handles.length ≤ handlesBufCap / 8
  · exact channelReadLoop_of_fits hb hh bufLen false [true] hfit
  · obtain ⟨bufCap', handlesBufCap', hb', hh', heq⟩ :=
      channelReadLoop_resized hb hh hg hlen handlesBufCap [true] (by omega)
    rw [channelReadUtil, heq]
    exact channelReadLoop_of_fits hb hh bufLen true [] ⟨hb', hh'⟩

end ChannelRead

/-- A first attempt with no room for a message of three bytes and one handle
makes room under the standard growth policy, and the second reads it. -/
theorem channelReadUtil_channelAnswer_retried :
    ([1, 2, 3] : List UInt8).length < 2 ^ 32 ∧ ([5] : List Handle).length < 2 ^ 32 ∧ GrowsEnough stdGrow ∧
      0 ≤ 0 ∧ channelReadUtil stdGrow (channelAnswer ⟨[1, 2, 3], [5]⟩) 0 0 0 = some (.ok ([1, 2, 3], [5])) :=
  ⟨by decide, by decide, growsEnough_stdGrow, le_refl 0,
    channelReadUtil_channelAnswer (m := ⟨[1, 2, 3], [5]⟩) (by decide) (by decide) growsEnough_stdGrow (le_refl 0) 0⟩

end Sdk

/-- The label of a Node trusted by 40 WebAssembly modules: 40 integrity tags,
each a 32-byte module hash. -/
def fortyModulesLabel : Label :=
  ⟨[], (List.range 40).map fun i => ⟨some (.webAssemblyModuleTag (List.replicate 32 (UInt8.ofNat i)))⟩⟩

/-- The label of 40 module tags encodes to 1520 bytes. The first attempt of
`read_label_with` gets `ErrBufferTooSmall` with that size; `reserve(1520 -
1024)` on the empty vector of 1024 bytes keeps the capacity, and the second
attempt fails the same way, whatever the growth policy. -/
theorem read_label_with_fails_large_label :
    fortyModulesLabel.encode.length = 1520 ∧
      Sdk.labelAnswer fortyModulesLabel 1024 = (.errBufferTooSmall, 1520, []) ∧
      ∀ grow, Sdk.readLabelWith grow (Sdk.labelAnswer fortyModulesLabel) = .error .errBufferTooSmall := by
  have hlen : fortyModulesLabel.encode.length = 1520 := by decide +kernel
  refine ⟨hlen, ?_, fun grow => ?_⟩
  · rw [Sdk.labelAnswer, if_pos (by omega), hlen]
  · rw [Sdk.readLabelWith_labelAnswer, if_neg (by rw [hlen, Sdk.reserve, if_pos (by omega)]; omega)]

end Oak
