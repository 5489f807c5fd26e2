import Oak.Prost.Varint

/-! prost's messages on a contiguous buffer (third_party/prost/src/encoding.rs,
message.rs, and the `Message` impl prost-derive writes), for the `Entry` of
lookup data (oak_functions/proto/lookup_data.proto). Every read returns what is
left of the buffer, never longer than before (`Rest`), so the loops over a
group's fields and over a message's fields stop. `Entry::encode_length_delimited`
is read back by `Entry::decode_length_delimited`, whatever follows it. -/

namespace Oak.Prost

open Oak.Lib

/-- `WireType`. -/
inductive WireType
  | varint
  | sixtyFourBit
  | lengthDelimited
  | startGroup
  | endGroup
  | thirtyTwoBit
  deriving DecidableEq, Repr

namespace WireType

/-- The name `{:?}` prints. -/
def debugName : WireType → String
  | varint => "Varint"
  | sixtyFourBit => "SixtyFourBit"
  | lengthDelimited => "LengthDelimited"
  | startGroup => "StartGroup"
  | endGroup => "EndGroup"
  | thirtyTwoBit => "ThirtyTwoBit"

/-- `wire_type as u32`. -/
def toU32 : WireType → UInt32
  | varint => 0
  | sixtyFourBit => 1
  | lengthDelimited => 2
  | startGroup => 3
  | endGroup => 4
  | thirtyTwoBit => 5

/-- `WireType::try_from`. -/
def tryFrom (value : UInt64) : Except DecodeError WireType :=
  match value.toNat with
  | 0 => .ok varint
  | 1 => .ok sixtyFourBit
  | 2 => .ok lengthDelimited
  | 3 => .ok startGroup
  | 4 => .ok endGroup
  | 5 => .ok thirtyTwoBit
  | _ => .error (.new s!"invalid wire type value: {value}")

end WireType

/-- `decode_key`: the tag, the wire type, and what is left. -/
def decodeKey (buf : List UInt8) : Except DecodeError (UInt32 × WireType × List UInt8) :=
  match decodeVarint buf with
  | .error e => .error e
  | .ok (key, rest) =>
    if key > 0xFFFFFFFF then .error (.new s!"invalid key value: {key}") else
    match WireType.tryFrom (key &&& 0x07) with
    | .error e => .error e
    | .ok wireType =>
      let tag := key.toUInt32 >>> 3
      if tag < 1 then .error (.new "invalid tag value: 0") else .ok (tag, wireType, rest)

/-- `check_wire_type`. -/
def checkWireType (expected actual : WireType) : Except DecodeError Unit :=
  if expected ≠ actual then
    .error (.new ("invalid wire type: " ++ actual.debugName ++ " (expected " ++ expected.debugName ++ ")"))
  else .ok ()

theorem decodeKey_length_lt {buf rest : List UInt8} {tag : UInt32} {wireType : WireType}
    (h : decodeKey buf = .ok (tag, wireType, rest)) : rest.length < buf.length := by
  unfold decodeKey at h
  split at h
  · cases h
  · next key rest' hv =>
    split at h
    · cases h
    · split at h
      · cases h
      · dsimp only at h
        split at h
        · cases h
        · cases h
          exact decodeVarint_length_lt hv

/-- What is left of `buf` after a read: a `Buf` only ever advances. -/
abbrev Rest (buf : List UInt8) := {rest : List UInt8 // rest.length ≤ buf.length}

/-- The loop of `skip_field` over a group: fields, each skipped by `skip`,
up to the group's end. -/
def skipGroup (skip : WireType → UInt32 → (buf : List UInt8) → Except DecodeError (Rest buf))
    (tag : UInt32) (buf : List UInt8) : Except DecodeError (Rest buf) :=
  match h : decodeKey buf with
  | .error e => .error e
  | .ok (innerTag, .endGroup, rest) =>
    if innerTag ≠ tag then .error (.new "unexpected end group tag")
    else .ok ⟨rest, (decodeKey_length_lt h).le⟩
  | .ok (innerTag, innerWireType, rest) =>
    match skip innerWireType innerTag rest with
    | .error e => .error e
    | .ok ⟨rest', h'⟩ =>
      match skipGroup skip tag rest' with
      | .error e => .error e
      | .ok ⟨rest'', h''⟩ => .ok ⟨rest'', by have := decodeKey_length_lt h; omega⟩
termination_by buf.length
decreasing_by have := decodeKey_length_lt h; omega

/-- `skip_field`, with `depth` levels of recursion left (`DecodeContext`). -/
def skipField : ℕ → WireType → UInt32 → (buf : List UInt8) → Except DecodeError (Rest buf)
  | 0, _, _, _ => .error (.new "recursion limit reached")
  | depth + 1, wireType, tag, buf =>
    let len : Except DecodeError (UInt64 × Rest buf) :=
      match wireType with
      | .varint =>
        match h : decodeVarint buf with
        | .error e => .error e
        | .ok (_, rest) => .ok (0, ⟨rest, (decodeVarint_length_lt h).le⟩)
      | .thirtyTwoBit => .ok (4, ⟨buf, le_rfl⟩)
      | .sixtyFourBit => .ok (8, ⟨buf, le_rfl⟩)
      | .lengthDelimited =>
        match h : decodeVarint buf with
        | .error e => .error e
        | .ok (len, rest) => .ok (len, ⟨rest, (decodeVarint_length_lt h).le⟩)
      | .startGroup => (skipGroup (skipField depth) tag buf).map fun rest => (0, rest)
      | .endGroup => .error (.new "unexpected end group tag")
    match len with
    | .error e => .error e
    | .ok (len, ⟨rest, h⟩) =>
      if len.toNat > rest.length then .error (.new "buffer underflow")
      else .ok ⟨rest.drop len.toNat, by rw [List.length_drop]; omega⟩

/-- `bytes::merge`: the bytes read, which replace the field's, and what is left. -/
def bytesMerge (wireType : WireType) (buf : List UInt8) : Except DecodeError (List UInt8 × Rest buf) :=
  match checkWireType .lengthDelimited wireType with
  | .error e => .error e
  | .ok () =>
    match h : decodeVarint buf with
    | .error e => .error e
    | .ok (len, rest) =>
      if len.toNat > rest.length then .error (.new "buffer underflow")
      else .ok (rest.take len.toNat,
        ⟨rest.drop len.toNat, by have := decodeVarint_length_lt h; rw [List.length_drop]; omega⟩)

section Merge

variable {M : Type}

/-- The `while` loop of `merge_loop`: `merge` until no more than `limit` bytes
remain. Each `merge` reads a key first, so it shortens the buffer. -/
def mergeUntil (merge : M → (buf : List UInt8) → Except DecodeError (M × {rest : List UInt8 // rest.length < buf.length}))
    (limit : ℕ) (msg : M) (buf : List UInt8) : Except DecodeError (M × List UInt8) :=
  if limit < buf.length then
    match merge msg buf with
    | .error e => .error e
    | .ok (msg', ⟨rest, _⟩) => mergeUntil merge limit msg' rest
  else .ok (msg, buf)
termination_by buf.length

/-- `merge_loop`: a length, then fields up to it. -/
def mergeLoop (merge : M → (buf : List UInt8) → Except DecodeError (M × {rest : List UInt8 // rest.length < buf.length}))
    (msg : M) (buf : List UInt8) : Except DecodeError (M × List UInt8) :=
  match decodeVarint buf with
  | .error e => .error e
  | .ok (len, buf) =>
    if len.toNat > buf.length then .error (.new "buffer underflow") else
    let limit := buf.length - len.toNat
    match mergeUntil merge limit msg buf with
    | .error e => .error e
    | .ok (msg, buf) =>
      if buf.length ≠ limit then .error (.new "delimited length exceeded") else .ok (msg, buf)

/-- The closure `message::merge` hands `merge_loop`: a key, then the field. -/
def mergeKeyField (mergeField : M → UInt32 → WireType → (buf : List UInt8) → Except DecodeError (M × Rest buf))
    (msg : M) (buf : List UInt8) : Except DecodeError (M × {rest : List UInt8 // rest.length < buf.length}) :=
  match h : decodeKey buf with
  | .error e => .error e
  | .ok (tag, wireType, rest) =>
    match mergeField msg tag wireType rest with
    | .error e => .error e
    | .ok (msg', ⟨rest', h'⟩) => .ok (msg', ⟨rest', by have := decodeKey_length_lt h; omega⟩)

/-- `message::merge`, with `depth` levels of recursion left; `mergeField depth`
is the message's `merge_field`. -/
def messageMerge (mergeField : ℕ → M → UInt32 → WireType → (buf : List UInt8) → Except DecodeError (M × Rest buf))
    (depth : ℕ) (wireType : WireType) (msg : M) (buf : List UInt8) : Except DecodeError (M × List UInt8) :=
  match checkWireType .lengthDelimited wireType with
  | .error e => .error e
  | .ok () =>
    if depth = 0 then .error (.new "recursion limit reached")
    else mergeLoop (mergeKeyField (mergeField (depth - 1))) msg buf

/-- `RECURSION_LIMIT`. -/
def recursionLimit : ℕ := 100

/-- `Message::decode_length_delimited` from the message's `default`: the
message, and what is left of the buffer. -/
def decodeLengthDelimited (mergeField : ℕ → M → UInt32 → WireType → (buf : List UInt8) → Except DecodeError (M × Rest buf))
    (default : M) (buf : List UInt8) : Except DecodeError (M × List UInt8) :=
  messageMerge mergeField recursionLimit .lengthDelimited default buf

end Merge

/-! ### Encoding -/

/-- `u64::leading_zeros`. -/
def leadingZeros (x : UInt64) : ℕ := if x = 0 then 64 else 63 - x.toNat.log2

/-- `encoded_len_varint`: the number of bytes `encode_varint` takes, from the
position of the highest set bit. -/
def encodedLenVarint (value : UInt64) : ℕ := ((leadingZeros (value ||| 1) ^^^ 63) * 9 + 73) / 64

/-- `encode_key`. -/
def encodeKey (tag : UInt32) (wireType : WireType) : List UInt8 :=
  encodeVarint ((tag <<< 3) ||| wireType.toU32).toUInt64

/-- `key_len`. -/
def keyLen (tag : UInt32) : ℕ := encodedLenVarint (tag <<< 3).toUInt64

/-- `bytes::encode`. -/
def bytesEncode (tag : UInt32) (value : List UInt8) : List UInt8 :=
  encodeKey tag .lengthDelimited ++ encodeVarint value.length.toUInt64 ++ value

/-- `bytes::encoded_len`. -/
def bytesEncodedLen (tag : UInt32) (value : List UInt8) : ℕ :=
  keyLen tag + encodedLenVarint value.length.toUInt64 + value.length

/-! ### `Entry` -/

/-- `oak.functions.lookup_data.Entry`. -/
structure Entry where
  key : List UInt8
  value : List UInt8
  deriving DecidableEq, Repr

namespace Entry

/-- `Entry::default`. -/
def default : Entry := ⟨[], []⟩

/-- The `merge_field` prost-derive writes for `Entry`: `key` is field 1,
`value` field 2, and any other field is skipped. -/
def mergeField (depth : ℕ) (msg : Entry) (tag : UInt32) (wireType : WireType) (buf : List UInt8) :
    Except DecodeError (Entry × Rest buf) :=
  if tag = 1 then
    ((bytesMerge wireType buf).map fun (key, rest) => ({ msg with key }, rest)).mapError
      fun e => e.push "Entry" "key"
  else if tag = 2 then
    ((bytesMerge wireType buf).map fun (value, rest) => ({ msg with value }, rest)).mapError
      fun e => e.push "Entry" "value"
  else (skipField depth wireType tag buf).map fun rest => (msg, rest)

/-- `Entry::encode_raw`: each field that is not empty. -/
def encodeRaw (e : Entry) : List UInt8 :=
  (if e.key ≠ [] then bytesEncode 1 e.key else []) ++ (if e.value ≠ [] then bytesEncode 2 e.value else [])

/-- `Entry::encoded_len`. -/
def encodedLen (e : Entry) : ℕ :=
  (if e.key ≠ [] then bytesEncodedLen 1 e.key else 0) + (if e.value ≠ [] then bytesEncodedLen 2 e.value else 0)

/-- `Entry::encode_length_delimited` into a `BytesMut`, which always has room. -/
def encodeLengthDelimited (e : Entry) : List UInt8 :=
  encodeVarint e.encodedLen.toUInt64 ++ e.encodeRaw

/-- `Entry::decode_length_delimited`. -/
def decodeLengthDelimited (buf : List UInt8) : Except DecodeError (Entry × List UInt8) :=
  Prost.decodeLengthDelimited mergeField default buf

end Entry

/-! ### Lengths -/

theorem checkWireType_self (wireType : WireType) : checkWireType wireType wireType = .ok () := by
  simp [checkWireType]

theorem tryFrom_toU32 (wireType : WireType) : WireType.tryFrom wireType.toU32.toUInt64 = .ok wireType := by
  cases wireType <;> rfl

theorem toU32_lt (wireType : WireType) : wireType.toU32.toNat < 8 := by
  cases wireType <;> decide

theorem toNat_shiftLeft_three {tag : UInt32} (h : tag.toNat < 2 ^ 29) : (tag <<< 3).toNat = 8 * tag.toNat := by
  rw [UInt32.toNat_shiftLeft]
  simp only [UInt32.reduceToNat, Nat.reduceMod]
  rw [Nat.shiftLeft_eq, Nat.mod_eq_of_lt (by omega)]
  omega

theorem toNat_key {tag : UInt32} (h : tag.toNat < 2 ^ 29) (wireType : WireType) :
    ((tag <<< 3) ||| wireType.toU32).toUInt64.toNat = 8 * tag.toNat + wireType.toU32.toNat := by
  rw [UInt32.toNat_toUInt64, UInt32.toNat_or, toNat_shiftLeft_three h, show 8 = 2 ^ 3 from rfl,
    ← Nat.two_pow_add_eq_or_of_lt (toU32_lt wireType)]

theorem encodedLenVarint_eq_varintLen (value : UInt64) : encodedLenVarint value = varintLen value.toNat := by
  have hor : (value ||| 1).toNat = value.toNat ||| 1 := by
    rw [UInt64.toNat_or]
    rfl
  have hne : value ||| 1 ≠ 0 := fun h => by
    have := congrArg UInt64.toNat h
    rw [hor, or_one_eq] at this
    simp at this
  have hlog : value.toNat.log2 < 64 := by
    by_cases h0 : value.toNat = 0
    · rw [h0, Nat.log2_zero]
      omega
    · exact (Nat.log2_lt h0).2 value.toNat_lt
  -- `leading_zeros` is `63 - log2`, and the table of the 64 possible values is prost's formula
  have formula : ∀ L < 64, (((63 - L) ^^^ 63) * 9 + 73) / 64 = L / 7 + 1 := by decide
  rw [encodedLenVarint, leadingZeros, if_neg hne, hor, log2_or_one, varintLen_eq_log2]
  exact formula _ hlog

/-- `encoded_len_varint` computes, without encoding, the number of bytes `encode_varint`
writes. -/
theorem encoded_len_varint_eq_length (value : UInt64) : encodedLenVarint value = (encodeVarint value).length := by
  rw [encodedLenVarint_eq_varintLen, encodeVarint_eq_varint, length_varint]

theorem keyLen_eq {tag : UInt32} (h1 : 1 ≤ tag.toNat) (h2 : tag.toNat < 2 ^ 29) (wireType : WireType) :
    keyLen tag = (encodeKey tag wireType).length := by
  rw [keyLen, encodeKey, encodedLenVarint_eq_varintLen, encodeVarint_eq_varint, length_varint,
    varintLen_eq_log2, varintLen_eq_log2, UInt32.toNat_toUInt64, toNat_shiftLeft_three h2,
    toNat_key h2, log2_eight_mul_add (by omega) (toU32_lt wireType)]
  have h0 := log2_eight_mul_add (t := tag.toNat) (w := 0) (by omega) (by omega)
  rw [Nat.add_zero] at h0
  rw [h0]

theorem bytesEncodedLen_eq {tag : UInt32} (h1 : 1 ≤ tag.toNat) (h2 : tag.toNat < 2 ^ 29) (value : List UInt8) :
    bytesEncodedLen tag value = (bytesEncode tag value).length := by
  rw [bytesEncodedLen, bytesEncode, List.length_append, List.length_append, keyLen_eq h1 h2 .lengthDelimited,
    encodedLenVarint_eq_varintLen, encodeVarint_eq_varint, length_varint]

theorem Entry.encodedLen_eq (e : Entry) : e.encodedLen = e.encodeRaw.length := by
  rw [Entry.encodedLen, Entry.encodeRaw, List.length_append]
  congr 1 <;> split <;> simp [bytesEncodedLen_eq]

theorem encodedLenVarint_le_ten (value : UInt64) : encodedLenVarint value ≤ 10 := by
  rw [encodedLenVarint_eq_varintLen]
  exact varintLen_le_ten value.toNat_lt

theorem length_encodeVarint_le_ten (value : UInt64) : (encodeVarint value).length ≤ 10 := by
  rw [encodeVarint_eq_varint, length_varint]
  exact varintLen_le_ten value.toNat_lt

theorem bytesEncodedLen_le (tag : UInt32) (value : List UInt8) : bytesEncodedLen tag value ≤ value.length + 20 := by
  have hkey := encodedLenVarint_le_ten (tag <<< 3).toUInt64
  have hlen := encodedLenVarint_le_ten value.length.toUInt64
  rw [bytesEncodedLen, keyLen]
  omega

theorem Entry.encodedLen_le (e : Entry) : e.encodedLen ≤ e.key.length + e.value.length + 40 := by
  have hkey := bytesEncodedLen_le 1 e.key
  have hvalue := bytesEncodedLen_le 2 e.value
  rw [Entry.encodedLen]
  split <;> split <;> omega

theorem Entry.encodedLen_lt (e : Entry) (h : e.key.length + e.value.length < 2 ^ 63) : e.encodedLen < 2 ^ 64 := by
  have := e.encodedLen_le
  omega

/-! ### Reading back what the encoder writes -/

theorem decodeKey_encodeKey {tag : UInt32} (h1 : 1 ≤ tag.toNat) (h2 : tag.toNat < 2 ^ 29) (wireType : WireType)
    (rest : List UInt8) : decodeKey (encodeKey tag wireType ++ rest) = .ok (tag, wireType, rest) := by
  have hkey := toNat_key h2 wireType
  have hw := toU32_lt wireType
  have hbound : ¬ ((tag <<< 3) ||| wireType.toU32).toUInt64 > 0xFFFFFFFF := by
    rw [gt_iff_lt, UInt64.lt_iff_toNat_lt, hkey]
    simp only [UInt64.reduceToNat]
    omega
  have hwire : ((tag <<< 3) ||| wireType.toU32).toUInt64 &&& 0x07 = wireType.toU32.toUInt64 := by
    apply UInt64.toNat_inj.1
    rw [UInt64.toNat_and, hkey, show (0x07 : UInt64).toNat = 2 ^ 3 - 1 from rfl, Nat.and_two_pow_sub_one_eq_mod,
      UInt32.toNat_toUInt64]
    omega
  have htag : ((tag <<< 3) ||| wireType.toU32).toUInt64.toUInt32 >>> 3 = tag := by
    apply UInt32.toNat_inj.1
    rw [UInt32.toNat_shiftRight, UInt64.toNat_toUInt32, hkey]
    simp only [UInt32.reduceToNat, Nat.reduceMod]
    rw [Nat.shiftRight_eq_div_pow]
    omega
  unfold decodeKey encodeKey
  rw [decodeVarint_encodeVarint_append]
  dsimp only
  rw [if_neg hbound, hwire, tryFrom_toU32]
  dsimp only
  rw [htag, if_neg (by rw [UInt32.lt_iff_toNat_lt]; simp only [UInt32.reduceToNat]; omega)]

theorem bytesMerge_append {value : List UInt8} (hv : value.length < 2 ^ 64) (rest : List UInt8) :
    ∃ h, bytesMerge .lengthDelimited (encodeVarint value.length.toUInt64 ++ (value ++ rest)) =
      .ok (value, ⟨rest, h⟩) := by
  have hlen : value.length.toUInt64.toNat = value.length := by
    rw [Nat.toUInt64_eq, UInt64.toNat_ofNat', Nat.mod_eq_of_lt hv]
  unfold bytesMerge
  simp only [checkWireType_self]
  split
  · next e he =>
    rw [decodeVarint_encodeVarint_append] at he
    cases he
  · next len rest' hdec =>
    rw [decodeVarint_encodeVarint_append] at hdec
    cases hdec
    simp [hlen]
    omega

theorem mergeKeyField_bytesEncode (depth : ℕ) (msg : Entry) {tag : UInt32} (htag : tag = 1 ∨ tag = 2)
    {value : List UInt8} (hv : value.length < 2 ^ 64) (rest : List UInt8) :
    ∃ h, mergeKeyField (Entry.mergeField depth) msg (bytesEncode tag value ++ rest) =
      .ok (if tag = 1 then { msg with key := value } else { msg with value }, ⟨rest, h⟩) := by
  have hk := @decodeKey_encodeKey tag (by rcases htag with rfl | rfl <;> decide)
    (by rcases htag with rfl | rfl <;> decide) .lengthDelimited (encodeVarint value.length.toUInt64 ++ (value ++ rest))
  obtain ⟨hr, hb⟩ := bytesMerge_append hv rest
  have hlt : rest.length < (bytesEncode tag value ++ rest).length := by
    have : 0 < (bytesEncode tag value).length := by
      simp [bytesEncode, encodeKey, encodeVarint_eq_varint, length_varint, varintLen_eq_log2]
    rw [List.length_append]
    omega
  refine ⟨hlt, ?_⟩
  have hbuf : bytesEncode tag value ++ rest =
      encodeKey tag .lengthDelimited ++ (encodeVarint value.length.toUInt64 ++ (value ++ rest)) := by
    simp [bytesEncode]
  unfold mergeKeyField
  split
  · next e he =>
    rw [hbuf, hk] at he
    cases he
  · next tag' wireType rest' hdk =>
    rw [hbuf, hk] at hdk
    cases hdk
    rcases htag with rfl | rfl
    · simp [Entry.mergeField, hb, Except.map, Except.mapError]
    · simp [Entry.mergeField, hb, Except.map, Except.mapError, show (2 : UInt32) ≠ 1 by decide]

section MergeUntil

variable {M : Type}
  {merge : M → (buf : List UInt8) → Except DecodeError (M × {rest : List UInt8 // rest.length < buf.length})}
  {limit : ℕ}

theorem mergeUntil_done {msg : M} {buf : List UInt8} (h : buf.length ≤ limit) :
    mergeUntil merge limit msg buf = .ok (msg, buf) := by
  rw [mergeUntil, if_neg (by omega)]

theorem mergeUntil_step {msg msg' : M} {buf : List UInt8} {rest : {rest : List UInt8 // rest.length < buf.length}}
    (hlt : limit < buf.length) (h : merge msg buf = .ok (msg', rest)) :
    mergeUntil merge limit msg buf = mergeUntil merge limit msg' rest.1 := by
  rw [mergeUntil, if_pos hlt, h]

theorem mergeUntil_length_le {msg msg' : M} {buf rest : List UInt8}
    (h : mergeUntil merge limit msg buf = .ok (msg', rest)) : rest.length ≤ buf.length := by
  induction msg, buf using mergeUntil.induct merge limit with
  | case1 msg buf hlt e he =>
    rw [mergeUntil, if_pos hlt, he] at h
    cases h
  | case2 msg buf hlt msg'' rest' hrest he ih =>
    rw [mergeUntil_step hlt he] at h
    exact (ih h).trans hrest.le
  | case3 msg buf hle =>
    rw [mergeUntil_done (Nat.le_of_not_lt hle)] at h
    cases h
    exact le_rfl

theorem mergeLoop_length_lt {msg msg' : M} {buf rest : List UInt8}
    (h : mergeLoop merge msg buf = .ok (msg', rest)) : rest.length < buf.length := by
  unfold mergeLoop at h
  split at h
  · cases h
  · next len buf' hdec =>
    have hlt := decodeVarint_length_lt hdec
    split at h
    · cases h
    · dsimp only at h
      split at h
      · cases h
      · next msg'' rest' hm =>
        have hle := mergeUntil_length_le hm
        split at h
        · cases h
        · cases h
          omega

end MergeUntil

theorem decodeLengthDelimited_length_lt {M : Type}
    {mergeField : ℕ → M → UInt32 → WireType → (buf : List UInt8) → Except DecodeError (M × Rest buf)}
    {default msg : M} {buf rest : List UInt8} (h : decodeLengthDelimited mergeField default buf = .ok (msg, rest)) :
    rest.length < buf.length := by
  unfold decodeLengthDelimited messageMerge at h
  rw [checkWireType_self] at h
  exact mergeLoop_length_lt h

theorem decodeLengthDelimited_of_body {M : Type}
    {mergeField : ℕ → M → UInt32 → WireType → (buf : List UInt8) → Except DecodeError (M × Rest buf)}
    {default msg : M} {body rest : List UInt8} (hlen : body.length < 2 ^ 64)
    (hfields : mergeUntil (mergeKeyField (mergeField (recursionLimit - 1))) rest.length default (body ++ rest) =
      .ok (msg, rest)) :
    decodeLengthDelimited mergeField default (encodeVarint body.length.toUInt64 ++ body ++ rest) = .ok (msg, rest) := by
  have hbody : body.length.toUInt64.toNat = body.length := by
    rw [Nat.toUInt64_eq, UInt64.toNat_ofNat', Nat.mod_eq_of_lt hlen]
  unfold decodeLengthDelimited messageMerge mergeLoop
  rw [checkWireType_self, List.append_assoc, decodeVarint_encodeVarint_append]
  simp only [hbody, List.length_append, show recursionLimit ≠ 0 by decide, if_false, gt_iff_lt,
    Nat.add_sub_cancel_left]
  rw [if_neg (by omega), hfields]
  simp

theorem mergeUntil_bytesField (depth : ℕ) (msg : Entry) {tag : UInt32} (htag : tag = 1 ∨ tag = 2)
    {value : List UInt8} (hv : value.length < 2 ^ 64) {limit : ℕ} {more : List UInt8} (hmore : limit ≤ more.length) :
    mergeUntil (mergeKeyField (Entry.mergeField depth)) limit msg
        ((if value ≠ [] then bytesEncode tag value else []) ++ more) =
      mergeUntil (mergeKeyField (Entry.mergeField depth)) limit
        (if value ≠ [] then (if tag = 1 then { msg with key := value } else { msg with value }) else msg) more := by
  by_cases hne : value ≠ []
  · obtain ⟨hlt, hm⟩ := mergeKeyField_bytesEncode depth msg htag hv more
    rw [if_pos hne, if_pos hne, mergeUntil_step (by omega) hm]
  · rw [if_neg hne, if_neg hne, List.nil_append]

theorem length_le_fieldLen (tag : UInt32) (value : List UInt8) :
    value.length ≤ if value ≠ [] then bytesEncodedLen tag value else 0 := by
  split
  · rw [bytesEncodedLen]
    omega
  · next h =>
    simp only [ne_eq, Decidable.not_not] at h
    simp [h]

theorem length_lt_of_encodedLen (e : Entry) (h : e.encodedLen < 2 ^ 64) :
    e.key.length < 2 ^ 64 ∧ e.value.length < 2 ^ 64 := by
  have hkey := length_le_fieldLen 1 e.key
  have hvalue := length_le_fieldLen 2 e.value
  rw [Entry.encodedLen] at h
  omega

theorem mergeUntil_encodeRaw (depth : ℕ) (e : Entry) (hkey : e.key.length < 2 ^ 64) (hvalue : e.value.length < 2 ^ 64)
    {limit : ℕ} {more : List UInt8} (hmore : limit ≤ more.length) :
    mergeUntil (mergeKeyField (Entry.mergeField depth)) limit Entry.default (e.encodeRaw ++ more) =
      mergeUntil (mergeKeyField (Entry.mergeField depth)) limit e more := by
  rw [Entry.encodeRaw, List.append_assoc,
    mergeUntil_bytesField _ _ (.inl rfl) hkey (by simp only [List.length_append]; omega),
    mergeUntil_bytesField _ _ (.inr rfl) hvalue hmore]
  congr 1
  obtain ⟨key, value⟩ := e
  by_cases hk : key = [] <;> by_cases hv : value = [] <;> simp [hk, hv, Entry.default]

theorem Entry.decodeLengthDelimited_encodeLengthDelimited (e : Entry) (h : e.encodedLen < 2 ^ 64)
    (rest : List UInt8) : Entry.decodeLengthDelimited (e.encodeLengthDelimited ++ rest) = .ok (e, rest) := by
  obtain ⟨hkey, hvalue⟩ := length_lt_of_encodedLen e h
  -- the length prefix is the length of the fields, which all lie before `rest`
  have hraw : e.encodeRaw.length < 2 ^ 64 := Entry.encodedLen_eq e ▸ h
  rw [Entry.encodeLengthDelimited, Entry.encodedLen_eq]
  apply decodeLengthDelimited_of_body hraw
  rw [mergeUntil_encodeRaw _ e hkey hvalue le_rfl, mergeUntil_done le_rfl]

/-! ### Fields a reader does not know -/

theorem skipField_varint (depth : ℕ) (tag : UInt32) (value : UInt64) (rest : List UInt8) :
    ∃ h, skipField (depth + 1) .varint tag (encodeVarint value ++ rest) = .ok ⟨rest, h⟩ := by
  have hlt := decodeVarint_length_lt (decodeVarint_encodeVarint_append value rest)
  refine ⟨hlt.le, ?_⟩
  unfold skipField
  dsimp only
  split
  · next e he =>
    split at he
    · next e' he' =>
      rw [decodeVarint_encodeVarint_append] at he'
      cases he'
    · cases he
  · next len r hr hlen =>
    split at hlen
    · cases hlen
    · next v rest' hdec =>
      rw [decodeVarint_encodeVarint_append] at hdec
      cases hdec
      cases hlen
      simp

theorem mergeKeyField_unknownVarint (depth : ℕ) (msg : Entry) {tag : UInt32} (h1 : 3 ≤ tag.toNat)
    (h2 : tag.toNat < 2 ^ 29) (value : UInt64) (rest : List UInt8) :
    ∃ h, mergeKeyField (Entry.mergeField (depth + 1)) msg (encodeKey tag .varint ++ encodeVarint value ++ rest) =
      .ok (msg, ⟨rest, h⟩) := by
  have hk := @decodeKey_encodeKey tag (by omega) h2 .varint (encodeVarint value ++ rest)
  obtain ⟨hskip, hs⟩ := skipField_varint depth tag value rest
  have hne1 : tag ≠ 1 := fun h => by subst h; simp at h1
  have hne2 : tag ≠ 2 := fun h => by subst h; simp at h1
  have hlt : rest.length < (encodeKey tag .varint ++ encodeVarint value ++ rest).length := by
    have := (decodeKey_length_lt hk)
    simp only [List.length_append] at this ⊢
    omega
  refine ⟨hlt, ?_⟩
  unfold mergeKeyField
  split
  · next e he =>
    rw [List.append_assoc, hk] at he
    cases he
  · next tag' wireType rest' hdk =>
    rw [List.append_assoc, hk] at hdk
    cases hdk
    simp [Entry.mergeField, hne1, hne2, hs, Except.map]

/-- A reader of `Entry` passes over a varint field it does not know, as a newer writer with a
field of its own puts it after the entry's fields: the reader gets the entry its fields hold. -/
theorem entry_decode_skips_unknown_field (e : Entry) (hsize : e.key.length + e.value.length < 2 ^ 63)
    {tag : UInt32} (h1 : 3 ≤ tag.toNat) (h2 : tag.toNat < 2 ^ 29) (value : UInt64) (rest : List UInt8) :
    Entry.decodeLengthDelimited
        (encodeVarint (e.encodeRaw ++ encodeKey tag .varint ++ encodeVarint value).length.toUInt64 ++
          (e.encodeRaw ++ encodeKey tag .varint ++ encodeVarint value) ++ rest) = .ok (e, rest) := by
  have hraw : e.encodeRaw.length ≤ e.key.length + e.value.length + 40 := by
    rw [← Entry.encodedLen_eq]
    exact e.encodedLen_le
  have hkeyLen := length_encodeVarint_le_ten ((tag <<< 3) ||| WireType.varint.toU32).toUInt64
  have hvalueLen := length_encodeVarint_le_ten value
  rw [← encodeKey] at hkeyLen
  obtain ⟨hkey, hvalue⟩ := length_lt_of_encodedLen e (e.encodedLen_lt hsize)
  obtain ⟨hskip, hs⟩ := mergeKeyField_unknownVarint (recursionLimit - 2) e h1 h2 value rest
  rw [show recursionLimit - 2 + 1 = recursionLimit - 1 from rfl] at hs
  apply decodeLengthDelimited_of_body (by simp only [List.length_append]; omega)
  rw [List.append_assoc, List.append_assoc,
    mergeUntil_encodeRaw _ e hkey hvalue (by simp only [List.length_append]; omega),
    ← List.append_assoc, mergeUntil_step hskip hs, mergeUntil_done le_rfl]

theorem entry_decode_skips_unknown_field_three :
    Entry.decodeLengthDelimited
        (encodeVarint ((⟨[1], [2]⟩ : Entry).encodeRaw ++ encodeKey 3 .varint ++ encodeVarint 7).length.toUInt64 ++
          ((⟨[1], [2]⟩ : Entry).encodeRaw ++ encodeKey 3 .varint ++ encodeVarint 7) ++ []) = .ok (⟨[1], [2]⟩, []) :=
  entry_decode_skips_unknown_field ⟨[1], [2]⟩ (by decide) (by decide) (by decide) 7 []

end Oak.Prost
