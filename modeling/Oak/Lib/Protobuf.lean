import Oak.Lib.Bytes

/-! The proto3 binary wire format, as an encoder writes it: each present field
is its key, a varint of the field number and the wire type, then its value. A
scalar field that holds its default value (zero, or empty bytes) is left out
altogether, so the size of an encoding depends on which fields are zero.

A reader of canonical encodings comes with it: fields read in the order of
their numbers, and a field whose key is not next takes its default. Each
reader reads back what the matching writer wrote, provided the bytes after it
start with the key of a later field, or are empty (`KeyAbove`). -/

namespace Oak.Lib

/-- A base-128 varint: seven bits a byte, least significant first, the high
bit set on every byte but the last. -/
def varint (n : ℕ) : List UInt8 :=
  if n < 128 then [UInt8.ofNat n] else UInt8.ofNat (n % 128 + 128) :: varint (n / 128)
termination_by n
decreasing_by omega

/-- The number of bytes `varint n` takes. -/
def varintLen (n : ℕ) : ℕ :=
  if n < 128 then 1 else varintLen (n / 128) + 1
termination_by n
decreasing_by omega

theorem length_varint (n : ℕ) : (varint n).length = varintLen n := by
  induction n using Nat.strong_induction_on with
  | _ n ih =>
    rw [varint, varintLen]
    by_cases hn : n < 128
    · rw [if_pos hn, if_pos hn]
      rfl
    · rw [if_neg hn, if_neg hn, List.length_cons, ih (n / 128) (by omega)]

theorem varintLen_of_lt {n : ℕ} (h : n < 128) : varintLen n = 1 := by
  rw [varintLen, if_pos h]

theorem varintLen_le_two {n : ℕ} (h : n < 16384) : varintLen n ≤ 2 := by
  rw [varintLen]
  split
  · omega
  · rw [varintLen_of_lt (by omega)]

/-- The key of field `number` with wire type `wireType`. -/
def fieldKey (number wireType : ℕ) : List UInt8 := varint (number * 8 + wireType)

/-- An `int32` or enumeration field: left out when zero; a negative value is
written as the ten-byte varint of its 64-bit two's complement. -/
def int32Field (number : ℕ) (v : ℤ) : List UInt8 :=
  if v = 0 then [] else fieldKey number 0 ++ varint (v % 2 ^ 64).toNat

/-- A `bytes` field: left out when empty, else length-delimited. -/
def bytesField (number : ℕ) (b : List UInt8) : List UInt8 :=
  if b = [] then [] else fieldKey number 2 ++ varint b.length ++ b

/-- A `fixed64` field: left out when zero, else eight little-endian bytes. -/
def fixed64Field (number : ℕ) (v : UInt64) : List UInt8 :=
  if v = 0 then [] else fieldKey number 1 ++ toLE 8 v.toNat

/-- A message field: left out when absent, else the encoded message,
length-delimited, even when it is empty. -/
def messageField (number : ℕ) : Option (List UInt8) → List UInt8
  | none => []
  | some b => fieldKey number 2 ++ varint b.length ++ b

theorem length_int32Field_of_small {number : ℕ} (hk : number * 8 < 128) {v : ℤ} (h0 : 0 < v)
    (hv : v < 128) : (int32Field number v).length = 2 := by
  have hnat : (v % 2 ^ 64).toNat < 128 := by omega
  rw [int32Field, if_neg (by omega), List.length_append, fieldKey, length_varint, length_varint,
    varintLen_of_lt (by omega), varintLen_of_lt hnat]

theorem length_bytesField {number : ℕ} (hk : number * 8 + 2 < 128) {b : List UInt8} (hb : b ≠ []) :
    (bytesField number b).length = 1 + varintLen b.length + b.length := by
  rw [bytesField, if_neg hb, List.length_append, List.length_append, fieldKey, length_varint,
    length_varint, varintLen_of_lt hk]

theorem length_fixed64Field {number : ℕ} (hk : number * 8 + 1 < 128) (v : UInt64) :
    (fixed64Field number v).length = if v = 0 then 0 else 9 := by
  unfold fixed64Field
  split
  · rfl
  · rw [List.length_append, fieldKey, length_varint, varintLen_of_lt hk, length_toLE]

theorem length_bytesField_le {number : ℕ} (hk : number * 8 + 2 < 128) {b : List UInt8}
    (hb : b.length < 16384) : (bytesField number b).length ≤ 3 + b.length := by
  by_cases h : b = []
  · simp [bytesField, h]
  · rw [length_bytesField hk h]
    have := varintLen_le_two hb
    omega

theorem length_messageField {number : ℕ} (hk : number * 8 + 2 < 128) (b : List UInt8) :
    (messageField number (some b)).length = 1 + varintLen b.length + b.length := by
  rw [messageField, List.length_append, List.length_append, fieldKey, length_varint, length_varint,
    varintLen_of_lt hk]

/-! ### Reading canonical encodings -/

/-- Reading a varint off the front of a buffer. -/
def readVarint : List UInt8 → Option (ℕ × List UInt8)
  | [] => none
  | b :: rest =>
    if b.toNat < 128 then some (b.toNat, rest)
    else (readVarint rest).map fun p => (b.toNat % 128 + 128 * p.1, p.2)

theorem readVarint_varint_append (n : ℕ) (rest : List UInt8) :
    readVarint (varint n ++ rest) = some (n, rest) := by
  induction n using Nat.strong_induction_on with
  | _ n ih =>
    rw [varint]
    by_cases hn : n < 128
    · have hb : (UInt8.ofNat n).toNat = n := by
        rw [UInt8.toNat_ofNat', Nat.mod_eq_of_lt (by omega)]
      simp only [if_pos hn, List.singleton_append, readVarint, hb]
    · have hb : (UInt8.ofNat (n % 128 + 128)).toNat = n % 128 + 128 := by
        rw [UInt8.toNat_ofNat', Nat.mod_eq_of_lt (by omega)]
      -- the low seven bits, then the rest of the number
      have hn' : (n % 128 + 128) % 128 + 128 * (n / 128) = n := by omega
      simp only [if_neg hn, List.cons_append, readVarint, hb, ih (n / 128) (by omega),
        Option.map_some, hn', if_neg (show ¬ n % 128 + 128 < 128 by omega)]

/-- Reading a length-delimited value. -/
def readBytes (bs : List UInt8) : Option (List UInt8 × List UInt8) :=
  (readVarint bs).bind fun p =>
    if p.1 ≤ p.2.length then some (p.2.take p.1, p.2.drop p.1) else none

theorem readBytes_append (b rest : List UInt8) :
    readBytes (varint b.length ++ (b ++ rest)) = some (b, rest) := by
  rw [readBytes, readVarint_varint_append, Option.bind_some, if_pos (by simp), List.take_left,
    List.drop_left]

/-- Reading an `int32` value: the varint, wrapped to 32 bits. -/
def readInt32 (bs : List UInt8) : Option (Int32 × List UInt8) :=
  (readVarint bs).map fun p => (Int32.ofInt p.1, p.2)

theorem ofInt_toNat_emod (v : Int32) : Int32.ofInt ((v.toInt % 2 ^ 64).toNat : Int) = v := by
  have hnn : 0 ≤ v.toInt % 2 ^ 64 := Int.emod_nonneg _ (by decide)
  have hdecomp : v.toInt % 2 ^ 64 = v.toInt + 2 ^ 64 * (-(v.toInt / 2 ^ 64)) := by omega
  rw [Int.toNat_of_nonneg hnn, hdecomp, Int32.ofInt_add, Int32.ofInt_mul,
    show Int32.ofInt (2 ^ 64) = 0 by decide, Int32.zero_mul, Int32.add_zero, Int32.ofInt_toInt]

/-- Reading a nested message: its bytes, decoded. -/
def readMessage {β : Type} (decode : List UInt8 → Option β) (bs : List UInt8) :
    Option (Option β × List UInt8) :=
  (readBytes bs).bind fun p => (decode p.1).map fun m => (some m, p.2)

/-- Reading a field the encoder may have left out: when the next key is `key`,
the value after it; otherwise the default, with nothing read. -/
def readField {α : Type} (key : ℕ) (read : List UInt8 → Option (α × List UInt8)) (default : α)
    (bs : List UInt8) : Option (α × List UInt8) :=
  match readVarint bs with
  | some p => if p.1 = key then read p.2 else some (default, bs)
  | none => some (default, bs)

/-- The bytes start with the key of a field numbered `n` or more, or hold no
key at all. -/
def KeyAbove (n : ℕ) (bs : List UInt8) : Prop :=
  ∀ k rest, readVarint bs = some (k, rest) → n * 8 ≤ k

theorem keyAbove_nil (n : ℕ) : KeyAbove n [] := by
  intro k rest h
  cases h

theorem KeyAbove.mono {n n' : ℕ} {bs : List UInt8} (h : KeyAbove n bs) (hn : n' ≤ n) :
    KeyAbove n' bs := fun k rest hk => le_trans (Nat.mul_le_mul_right 8 hn) (h k rest hk)

theorem keyAbove_fieldKey {n m : ℕ} (hm : n ≤ m) (wireType : ℕ) (rest : List UInt8) :
    KeyAbove n (fieldKey m wireType ++ rest) := by
  intro k rest' hk
  rw [fieldKey, readVarint_varint_append] at hk
  cases hk
  omega

section Fields

variable {α : Type} {n m : ℕ} {rest : List UInt8}

theorem readField_key (key : ℕ) (read : List UInt8 → Option (α × List UInt8)) (default : α) :
    readField key read default (varint key ++ rest) = read rest := by
  rw [readField, readVarint_varint_append]
  exact if_pos rfl

theorem readField_absent {key : ℕ} (read : List UInt8 → Option (α × List UInt8)) (default : α)
    (h : KeyAbove n rest) (hkey : key < n * 8) : readField key read default rest = some (default, rest) := by
  unfold readField
  rcases hr : readVarint rest with _ | ⟨k, rest'⟩
  · rfl
  · have := h k rest' hr
    exact if_neg (by omega)

theorem readField_int32Field (v : Int32) (h : KeyAbove (m + 1) rest) :
    readField (m * 8) readInt32 0 (int32Field m v.toInt ++ rest) = some (v, rest) := by
  unfold int32Field
  split
  · rename_i hv
    rw [List.nil_append, readField_absent readInt32 0 h (by omega),
      show v = 0 from Int32.toInt_inj.1 hv]
  · rw [fieldKey, Nat.add_zero, List.append_assoc, readField_key, readInt32, readVarint_varint_append,
      Option.map_some, ofInt_toNat_emod]

theorem readField_bytesField (b : List UInt8) (h : KeyAbove (m + 1) rest) :
    readField (m * 8 + 2) readBytes [] (bytesField m b ++ rest) = some (b, rest) := by
  unfold bytesField
  split
  · rename_i hb
    rw [hb, List.nil_append, readField_absent readBytes [] h (by omega)]
  · rw [fieldKey, List.append_assoc, List.append_assoc, readField_key, readBytes_append]

theorem readField_messageField {β : Type} {decode : List UInt8 → Option β} {encode : β → List UInt8}
    (hdec : ∀ x, decode (encode x) = some x) (x : Option β) (h : KeyAbove (m + 1) rest) :
    readField (m * 8 + 2) (readMessage decode) none (messageField m (x.map encode) ++ rest) =
      some (x, rest) := by
  cases x with
  | none => rw [Option.map_none, messageField, List.nil_append, readField_absent _ none h (by omega)]
  | some x =>
    rw [Option.map_some, messageField, fieldKey, List.append_assoc, List.append_assoc, readField_key,
      readMessage, readBytes_append, Option.bind_some, hdec, Option.map_some]

theorem keyAbove_int32Field (hm : n ≤ m) (v : ℤ) (h : KeyAbove n rest) :
    KeyAbove n (int32Field m v ++ rest) := by
  unfold int32Field
  split
  · exact h
  · rw [List.append_assoc]
    exact keyAbove_fieldKey hm 0 _

theorem keyAbove_bytesField (hm : n ≤ m) (b : List UInt8) (h : KeyAbove n rest) :
    KeyAbove n (bytesField m b ++ rest) := by
  unfold bytesField
  split
  · exact h
  · rw [List.append_assoc, List.append_assoc]
    exact keyAbove_fieldKey hm 2 _

end Fields

end Oak.Lib
