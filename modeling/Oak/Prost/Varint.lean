import Oak.Lib.Varint

/-! prost's varints (third_party/prost/src/encoding.rs). `encode_varint` writes
seven bits a byte. `decode_varint` takes a first byte below `0x80` at once; a
buffer that ends a varint, or holds more than ten bytes, goes through the
unrolled `decode_varint_slice`, which builds the number from three 32-bit
parts; any other buffer through `decode_varint_slow`, a byte at a time. Each
path reads the library's ten-byte varint, wrapped to 64 bits: the fast paths
agree with the slow one, and all read back what `encode_varint` writes. -/

namespace Oak.Prost

open Oak.Lib

/-- `DecodeError`: a description, and the (message, field) pairs `push` adds on
the way out. -/
structure DecodeError where
  description : String
  stack : List (String × String)
  deriving DecidableEq, Repr

namespace DecodeError

/-- `DecodeError::new`. -/
def new (description : String) : DecodeError := ⟨description, []⟩

/-- `DecodeError::push`. -/
def push (e : DecodeError) (message field : String) : DecodeError :=
  { e with stack := e.stack ++ [(message, field)] }

end DecodeError

/-- `encode_varint`. -/
def encodeVarint (value : UInt64) : List UInt8 :=
  if value < 0x80 then [value.toUInt8]
  else ((value &&& 0x7F) ||| 0x80).toUInt8 :: encodeVarint (value >>> 7)
termination_by value.toNat
decreasing_by
  rw [UInt64.lt_iff_toNat_lt] at *
  simp only [UInt64.toNat_shiftRight, Nat.shiftRight_eq_div_pow]
  simp only [UInt64.reduceToNat, Nat.reduceMod] at *
  omega

/-- `decode_varint_slow`: at most ten bytes, or as many as the buffer holds,
each or-ed in seven bits further up. -/
def decodeVarintSlow (buf : List UInt8) : Except DecodeError (UInt64 × List UInt8) :=
  loop 0 0 buf
where
  loop (count : ℕ) (value : UInt64) : List UInt8 → Except DecodeError (UInt64 × List UInt8)
    | [] => .error (.new "invalid varint")
    | byte :: rest =>
      if count < 10 then
        let value := value ||| (byte &&& 0x7F).toUInt64 <<< (count * 7).toUInt64
        if byte ≤ 0x7F then .ok (value, rest) else loop (count + 1) value rest
      else .error (.new "invalid varint")

/-- One 32-bit part of `decode_varint_slice`, of at most `n` bytes from byte
`start`: byte `start + i` is added in at bit `7 * i` and, unless it ends the
varint, its high bit taken back out. The part and the bytes it took when a byte
below `0x80` ends it, else the part of all `n`. -/
def slicePart (bytes : List UInt8) (start : ℕ) : ℕ → ℕ → UInt32 → (UInt32 × ℕ) ⊕ UInt32
  | 0, _, part => .inr part
  | n + 1, i, part =>
    let b := bytes.getD (start + i) 0
    let part := part + b.toUInt32 <<< (7 * i).toUInt32
    if b < 0x80 then .inl (part, i + 1)
    else slicePart bytes start n (i + 1) (part - (0x80 : UInt32) <<< (7 * i).toUInt32)

/-- `decode_varint_slice`: the value and the number of bytes it took. -/
def decodeVarintSlice (bytes : List UInt8) : Except DecodeError (UInt64 × ℕ) :=
  match slicePart bytes 0 4 0 0 with
  | .inl (part0, n) => .ok (part0.toUInt64, n)
  | .inr part0 =>
    let value := part0.toUInt64
    match slicePart bytes 4 4 0 0 with
    | .inl (part1, n) => .ok (value + part1.toUInt64 <<< 28, 4 + n)
    | .inr part1 =>
      let value := value + part1.toUInt64 <<< 28
      match slicePart bytes 8 2 0 0 with
      | .inl (part2, n) => .ok (value + part2.toUInt64 <<< 56, 8 + n)
      | .inr _ => .error (.new "invalid varint")

/-- `decode_varint` on a contiguous buffer: the value and what is left. -/
def decodeVarint (buf : List UInt8) : Except DecodeError (UInt64 × List UInt8) :=
  match buf with
  | [] => .error (.new "invalid varint")
  | byte :: _ =>
    if byte < 0x80 then .ok (byte.toUInt64, buf.drop 1)
    else if 10 < buf.length ∨ buf.getLastD 0 < 0x80 then
      match decodeVarintSlice buf with
      | .ok (value, advance) => .ok (value, buf.drop advance)
      | .error e => .error e
    else decodeVarintSlow buf

/-- What every path of `decode_varint` reads: the varint of at most ten bytes,
wrapped to 64 bits. -/
def readVarint64 (buf : List UInt8) : Except DecodeError (UInt64 × List UInt8) :=
  match readVarintUpTo 10 buf with
  | some (m, rest) => .ok (UInt64.ofNat m, rest)
  | none => .error (.new "invalid varint")

/-! ### The slow path -/

theorem decodeVarintSlow_loop_eq {count : ℕ} {value : UInt64} (hc : count ≤ 10)
    (hv : value.toNat < 2 ^ (count * 7)) (buf : List UInt8) :
    decodeVarintSlow.loop count value buf =
      match readVarintUpTo (10 - count) buf with
      | some (m, rest) => .ok (UInt64.ofNat (value.toNat + 2 ^ (count * 7) * m), rest)
      | none => .error (.new "invalid varint") := by
  induction buf generalizing count value with
  | nil => simp [decodeVarintSlow.loop]
  | cons byte rest ih =>
    rw [decodeVarintSlow.loop]
    split
    · next hc' =>
      obtain ⟨k, hk⟩ : ∃ k, 10 - count = k + 1 := ⟨9 - count, by omega⟩
      have hlow : ((byte &&& 0x7F).toUInt64).toNat = byte.toNat % 128 := by
        rw [UInt8.toNat_toUInt64, UInt8.toNat_and, show (0x7F : UInt8).toNat = 2 ^ 7 - 1 from rfl,
          Nat.and_two_pow_sub_one_eq_mod]
      have hor := toNat_or_shiftLeft (x := (byte &&& 0x7F).toUInt64) (by omega) hv
      rw [hlow] at hor
      rw [hk]
      split
      · next hb =>
        have hb' : byte.toNat < 128 := by rw [UInt8.le_iff_toNat_le] at hb; simp at hb; omega
        rw [readVarintUpTo_cons_of_lt hb']
        simp only [Except.ok.injEq, Prod.mk.injEq, and_true]
        apply UInt64.toNat_inj.1
        rw [hor, UInt64.toNat_ofNat', Nat.mod_eq_of_lt hb']
      · next hb =>
        have hb' : 128 ≤ byte.toNat := by rw [UInt8.le_iff_toNat_le] at hb; simp at hb; omega
        have hpow : 2 ^ ((count + 1) * 7) = 2 ^ (count * 7) * 128 := by
          rw [Nat.add_mul, one_mul, pow_add]
          rfl
        have hbound : (value.toNat + 2 ^ (count * 7) * (byte.toNat % 128)) % 2 ^ 64 < 2 ^ ((count + 1) * 7) := by
          have : 2 ^ (count * 7) * (byte.toNat % 128) ≤ 2 ^ (count * 7) * 127 :=
            Nat.mul_le_mul_left _ (by omega)
          exact lt_of_le_of_lt (Nat.mod_le _ _) (by rw [hpow]; omega)
        rw [ih (by omega) (by rwa [hor]), readVarintUpTo_cons_of_le hb', show 10 - (count + 1) = k by omega]
        cases readVarintUpTo k rest with
        | none => rfl
        | some p =>
          simp only [Option.map_some, Except.ok.injEq, Prod.mk.injEq, and_true]
          apply ofNat_eq_ofNat_of_mod
          rw [hor, hpow, Nat.add_mod, Nat.mod_mod, ← Nat.add_mod]
          congr 1
          ring
    · next hc' =>
      rw [show 10 - count = 0 by omega, readVarintUpTo_zero]

theorem decodeVarintSlow_eq (buf : List UInt8) : decodeVarintSlow buf = readVarint64 buf := by
  rw [decodeVarintSlow, decodeVarintSlow_loop_eq (by omega) (by simp), readVarint64]
  cases readVarintUpTo 10 buf with
  | none => rfl
  | some p => simp

/-! ### The unrolled path -/

theorem toNat_add_shiftLeft_part {p : UInt32} {b : UInt8} {i : ℕ} (hi : i ≤ 3)
    (hp : p.toNat < 2 ^ (7 * i)) :
    (p + b.toUInt32 <<< (7 * i).toUInt32).toNat = p.toNat + 2 ^ (7 * i) * b.toNat := by
  have hb := b.toNat_lt
  rcases (by omega : i = 0 ∨ i = 1 ∨ i = 2 ∨ i = 3) with rfl | rfl | rfl | rfl <;>
    simp only [UInt32.toNat_add, UInt32.toNat_shiftLeft, UInt8.toNat_toUInt32, Nat.toUInt32_eq,
      UInt32.toNat_ofNat', Nat.shiftLeft_eq, Nat.reduceMul, Nat.reduceMod, Nat.reducePow] at hp ⊢ <;> omega

theorem toNat_sub_shiftLeft_part {p : UInt32} {i : ℕ} (hi : i ≤ 3) (hp : 128 * 2 ^ (7 * i) ≤ p.toNat) :
    (p - (0x80 : UInt32) <<< (7 * i).toUInt32).toNat = p.toNat - 128 * 2 ^ (7 * i) := by
  have hpart := p.toNat_lt
  rcases (by omega : i = 0 ∨ i = 1 ∨ i = 2 ∨ i = 3) with rfl | rfl | rfl | rfl <;>
    simp only [UInt32.toNat_sub, UInt32.toNat_shiftLeft, Nat.toUInt32_eq, UInt32.toNat_ofNat',
      Nat.shiftLeft_eq, UInt32.reduceToNat, Nat.reduceMul, Nat.reduceMod, Nat.reducePow] at hp ⊢ <;> omega

theorem slicePart_eq (bytes : List UInt8) (start : ℕ) {n i : ℕ} {p : UInt32} (hin : i + n ≤ 4)
    (hp : p.toNat < 2 ^ (7 * i))
    (hread : n ≤ (bytes.drop (start + i)).length ∨ (readVarintUpTo n (bytes.drop (start + i))).isSome) :
    slicePart bytes start n i p =
      match readVarintUpTo n (bytes.drop (start + i)) with
      | some (m, rest) => .inl (UInt32.ofNat (p.toNat + 2 ^ (7 * i) * m),
          i + ((bytes.drop (start + i)).length - rest.length))
      | none => .inr (UInt32.ofNat (p.toNat + 2 ^ (7 * i) * groups ((bytes.drop (start + i)).take n))) := by
  induction n generalizing i p with
  | zero => simp [slicePart, groups]
  | succ n ih =>
    obtain ⟨b, l, hl⟩ : ∃ b l, bytes.drop (start + i) = b :: l := by
      cases h : bytes.drop (start + i) with
      | nil => rw [h] at hread; simp at hread
      | cons b l => exact ⟨b, l, rfl⟩
    have hget : bytes.getD (start + i) 0 = b := by
      have hb : bytes[start + i]? = some b := by
        rw [← Nat.add_zero (start + i), ← List.getElem?_drop, hl]
        rfl
      rw [List.getD_eq_getElem?_getD, hb, Option.getD_some]
    have hnext : bytes.drop (start + (i + 1)) = l := by
      rw [← Nat.add_assoc, ← List.drop_drop, hl, List.drop_one, List.tail_cons]
    have hsum := toNat_add_shiftLeft_part (b := b) (by omega) hp
    rw [hl] at hread ⊢
    simp only [slicePart, hget]
    split
    · next hb =>
      rw [readVarintUpTo_cons_of_lt (UInt8.lt_iff_toNat_lt.1 hb)]
      dsimp only
      rw [← hsum, UInt32.ofNat_toNat]
      simp
    · next hb =>
      have hb' : 128 ≤ b.toNat := by rw [UInt8.lt_iff_toNat_lt] at hb; simpa using hb
      have hsub := toNat_sub_shiftLeft_part (p := p + b.toUInt32 <<< (7 * i).toUInt32) (i := i) (by omega)
        (by rw [hsum]; exact le_add_left (by rw [Nat.mul_comm]; exact Nat.mul_le_mul_left _ hb'))
      have hpart : (p + b.toUInt32 <<< (7 * i).toUInt32 - (0x80 : UInt32) <<< (7 * i).toUInt32).toNat =
          p.toNat + 2 ^ (7 * i) * (b.toNat % 128) := by
        have hsplit : 2 ^ (7 * i) * b.toNat = 2 ^ (7 * i) * (b.toNat % 128) + 2 ^ (7 * i) * 128 := by
          have := b.toNat_lt
          rw [← Nat.mul_add]
          congr 1
          omega
        rw [hsub, hsum]
        omega
      have hpow : 2 ^ (7 * (i + 1)) = 2 ^ (7 * i) * 128 := by
        rw [Nat.mul_add, mul_one, pow_add]
        rfl
      have hbound : p.toNat + 2 ^ (7 * i) * (b.toNat % 128) < 2 ^ (7 * (i + 1)) := by
        have : 2 ^ (7 * i) * (b.toNat % 128) ≤ 2 ^ (7 * i) * 127 := Nat.mul_le_mul_left _ (by omega)
        rw [hpow]
        omega
      rw [readVarintUpTo_cons_of_le hb'] at hread ⊢
      rw [ih (by omega) (by rwa [hpart]) (by rw [hnext]; simpa using hread), hnext, hpart]
      cases hr : readVarintUpTo n l with
      | none =>
        simp only [Option.map_none, List.take_succ_cons, groups, Sum.inr.injEq]
        congr 1
        rw [hpow]
        ring
      | some p =>
        obtain ⟨m, rest⟩ := p
        have hlen := (suffix_of_readVarintUpTo hr).2
        simp only [Option.map_some, List.length_cons, Sum.inl.injEq, Prod.mk.injEq]
        refine ⟨?_, by omega⟩
        congr 1
        rw [hpow]
        ring

theorem slice_reads_within {bytes : List UInt8}
    (hguard : 10 < bytes.length ∨ (bytes ≠ [] ∧ (bytes.getLastD 0).toNat < 128)) {s n : ℕ}
    (hs : readVarintUpTo s bytes = none) (hsl : s ≤ bytes.length) (hsn : s + n ≤ 10) :
    n ≤ (bytes.drop s).length ∨ (readVarintUpTo n (bytes.drop s)).isSome := by
  by_cases hn : n ≤ (bytes.drop s).length
  · exact .inl hn
  · right
    rw [List.length_drop] at hn
    rcases hguard with hlong | ⟨hne, hlast⟩
    · omega
    · by_cases hd : bytes.drop s = []
      · -- then the buffer's last byte would have ended the varint before `s`
        have := readVarintUpTo_isSome_of_last hne (List.drop_eq_nil_iff.1 hd) hlast
        rw [hs] at this
        cases this
      · apply readVarintUpTo_isSome_of_last hd (by rw [List.length_drop]; omega)
        rwa [List.getLastD_eq_getLast?, List.getLast?_drop, if_neg (fun h => hd (List.drop_eq_nil_iff.2 h)),
          ← List.getLastD_eq_getLast?]

theorem toNat_toUInt64_ofNat {g : ℕ} (h : g < 2 ^ 32) : (UInt32.ofNat g).toUInt64.toNat = g := by
  rw [UInt32.toNat_toUInt64, UInt32.toNat_ofNat', Nat.mod_eq_of_lt h]

theorem decodeVarintSlice_eq {bytes : List UInt8}
    (hguard : 10 < bytes.length ∨ (bytes ≠ [] ∧ (bytes.getLastD 0).toNat < 128)) :
    decodeVarintSlice bytes =
      match readVarintUpTo 10 bytes with
      | some (m, rest) => .ok (UInt64.ofNat m, bytes.length - rest.length)
      | none => .error (.new "invalid varint") := by
  have within0 := slice_reads_within hguard (s := 0) (n := 4) (by simp) (by simp) (by omega)
  have h0 := slicePart_eq bytes 0 (n := 4) (i := 0) (p := 0) (by omega) (by simp) (by simpa using within0)
  simp only [Nat.add_zero, List.drop_zero, UInt32.toNat_zero, Nat.mul_zero, pow_zero, one_mul,
    Nat.zero_add] at h0
  unfold decodeVarintSlice
  rw [h0]
  cases hr0 : readVarintUpTo 4 bytes with
  | some p =>
    obtain ⟨m0, rest0⟩ := p
    have hm0 : m0 < 268435456 := by simpa using lt_of_readVarintUpTo hr0
    rw [readVarintUpTo_mono hr0 (by omega)]
    simp only [Except.ok.injEq, Prod.mk.injEq, and_true]
    exact UInt64.toNat_inj.1 (by rw [toNat_toUInt64_ofNat (by omega), UInt64.toNat_ofNat']; omega)
  | none =>
    have h4 : 4 ≤ bytes.length := by simpa [hr0] using within0
    have hg0 : groups (bytes.take 4) < 268435456 := by simpa using groups_lt (n := 4) (by simp)
    have within1 := slice_reads_within hguard hr0 h4 (n := 4) (by omega)
    have h1 := slicePart_eq bytes 4 (n := 4) (i := 0) (p := 0) (by omega) (by simp) (by simpa using within1)
    simp only [Nat.add_zero, UInt32.toNat_zero, Nat.mul_zero, pow_zero, one_mul, Nat.zero_add] at h1
    rw [h1, show 10 = 4 + 6 by rfl, readVarintUpTo_add_of_none hr0 h4 6]
    cases hr1 : readVarintUpTo 4 (bytes.drop 4) with
    | some p =>
      obtain ⟨m1, rest1⟩ := p
      have hm1 : m1 < 268435456 := by simpa using lt_of_readVarintUpTo hr1
      have hlen := (suffix_of_readVarintUpTo hr1).2
      rw [readVarintUpTo_mono hr1 (by omega)]
      simp only [Option.map_some, Except.ok.injEq, Prod.mk.injEq, List.length_drop] at hlen ⊢
      refine ⟨UInt64.toNat_inj.1 ?_, by omega⟩
      simp only [UInt64.toNat_add, UInt64.toNat_shiftLeft, toNat_toUInt64_ofNat (show m1 < 2 ^ 32 by omega),
        toNat_toUInt64_ofNat (show groups (bytes.take 4) < 2 ^ 32 by omega), UInt64.reduceToNat, Nat.reduceMod,
        Nat.shiftLeft_eq, UInt64.toNat_ofNat', Nat.reducePow]
      omega
    | none =>
      have h8 : 4 ≤ (bytes.drop 4).length := by simpa [hr1] using within1
      have hr8 : readVarintUpTo 8 bytes = none := by
        rw [show 8 = 4 + 4 by rfl, readVarintUpTo_add_of_none hr0 h4 4, hr1, Option.map_none]
      have hg1 : groups ((bytes.drop 4).take 4) < 268435456 := by simpa using groups_lt (n := 4) (by simp)
      have within2 := slice_reads_within hguard hr8 (by simp at h8; omega) (n := 2) (by omega)
      have h2 := slicePart_eq bytes 8 (n := 2) (i := 0) (p := 0) (by omega) (by simp) (by simpa using within2)
      simp only [Nat.add_zero, UInt32.toNat_zero, Nat.mul_zero, pow_zero, one_mul, Nat.zero_add] at h2
      rw [h2, show 6 = 4 + 2 by rfl, readVarintUpTo_add_of_none hr1 h8 2, List.drop_drop]
      cases hr2 : readVarintUpTo 2 (bytes.drop 8) with
      | none => rfl
      | some p =>
        obtain ⟨m2, rest2⟩ := p
        have hm2 : m2 < 16384 := by simpa using lt_of_readVarintUpTo hr2
        have hlen := (suffix_of_readVarintUpTo hr2).2
        simp only [Option.map_some, Except.ok.injEq, Prod.mk.injEq, List.length_drop] at hlen ⊢
        refine ⟨UInt64.toNat_inj.1 ?_, by omega⟩
        simp only [UInt64.toNat_add, UInt64.toNat_shiftLeft, toNat_toUInt64_ofNat (show m2 < 2 ^ 32 by omega),
          toNat_toUInt64_ofNat (show groups (bytes.take 4) < 2 ^ 32 by omega),
          toNat_toUInt64_ofNat (show groups ((bytes.drop 4).take 4) < 2 ^ 32 by omega), UInt64.reduceToNat,
          Nat.reduceMod, Nat.shiftLeft_eq, UInt64.toNat_ofNat', Nat.reducePow]
        omega

/-! ### `decode_varint` -/

theorem decodeVarint_eq (buf : List UInt8) : decodeVarint buf = readVarint64 buf := by
  unfold decodeVarint readVarint64
  cases buf with
  | nil => rfl
  | cons byte rest =>
    dsimp only
    split
    · next hb =>
      rw [readVarintUpTo_cons_of_lt (UInt8.lt_iff_toNat_lt.1 hb)]
      simp only [List.drop_one, List.tail_cons, Except.ok.injEq, Prod.mk.injEq, and_true]
      exact UInt64.toNat_inj.1 (by rw [UInt8.toNat_toUInt64, UInt64.toNat_ofNat',
        Nat.mod_eq_of_lt (by have := byte.toNat_lt; omega)])
    · split
      · next hguard =>
        rw [decodeVarintSlice_eq (by simpa [UInt8.lt_iff_toNat_lt] using hguard)]
        cases h : readVarintUpTo 10 (byte :: rest) with
        | none => rfl
        | some p =>
          obtain ⟨m, r⟩ := p
          simp only [Except.ok.injEq, Prod.mk.injEq, true_and]
          exact (List.suffix_iff_eq_drop.1 (suffix_of_readVarintUpTo h).1).symm
      · exact decodeVarintSlow_eq _

theorem decodeVarint_length_lt {buf rest : List UInt8} {value : UInt64}
    (h : decodeVarint buf = .ok (value, rest)) : rest.length < buf.length := by
  rw [decodeVarint_eq, readVarint64] at h
  split at h
  · next m rest' hr =>
    cases h
    exact (suffix_of_readVarintUpTo hr).2
  · cases h

theorem decode_varint_fast_paths_agree (buf : List UInt8) : decodeVarint buf = decodeVarintSlow buf := by
  rw [decodeVarint_eq, decodeVarintSlow_eq]

theorem encodeVarint_eq_varint (value : UInt64) : encodeVarint value = varint value.toNat := by
  induction h : value.toNat using Nat.strong_induction_on generalizing value with
  | _ n ih =>
    subst h
    rw [encodeVarint, varint]
    by_cases hv : value < 0x80
    · have hv' : value.toNat < 128 := UInt64.lt_iff_toNat_lt.1 hv
      rw [if_pos hv, if_pos hv']
      rfl
    · have hv' : ¬ value.toNat < 128 := fun h => hv (UInt64.lt_iff_toNat_lt.2 h)
      have hshift : (value >>> 7).toNat = value.toNat / 128 := by
        rw [UInt64.toNat_shiftRight, Nat.shiftRight_eq_div_pow]
        rfl
      rw [if_neg hv, if_neg hv', ih _ (by omega) (value >>> 7) rfl, hshift]
      congr 1
      apply UInt8.toNat_inj.1
      have hlow : (value &&& 0x7F).toNat = value.toNat % 128 := by
        rw [UInt64.toNat_and, show (0x7F : UInt64).toNat = 2 ^ 7 - 1 from rfl, Nat.and_two_pow_sub_one_eq_mod]
      rw [UInt64.toNat_toUInt8, UInt64.toNat_or, hlow, UInt8.toNat_ofNat',
        show (0x80 : UInt64).toNat = 2 ^ 7 * 1 from rfl, Nat.or_comm,
        ← Nat.two_pow_add_eq_or_of_lt (Nat.mod_lt _ (by omega))]
      omega

theorem decodeVarint_encodeVarint_append (value : UInt64) (rest : List UInt8) :
    decodeVarint (encodeVarint value ++ rest) = .ok (value, rest) := by
  rw [decodeVarint_eq, readVarint64, encodeVarint_eq_varint,
    readVarintUpTo_varint_append (varintLen_le_ten value.toNat_lt)]
  dsimp only
  rw [UInt64.ofNat_toNat]

end Oak.Prost
