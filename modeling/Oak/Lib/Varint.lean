import Oak.Lib.Protobuf
import Mathlib.Tactic.Ring

/-! Reading base-128 varints no longer than a bound, as a decoder that gives up
after `n` bytes reads them: the groups of seven bits up to the first byte below
128, least significant first. A reader that met `a` continuation bytes reads on
past them; a buffer whose last byte ends a varint always holds one; and every
varint the encoder writes within the bound is read back. The accumulators that
build the number up in fixed-width words add their groups exactly while the sum
fits. -/

namespace Oak.Lib

/-- The number spelled by the low seven bits of each byte, least significant first. -/
def groups : List UInt8 → ℕ
  | [] => 0
  | b :: bs => b.toNat % 128 + 128 * groups bs

/-- Reading a varint of at most `n` bytes off the front of a buffer. -/
def readVarintUpTo : ℕ → List UInt8 → Option (ℕ × List UInt8)
  | 0, _ => none
  | _ + 1, [] => none
  | n + 1, b :: rest =>
    if b.toNat < 128 then some (b.toNat, rest)
    else (readVarintUpTo n rest).map fun p => (b.toNat % 128 + 128 * p.1, p.2)

section Reader

variable {n k m : ℕ} {bs rest : List UInt8}

@[simp] theorem readVarintUpTo_zero (bs : List UInt8) : readVarintUpTo 0 bs = none := by
  cases bs <;> rfl

@[simp] theorem readVarintUpTo_nil (n : ℕ) : readVarintUpTo n [] = none := by
  cases n <;> rfl

theorem readVarintUpTo_cons (n : ℕ) (b : UInt8) (rest : List UInt8) :
    readVarintUpTo (n + 1) (b :: rest) =
      if b.toNat < 128 then some (b.toNat, rest)
      else (readVarintUpTo n rest).map fun p => (b.toNat % 128 + 128 * p.1, p.2) := rfl

theorem readVarintUpTo_cons_of_lt {b : UInt8} (hb : b.toNat < 128) (n : ℕ) (rest : List UInt8) :
    readVarintUpTo (n + 1) (b :: rest) = some (b.toNat, rest) := by
  rw [readVarintUpTo_cons, if_pos hb]

theorem readVarintUpTo_cons_of_le {b : UInt8} (hb : 128 ≤ b.toNat) (n : ℕ) (rest : List UInt8) :
    readVarintUpTo (n + 1) (b :: rest) =
      (readVarintUpTo n rest).map fun p => (b.toNat % 128 + 128 * p.1, p.2) := by
  rw [readVarintUpTo_cons, if_neg (by omega)]

theorem suffix_of_readVarintUpTo (h : readVarintUpTo n bs = some (m, rest)) :
    rest <:+ bs ∧ rest.length < bs.length := by
  induction bs generalizing n m with
  | nil => simp at h
  | cons b bs ih =>
    cases n with
    | zero => simp at h
    | succ n =>
      by_cases hb : b.toNat < 128
      · rw [readVarintUpTo_cons_of_lt hb] at h
        cases h
        exact ⟨List.suffix_cons _ _, by simp⟩
      · rw [readVarintUpTo_cons_of_le (by omega)] at h
        obtain ⟨⟨m', rest'⟩, h', he⟩ := Option.map_eq_some_iff.1 h
        simp only [Prod.mk.injEq] at he
        obtain ⟨rfl, rfl⟩ := he
        obtain ⟨hs, hl⟩ := ih h'
        exact ⟨hs.trans (List.suffix_cons _ _), by simp only [List.length_cons]; omega⟩

theorem readVarintUpTo_mono (h : readVarintUpTo n bs = some (m, rest)) (hn : n ≤ k) :
    readVarintUpTo k bs = some (m, rest) := by
  induction bs generalizing n k m rest with
  | nil => simp at h
  | cons b bs ih =>
    cases n with
    | zero => simp at h
    | succ n =>
      obtain ⟨k, rfl⟩ : ∃ k', k = k' + 1 := ⟨k - 1, by omega⟩
      by_cases hb : b.toNat < 128
      · rwa [readVarintUpTo_cons_of_lt hb] at h ⊢
      · rw [readVarintUpTo_cons_of_le (by omega)] at h ⊢
        obtain ⟨⟨m', rest'⟩, h', he⟩ := Option.map_eq_some_iff.1 h
        rw [ih (k := k) h' (by omega), Option.map_some, he]

theorem readVarintUpTo_add_of_none {a : ℕ} (h : readVarintUpTo a bs = none) (ha : a ≤ bs.length) (k : ℕ) :
    readVarintUpTo (a + k) bs =
      (readVarintUpTo k (bs.drop a)).map fun p => (groups (bs.take a) + 128 ^ a * p.1, p.2) := by
  induction a generalizing bs with
  | zero => simp [groups]
  | succ a ih =>
    cases bs with
    | nil => simp at ha
    | cons b bs =>
      by_cases hb : b.toNat < 128
      · rw [readVarintUpTo_cons_of_lt hb] at h
        cases h
      · rw [readVarintUpTo_cons_of_le (by omega), Option.map_eq_none_iff] at h
        rw [show a + 1 + k = a + k + 1 by omega, readVarintUpTo_cons_of_le (by omega),
          ih h (by simpa using ha), Option.map_map, List.drop_succ_cons, List.take_succ_cons]
        congr 1
        funext p
        simp only [Function.comp, groups, pow_succ, Prod.mk.injEq, and_true]
        ring

theorem readVarintUpTo_isSome_of_last (hne : bs ≠ []) (hlen : bs.length ≤ n)
    (hlast : (bs.getLastD 0).toNat < 128) : (readVarintUpTo n bs).isSome := by
  induction bs generalizing n with
  | nil => contradiction
  | cons b bs ih =>
    obtain ⟨n, rfl⟩ : ∃ n', n = n' + 1 := ⟨n - 1, by simp only [List.length_cons] at hlen; omega⟩
    by_cases hb : b.toNat < 128
    · rw [readVarintUpTo_cons_of_lt hb]
      rfl
    · rw [readVarintUpTo_cons_of_le (by omega), Option.isSome_map]
      cases bs with
      | nil => exact absurd hlast (by simpa using hb)
      | cons c cs =>
        apply ih (List.cons_ne_nil _ _) (by simp only [List.length_cons] at hlen ⊢; omega)
        simpa using hlast

theorem readVarintUpTo_varint_append (h : varintLen m ≤ n) (rest : List UInt8) :
    readVarintUpTo n (varint m ++ rest) = some (m, rest) := by
  induction m using Nat.strong_induction_on generalizing n with
  | _ m ih =>
    rw [varint]
    by_cases hm : m < 128
    · obtain ⟨n, rfl⟩ : ∃ n', n = n' + 1 := ⟨n - 1, by rw [varintLen_of_lt hm] at h; omega⟩
      have hb : (UInt8.ofNat m).toNat = m := by
        rw [UInt8.toNat_ofNat', Nat.mod_eq_of_lt (by omega)]
      rw [if_pos hm, List.singleton_append, readVarintUpTo_cons_of_lt (by omega), hb]
    · have hlen : varintLen (m / 128) + 1 ≤ n := by rwa [varintLen, if_neg hm] at h
      obtain ⟨n, rfl⟩ : ∃ n', n = n' + 1 := ⟨n - 1, by omega⟩
      have hb : (UInt8.ofNat (m % 128 + 128)).toNat = m % 128 + 128 := by
        rw [UInt8.toNat_ofNat', Nat.mod_eq_of_lt (by omega)]
      rw [if_neg hm, List.cons_append, readVarintUpTo_cons_of_le (by omega), hb,
        ih (m / 128) (by omega) (by omega), Option.map_some]
      congr 2
      omega

theorem varintLen_le_of_lt (k : ℕ) (h : m < 128 ^ (k + 1)) : varintLen m ≤ k + 1 := by
  induction k generalizing m with
  | zero => rw [varintLen_of_lt (by simpa using h)]
  | succ k ih =>
    rw [varintLen]
    split
    · omega
    · have := ih (m := m / 128) (by rw [pow_succ] at h; omega)
      omega

theorem varintLen_le_ten (h : m < 2 ^ 64) : varintLen m ≤ 10 :=
  varintLen_le_of_lt 9 (lt_of_lt_of_le h (by decide))

theorem lt_of_readVarintUpTo (h : readVarintUpTo n bs = some (m, rest)) :
    m < 128 ^ n := by
  induction bs generalizing n m with
  | nil => simp at h
  | cons b bs ih =>
    cases n with
    | zero => simp at h
    | succ n =>
      rw [pow_succ]
      by_cases hb : b.toNat < 128
      · rw [readVarintUpTo_cons_of_lt hb] at h
        cases h
        have := Nat.one_le_pow n 128 (by omega)
        omega
      · rw [readVarintUpTo_cons_of_le (by omega)] at h
        obtain ⟨⟨m', rest'⟩, h', he⟩ := Option.map_eq_some_iff.1 h
        simp only [Prod.mk.injEq] at he
        obtain ⟨rfl, rfl⟩ := he
        have := ih h'
        omega

theorem groups_lt (h : bs.length ≤ n) : groups bs < 128 ^ n := by
  induction bs generalizing n with
  | nil => exact Nat.pow_pos (by omega)
  | cons b bs ih =>
    obtain ⟨n, rfl⟩ : ∃ n', n = n' + 1 := ⟨n - 1, by simp only [List.length_cons] at h; omega⟩
    have := ih (n := n) (by simp only [List.length_cons] at h; omega)
    rw [groups, pow_succ]
    omega

theorem or_one_eq (n : ℕ) : n ||| 1 = 2 * (n / 2) + 1 := by
  have hsplit : n = 2 ^ 1 * (n / 2) ||| n % 2 := by
    rw [← Nat.two_pow_add_eq_or_of_lt (Nat.mod_lt _ (by omega))]
    omega
  have hbit : n % 2 ||| 1 = 1 := by
    rcases Nat.mod_two_eq_zero_or_one n with h | h <;> rw [h] <;> rfl
  calc n ||| 1 = (2 ^ 1 * (n / 2) ||| n % 2) ||| 1 := by rw [← hsplit]
    _ = 2 ^ 1 * (n / 2) ||| 1 := by rw [Nat.or_assoc, hbit]
    _ = 2 * (n / 2) + 1 := by rw [← Nat.two_pow_add_eq_or_of_lt (by omega), pow_one]

theorem log2_or_one (n : ℕ) : (n ||| 1).log2 = n.log2 := by
  rw [or_one_eq, Nat.log2_def, Nat.log2_def n]
  by_cases hn : 2 ≤ n
  · rw [if_pos (by omega), if_pos hn, show (2 * (n / 2) + 1) / 2 = n / 2 by omega]
  · rw [if_neg hn, if_neg (by omega)]

theorem log2_eight_mul_add {t w : ℕ} (ht : t ≠ 0) (hw : w < 8) : (8 * t + w).log2 = t.log2 + 3 := by
  obtain ⟨hlo, hhi⟩ := (Nat.log2_eq_iff ht).1 rfl
  rw [Nat.log2_eq_iff (by omega), pow_add, pow_succ, show t.log2 + 3 + 1 = t.log2 + 1 + 3 by ring,
    pow_add (a := 2) (m := t.log2 + 1)]
  constructor <;> omega

theorem varintLen_eq_log2 (n : ℕ) : varintLen n = n.log2 / 7 + 1 := by
  induction n using Nat.strong_induction_on with
  | _ n ih =>
    rw [varintLen]
    split
    · next hn =>
      have : n.log2 < 7 := by
        by_cases h0 : n = 0
        · rw [h0, Nat.log2_zero]
          omega
        · exact (Nat.log2_lt h0).2 (by omega)
      omega
    · next hn =>
      have hq : n / 128 ≠ 0 := by omega
      obtain ⟨hlo, hhi⟩ := (Nat.log2_eq_iff hq).1 rfl
      have hlog : n.log2 = (n / 128).log2 + 7 := by
        rw [Nat.log2_eq_iff (by omega), pow_add, show (n / 128).log2 + 7 + 1 = (n / 128).log2 + 1 + 7 by ring,
          pow_add (a := 2) (m := (n / 128).log2 + 1)]
        constructor <;> omega
      rw [ih (n / 128) (by omega), hlog]
      omega

end Reader

/-! ### Accumulating groups in fixed-width words -/

theorem toNat_or_shiftLeft {v x : UInt64} {s : ℕ} (hs : s < 64) (hv : v.toNat < 2 ^ s) :
    (v ||| x <<< s.toUInt64).toNat = (v.toNat + 2 ^ s * x.toNat) % 2 ^ 64 := by
  have hpow : 2 ^ 64 = 2 ^ s * 2 ^ (64 - s) := by rw [← pow_add, Nat.add_sub_cancel' hs.le]
  -- the group keeps its bits below 64: its low `64 - s` bits, shifted
  have hshift : (x <<< s.toUInt64).toNat = 2 ^ s * (x.toNat % 2 ^ (64 - s)) := by
    rw [UInt64.toNat_shiftLeft, Nat.toUInt64_eq, UInt64.toNat_ofNat', Nat.mod_eq_of_lt (show s < 2 ^ 64 by omega),
      Nat.mod_eq_of_lt hs, Nat.shiftLeft_eq, Nat.mul_comm x.toNat, hpow, Nat.mul_mod_mul_left]
  have hlow : 2 ^ s * (x.toNat % 2 ^ (64 - s)) + 2 ^ s ≤ 2 ^ 64 := by
    rw [hpow, ← Nat.mul_succ]
    exact Nat.mul_le_mul_left _ (Nat.mod_lt _ (Nat.two_pow_pos _))
  have hx : 2 ^ s * x.toNat = 2 ^ 64 * (x.toNat / 2 ^ (64 - s)) + 2 ^ s * (x.toNat % 2 ^ (64 - s)) := by
    rw [hpow, mul_assoc, ← mul_add, Nat.div_add_mod]
  rw [UInt64.toNat_or, hshift, Nat.or_comm, ← Nat.two_pow_add_eq_or_of_lt hv, hx]
  generalize 2 ^ s * (x.toNat % 2 ^ (64 - s)) = r at hlow ⊢
  generalize x.toNat / 2 ^ (64 - s) = q
  rw [← Nat.add_assoc, show v.toNat + 2 ^ 64 * q + r = v.toNat + r + 2 ^ 64 * q by omega,
    Nat.add_mul_mod_self_left, Nat.mod_eq_of_lt (by omega)]
  omega

theorem ofNat_eq_ofNat_of_mod {a b : ℕ} (h : a % 2 ^ 64 = b % 2 ^ 64) : UInt64.ofNat a = UInt64.ofNat b :=
  UInt64.toNat_inj.1 (by rw [UInt64.toNat_ofNat', UInt64.toNat_ofNat', h])

end Oak.Lib
