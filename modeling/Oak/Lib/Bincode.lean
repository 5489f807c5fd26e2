import Oak.Lib.Bytes
import Mathlib.Data.Vector.Basic

/-! bincode's fixed-width encoding of the parts a message is made of: a byte is
itself, an array of `n` bytes is its `n` bytes with no length, and a vector of
bytes is its length as a little-endian `u64` followed by its bytes. The
readers take a value off the front of a buffer and return the rest; each reads
back what the matching writer wrote, whatever follows it. -/

namespace Oak.Lib

/-- A `Vec<u8>`: its length as a little-endian `u64`, then its bytes. -/
def putVec (v : List UInt8) : List UInt8 := writeU64 (UInt64.ofNat v.length) ++ v

/-- Reading a `u8`. -/
def getU8 : List UInt8 → Option (UInt8 × List UInt8)
  | [] => none
  | b :: rest => some (b, rest)

/-- Reading a `[u8; n]`. -/
def getArray (n : ℕ) (bs : List UInt8) : Option (List.Vector UInt8 n × List UInt8) :=
  if h : n ≤ bs.length then some (⟨bs.take n, List.length_take_of_le h⟩, bs.drop n) else none

/-- Reading a `Vec<u8>`: a length, then that many bytes. -/
def getVec (bs : List UInt8) : Option (List UInt8 × List UInt8) := do
  let len ← readU64 bs
  let rest := bs.drop 8
  if len.toNat ≤ rest.length then some (rest.take len.toNat, rest.drop len.toNat) else none

@[simp] theorem length_putVec (v : List UInt8) : (putVec v).length = 8 + v.length := by
  simp [putVec]

@[simp] theorem getU8_cons (b : UInt8) (rest : List UInt8) : getU8 (b :: rest) = some (b, rest) := rfl

theorem getArray_append {n : ℕ} (v : List.Vector UInt8 n) (rest : List UInt8) :
    getArray n (v.toList ++ rest) = some (v, rest) := by
  have hlen : n ≤ (v.toList ++ rest).length := by simp
  rw [getArray, dif_pos hlen]
  congr
  · exact List.take_left' (List.Vector.toList_length v)
  · exact List.drop_left' (List.Vector.toList_length v)

theorem getVec_putVec_append (v : List UInt8) (hv : v.length < 2 ^ 64) (rest : List UInt8) :
    getVec (putVec v ++ rest) = some (v, rest) := by
  have hlen : (UInt64.ofNat v.length).toNat = v.length := by
    rw [UInt64.toNat_ofNat', Nat.mod_eq_of_lt hv]
  have hdrop : (putVec v ++ rest).drop 8 = v ++ rest := by
    rw [putVec, List.append_assoc, List.drop_left' (length_writeU64 _)]
  rw [getVec, putVec, List.append_assoc, readU64_writeU64_append, Option.bind_eq_bind,
    Option.bind_some, ← List.append_assoc, ← putVec, hdrop, hlen, if_pos (by simp),
    List.take_left, List.drop_left]

end Oak.Lib
