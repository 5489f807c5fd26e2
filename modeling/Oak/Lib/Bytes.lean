import Mathlib.Data.PNat.Basic
import Mathlib.Data.List.Basic

/-! Byte buffers as both sides of a host/guest interface handle them: numbers
written as little-endian bytes, a buffer cut into chunks of a fixed size, and a
flat linear memory read and written at offsets, out-of-bounds accesses failing.
The lemmas say how these compose: reading back what was written, chunking a
buffer made of equal-sized pieces, and writes inside a region of memory leaving
the bytes around it alone. -/

namespace Oak.Lib

/-! ### Little-endian numbers -/

/-- The `w` low bytes of `x`, least significant first. -/
def toLE : ℕ → ℕ → List UInt8
  | 0, _ => []
  | w + 1, x => UInt8.ofNat (x % 256) :: toLE w (x / 256)

/-- The number whose bytes, least significant first, are `bs`. -/
def ofLE : List UInt8 → ℕ
  | [] => 0
  | b :: bs => b.toNat + 256 * ofLE bs

@[simp] theorem length_toLE (w x : ℕ) : (toLE w x).length = w := by
  induction w generalizing x with
  | zero => rfl
  | succ w ih => simp [toLE, ih]

theorem ofLE_toLE (w x : ℕ) : ofLE (toLE w x) = x % 256 ^ w := by
  induction w generalizing x with
  | zero => simp [toLE, ofLE, Nat.mod_one]
  | succ w ih =>
    have hb : (UInt8.ofNat (x % 256)).toNat = x % 256 := by simp
    rw [toLE, ofLE, ih, hb, pow_succ', Nat.mod_mul]

theorem toLE_add (k w x : ℕ) : toLE (k + w) x = toLE k x ++ toLE w (x / 256 ^ k) := by
  induction k generalizing x with
  | zero => simp [toLE]
  | succ k ih =>
    rw [Nat.add_right_comm, toLE, toLE, ih, Nat.div_div_eq_div_mul, ← pow_succ']
    rfl

/-- `write_u64::<LittleEndian>`. -/
def writeU64 (x : UInt64) : List UInt8 := toLE 8 x.toNat

/-- `LittleEndian::read_u64`: the first eight bytes; `none` where it panics,
on fewer than eight. -/
def readU64 (bs : List UInt8) : Option UInt64 :=
  if 8 ≤ bs.length then some (UInt64.ofNat (ofLE (bs.take 8))) else none

@[simp] theorem length_writeU64 (x : UInt64) : (writeU64 x).length = 8 := length_toLE 8 _

theorem readU64_writeU64_append (x : UInt64) (rest : List UInt8) :
    readU64 (writeU64 x ++ rest) = some x := by
  have hlen : 8 ≤ (writeU64 x ++ rest).length := by simp
  have htake : (writeU64 x ++ rest).take 8 = writeU64 x := by
    rw [List.take_append_of_le_length (by simp), List.take_of_length_le (by simp)]
  have hlt : x.toNat < 256 ^ 8 := by
    rw [show (256 : ℕ) ^ 8 = 2 ^ 64 by rfl]
    exact UInt64.toNat_lt x
  rw [readU64, if_pos hlen, htake, writeU64, ofLE_toLE, Nat.mod_eq_of_lt hlt, UInt64.ofNat_toNat]

theorem readU64_writeU64 (x : UInt64) : readU64 (writeU64 x) = some x := by
  simpa using readU64_writeU64_append x []

/-- `write_u32::<LittleEndian>`. -/
def writeU32 (x : UInt32) : List UInt8 := toLE 4 x.toNat

/-- The 32-bit number whose little-endian bytes are `bs`, as a 32-bit load reads it. -/
def readU32 (bs : List UInt8) : UInt32 := UInt32.ofNat (ofLE bs)

@[simp] theorem length_writeU32 (x : UInt32) : (writeU32 x).length = 4 := length_toLE 4 _

@[simp] theorem readU32_writeU32 (x : UInt32) : readU32 (writeU32 x) = x := by
  have hlt : x.toNat < 256 ^ 4 := lt_of_lt_of_le (UInt32.toNat_lt x) (by decide)
  rw [readU32, writeU32, ofLE_toLE, Nat.mod_eq_of_lt hlt, UInt32.ofNat_toNat]

/-! ### Chunks -/

variable {α β : Type*}

/-- `slice::chunks(n)`: consecutive pieces of `n` items, the last one shorter
when `n` does not divide the length. -/
def chunks (n : ℕ+) : List α → List (List α)
  | [] => []
  | a :: l => (a :: l).take n :: chunks n ((a :: l).drop n)
termination_by l => l.length
decreasing_by
  have := n.pos
  simp only [List.length_drop, List.length_cons]
  omega

@[simp] theorem chunks_nil (n : ℕ+) : chunks n ([] : List α) = [] := by
  rw [chunks]

theorem chunks_append {n : ℕ+} {l₁ : List α} (h : l₁.length = n) (l₂ : List α) :
    chunks n (l₁ ++ l₂) = l₁ :: chunks n l₂ := by
  cases l₁ with
  | nil => exact absurd h.symm (by simp)
  | cons a l =>
    rw [List.cons_append, chunks, ← List.cons_append, ← h, List.take_left, List.drop_left]

theorem chunks_flatMap {n : ℕ+} (f : β → List α) (hf : ∀ x, (f x).length = n) (xs : List β) :
    chunks n (xs.flatMap f) = xs.map f := by
  induction xs with
  | nil => simp
  | cons x xs ih => rw [List.flatMap_cons, chunks_append (hf x), ih, List.map_cons]

theorem chunks_length_of_mul {n : ℕ+} (l : List α) {k : ℕ} (h : l.length = k * n) :
    ∀ c ∈ chunks n l, c.length = n := by
  induction k generalizing l with
  | zero =>
    rw [Nat.zero_mul, List.length_eq_zero_iff] at h
    subst h
    simp
  | succ k ih =>
    cases l with
    | nil => simp at h
    | cons a l' =>
      rw [chunks]
      intro c hc
      rcases List.mem_cons.1 hc with rfl | hc
      · rw [List.length_take, h]
        simp [Nat.succ_mul]
      · exact ih _ (by rw [List.length_drop, h, Nat.succ_mul]; omega) c hc

theorem length_flatMap_uniform {k : ℕ} (f : β → List α) (hf : ∀ x, (f x).length = k) (xs : List β) :
    (xs.flatMap f).length = xs.length * k := by
  induction xs with
  | nil => simp
  | cons x xs ih => rw [List.flatMap_cons, List.length_append, hf, ih, List.length_cons, Nat.succ_mul,
    Nat.add_comm]

theorem getElem?_flatMap_uniform {k : ℕ} (f : β → List α) (hf : ∀ x, (f x).length = k)
    (xs : List β) {i j : ℕ} (hi : i < xs.length) (hj : j < k) :
    (xs.flatMap f)[i * k + j]? = (f xs[i])[j]? := by
  induction xs generalizing i with
  | nil => exact absurd hi (Nat.not_lt_zero _)
  | cons x xs ih =>
    rw [List.flatMap_cons]
    cases i with
    | zero =>
      rw [Nat.zero_mul, Nat.zero_add, List.getElem?_append_left (by rw [hf]; exact hj)]
      rfl
    | succ i =>
      have hle : (f x).length ≤ (i + 1) * k + j := by
        rw [hf, Nat.succ_mul]
        omega
      rw [List.getElem?_append_right hle, hf, show (i + 1) * k + j - k = i * k + j by
        rw [Nat.succ_mul]; omega]
      exact ih (by simpa using hi)

/-! ### Traversals -/

theorem mapM_ne_none {g : α → Option β} {l : List α} (h : ∀ x ∈ l, g x ≠ none) : l.mapM g ≠ none := by
  induction l with
  | nil => simp
  | cons x l ih =>
    obtain ⟨b, hb⟩ := Option.ne_none_iff_exists'.1 (h x List.mem_cons_self)
    obtain ⟨bs, hbs⟩ := Option.ne_none_iff_exists'.1 (ih fun y hy => h y (List.mem_cons_of_mem _ hy))
    simp [List.mapM_cons, hb, hbs]

theorem mapM_map_some {f : β → α} {g : α → Option β} (h : ∀ x, g (f x) = some x) (l : List β) :
    (l.map f).mapM g = some l := by
  induction l with
  | nil => rfl
  | cons x l ih => simp [List.mapM_cons, h, ih]

theorem mapM_eq_ok {ε : Type*} {f : α → Except ε β} {g : α → β} (l : List α)
    (h : ∀ x ∈ l, f x = .ok (g x)) : l.mapM f = .ok (l.map g) := by
  induction l with
  | nil => rfl
  | cons x l ih =>
    rw [List.mapM_cons, h x List.mem_cons_self, ih fun y hy => h y (List.mem_cons_of_mem x hy)]
    rfl

theorem length_of_mapM_eq_ok {ε : Type*} {f : α → Except ε β} {l : List α} {r : List β}
    (h : l.mapM f = .ok r) : r.length = l.length := by
  induction l generalizing r with
  | nil =>
    cases h
    rfl
  | cons x l ih =>
    rw [List.mapM_cons] at h
    cases hf : f x with
    | error e => simp [hf, bind, Except.bind] at h
    | ok y =>
      cases hl : l.mapM f with
      | error e => simp [hf, hl, bind, Except.bind] at h
      | ok ys =>
        simp only [hf, hl, bind, Except.bind, pure, Except.pure, Except.ok.injEq] at h
        rw [← h, List.length_cons, List.length_cons, ih hl]

theorem map_getD_range (l : List α) (d : α) : (List.range l.length).map (fun i => l.getD i d) = l := by
  apply List.ext_getElem (by simp)
  intro i _ h₂
  simp [List.getD_eq_getElem?_getD, List.getElem?_eq_getElem h₂]

theorem length_foldl_set (l : List (ℕ × α)) (acc : List α) :
    (l.foldl (fun acc p => acc.set p.1 p.2) acc).length = acc.length := by
  induction l generalizing acc with
  | nil => rfl
  | cons p l ih => rw [List.foldl_cons, ih, List.length_set]

theorem foldl_set_filterMap_zipIdx (l : List (Option α)) (d : α) :
    ((l.zipIdx).filterMap fun p => p.1.map ((p.2, ·))).foldl (fun acc p => acc.set p.1 p.2)
      (List.replicate l.length d) = l.map (·.getD d) := by
  -- the positions from `k` on still hold the default
  have key : ∀ (l : List (Option α)) (k : ℕ) (acc : List α), acc.length = k + l.length →
      acc.drop k = List.replicate l.length d →
      ((l.zipIdx k).filterMap fun p => p.1.map ((p.2, ·))).foldl (fun acc p => acc.set p.1 p.2) acc =
        acc.take k ++ l.map (·.getD d) := by
    intro l
    induction l with
    | nil =>
      intro k acc hlen _
      simpa using (List.take_of_length_le (by simp at hlen; omega)).symm
    | cons o l ih =>
      intro k acc hlen hdrop
      simp only [List.length_cons] at hlen hdrop
      have hk : k < acc.length := by omega
      have hd : acc[k] = d := by
        have h0 := congrArg (·[0]?) hdrop
        simp only [List.getElem?_drop, Nat.add_zero, List.replicate_succ, List.getElem?_cons_zero] at h0
        rw [List.getElem?_eq_getElem hk, Option.some.injEq] at h0
        exact h0
      have hdrop' : acc.drop (k + 1) = List.replicate l.length d := by
        rw [← List.drop_drop, hdrop, List.replicate_succ, List.drop_one, List.tail_cons]
      have htake : acc.take (k + 1) = acc.take k ++ [d] := by
        rw [List.take_add_one, List.getElem?_eq_getElem hk, hd]
        rfl
      rw [List.zipIdx_cons]
      cases o with
      | none =>
        rw [List.filterMap_cons_none rfl, ih (k + 1) acc (by omega) hdrop', htake]
        simp
      | some b =>
        have hset : (acc.set k b).take (k + 1) = acc.take k ++ [b] := by
          have hmin : min k acc.length = k := Nat.min_eq_left (Nat.le_of_lt hk)
          rw [List.take_set, htake, List.set_append_right _ _ (by rw [List.length_take]; omega)]
          simp [hmin]
        simp only [List.filterMap_cons, Option.map_some, List.foldl_cons]
        rw [ih (k + 1) (acc.set k b) (by simp; omega) (by rw [List.drop_set_of_lt (by omega)]; exact hdrop'),
          hset]
        simp
  simpa using key l 0 (List.replicate l.length d) (by simp) (by simp)

/-! ### Linear memory -/

/-- `l` with `bs` written over it from offset `p` on. -/
def splice (l : List α) (p : ℕ) (bs : List α) : List α := l.take p ++ bs ++ l.drop (p + bs.length)

/-- Reading `n` items at offset `p`; `none` when out of bounds. -/
def memGet (mem : List α) (p n : ℕ) : Option (List α) :=
  if p + n ≤ mem.length then some ((mem.drop p).take n) else none

/-- Writing `bs` at offset `p`; `none` when out of bounds. -/
def memSet (mem : List α) (p : ℕ) (bs : List α) : Option (List α) :=
  if p + bs.length ≤ mem.length then some (splice mem p bs) else none

/-- `slice[idx] = value`: `none` where the index is out of bounds and the
write panics. -/
def setIndex (l : List α) (idx : ℕ) (value : α) : Option (List α) :=
  if idx < l.length then some (l.set idx value) else none

theorem splice_append_middle (pre mid post bs : List α) {i : ℕ} (hi : i + bs.length ≤ mid.length) :
    splice (pre ++ mid ++ post) (pre.length + i) bs = pre ++ splice mid i bs ++ post := by
  have hdrop : (pre ++ mid ++ post).drop (pre.length + i + bs.length) =
      mid.drop (i + bs.length) ++ post := by
    rw [List.append_assoc, List.drop_append, List.drop_eq_nil_of_le (by omega),
      List.nil_append, show pre.length + i + bs.length - pre.length = i + bs.length by omega,
      List.drop_append, show i + bs.length - mid.length = 0 by omega, List.drop_zero]
  have htake : (pre ++ mid ++ post).take (pre.length + i) = pre ++ mid.take i := by
    rw [List.append_assoc, List.take_append, List.take_of_length_le (by omega),
      Nat.add_sub_cancel_left, List.take_append, show i - mid.length = 0 by omega,
      List.take_zero, List.append_nil]
  rw [splice, splice, hdrop, htake]
  simp only [List.append_assoc]

theorem memSet_eq_none {mem bs : List α} {p : ℕ} : memSet mem p bs = none ↔ mem.length < p + bs.length := by
  rw [memSet]
  split <;> simp <;> omega

theorem memSet_of_le {mem bs : List α} {p : ℕ} (h : p + bs.length ≤ mem.length) :
    ∃ mem', memSet mem p bs = some mem' ∧ mem'.length = mem.length := by
  refine ⟨splice mem p bs, if_pos h, ?_⟩
  simp only [splice, List.length_append, List.length_take, List.length_drop]
  omega

theorem memSet_eq_some {mem bs mem' : List α} {p : ℕ} (h : memSet mem p bs = some mem') :
    p + bs.length ≤ mem.length ∧ mem'.length = mem.length := by
  rw [memSet] at h
  split at h
  · next hle =>
    cases h
    refine ⟨hle, ?_⟩
    simp only [splice, List.length_append, List.length_take, List.length_drop]
    omega
  · cases h

theorem getElem?_splice_of_lt {mem bs : List α} {p j : ℕ} (hp : p ≤ mem.length) (hj : j < p) :
    (splice mem p bs)[j]? = mem[j]? := by
  rw [splice, List.append_assoc, List.getElem?_append_left (by rw [List.length_take]; omega),
    List.getElem?_take_of_lt hj]

theorem getElem?_splice_of_ge {mem bs : List α} {p j : ℕ} (hp : p ≤ mem.length) (hj : p + bs.length ≤ j) :
    (splice mem p bs)[j]? = mem[j]? := by
  have hlen : (mem.take p ++ bs).length = p + bs.length := by
    rw [List.length_append, List.length_take]
    omega
  rw [splice, List.getElem?_append_right (by omega), hlen, List.getElem?_drop]
  congr 1
  omega

theorem memGet_memSet_of_disjoint {mem bs mem' : List α} {p q n : ℕ} (h : memSet mem p bs = some mem')
    (hd : q + n ≤ p ∨ p + bs.length ≤ q) : memGet mem' q n = memGet mem q n := by
  rw [memSet] at h
  split at h
  · next hin =>
    cases h
    have hlen : (splice mem p bs).length = mem.length := by
      simp only [splice, List.length_append, List.length_take, List.length_drop]
      omega
    rw [memGet, memGet, hlen]
    split
    · congr 1
      apply List.ext_getElem?
      intro i
      rw [List.getElem?_take, List.getElem?_take, List.getElem?_drop, List.getElem?_drop]
      split
      · -- item `q + i` lies before the write or after it
        rcases hd with hd | hd
        · rw [getElem?_splice_of_lt (by omega) (by omega)]
        · rw [getElem?_splice_of_ge (by omega) (by omega)]
      · rfl
    · rfl
  · cases h

theorem memGet_append_middle (pre mid post : List α) :
    memGet (pre ++ mid ++ post) pre.length mid.length = some mid := by
  rw [memGet, if_pos (by simp), List.append_assoc, List.drop_left, List.take_left]

theorem memGet_memSet_self {mem bs mem' : List α} {p : ℕ} (h : memSet mem p bs = some mem') :
    memGet mem' p bs.length = some bs := by
  rw [memSet] at h
  split at h
  · next hin =>
    cases h
    have hmid := memGet_append_middle (mem.take p) bs (mem.drop (p + bs.length))
    rw [List.length_take_of_le (by omega)] at hmid
    exact hmid
  · cases h

theorem memSet_append_middle (pre mid post bs : List α) {i : ℕ} (hi : i + bs.length ≤ mid.length) :
    memSet (pre ++ mid ++ post) (pre.length + i) bs = some (pre ++ splice mid i bs ++ post) := by
  rw [memSet, if_pos (by simp; omega), splice_append_middle pre mid post bs hi]

end Oak.Lib
