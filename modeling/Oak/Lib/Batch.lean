import Mathlib.Data.List.Forall2

/-! Machines with a total, deterministic step, fed a list of inputs; and the
batcher, which keeps its inputs until it holds `n` of them and then releases
them together. A machine that simulates another step for step gives related
replies to every list of inputs; a machine that records its history ends in
its inputs paired with its replies; and the batcher fed whole batches releases
each batch on its last input. -/

namespace Oak.Lib

variable {σ τ α ρ π : Type*}

/-- The replies of a machine fed `xs` from the state `s`, and the state it ends in. -/
def feed (step : σ → α → ρ × σ) : σ → List α → List ρ × σ
  | s, [] => ([], s)
  | s, x :: xs =>
    let (r, s') := step s x
    let (rs, s'') := feed step s' xs
    (r :: rs, s'')

@[simp] theorem feed_nil (step : σ → α → ρ × σ) (s : σ) : feed step s [] = ([], s) := rfl

theorem feed_cons (step : σ → α → ρ × σ) (s : σ) (x : α) (xs : List α) :
    feed step s (x :: xs) =
      ((step s x).1 :: (feed step (step s x).2 xs).1, (feed step (step s x).2 xs).2) := rfl

theorem feed_append (step : σ → α → ρ × σ) (s : σ) (xs ys : List α) :
    feed step s (xs ++ ys) =
      ((feed step s xs).1 ++ (feed step (feed step s xs).2 ys).1, (feed step (feed step s xs).2 ys).2) := by
  induction xs generalizing s with
  | nil => rfl
  | cons x xs ih => simp [feed_cons, ih]

theorem feed_forall₂ {step : σ → α → ρ × σ} {step' : τ → α → π × τ} (R : σ → τ → Prop)
    (Q : ρ → π → Prop) (hstep : ∀ s t x, R s t → Q (step s x).1 (step' t x).1 ∧ R (step s x).2 (step' t x).2)
    {s : σ} {t : τ} (xs : List α) (h : R s t) :
    List.Forall₂ Q (feed step s xs).1 (feed step' t xs).1 ∧ R (feed step s xs).2 (feed step' t xs).2 := by
  induction xs generalizing s t with
  | nil => exact ⟨.nil, h⟩
  | cons x xs ih =>
    obtain ⟨hq, hr⟩ := hstep s t x h
    obtain ⟨hqs, hrs⟩ := ih hr
    exact ⟨.cons hq hqs, hrs⟩

theorem feed_invariant {step : σ → α → ρ × σ} (P : σ → Prop) (hstep : ∀ s x, P s → P (step s x).2)
    {s : σ} (xs : List α) (h : P s) : P (feed step s xs).2 := by
  induction xs generalizing s with
  | nil => exact h
  | cons x xs ih => exact ih (hstep s x h)

/-! ### Machines that record their history -/

/-- The machine whose state is the list of its inputs with their replies, each
reply computed by `f` from the history so far. -/
def recordStep (f : List (α × ρ) → α → ρ) (hist : List (α × ρ)) (x : α) : ρ × List (α × ρ) :=
  (f hist x, hist ++ [(x, f hist x)])

theorem feed_recordStep (f : List (α × ρ) → α → ρ) (hist : List (α × ρ)) (xs : List α) :
    (feed (recordStep f) hist xs).2 = hist ++ xs.zip (feed (recordStep f) hist xs).1 := by
  induction xs generalizing hist with
  | nil => simp
  | cons x xs ih =>
    rw [feed_cons, ih]
    simp [recordStep]

/-! ### The batcher -/

/-- One input to a batcher of size `n`: the batch when it is full, which
empties the batcher. -/
def batchStep (n : ℕ) (pending : List α) (x : α) : Option (List α) × List α :=
  if pending.length + 1 = n then (some (pending ++ [x]), []) else (none, pending ++ [x])

theorem feed_batchStep_of_lt {n : ℕ} {pending xs : List α} (h : pending.length + xs.length < n) :
    feed (batchStep n) pending xs = (List.replicate xs.length none, pending ++ xs) := by
  induction xs generalizing pending with
  | nil => simp
  | cons x xs ih =>
    have hne : pending.length + 1 ≠ n := by
      simp only [List.length_cons] at h
      omega
    have hlen : (pending ++ [x]).length + xs.length < n := by
      simp only [List.length_cons] at h
      simp only [List.length_append, List.length_singleton]
      omega
    rw [feed_cons, batchStep, if_neg hne, ih hlen]
    simp [List.replicate_succ]

theorem feed_batchStep_batch {n : ℕ} {b : List α} (hb : b.length = n) (hn : 0 < n) :
    feed (batchStep n) [] b = (List.replicate (n - 1) none ++ [some b], []) := by
  have hne : b ≠ [] := List.ne_nil_of_length_pos (by omega)
  obtain ⟨b', x, rfl⟩ : ∃ b' x, b = b' ++ [x] :=
    ⟨b.dropLast, b.getLast hne, (List.dropLast_append_getLast hne).symm⟩
  have hb' : b'.length = n - 1 := by
    rw [List.length_append, List.length_singleton] at hb
    omega
  rw [feed_append, feed_batchStep_of_lt (by simp only [List.length_nil]; omega)]
  simp [feed_cons, batchStep, hb', Nat.sub_add_cancel hn]

theorem feed_batchStep_flatten {n : ℕ} (hn : 0 < n) (batches : List (List α))
    (hb : ∀ b ∈ batches, b.length = n) (rest : List α) (hr : rest.length < n) :
    feed (batchStep n) [] (batches.flatten ++ rest) =
      ((batches.map fun b => List.replicate (n - 1) none ++ [some b]).flatten ++
        List.replicate rest.length none, rest) := by
  induction batches with
  | nil => simpa using feed_batchStep_of_lt (by simpa using hr : ([] : List α).length + rest.length < n)
  | cons b batches ih =>
    have hbatch := feed_batchStep_batch (hb b (List.mem_cons_self ..)) hn
    rw [List.flatten_cons, List.append_assoc, feed_append, hbatch,
      ih fun b' hb' => hb b' (List.mem_cons_of_mem _ hb')]
    simp

theorem exists_flatten_append {n : ℕ} (hn : 0 < n) (xs : List α) :
    ∃ (batches : List (List α)) (rest : List α),
      xs = batches.flatten ++ rest ∧ (∀ b ∈ batches, b.length = n) ∧ rest.length < n := by
  induction h : xs.length using Nat.strongRecOn generalizing xs with
  | ind m ih =>
    by_cases hlt : xs.length < n
    · exact ⟨[], xs, rfl, by simp, hlt⟩
    · -- the first batch is the first `n` inputs; the rest is shorter
      obtain ⟨batches, rest, heq, hb, hr⟩ := ih (xs.length - n) (by omega) (xs.drop n) (by simp)
      refine ⟨xs.take n :: batches, rest, ?_, List.forall_mem_cons.mpr ⟨?_, hb⟩, hr⟩
      · rw [List.flatten_cons, List.append_assoc, ← heq, List.take_append_drop]
      · simp only [List.length_take]
        omega

end Oak.Lib
