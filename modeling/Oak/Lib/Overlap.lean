import Mathlib.Data.Set.Finite.Lemmas
import Mathlib.Order.Bounds.Basic

/-! Intervals of a linear order, each given by its two ends, and how many of a
list hold a point. A point held by some intervals of a list is held by no more
of them than the greatest lower end among those intervals, since every interval
that holds the point holds that end as well. So the lower ends are the only
points a search for the deepest point has to try. And when few intervals miss
a point, every large enough choice of intervals includes one that holds it. -/

namespace Oak.Lib

variable {ι α : Type*} [LinearOrder α] (lo hi : ι → α)

/-- The number of intervals of `l` that hold `x`. -/
def depth (l : List ι) (x : α) : ℕ := l.countP fun i => decide (lo i ≤ x ∧ x ≤ hi i)

theorem depth_pos_iff {l : List ι} {x : α} : 0 < depth lo hi l x ↔ ∃ i ∈ l, lo i ≤ x ∧ x ≤ hi i := by
  simp [depth, List.countP_pos_iff]

theorem exists_lo_depth_ge {l : List ι} {x : α} (hx : 0 < depth lo hi l x) :
    ∃ i ∈ l, lo i ≤ x ∧ x ≤ hi i ∧ depth lo hi l x ≤ depth lo hi l (lo i) := by
  obtain ⟨j, hj, hjx⟩ := (depth_pos_iff lo hi).1 hx
  obtain ⟨i, ⟨hil, hix⟩, hmax⟩ := Set.exists_max_image {i | i ∈ l ∧ lo i ≤ x ∧ x ≤ hi i} lo
    (l.finite_toSet.subset fun _ h => h.1) ⟨j, hj, hjx⟩
  refine ⟨i, hil, hix.1, hix.2, List.countP_mono_left fun j hj hjx => ?_⟩
  simp only [decide_eq_true_eq] at hjx ⊢
  exact ⟨hmax j ⟨hj, hjx⟩, hix.1.trans hjx.2⟩

theorem depth_le_of_forall_lo {l : List ι} {d : ℕ} (h : ∀ i ∈ l, depth lo hi l (lo i) ≤ d) (x : α) :
    depth lo hi l x ≤ d := by
  rcases Nat.eq_zero_or_pos (depth lo hi l x) with h0 | hpos
  · rw [h0]
    exact Nat.zero_le d
  · obtain ⟨i, hil, -, -, hle⟩ := exists_lo_depth_ge lo hi hpos
    exact hle.trans (h i hil)

theorem isGreatest_depth {l : List ι} {i : ι} (hmax : ∀ j ∈ l, depth lo hi l (lo j) ≤ depth lo hi l (lo i)) :
    IsGreatest (Set.range (depth lo hi l)) (depth lo hi l (lo i)) :=
  ⟨⟨lo i, rfl⟩, by
    rintro d ⟨x, rfl⟩
    exact depth_le_of_forall_lo lo hi hmax x⟩

theorem exists_mem_holds_of_sublist {l sub : List ι} {x : α} (hsub : sub.Sublist l)
    (h : l.length - depth lo hi l x < sub.length) : ∃ i ∈ sub, lo i ≤ x ∧ x ≤ hi i := by
  apply (depth_pos_iff lo hi).1
  have hl := l.length_eq_countP_add_countP (fun i => decide (lo i ≤ x ∧ x ≤ hi i))
  have hs := sub.length_eq_countP_add_countP (fun i => decide (lo i ≤ x ∧ x ≤ hi i))
  -- the intervals of `sub` that miss `x` are among those of `l` that do
  have hmiss : sub.countP (fun i => decide ¬(decide (lo i ≤ x ∧ x ≤ hi i)) = true) ≤
      l.countP (fun i => decide ¬(decide (lo i ≤ x ∧ x ≤ hi i)) = true) := hsub.countP_le
  unfold depth at h ⊢
  omega

end Oak.Lib
