import Mathlib.Algebra.BigOperators.Group.List.Basic
import Mathlib.Tactic.Ring

/-! Rust's `i64` in a release build: addition and subtraction wrap modulo
2⁶⁴. An operation whose integer result lies in `[-2⁶³, 2⁶³)` does not wrap,
and a running sum of terms bounded by `B` does not wrap while the number of
terms times `B` stays below 2⁶³. -/

namespace Oak.Lib

theorem Int64.toInt_add_of_lt {a b : Int64} (hlo : -2 ^ 63 ≤ a.toInt + b.toInt) (hhi : a.toInt + b.toInt < 2 ^ 63) :
    (a + b).toInt = a.toInt + b.toInt := by
  rw [Int64.toInt_add, Int.bmod_eq_of_le (by norm_num; omega) (by norm_num; omega)]

theorem Int64.toInt_sub_of_lt {a b : Int64} (hlo : -2 ^ 63 ≤ a.toInt - b.toInt) (hhi : a.toInt - b.toInt < 2 ^ 63) :
    (a - b).toInt = a.toInt - b.toInt := by
  rw [Int64.toInt_sub, Int.bmod_eq_of_le (by norm_num; omega) (by norm_num; omega)]

theorem Int64.toInt_foldl_add {B : ℕ} {xs : List Int64} (hxs : ∀ x ∈ xs, -B ≤ x.toInt ∧ x.toInt ≤ B)
    {acc : Int64} {k : ℕ} (hacc : -(k * B : ℤ) ≤ acc.toInt ∧ acc.toInt ≤ k * B)
    (hfit : (k + xs.length) * B < 2 ^ 63) :
    (xs.foldl (· + ·) acc).toInt = acc.toInt + (xs.map Int64.toInt).sum := by
  induction xs generalizing acc k with
  | nil => simp
  | cons x xs ih =>
    obtain ⟨hxlo, hxhi⟩ := hxs x (List.mem_cons_self ..)
    have hmono : (k + 1) * B ≤ (k + (xs.length + 1)) * B := Nat.mul_le_mul_right _ (by omega)
    have hsucc : ((k + 1) * B : ℤ) = k * B + B := by ring
    have hsucc' : (k + 1) * B = k * B + B := by ring
    simp only [List.length_cons] at hfit
    have hstep : (acc + x).toInt = acc.toInt + x.toInt := Int64.toInt_add_of_lt (by omega) (by omega)
    have hlen : (k + 1 + xs.length) * B < 2 ^ 63 := by
      rw [show k + 1 + xs.length = k + (xs.length + 1) by ring]
      exact hfit
    have hrest := ih (fun y hy => hxs y (List.mem_cons_of_mem _ hy)) (k := k + 1)
      (by rw [hstep]; push_cast; rw [hsucc]; omega) hlen
    rw [List.foldl_cons, hrest, hstep, List.map_cons, List.sum_cons]
    ring

theorem sum_set_sub {xs : List ℤ} {j : ℕ} (hj : j < xs.length) (a : ℤ) :
    (xs.set j a).sum - xs.sum = a - xs[j] := by
  have hsplit := List.sum_take_add_sum_drop xs j
  rw [List.drop_eq_getElem_cons hj, List.sum_cons] at hsplit
  rw [List.sum_set, if_pos hj]
  omega

end Oak.Lib
