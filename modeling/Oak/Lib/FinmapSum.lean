import Mathlib.Data.Finmap
import Mathlib.Algebra.BigOperators.Group.Multiset.Basic
import Mathlib.Tactic.Abel

/-! Sums over the values of a finite map. A hash map whose values are counted
(the channel halves of a handle table, the messages of a queue) is modelled as a
`Finmap`; these lemmas say how such a sum changes when a key is inserted,
replaced or erased, and that writing back the value already stored at a key
changes nothing. -/

namespace Oak.Lib

variable {α β M : Type*} [DecidableEq α] [AddCommMonoid M]

/-- The sum of `f` over the values of `s`. -/
def sumVals (f : β → M) (s : Finmap (fun _ : α => β)) : M :=
  (s.entries.map fun e => f e.2).sum

theorem AList.entries_perm_erase {s : AList (fun _ : α => β)} {a : α} {b : β}
    (h : s.lookup a = some b) : s.entries.Perm (⟨a, b⟩ :: (s.erase a).entries) := by
  have hk : a ∈ s.entries.keys := AList.mem_keys.1 (AList.lookup_isSome.1 (by simp [h]))
  obtain ⟨b', l₁, l₂, hl₁, hs, he⟩ := List.exists_of_kerase hk
  have hb : b' = b := by
    have hlook : List.dlookup a s.entries = some b := h
    rw [hs, List.dlookup_append, List.dlookup_eq_none.2 hl₁] at hlook
    simpa using hlook
  subst hb
  change s.entries.Perm (⟨a, b'⟩ :: List.kerase a s.entries)
  rw [he, hs]
  exact List.perm_middle

theorem sumVals_erase {f : β → M} {s : Finmap (fun _ : α => β)} {a : α} {b : β}
    (h : s.lookup a = some b) : sumVals f s = f b + sumVals f (s.erase a) := by
  induction s using Finmap.induction_on with
  | H t =>
    rw [Finmap.lookup_toFinmap] at h
    rw [Finmap.erase_toFinmap]
    simp only [sumVals, AList.toFinmap_entries]
    rw [Multiset.coe_eq_coe.2 (AList.entries_perm_erase h)]
    simp

theorem sumVals_insert (f : β → M) (s : Finmap (fun _ : α => β)) (a : α) (b : β) :
    sumVals f (s.insert a b) = f b + sumVals f (s.erase a) := by
  induction s using Finmap.induction_on with
  | H t =>
    rw [Finmap.insert_toFinmap, Finmap.erase_toFinmap]
    simp [sumVals, AList.entries_insert]
    rfl

theorem sumVals_insert_of_notMem {f : β → M} {s : Finmap (fun _ : α => β)} {a : α}
    (h : a ∉ s) (b : β) : sumVals f (s.insert a b) = f b + sumVals f s := by
  simp [sumVals, Finmap.entries_insert_of_notMem h]

theorem sumVals_insert_add {f : β → M} {s : Finmap (fun _ : α => β)} {a : α} {b : β}
    (h : s.lookup a = some b) (b' : β) :
    sumVals f (s.insert a b') + f b = sumVals f s + f b' := by
  rw [sumVals_insert, sumVals_erase h]
  abel

theorem mem_sumVals {γ : Type*} {f : β → Multiset γ} {s : Finmap (fun _ : α => β)} {x : γ} :
    x ∈ sumVals f s ↔ ∃ a b, s.lookup a = some b ∧ x ∈ f b := by
  change x ∈ Multiset.bind s.entries (fun e => f e.2) ↔ _
  rw [Multiset.mem_bind]
  constructor
  · rintro ⟨e, he, hx⟩
    exact ⟨e.1, e.2, Finmap.mem_lookup_iff.2 he, hx⟩
  · rintro ⟨a, b, hab, hx⟩
    exact ⟨⟨a, b⟩, Finmap.mem_lookup_iff.1 hab, hx⟩

theorem insert_lookup_self {s : Finmap (fun _ : α => β)} {a : α} {b : β}
    (h : s.lookup a = some b) : s.insert a b = s := by
  apply Finmap.ext_lookup
  intro x
  by_cases hx : x = a
  · subst hx
    rw [Finmap.lookup_insert, h]
  · rw [Finmap.lookup_insert_of_ne _ hx]

end Oak.Lib
