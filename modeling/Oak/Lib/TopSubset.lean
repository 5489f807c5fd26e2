import Mathlib.Order.Basic
import Mathlib.Data.Set.Basic

/-! Two-component labels over sets of tags, with a distinguished tag that
stands for the set of all tags. A set `B` lies above `A` when `A ⊆ B` or when
`B` holds the distinguished tag. Confidentiality is ordered this way and
integrity the other way round; the product is a preorder. -/

namespace Oak.Lib

variable {α : Type*}

/-- `B` is above `A`, where holding `t` counts as holding everything. -/
def TopSubset (t : α) (A B : Set α) : Prop := t ∈ B ∨ A ⊆ B

theorem TopSubset.refl (t : α) (A : Set α) : TopSubset t A A := Or.inr subset_rfl

theorem TopSubset.trans {t : α} {A B C : Set α}
    (hab : TopSubset t A B) (hbc : TopSubset t B C) : TopSubset t A C := by
  rcases hbc with htc | hbc
  · exact Or.inl htc
  rcases hab with htb | hab
  · -- `t ∈ B ⊆ C`: the top tag is carried up
    exact Or.inl (hbc htb)
  · exact Or.inr (hab.trans hbc)

theorem TopSubset.of_top_mem {t : α} {A B : Set α} (h : t ∈ B) : TopSubset t A B := Or.inl h

theorem TopSubset.of_subset {t : α} {A B : Set α} (h : A ⊆ B) : TopSubset t A B := Or.inr h

/-- A label with confidentiality and integrity components, both sets of tags. -/
structure SetLabel (α : Type*) (t : α) where
  conf : Set α
  integ : Set α

variable {t : α}

/-- Data may flow upward: more confidentiality, less integrity. -/
instance : LE (SetLabel α t) where
  le A B := TopSubset t A.conf B.conf ∧ TopSubset t B.integ A.integ

theorem SetLabel.le_def (A B : SetLabel α t) :
    A ≤ B ↔ TopSubset t A.conf B.conf ∧ TopSubset t B.integ A.integ := Iff.rfl

instance : Preorder (SetLabel α t) where
  le_refl A := ⟨TopSubset.refl t _, TopSubset.refl t _⟩
  le_trans A B C hab hbc := ⟨hab.1.trans hbc.1, hbc.2.trans hab.2⟩

/-- Downgrading by the tags `d` that may be declassified and `e` that may be
endorsed: confidentiality loses `d`, or everything when `d` holds the top tag,
and integrity gains `e`. -/
def SetLabel.downgrade (d e : Set α) (A : SetLabel α t) : SetLabel α t :=
  ⟨{x | x ∈ A.conf ∧ x ∉ d ∧ t ∉ d}, A.integ ∪ e⟩

theorem SetLabel.downgrade_le (d e : Set α) (A : SetLabel α t) : A.downgrade d e ≤ A :=
  ⟨TopSubset.of_subset fun _ hx => hx.1, TopSubset.of_subset Set.subset_union_left⟩

theorem SetLabel.downgrade_mono (d e : Set α) {A B : SetLabel α t} (h : A ≤ B) :
    A.downgrade d e ≤ B.downgrade d e := by
  obtain ⟨hconf, hinteg⟩ := h
  constructor
  · by_cases htd : t ∈ d
    · -- both confidentialities are empty
      exact TopSubset.of_subset fun _ hx => absurd htd hx.2.2
    · rcases hconf with htB | hAB
      · exact TopSubset.of_top_mem ⟨htB, htd, htd⟩
      · exact TopSubset.of_subset fun _ hx => ⟨hAB hx.1, hx.2⟩
  · rcases hinteg with htA | hBA
    · exact TopSubset.of_top_mem (Or.inl htA)
    · exact TopSubset.of_subset (Set.union_subset_union_left e hBA)

theorem SetLabel.downgrade_downgrade (d e : Set α) (A : SetLabel α t) :
    (A.downgrade d e).downgrade d e = A.downgrade d e := by
  simp only [SetLabel.downgrade, Set.union_assoc, Set.union_self, SetLabel.mk.injEq, and_true]
  ext x
  exact ⟨fun h => h.1, fun h => ⟨h, h.2⟩⟩

end Oak.Lib
