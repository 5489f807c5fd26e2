import Oak.Lib.TopSubset

/-! Labels of the Oak information-flow model (`oak_abi/src/label/mod.rs`) and
the downgrading privilege of a Node (`oak_runtime/src/lib.rs`). A `Label`
holds two repeated `Tag` fields; `flows_to` collects each into a `HashSet` and
compares them with a subset test, where the `top` tag stands for all tags.
Here the hash sets are the lists themselves, read through membership, and
`flows_to` is shown to be the preorder of `Oak.Lib.SetLabel`. -/

namespace Oak

open Oak.Lib

/-- The `oneof tag` of the `Tag` message (prost's `tag::Tag`). -/
inductive TagKind where
  | webAssemblyModuleTag (webAssemblyModuleHashSha256 : List UInt8)
  | webAssemblyModuleSignatureTag (publicKey : List UInt8)
  | tlsEndpointTag (authority : String)
  | publicKeyIdentityTag (publicKey : List UInt8)
  | topTag
  deriving DecidableEq, Repr

structure Tag where
  tag : Option TagKind
  deriving DecidableEq, Repr

/-- `top()`: the tag that stands for every tag of its component. -/
def top : Tag := ⟨some .topTag⟩

structure Label where
  confidentialityTags : List Tag
  integrityTags : List Tag
  deriving DecidableEq, Repr

/-- `HashSet::is_subset` on the hash sets collected from two tag lists. -/
def isSubset (a b : List Tag) : Bool := a.all (fun x => b.contains x)

namespace Label

/-- `Label::public_untrusted`: no confidentiality and no integrity. -/
def publicUntrusted : Label := ⟨[], []⟩

/-- `Label::flows_to`. -/
def flowsTo (self other : Label) : Bool :=
  (other.confidentialityTags.contains top || isSubset self.confidentialityTags other.confidentialityTags)
    && (self.integrityTags.contains top || isSubset other.integrityTags self.integrityTags)

/-- The sets of tags a label denotes. -/
def toSetLabel (l : Label) : SetLabel Tag top :=
  ⟨{x | x ∈ l.confidentialityTags}, {x | x ∈ l.integrityTags}⟩

end Label

theorem isSubset_iff (a b : List Tag) : isSubset a b = true ↔ a ⊆ b := by
  simp [isSubset, List.subset_def]

theorem contains_top_or_isSubset_iff (a b : List Tag) :
    (b.contains top || isSubset a b) = true ↔ TopSubset top {x | x ∈ a} {x | x ∈ b} := by
  simp only [Bool.or_eq_true, List.contains_iff_mem, isSubset_iff, TopSubset, Set.mem_ofPred_eq]
  rfl

theorem Label.flowsTo_iff (A B : Label) : A.flowsTo B = true ↔ A.toSetLabel ≤ B.toSetLabel := by
  rw [Label.flowsTo, Bool.and_eq_true, contains_top_or_isSubset_iff,
    contains_top_or_isSubset_iff, SetLabel.le_def]
  rfl

theorem Label.flowsTo_refl (A : Label) : A.flowsTo A = true :=
  (Label.flowsTo_iff A A).2 le_rfl

theorem Label.flowsTo_trans {A B C : Label} (hab : A.flowsTo B = true)
    (hbc : B.flowsTo C = true) : A.flowsTo C = true :=
  (Label.flowsTo_iff A C).2 (((Label.flowsTo_iff A B).1 hab).trans ((Label.flowsTo_iff B C).1 hbc))

theorem Label.flowsTo_congr {A A' B B' : Label} (hA : A.toSetLabel = A'.toSetLabel)
    (hB : B.toSetLabel = B'.toSetLabel) : A.flowsTo B = A'.flowsTo B' := by
  rw [Bool.eq_iff_iff, Label.flowsTo_iff, Label.flowsTo_iff, hA, hB]

theorem Label.toSetLabel_eq_of_mem_iff {A A' : Label}
    (hc : ∀ x, x ∈ A.confidentialityTags ↔ x ∈ A'.confidentialityTags)
    (hi : ∀ x, x ∈ A.integrityTags ↔ x ∈ A'.integrityTags) : A.toSetLabel = A'.toSetLabel := by
  simp only [Label.toSetLabel, hc, hi]

/-- The downgrading privilege of a Node: the tags it may declassify (remove from
the confidentiality component) and the tags it may endorse (add to the
integrity component). The hash sets of the source are lists here. -/
structure NodePrivilege where
  canDeclassifyConfidentialityTags : List Tag
  canEndorseIntegrityTags : List Tag
  deriving DecidableEq, Repr

namespace NodePrivilege

/-- `NodePrivilege::default`: no downgrading at all. -/
def default : NodePrivilege := ⟨[], []⟩

/-- `NodePrivilege::top_privilege`, held by the trusted pseudo-Nodes. -/
def topPrivilege : NodePrivilege := ⟨[top], [top]⟩

/-- `NodePrivilege::downgrade_label`: the least restrictive label this
privilege can turn `label` into. -/
def downgradeLabel (self : NodePrivilege) (label : Label) : Label where
  confidentialityTags :=
    if self.canDeclassifyConfidentialityTags.contains top then []
    else label.confidentialityTags.filter fun t => !self.canDeclassifyConfidentialityTags.contains t
  integrityTags := label.integrityTags ++ self.canEndorseIntegrityTags

end NodePrivilege

theorem Label.flowsTo_publicUntrusted_iff (A : Label) :
    A.flowsTo Label.publicUntrusted = true ↔ A.confidentialityTags = [] := by
  simp [Label.flowsTo, Label.publicUntrusted, isSubset, List.eq_nil_iff_forall_not_mem]

theorem NodePrivilege.toSetLabel_downgradeLabel (P : NodePrivilege) (L : Label) :
    (P.downgradeLabel L).toSetLabel =
      L.toSetLabel.downgrade {x | x ∈ P.canDeclassifyConfidentialityTags} {x | x ∈ P.canEndorseIntegrityTags} := by
  simp only [NodePrivilege.downgradeLabel, Label.toSetLabel, SetLabel.downgrade, SetLabel.mk.injEq]
  constructor
  · ext x
    by_cases htop : top ∈ P.canDeclassifyConfidentialityTags
    · simp [htop]
    · simp [htop]
  · ext x
    simp

theorem NodePrivilege.downgradeLabel_confidentialityTags_eq_nil (P : NodePrivilege) (L : Label) :
    (P.downgradeLabel L).confidentialityTags = [] ↔
      top ∈ P.canDeclassifyConfidentialityTags ∨ ∀ tag ∈ L.confidentialityTags, tag ∈ P.canDeclassifyConfidentialityTags := by
  by_cases htop : top ∈ P.canDeclassifyConfidentialityTags
  · simp [NodePrivilege.downgradeLabel, htop]
  · simp [NodePrivilege.downgradeLabel, htop, List.filter_eq_nil_iff]

/-- `downgrade_label` is an interior operator for `flows_to`: the downgraded
label flows to the label, downgrading is monotone, and downgrading twice is
downgrading once; the downgraded label is public exactly when the privilege
declassifies `top` or every confidentiality tag of the label. -/
theorem downgrade_label_interior (P : NodePrivilege) :
    (∀ L, (P.downgradeLabel L).flowsTo L = true) ∧
    (∀ L₁ L₂, L₁.flowsTo L₂ = true → (P.downgradeLabel L₁).flowsTo (P.downgradeLabel L₂) = true) ∧
    (∀ L, (P.downgradeLabel (P.downgradeLabel L)).flowsTo (P.downgradeLabel L) = true ∧
      (P.downgradeLabel L).flowsTo (P.downgradeLabel (P.downgradeLabel L)) = true) ∧
    (∀ L, (P.downgradeLabel L).flowsTo Label.publicUntrusted = true ↔
      top ∈ P.canDeclassifyConfidentialityTags ∨
        ∀ tag ∈ L.confidentialityTags, tag ∈ P.canDeclassifyConfidentialityTags) := by
  refine ⟨fun L => ?_, fun L₁ L₂ h => ?_, fun L => ?_, fun L => ?_⟩
  · rw [Label.flowsTo_iff, P.toSetLabel_downgradeLabel]
    exact SetLabel.downgrade_le _ _ _
  · rw [Label.flowsTo_iff] at h ⊢
    rw [P.toSetLabel_downgradeLabel, P.toSetLabel_downgradeLabel]
    exact SetLabel.downgrade_mono _ _ h
  · have htwice : (P.downgradeLabel (P.downgradeLabel L)).toSetLabel = (P.downgradeLabel L).toSetLabel := by
      rw [P.toSetLabel_downgradeLabel, P.toSetLabel_downgradeLabel, SetLabel.downgrade_downgrade]
    rw [Label.flowsTo_iff, Label.flowsTo_iff, htwice]
    exact ⟨le_rfl, le_rfl⟩
  · rw [Label.flowsTo_publicUntrusted_iff, P.downgradeLabel_confidentialityTags_eq_nil]

/-- `flows_to` is a preorder on all labels, `top` included, and depends on the
tag lists only through their elements: reordering or repeating tags in either
component of either argument leaves the answer unchanged. -/
theorem flows_to_preorder :
    (∀ A : Label, A.flowsTo A = true) ∧
    (∀ A B C : Label, A.flowsTo B = true → B.flowsTo C = true → A.flowsTo C = true) ∧
    (∀ A A' B B' : Label,
      (∀ x, x ∈ A.confidentialityTags ↔ x ∈ A'.confidentialityTags) →
      (∀ x, x ∈ A.integrityTags ↔ x ∈ A'.integrityTags) →
      (∀ x, x ∈ B.confidentialityTags ↔ x ∈ B'.confidentialityTags) →
      (∀ x, x ∈ B.integrityTags ↔ x ∈ B'.integrityTags) →
      A.flowsTo B = A'.flowsTo B') := by
  refine ⟨Label.flowsTo_refl, fun _ _ _ => Label.flowsTo_trans, ?_⟩
  intro A A' B B' hAc hAi hBc hBi
  exact Label.flowsTo_congr (Label.toSetLabel_eq_of_mem_iff hAc hAi)
    (Label.toSetLabel_eq_of_mem_iff hBc hBi)

/-- Public untrusted flows to a one-tag secret, which flows to the label whose
confidentiality is `top`; and repeating and reordering tags changes nothing. -/
theorem flows_to_preorder_chain :
    ((Label.publicUntrusted.flowsTo ⟨[⟨some (.publicKeyIdentityTag [1])⟩], []⟩ = true ∧
      (⟨[⟨some (.publicKeyIdentityTag [1])⟩], []⟩ : Label).flowsTo ⟨[top], []⟩ = true) →
      Label.publicUntrusted.flowsTo ⟨[top], []⟩ = true) ∧
    (⟨[⟨some (.publicKeyIdentityTag [1])⟩, ⟨some (.publicKeyIdentityTag [2])⟩], []⟩ : Label).flowsTo
        ⟨[⟨some (.publicKeyIdentityTag [1])⟩], []⟩ =
      (⟨[⟨some (.publicKeyIdentityTag [2])⟩, ⟨some (.publicKeyIdentityTag [1])⟩,
          ⟨some (.publicKeyIdentityTag [2])⟩], []⟩ : Label).flowsTo
        ⟨[⟨some (.publicKeyIdentityTag [1])⟩], []⟩ :=
  ⟨fun h => flows_to_preorder.2.1 _ _ _ h.1 h.2,
    flows_to_preorder.2.2 _ _ _ _ (fun x => by simp only [List.mem_cons, List.not_mem_nil, or_false]; constructor <;> intro hx <;> rcases hx with hx | hx <;> simp [hx]) (by simp) (by simp) (by simp)⟩

end Oak
