import CloudRing.GitOpsOwnership.Ownership
import Mathlib.Data.List.Pairwise

/-!
# The order of the families of a contract

A contract is checked family by family against the objects that earlier families expect.
-/

namespace CloudRing.GitOpsOwnership

open Library

section Order

variable {left right family : ResourceFamily}

/-- Neither family lists as external what the other one expects. -/
def Separate (left right : ResourceFamily) : Prop :=
  (∀ ref ∈ left.discovery.externalObjects, refKey ref ∉ right.expectedObjects.map refKey) ∧
    ∀ ref ∈ right.discovery.externalObjects, refKey ref ∉ left.expectedObjects.map refKey

def Unclaimed (ids keys : List String) (family : ResourceFamily) : Prop :=
  family.id ∉ ids ∧ ∀ ref ∈ family.expectedObjects ++ family.discovery.externalObjects,
    refKey ref ∉ keys

/-- The later family takes nothing that the earlier one claims. -/
def Apart (earlier later : ResourceFamily) : Prop :=
  Unclaimed [earlier.id] (earlier.expectedObjects.map refKey) later

def addFamily (state : FamilyChecks) (family : ResourceFamily) : FamilyChecks :=
  ⟨family.id :: state.familyIDs, expectedEntries family ++ state.expectedObjectFamilies⟩

theorem expectedEntries_keys (family : ResourceFamily) (key : String) :
    key ∈ (expectedEntries family).map Prod.fst ↔ key ∈ family.expectedObjects.map refKey := by
  simp [expectedEntries]

theorem foldl_addFamily (families : List ResourceFamily) (state : FamilyChecks) :
    (families.foldl addFamily state).familyIDs =
      (families.map ResourceFamily.id).reverse ++ state.familyIDs := by
  induction families generalizing state with
  | nil => rfl
  | cons family rest ih => simp [ih, addFamily]

theorem driftTargetMatches_perm {contract : Contract} {families : List ResourceFamily}
    (order : families.Perm contract.requiredFamilies) :
    (driftTargetMatches { contract with requiredFamilies := families }).Perm
      (driftTargetMatches contract) :=
  (order.filter _).flatMap_right _

theorem Apart.separate (first : Apart left right) (second : Apart right left) :
    Separate left right :=
  ⟨fun ref external => second.2 ref (List.mem_append_right _ external),
    fun ref external => first.2 ref (List.mem_append_right _ external)⟩

theorem Apart.swap (apart : Apart left right) (separate : Separate left right) :
    Apart right left := by
  refine ⟨fun same => apart.1 ?_, List.forall_mem_append.mpr ⟨fun ref expected both => ?_,
    separate.1⟩⟩
  · rw [List.mem_singleton] at same ⊢
    exact same.symm
  · obtain ⟨other, listed, same⟩ := List.mem_map.mp both
    exact apart.2 other (List.mem_append_left _ listed) (same ▸ List.mem_map_of_mem expected)

theorem pairwise_apart {families others : List ResourceFamily} (order : families.Perm others)
    (apart : families.Pairwise Apart) (separate : families.Pairwise Separate) :
    others.Pairwise Apart := by
  have both := (apart.and separate).imp fun pair => And.intro pair.1 (pair.1.swap pair.2)
  exact ((order.pairwise_iff fun pair => pair.symm).mp both).imp And.left

variable [Runtime]

theorem validateSourced_iff {others added : List (String × String)} :
    validateSourced family others = .ok added ↔
      (∃ own, validateSourced family [] = .ok own) ∧
      (∀ ref ∈ family.expectedObjects ++ family.discovery.externalObjects,
        refKey ref ∉ others.map Prod.fst) ∧
      added = expectedEntries family ++ others := by
  simp only [validateSourced, check_bind, ensure_ok]
  simp only [bind_ok, checkExpectedObjects_iff, checkExternalObjects_iff,
    exists_and_left, exists_eq_left, and_assoc, pure, Except.pure,
    Except.ok.injEq, List.map_append, List.mem_append, not_or, forall_and, exists_and_right,
    exists_eq', List.map_nil, List.not_mem_nil, @eq_comm _ added]
  grind

theorem validateFamily_iff {criticalIDs : List String} {state next : FamilyChecks} :
    validateFamily criticalIDs state family = .ok next ↔
      ((∃ own, validateFamily criticalIDs {} family = .ok own) ∧
        Unclaimed state.familyIDs (state.expectedObjectFamilies.map Prod.fst) family) ∧
      next = addFamily state family := by
  simp only [validateFamily, check_bind, ensure_ok, Bool.and_eq_true, decide_eq_true_eq]
  by_cases sourced : family.sourceState = "sourced"
  · simp only [if_pos sourced, bind_ok, pure, Except.pure, Except.ok.injEq, Unclaimed, addFamily]
    grind [validateSourced_iff]
  · by_cases missing : family.sourceState = "not-sourced"
    · simp only [if_neg sourced, if_pos missing, check_bind, pure, Except.pure, Except.ok.injEq,
        Unclaimed, addFamily, expectedEntries]
      grind [validateNotSourced_ok]
    · simp [sourced, missing]

theorem validateFamilies_iff {criticalIDs : List String} {families : List ResourceFamily}
    {last : FamilyChecks} : families.foldlM (validateFamily criticalIDs) {} = .ok last ↔
      (∀ family ∈ families, ∃ own, validateFamily criticalIDs {} family = .ok own) ∧
      families.Pairwise Apart ∧ last = families.foldl addFamily {} := by
  rw [foldlM_accepts _ _ Apart (fun _ _ _ => validateFamily_iff) ?_]
  · simp [Unclaimed]
  · intro state earlier later
    simp only [Unclaimed, Apart, addFamily, List.map_append, List.mem_append, expectedEntries_keys,
      List.mem_cons, List.not_mem_nil, not_or, or_false, forall_and]
    tauto

/-- The checks after those of the families do not depend on their order. -/
theorem validateContract_reordered {contract : Contract} {families : List ResourceFamily}
    (order : families.Perm contract.requiredFamilies) (apart : families.Pairwise Apart)
    (accepted : validateContract contract = .ok ()) :
    validateContract { contract with requiredFamilies := families } = .ok () := by
  have drifts := driftTargetMatches_perm order
  simp only [validateContract, validateDriftProof, bind_ok] at accepted ⊢
  obtain ⟨_, identity, _, name, _, filled, _, scope, _, listed, _, source, ids, critical, last,
    checked, _, counted, ⟨⟩, declared, _, managed, _, gated, roots, selected, specs, specified, _,
    enumerated, pruned, gate, _, whole, _, present, ⟨⟩, owners, _, mode, _, target, _, owner, _,
    observed, _, separate, ⟨⟩, same, single⟩ := accepted
  obtain ⟨each, -, rfl⟩ := validateFamilies_iff.mp checked
  have static := fun family member => each family (order.mem_iff.mp member)
  refine ⟨_, identity, _, name, (), ?_, _, scope, _, listed, _, source, ids, critical, _,
    validateFamilies_iff.mpr ⟨static, apart, rfl⟩, (), ?_, (), ?_, _, managed, _, gated, roots,
    selected, specs, specified, _, enumerated, pruned, gate, _, whole, _, present, (), ?_, _, mode,
    _, target, _, owner, _, observed, _, separate, (), ?_, ?_⟩
  · simpa [← List.length_eq_zero_iff, order.length_eq] using filled
  · simpa [foldl_addFamily, order.length_eq] using counted
  · simpa [forEach_ok, foldl_addFamily, (order.map _).mem_iff, order.mem_iff] using declared
  · simpa [forEach_ok, order.mem_iff] using owners
  · simpa [forEach_ok, drifts.mem_iff] using same
  · simpa [drifts.length_eq] using single

theorem validateContract_apart {contract : Contract}
    (accepted : validateContract contract = .ok ()) :
    contract.requiredFamilies.Pairwise Apart := by
  simp only [validateContract, bind_ok] at accepted
  obtain ⟨_, -, _, -, _, -, _, -, _, -, _, -, ids, -, last, checked, -⟩ := accepted
  exact (validateFamilies_iff.mp checked).2.1

/-- Unless no order of its families is accepted, the expected and the external objects of an
accepted contract are disjoint and the order does not matter exactly when no two of its families
list one object as expected and as external. -/
theorem validateContract_order_iff (contract : Contract) :
    ((validateContract contract = .ok () →
        ∀ family ∈ contract.requiredFamilies, ∀ other ∈ contract.requiredFamilies,
          ∀ ref ∈ family.expectedObjects, ref ∉ other.discovery.externalObjects) ∧
      ∀ families, families.Perm contract.requiredFamilies →
        (validateContract { contract with requiredFamilies := families } = .ok () ↔
          validateContract contract = .ok ())) ↔
    contract.requiredFamilies.Pairwise Separate ∨
      ∀ families, families.Perm contract.requiredFamilies →
        validateContract { contract with requiredFamilies := families } ≠ .ok () := by
  constructor
  · rintro ⟨-, same⟩
    refine or_iff_not_imp_right.mpr fun accepted => ?_
    push Not at accepted
    obtain ⟨families, order, accepted⟩ := accepted
    have back := (same families.reverse (families.reverse_perm.trans order)).mpr
      ((same families order).mp accepted)
    have both := (validateContract_apart accepted).and
      (List.pairwise_reverse.mp (validateContract_apart back))
    exact (order.pairwise_iff fun pair => pair.symm).mp
      (both.imp fun pair => pair.1.separate pair.2)
  · rintro (separate | refused)
    · refine ⟨fun accepted => ?_, fun families order => ⟨fun accepted => ?_, fun accepted => ?_⟩⟩
      · have symmetric : Std.Symm Separate := ⟨fun _ _ pair => pair.symm⟩
        intro family member other listed ref expected external
        refine (separate.forall_of_forall (fun family member => ?_) member listed).2 ref external
          (List.mem_map_of_mem expected)
        have distinct := (validateContract_families accepted family member).1.distinct
        rw [List.map_append, List.nodup_append] at distinct
        have own : ∀ ref ∈ family.discovery.externalObjects,
            refKey ref ∉ family.expectedObjects.map refKey := fun ref external expected =>
          distinct.2.2 _ expected _ (List.mem_map_of_mem external) rfl
        exact ⟨own, own⟩
      · exact @validateContract_reordered _ { contract with requiredFamilies := families } _
          order.symm (pairwise_apart order
          (validateContract_apart accepted)
          ((order.pairwise_iff fun pair => pair.symm).mpr separate)) accepted
      · exact validateContract_reordered order
          (pairwise_apart order.symm (validateContract_apart accepted) separate) accepted
    · have never := refused _ (List.Perm.refl _)
      exact ⟨fun accepted => absurd accepted never,
        fun families order => iff_of_false (refused families order) never⟩

end Order

attribute [local instance] plainRuntime

/-- The second family expects the object that the first one lists as external. -/
def claimedLater : Contract :=
  { sampleContract with
    scope := { sampleContract.scope with criticalFamilyIDs := ["settings", "more"] }
    requiredFamilies := [ownedFamily, { ownedFamily with
      id := "more", discovery := ⟨"closed-world", ["apps"], []⟩,
      expectedObjects := [⟨"v1", "ConfigMap", "apps", "b"⟩] }] }

theorem claimedLater_accepted : validateContract claimedLater = .ok () ∧
    validateContract { claimedLater with
      requiredFamilies := claimedLater.requiredFamilies.reverse } ≠ .ok () ∧
    ∃ family ∈ claimedLater.requiredFamilies, ∃ other ∈ claimedLater.requiredFamilies,
      ∃ ref ∈ family.expectedObjects, ref ∈ other.discovery.externalObjects := by
  refine ⟨isOk_iff.mp (by decide +kernel), fun accepted => ?_, by decide⟩
  exact absurd (isOk_iff.mpr accepted) (by decide +kernel)

end CloudRing.GitOpsOwnership
