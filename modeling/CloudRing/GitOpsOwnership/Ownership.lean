import CloudRing.GitOpsOwnership.Collection
import CloudRing.GitOpsOwnership.Verify
import Mathlib.Data.List.Dedup

/-!
# What exit code zero means

Exit code zero means that no part of the verifier has found a blocker.
-/

namespace CloudRing.GitOpsOwnership

open Library

/-! ## Relevant roots -/

theorem equalBoolPointer_eq {left right : Option Bool}
    (equal : equalBoolPointer left right = true) : left = right := by
  simp only [equalBoolPointer, Bool.and_eq_true, decide_eq_true_eq] at equal
  exact equal.2

section Roots

variable [Runtime] {contract : Contract} {snapshot : Snapshot}

theorem foldl_addRoot (contract : Contract) (kustomizations : List KustomizationSnapshot)
    (state : Inventories) :
    (kustomizations.foldl (addRoot contract) state).owners = state.owners ++
      (kustomizations.filter (relevant contract)).flatMap (fun root =>
        (parsedInventory root).map fun ref => (refKey ref, kustomizationKey root)) ∧
    (kustomizations.foldl (addRoot contract) state).roots =
      ((kustomizations.filter (relevant contract)).map fun root =>
        (kustomizationKey root, root)).reverse ++ state.roots := by
  induction kustomizations generalizing state with
  | nil => simp
  | cons root rest ih =>
    rw [List.foldl_cons]
    rw [(ih (addRoot contract state root)).1, (ih (addRoot contract state root)).2, addRoot]
    cases shown : relevant contract root <;> simp [shown]

theorem foldl_addRoot_blockers {kustomizations : List KustomizationSnapshot} {state : Inventories}
    (clean : (kustomizations.foldl (addRoot contract) state).blockers = []) :
    state.blockers = [] ∧ ∀ root ∈ kustomizations, relevant contract root = true →
      ∃ known, rootBlockers known root = [] := by
  induction kustomizations generalizing state with
  | nil => exact ⟨clean, List.forall_mem_nil _⟩
  | cons root rest ih =>
    rw [List.foldl_cons] at clean
    obtain ⟨before, later⟩ := ih clean
    cases shown : relevant contract root with
    | false =>
      rw [addRoot, shown] at before
      exact ⟨before, List.forall_mem_cons.mpr ⟨by simp [shown], later⟩⟩
    | true =>
      rw [addRoot, shown] at before
      obtain ⟨none, own⟩ := List.append_eq_nil_iff.mp before
      exact ⟨none, List.forall_mem_cons.mpr ⟨fun _ => ⟨_, own⟩, later⟩⟩

structure ReadyRoot (root : KustomizationSnapshot) : Prop where
  space : validDNSLabel root.namespaceName = true
  name : validDNSLabel root.name = true
  inventory : inventoryInvalid root = false
  ready : root.ready = true
  active : root.suspend = some false
  keeps : root.prune = some false

variable {root : KustomizationSnapshot}

theorem rootBlockers_nil {known : Bool}
    (clean : rootBlockers known root = []) : ReadyRoot root := by
  simp only [rootBlockers, List.append_eq_nil_iff, blockIf_eq_nil, Bool.not_eq_false',
    Bool.and_eq_true, ne_eq, decide_not, decide_eq_true_eq, and_assoc] at clean
  obtain ⟨space, name, inventory, -, -, ready, active, -, keeps⟩ := clean
  exact ⟨space, name, inventory, ready, active, keeps⟩

structure Unblocked (contract : Contract) (snapshot : Snapshot) : Prop where
  valid : validateContract contract = .ok ()
  consistent : kustomizationsConsistent snapshot = true
  roots : (inventoryOwners contract snapshot.kustomizations).blockers = []
  declared : undeclaredBlockers contract (inventoryOwners contract snapshot.kustomizations) = []
  selected : ∀ declared ∈ contract.scope.selectedRoots, (reportRoot contract snapshot
    (inventoryOwners contract snapshot.kustomizations) declared).2 = []
  families : ∀ family ∈ contract.requiredFamilies, (reportFamily snapshot
    (inventoryOwners contract snapshot.kustomizations).ownersOf family).2 = []

theorem verify_unblocked {report : Report} (ready : verify contract snapshot = .ok (report, 0)) :
    Unblocked contract snapshot := by
  rw [verify] at ready
  obtain ⟨valid, ready⟩ := check_bind.mp ready
  simp only [pure, Except.pure, Except.ok.injEq, Prod.mk.injEq] at ready
  have status : (verifyReport contract snapshot).status ≠ statusBlocked := by
    intro blocked
    rw [if_pos blocked] at ready
    cases ready.2
  have clean : verifyBlockers contract snapshot = [] := by
    cases found : verifyBlockers contract snapshot with
    | nil => rfl
    | cons blocker rest =>
      refine absurd ?_ status
      simp [verifyReport, found]
  simp only [verifyBlockers, List.append_eq_nil_iff, List.flatMap_eq_nil_iff, blockIf_eq_nil,
    Bool.not_eq_false', and_assoc] at clean
  obtain ⟨-, consistent, roots, declared, selected, families, -⟩ := clean
  exact ⟨valid, consistent, roots, declared, selected, families⟩

theorem Unblocked.distinct (unblocked : Unblocked contract snapshot) :
    (snapshot.kustomizations.map kustomizationKey).Nodup := by
  have consistent := unblocked.consistent
  simp only [kustomizationsConsistent, hasDuplicateKustomizations, Bool.not_not, Bool.and_eq_true,
    decide_eq_true_eq] at consistent
  exact consistent.2

theorem mem_roots (member : root ∈ snapshot.kustomizations)
    (shown : relevant contract root = true) :
    (kustomizationKey root, root) ∈
      (inventoryOwners contract snapshot.kustomizations).roots := by
  rw [inventoryOwners, (foldl_addRoot contract snapshot.kustomizations {}).2]
  simp only [List.append_nil, List.mem_reverse, List.mem_map, List.mem_filter]
  exact ⟨root, ⟨member, shown⟩, rfl⟩

theorem of_mem_roots {key : String}
    (member : (key, root) ∈ (inventoryOwners contract snapshot.kustomizations).roots) :
    root ∈ snapshot.kustomizations ∧ kustomizationKey root = key := by
  rw [inventoryOwners, (foldl_addRoot contract snapshot.kustomizations {}).2] at member
  simp only [List.append_nil, List.mem_reverse, List.mem_map, List.mem_filter,
    Prod.mk.injEq] at member
  obtain ⟨other, ⟨inside, -⟩, sameKey, rfl⟩ := member
  exact ⟨inside, sameKey⟩

section Relevant

variable (unblocked : Unblocked contract snapshot) (member : root ∈ snapshot.kustomizations)
  (shown : relevant contract root = true)

include unblocked member shown

theorem Unblocked.relevant_ready : ReadyRoot root := by
  obtain ⟨known, clean⟩ := (foldl_addRoot_blockers unblocked.roots).2 root member shown
  exact rootBlockers_nil clean

theorem Unblocked.lookup_root :
    (inventoryOwners contract snapshot.kustomizations).roots.lookup (kustomizationKey root) =
      some root := by
  cases found : (inventoryOwners contract snapshot.kustomizations).roots.lookup
      (kustomizationKey root) with
  | none =>
    have absent := List.lookup_eq_none_iff.mp found _ (mem_roots member shown)
    simp at absent
  | some other =>
    obtain ⟨inside, sameKey⟩ := of_mem_roots (mem_of_lookup found)
    rw [List.inj_on_of_nodup_map unblocked.distinct inside member sameKey]

theorem Unblocked.relevant_declared :
    (⟨root.namespaceName, root.name⟩ : NamespacedName) ∈ contract.scope.selectedRoots := by
  have ready := unblocked.relevant_ready member shown
  have nothing := unblocked.declared
  simp only [undeclaredBlockers, List.flatMap_eq_nil_iff, blockIf_eq_nil, List.mem_dedup] at nothing
  have declared := nothing (kustomizationKey root)
    (List.mem_map.mpr ⟨_, mem_roots member shown, rfl⟩)
  simp only [decide_not, Bool.not_eq_false', decide_eq_true_eq] at declared
  obtain ⟨selected, inside, sameKey⟩ := List.mem_map.mp declared
  rw [namespacedNameKey_inj ready.space ready.name sameKey.symm]
  exact inside

theorem Unblocked.relevant_spec :
    rootSpec root ∈ contract.rootSpecs ∧
      root.lastAppliedRevision = snapshot.acceptedSourceRevision := by
  have ready := unblocked.relevant_ready member shown
  have clean := unblocked.selected _ (unblocked.relevant_declared member shown)
  have found := unblocked.lookup_root member shown
  rw [kustomizationKey] at found
  simp only [reportRoot, found, specBlockers, List.append_eq_nil_iff, blockIf_eq_nil,
    Bool.not_eq_false', ne_eq, decide_not, decide_eq_true_eq, and_assoc] at clean
  obtain ⟨suspend, prune, policy, wait, source, path, depends, revision⟩ := clean
  refine ⟨?_, revision⟩
  cases declared : contract.rootSpecs.reverse.find? fun spec =>
      rootSpecKey spec = namespacedNameKey ⟨root.namespaceName, root.name⟩ with
  | none =>
    -- An empty specification would have no suspend flag.
    have empty := equalBoolPointer_eq suspend
    rw [declaredSpec, declared, ready.active] at empty
    cases empty
  | some spec =>
    rw [declaredSpec, declared] at suspend prune policy wait source path depends
    have inside := List.mem_reverse.mp (List.mem_of_find?_eq_some declared)
    have sameKey : rootSpecKey spec = namespacedNameKey ⟨root.namespaceName, root.name⟩ := by
      simpa using List.find?_some declared
    have sameName := namespacedNameKey_inj ready.space ready.name sameKey.symm
    have same : rootSpec root = spec := by
      obtain ⟨sameSpace, sameRoot⟩ := NamespacedName.mk.inj sameName
      cases spec
      simp only [Option.getD_some] at suspend prune policy wait source path depends
      simp only at sameSpace sameRoot
      simp only [rootSpec, RootSpecContract.mk.injEq]
      exact ⟨sameSpace, sameRoot, equalBoolPointer_eq suspend, equalBoolPointer_eq prune, policy,
        equalBoolPointer_eq wait, source, path, depends⟩
    rw [same]
    exact inside

end Relevant

end Roots

/-! ## Occurrences in inventories -/

section Occurrences

variable [Runtime] {contract : Contract}

def occurrences (ref : ResourceRef) (kustomizations : List KustomizationSnapshot) :
    List KustomizationSnapshot :=
  kustomizations.flatMap fun root => (root.inventory.filter fun entry =>
    (parseInventoryEntry entry).toOption = some ref).map fun _ => root

theorem parseInventoryEntry_valid {entry : InventoryEntry} {ref : ResourceRef}
    (parsed : parseInventoryEntry entry = .ok ref) : validateRef ref = .ok () := by
  simp only [parseInventoryEntry, bind_ok] at parsed
  obtain ⟨_, -, _, -, _, -, _, -, _, valid, parsed⟩ := parsed
  cases parsed
  exact valid

theorem relevant_of_scope {ref : ResourceRef} {root : KustomizationSnapshot}
    {entry : InventoryEntry} (listed : entry ∈ root.inventory)
    (parsed : (parseInventoryEntry entry).toOption = some ref)
    (scope : refInAnyFamilyScope ref contract.requiredFamilies = true) :
    relevant contract root = true := by
  have found : (parsedInventory root).any
      (refInAnyFamilyScope · contract.requiredFamilies) = true :=
    List.any_eq_true.mpr ⟨ref, List.mem_filterMap.mpr ⟨entry, listed, parsed⟩, scope⟩
  simp [relevant, found]

theorem relevant_of_occurs {family : ResourceFamily} {ref : ResourceRef}
    {root : KustomizationSnapshot} {entry : InventoryEntry}
    (member : family ∈ contract.requiredFamilies) (sourced : family.sourceState = "sourced")
    (inside : refInFamilyScope ref family = true) (listed : entry ∈ root.inventory)
    (parsed : (parseInventoryEntry entry).toOption = some ref) :
    relevant contract root = true := by
  refine relevant_of_scope listed parsed (List.any_eq_true.mpr ⟨family, member, ?_⟩)
  simp [sourced, inside]

theorem inventory_owners {ref : ResourceRef} (valid : validateRef ref = .ok ())
    (owner : String) (inventory : List InventoryEntry) :
    ((inventory.filter fun entry => (parseInventoryEntry entry).toOption = some ref).map
      fun _ => owner) =
    ((((inventory.filterMap fun entry => (parseInventoryEntry entry).toOption).map fun found =>
      (refKey found, owner)).filter fun pair => pair.1 = refKey ref).map Prod.snd) := by
  induction inventory with
  | nil => rfl
  | cons entry rest ih =>
    cases parsed : parseInventoryEntry entry with
    | error message => simpa [parsed, Except.toOption] using ih
    | ok found =>
      by_cases same : found = ref
      · simpa [parsed, Except.toOption, same] using ih
      · have apart : refKey found ≠ refKey ref := fun equal =>
          same (refKey_inj (validateRef_clean (parseInventoryEntry_valid parsed))
            (validateRef_clean valid) equal)
        simpa [parsed, Except.toOption, same, apart] using ih

theorem occurrences_owners {family : ResourceFamily} {ref : ResourceRef}
    (member : family ∈ contract.requiredFamilies) (sourced : family.sourceState = "sourced")
    (inside : refInFamilyScope ref family = true) (valid : validateRef ref = .ok ())
    (kustomizations : List KustomizationSnapshot) :
    ((occurrences ref kustomizations).map kustomizationKey).Perm
      ((inventoryOwners contract kustomizations).ownersOf (refKey ref)) := by
  have owners := (foldl_addRoot contract kustomizations {}).1
  rw [Inventories.ownersOf, inventoryOwners, owners]
  refine List.Perm.trans (List.Perm.of_eq ?_) (List.perm_insertionSort _ _).symm
  clear owners
  rw [occurrences, List.nil_append]
  induction kustomizations with
  | nil => rfl
  | cons root rest ih =>
    rw [List.flatMap_cons, List.map_append, ih, List.map_map]
    have own := inventory_owners valid (kustomizationKey root) root.inventory
    cases shown : relevant contract root with
    | true =>
      rw [List.filter_cons, shown, if_pos rfl, List.flatMap_cons, List.filter_append,
        List.map_append]
      congr 1
    | false =>
      have none : root.inventory.filter (fun entry =>
          (parseInventoryEntry entry).toOption = some ref) = [] := by
        rw [List.filter_eq_nil_iff]
        intro entry listed parsed
        rw [relevant_of_occurs member sourced inside listed (by simpa using parsed)] at shown
        cases shown
      rw [List.filter_cons, shown, if_neg (by simp), none]
      rfl

end Occurrences

/-! ## Families -/

section Families

variable {family : ResourceFamily} {ownersOf : String → List String}

structure CleanObject (family : ResourceFamily) (ownersOf : String → List String)
    (ref : ResourceRef) : Prop where
  inside : refInFamilyScope ref family = true
  external : refKey ref ∈ family.discovery.externalObjects.map refKey → ownersOf (refKey ref) = []
  expected : refKey ref ∉ family.discovery.externalObjects.map refKey →
    refKey ref ∈ family.expectedObjects.map refKey ∧
      ownersOf (refKey ref) = [namespacedNameKey family.expectedOwner]

theorem observeObject_observed {tally : Tally} {ref : ResourceRef}
    (fresh : refKey ref ∉ tally.observed) :
    (observeObject family ownersOf tally ref).observed = refKey ref :: tally.observed := by
  simp only [observeObject, if_neg fresh]
  repeat' split
  all_goals rfl

theorem blockers_block (tally : Tally) (id message name object : String) :
    (tally.block id message name object).blockers ≠ [] := by
  simp [Tally.block]

theorem blockers_if {condition : Prop} [Decidable condition] {tally next : Tally}
    {id message name object : String}
    (clean : (if condition then tally.block id message name object else next).blockers = []) :
    ¬condition ∧ next.blockers = [] := by
  by_cases holds : condition
  · rw [if_pos holds] at clean
    exact absurd clean (blockers_block _ _ _ _ _)
  · rw [if_neg holds] at clean
    exact ⟨holds, clean⟩

theorem observeObject_clean {tally : Tally} {ref : ResourceRef}
    (clean : (observeObject family ownersOf tally ref).blockers = []) :
    tally.blockers = [] ∧ refKey ref ∉ tally.observed ∧ CleanObject family ownersOf ref := by
  obtain ⟨seen, clean⟩ := blockers_if clean
  obtain ⟨inside, clean⟩ := blockers_if clean
  rw [Bool.not_eq_true', Bool.not_eq_false] at inside
  by_cases external : refKey ref ∈ family.discovery.externalObjects.map refKey
  · rw [if_pos external] at clean
    obtain ⟨owned, clean⟩ := blockers_if clean
    exact ⟨clean, seen, inside, fun _ => not_not.mp owned, absurd external⟩
  · rw [if_neg external] at clean
    obtain ⟨expected, clean⟩ := blockers_if clean
    rcases owners : ownersOf (refKey ref) with _ | ⟨owner, _ | ⟨second, more⟩⟩
    · rw [owners] at clean
      exact absurd clean (blockers_block _ _ _ _ _)
    · rw [owners] at clean
      obtain ⟨same, clean⟩ := blockers_if clean
      exact ⟨clean, seen, inside, fun other => absurd other external,
        fun _ => ⟨not_not.mp expected, by rw [owners, not_not.mp same]⟩⟩
    · rw [owners] at clean
      exact absurd clean (blockers_block _ _ _ _ _)

theorem observed_clean {objects : List ResourceRef} {tally : Tally}
    (clean : (objects.foldl (observeObject family ownersOf) tally).blockers = []) :
    tally.blockers = [] ∧ (∀ ref ∈ objects, CleanObject family ownersOf ref) ∧
      (tally.observed.Nodup →
        (objects.foldl (observeObject family ownersOf) tally).observed.Nodup) ∧
      (objects.foldl (observeObject family ownersOf) tally).observed =
        (objects.map refKey).reverse ++ tally.observed := by
  induction objects generalizing tally with
  | nil =>
    exact ⟨clean, List.forall_mem_nil _, fun distinct => distinct, rfl⟩
  | cons ref rest ih =>
    rw [List.foldl_cons] at clean ⊢
    obtain ⟨step, later, distinct, keys⟩ := ih clean
    obtain ⟨before, fresh, own⟩ := observeObject_clean step
    have observed : (observeObject family ownersOf tally ref).observed =
        refKey ref :: tally.observed := observeObject_observed fresh
    refine ⟨before, List.forall_mem_cons.mpr ⟨own, later⟩, ?_, ?_⟩
    · intro known
      refine distinct ?_
      rw [observed, List.nodup_cons]
      exact ⟨fresh, known⟩
    · rw [keys, observed, List.map_cons, List.reverse_cons, List.append_assoc,
        List.singleton_append]

theorem collection_exact (labels : ∀ namespaceName ∈ family.discovery.namespaces,
      validDNSLabel namespaceName = true)
    (inScope : ∀ ref ∈ family.expectedObjects ++ family.discovery.externalObjects,
      refInFamilyScope ref family = true)
    (distinct : ((family.expectedObjects ++ family.discovery.externalObjects).map refKey).Nodup)
    {collection : FamilyCollection}
    (clean : (reportCollection family ownersOf collection).2 = []) :
    collection.objects.Nodup ∧
      collection.objects.Perm (family.expectedObjects ++ family.discovery.externalObjects) ∧
      ∀ ref ∈ collection.objects, CleanObject family ownersOf ref := by
  simp only [reportCollection, missingBlockers, List.append_eq_nil_iff, List.flatMap_eq_nil_iff,
    blockIf_eq_nil, decide_not, Bool.not_eq_false', decide_eq_true_eq, and_assoc] at clean
  obtain ⟨-, tally, missing, missingExternal, -⟩ := clean
  obtain ⟨-, each, nodup, keys⟩ := observed_clean tally
  have observed : ∀ key, key ∈ (collection.objects.foldl (observeObject family ownersOf)
      {}).observed ↔ key ∈ collection.objects.map refKey := by
    intro key
    rw [keys, List.append_nil, List.mem_reverse]
  have keysDistinct : (collection.objects.map refKey).Nodup := by
    have all := nodup List.nodup_nil
    rwa [keys, List.append_nil, List.nodup_reverse] at all
  have objectsDistinct : collection.objects.Nodup := keysDistinct.of_map refKey
  have sameRef : ∀ ref ∈ collection.objects, ∀ other ∈
      family.expectedObjects ++ family.discovery.externalObjects,
      refKey ref = refKey other → ref = other := fun ref member other declared =>
    refInFamilyScope_inj labels (each ref member).inside (inScope other declared)
  refine ⟨objectsDistinct, (List.perm_ext_iff_of_nodup objectsDistinct (distinct.of_map refKey)).mpr
    fun ref => ⟨fun member => ?_, fun declared => ?_⟩, each⟩
  · have key : refKey ref ∈
        (family.expectedObjects ++ family.discovery.externalObjects).map refKey := by
      rw [List.map_append, List.mem_append]
      by_cases external : refKey ref ∈ family.discovery.externalObjects.map refKey
      · exact Or.inr external
      · exact Or.inl ((each ref member).expected external).1
    obtain ⟨other, inside, sameKey⟩ := List.mem_map.mp key
    rw [sameRef ref member other inside sameKey.symm]
    exact inside
  · have key : refKey ref ∈ collection.objects.map refKey := by
      rw [← observed]
      rcases List.mem_append.mp declared with expected | external
      · exact missing ref expected
      · exact missingExternal ref external
    obtain ⟨other, member, sameKey⟩ := List.mem_map.mp key
    rw [← sameRef other member ref declared sameKey]
    exact member

end Families

/-! ## Soundness -/

section Soundness

variable [Runtime] {contract : Contract} {snapshot : Snapshot}

theorem Unblocked.family (unblocked : Unblocked contract snapshot) {family : ResourceFamily}
    (member : family ∈ contract.requiredFamilies) :
    family.sourceState = "sourced" ∧ ValidFamily family ∧
    ∃ collection, snapshot.collections.lookup family.id = some collection ∧
      collection.objects.Nodup ∧
      collection.objects.Perm (family.expectedObjects ++ family.discovery.externalObjects) ∧
      ∀ ref ∈ collection.objects, CleanObject family
        (inventoryOwners contract snapshot.kustomizations).ownersOf ref := by
  have clean := unblocked.families family member
  rw [reportFamily] at clean
  obtain ⟨valid, sourced | missing⟩ := validateContract_families unblocked.valid family member
  · rw [if_neg (by rw [sourced]; decide)] at clean
    cases found : snapshot.collections.lookup family.id with
    | none =>
      rw [found] at clean
      simp [blockIf] at clean
    | some collection =>
      rw [found] at clean
      have inScope := List.forall_mem_append.mpr
        ⟨fun ref expected => (valid.expected ref expected).2,
        fun ref external => (valid.external ref external).2⟩
      exact ⟨sourced, valid, collection, rfl,
        collection_exact valid.namespaces inScope valid.distinct clean⟩
  · rw [if_pos missing] at clean
    simp [blockIf] at clean

theorem Unblocked.expected (unblocked : Unblocked contract snapshot) {family : ResourceFamily}
    (member : family ∈ contract.requiredFamilies) {ref : ResourceRef}
    (declared : ref ∈ family.expectedObjects) :
    ∃ root, occurrences ref snapshot.kustomizations = [root] ∧
      (⟨root.namespaceName, root.name⟩ : NamespacedName) = family.expectedOwner := by
  obtain ⟨sourced, valid, collection, -, -, exactly, clean⟩ := unblocked.family member
  have inside := List.mem_append_left family.discovery.externalObjects declared
  have own := clean ref (exactly.mem_iff.mpr inside)
  have apart : refKey ref ∉ family.discovery.externalObjects.map refKey := by
    have distinct := valid.distinct
    rw [List.map_append, List.nodup_append] at distinct
    intro external
    exact distinct.2.2 _ (List.mem_map_of_mem declared) _ external rfl
  obtain ⟨checked, scope⟩ := valid.expected ref declared
  have owners := occurrences_owners member sourced scope checked snapshot.kustomizations
  rw [(own.expected apart).2, List.perm_singleton] at owners
  obtain ⟨root, single, key⟩ := List.map_eq_singleton_iff.mp owners
  refine ⟨root, single, ?_⟩
  have occurs : root ∈ occurrences ref snapshot.kustomizations := by
    rw [single]
    exact List.mem_singleton_self root
  obtain ⟨found, listed, entries⟩ := List.mem_flatMap.mp occurs
  obtain ⟨entry, parsed, rfl⟩ := List.mem_map.mp entries
  obtain ⟨inInventory, parsed⟩ := List.mem_filter.mp parsed
  have shown := relevant_of_occurs member sourced scope inInventory (by simpa using parsed)
  have ready := unblocked.relevant_ready listed shown
  exact namespacedNameKey_inj ready.space ready.name key

theorem Unblocked.external (unblocked : Unblocked contract snapshot) {family : ResourceFamily}
    (member : family ∈ contract.requiredFamilies) {ref : ResourceRef}
    (declared : ref ∈ family.discovery.externalObjects) :
    occurrences ref snapshot.kustomizations = [] := by
  obtain ⟨sourced, valid, collection, -, -, exactly, clean⟩ := unblocked.family member
  have inside := List.mem_append_right family.expectedObjects declared
  have own := clean ref (exactly.mem_iff.mpr inside)
  obtain ⟨checked, scope⟩ := valid.external ref declared
  have owners := occurrences_owners member sourced scope checked snapshot.kustomizations
  rw [own.external (List.mem_map_of_mem declared), List.perm_nil] at owners
  exact List.map_eq_nil_iff.mp owners

/-- A root that uses the accepted source, or whose inventory has an entry that is in scope or
cannot be read. -/
def Concerned (contract : Contract) (root : KustomizationSnapshot) : Prop :=
  sourceMatches contract.sourceArtifact root = true ∨
    ∃ entry ∈ root.inventory, (parseInventoryEntry entry).isOk = false ∨
      ∃ ref, parseInventoryEntry entry = .ok ref ∧
        refInAnyFamilyScope ref contract.requiredFamilies = true

theorem Concerned.relevant {root : KustomizationSnapshot} (concerned : Concerned contract root) :
    relevant contract root = true := by
  rcases concerned with source | ⟨entry, listed, unreadable | ⟨ref, parsed, scope⟩⟩
  · simp [GitOpsOwnership.relevant, source]
  · have invalid : inventoryInvalid root = true :=
      List.any_eq_true.mpr ⟨entry, listed, by simp [unreadable]⟩
    simp [GitOpsOwnership.relevant, invalid]
  · exact relevant_of_scope listed (by rw [parsed]; rfl) scope

/-- If the verifier returns exit code zero, every family has a source; its collection holds exactly
its expected and its external objects, each once; every expected object occurs in one inventory
entry over all Kustomizations, of its declared owner; no external object occurs in an inventory; and
every Kustomization that uses the accepted source, or has an entry that is in scope or cannot be
read, is a declared root that is ready, not suspended and does not prune, with the specification
digest of the contract and the accepted revision. -/
theorem verify_sound (contract : Contract) (snapshot : Snapshot) (report : Report)
    (ready : verify contract snapshot = .ok (report, 0)) :
    (∀ family ∈ contract.requiredFamilies,
      family.sourceState = "sourced" ∧
      (∃ collection, snapshot.collections.lookup family.id = some collection ∧
        collection.objects.Nodup ∧
        collection.objects.Perm (family.expectedObjects ++ family.discovery.externalObjects)) ∧
      (∀ ref ∈ family.expectedObjects,
        ∃ root, occurrences ref snapshot.kustomizations = [root] ∧
          (⟨root.namespaceName, root.name⟩ : NamespacedName) = family.expectedOwner) ∧
      (∀ ref ∈ family.discovery.externalObjects,
        occurrences ref snapshot.kustomizations = [])) ∧
    (∀ root ∈ snapshot.kustomizations, Concerned contract root →
      (⟨root.namespaceName, root.name⟩ : NamespacedName) ∈ contract.scope.selectedRoots ∧
      root.ready = true ∧ root.suspend = some false ∧ root.prune = some false ∧
      (∃ spec ∈ contract.rootSpecs, spec.namespaceName = root.namespaceName ∧
        spec.name = root.name ∧ rootSpecSHA256 root = specSHA256 spec) ∧
      root.lastAppliedRevision = snapshot.acceptedSourceRevision) := by
  have unblocked := verify_unblocked ready
  refine ⟨fun family member => ?_, fun root member concerned => ?_⟩
  · obtain ⟨sourced, -, collection, found, nodup, exactly, -⟩ := unblocked.family member
    exact ⟨sourced, ⟨collection, found, nodup, exactly⟩,
      fun ref declared => unblocked.expected member declared,
      fun ref declared => unblocked.external member declared⟩
  · have shown := concerned.relevant
    have isReady := unblocked.relevant_ready member shown
    obtain ⟨spec, revision⟩ := unblocked.relevant_spec member shown
    exact ⟨unblocked.relevant_declared member shown, isReady.ready, isReady.active, isReady.keeps,
      ⟨rootSpec root, spec, rfl, rfl, rfl⟩, revision⟩

theorem verify_of_unblocked (valid : validateContract contract = .ok ())
    (clean : verifyBlockers contract snapshot = []) :
    verify contract snapshot = .ok (verifyReport contract snapshot, 0) := by
  have status : (verifyReport contract snapshot).status = statusReady := by
    simp [verifyReport, clean]
  have differ : statusReady ≠ statusBlocked := by decide
  rw [verify, valid]
  simp only [status, if_neg differ]
  rfl

end Soundness

section Sample

attribute [local instance] plainRuntime

def sampleCommit : String := "0123456789012345678901234567890123456789"

def sampleRevision : String := "main@sha1:" ++ sampleCommit

def sampleDigest : String :=
  "sha256:0123456789012345678901234567890123456789012345678901234567890123"

def ownedFamily : ResourceFamily where
  id := "settings"
  apiVersion := "v1"
  kind := "ConfigMap"
  resource := "configmaps"
  namespaced := true
  labelSelector := ""
  discovery := ⟨"closed-world", ["apps"], [⟨"v1", "ConfigMap", "apps", "b"⟩]⟩
  minimumCount := 1
  critical := true
  sourceState := "sourced"
  expectedOwner := ⟨"flux-system", "apps"⟩
  expectedObjects := [⟨"v1", "ConfigMap", "apps", "a"⟩]
  missingSourceBlocker := ""

def ownerSpec : RootSpecContract where
  namespaceName := "flux-system"
  name := "apps"
  suspend := some false
  prune := some false
  deletionPolicy := "Orphan"
  wait := some true
  sourceRef := ⟨"GitRepository", "flux-system", "cloud"⟩
  path := "./apps"
  dependsOn := some []

def sampleContract : Contract where
  apiVersion := contractAPIVersion
  kind := contractKind
  metadataName := "ownership"
  scope := ⟨"apps", true, "nothing else", ["settings"], [⟨"flux-system", "apps"⟩]⟩
  sourceArtifact := ⟨"GitRepository", "flux-system", "cloud", sampleCommit⟩
  rootSpecs := [ownerSpec]
  requiredFamilies := [ownedFamily]
  allowUnmanaged := []
  pruneGate := [⟨"flux-system", "apps"⟩]
  driftProof := ⟨driftMode, ⟨"v1", "ConfigMap", "apps", "a"⟩, ⟨"flux-system", "apps"⟩,
    ["baseline", "controlled-drift", "reconciled"], "separate-explicit-approval-required"⟩

def ownerRoot : KustomizationSnapshot where
  namespaceName := "flux-system"
  name := "apps"
  generation := 1
  observedGeneration := 1
  ready := true
  suspend := some false
  prune := some false
  deletionPolicy := "Orphan"
  wait := some true
  sourceRef := ⟨"GitRepository", "flux-system", "cloud"⟩
  path := "./apps"
  dependsOn := some []
  lastAppliedRevision := sampleRevision
  inventory := [⟨"apps_a__ConfigMap", "v1"⟩]

def sampleSnapshot : Snapshot where
  kustomizations := [ownerRoot]
  kustomizationsComplete := true
  kustomizationsRVHash := sampleDigest
  kustomizationsPageCount := 1
  kustomizationsItemCount := 1
  collections := [("settings", ⟨true, sampleDigest, 1, 2,
    [⟨"v1", "ConfigMap", "apps", "a"⟩, ⟨"v1", "ConfigMap", "apps", "b"⟩]⟩)]
  sourceArtifact := ⟨"GitRepository", "flux-system", "cloud", 1, 1, true, sampleRevision,
    sampleDigest⟩
  acceptedSourceRevision := sampleRevision
  acceptedArtifactDigest := sampleDigest
  acceptedPublicGitlinkSHA := sampleCommit
  observedPublicGitlinkSHA := sampleCommit

theorem sampleSnapshot_accepted : verify sampleContract sampleSnapshot =
    .ok (verifyReport sampleContract sampleSnapshot, 0) := by
  refine verify_of_unblocked (isOk_iff.mp ?_) ?_
  · decide +kernel
  · decide +kernel

/-- The one expected object of the accepted snapshot occurs in the inventory of its owner only. -/
theorem verify_sound_sample :
    verify sampleContract sampleSnapshot =
      .ok (verifyReport sampleContract sampleSnapshot, 0) ∧
    ∃ root, occurrences ⟨"v1", "ConfigMap", "apps", "a"⟩ [ownerRoot] = [root] ∧
      (⟨root.namespaceName, root.name⟩ : NamespacedName) = ⟨"flux-system", "apps"⟩ := by
  have sound := verify_sound sampleContract sampleSnapshot _ sampleSnapshot_accepted
  exact ⟨sampleSnapshot_accepted,
    (sound.1 ownedFamily List.mem_cons_self).2.2.1 _ List.mem_cons_self⟩

end Sample

end CloudRing.GitOpsOwnership
