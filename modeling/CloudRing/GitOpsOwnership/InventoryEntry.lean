import CloudRing.GitOpsOwnership.Collection
import CloudRing.GitOpsOwnership.Verify
import Mathlib.Data.List.Chain

/-!
# Inventory entries

The entry that an inventory keeps for a reference, and when it is read back as the reference.
-/

namespace CloudRing.GitOpsOwnership

open Library

/-- `strings.ReplaceAll` of a colon by two underscores. -/
def underscores (name : List Char) : List Char :=
  name.flatMap fun char => if char = ':' then ['_', '_'] else [char]

def inventoryID [Runtime] (ref : ResourceRef) : Except String InventoryEntry := do
  validateRef ref
  let (group, version) := match Pattern.cut '/' ref.apiVersion with
    | (group, some version) => (group, version)
    | (version, none) => ("", version)
  let name := if isRBACResource group ref.kind then String.ofList (underscores ref.name.toList)
    else ref.name
  return { id := String.intercalate "_" [ref.namespaceName, name, group, ref.kind], version }

/-- No underscore stands right before an underscore or a colon. -/
def PlainName (name : List Char) : Prop :=
  name.IsChain fun char next => char = '_' → next ≠ '_' ∧ next ≠ ':'

variable {name : List Char} {ref : ResourceRef}

theorem head_underscores : (underscores name).head? = some '_' ↔
    ∃ next ∈ name.head?, next = '_' ∨ next = ':' := by
  cases name with
  | nil => simp [underscores]
  | cons next rest =>
    by_cases colon : next = ':'
    · simp [underscores, colon]
    · simp [underscores, colon]

/-- Two underscores of the name itself are read as a colon too. -/
theorem colons_underscores_iff : colons (underscores name) = name ↔ PlainName name := by
  induction name with
  | nil => exact ⟨fun _ => .nil, fun _ => rfl⟩
  | cons char rest ih =>
    have chained : PlainName (char :: rest) ↔ (∀ next ∈ rest.head?, char = '_' →
        next ≠ '_' ∧ next ≠ ':') ∧ PlainName rest := List.isChain_cons
    rw [underscores, List.flatMap_cons, ← underscores, chained, ← ih]
    by_cases colon : char = ':'
    · simp [colon, colons]
    · rw [if_neg colon, List.singleton_append]
      by_cases clash : char = '_' ∧ (underscores rest).head? = some '_'
      · obtain ⟨rfl, starts⟩ := clash
        obtain ⟨next, first, either⟩ := head_underscores.mp starts
        obtain ⟨more, shape⟩ := List.head?_eq_some_iff.mp starts
        have differs : ¬(next ≠ '_' ∧ next ≠ ':') := by grind
        simp only [shape, colons, List.cons.injEq, Char.reduceEq, false_and, false_iff, not_and]
        exact fun apart => absurd (apart next first trivial) differs
      · have apart : ∀ next ∈ rest.head?, char = '_' → next ≠ '_' ∧ next ≠ ':' := by
          intro next first underscore
          have other := fun either => clash ⟨underscore, head_underscores.mpr ⟨next, first, either⟩⟩
          exact not_or.mp other
        rw [colons, List.cons.injEq]
        · exact ⟨fun same => ⟨apart, same.2⟩, fun same => ⟨rfl, same.2⟩⟩
        · intro more underscore shape
          exact clash ⟨underscore, by rw [shape, List.head?_cons]⟩

theorem underscores_eq (clean : ':' ∉ name) : underscores name = name := by
  have single : ∀ char ∈ name, (if char = ':' then ['_', '_'] else [char]) = [char] :=
    fun char member => if_neg (ne_of_mem_of_not_mem member clean)
  rw [underscores, List.flatMap_congr single, List.flatMap_singleton']

theorem cutLast_join {separator : Char} {before after : String}
    (clean : separator ∉ after.toList) :
    cutLast separator (before ++ String.singleton separator ++ after) = some (before, after) := by
  have turned : String.ofList (before ++ String.singleton separator ++ after).toList.reverse =
      String.ofList after.toList.reverse ++ String.singleton separator ++
        String.ofList before.toList.reverse := by
    rw [← String.toList_inj]
    simp
  rw [cutLast, turned, Pattern.cut_join (by simpa using clean)]
  simp

section Entries

variable [Runtime]

/-- The entry of an accepted reference, in which the name is escaped whatever the resource is:
other names hold no colon. -/
theorem inventoryID_ok (valid : validateRef ref = .ok ()) : ∃ group version,
    inventoryID ref = .ok { id := ref.namespaceName ++ "_" ++
      (String.ofList (underscores ref.name.toList) ++ "_" ++ group ++ "_" ++ ref.kind), version } ∧
    '_' ∉ group.toList ∧ validDNS1035Label version = true ∧
    (if group = "" then version else group ++ "/" ++ version) = ref.apiVersion := by
  obtain ⟨accepted, -, named, -⟩ := validateRef_ok.mp valid
  have escaped : ∀ group, isRBACResource group ref.kind =
      isRBACResource (Pattern.cut '/' ref.apiVersion).1 ref.kind →
      (if isRBACResource group ref.kind then String.ofList (underscores ref.name.toList)
        else ref.name) = String.ofList (underscores ref.name.toList) := by
    intro group same
    rw [validResourceName, ← same] at named
    split
    · rfl
    · rename_i other
      rw [if_neg other] at named
      rw [underscores_eq (validDNSSubdomain_clean (by decide) named), String.ofList_toList]
  have joined : ∀ name group, String.intercalate "_" [ref.namespaceName, name, group, ref.kind] =
      ref.namespaceName ++ "_" ++ (name ++ "_" ++ group ++ "_" ++ ref.kind) := by
    intro name group
    change ref.namespaceName ++ "_" ++ name ++ "_" ++ group ++ "_" ++ ref.kind = _
    simp only [String.append_assoc]
  rw [validAPIVersion] at accepted
  rcases parts : Pattern.cut '/' ref.apiVersion with ⟨group, _ | version⟩
  · rw [parts] at accepted escaped
    have whole := Pattern.cut_none parts
    have core : isRBACResource "" ref.kind = isRBACResource group ref.kind := by
      have other : group ≠ "rbac.authorization.k8s.io" := by
        rintro rfl
        revert accepted
        decide
      simp [isRBACResource, other]
    refine ⟨"", group, ?_, List.not_mem_nil, accepted, (if_pos rfl).trans whole.symm⟩
    simp only [inventoryID, valid, parts, escaped _ core, ok_bind, joined]
    rfl
  · simp only [parts, Bool.and_eq_true] at accepted escaped
    have whole := Pattern.cut_some parts
    have filled : group ≠ "" := by
      rintro rfl
      exact absurd accepted.1.2 (by decide)
    refine ⟨group, version, ?_, validDNSSubdomain_clean (by decide) accepted.1.2, accepted.2, ?_⟩
    · simp only [inventoryID, valid, parts, escaped _ rfl, ok_bind, joined]
      rfl
    · rw [if_neg filled, ← String.toList_inj, whole]
      simp

theorem parseInventoryEntry_inventoryID (valid : validateRef ref = .ok ()) :
    inventoryID ref >>= parseInventoryEntry = .ok ref ↔ PlainName ref.name.toList := by
  obtain ⟨group, version, entry, clean, label, whole⟩ := inventoryID_ok valid
  obtain ⟨-, kind, -, place⟩ := validateRef_ok.mp valid
  have space : '_' ∉ ref.namespaceName.toList := by
    rcases place with empty | label
    · rw [empty]
      exact List.not_mem_nil
    · exact validDNSLabel_clean (by decide) label
  have cutSpace : ∀ after, Pattern.cut '_' (ref.namespaceName ++ "_" ++ after) =
      (ref.namespaceName, some after) := fun _ => Pattern.cut_join space
  have cutKind : ∀ before, cutLast '_' (before ++ "_" ++ ref.kind) = some (before, ref.kind) :=
    fun _ => cutLast_join (validKind_clean (by decide) (by decide) (by decide) kind)
  have cutGroup : ∀ before, cutLast '_' (before ++ "_" ++ group) = some (before, group) :=
    fun _ => cutLast_join clean
  simp only [entry, ok_bind, parseInventoryEntry, ensure, label, if_true, cutSpace, cutKind,
    cutGroup, require, whole, String.toList_ofList, ← colons_underscores_iff]
  constructor
  · intro parsed
    obtain ⟨_, -, same⟩ := bind_ok.mp parsed
    have names := congrArg ResourceRef.name (Except.ok.inj same)
    rwa [← String.toList_inj, String.toList_ofList] at names
  · intro same
    rw [same, String.ofList_toList]
    exact bind_ok.mpr ⟨(), valid, rfl⟩

theorem inventoryID_reads_back_iff (valid : validateRef ref = .ok ()) :
    (inventoryID ref >>= parseInventoryEntry = .ok ref ↔ PlainName ref.name.toList) ∧
      ∀ other, validateRef other = .ok () → PlainName ref.name.toList →
        PlainName other.name.toList → inventoryID ref = inventoryID other → ref = other := by
  refine ⟨parseInventoryEntry_inventoryID valid, fun other valid' plain plain' same => ?_⟩
  have read := (parseInventoryEntry_inventoryID valid).mpr plain
  have read' := (parseInventoryEntry_inventoryID valid').mpr plain'
  rw [same, read'] at read
  exact (Except.ok.inj read).symm

/-- The maps keyed by `refKey` tell all objects apart. -/
theorem refKey_eq_iff {other : ResourceRef} (valid : validateRef ref = .ok ())
    (valid' : validateRef other = .ok ()) : refKey ref = refKey other ↔ ref = other :=
  ⟨refKey_inj (validateRef_clean valid) (validateRef_clean valid'), congrArg refKey⟩

end Entries

attribute [local instance] plainRuntime

def clusterRole (name : String) : ResourceRef :=
  ⟨"rbac.authorization.k8s.io/v1", "ClusterRole", "", name⟩

theorem refKey_colon : validateRef (clusterRole "a:b") = .ok () ∧
    validateRef (clusterRole "a__b") = .ok () ∧
    refKey (clusterRole "a:b") ≠ refKey (clusterRole "a__b") := by
  have valid : validateRef (clusterRole "a:b") = .ok () := by decide +kernel
  have valid' : validateRef (clusterRole "a__b") = .ok () := by decide +kernel
  exact ⟨valid, valid', fun same => absurd ((refKey_eq_iff valid valid').mp same) (by decide)⟩

theorem inventoryID_reads_back_system : validateRef (clusterRole "system:node") = .ok () ∧
    inventoryID (clusterRole "system:node") >>= parseInventoryEntry =
      .ok (clusterRole "system:node") := by
  have valid : validateRef (clusterRole "system:node") = .ok () := by decide +kernel
  have plain : PlainName "system:node".toList := by
    simp [PlainName]
  exact ⟨valid, (inventoryID_reads_back_iff valid).1.mpr plain⟩

theorem inventoryID_doubled_underscore : validateRef (clusterRole "a__b") = .ok () ∧
    inventoryID (clusterRole "a__b") = inventoryID (clusterRole "a:b") ∧
    inventoryID (clusterRole "a__b") >>= parseInventoryEntry = .ok (clusterRole "a:b") := by
  decide +kernel

end CloudRing.GitOpsOwnership
