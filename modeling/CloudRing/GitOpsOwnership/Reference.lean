import CloudRing.Library.Pattern

/-!
# References to Kubernetes objects

References to objects, the families they belong to, and the texts that key the maps.
-/

namespace CloudRing.GitOpsOwnership

open Library

/-- What the package takes from the standard library: case mapping, SHA-256 as lower-case
hexadecimal text, and quoting. -/
class Runtime where
  toLower : Char → Char
  toLower_ascii : ∀ char : Char, char.toNat < 128 → toLower char = char.toLower
  sha256 : String → String
  quote : String → String

structure NamespacedName where
  (namespaceName name : String)
  deriving DecidableEq, Repr, Inhabited

structure ResourceRef where
  (apiVersion kind namespaceName name : String)
  deriving DecidableEq, Repr, Inhabited

structure Discovery where
  mode : String
  namespaces : List String
  externalObjects : List ResourceRef
  deriving DecidableEq, Repr, Inhabited

structure ResourceFamily where
  (id apiVersion kind resource : String)
  namespaced : Bool
  labelSelector : String
  discovery : Discovery
  minimumCount : Int
  critical : Bool
  sourceState : String
  expectedOwner : NamespacedName
  expectedObjects : List ResourceRef
  missingSourceBlocker : String
  deriving DecidableEq, Repr, Inhabited

def discoveryModeClosedWorld : String := "closed-world"

/-- The class `[-a-z0-9]`. -/
def isLabelChar (char : Char) : Bool := char = '-' || Pattern.isLowerOrDigit char

/-- The class `[-a-z0-9.]`. -/
def isSubdomainChar (char : Char) : Bool := char = '.' || isLabelChar char

/-- `validDNSLabel`: at most 63 bytes of `^[a-z0-9](?:[-a-z0-9]*[a-z0-9])?$`. -/
def validDNSLabel (value : String) : Bool :=
  value.utf8ByteSize ≤ 63 &&
    Pattern.bracketed Pattern.isLowerOrDigit isLabelChar Pattern.isLowerOrDigit value

/-- `validDNSSubdomain`: labels joined by dots, at most 253 bytes in all. -/
def validDNSSubdomain (value : String) : Bool :=
  value.utf8ByteSize ≠ 0 && value.utf8ByteSize ≤ 253 &&
    Pattern.bracketed Pattern.isLowerOrDigit isSubdomainChar Pattern.isLowerOrDigit value &&
    ((value.toList.splitOn '.').map String.ofList).all validDNSLabel

/-- `validDNS1035Label`: at most 63 bytes of `^[a-z](?:[-a-z0-9]*[a-z0-9])?$`. -/
def validDNS1035Label (value : String) : Bool :=
  value.utf8ByteSize ≤ 63 &&
    Pattern.bracketed Pattern.isLower isLabelChar Pattern.isLowerOrDigit value

def validAPIVersion (value : String) : Bool :=
  match Pattern.cut '/' value with
  | (group, none) => validDNS1035Label group
  | (group, some version) =>
    '/' ∉ version.toList && validDNSSubdomain group && validDNS1035Label version

def validKind [Runtime] (value : String) : Bool :=
  validDNS1035Label (String.ofList (value.toList.map Runtime.toLower))

def isRBACResource (group kind : String) : Bool :=
  group = "rbac.authorization.k8s.io" &&
    kind ∈ ["Role", "ClusterRole", "RoleBinding", "ClusterRoleBinding"]

/-- `validResourceName`: the names of access rules are freer than those of other objects. -/
def validResourceName (group kind name : String) : Bool :=
  if isRBACResource group kind then
    name ≠ "" && name ≠ "." && name ≠ ".." && '/' ∉ name.toList && '%' ∉ name.toList
  else validDNSSubdomain name

def validateRef [Runtime] (ref : ResourceRef) : Except String Unit :=
  if !validAPIVersion ref.apiVersion || !validKind ref.kind ||
      !validResourceName (Pattern.cut '/' ref.apiVersion).1 ref.kind ref.name then
    .error "resource reference requires apiVersion, kind, and name"
  else if ref.namespaceName ≠ "" && !validDNSLabel ref.namespaceName then
    .error "resource namespace must be a Kubernetes DNS label"
  else .ok ()

def location (ref : ResourceRef) : String :=
  if ref.namespaceName ≠ "" then ref.namespaceName ++ "/" ++ ref.name else ref.name

def refKey (ref : ResourceRef) : String :=
  ref.apiVersion ++ ":" ++ ref.kind ++ ":" ++ location ref

def namespacedNameKey (value : NamespacedName) : String :=
  value.namespaceName ++ "/" ++ value.name

def refInFamilyScope (ref : ResourceRef) (family : ResourceFamily) : Bool :=
  ref.apiVersion = family.apiVersion && ref.kind = family.kind &&
    if family.namespaced then ref.namespaceName ∈ family.discovery.namespaces
    else ref.namespaceName = ""

/-! ## Keys -/

variable {other ref : ResourceRef} {value : String}

section Clean

variable {char : Char} (outside : isSubdomainChar char = false)

include outside

theorem isSubdomainChar_outside : Pattern.isLower char = false ∧
    Pattern.isLowerOrDigit char = false ∧ isLabelChar char = false := by
  simp only [isSubdomainChar, isLabelChar, Pattern.isLowerOrDigit, Bool.or_eq_false_iff]
    at outside ⊢
  exact ⟨outside.2.2.1, outside.2.2, outside.2⟩

theorem validDNSLabel_clean (valid : validDNSLabel value = true) : char ∉ value.toList := by
  obtain ⟨-, digit, label⟩ := isSubdomainChar_outside outside
  simp only [validDNSLabel, Bool.and_eq_true] at valid
  exact Pattern.bracketed_notMem valid.2 digit label digit

theorem validDNS1035Label_clean (valid : validDNS1035Label value = true) :
    char ∉ value.toList := by
  obtain ⟨lower, digit, label⟩ := isSubdomainChar_outside outside
  simp only [validDNS1035Label, Bool.and_eq_true] at valid
  exact Pattern.bracketed_notMem valid.2 lower label digit

theorem validDNSSubdomain_clean (valid : validDNSSubdomain value = true) :
    char ∉ value.toList := by
  obtain ⟨-, digit, -⟩ := isSubdomainChar_outside outside
  simp only [validDNSSubdomain, Bool.and_eq_true] at valid
  exact Pattern.bracketed_notMem valid.1.2 digit outside digit

theorem validKind_clean [Runtime] (ascii : char.toNat < 128) (caseless : char.toLower = char)
    (valid : validKind value = true) : char ∉ value.toList := by
  intro member
  refine validDNS1035Label_clean outside valid ?_
  rw [String.toList_ofList]
  have mapped : Runtime.toLower char = char := (Runtime.toLower_ascii char ascii).trans caseless
  exact List.mem_map.mpr ⟨char, member, mapped⟩

end Clean

theorem validDNSLabel_ne_empty (valid : validDNSLabel value = true) :
    value ≠ "" := by
  simp only [validDNSLabel, Bool.and_eq_true] at valid
  exact Pattern.bracketed_ne_empty valid.2

theorem validAPIVersion_clean (valid : validAPIVersion value = true) :
    ':' ∉ value.toList := by
  rw [validAPIVersion] at valid
  rcases parts : Pattern.cut '/' value with ⟨group, _ | version⟩
  · rw [parts] at valid
    rw [Pattern.cut_none parts]
    exact validDNS1035Label_clean (by decide) valid
  · simp only [parts, Bool.and_eq_true] at valid
    rw [Pattern.cut_some parts, List.mem_append, List.mem_cons, not_or, not_or]
    exact ⟨validDNSSubdomain_clean (by decide) valid.1.2, by decide,
      validDNS1035Label_clean (by decide) valid.2⟩

theorem validResourceName_clean {group kind name : String}
    (valid : validResourceName group kind name = true) : '/' ∉ name.toList := by
  rw [validResourceName] at valid
  split at valid
  · simp only [Bool.and_eq_true, decide_eq_true_eq] at valid
    exact valid.1.2
  · exact validDNSSubdomain_clean (by decide) valid

structure CleanRef (ref : ResourceRef) : Prop where
  apiVersion : ':' ∉ ref.apiVersion.toList
  kind : ':' ∉ ref.kind.toList
  namespaceName : '/' ∉ ref.namespaceName.toList
  name : '/' ∉ ref.name.toList

theorem validateRef_ok [Runtime] : validateRef ref = .ok () ↔
    validAPIVersion ref.apiVersion = true ∧ validKind ref.kind = true ∧
      validResourceName (Pattern.cut '/' ref.apiVersion).1 ref.kind ref.name = true ∧
      (ref.namespaceName = "" ∨ validDNSLabel ref.namespaceName = true) := by
  rw [validateRef]
  split
  · simp only [reduceCtorEq, false_iff]
    grind
  · grind

theorem validateRef_clean [Runtime] (valid : validateRef ref = .ok ()) :
    CleanRef ref := by
  obtain ⟨version, kind, name, place⟩ := validateRef_ok.mp valid
  refine ⟨validAPIVersion_clean version,
    validKind_clean (by decide) (by decide) (by decide) kind, ?_, validResourceName_clean name⟩
  rcases place with empty | label
  · rw [empty]
    exact List.not_mem_nil
  · exact validDNSLabel_clean (by decide) label

theorem location_inj (clean : CleanRef ref) (clean' : CleanRef other)
    (same : location ref = location other) :
    ref.namespaceName = other.namespaceName ∧ ref.name = other.name := by
  simp only [location, ne_eq, ite_not] at same
  have slash : ∀ first second : String, '/' ∈ (first ++ "/" ++ second).toList := by
    intro first second
    simp [String.toList_append]
  split at same
  · rename_i empty
    split at same
    · rename_i empty'
      exact ⟨empty.trans empty'.symm, same⟩
    · exact absurd (same ▸ slash _ _) clean.name
  · split at same
    · exact absurd (same ▸ slash _ _) clean'.name
    · exact Pattern.join_inj clean.namespaceName clean'.namespaceName same

theorem refKey_inj (clean : CleanRef ref) (clean' : CleanRef other)
    (same : refKey ref = refKey other) : ref = other := by
  have joined : ref.apiVersion ++ ":" ++ (ref.kind ++ ":" ++ location ref) =
      other.apiVersion ++ ":" ++ (other.kind ++ ":" ++ location other) := by
    simpa only [refKey, String.append_assoc] using same
  obtain ⟨version, rest⟩ := Pattern.join_inj clean.apiVersion clean'.apiVersion joined
  obtain ⟨kind, place⟩ := Pattern.join_inj clean.kind clean'.kind rest
  obtain ⟨space, name⟩ := location_inj clean clean' place
  cases ref
  cases other
  simp only at version kind space name
  rw [version, kind, space, name]

theorem namespacedNameKey_inj {value other : NamespacedName}
    (space : validDNSLabel value.namespaceName = true) (name : validDNSLabel value.name = true)
    (same : namespacedNameKey value = namespacedNameKey other) : value = other := by
  have slash : isSubdomainChar '/' = false := by decide
  obtain ⟨sameSpace, sameName⟩ := Pattern.join_unique (validDNSLabel_clean slash space)
    (validDNSLabel_clean slash name) same
  cases value
  cases other
  simp only at sameSpace sameName
  rw [sameSpace, sameName]

theorem refInFamilyScope_inj {family : ResourceFamily}
    (labels : ∀ namespaceName ∈ family.discovery.namespaces, validDNSLabel namespaceName = true)
    (inside : refInFamilyScope ref family = true) (inside' : refInFamilyScope other family = true)
    (same : refKey ref = refKey other) : ref = other := by
  simp only [refInFamilyScope, Bool.and_eq_true, decide_eq_true_eq] at inside inside'
  obtain ⟨⟨version, kind⟩, place⟩ := inside
  obtain ⟨⟨version', kind'⟩, place'⟩ := inside'
  have places : location ref = location other := by
    simp only [refKey, version, kind, version', kind'] at same
    exact String.append_right_inj _ |>.mp same
  have both : ref.namespaceName = other.namespaceName ∧ ref.name = other.name := by
    cases namespaced : family.namespaced with
    | false =>
      simp only [namespaced, Bool.false_eq_true, ↓reduceIte, decide_eq_true_eq] at place place'
      refine ⟨place.trans place'.symm, ?_⟩
      simpa [location, place, place'] using places
    | true =>
      simp only [namespaced, ↓reduceIte, decide_eq_true_eq] at place place'
      have label := labels _ place
      have label' := labels _ place'
      have joined : ref.namespaceName ++ "/" ++ ref.name =
          other.namespaceName ++ "/" ++ other.name := by
        simpa [location, validDNSLabel_ne_empty label, validDNSLabel_ne_empty label'] using places
      have slash : isSubdomainChar '/' = false := by decide
      exact Pattern.join_inj (validDNSLabel_clean slash label) (validDNSLabel_clean slash label')
        joined
  cases ref
  cases other
  simp only at version kind version' kind' both
  rw [version, version', kind, kind', both.1, both.2]

end CloudRing.GitOpsOwnership
