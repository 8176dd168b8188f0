import CloudRing.Library.Path

/-!
# The contract of one workload identity

`openbaoauth.Contract` and its validator.
-/

namespace CloudRing.OpenBaoAuth

open Library

def schemaVersion : String := "cloudring.openbao-kubernetes-auth-plan/v2"

def dedicatedAuthMountOwnership : String := "dedicated-create-owned"

structure WorkloadIdentity where
  (namespaceName serviceAccount : String)
  deriving DecidableEq, Repr

structure Contract where
  (schemaVersion authMount authMountOwnership kvV2Mount dataPrefix policyName roleName : String)
  workloadIdentity : WorkloadIdentity
  (audience aliasNameSource tokenTTL tokenMaxTTL : String)
  tokenNoDefaultPolicy : Bool
  deriving DecidableEq, Repr

structure Problem where
  (path code : String)
  deriving DecidableEq, Repr

/-- The class `[a-z0-9]`. -/
def isAlphanumeric (char : Char) : Bool :=
  ('a' ≤ char && char ≤ 'z') || ('0' ≤ char && char ≤ '9')

/-- The class `[-a-z0-9]`. -/
def isLabelChar (char : Char) : Bool := char = '-' || isAlphanumeric char

/-- `dnsLabel`: the pattern `^[a-z0-9](?:[-a-z0-9]{0,61}[a-z0-9])?$`. -/
def dnsLabel (value : String) : Bool :=
  match value.toList with
  | [] => false
  | first :: rest =>
    isAlphanumeric first &&
      match rest.getLast? with
      | none => true
      | some last => rest.length ≤ 62 && rest.dropLast.all isLabelChar && isAlphanumeric last

def reservedMountName (value : String) : Bool :=
  value ∈ ["auth", "default", "root", "sys", "token"]

def reservedPolicyName (value : String) : Bool :=
  value ∈ ["default", "response-wrapping", "root"]

def validateDNSLabel (path value : String) : List Problem :=
  if dnsLabel value then [] else [⟨path, "invalid_dns_label"⟩]

def validateMount (path value : String) : List Problem :=
  validateDNSLabel path value ++
    if reservedMountName value then [⟨path, "reserved_name"⟩] else []

/-- The characters that `validDataPrefix` refuses anywhere in the prefix. -/
def unsafeChars : List Char := ['*', '+', '\\', '\x00', '\r', '\n', '\t', ' ']

/-- A relative path of at most `limit` DNS labels: the checks that `validDataPrefix` and
`validRelativePath` share. -/
def labelledPath (limit : Nat) (value : String) : Bool :=
  value ≠ "" && value.toList.head? ≠ some '/' && value.toList.getLast? ≠ some '/' &&
    !value.toList.any (· ∈ unsafeChars) &&
    (Path.split value).length ≤ limit &&
    (Path.split value).all fun segment => segment ≠ "." && segment ≠ ".." && dnsLabel segment

def validDataPrefix (value : String) : Bool := labelledPath 16 value

def requireField (path code : String) (holds : Bool) : List Problem :=
  if holds then [] else [⟨path, code⟩]

def validate (contract : Contract) : List Problem :=
  requireField "$.schemaVersion" "unsupported_value" (contract.schemaVersion = schemaVersion) ++
  validateMount "$.authMount" contract.authMount ++
  requireField "$.authMount" "shared_mount_name_forbidden" (contract.authMount ≠ "kubernetes") ++
  requireField "$.authMountOwnership" "must_equal_dedicated_create_owned"
    (contract.authMountOwnership = dedicatedAuthMountOwnership) ++
  validateMount "$.kvV2Mount" contract.kvV2Mount ++
  validateDNSLabel "$.policyName" contract.policyName ++
  requireField "$.policyName" "reserved_policy_name" (!reservedPolicyName contract.policyName) ++
  validateDNSLabel "$.roleName" contract.roleName ++
  validateDNSLabel "$.workloadIdentity.namespace" contract.workloadIdentity.namespaceName ++
  validateDNSLabel "$.workloadIdentity.serviceAccount"
    contract.workloadIdentity.serviceAccount ++
  requireField "$.dataPrefix" "invalid_safe_prefix" (validDataPrefix contract.dataPrefix) ++
  requireField "$.audience" "must_equal_openbao" (contract.audience = "openbao") ++
  requireField "$.aliasNameSource" "must_use_serviceaccount_uid"
    (contract.aliasNameSource = "serviceaccount_uid") ++
  requireField "$.tokenTTL" "must_equal_cloudring_10m_profile" (contract.tokenTTL = "10m") ++
  requireField "$.tokenMaxTTL" "must_equal_cloudring_30m_profile"
    (contract.tokenMaxTTL = "30m") ++
  requireField "$.tokenNoDefaultPolicy" "must_be_true" contract.tokenNoDefaultPolicy

variable {path value : String}

theorem dnsLabel_chars (label : dnsLabel value = true) :
    ∀ char ∈ value.toList, isLabelChar char = true := by
  unfold dnsLabel at label
  cases chars : value.toList with
  | nil => simp
  | cons first rest =>
    simp only [chars, Bool.and_eq_true] at label
    obtain ⟨head, tail⟩ := label
    intro char member
    rcases List.mem_cons.mp member with rfl | later
    · simp [isLabelChar, head]
    · cases ending : rest.getLast? with
      | none =>
        rw [List.getLast?_eq_none_iff] at ending
        simp [ending] at later
      | some last =>
        simp only [ending, Bool.and_eq_true, List.all_eq_true] at tail
        have whole : rest.dropLast ++ [last] = rest := by
          have nonempty : rest ≠ [] := List.ne_nil_of_mem later
          rw [List.getLast?_eq_some_getLast nonempty, Option.some.injEq] at ending
          rw [← ending]
          exact List.dropLast_append_getLast nonempty
        rw [← whole, List.mem_append, List.mem_singleton] at later
        rcases later with middle | rfl
        · exact tail.1.2 char middle
        · simp [isLabelChar, tail.2]

theorem dnsLabel_noSlash (label : dnsLabel value = true) :
    '/' ∉ value.toList := by
  intro member
  have inside := dnsLabel_chars label '/' member
  exact absurd inside (by decide)

structure Contract.Accepted (contract : Contract) : Prop where
  authMount : dnsLabel contract.authMount = true
  authMountFree : reservedMountName contract.authMount = false
  kvV2Mount : dnsLabel contract.kvV2Mount = true
  kvV2MountFree : reservedMountName contract.kvV2Mount = false
  policyName : dnsLabel contract.policyName = true
  roleName : dnsLabel contract.roleName = true
  dataPrefix : validDataPrefix contract.dataPrefix = true

theorem validateDNSLabel_nil :
    validateDNSLabel path value = [] ↔ dnsLabel value = true := by
  simp [validateDNSLabel]

theorem validateMount_nil :
    validateMount path value = [] ↔ dnsLabel value = true ∧ reservedMountName value = false := by
  simp [validateMount, validateDNSLabel_nil]

theorem requireField_nil {code : String} {holds : Bool} :
    requireField path code holds = [] ↔ holds = true := by
  simp [requireField]

theorem validate_accepted {contract : Contract} (valid : validate contract = []) :
    contract.Accepted := by
  simp only [validate, List.append_eq_nil_iff, validateMount_nil, validateDNSLabel_nil,
    requireField_nil] at valid
  exact {
    authMount := by simp_all only
    authMountFree := by simp_all only
    kvV2Mount := by simp_all only
    kvV2MountFree := by simp_all only
    policyName := by simp_all only
    roleName := by simp_all only
    dataPrefix := by simp_all only }

end CloudRing.OpenBaoAuth
