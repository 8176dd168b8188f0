import CloudRing.Library.Json.Parse
import CloudRing.OpenBaoAuth.Contract

/-!
# The desired state of one workload identity

`openbaoauth.Build`: the objects that an accepted contract asks for, and the documents that are sent
to create them.
-/

namespace CloudRing.OpenBaoAuth

open Library

def zero : Json.Numeral := ⟨"0", by decide⟩

def minusOne : Json.Numeral := ⟨"-1", by decide⟩

def texts (items : List String) : Json := .array (items.map Json.string)

structure KVV2MountDesired where
  (kind description : String)
  options : List (String × String)

structure AuthMountDesired where
  (kind description : String)

structure KubernetesConfigDesired where
  (kubernetesHost kubernetesCACert tokenReviewerJWT : String)
  pemKeys : List String
  issuer : String
  disableISSValidation : Bool
  disableLocalCAJWT : Bool

structure KubernetesConfigReadbackExpected where
  (kubernetesHost kubernetesCACert : String)
  pemKeys : List String
  issuer : String
  (disableISSValidation disableLocalCAJWT tokenReviewerJWTSet : Bool)

structure ACLPolicyDesired where
  policy : String
  cas : Json.Numeral
  casRequired : Bool

structure KubernetesRoleDesired where
  (boundServiceAccountNames boundServiceAccountNamespaces : List String)
  (boundServiceAccountNamespaceSelector audience aliasNameSource : String)
  tokenPolicies : List String
  tokenNoDefaultPolicy : Bool
  (tokenTTL tokenMaxTTL tokenExplicitMaxTTL tokenType : String)
  (tokenNumUses tokenPeriod : Json.Numeral)
  tokenBoundCIDRs : List String
  tokenStrictlyBindIP : Bool

/-- The parts of `Plan` that an executor reads. -/
structure Plan where
  kvV2Mount : KVV2MountDesired
  authMount : AuthMountDesired
  authConfig : KubernetesConfigDesired
  authConfigReadback : KubernetesConfigReadbackExpected
  aclPolicy : ACLPolicyDesired
  role : KubernetesRoleDesired

def KVV2MountDesired.members (desired : KVV2MountDesired) : List (String × Json) :=
  [("type", .string desired.kind), ("description", .string desired.description),
    ("options", .object (desired.options.map fun (key, value) => (key, .string value)))]

def AuthMountDesired.members (desired : AuthMountDesired) : List (String × Json) :=
  [("type", .string desired.kind), ("description", .string desired.description)]

def KubernetesConfigDesired.members (desired : KubernetesConfigDesired) :
    List (String × Json) :=
  [("kubernetes_host", .string desired.kubernetesHost),
    ("kubernetes_ca_cert", .string desired.kubernetesCACert),
    ("token_reviewer_jwt", .string desired.tokenReviewerJWT),
    ("pem_keys", texts desired.pemKeys), ("issuer", .string desired.issuer),
    ("disable_iss_validation", .bool desired.disableISSValidation),
    ("disable_local_ca_jwt", .bool desired.disableLocalCAJWT)]

def KubernetesConfigReadbackExpected.members (desired : KubernetesConfigReadbackExpected) :
    List (String × Json) :=
  [("kubernetes_host", .string desired.kubernetesHost),
    ("kubernetes_ca_cert", .string desired.kubernetesCACert),
    ("pem_keys", texts desired.pemKeys), ("issuer", .string desired.issuer),
    ("disable_iss_validation", .bool desired.disableISSValidation),
    ("disable_local_ca_jwt", .bool desired.disableLocalCAJWT),
    ("token_reviewer_jwt_set", .bool desired.tokenReviewerJWTSet)]

def ACLPolicyDesired.members (desired : ACLPolicyDesired) : List (String × Json) :=
  [("policy", .string desired.policy), ("cas", .number desired.cas),
    ("cas_required", .bool desired.casRequired)]

/-- The members of the JSON form of a desired role, with its three lifetimes as given: a role
is sent with durations and read back with seconds. -/
def KubernetesRoleDesired.membersWith (desired : KubernetesRoleDesired)
    (ttl maxTTL explicitMaxTTL : Json) : List (String × Json) :=
  [("bound_service_account_names", texts desired.boundServiceAccountNames),
    ("bound_service_account_namespaces", texts desired.boundServiceAccountNamespaces),
    ("bound_service_account_namespace_selector",
      .string desired.boundServiceAccountNamespaceSelector),
    ("audience", .string desired.audience),
    ("alias_name_source", .string desired.aliasNameSource),
    ("token_policies", texts desired.tokenPolicies),
    ("token_no_default_policy", .bool desired.tokenNoDefaultPolicy),
    ("token_ttl", ttl), ("token_max_ttl", maxTTL), ("token_explicit_max_ttl", explicitMaxTTL),
    ("token_type", .string desired.tokenType),
    ("token_num_uses", .number desired.tokenNumUses),
    ("token_period", .number desired.tokenPeriod),
    ("token_bound_cidrs", texts desired.tokenBoundCIDRs),
    ("token_strictly_bind_ip", .bool desired.tokenStrictlyBindIP)]

def KubernetesRoleDesired.members (desired : KubernetesRoleDesired) : List (String × Json) :=
  desired.membersWith (.string desired.tokenTTL) (.string desired.tokenMaxTTL)
    (.string desired.tokenExplicitMaxTTL)

/-- The rules of the workload's policy: read below the data prefix, and what a token may do
with itself. The quoted path consists of DNS labels, slashes and a star, which `%q` keeps. -/
def workloadPolicy (contract : Contract) : String :=
  "path \"" ++ contract.kvV2Mount ++ "/data/" ++ contract.dataPrefix ++
  "/*\" \x7b\n  capabilities = [\"read\"]\n\x7d\n" ++
  "path \"auth/token/lookup-self\" \x7b\n  capabilities = [\"read\"]\n\x7d\n" ++
  "path \"auth/token/revoke-self\" \x7b\n  capabilities = [\"update\"]\n\x7d\n" ++
  "path \"sys/capabilities-self\" \x7b\n  capabilities = [\"update\"]\n\x7d\n"

def desiredPlan (contract : Contract) : Plan :=
  { kvV2Mount := { kind := "kv", description := "", options := [("version", "2")] }
    authMount :=
      { kind := "kubernetes"
        description :=
          "CloudRING dedicated Kubernetes workload authentication for " ++ contract.roleName }
    authConfig :=
      { kubernetesHost := "https://kubernetes.default.svc"
        kubernetesCACert := ""
        tokenReviewerJWT := ""
        pemKeys := []
        issuer := ""
        disableISSValidation := true
        disableLocalCAJWT := false }
    authConfigReadback :=
      { kubernetesHost := "https://kubernetes.default.svc"
        kubernetesCACert := ""
        pemKeys := []
        issuer := ""
        disableISSValidation := true
        disableLocalCAJWT := false
        tokenReviewerJWTSet := false }
    aclPolicy := { policy := workloadPolicy contract, cas := minusOne, casRequired := true }
    role :=
      { boundServiceAccountNames := [contract.workloadIdentity.serviceAccount]
        boundServiceAccountNamespaces := [contract.workloadIdentity.namespaceName]
        boundServiceAccountNamespaceSelector := ""
        audience := contract.audience
        aliasNameSource := contract.aliasNameSource
        tokenPolicies := [contract.policyName]
        tokenNoDefaultPolicy := contract.tokenNoDefaultPolicy
        tokenTTL := contract.tokenTTL
        tokenMaxTTL := contract.tokenMaxTTL
        tokenExplicitMaxTTL := contract.tokenMaxTTL
        tokenType := "service"
        tokenNumUses := zero
        tokenPeriod := zero
        tokenBoundCIDRs := []
        tokenStrictlyBindIP := false } }

/-- `Build`: the plan of a valid contract, or its problems. -/
def build (contract : Contract) : Except (List Problem) Plan :=
  match validate contract with
  | [] => .ok (desiredPlan contract)
  | problems => .error problems

theorem build_ok {contract : Contract} (valid : validate contract = []) :
    build contract = .ok (desiredPlan contract) := by
  rw [build, valid]

end CloudRing.OpenBaoAuth
