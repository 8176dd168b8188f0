import CloudRing.Library.Hex
import CloudRing.OpenBaoApply.Request

/-!
# What an approval is bound to

`BindingSHA256` hashes a document of the request in which the seed entries stand in the order of
their keys, and of each certificate authority only its digest.
-/

namespace CloudRing.OpenBaoApply

open Library OpenBaoAuth OpenBaoBootstrap

theorem check_bind_through {α : Type} {gate last : String} {holds : Bool}
    {rest : Unit → Except String α} (earlier : gate ≠ last)
    (through : (∃ value, (check gate holds >>= rest) = .ok value) ∨
      (check gate holds >>= rest) = .error last) :
    holds = true ∧ ((∃ value, rest () = .ok value) ∨ rest () = .error last) := by
  cases holds with
  | true => exact ⟨rfl, through⟩
  | false =>
    obtain ⟨value, passed⟩ | failed := through
    · exact absurd passed nofun
    · exact absurd (Except.error.inj failed) earlier

theorem validSecrets_distinct : ∀ (entries : List SecretEntry) (seen : List String),
    validSecrets seen entries = true →
      (entries.map SecretEntry.key).Nodup ∧ ∀ entry ∈ entries, entry.key ∉ seen
  | [], _, _ => ⟨List.nodup_nil, nofun⟩
  | entry :: entries, seen, valid => by
    simp only [validSecrets, Bool.and_eq_true, decide_eq_true_eq] at valid
    obtain ⟨⟨⟨-, unseen⟩, -⟩, rest⟩ := valid
    obtain ⟨distinct, fresh⟩ := validSecrets_distinct entries (entry.key :: seen) rest
    constructor
    · rw [List.map_cons, List.nodup_cons]
      refine ⟨?_, distinct⟩
      intro repeated
      obtain ⟨other, listed, same⟩ := List.mem_map.mp repeated
      exact fresh other listed (by rw [same]; exact List.mem_cons_self)
    · intro other listed
      rw [List.mem_cons] at listed
      obtain rfl | later := listed
      · exact unseen
      · exact fun among => fresh other later (List.mem_cons_of_mem _ among)

/-- The order of entries by their keys is total. -/
instance : Std.Total fun left right : SecretEntry => left.key ≤ right.key :=
  ⟨fun left right => String.le_total left.key right.key⟩

/-- The order of entries by their keys is transitive. -/
instance : IsTrans SecretEntry fun left right => left.key ≤ right.key :=
  ⟨fun _ _ _ => String.le_trans⟩

theorem sortedSecrets_eq_iff {left right : List SecretEntry}
    (distinct : (left.map SecretEntry.key).Nodup) :
    sortedSecrets left = sortedSecrets right ↔ left.Perm right := by
  have leftPerm : (sortedSecrets left).Perm left := List.perm_insertionSort _ _
  have rightPerm : (sortedSecrets right).Perm right := List.perm_insertionSort _ _
  constructor
  · intro same
    rw [same] at leftPerm
    exact leftPerm.symm.trans rightPerm
  · intro perm
    have rightSorted : (sortedSecrets right).Pairwise fun one other => one.key ≤ other.key :=
      List.pairwise_insertionSort _ _
    refine List.Perm.eq_of_pairwise ?_ (List.pairwise_insertionSort _ _) rightSorted
      (leftPerm.trans (perm.trans rightPerm.symm))
    intro one other among amongOthers less more
    have oneListed := leftPerm.mem_iff.mp among
    have otherListed := perm.mem_iff.mpr (rightPerm.mem_iff.mp amongOthers)
    exact List.inj_on_of_nodup_map distinct oneListed otherListed (String.le_antisymm less more)

theorem identityJSON_injective : Function.Injective identityJSON := by
  intro left right same
  cases left
  cases right
  simpa [identityJSON] using same

theorem contractJSON_injective : Function.Injective contractJSON := by
  intro left right same
  simp only [contractJSON, Json.object.injEq, List.cons.injEq, Prod.mk.injEq, Json.string.injEq,
    Json.bool.injEq, true_and, and_true, identityJSON_injective.eq_iff] at same
  cases left
  cases right
  simpa using same

theorem secretsJSON_injective : Function.Injective (List.map fun entry : SecretEntry =>
    Json.object [("key", .string entry.key), ("valueBase64", .string entry.valueBase64)]) := by
  apply List.map_injective_iff.mpr
  intro left right same
  cases left
  cases right
  simpa using same

section Binding

variable [Platform]

/-- The bytes that `BindingSHA256` hashes. -/
def bindingBytes (request : Request) : Option (List UInt8) :=
  (bindingDocument request).map Json.goStyle.bytes

def caCertificateSHA256 (connection : Connection) : Option (List UInt8) :=
  (Base64.decode connection.caCertificateBase64).map Platform.sha256

structure Connection.Agrees (left right : Connection) : Prop where
  address : left.address = right.address
  serverName : left.serverName = right.serverName
  ca : caCertificateSHA256 left = caCertificateSHA256 right

structure Request.AgreesOnBinding (left right : Request) : Prop where
  schemaVersion : left.schemaVersion = right.schemaVersion
  contract : left.contract = right.contract
  openBao : left.openBao.Agrees right.openBao
  kubernetes : left.kubernetes.Agrees right.kubernetes
  lease : left.lease = right.lease
  executorIdentity : left.executorIdentity = right.executorIdentity
  managementPolicyName : left.managementPolicyName = right.managementPolicyName
  managementAccessor : left.managementAccessor = right.managementAccessor
  relativePath : left.seed.relativePath = right.seed.relativePath
  entries : left.seed.entries.Perm right.seed.entries
  negativeIdentities : left.negativeIdentities = right.negativeIdentities

def PassesUpToApproval (now : Int) (request : Request) : Prop :=
  (∃ accepted, validateRequest now request = .ok accepted) ∨
    validateRequest now request = .error "approval-binding"

theorem PassesUpToApproval.bound {now : Int} {request : Request}
    (passes : PassesUpToApproval now request) :
    (request.seed.entries.map SecretEntry.key).Nodup ∧
      (∃ ca, Base64.decode request.openBao.caCertificateBase64 = some ca) ∧
      ∃ ca, Base64.decode request.kubernetes.caCertificateBase64 = some ca := by
  unfold PassesUpToApproval validateRequest at passes
  obtain ⟨-, passes⟩ := check_bind_through (by decide) passes
  obtain ⟨-, passes⟩ := check_bind_through (by decide) passes
  obtain ⟨connections, passes⟩ := check_bind_through (by decide) passes
  obtain ⟨-, passes⟩ := check_bind_through (by decide) passes
  obtain ⟨-, passes⟩ := check_bind_through (by decide) passes
  have decoded : ∀ (connection : Connection) (required : Bool),
      validConnection connection required = true →
        ∃ ca, Base64.decode connection.caCertificateBase64 = some ca := by
    intro connection required valid
    unfold validConnection at valid
    cases found : Base64.decode connection.caCertificateBase64 with
    | none => simp [found] at valid
    | some ca => exact ⟨ca, rfl⟩
  rw [Bool.and_eq_true] at connections
  refine ⟨?_, decoded _ _ connections.1, decoded _ _ connections.2⟩
  split at passes
  · obtain ⟨accepted, passed⟩ | failed := passes
    · exact absurd passed nofun
    · exact absurd (Except.error.inj failed) (by decide)
  · obtain ⟨-, passes⟩ := check_bind_through (by decide) passes
    obtain ⟨-, passes⟩ := check_bind_through (by decide) passes
    obtain ⟨-, passes⟩ := check_bind_through (by decide) passes
    obtain ⟨seed, -⟩ := check_bind_through (by decide) passes
    rw [Bool.and_eq_true] at seed
    exact (validSecrets_distinct _ _ seed.2).1

theorem connectionJSON_eq_iff {left right : Connection} {leftCA rightCA : List UInt8}
    (leftDecoded : Base64.decode left.caCertificateBase64 = some leftCA)
    (rightDecoded : Base64.decode right.caCertificateBase64 = some rightCA) :
    connectionJSON left leftCA = connectionJSON right rightCA ↔ left.Agrees right := by
  have digests : hexText (Platform.sha256 leftCA) = hexText (Platform.sha256 rightCA) ↔
      caCertificateSHA256 left = caCertificateSHA256 right := by
    rw [caCertificateSHA256, leftDecoded, caCertificateSHA256, rightDecoded, Option.map_some,
      Option.map_some, Option.some.injEq]
    exact Hex.text_injective.eq_iff
  simp only [connectionJSON, Json.object.injEq, List.cons.injEq, Prod.mk.injEq,
    Json.string.injEq, true_and, and_true, digests]
  constructor
  · intro same
    exact ⟨same.1, same.2.1, same.2.2⟩
  · intro agrees
    exact ⟨agrees.address, agrees.serverName, agrees.ca⟩

/-- For requests that pass every check before the approval: the bytes that are hashed are the
same exactly when the requests agree on every value that the binding covers, up to the order of
the seed entries. -/
theorem bindingBytes_eq_iff (now : Int) (left right : Request)
    (leftPasses : PassesUpToApproval now left) (rightPasses : PassesUpToApproval now right) :
    bindingBytes left = bindingBytes right ↔ left.AgreesOnBinding right := by
  obtain ⟨distinct, ⟨leftBao, leftBaoDecoded⟩, leftKubernetes, leftKubernetesDecoded⟩ :=
    leftPasses.bound
  obtain ⟨-, ⟨rightBao, rightBaoDecoded⟩, rightKubernetes, rightKubernetesDecoded⟩ :=
    rightPasses.bound
  have leases : ∀ one other : LeaseTarget, one = other ↔ one.namespaceName = other.namespaceName ∧
      one.name = other.name ∧ one.holderIdentity = other.holderIdentity := by
    intro one other
    cases one
    cases other
    simp
  have negatives : ∀ one other : NegativeIdentities, one = other ↔
      one.wrongServiceAccount = other.wrongServiceAccount ∧
        one.wrongNamespace = other.wrongNamespace := by
    intro one other
    cases one
    cases other
    simp
  simp only [bindingBytes, bindingDocument, leftBaoDecoded, leftKubernetesDecoded,
    rightBaoDecoded, rightKubernetesDecoded, Option.bind_eq_bind, Option.bind_some,
    Option.pure_def, Option.map_some, Option.some.injEq,
    (Json.bytes_injective Json.goStyle_lawful).eq_iff, Json.object.injEq, List.cons.injEq,
    Prod.mk.injEq, Json.string.injEq, Json.array.injEq, true_and, and_true,
    contractJSON_injective.eq_iff, identityJSON_injective.eq_iff, secretsJSON_injective.eq_iff,
    sortedSecrets_eq_iff distinct, connectionJSON_eq_iff leftBaoDecoded rightBaoDecoded,
    connectionJSON_eq_iff leftKubernetesDecoded rightKubernetesDecoded, ← leases, ← negatives]
  constructor
  · intro same
    obtain ⟨version, contract, openBao, kubernetes, lease, executor, policy, accessor,
      ⟨path, entries⟩, negative⟩ := same
    exact ⟨version, contract, openBao, kubernetes, lease, executor, policy, accessor, path,
      entries, negative⟩
  · intro agrees
    exact ⟨agrees.schemaVersion, agrees.contract, agrees.openBao, agrees.kubernetes, agrees.lease,
      agrees.executorIdentity, agrees.managementPolicyName, agrees.managementAccessor,
      ⟨agrees.relativePath, agrees.entries⟩, agrees.negativeIdentities⟩

end Binding

def withSecrets (entries : List SecretEntry) : Request :=
  { sampleReceived with seed := ⟨"seed", entries⟩ }

def password : SecretEntry := ⟨"password", "c2VjcmV0"⟩

def username : SecretEntry := ⟨"username", "dXNlcg=="⟩

attribute [local instance] plainPlatform

/-- The two orders of two seed entries are bound alike. -/
theorem bindingBytes_swapped :
    bindingBytes (withSecrets [password, username]) =
      bindingBytes (withSecrets [username, password]) := by
  have bearer : ∀ entries, validateExecutorBearer 400000000000
      (withSecrets entries).kubernetes.bearerTokenBase64
      (withSecrets entries).executorIdentity = some "uid1" := fun _ =>
    validateExecutorBearer_sample
  have connection : ∀ entries, validConnection (withSecrets entries).kubernetes true = true :=
    fun _ => validConnection_sample
  have left : PassesUpToApproval 400000000000 (withSecrets [password, username]) := by
    left
    refine ⟨{ withSecrets [password, username] with executorServiceAccountUID := "uid1" }, ?_⟩
    unfold validateRequest
    rw [bearer, connection]
    rfl
  have right : PassesUpToApproval 400000000000 (withSecrets [username, password]) := by
    left
    refine ⟨{ withSecrets [username, password] with executorServiceAccountUID := "uid1" }, ?_⟩
    unfold validateRequest
    rw [bearer, connection]
    rfl
  apply (bindingBytes_eq_iff 400000000000 _ _ left right).mpr
  exact ⟨rfl, rfl, ⟨rfl, rfl, rfl⟩, ⟨rfl, rfl, rfl⟩, rfl, rfl, rfl, rfl, rfl,
    List.Perm.swap _ _ _, rfl⟩

end CloudRing.OpenBaoApply
