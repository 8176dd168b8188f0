import CloudRing.Library.Exit
import CloudRing.OpenBaoApply.Request

/-!
# The calls of an execution

Everything an execution asks of its surroundings: the clients, the clock, the state of a context,
and the lease guard, whose fields a renewing goroutine changes in the background.
-/

namespace CloudRing.OpenBaoApply

open Library OpenBaoAuth OpenBaoBootstrap

/-- The errors that the engine tells apart; every other error behaves as `errAPIUnavailable`. -/
inductive Failure where
  | unavailable
  | ambiguous
  | forbidden
  | rejected
  deriving DecidableEq, Repr

abbrev Answer (α : Type) := Except Failure α

/-- `definitelyRejected`: the error says that a mutation took no effect. -/
def definitelyRejected {α : Type} : Answer α → Bool
  | .error .forbidden | .error .rejected => true
  | _ => false

inductive Credential where
  | anonymous
  | management (token : String)
  | workload (token : String)
  | unexpected (token : String)
  deriving DecidableEq, Repr

def Credential.token : Credential → String
  | anonymous => ""
  | management token | workload token | unexpected token => token

inductive Scope where
  | operation
  | cleanup
  | detached
  deriving DecidableEq, Repr

structure SubjectFacts where
  (username uid : String)
  groups : List String

structure ResourceAccess where
  verb : String
  group : String := ""
  resource : String
  subresource : String := ""
  namespaceName : String := ""
  name : String := ""
  deriving DecidableEq, Repr

structure ServiceAccountToken where
  jwt : String
  expirationTimestamp : Option Int

/-- The fields of `leaseGuard` behind its mutex. -/
structure Guard where
  current : Lease
  lost : Bool

structure WrappedToken where
  (value accessor wrappedAccessor : String)

inductive Call where
  | health
  | reviewSelf
  | getServiceAccount (identity : WorkloadIdentity)
  | reviewAccess (access : ResourceAccess)
  | requestServiceAccountToken (identity : WorkloadIdentity) (audience : String)
      (expirationSeconds : Int)
  | getLease (target : LeaseTarget)
  | updateLease (target : LeaseTarget) (lease : Lease)
  | now
  | startRenew (lease : Lease)
  | guardState
  | stopRenew
  | contextErr (scope : Scope)
  | unwrap (wrappingToken : List UInt8)
  | lookupSelf (credential : Credential)
  | capabilitiesSelf (credential : Credential) (paths : List String)
  | read (credential : Credential) (path : String)
  | list (credential : Credential) (path : String)
  | write (credential : Credential) (path : String) (body : Json)
  | delete (credential : Credential) (path : String)
  | expectForbidden (credential : Credential) (path : String)
  | lookupInitialRoot
  | readTemporaryPolicy (policyName : String)
  | createTemporaryPolicy (policyName body : String)
  | deleteTemporaryPolicy (policyName : String)
  | createWrappedManagementToken (rootAccessor policyName : String)
  | lookupAccessor (accessor : String)
  | revokeAccessor (accessor : String)

/-- The replies. Requests sent through the REST client itself are answered with a status and,
where it is read, the decoded body. -/
@[reducible] def Reply : Call → Type
  | .health => Answer Unit
  | .reviewSelf => Answer SubjectFacts
  | .getServiceAccount _ => Answer String
  | .reviewAccess _ => Answer Bool
  | .requestServiceAccountToken .. => Answer ServiceAccountToken
  | .getLease _ => Answer Lease
  | .updateLease .. => Answer Lease
  | .now => Int
  | .startRenew _ => Unit
  | .guardState => Guard
  | .stopRenew => Guard
  | .contextErr _ => Bool
  | .unwrap _ => Answer String
  | .lookupSelf _ => Answer TokenFacts
  | .capabilitiesSelf .. => Answer (List (String × List String))
  | .read .. => Answer ReadResult
  | .list .. => Answer ReadResult
  | .write .. => Answer ReadResult
  | .delete .. => Answer Unit
  | .expectForbidden .. => Answer Unit
  | .lookupInitialRoot => Answer TokenFacts
  | .readTemporaryPolicy _ => Answer ReadResult
  | .createTemporaryPolicy .. => Answer Unit
  | .deleteTemporaryPolicy _ => Answer Unit
  | .createWrappedManagementToken .. => Answer WrappedToken
  | .lookupAccessor _ => Answer (Nat × Fields)
  | .revokeAccessor _ => Answer Nat

abbrev Action (α : Type) := Program Reply α

abbrev ask (call : Call) : Action (Reply call) := Program.request call

end CloudRing.OpenBaoApply
