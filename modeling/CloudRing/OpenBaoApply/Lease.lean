import Mathlib.Logic.Basic

/-!
# The operator lease

The pure parts of `lease.go`: the lease an executor asks the API server to store when it acquires,
renews and releases, and the check of the server's answer.
-/

namespace CloudRing.OpenBaoApply

structure LeaseTarget where
  (namespaceName name holderIdentity : String)
  deriving DecidableEq, Repr

structure Lease where
  (name namespaceName uid resourceVersion holderIdentity : String)
  (leaseDurationSec acquireTime renewTime : Int)
  deriving DecidableEq, Repr

def leaseDurationSeconds : Int := 30

def Lease.acquiring (lease : Lease) (target : LeaseTarget) (now : Int) : Lease :=
  { lease with
    holderIdentity := target.holderIdentity
    leaseDurationSec := leaseDurationSeconds
    acquireTime := now
    renewTime := now }

def Lease.renewing (lease : Lease) (now : Int) : Lease := { lease with renewTime := now }

def Lease.releasing (lease : Lease) (now : Int) : Lease :=
  { lease with
    holderIdentity := ""
    renewTime := now }

def exactLeaseUpdate (requested updated : Lease) : Bool :=
  updated.name = requested.name && updated.namespaceName = requested.namespaceName &&
    updated.uid = requested.uid && updated.resourceVersion ≠ "" &&
    updated.resourceVersion ≠ requested.resourceVersion &&
    updated.holderIdentity = requested.holderIdentity &&
    updated.leaseDurationSec = requested.leaseDurationSec &&
    updated.acquireTime = requested.acquireTime && updated.renewTime = requested.renewTime

def releasedState (updated postState : Lease) : Bool :=
  postState.uid = updated.uid && postState.resourceVersion = updated.resourceVersion &&
    postState.holderIdentity = ""

end CloudRing.OpenBaoApply
