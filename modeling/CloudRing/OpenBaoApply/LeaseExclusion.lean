import CloudRing.Library.Machine
import CloudRing.OpenBaoApply.Lease
import Mathlib.Data.Set.Insert

/-!
# Exclusion by the operator lease

Any number of executors run `acquireLease`, `renew` and `release` on one lease.
-/

namespace CloudRing.OpenBaoApply

open Library (Machine)

/-- An executor's target, with the check of `validateRequest` that the holder is named. -/
structure Contender where
  target : LeaseTarget
  named : target.holderIdentity ≠ ""

inductive Purpose where
  | acquire
  | renew
  | release
  deriving DecidableEq

structure Update where
  purpose : Purpose
  requested : Lease

inductive LeasePhase where
  | start
  | observed (lease : Lease)
  | acquiring (update : Update)
  | refused
  | guarded (current : Lease) (stopping : Bool)
  | renewing (current : Lease) (stopping : Bool) (update : Update)
  | releasing (update : Update)
  | confirming (updated : Lease)
  | abandoned
  | ended

def LeasePhase.Holds : LeasePhase → Prop
  | guarded _ stopping => stopping = false
  | renewing _ stopping _ => stopping = false
  | abandoned => True
  | _ => False

def LeasePhase.HadGuard : LeasePhase → Prop
  | start | observed _ | acquiring _ | refused => False
  | _ => True

structure LeaseState (Executor : Type) where
  lease : Lease
  versions : Set String
  setter : Option Executor
  sent : Executor → Set Update
  applied : Executor → Update → Lease → Prop
  phase : Executor → LeasePhase

section System

variable {Executor : Type} [DecidableEq Executor] (contender : Executor → Contender)

namespace LeaseState

def advance (state : LeaseState Executor) (executor : Executor) (phase : LeasePhase) :
    LeaseState Executor :=
  { state with
    phase := fun other => if other = executor then phase else state.phase other }

def send (state : LeaseState Executor) (executor : Executor) (update : Update) :
    LeaseState Executor :=
  { state with
    sent := fun other =>
      if other = executor then insert update (state.sent other) else state.sent other }

def apply (state : LeaseState Executor) (executor : Executor) (update : Update)
    (version : String) : LeaseState Executor :=
  { state with
    lease := { update.requested with resourceVersion := version }
    versions := insert version state.versions
    setter :=
      if update.requested.holderIdentity = "" then none
      else if state.lease.holderIdentity = "" then some executor
      else state.setter
    applied := fun other otherUpdate stored => state.applied other otherUpdate stored ∨
      other = executor ∧ otherUpdate = update ∧
        stored = { update.requested with resourceVersion := version } }

end LeaseState

inductive LeaseStep (executor : Executor) : LeaseState Executor → LeaseState Executor → Prop where
  | readFree {state : LeaseState Executor} (here : state.phase executor = .start)
      (free : state.lease.holderIdentity = "") :
      LeaseStep executor state (state.advance executor (.observed state.lease))
  | readRefused {state : LeaseState Executor} (here : state.phase executor = .start) :
      LeaseStep executor state (state.advance executor .refused)
  | acquire {state : LeaseState Executor} {lease : Lease} (now : Int)
      (here : state.phase executor = .observed lease) :
      LeaseStep executor state
        ((state.send executor ⟨.acquire, lease.acquiring (contender executor).target now⟩).advance
          executor (.acquiring ⟨.acquire, lease.acquiring (contender executor).target now⟩))
  | acquired {state : LeaseState Executor} {update : Update} {updated : Lease}
      (here : state.phase executor = .acquiring update)
      (answered : state.applied executor update updated)
      (exact : exactLeaseUpdate update.requested updated = true) :
      LeaseStep executor state (state.advance executor (.guarded updated false))
  | acquireFails {state : LeaseState Executor} {update : Update}
      (here : state.phase executor = .acquiring update) :
      LeaseStep executor state (state.advance executor .refused)
  | renew {state : LeaseState Executor} {current : Lease} {stopping : Bool} (now : Int)
      (here : state.phase executor = .guarded current stopping) :
      LeaseStep executor state
        ((state.send executor ⟨.renew, current.renewing now⟩).advance executor
          (.renewing current stopping ⟨.renew, current.renewing now⟩))
  | renewed {state : LeaseState Executor} {current updated : Lease} {stopping : Bool}
      {update : Update} (here : state.phase executor = .renewing current stopping update)
      (answered : state.applied executor update updated)
      (exact : exactLeaseUpdate update.requested updated = true) :
      LeaseStep executor state (state.advance executor (.guarded updated stopping))
  | renewFails {state : LeaseState Executor} {current : Lease} {stopping : Bool}
      {update : Update} (here : state.phase executor = .renewing current stopping update) :
      LeaseStep executor state (state.advance executor .ended)
  | stopIdle {state : LeaseState Executor} {current : Lease}
      (here : state.phase executor = .guarded current false) :
      LeaseStep executor state (state.advance executor (.guarded current true))
  | stopRenewing {state : LeaseState Executor} {current : Lease} {update : Update}
      (here : state.phase executor = .renewing current false update) :
      LeaseStep executor state (state.advance executor (.renewing current true update))
  | release {state : LeaseState Executor} {current : Lease} (now : Int)
      (here : state.phase executor = .guarded current true)
      (own : current.holderIdentity = (contender executor).target.holderIdentity) :
      LeaseStep executor state
        ((state.send executor ⟨.release, current.releasing now⟩).advance executor
          (.releasing ⟨.release, current.releasing now⟩))
  | releaseRefused {state : LeaseState Executor} {current : Lease}
      (here : state.phase executor = .guarded current true)
      (other : current.holderIdentity ≠ (contender executor).target.holderIdentity) :
      LeaseStep executor state (state.advance executor .ended)
  | released {state : LeaseState Executor} {update : Update} {updated : Lease}
      (here : state.phase executor = .releasing update)
      (answered : state.applied executor update updated)
      (exact : exactLeaseUpdate update.requested updated = true) :
      LeaseStep executor state (state.advance executor (.confirming updated))
  | releaseFails {state : LeaseState Executor} {update : Update}
      (here : state.phase executor = .releasing update) :
      LeaseStep executor state (state.advance executor .ended)
  | confirm {state : LeaseState Executor} {updated : Lease}
      (here : state.phase executor = .confirming updated) :
      LeaseStep executor state (state.advance executor .ended)
  | abandon {state : LeaseState Executor} {current : Lease}
      (here : state.phase executor = .guarded current true) :
      LeaseStep executor state (state.advance executor .abandoned)
  | serve {state : LeaseState Executor} {update : Update} {version : String}
      (pending : update ∈ state.sent executor)
      (current : update.requested.resourceVersion = state.lease.resourceVersion)
      (fresh : version ∉ state.versions) (assigned : version ≠ "") :
      LeaseStep executor state (state.apply executor update version)

def leaseMachine : Machine (LeaseState Executor) Executor where
  initial state := state.lease.resourceVersion ∈ state.versions ∧ state.setter = none ∧
    (∀ executor, state.sent executor = ∅) ∧
    (∀ executor update stored, ¬state.applied executor update stored) ∧
    ∀ executor, state.phase executor = .start
  step := LeaseStep contender

end System

section Sound

variable {Executor : Type}

def Owned (state : LeaseState Executor) (executor : Executor) : Prop :=
  state.lease.holderIdentity ≠ "" ∧ state.setter = some executor

def KeepsHolder (state : LeaseState Executor) (executor : Executor) : Prop :=
  ∀ update ∈ state.sent executor, update.requested.holderIdentity ≠ ""

def PhaseFacts (state : LeaseState Executor) (executor : Executor) : LeasePhase → Prop
  | .start => state.sent executor = ∅ ∧ ∀ update stored, ¬state.applied executor update stored
  | .observed lease =>
    (state.sent executor = ∅ ∧ ∀ update stored, ¬state.applied executor update stored) ∧
      lease.resourceVersion ∈ state.versions ∧
      (lease.resourceVersion = state.lease.resourceVersion → state.lease.holderIdentity = "")
  | .acquiring update =>
    KeepsHolder state executor ∧
      ((∃ stored, state.applied executor update stored) → Owned state executor)
  | .guarded current _ | .renewing current _ _ =>
    KeepsHolder state executor ∧ current.resourceVersion ∈ state.versions ∧
      current.holderIdentity ≠ "" ∧ Owned state executor
  | .abandoned => KeepsHolder state executor ∧ Owned state executor
  | _ => True

/-- An update is under a known version, can only be applied to a lease that its sender saw free
or whose holder it set, and is an acquisition unless its sender has had a guard. -/
structure UpdateFacts (state : LeaseState Executor) (executor : Executor) (update : Update) :
    Prop where
  known : update.requested.resourceVersion ∈ state.versions
  acquires : update.requested.resourceVersion = state.lease.resourceVersion →
    update.purpose = .acquire → state.lease.holderIdentity = ""
  keeps : update.requested.resourceVersion = state.lease.resourceVersion →
    update.purpose ≠ .acquire → state.setter = some executor
  guarded : update.purpose ≠ .acquire → (state.phase executor).HadGuard

structure LeaseSound (state : LeaseState Executor) : Prop where
  version : state.lease.resourceVersion ∈ state.versions
  updates : ∀ executor update, update ∈ state.sent executor → UpdateFacts state executor update
  answers : ∀ executor update stored, state.applied executor update stored →
    update ∈ state.sent executor ∧ stored.resourceVersion ∈ state.versions ∧
      stored.holderIdentity = update.requested.holderIdentity
  phases : ∀ executor, PhaseFacts state executor (state.phase executor)

variable {executor : Executor} {state : LeaseState Executor} {update : Update}

theorem PhaseFacts.congr {before after : LeaseState Executor}
    {phase : LeasePhase} (facts : PhaseFacts before executor phase)
    (lease : after.lease = before.lease) (versions : after.versions = before.versions)
    (setter : after.setter = before.setter)
    (sent : after.sent executor = before.sent executor)
    (applied : after.applied executor = before.applied executor) :
    PhaseFacts after executor phase := by
  unfold PhaseFacts KeepsHolder Owned at facts ⊢
  rw [lease, versions, setter, sent, applied]
  exact facts

theorem LeaseSound.owned (sound : LeaseSound state)
    (holds : (state.phase executor).Holds) : Owned state executor := by
  have facts := sound.phases executor
  cases here : state.phase executor with
  | guarded | renewing =>
    rw [here] at facts
    exact facts.2.2.2
  | abandoned =>
    rw [here] at facts
    exact facts.2
  | _ =>
    rw [here] at holds
    exact holds.elim

theorem UpdateFacts.setter (facts : UpdateFacts state executor update)
    (current : update.requested.resourceVersion = state.lease.resourceVersion)
    (held : state.lease.holderIdentity ≠ "") :
    state.setter = some executor ∧ (state.phase executor).HadGuard := by
  by_cases acquire : update.purpose = .acquire
  · exact absurd (facts.acquires current acquire) held
  · exact ⟨facts.keeps current acquire, facts.guarded acquire⟩

theorem UpdateFacts.owned (facts : UpdateFacts state executor update)
    (current : update.requested.resourceVersion = state.lease.resourceVersion)
    (names : update.requested.holderIdentity ≠ "") (version : String) :
    Owned (state.apply executor update version) executor := by
  refine ⟨names, ?_⟩
  simp only [LeaseState.apply, if_neg names]
  by_cases free : state.lease.holderIdentity = ""
  · rw [if_pos free]
  · rw [if_neg free]
    exact (facts.setter current free).1

theorem LeaseSound.apply_phase (sound : LeaseSound state)
    {other : Executor} {version : String} {phase : LeasePhase}
    (pending : update ∈ state.sent executor)
    (current : update.requested.resourceVersion = state.lease.resourceVersion)
    (fresh : version ∉ state.versions) (facts : PhaseFacts state other phase) :
    PhaseFacts (state.apply executor update version) other phase := by
  have sender := sound.updates executor update pending
  -- An owner other than the sender would make the update inapplicable.
  have owner : KeepsHolder state other → Owned state other →
      Owned (state.apply executor update version) other := by
    intro keeps owned
    have same : some other = some executor :=
      owned.2.symm.trans (sender.setter current owned.1).1
    rw [Option.some.inj same] at keeps ⊢
    exact sender.owned current (keeps update pending) version
  have unsent : state.sent other = ∅ → other ≠ executor := by
    intro none same
    rw [← same, none] at pending
    exact pending
  cases phase with
  | start =>
    obtain ⟨none, unanswered⟩ := facts
    refine ⟨none, fun sent stored => ?_⟩
    rintro (before | ⟨same, _⟩)
    · exact unanswered sent stored before
    · exact unsent none same
  | observed lease =>
    obtain ⟨⟨none, unanswered⟩, known, _⟩ := facts
    refine ⟨⟨none, fun sent stored => ?_⟩, Set.mem_insert_of_mem version known, ?_⟩
    · rintro (before | ⟨same, _⟩)
      · exact unanswered sent stored before
      · exact unsent none same
    · intro same
      change lease.resourceVersion = version at same
      rw [same] at known
      exact absurd known fresh
  | acquiring asked =>
    obtain ⟨keeps, owned⟩ := facts
    refine ⟨keeps, ?_⟩
    rintro ⟨stored, before | ⟨rfl, _, _⟩⟩
    · exact owner keeps (owned ⟨stored, before⟩)
    · exact sender.owned current (keeps update pending) version
  | guarded | renewing =>
    obtain ⟨keeps, known, named, owned⟩ := facts
    exact ⟨keeps, Set.mem_insert_of_mem version known, named, owner keeps owned⟩
  | abandoned =>
    obtain ⟨keeps, owned⟩ := facts
    exact ⟨keeps, owner keeps owned⟩
  | refused | releasing | confirming | ended => trivial

theorem LeaseSound.apply (sound : LeaseSound state) {version : String}
    (pending : update ∈ state.sent executor)
    (current : update.requested.resourceVersion = state.lease.resourceVersion)
    (fresh : version ∉ state.versions) :
    LeaseSound (state.apply executor update version) where
  version := Set.mem_insert version state.versions
  updates other sent listed := by
    have facts := sound.updates other sent listed
    have stale : sent.requested.resourceVersion ≠ version := fun same =>
      fresh (same ▸ facts.known)
    exact ⟨Set.mem_insert_of_mem version facts.known, fun same => absurd same stale,
      fun same => absurd same stale, facts.guarded⟩
  answers other sent stored answered := by
    rcases answered with before | ⟨rfl, rfl, rfl⟩
    · obtain ⟨listed, known, holder⟩ := sound.answers other sent stored before
      exact ⟨listed, Set.mem_insert_of_mem version known, holder⟩
    · exact ⟨pending, Set.mem_insert version state.versions, rfl⟩
  phases other := sound.apply_phase pending current fresh (sound.phases other)

end Sound

section Steps

variable {Executor : Type} [DecidableEq Executor] {contender : Executor → Contender}
  {state : LeaseState Executor} {executor : Executor}

variable {phase : LeasePhase} {update : Update}

theorem LeaseSound.advance (sound : LeaseSound state) (facts : PhaseFacts state executor phase)
    (guarded : (state.phase executor).HadGuard → phase.HadGuard) :
    LeaseSound (state.advance executor phase) where
  version := sound.version
  updates other update listed := by
    have before := sound.updates other update listed
    refine ⟨before.known, before.acquires, before.keeps, fun purpose => ?_⟩
    have had := before.guarded purpose
    simp only [LeaseState.advance]
    split
    · rename_i same
      rw [same] at had
      exact guarded had
    · exact had
  answers := sound.answers
  phases other := by
    simp only [LeaseState.advance]
    split
    · rename_i same
      rw [same]
      exact facts
    · exact sound.phases other

theorem LeaseSound.send (sound : LeaseSound state)
    (sent : UpdateFacts (state.advance executor phase) executor update)
    (facts : PhaseFacts (state.send executor update) executor phase)
    (guarded : (state.phase executor).HadGuard → phase.HadGuard) :
    LeaseSound ((state.send executor update).advance executor phase) where
  version := sound.version
  updates other later listed := by
    simp only [LeaseState.send, LeaseState.advance] at listed
    by_cases same : other = executor
    · subst same
      rw [if_pos rfl] at listed
      rcases listed with rfl | before
      · exact ⟨sent.known, sent.acquires, sent.keeps, sent.guarded⟩
      · have facts := sound.updates other later before
        refine ⟨facts.known, facts.acquires, facts.keeps, fun purpose => ?_⟩
        simp only [LeaseState.send, LeaseState.advance, if_pos]
        exact guarded (facts.guarded purpose)
    · rw [if_neg same] at listed
      have facts := sound.updates other later listed
      refine ⟨facts.known, facts.acquires, facts.keeps, fun purpose => ?_⟩
      simp only [LeaseState.send, LeaseState.advance, if_neg same]
      exact facts.guarded purpose
  answers other later stored answered := by
    obtain ⟨listed, rest⟩ := sound.answers other later stored answered
    refine ⟨?_, rest⟩
    simp only [LeaseState.send, LeaseState.advance]
    split
    · exact Set.mem_insert_of_mem update listed
    · exact listed
  phases other := by
    by_cases same : other = executor
    · subst same
      simp only [LeaseState.advance, if_pos]
      exact facts
    · have unmoved : ((state.send executor update).advance executor phase).phase other =
          state.phase other := if_neg same
      have unsent : ((state.send executor update).advance executor phase).sent other =
          state.sent other := if_neg same
      rw [unmoved]
      exact (sound.phases other).congr rfl rfl rfl unsent rfl

theorem LeaseSound.guardSends (sound : LeaseSound state) {current : Lease}
    (owned : Owned state executor)
    (known : current.resourceVersion ∈ state.versions) (purpose : update.purpose ≠ .acquire)
    (version : update.requested.resourceVersion = current.resourceVersion)
    (facts : PhaseFacts (state.send executor update) executor phase)
    (guarded : phase.HadGuard) :
    LeaseSound ((state.send executor update).advance executor phase) := by
  refine sound.send ⟨version ▸ known, fun _ acquire => absurd acquire purpose,
    fun _ _ => owned.2, fun _ => ?_⟩ facts fun _ => guarded
  simp only [LeaseState.advance, if_pos]
  exact guarded

theorem KeepsHolder.send (keeps : KeepsHolder state executor)
    (names : update.requested.holderIdentity ≠ "") :
    KeepsHolder (state.send executor update) executor := by
  intro later listed
  simp only [LeaseState.send, if_pos] at listed
  rcases listed with rfl | before
  · exact names
  · exact keeps later before

theorem LeaseSound.step {next : LeaseState Executor} (sound : LeaseSound state)
    (taken : LeaseStep contender executor state next) : LeaseSound next := by
  have facts := sound.phases executor
  cases taken with
  | readFree here free =>
    rw [here] at facts
    exact sound.advance ⟨facts, sound.version, fun _ => free⟩ (by simp [here, LeasePhase.HadGuard])
  | readRefused here | acquireFails here =>
    exact sound.advance trivial (by simp [here, LeasePhase.HadGuard])
  | @acquire lease now here =>
    rw [here] at facts
    obtain ⟨⟨none, unanswered⟩, known, free⟩ := facts
    refine sound.send ⟨known, fun same _ => free same, fun _ other => absurd rfl other,
      fun other => absurd rfl other⟩ ⟨?_, ?_⟩ (by simp [here, LeasePhase.HadGuard])
    · have keeps : KeepsHolder state executor := by
        intro update listed
        rw [none] at listed
        exact listed.elim
      exact keeps.send (contender executor).named
    · rintro ⟨stored, answered⟩
      exact absurd answered (unanswered _ stored)
  | @acquired update updated here answered exact_ =>
    rw [here] at facts
    obtain ⟨listed, known, holder⟩ := sound.answers executor update updated answered
    have names := facts.1 update listed
    exact sound.advance ⟨facts.1, known, holder ▸ names, facts.2 ⟨updated, answered⟩⟩
      (by simp [LeasePhase.HadGuard])
  | @renew current stopping now here =>
    rw [here] at facts
    obtain ⟨keeps, known, names, owned⟩ := facts
    exact sound.guardSends owned known nofun rfl ⟨keeps.send names, known, names, owned⟩
      trivial
  | @renewed current updated stopping update here answered exact_ =>
    rw [here] at facts
    obtain ⟨keeps, _, _, owned⟩ := facts
    obtain ⟨listed, known, holder⟩ := sound.answers executor update updated answered
    exact sound.advance ⟨keeps, known, holder ▸ keeps update listed, owned⟩ fun _ => trivial
  | renewFails here => exact sound.advance trivial fun _ => trivial
  | stopIdle here | stopRenewing here =>
    rw [here] at facts
    exact sound.advance facts fun _ => trivial
  | @release current now here own =>
    rw [here] at facts
    obtain ⟨_, known, _, owned⟩ := facts
    exact sound.guardSends owned known nofun rfl trivial trivial
  | releaseRefused | released | releaseFails | confirm =>
    exact sound.advance trivial fun _ => trivial
  | abandon here =>
    rw [here] at facts
    exact sound.advance ⟨facts.1, facts.2.2.2⟩ fun _ => trivial
  | serve pending current fresh assigned => exact sound.apply pending current fresh

theorem leaseMachine_sound (reachable : (leaseMachine contender).Reachable state) :
    LeaseSound state := by
  refine Machine.invariant ?_ (fun _ _ _ sound taken => sound.step taken) reachable
  rintro start ⟨version, _, unsent, unanswered, idle⟩
  refine ⟨version, fun other update listed => ?_, fun other update stored answered => ?_,
    fun other => ?_⟩
  · rw [unsent] at listed
    exact listed.elim
  · exact absurd answered (unanswered other update stored)
  · rw [idle]
    exact ⟨unsent other, unanswered other⟩

theorem LeaseStep.lease {next : LeaseState Executor}
    (taken : LeaseStep contender executor state next) (changed : next.lease ≠ state.lease) :
    ∃ update, update ∈ state.sent executor ∧
      update.requested.resourceVersion = state.lease.resourceVersion := by
  cases taken with
  | serve pending current fresh assigned => exact ⟨_, pending, current⟩
  | _ => exact absurd rfl changed

end Steps

/-- In every interleaving of executors, at most one holds a guard that is neither lost nor in
or past release, and a held lease is changed only by the guard that set its holder. -/
theorem lease_exclusive {Executor : Type} [DecidableEq Executor]
    (contender : Executor → Contender) (state : LeaseState Executor)
    (reachable : (leaseMachine contender).Reachable state) :
    (∀ first second, (state.phase first).Holds → (state.phase second).Holds → first = second) ∧
      ∀ executor next, (leaseMachine contender).step executor state next →
        next.lease ≠ state.lease → state.lease.holderIdentity ≠ "" →
        state.setter = some executor ∧ (state.phase executor).HadGuard := by
  have sound := leaseMachine_sound reachable
  constructor
  · intro first second firstHolds secondHolds
    have firstOwns := sound.owned firstHolds
    have secondOwns := sound.owned secondHolds
    exact Option.some.inj (firstOwns.2.symm.trans secondOwns.2)
  · intro executor next taken changed held
    obtain ⟨update, pending, current⟩ := LeaseStep.lease taken changed
    exact (sound.updates executor update pending).setter current held

def twoContenders (first : Bool) : Contender :=
  if first then ⟨⟨"system", "bootstrap", "first"⟩, by decide⟩
  else ⟨⟨"system", "bootstrap", "second"⟩, by decide⟩

def freeLease : LeaseState Bool :=
  ⟨⟨"bootstrap", "system", "uid", "1", "", 0, 0, 0⟩, {"1"}, none, fun _ => ∅,
    fun _ _ _ => False, fun _ => .start⟩

/-- One of two executors acquires the lease, and is then the only one that holds it. -/
theorem lease_acquired_alone :
    ∃ state, (leaseMachine twoContenders).Reachable state ∧ (state.phase true).Holds ∧
      ∀ other, (state.phase other).Holds → other = true := by
  let request : Update := ⟨.acquire, freeLease.lease.acquiring (twoContenders true).target 1⟩
  let stored : Lease := { request.requested with resourceVersion := "2" }
  let observed := freeLease.advance true (.observed freeLease.lease)
  let asking := (observed.send true request).advance true (.acquiring request)
  let served := asking.apply true request "2"
  let holding := served.advance true (.guarded stored false)
  have reads : LeaseStep twoContenders true freeLease observed := .readFree rfl rfl
  have asks : LeaseStep twoContenders true observed asking := .acquire 1 rfl
  have serves : LeaseStep twoContenders true asking served :=
    .serve (Set.mem_insert request _) rfl (by simp [asking, observed, LeaseState.advance,
      LeaseState.send, freeLease]) (by decide)
  have acquires : LeaseStep twoContenders true served holding :=
    .acquired rfl (.inr ⟨rfl, rfl, rfl⟩) (by decide)
  have reachable : (leaseMachine twoContenders).Reachable holding :=
    ⟨freeLease, ⟨rfl, rfl, fun _ => rfl, fun _ _ _ => id, fun _ => rfl⟩,
      (((Relation.ReflTransGen.refl.tail ⟨true, reads⟩).tail ⟨true, asks⟩).tail
        ⟨true, serves⟩).tail ⟨true, acquires⟩⟩
  exact ⟨holding, reachable, rfl, fun other holds =>
    (lease_exclusive twoContenders holding reachable).1 other true holds rfl⟩

end CloudRing.OpenBaoApply
