import CloudRing.DevInstall.Prerequisites
import CloudRing.DevInstall.Recovery
import CloudRing.Library.Pattern
import Mathlib.Data.Finset.Card

/-!
# The classification of a namespace's objects

Before a namespace is destroyed, `classifyInventory` decides which of its objects belong to the
installation: those that the journal names, those that every namespace has, and what these own or
what reports on them.
-/

namespace CloudRing.DevInstall

open Library

structure InventoryObject where
  ref : Object
  value : Json

/-- The expression `kubernetesUID`. -/
def kubernetesUID (text : String) : Bool :=
  let groups := text.toList.splitOn '-'
  groups.map List.length = [8, 4, 4, 4, 12] && groups.all (·.all Pattern.isHexDigit)

def size : Json → Nat
  | .object members => (members.map Prod.fst).dedup.length
  | _ => 0

def InventoryObject.isNamed (item : InventoryObject) (kind name : String) : Bool :=
  item.ref.apiVersion = "v1" && item.ref.kind = kind && item.ref.name = name

def InventoryObject.owners (item : InventoryObject) : List Json :=
  listField (nested item.value ["metadata"]) "ownerReferences"

def InventoryObject.about (item : InventoryObject) : String :=
  let involved := stringField (nested item.value ["involvedObject"]) "uid"
  if involved = "" then stringField (nested item.value ["regarding"]) "uid" else involved

/-- The default service account, and the certificates that the cluster copies into every
namespace. -/
def recognised (rootCA : Json) (item : InventoryObject) : Bool :=
  item.isNamed "ServiceAccount" "default" && (listField item.value "secrets").isEmpty &&
      (listField item.value "imagePullSecrets").isEmpty && item.owners.isEmpty ||
    item.isNamed "ConfigMap" "kube-root-ca.crt" && size rootCA = 1 &&
      size (nested item.value ["data"]) = 1 && stringField rootCA "ca.crt" ≠ "" &&
      stringField (nested item.value ["data"]) "ca.crt" = stringField rootCA "ca.crt"

def adopted (owned : Finset String) (item : InventoryObject) : Bool :=
  !item.owners.isEmpty && item.owners.all (stringField · "uid" ∈ owned) ||
    item.ref.kind = "Event" && item.about ∈ owned

def absorb (rule : Finset String → InventoryObject → Bool) (owned : Finset String)
    (item : InventoryObject) : Finset String :=
  if item.ref.uid ∈ owned then owned
  else if rule owned item then insert item.ref.uid owned
  else owned

def pass (rule : Finset String → InventoryObject → Bool) (items : List InventoryObject)
    (owned : Finset String) : Finset String := items.foldl (absorb rule) owned

def State.journaled (state : State) : Finset String :=
  (((state.objects.map (·.uid)).filter (· ≠ "")) ++ state.derivedObjects.map (·.uid)).toFinset

section Passes

variable {rule : Finset String → InventoryObject → Bool} {items : List InventoryObject}
  {owned : Finset String}

theorem subset_absorb (item : InventoryObject) : owned ⊆ absorb rule owned item := by
  unfold absorb
  split
  · exact subset_rfl
  · split
    · exact Finset.subset_insert _ _
    · exact subset_rfl

theorem subset_pass : owned ⊆ pass rule items owned := by
  induction items generalizing owned with
  | nil => exact subset_rfl
  | cons item items ih => exact (subset_absorb item).trans ih

theorem pass_holds {holds : String → Prop} (start : ∀ uid ∈ owned, holds uid)
    (step : ∀ item ∈ items, ∀ owned : Finset String, (∀ uid ∈ owned, holds uid) →
      rule owned item = true → holds item.ref.uid) :
    ∀ uid ∈ pass rule items owned, holds uid := by
  induction items generalizing owned with
  | nil => exact start
  | cons item items ih =>
    refine ih ?_ fun item member => step item (List.mem_cons_of_mem _ member)
    intro uid member
    unfold absorb at member
    split at member
    · exact start uid member
    · split at member
      · rename_i allowed
        rcases Finset.mem_insert.mp member with rfl | earlier
        · exact step item List.mem_cons_self owned start allowed
        · exact start uid earlier
      · exact start uid member

theorem mem_pass {item : InventoryObject}
    (monotone : ∀ {fewer more : Finset String}, fewer ⊆ more → rule fewer item = true →
      rule more item = true) (member : item ∈ items) (allowed : rule owned item = true) :
    item.ref.uid ∈ pass rule items owned := by
  induction items generalizing owned with
  | nil => cases member
  | cons first items ih =>
    rcases List.mem_cons.mp member with rfl | later
    · have absorbed : item.ref.uid ∈ absorb rule owned item := by
        unfold absorb
        split
        · assumption
        · simp
      exact (subset_pass : absorb rule owned item ⊆ pass rule items _) absorbed
    · exact ih later (monotone (subset_absorb first) allowed)

theorem pass_shrinks (changed : pass rule items owned ≠ owned) :
    ((items.map (·.ref.uid)).toFinset \ pass rule items owned).card <
      ((items.map (·.ref.uid)).toFinset \ owned).card := by
  have kept := @subset_pass rule items owned
  have listed : ∀ uid ∈ pass rule items owned,
      uid ∈ owned ∨ uid ∈ (items.map (·.ref.uid)).toFinset := by
    refine pass_holds (fun _ member => .inl member) fun item member _ _ _ => .inr ?_
    exact List.mem_toFinset.mpr (List.mem_map_of_mem member)
  obtain ⟨uid, added, absent⟩ :=
    Finset.exists_of_ssubset (kept.ssubset_of_ne (Ne.symm changed))
  apply Finset.card_lt_card
  rw [Finset.ssubset_iff_of_subset (Finset.sdiff_subset_sdiff subset_rfl kept)]
  refine ⟨uid, ?_, ?_⟩
  · exact Finset.mem_sdiff.mpr ⟨(listed uid added).resolve_left absent, absent⟩
  · exact fun left => (Finset.mem_sdiff.mp left).2 added

end Passes

def spread (items : List InventoryObject) (owned : Finset String) : Finset String :=
  let next := pass adopted items owned
  if next = owned then owned else spread items next
termination_by ((items.map (·.ref.uid)).toFinset \ owned).card
decreasing_by exact pass_shrinks ‹_›

def classifyInventory (state : State) (read : Except String Json) (items : List InventoryObject) :
    Except String (List Object) := do
  forEach (fun ref => ensure StoreError.conflict.text
    (ref.namespaceName = state.profile.targetNamespace && kubernetesUID ref.uid))
    state.derivedObjects
  let rootCA ← if items.any (·.isNamed "ConfigMap" "kube-root-ca.crt") then
      read.map (nested · ["data"])
    else .ok .null
  let owned := spread items (pass (fun _ => recognised rootCA) items state.journaled)
  ensure "foreign namespace content prevents development destruction"
    (items.all (·.ref.uid ∈ owned))
  return items.map (·.ref)

/-- The least set of identities that holds the journaled and the recognised ones, the objects whose
owners are all in it, and the events about its members. -/
inductive Owned (state : State) (rootCA : Json) (items : List InventoryObject) : String → Prop where
  | journaled {uid : String} (member : uid ∈ state.journaled) : Owned state rootCA items uid
  | recognised {item : InventoryObject} (member : item ∈ items)
      (known : recognised rootCA item = true) : Owned state rootCA items item.ref.uid
  | owners {item : InventoryObject} (member : item ∈ items) (owned : item.owners ≠ [])
      (all : ∀ owner ∈ item.owners, Owned state rootCA items (stringField owner "uid")) :
      Owned state rootCA items item.ref.uid
  | event {item : InventoryObject} (member : item ∈ items) (kind : item.ref.kind = "Event")
      (about : Owned state rootCA items item.about) : Owned state rootCA items item.ref.uid

theorem Owned.mono {state : State} {rootCA : Json} {items others : List InventoryObject}
    {uid : String} (least : Owned state rootCA items uid) (subset : items ⊆ others) :
    Owned state rootCA others uid := by
  induction least with
  | journaled member => exact .journaled member
  | recognised member known => exact .recognised (subset member) known
  | owners member owned _ ih => exact .owners (subset member) owned ih
  | event member kind _ ih => exact .event (subset member) kind ih

section Least

variable {state : State} {rootCA : Json} {items : List InventoryObject} {owned : Finset String}

theorem adopted_iff {item : InventoryObject} : adopted owned item = true ↔
    (item.owners ≠ [] ∧ ∀ owner ∈ item.owners, stringField owner "uid" ∈ owned) ∨
      item.ref.kind = "Event" ∧ item.about ∈ owned := by
  simp [adopted]

theorem adopted_mono {item : InventoryObject} {fewer more : Finset String} (subset : fewer ⊆ more)
    (allowed : adopted fewer item = true) : adopted more item = true := by
  rw [adopted_iff] at allowed ⊢
  rcases allowed with ⟨nonempty, all⟩ | ⟨kind, about⟩
  · exact .inl ⟨nonempty, fun owner member => subset (all owner member)⟩
  · exact .inr ⟨kind, subset about⟩

theorem spread_spec {holds : String → Prop} (start : ∀ uid ∈ owned, holds uid)
    (step : ∀ item ∈ items, ∀ owned : Finset String, (∀ uid ∈ owned, holds uid) →
      adopted owned item = true → holds item.ref.uid) :
    owned ⊆ spread items owned ∧ (∀ uid ∈ spread items owned, holds uid) ∧
      ∀ item ∈ items, adopted (spread items owned) item = true →
        item.ref.uid ∈ spread items owned := by
  induction owned using spread.induct items with
  | case1 owned next stable =>
    rw [spread, if_pos stable]
    refine ⟨subset_rfl, start, fun item member allowed => ?_⟩
    rw [← stable]
    exact mem_pass adopted_mono member allowed
  | case2 owned next changed ih =>
    rw [spread, if_neg changed]
    obtain ⟨more, sound, closed⟩ := ih (pass_holds start step)
    exact ⟨subset_pass.trans more, sound, closed⟩

theorem mem_spread_iff {uid : String} :
    uid ∈ spread items (pass (fun _ => recognised rootCA) items state.journaled) ↔
      Owned state rootCA items uid := by
  have seeds : ∀ uid ∈ pass (fun _ => recognised rootCA) items state.journaled,
      Owned state rootCA items uid :=
    pass_holds (fun _ => .journaled) fun item member _ _ known => .recognised member known
  obtain ⟨more, sound, closed⟩ := spread_spec seeds fun item member owned known allowed => by
    rcases adopted_iff.mp allowed with ⟨nonempty, all⟩ | ⟨kind, about⟩
    · exact .owners member nonempty fun owner listed => known _ (all owner listed)
    · exact .event member kind (known _ about)
  refine ⟨sound uid, fun least => ?_⟩
  induction least with
  | journaled member => exact more (subset_pass member)
  | recognised member known => exact more (mem_pass (fun _ known => known) member known)
  | owners member nonempty _ ih => exact closed _ member (adopted_iff.mpr (.inl ⟨nonempty, ih⟩))
  | event member kind _ ih => exact closed _ member (adopted_iff.mpr (.inr ⟨kind, ih⟩))

theorem recognised_absent (absent : items.any (·.isNamed "ConfigMap" "kube-root-ca.crt") = false)
    (other : Json) : pass (fun _ => recognised other) items owned =
      pass (fun _ => recognised rootCA) items owned := by
  have same : ∀ item ∈ items, recognised other item = recognised rootCA item := by
    intro item member
    have unnamed := Bool.eq_false_iff.mpr (List.any_eq_false.mp absent item member)
    simp [recognised, unnamed]
  exact List.foldl_ext _ _ _ fun owned item member => by simp [absorb, same item member]

/-- An inventory is accepted exactly when every object in it belongs to the least set, and then its
references are returned. An inventory in another order is accepted alike. -/
theorem classifyInventory_least {object : Json}
    (derived : ∀ ref ∈ state.derivedObjects,
      ref.namespaceName = state.profile.targetNamespace ∧ kubernetesUID ref.uid = true)
    (items : List InventoryObject) :
    (∀ refs, classifyInventory state (.ok object) items = .ok refs ↔
      refs = items.map (·.ref) ∧
        ∀ item ∈ items, Owned state (nested object ["data"]) items item.ref.uid) ∧
    ∀ others refs, others.Perm items → classifyInventory state (.ok object) items = .ok refs →
      ∃ found, classifyInventory state (.ok object) others = .ok found ∧ found.Perm refs := by
  have accepts (items : List InventoryObject) (refs : List Object) :
      classifyInventory state (.ok object) items = .ok refs ↔ refs = items.map (·.ref) ∧
        ∀ item ∈ items, Owned state (nested object ["data"]) items item.ref.uid := by
    have checked : forEach (fun ref : Object => ensure StoreError.conflict.text
        (ref.namespaceName = state.profile.targetNamespace && kubernetesUID ref.uid))
        state.derivedObjects = .ok () :=
      forEach_ok.mpr fun ref member => by simp [derived ref member]
    rw [classifyInventory, checked, ok_bind]
    have concluded : (ensure "foreign namespace content prevents development destruction"
        (items.all (·.ref.uid ∈ spread items
          (pass (fun _ => recognised (nested object ["data"])) items state.journaled))) >>=
        fun _ => pure (items.map (·.ref))) = .ok refs ↔ refs = items.map (·.ref) ∧
          ∀ item ∈ items, Owned state (nested object ["data"]) items item.ref.uid := by
      rw [check_bind, ensure_ok, List.all_eq_true]
      simp only [mem_spread_iff, decide_eq_true_eq, pure, Except.pure, Except.ok.injEq]
      rw [and_comm, eq_comm]
    cases named : items.any (·.isNamed "ConfigMap" "kube-root-ca.crt") with
    | true => exact concluded
    | false =>
      rw [← recognised_absent named .null] at concluded
      exact concluded
  refine ⟨accepts items, fun others refs same accepted => ?_⟩
  obtain ⟨rfl, all⟩ := (accepts items refs).mp accepted
  refine ⟨_, (accepts others _).mpr ⟨rfl, fun item member => ?_⟩, same.map _⟩
  exact (all item (same.subset member)).mono same.symm.subset

end Least

def sampleInventory : List InventoryObject :=
  [⟨⟨"v1", "Pod", "pods", "dev", "pod", "2"⟩, .object [("metadata", .object
      [("ownerReferences", .array [.object [("uid", .string "1")]])])]⟩,
    ⟨⟨"v1", "ServiceAccount", "serviceaccounts", "dev", "default", "1"⟩, .object []⟩]

theorem classifyInventory_least_sample :
    classifyInventory sampleState (.ok .null) sampleInventory =
      .ok (sampleInventory.map (·.ref)) := by
  refine ((classifyInventory_least (by decide) sampleInventory).1 _).mpr ⟨rfl, ?_⟩
  have account : Owned sampleState (nested .null ["data"]) sampleInventory "1" :=
    .recognised (List.mem_cons_of_mem _ (List.mem_singleton_self _)) rfl
  refine List.forall_mem_cons.mpr ⟨?_, List.forall_mem_singleton.mpr account⟩
  exact .owners List.mem_cons_self (List.cons_ne_nil _ _) (List.forall_mem_singleton.mpr account)

end CloudRing.DevInstall
