import CloudRing.CnpgRecovery.Boundary
import CloudRing.Library.Machine
import CloudRing.Library.Pattern

/-!
# The allocation fence

PostgreSQL gives identifiers to writing transactions one after another.
-/

namespace CloudRing.CnpgRecovery

open Library (Machine Time splitText)

/-- What `pg_current_snapshot()` reports. -/
structure Snapshot where
  xmin : Nat
  xmax : Nat
  active : List Nat
  deriving DecidableEq, Repr

structure Cluster where
  nextXID : Nat
  running : List Nat
  lastCompleted : Nat
  committed : List Nat
  snapshot : Option Snapshot
  beforeMarker : Option (List Nat)
  firstXID : Option Nat

def Cluster.report (cluster : Cluster) : Snapshot :=
  let xmax := cluster.lastCompleted + 1
  let active := cluster.running.filter (· < xmax)
  ⟨active.head?.getD xmax, xmax, active⟩

def Snapshot.text (snapshot : Snapshot) : String :=
  snapshot.xmin.repr ++ ":" ++ snapshot.xmax.repr ++ ":" ++
    ",".intercalate (snapshot.active.map Nat.repr)

/-- A transaction is visible to a snapshot: it has committed, and the snapshot does not count it
as in progress or as future. -/
def Visible (snapshot : Snapshot) (committed : List Nat) (xid : Nat) : Prop :=
  xid ∈ committed ∧ xid < snapshot.xmax ∧ xid ∉ snapshot.active

inductive ClusterStep : Cluster → Cluster → Prop where
  | allocate (cluster : Cluster) :
      ClusterStep cluster { cluster with
        nextXID := cluster.nextXID + 1
        running := cluster.running ++ [cluster.nextXID] }
  | record (cluster : Cluster) (xid : Nat) (open_ : xid ∈ cluster.running) :
      ClusterStep cluster { cluster with committed := xid :: cluster.committed }
  | complete (cluster : Cluster) (xid : Nat) (open_ : xid ∈ cluster.running) :
      ClusterStep cluster { cluster with
        running := cluster.running.filter (· ≠ xid)
        lastCompleted := max cluster.lastCompleted xid }
  | snapshot (cluster : Cluster) (untaken : cluster.snapshot = none) :
      ClusterStep cluster { cluster with snapshot := some cluster.report }
  | mark (cluster : Cluster) (taken : cluster.snapshot.isSome = true)
      (unmarked : cluster.beforeMarker = none) :
      ClusterStep cluster { cluster with beforeMarker := some cluster.committed }
  | first (cluster : Cluster) (marked : cluster.beforeMarker.isSome = true)
      (unassigned : cluster.firstXID = none) :
      ClusterStep cluster { cluster with
        nextXID := cluster.nextXID + 1
        running := cluster.running ++ [cluster.nextXID]
        firstXID := some cluster.nextXID }

/-- The cluster under any interleaving of writers, from any consistent state that is not
observed yet. -/
def clusterMachine : Machine Cluster Unit where
  initial cluster := (∀ xid ∈ cluster.running, xid < cluster.nextXID) ∧
    (∀ xid ∈ cluster.committed, xid < cluster.nextXID) ∧
    cluster.lastCompleted < cluster.nextXID ∧
    cluster.snapshot = none ∧ cluster.beforeMarker = none ∧ cluster.firstXID = none
  step _ := ClusterStep

structure Fenced (cluster : Cluster) : Prop where
  running : ∀ xid ∈ cluster.running, xid < cluster.nextXID
  committed : ∀ xid ∈ cluster.committed, xid < cluster.nextXID
  completed : cluster.lastCompleted < cluster.nextXID
  bounded : ∀ snapshot ∈ cluster.snapshot, snapshot.xmax ≤ cluster.nextXID
  beyond : ∀ snapshot ∈ cluster.snapshot, snapshot.active = [] →
    ∀ xid ∈ cluster.running, snapshot.xmax ≤ xid
  kept : ∀ marked ∈ cluster.beforeMarker, ∀ xid ∈ marked, xid ∈ cluster.committed
  fenced : ∀ snapshot ∈ cluster.snapshot, ∀ marked ∈ cluster.beforeMarker,
    snapshot.active = [] → ∀ xid ∈ cluster.committed, xid < snapshot.xmax → xid ∈ marked
  first : ∀ marked ∈ cluster.beforeMarker, ∀ xid ∈ cluster.firstXID,
    ∀ earlier ∈ marked, earlier < xid
  ordered : cluster.beforeMarker.isSome = true → cluster.snapshot.isSome = true
  assigned : cluster.firstXID.isSome = true → cluster.beforeMarker.isSome = true

section Steps

variable {cluster : Cluster}

theorem Fenced.allocate (fenced : Fenced cluster) :
    Fenced { cluster with
      nextXID := cluster.nextXID + 1
      running := cluster.running ++ [cluster.nextXID] } where
  running xid listed := by
    rw [List.mem_append, List.mem_singleton] at listed
    obtain old | rfl := listed
    · have given := fenced.running xid old
      exact Nat.lt_succ_of_lt given
    · exact Nat.lt_succ_self _
  committed xid listed := Nat.lt_succ_of_lt (fenced.committed xid listed)
  completed := Nat.lt_succ_of_lt fenced.completed
  bounded snapshot taken := Nat.le_succ_of_le (fenced.bounded snapshot taken)
  beyond snapshot taken empty xid listed := by
    rw [List.mem_append, List.mem_singleton] at listed
    obtain old | rfl := listed
    · exact fenced.beyond snapshot taken empty xid old
    · exact fenced.bounded snapshot taken
  kept := fenced.kept
  fenced := fenced.fenced
  first := fenced.first
  ordered := fenced.ordered
  assigned := fenced.assigned

theorem Fenced.record (fenced : Fenced cluster) {xid : Nat} (listed : xid ∈ cluster.running) :
    Fenced { cluster with committed := xid :: cluster.committed } where
  running := fenced.running
  committed other among := by
    rw [List.mem_cons] at among
    obtain rfl | old := among
    · exact fenced.running other listed
    · exact fenced.committed other old
  completed := fenced.completed
  bounded := fenced.bounded
  beyond := fenced.beyond
  kept marked found other among := List.mem_cons_of_mem _ (fenced.kept marked found other among)
  fenced snapshot taken marked found empty other among below := by
    rw [List.mem_cons] at among
    obtain rfl | old := among
    · have past := fenced.beyond snapshot taken empty other listed
      omega
    · exact fenced.fenced snapshot taken marked found empty other old below
  first := fenced.first
  ordered := fenced.ordered
  assigned := fenced.assigned

theorem Fenced.complete (fenced : Fenced cluster) {xid : Nat} (listed : xid ∈ cluster.running) :
    Fenced { cluster with
      running := cluster.running.filter (· ≠ xid)
      lastCompleted := max cluster.lastCompleted xid } where
  running other among := fenced.running other (List.mem_filter.mp among).1
  committed := fenced.committed
  completed := by
    have given := fenced.running xid listed
    have past := fenced.completed
    change max cluster.lastCompleted xid < cluster.nextXID
    omega
  bounded := fenced.bounded
  beyond snapshot taken empty other among :=
    fenced.beyond snapshot taken empty other (List.mem_filter.mp among).1
  kept := fenced.kept
  fenced := fenced.fenced
  first := fenced.first
  ordered := fenced.ordered
  assigned := fenced.assigned

theorem Fenced.snapshot (fenced : Fenced cluster) (untaken : cluster.snapshot = none) :
    Fenced { cluster with snapshot := some cluster.report } where
  running := fenced.running
  committed := fenced.committed
  completed := fenced.completed
  bounded snapshot taken := by
    obtain rfl := Option.some.inj taken
    exact fenced.completed
  beyond snapshot taken empty xid listed := by
    obtain rfl := Option.some.inj taken
    by_contra below
    have among : xid ∈ cluster.running.filter (· < cluster.lastCompleted + 1) :=
      List.mem_filter.mpr ⟨listed, decide_eq_true (Nat.not_le.mp below)⟩
    change cluster.running.filter (· < cluster.lastCompleted + 1) = [] at empty
    rw [empty] at among
    contradiction
  kept := fenced.kept
  fenced _ _ marked found := by
    have earlier := fenced.ordered (Option.isSome_iff_exists.mpr ⟨marked, found⟩)
    rw [untaken] at earlier
    contradiction
  first := fenced.first
  ordered _ := rfl
  assigned := fenced.assigned

theorem Fenced.mark (fenced : Fenced cluster) (taken : cluster.snapshot.isSome = true)
    (unmarked : cluster.beforeMarker = none) :
    Fenced { cluster with beforeMarker := some cluster.committed } where
  running := fenced.running
  committed := fenced.committed
  completed := fenced.completed
  bounded := fenced.bounded
  beyond := fenced.beyond
  kept marked found xid listed := by
    obtain rfl := Option.some.inj found
    exact listed
  fenced snapshot _ marked found _ xid listed _ := by
    obtain rfl := Option.some.inj found
    exact listed
  first _ _ xid given := by
    have earlier := fenced.assigned (Option.isSome_iff_exists.mpr ⟨xid, given⟩)
    rw [unmarked] at earlier
    contradiction
  ordered _ := taken
  assigned _ := rfl

theorem Fenced.assign (fenced : Fenced cluster) (marked : cluster.beforeMarker.isSome = true) :
    Fenced { cluster with
      nextXID := cluster.nextXID + 1
      running := cluster.running ++ [cluster.nextXID]
      firstXID := some cluster.nextXID } := by
  have allocated := fenced.allocate
  exact {
    running := allocated.running
    committed := allocated.committed
    completed := allocated.completed
    bounded := allocated.bounded
    beyond := allocated.beyond
    kept := fenced.kept
    fenced := fenced.fenced
    first := by
      intro before found xid given earlier listed
      obtain rfl := Option.some.inj given
      exact fenced.committed earlier (fenced.kept before found earlier listed)
    ordered := fenced.ordered
    assigned := fun _ => marked }

theorem clusterMachine_fenced (reachable : clusterMachine.Reachable cluster) : Fenced cluster := by
  apply Machine.invariant ?_ ?_ reachable
  · intro start initial
    obtain ⟨running, committed, completed, untaken, unmarked, unassigned⟩ := initial
    constructor
    · exact running
    · exact committed
    · exact completed
    all_goals simp [untaken, unmarked, unassigned]
  · intro _ state next fenced taken
    cases taken with
    | allocate => exact fenced.allocate
    | record xid listed => exact fenced.record listed
    | complete xid listed => exact fenced.complete listed
    | snapshot untaken => exact fenced.snapshot untaken
    | mark taken unmarked => exact fenced.mark taken unmarked
    | first marked unassigned => exact fenced.assign marked

end Steps

section Texts

theorem repr_no_colon (value : Nat) : ':' ∉ value.repr.toList := by
  rw [Nat.toList_repr]
  exact Library.Pattern.notMem_toDigits (by decide) value

theorem active_no_colon (active : List Nat) :
    ':' ∉ (",".intercalate (active.map Nat.repr)).toList := by
  induction active with
  | nil => simp
  | cons xid active rest =>
    cases active with
    | nil =>
      rw [List.map_singleton, String.intercalate_singleton]
      exact repr_no_colon xid
    | cons next active =>
      rw [List.map_cons, String.intercalate_cons_of_ne_nil (by simp)]
      simp only [String.toList_append, List.mem_append, not_or]
      exact ⟨⟨repr_no_colon xid, by decide⟩, rest⟩

theorem repr_same {first second : Nat} (same : first.repr = second.repr) : first = second := by
  have digits := congrArg String.toList same
  rw [Nat.toList_repr, Nat.toList_repr] at digits
  exact Library.Pattern.toDigits_inj digits

theorem Snapshot.text_split (snapshot : Snapshot) :
    splitText ':' snapshot.text = [snapshot.xmin.repr, snapshot.xmax.repr,
      ",".intercalate (snapshot.active.map Nat.repr)] := by
  have parts : snapshot.text = snapshot.xmin.repr ++ String.singleton ':' ++
      (snapshot.xmax.repr ++ String.singleton ':' ++
        ",".intercalate (snapshot.active.map Nat.repr)) := by
    rw [Snapshot.text]
    simp only [String.append_assoc]
    rfl
  rw [parts, Library.splitText_join, Library.splitText_join,
    Library.splitText_whole (repr_no_colon _), Library.splitText_whole (repr_no_colon _),
    Library.splitText_whole (active_no_colon _)]
  rfl

theorem Snapshot.active_eq_nil {snapshot : Snapshot}
    (nothing : ",".intercalate (snapshot.active.map Nat.repr) = "") : snapshot.active = [] := by
  obtain ⟨xmin, xmax, active⟩ := snapshot
  match active with
  | [] => rfl
  | [xid] =>
    rw [List.map_singleton, String.intercalate_singleton] at nothing
    exact absurd nothing Nat.repr_ne_empty
  | xid :: next :: active =>
    rw [List.map_cons, String.intercalate_cons_of_ne_nil (by simp)] at nothing
    simp at nothing

end Texts

/-- For every interleaving of writers: when the snapshot and the marker as observed are accepted,
the transactions whose commit precedes the marker are those visible to the snapshot. -/
theorem qualifyBoundary_consistent (parseTime : String → Option Time) (cluster : Cluster)
    (snapshot : Snapshot) (beforeMarker : List Nat) (firstXID : Nat)
    (observed : BoundarySnapshot) (marker : BoundaryMarker) (qualified : QualifiedBoundary)
    (reachable : clusterMachine.Reachable cluster) (taken : cluster.snapshot = some snapshot)
    (marked : cluster.beforeMarker = some beforeMarker)
    (assigned : cluster.firstXID = some firstXID) (seen : observed.snapshot = snapshot.text)
    (first : marker.firstXID = firstXID.repr)
    (accepted : qualifyBoundary parseTime observed marker = .ok qualified) :
    ∀ xid, xid ∈ beforeMarker ↔ Visible snapshot cluster.committed xid := by
  have fenced := clusterMachine_fenced reachable
  obtain ⟨fence, sameFirst, cut⟩ := qualifyBoundary_ok accepted
  rw [seen, Snapshot.text_split] at cut
  simp only [List.cons.injEq, and_true] at cut
  obtain ⟨-, sameMaximum, nothing⟩ := cut
  have empty := Snapshot.active_eq_nil nothing
  have maximum : snapshot.xmax = firstXID := by
    apply repr_same
    rw [sameMaximum, sameFirst, first]
  intro xid
  constructor
  · intro earlier
    have below := fenced.first beforeMarker marked firstXID assigned xid earlier
    refine ⟨fenced.kept beforeMarker marked xid earlier, ?_, ?_⟩
    · rw [maximum]
      exact below
    · rw [empty]
      exact List.not_mem_nil
  · intro visible
    exact fenced.fenced snapshot taken beforeMarker marked empty xid visible.1 visible.2.1

def quietCluster : Cluster where
  nextXID := 5
  running := []
  lastCompleted := 4
  committed := [4, 3]
  snapshot := none
  beforeMarker := none
  firstXID := none

def observedCluster : Cluster :=
  { quietCluster with
    nextXID := 6
    running := [5]
    snapshot := some ⟨5, 5, []⟩
    beforeMarker := some [4, 3]
    firstXID := some 5 }

theorem observedCluster_reachable : clusterMachine.Reachable observedCluster := by
  have initial : clusterMachine.initial quietCluster := by
    simp [clusterMachine, quietCluster]
  have taken : clusterMachine.step () quietCluster _ := .snapshot _ rfl
  have marked : clusterMachine.step () _ _ := .mark { quietCluster with
    snapshot := some quietCluster.report } rfl rfl
  have assigned : clusterMachine.step () _ _ := .first { quietCluster with
    snapshot := some quietCluster.report
    beforeMarker := some quietCluster.committed } rfl rfl
  exact ⟨quietCluster, initial, .step (.step (.step .refl taken) marked) assigned⟩

def quietSource : BoundarySource where
  systemIdentifier := "7300000000000000001"
  timeline := 1
  walSegmentBytes := 16777216
  serverStartedAt := "2026-01-01T00:00:00Z"
  inRecovery := false

def quietSnapshot : BoundarySnapshot where
  source := quietSource
  snapshot := "5:5:"
  isolation := "repeatable read"
  readOnly := true
  assignedXID := none

def quietMarker : BoundaryMarker where
  sourceBefore := quietSource
  sourceAfter := quietSource
  name := "boundary_1"
  lsn := "0/3000060"
  walFile := "000000010000000000000003"
  xidBefore := none
  xidAfter := none
  firstXID := "5"

theorem qualifyBoundary_quiet :
    clusterMachine.Reachable observedCluster ∧
      ∀ xid, xid ∈ [4, 3] ↔ Visible ⟨5, 5, []⟩ [4, 3] xid := by
  refine ⟨observedCluster_reachable, ?_⟩
  exact qualifyBoundary_consistent (fun _ => some ⟨1, 0, by decide, by decide⟩) observedCluster
    ⟨5, 5, []⟩ [4, 3] 5 quietSnapshot quietMarker
    ⟨boundarySchemaVersion, quietSnapshot, quietMarker⟩ observedCluster_reachable rfl rfl rfl
    (by decide +kernel) (by decide +kernel) (by decide +kernel)

end CloudRing.CnpgRecovery
