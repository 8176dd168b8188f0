import Mathlib.Data.List.Nodup
import CloudRing.Library.Machine

/-!
# Status changes of a roadmap

`CanTransition` looks at the direct dependencies of a goal only. Along a run of permitted changes
the delivered goals are well-founded under their dependencies.
-/

namespace CloudRing.RoadmapProgram

open Library (Machine)

/-- `Status`; a document can hold any other text. -/
inductive Status where
  | notStarted
  | inProgress
  | blocked
  | delivered
  | other (text : String)
deriving DecidableEq

def Status.text : Status → String
  | notStarted => "not_started"
  | inProgress => "in_progress"
  | blocked => "blocked"
  | delivered => "delivered"
  | other text => text

structure Goal where
  id : String
  dependsOn : List String
  status : Status

def validStatus : Status → Bool
  | .other _ => false
  | _ => true

def allowedTransition : Status → Status → Bool
  | .notStarted, target => target = .inProgress || target = .blocked
  | .blocked, target => target = .notStarted || target = .inProgress
  | .inProgress, target => target = .blocked || target = .delivered
  | _, _ => false

/-- A lookup in `goalIndex`: the last goal of the delivery order with the id. -/
def goalIndex (goals : List Goal) (id : String) : Option Goal :=
  goals.reverse.find? fun goal => goal.id = id

def isDelivered (goals : List Goal) (id : String) : Bool :=
  (goalIndex goals id).any fun goal => goal.status = .delivered

def unmet (goals : List Goal) (goal : Goal) : List String :=
  goal.dependsOn.filter fun dependency => !isDelivered goals dependency

/-- `CanTransition` on the goals of the delivery order; `quote` is the verb `%q`. -/
def canTransition (quote : String → String) (goals : List Goal) (goalID : String)
    (target : Status) : Except String Unit :=
  if !validStatus target then .error ("invalid target status " ++ quote target.text)
  else match goalIndex goals goalID with
  | none => .error ("goal " ++ goalID ++ " does not exist")
  | some goal =>
    if goal.status = target then .ok ()
    else if !allowedTransition goal.status target then
      .error (goalID ++ " cannot transition from " ++ goal.status.text ++ " to " ++ target.text)
    else if target ≠ .delivered then .ok ()
    else if unmet goals goal ≠ [] then
      .error (goalID ++ " cannot transition to " ++ target.text ++
        "; dependencies are not delivered: " ++ ", ".intercalate (unmet goals goal))
    else .ok ()

/-- `validateStatuses` on goals with different ids. -/
def validateStatuses (goals : List Goal) : List String :=
  goals.flatMap fun goal =>
    if goal.status ≠ .delivered then []
    else (unmet goals goal).map fun dependency =>
      goal.id ++ ": " ++ goal.status.text ++ " status requires delivered dependency " ++ dependency

def Goal.moved (id : String) (target : Status) (goal : Goal) : Goal :=
  if goal.id = id then { goal with status := target } else goal

def setStatus (goals : List Goal) (id : String) (target : Status) : List Goal :=
  goals.map (Goal.moved id target)

/-- The status changes of a roadmap that `CanTransition` permits. -/
def statusChanges (quote : String → String) (start : List Goal) : Machine (List Goal)
    (String × Status) where
  initial goals := goals = start
  step change goals next :=
    canTransition quote goals change.1 change.2 = .ok () ∧
      next = setStatus goals change.1 change.2

/-- The goal of id `id` lists `dependency`. -/
def DependsOn (goals : List Goal) (id dependency : String) : Prop :=
  ∃ goal, goalIndex goals id = some goal ∧ dependency ∈ goal.dependsOn

variable {quote : String → String} {start goals : List Goal} {id other dependency : String}
  {target : Status} {goal : Goal}

@[simp]
theorem moved_id : (goal.moved id target).id = goal.id := by
  unfold Goal.moved
  split <;> rfl

@[simp]
theorem moved_dependsOn : (goal.moved id target).dependsOn = goal.dependsOn := by
  unfold Goal.moved
  split <;> rfl

theorem goalIndex_id (found : goalIndex goals id = some goal) : goal.id = id := by
  simpa using List.find?_some found

theorem isDelivered_iff : isDelivered goals id ↔
    ∃ goal, goalIndex goals id = some goal ∧ goal.status = .delivered := by
  unfold isDelivered
  cases goalIndex goals id <;> simp

theorem goalIndex_mem (unique : (goals.map Goal.id).Nodup) (member : goal ∈ goals) :
    goalIndex goals goal.id = some goal := by
  obtain ⟨last, found⟩ := Option.isSome_iff_exists.mp
    (List.find?_isSome.mpr ⟨goal, List.mem_reverse.mpr member, decide_eq_true rfl⟩ :
      (goalIndex goals goal.id).isSome)
  have lastMember : last ∈ goals := List.mem_reverse.mp (List.mem_of_find?_eq_some found)
  cases List.inj_on_of_nodup_map unique lastMember member (goalIndex_id found)
  exact found

theorem goalIndex_setStatus :
    goalIndex (setStatus goals id target) other =
      (goalIndex goals other).map (·.moved id target) := by
  unfold goalIndex setStatus
  rw [← List.map_reverse, List.find?_map]
  congr 2
  funext goal
  simp

theorem dependsOn_setStatus : DependsOn (setStatus goals id target) = DependsOn goals := by
  funext other dependency
  simp [DependsOn, goalIndex_setStatus]

theorem isDelivered_setStatus_of_ne (different : other ≠ id) :
    isDelivered (setStatus goals id target) other = isDelivered goals other := by
  unfold isDelivered
  rw [goalIndex_setStatus]
  cases found : goalIndex goals other with
  | none => rfl
  | some goal => simp [Goal.moved, goalIndex_id found, different]

theorem isDelivered_setStatus_self (found : goalIndex goals id = some goal) :
    isDelivered (setStatus goals id target) id = decide (target = .delivered) := by
  simp [isDelivered, goalIndex_setStatus, found, Goal.moved, goalIndex_id found]

/-- A permitted change does not move a delivered goal, and delivers a goal only when its
dependencies are delivered. -/
theorem canTransition_ok (permitted : canTransition quote goals id target = .ok ()) :
    ∃ goal, goalIndex goals id = some goal ∧ (goal.status = .delivered → target = .delivered) ∧
      (target = .delivered → goal.status ≠ .delivered →
        ∀ dependency ∈ goal.dependsOn, isDelivered goals dependency) := by
  unfold canTransition at permitted
  split at permitted
  · cases permitted
  cases found : goalIndex goals id with
  | none => simp [found] at permitted
  | some goal =>
    simp only [found] at permitted
    refine ⟨goal, rfl, ?_, ?_⟩
    · intro delivered
      rw [delivered] at permitted
      by_contra other
      simp [Ne.symm other, allowedTransition] at permitted
    · intro delivered moved
      subst delivered
      simp only [if_neg moved] at permitted
      split at permitted
      · cases permitted
      by_contra missing
      have left : unmet goals goal ≠ [] := by
        intro none
        exact missing (by simpa [unmet] using none)
      simp [left] at permitted

/-- What holds along a run: the dependencies are those of the start, and a delivered goal is
accessible from delivered goals. -/
structure Sound (start goals : List Goal) : Prop where
  unique : (goals.map Goal.id).Nodup
  known : ∀ id, (goalIndex goals id).isSome = (goalIndex start id).isSome
  same : DependsOn goals = DependsOn start
  closed : ∀ id, isDelivered goals id → ∀ dependency, DependsOn start id dependency →
    isDelivered goals dependency
  grounded : ∀ id, isDelivered goals id → Acc (Function.swap (DependsOn start)) id

theorem isDelivered_setStatus_mono (permitted : canTransition quote goals id target = .ok ())
    (delivered : isDelivered goals other) : isDelivered (setStatus goals id target) other := by
  obtain ⟨goal, found, stays, _⟩ := canTransition_ok permitted
  by_cases same : other = id
  · subst same
    rw [isDelivered_setStatus_self found]
    simpa using stays (by simpa [isDelivered, found] using delivered)
  · rwa [isDelivered_setStatus_of_ne same]

/-- A goal that a permitted change delivers has delivered dependencies before the change. -/
theorem delivered_before (permitted : canTransition quote goals id target = .ok ())
    (pending : ¬isDelivered goals other) (delivered : isDelivered (setStatus goals id target) other)
    (depends : DependsOn goals other dependency) : isDelivered goals dependency := by
  obtain ⟨goal, found, _, met⟩ := canTransition_ok permitted
  by_cases same : other = id
  · subst same
    obtain ⟨indexed, again, listed⟩ := depends
    cases found.symm.trans again
    rw [isDelivered_setStatus_self found] at delivered
    exact met (of_decide_eq_true delivered) (by simpa [isDelivered, found] using pending) _ listed
  · rw [isDelivered_setStatus_of_ne same] at delivered
    exact absurd delivered pending

theorem Sound.step (sound : Sound start goals)
    (permitted : canTransition quote goals id target = .ok ()) :
    Sound start (setStatus goals id target) := by
  have direct : ∀ other, isDelivered (setStatus goals id target) other → ∀ dependency,
      DependsOn start other dependency → isDelivered goals dependency := by
    intro other delivered dependency depends
    by_cases before : isDelivered goals other
    · exact sound.closed other before dependency depends
    · exact delivered_before permitted before delivered (sound.same ▸ depends)
  refine ⟨?_, ?_, dependsOn_setStatus.trans sound.same, ?_, ?_⟩
  · have ids : (setStatus goals id target).map Goal.id = goals.map Goal.id := by
      simp [setStatus, Function.comp_def]
    rw [ids]
    exact sound.unique
  · intro other
    rw [goalIndex_setStatus, Option.isSome_map, sound.known]
  · intro other delivered dependency depends
    exact isDelivered_setStatus_mono permitted (direct other delivered dependency depends)
  · intro other delivered
    exact ⟨other, fun dependency depends =>
      sound.grounded dependency (direct other delivered dependency depends)⟩

theorem sound_of_reachable (unique : (start.map Goal.id).Nodup)
    (fresh : ∀ goal ∈ start, goal.status ≠ .delivered)
    (reached : (statusChanges quote start).Reachable goals) : Sound start goals := by
  have none : ∀ id, ¬isDelivered start id := by
    intro id delivered
    obtain ⟨goal, found, delivered⟩ := isDelivered_iff.mp delivered
    exact fresh goal (List.mem_reverse.mp (List.mem_of_find?_eq_some found)) delivered
  refine Machine.invariant ?_ ?_ reached
  · rintro _ rfl
    exact ⟨unique, fun _ => rfl, rfl, fun id delivered => absurd delivered (none id),
      fun id delivered => absurd delivered (none id)⟩
  · rintro change state _ sound ⟨permitted, rfl⟩
    exact sound.step permitted

theorem Sound.reaches (sound : Sound start goals) (delivered : isDelivered goals id)
    (path : Relation.ReflTransGen (DependsOn start) id dependency) :
    isDelivered goals dependency := by
  induction path with
  | refl => exact delivered
  | tail _ depends ih => exact sound.closed _ ih _ depends

theorem Sound.acyclic (sound : Sound start goals) (delivered : isDelivered goals id) :
    ¬Relation.TransGen (DependsOn start) id id := by
  intro cycle
  have accessible := (sound.grounded id delivered).transGen
  rw [← Relation.transGen_swap] at cycle
  clear delivered
  induction accessible with
  | intro id _ ih => exact ih id cycle cycle

theorem Sound.validateStatuses (sound : Sound start goals) : validateStatuses goals = [] := by
  apply List.flatMap_eq_nil_iff.mpr
  intro goal member
  have found := goalIndex_mem sound.unique member
  split
  · rfl
  next delivered =>
    have met : unmet goals goal = [] := by
      apply List.filter_eq_nil_iff.mpr
      intro dependency listed
      have direct := sound.closed goal.id (by simpa [isDelivered, found] using delivered) dependency
        (sound.same ▸ ⟨goal, found, listed⟩)
      simp [direct]
    rw [met, List.map_nil]

/-- Along every run of permitted changes from a roadmap without delivered goals: the statuses are
valid, what a delivered goal reaches is known and on no cycle, a delivered goal stays delivered, and
a goal becomes delivered after all goals it depends on through others. -/
theorem statusChanges_safe (unique : (start.map Goal.id).Nodup)
    (fresh : ∀ goal ∈ start, goal.status ≠ .delivered)
    (reached : (statusChanges quote start).Reachable goals) :
    RoadmapProgram.validateStatuses goals = [] ∧
    (∀ id dependency, isDelivered goals id →
      Relation.ReflTransGen (DependsOn start) id dependency →
      (goalIndex start dependency).isSome ∧
        ¬Relation.TransGen (DependsOn start) dependency dependency) ∧
    ∀ id target, canTransition quote goals id target = .ok () → ∀ other,
      (isDelivered goals other → isDelivered (setStatus goals id target) other) ∧
      (¬isDelivered goals other → isDelivered (setStatus goals id target) other →
        ∀ dependency, Relation.TransGen (DependsOn start) other dependency →
          isDelivered goals dependency) := by
  have sound := sound_of_reachable unique fresh reached
  refine ⟨sound.validateStatuses, ?_, ?_⟩
  · intro id dependency delivered path
    have last := sound.reaches delivered path
    refine ⟨?_, sound.acyclic last⟩
    obtain ⟨goal, found, _⟩ := isDelivered_iff.mp last
    rw [← sound.known, found, Option.isSome_some]
  · intro id target permitted other
    refine ⟨isDelivered_setStatus_mono permitted, ?_⟩
    intro pending delivered dependency path
    obtain ⟨first, depends, rest⟩ := Relation.TransGen.head'_iff.mp path
    exact sound.reaches (delivered_before permitted pending delivered (sound.same ▸ depends)) rest

def sampleRoadmap : List Goal :=
  [⟨"G02", ["G01"], .inProgress⟩, ⟨"G01", [], .inProgress⟩]

/-- The second goal waits for the first, and is delivered after it. -/
theorem sampleRoadmap_safe :
    validateStatuses (setStatus sampleRoadmap "G01" .delivered) = [] ∧
      isDelivered (setStatus (setStatus sampleRoadmap "G01" .delivered) "G02" .delivered) "G02" ∧
      ∀ dependency, Relation.TransGen (DependsOn sampleRoadmap) "G02" dependency →
        isDelivered (setStatus sampleRoadmap "G01" .delivered) dependency := by
  have reached : (statusChanges String.quote sampleRoadmap).Reachable
      (setStatus sampleRoadmap "G01" .delivered) :=
    ⟨sampleRoadmap, rfl, .single ⟨("G01", .delivered), by decide +kernel, rfl⟩⟩
  obtain ⟨valid, _, later⟩ := statusChanges_safe (by decide) (by decide) reached
  have second : isDelivered
      (setStatus (setStatus sampleRoadmap "G01" .delivered) "G02" .delivered) "G02" := by decide
  exact ⟨valid, second, (later "G02" .delivered (by decide +kernel) "G02").2 (by decide) second⟩

end CloudRing.RoadmapProgram
