import CloudRing.Library.Check
import Mathlib.Data.Finset.Card

/-!
# Dependencies of registered modules

`validateDependencies` refuses dependencies on modules that are not declared, and walks the graph
depth first to refuse cycles.
-/

namespace CloudRing.Registry

open Library Relation

structure Dependency where
  (moduleID state : String)
  deriving DecidableEq, Repr

structure Module where
  id : String
  dependencies : List Dependency
  deriving DecidableEq, Repr

structure ValidationError where
  (path code message : String)
  deriving DecidableEq, Repr

def missing (index dependencyIndex : Nat) : ValidationError where
  path := "modules[" ++ toString index ++ "].dependencies[" ++ toString dependencyIndex ++
    "].moduleId"
  code := "dependency.missing"
  message := "dependency module is not declared"

def cycle : ValidationError where
  path := "modules.dependencies"
  code := "dependency.cycle"
  message := "dependency graph must be acyclic"

/-- `known[id]`, where the map holds the modules by their identifiers. -/
def lookup (known : List Module) (id : String) : Option Module := known.find? (·.id = id)

def ids (known : List Module) : Finset String := (known.map Module.id).toFinset

variable {id : String} {known modules : List Module}

theorem lookup_eq_some {module : Module}
    (found : lookup known id = some module) : module ∈ known ∧ module.id = id := by
  have same := List.find?_some found
  exact ⟨List.mem_of_find?_eq_some found, of_decide_eq_true same⟩

theorem ids_sdiff_insert {visiting : Finset String}
    {module : Module} (fresh : id ∉ visiting) (found : lookup known id = some module) :
    (ids known \ insert id visiting).card < (ids known \ visiting).card := by
  obtain ⟨member, rfl⟩ := lookup_eq_some found
  have listed : module.id ∈ ids known := List.mem_toFinset.mpr (List.mem_map_of_mem member)
  rw [Finset.sdiff_insert]
  exact Finset.card_erase_lt_of_mem (Finset.mem_sdiff.mpr ⟨listed, fresh⟩)

/-- The closure `visit`. A call that succeeds leaves `visiting` as it found it, so only `visited`
is passed on; every level of the recursion adds a known module to `visiting`. -/
def visit (known : List Module) (visiting visited : Finset String) (id : String) :
    Except ValidationError (Finset String) :=
  if _ : id ∈ visiting then .error cycle
  else if id ∈ visited then .ok visited
  else match _ : lookup known id with
    | none => .ok (insert id visited)
    | some module => do
      let visited ← module.dependencies.foldlM
        (fun visited dependency => visit known (insert id visiting) visited dependency.moduleID)
        visited
      return insert id visited
termination_by (ids known \ visiting).card
decreasing_by exact ids_sdiff_insert ‹_› ‹_›

def validateDependencies (modules known : List Module) : Except ValidationError Unit := do
  forEach (fun (module, index) => forEach (fun (dependency, dependencyIndex) =>
    ensure (missing index dependencyIndex) (lookup known dependency.moduleID).isSome)
      module.dependencies.zipIdx) modules.zipIdx
  let _ ← modules.foldlM (fun visited module => visit known ∅ visited module.id) ∅
  return ()

/-! ## The graph -/

/-- The first module has a dependency on the second. -/
def Depends (known : List Module) (id other : String) : Prop :=
  ∃ module ∈ known, module.id = id ∧ ∃ dependency ∈ module.dependencies, dependency.moduleID = other

abbrev Grounded (known : List Module) : String → Prop := Acc fun other id => Depends known id other

/-- A walk keeps what was visited, visits the names, and no path from what it visited is endless. -/
structure Walked (known : List Module) (visited : Finset String) (names : List String)
    (last : Finset String) : Prop where
  kept : visited ⊆ last
  reached : ∀ name ∈ names, name ∈ last
  grounded : ∀ name ∈ last, Grounded known name

section Walk

variable {known : List Module} {visiting visited last : Finset String} {id : String}

theorem lookup_of_mem (distinct : (known.map Module.id).Nodup) {module : Module}
    (member : module ∈ known) : lookup known module.id = some module := by
  cases found : lookup known module.id with
  | none => exact absurd (decide_eq_true rfl) (List.find?_eq_none.mp found module member)
  | some other =>
    obtain ⟨member', same⟩ := lookup_eq_some found
    rw [List.inj_on_of_nodup_map distinct member' member same]

theorem visit_absent (outside : id ∉ visiting) (new : id ∉ visited)
    (absent : lookup known id = none) :
    visit known visiting visited id = .ok (insert id visited) := by
  rw [visit, dif_neg outside, if_neg new]
  split
  · rfl
  · simp_all

theorem visit_found {module : Module} (outside : id ∉ visiting) (new : id ∉ visited)
    (found : lookup known id = some module) :
    visit known visiting visited id = do
      let visited ← module.dependencies.foldlM (fun visited dependency =>
        visit known (insert id visiting) visited dependency.moduleID) visited
      return insert id visited := by
  rw [visit, dif_neg outside, if_neg new]
  split
  · simp_all
  · simp_all

theorem foldlM_walked {α : Type} {name : α → String} {items : List α}
    (each : ∀ visited item last, (∀ other ∈ visited, Grounded known other) →
      visit known visiting visited (name item) = .ok last →
      Walked known visited [name item] last)
    (grounded : ∀ other ∈ visited, Grounded known other)
    (passed : items.foldlM (fun visited item => visit known visiting visited (name item)) visited =
      .ok last) : Walked known visited (items.map name) last := by
  refine foldlM_ok (fun done next => Walked known visited (done.map name) next) ?_ passed
    ⟨subset_rfl, List.forall_mem_nil _, grounded⟩
  intro done item middle next before taken
  have after := each middle item next before.grounded taken
  refine ⟨before.kept.trans after.kept, ?_, after.grounded⟩
  intro other member
  rw [List.map_append, List.mem_append] at member
  rcases member with earlier | this
  · exact after.kept (before.reached other earlier)
  · exact after.reached other this

theorem Walked.insert {names : List String} (walked : Walked known visited names last)
    (complete : ∀ other, Depends known id other → other ∈ names) :
    Walked known visited [id] (insert id last) where
  kept := walked.kept.trans (Finset.subset_insert ..)
  reached := by simp
  grounded := by
    intro name member
    rcases Finset.mem_insert.mp member with rfl | earlier
    · refine ⟨_, fun other depends => ?_⟩
      exact walked.grounded other (walked.reached other (complete other depends))
    · exact walked.grounded name earlier

theorem visit_ok (distinct : (known.map Module.id).Nodup)
    (grounded : ∀ other ∈ visited, Grounded known other)
    (passed : visit known visiting visited id = .ok last) : Walked known visited [id] last := by
  induction visiting, visited, id using visit.induct known generalizing last with
  | case1 visiting visited id inside =>
    rw [visit, dif_pos inside] at passed
    cases passed
  | case2 visiting visited id outside old =>
    rw [visit, dif_neg outside, if_pos old] at passed
    cases passed
    exact ⟨subset_rfl, by simpa using old, grounded⟩
  | case3 visiting visited id outside new absent =>
    rw [visit_absent outside new absent] at passed
    cases passed
    have start : Walked known visited [] visited :=
      ⟨subset_rfl, List.forall_mem_nil _, grounded⟩
    refine start.insert ?_
    rintro other ⟨module, member, rfl, -⟩
    rw [lookup_of_mem distinct member] at absent
    cases absent
  | case4 visiting visited id outside new module found ih =>
    rw [visit_found outside new found] at passed
    obtain ⟨middle, walked, passed⟩ := bind_ok.mp passed
    cases passed
    have all := foldlM_walked (fun visited dependency _ => ih visited dependency) grounded walked
    refine all.insert ?_
    rintro other ⟨module', member, rfl, dependency, listed, rfl⟩
    rw [lookup_of_mem distinct member] at found
    cases found
    exact List.mem_map_of_mem listed

theorem visit_error {failure : ValidationError}
    (way : ∀ other ∈ visiting, TransGen (Depends known) other id)
    (failed : visit known visiting visited id = .error failure) :
    ∃ other, TransGen (Depends known) other other := by
  induction visiting, visited, id using visit.induct known with
  | case1 visiting visited id inside => exact ⟨id, way id inside⟩
  | case2 visiting visited id outside old =>
    rw [visit, dif_neg outside, if_pos old] at failed
    cases failed
  | case3 visiting visited id outside new absent =>
    rw [visit_absent outside new absent] at failed
    cases failed
  | case4 visiting visited id outside new module found ih =>
    rw [visit_found outside new found] at failed
    obtain ⟨member, same⟩ := lookup_eq_some found
    obtain ⟨dependency, listed, visited, fails⟩ := foldlM_error (bind_error failed)
    have step : Depends known id dependency.moduleID :=
      ⟨module, member, same, dependency, listed, rfl⟩
    refine ih visited dependency ?_ fails
    intro other inside
    rcases Finset.mem_insert.mp inside with rfl | earlier
    · exact .single step
    · exact (way other earlier).tail step

end Walk

theorem Grounded.irrefl (grounded : Grounded known id) :
    ¬TransGen (Depends known) id id := by
  intro around
  induction grounded.transGen with
  | intro id _ ih => exact ih id (transGen_swap.mpr around) grounded around

/-! ## What is accepted -/

/-- Every dependency is on a listed module, and no module depends on itself through others. -/
def Sound (modules : List Module) : Prop :=
  (∀ id other, Depends modules id other → other ∈ modules.map Module.id) ∧
    ∀ id, ¬TransGen (Depends modules) id id

/-- The modules, and the dependencies of each, stand in another order. -/
def Reordered (modules others : List Module) : Prop :=
  ∃ middle : List Module, modules.Perm middle ∧ List.Forall₂ (fun module other =>
    module.id = other.id ∧ module.dependencies.Perm other.dependencies) middle others

theorem exists_mem_zipIdx {α : Type} {item : α} {items : List α} (member : item ∈ items) :
    ∃ index, (item, index) ∈ items.zipIdx := by
  rw [← List.zipIdx_map_fst 0 items] at member
  obtain ⟨⟨other, index⟩, listed, rfl⟩ := List.mem_map.mp member
  exact ⟨index, listed⟩

theorem lookup_isSome :
    (lookup known id).isSome = true ↔ id ∈ known.map Module.id := by
  simp [lookup]

theorem declared_iff :
    (∀ item ∈ modules.zipIdx, forEach (fun (dependency, dependencyIndex) =>
      ensure (missing item.2 dependencyIndex) (lookup modules dependency.moduleID).isSome)
        item.1.dependencies.zipIdx = .ok ()) ↔
    ∀ id other, Depends modules id other → other ∈ modules.map Module.id := by
  simp only [forEach_ok, ensure_ok, lookup_isSome]
  constructor
  · rintro all id other ⟨module, member, -, dependency, listed, rfl⟩
    obtain ⟨index, member⟩ := exists_mem_zipIdx member
    obtain ⟨dependencyIndex, listed⟩ := exists_mem_zipIdx listed
    exact all _ member _ listed
  · intro declared module member dependency listed
    exact declared _ _ ⟨module.1, List.fst_mem_of_mem_zipIdx member, rfl, dependency.1,
      List.fst_mem_of_mem_zipIdx listed, rfl⟩

theorem validateDependencies_ok
    (distinct : (modules.map Module.id).Nodup) :
    validateDependencies modules modules = .ok () ↔ Sound modules := by
  rw [validateDependencies, check_bind, forEach_ok]
  refine and_congr declared_iff ?_
  constructor
  · intro passed
    obtain ⟨last, walked, -⟩ := bind_ok.mp passed
    have all := foldlM_walked (fun visited module _ => visit_ok distinct) (by simp) walked
    intro id around
    obtain ⟨other, ⟨module, member, rfl, -⟩, -⟩ := TransGen.head'_iff.mp around
    exact (all.grounded _ (all.reached _ (List.mem_map_of_mem member))).irrefl around
  · intro acyclic
    cases walked : modules.foldlM (fun visited module => visit modules ∅ visited module.id) ∅ with
    | ok last => rfl
    | error failure =>
      obtain ⟨module, -, visited, failed⟩ := foldlM_error walked
      obtain ⟨id, around⟩ := visit_error (by simp) failed
      exact absurd around (acyclic id)

theorem Reordered.ids {others : List Module} (reordered : Reordered modules others) :
    (modules.map Module.id).Perm (others.map Module.id) := by
  obtain ⟨middle, moved, alike⟩ := reordered
  have same : middle.map Module.id = others.map Module.id := by
    clear moved
    induction alike with
    | nil => rfl
    | cons here _ ih => rw [List.map_cons, List.map_cons, here.1, ih]
  rw [← same]
  exact moved.map _

theorem Reordered.depends {others : List Module} (reordered : Reordered modules others) :
    Depends others = Depends modules := by
  obtain ⟨middle, moved, alike⟩ := reordered
  ext id other
  have same : Depends others id other ↔ Depends middle id other := by
    clear moved
    induction alike with
    | nil => rfl
    | cons here _ ih =>
      simp only [Depends, List.exists_mem_cons_iff, here.1, here.2.mem_iff] at ih ⊢
      rw [ih]
  rw [same]
  simp only [Depends, moved.mem_iff]

/-- Modules with distinct identifiers are accepted exactly when they are sound, in whatever order
they and their dependencies stand. -/
theorem validateDependencies_iff (modules : List Module)
    (distinct : (modules.map Module.id).Nodup) :
    (validateDependencies modules modules = .ok () ↔ Sound modules) ∧
      ∀ others, Reordered modules others →
        (validateDependencies others others = .ok () ↔
          validateDependencies modules modules = .ok ()) := by
  refine ⟨validateDependencies_ok distinct, ?_⟩
  intro others reordered
  rw [validateDependencies_ok distinct,
    validateDependencies_ok (reordered.ids.nodup_iff.mp distinct), Sound, Sound,
    reordered.depends]
  simp only [reordered.ids.mem_iff]

def sampleModules : List Module := [⟨"network", []⟩, ⟨"compute", [⟨"network", "installed"⟩]⟩]

theorem validateDependencies_iff_sample :
    (sampleModules.map Module.id).Nodup ∧
      (validateDependencies sampleModules sampleModules = .ok () ↔ Sound sampleModules) :=
  ⟨by decide, (validateDependencies_iff sampleModules (by decide)).1⟩

end CloudRing.Registry
