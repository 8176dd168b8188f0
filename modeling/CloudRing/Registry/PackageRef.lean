import CloudRing.Library.Path
import CloudRing.Library.Pattern

/-!
# Package references

`validPackageRef` accepts a clean relative path, which names a package below the directory of the
registry, and the path `..`, which does not.
-/

namespace CloudRing.Registry

open Library Library.Path

def validPackageRef (value : String) : Bool :=
  Pattern.trimSpace value ≠ "" && Pattern.trimSpace value = value &&
    !decide ("://".toList <:+: value.toList) && '\\' ∉ value.toList &&
    clean value = value && !isAbs value && clean value ≠ "." &&
    !decide ("../".toList <+: (clean value).toList)

/-- The elements of `path.Join`, before they are cleaned: an empty one is left out. -/
def join (root value : String) : String := if root = "" then value else root ++ "/" ++ value

def StrictlyInside (root path : String) : Prop :=
  isAbs path = isAbs root ∧ ∃ inner ≠ [], ".." ∉ inner ∧ stack path = inner ++ stack root

theorem join_stack {root value : String} (relative : isAbs value = false) :
    isAbs (join root value) = isAbs root ∧ stack (join root value) =
      (split value).foldl (cleanComponent (isAbs root)) (stack root) := by
  by_cases empty : root = ""
  · subst empty
    rw [join, if_pos rfl, stack, relative]
    exact ⟨rfl, rfl⟩
  · have same : isAbs (join root value) = isAbs root := by
      rw [join, if_neg empty, isAbs, isAbs, String.append_assoc, String.toList_append]
      cases shape : root.toList with
      | nil => exact absurd (String.toList_eq_nil_iff.mp shape) empty
      | cons char rest => rfl
    refine ⟨same, ?_⟩
    rw [stack, same, join, if_neg empty, split_append rfl, List.foldl_append]
    rfl

theorem intercalate_parent (rest : List String) :
    rest = [] ∨ "../".toList <+: ['/'].intercalate ((".." :: rest).map String.toList) := by
  cases rest with
  | nil => exact .inl rfl
  | cons name rest =>
    right
    refine ⟨['/'].intercalate ((name :: rest).map String.toList), ?_⟩
    simp [List.intercalate]

theorem validPackageRef_names {value : String} (valid : validPackageRef value = true)
    (child : value ≠ "..") :
    split value ≠ [] ∧ ∀ name ∈ split value, name ≠ "" ∧ name ≠ "." ∧ name ≠ ".." := by
  simp only [validPackageRef, Bool.and_eq_true, Bool.not_eq_true', decide_eq_true_eq,
    decide_eq_false_iff_not] at valid
  obtain ⟨⟨⟨⟨-, fixed⟩, relative⟩, here⟩, below⟩ := valid
  have some : stack value ≠ [] := by
    intro none
    rw [clean, if_pos none, relative] at here
    exact here rfl
  have pieces := split_of_clean fixed relative some
  have tidy := stack_tidy value
  rw [pieces]
  refine ⟨by simpa using some, ?_⟩
  intro name member
  have listed := List.mem_reverse.mp member
  refine ⟨(tidy.named name listed).1, (tidy.named name listed).2.1, ?_⟩
  rintro rfl
  obtain ⟨front, bottom⟩ := List.getLast?_eq_some_iff.mp (tidy.parent_bottom listed)
  have texts : (clean value).toList =
      ['/'].intercalate ((".." :: front.reverse).map String.toList) := by
    rw [clean, if_neg some, relative, bottom, List.reverse_append]
    simp
  rcases intercalate_parent front.reverse with none | prefixed
  · rw [none] at texts
    refine child (fixed.symm.trans (String.toList_inj.mp (texts.trans ?_)))
    rfl
  · exact below (texts ▸ prefixed)

theorem cleanComponent_parent (rooted : Bool) (done inner : List String) (some : inner ≠ [])
    (child : ".." ∉ inner) : cleanComponent rooted done ".." ≠ inner ++ done := by
  intro same
  unfold cleanComponent at same
  rw [if_neg (by decide), if_pos rfl] at same
  split at same
  · cases rooted with
    | true => exact some (List.append_eq_nil_iff.mp same.symm).1
    | false => exact child (List.append_nil inner ▸ same ▸ List.mem_cons_self)
  · rename_i rest
    have top : [".."] = inner := List.append_cancel_right same
    exact child (top ▸ List.mem_cons_self)
  · have lengths := congrArg List.length same
    simp only [List.length_append, List.length_cons] at lengths
    omega

/-- An accepted reference is joined to a path strictly inside every root exactly when it is
not `..`. -/
theorem validPackageRef_inside_iff (value : String) (valid : validPackageRef value = true)
    (root : String) : StrictlyInside root (join root value) ↔ value ≠ ".." := by
  have relative : isAbs value = false := by
    simp only [validPackageRef, Bool.and_eq_true, Bool.not_eq_true'] at valid
    exact valid.1.1.2
  obtain ⟨same, joined⟩ := @join_stack root value relative
  constructor
  · rintro ⟨-, inner, some, child, inside⟩ rfl
    rw [joined, split_eq_singleton (by decide)] at inside
    exact cleanComponent_parent _ _ inner some child inside
  · intro child
    obtain ⟨some, plain⟩ := validPackageRef_names valid child
    refine ⟨same, (split value).reverse, by simpa using some, ?_, ?_⟩
    · intro parent
      exact (plain ".." (List.mem_reverse.mp parent)).2.2 rfl
    · rw [joined, foldl_cleanComponent plain]

theorem validPackageRef_inside_sample : validPackageRef "charts/network" = true ∧
    ∀ root, StrictlyInside root (join root "charts/network") :=
  ⟨by decide, fun root =>
    (validPackageRef_inside_iff "charts/network" (by decide) root).mpr (by decide)⟩

/-- The reference `..` is accepted and names the directory above the root. -/
theorem validPackageRef_parent :
    validPackageRef ".." = true ∧ clean (join "/srv/modules" "..") = "/srv" := by
  decide

end CloudRing.Registry
