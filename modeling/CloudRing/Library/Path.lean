import Mathlib.Data.List.Basic

/-!
# Paths and their components

A path is a text cut at its slashes.
-/

namespace CloudRing.Library.Path

def split (path : String) : List String := (path.toList.splitOn '/').map String.ofList

theorem split_append {front stem : String} (whole : front = stem ++ "/") (back : String) :
    split (front ++ back) = split stem ++ split back := by
  have joined : (front ++ back).toList = stem.toList ++ '/' :: back.toList := by
    rw [whole, String.toList_append, String.toList_append, List.append_assoc]
    rfl
  rw [split, joined, List.splitOn_append_cons_self, List.map_append]
  rfl

theorem split_eq_singleton {text : String} (whole : '/' ∉ text.toList) : split text = [text] := by
  rw [split, List.splitOn_eq_singleton whole, List.map_singleton, String.ofList_toList]

/-! ## Cleaned paths -/

def isAbs (path : String) : Bool := path.toList.head? = some '/'

def cleanComponent (rooted : Bool) (done : List String) (component : String) : List String :=
  if component = "" || component = "." then done
  else if component = ".." then
    match done with
    | [] => if rooted then [] else [".."]
    | ".." :: rest => ".." :: ".." :: rest
    | _ :: rest => rest
  else component :: done

def stack (path : String) : List String := (split path).foldl (cleanComponent (isAbs path)) []

/-- `path.Clean`: the shortest path that is lexically equivalent. -/
def clean (path : String) : String :=
  if stack path = [] then if isAbs path then "/" else "."
  else String.ofList ((if isAbs path then ['/'] else []) ++
    ['/'].intercalate ((stack path).reverse.map String.toList))

/-- What a stack is made of: names, with every `..` at its bottom. -/
structure Tidy (stack : List String) : Prop where
  named : ∀ name ∈ stack, name ≠ "" ∧ name ≠ "." ∧ '/' ∉ name.toList
  parents : stack.Pairwise fun later earlier => later = ".." → earlier = ".."

theorem notMem_of_mem_splitOn {α : Type} [BEq α] [LawfulBEq α] {separator : α}
    {text piece : List α} (member : piece ∈ text.splitOn separator) : separator ∉ piece := by
  induction text generalizing piece with
  | nil =>
    rw [List.splitOn_nil, List.mem_singleton] at member
    rw [member]
    exact List.not_mem_nil
  | cons char rest ih =>
    rw [List.splitOn_cons_eq_if_modifyHead] at member
    split at member
    · rcases List.mem_cons.mp member with rfl | later
      · exact List.not_mem_nil
      · exact ih later
    · rename_i other
      cases pieces : rest.splitOn separator with
      | nil => exact absurd pieces (List.splitOn_ne_nil separator rest)
      | cons first later =>
        rw [pieces] at ih member
        rcases List.mem_cons.mp member with rfl | member
        · rw [List.mem_cons, not_or]
          exact ⟨fun same => other (beq_iff_eq.mpr same.symm), ih List.mem_cons_self⟩
        · exact ih (List.mem_cons_of_mem _ member)

theorem Tidy.cleanComponent {rooted : Bool} {done : List String} {component : String}
    (tidy : Tidy done) (whole : '/' ∉ component.toList) :
    Tidy (cleanComponent rooted done component) := by
  unfold Path.cleanComponent
  split
  · exact tidy
  rename_i named
  simp only [Bool.or_eq_true, decide_eq_true_eq, not_or] at named
  split
  · rename_i parent
    split
    · cases rooted <;> exact ⟨by simp, by simp⟩
    · refine ⟨List.forall_mem_cons.mpr ⟨by decide, tidy.named⟩, List.pairwise_cons.mpr
        ⟨fun name member _ => ?_, tidy.parents⟩⟩
      rcases List.mem_cons.mp member with same | deeper
      · exact same
      · exact (List.pairwise_cons.mp tidy.parents).1 name deeper rfl
    · exact ⟨fun name member => tidy.named name (List.mem_cons_of_mem _ member),
        tidy.parents.of_cons⟩
  · rename_i child
    exact ⟨List.forall_mem_cons.mpr ⟨⟨named.1, named.2, whole⟩, tidy.named⟩,
      List.pairwise_cons.mpr ⟨fun _ _ same => absurd same child, tidy.parents⟩⟩

theorem stack_tidy (path : String) : Tidy (stack path) := by
  refine List.foldlRecOn _ _ ⟨by simp, .nil⟩ fun done tidy piece member => tidy.cleanComponent ?_
  obtain ⟨text, cut, rfl⟩ := List.mem_map.mp member
  rw [String.toList_ofList]
  exact notMem_of_mem_splitOn cut

theorem Tidy.parent_bottom {stack : List String} (tidy : Tidy stack) (parent : ".." ∈ stack) :
    stack.getLast? = some ".." := by
  induction stack with
  | nil => exact absurd parent List.not_mem_nil
  | cons name rest ih =>
    have rest' : Tidy rest := ⟨fun other member => tidy.named other (List.mem_cons_of_mem _ member),
      tidy.parents.of_cons⟩
    cases rest with
    | nil => rw [List.mem_singleton.mp parent, List.getLast?_singleton]
    | cons below deeper =>
      rw [List.getLast?_cons_cons]
      refine ih rest' ?_
      rcases List.mem_cons.mp parent with same | member
      · have := (List.pairwise_cons.mp tidy.parents).1 below List.mem_cons_self same.symm
        exact this ▸ List.mem_cons_self
      · exact member

theorem split_of_clean {path : String} (fixed : clean path = path) (relative : isAbs path = false)
    (named : stack path ≠ []) : split path = (stack path).reverse := by
  have texts : path.toList = ['/'].intercalate ((stack path).reverse.map String.toList) := by
    conv_lhs => rw [← fixed, clean, if_neg named, relative]
    simp
  rw [split, texts, List.splitOn_intercalate, List.map_map]
  · simp
  · intro text member
    obtain ⟨name, listed, rfl⟩ := List.mem_map.mp member
    exact ((stack_tidy path).named name (List.mem_reverse.mp listed)).2.2
  · simpa using named

theorem foldl_cleanComponent {rooted : Bool} {names done : List String}
    (plain : ∀ name ∈ names, name ≠ "" ∧ name ≠ "." ∧ name ≠ "..") :
    names.foldl (cleanComponent rooted) done = names.reverse ++ done := by
  induction names generalizing done with
  | nil => rfl
  | cons name rest ih =>
    obtain ⟨⟨some, here, child⟩, later⟩ := List.forall_mem_cons.mp plain
    rw [List.foldl_cons, ih later, List.reverse_cons, List.append_assoc, List.singleton_append]
    simp [cleanComponent, some, here, child]

end CloudRing.Library.Path
