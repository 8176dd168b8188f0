import CloudRing.Library.Json.Styles
import Mathlib.Data.List.Sort

/-!
# Values up to the order of members

A store may rewrite the numbers of a document and reorder the members of its objects.
-/

namespace CloudRing.Library.Json

def keyLe (left right : String × Json) : Prop := left.1 ≤ right.1

instance : DecidableRel keyLe := fun left right => inferInstanceAs (Decidable (left.1 ≤ right.1))

instance : IsTrans (String × Json) keyLe := ⟨fun _ _ _ => String.le_trans⟩

instance : Std.Total keyLe := ⟨fun left right => String.le_total left.1 right.1⟩

section Reshape

variable (number : Numeral → Numeral)
  (order : List (String × Json) → List (String × Json))

mutual

def reshape : Json → Json
  | Json.number value => Json.number (number value)
  | array items => array (reshapeItems items)
  | object members => object (order (reshapeMembers members))
  | value => value

def reshapeItems : List Json → List Json
  | [] => []
  | item :: items => reshape item :: reshapeItems items

def reshapeMembers : List (String × Json) → List (String × Json)
  | [] => []
  | (key, value) :: members => (key, reshape value) :: reshapeMembers members

end

end Reshape

def sortByKey (members : List (String × Json)) : List (String × Json) :=
  members.insertionSort keyLe

def sorted : Json → Json := reshape id sortByKey

/-- `json.Marshal` of a value decoded without a destination type: its objects are maps. -/
def marshal (value : Json) : List UInt8 := goStyle.bytes (sorted value)

theorem parse_marshal (value : Json) : parse (marshal value) = some (sorted value) :=
  parse_bytes goStyle_lawful (sorted value)

mutual

def DistinctKeys : Json → Prop
  | array items => DistinctItems items
  | object members => (members.map Prod.fst).Nodup ∧ DistinctMembers members
  | _ => True

def DistinctItems : List Json → Prop
  | [] => True
  | item :: items => DistinctKeys item ∧ DistinctItems items

def DistinctMembers : List (String × Json) → Prop
  | [] => True
  | (_, value) :: members => DistinctKeys value ∧ DistinctMembers members

end

mutual

/-- The number of objects and lists around the innermost value; an empty object or list is
itself an innermost value. -/
def levels : Json → Nat
  | array items => levelsItems items
  | object members => levelsMembers members
  | _ => 0

def levelsItems : List Json → Nat
  | [] => 0
  | item :: items => max (levels item + 1) (levelsItems items)

def levelsMembers : List (String × Json) → Nat
  | [] => 0
  | (_, value) :: members => max (levels value + 1) (levelsMembers members)

end

section Numbers

variable (keeps : Numeral → Prop)

mutual

def AllNumbers : Json → Prop
  | Json.number value => keeps value
  | array items => AllNumbersItems items
  | object members => AllNumbersMembers members
  | _ => True

def AllNumbersItems : List Json → Prop
  | [] => True
  | item :: items => AllNumbers item ∧ AllNumbersItems items

def AllNumbersMembers : List (String × Json) → Prop
  | [] => True
  | (_, value) :: members => AllNumbers value ∧ AllNumbersMembers members

end

end Numbers

theorem reshapeMembers_eq_map (number : Numeral → Numeral)
    (order : List (String × Json) → List (String × Json)) (members : List (String × Json)) :
    reshapeMembers number order members =
      members.map fun member => (member.1, reshape number order member.2) := by
  induction members with
  | nil => rfl
  | cons member members ih => rw [reshapeMembers, ih, List.map_cons]

theorem distinctItems_iff (items : List Json) :
    DistinctItems items ↔ ∀ item ∈ items, DistinctKeys item := by
  induction items with
  | nil => simp [DistinctItems]
  | cons item items ih => simp [DistinctItems, ih]

theorem distinctMembers_iff (members : List (String × Json)) :
    DistinctMembers members ↔ ∀ member ∈ members, DistinctKeys member.2 := by
  induction members with
  | nil => simp [DistinctMembers]
  | cons member members ih => simp [DistinctMembers, ih]

theorem levelsMembers_le_iff (members : List (String × Json)) (bound : Nat) :
    levelsMembers members ≤ bound ↔ ∀ member ∈ members, levels member.2 + 1 ≤ bound := by
  induction members with
  | nil => simp [levelsMembers]
  | cons member members ih => simp [levelsMembers, ih]

mutual

theorem depth_le_levels : ∀ value : Json, depth value ≤ levels value + 1
  | null | bool _ | number _ | string _ => by simp [depth]
  | array items => by
    have inner := depthItems_le_levels items
    simp only [depth, levels]
    omega
  | object members => by
    have inner := depthMembers_le_levels members
    simp only [depth, levels]
    omega

theorem depthItems_le_levels : ∀ items : List Json, depthItems items ≤ levelsItems items
  | [] => by simp [depthItems]
  | item :: items => by
    have first := depth_le_levels item
    have rest := depthItems_le_levels items
    simp only [depthItems, levelsItems]
    omega

theorem depthMembers_le_levels :
    ∀ members : List (String × Json), depthMembers members ≤ levelsMembers members
  | [] => by simp [depthMembers]
  | (_, value) :: members => by
    have first := depth_le_levels value
    have rest := depthMembers_le_levels members
    simp only [depthMembers, levelsMembers]
    omega

end

theorem sortByKey_perm (members : List (String × Json)) : (sortByKey members).Perm members :=
  List.perm_insertionSort keyLe members

theorem sortByKey_eq {left right : List (String × Json)} (perm : left.Perm right)
    (distinct : (left.map Prod.fst).Nodup) :
    sortByKey left = sortByKey right := by
  have sortedPerm : (sortByKey left).Perm (sortByKey right) :=
    ((sortByKey_perm left).trans perm).trans (sortByKey_perm right).symm
  refine sortedPerm.eq_of_pairwise ?_ (List.pairwise_insertionSort keyLe left)
    (List.pairwise_insertionSort keyLe right)
  intro a b first second below above
  have here : a ∈ left := (sortByKey_perm left).mem_iff.mp first
  have there : b ∈ left := perm.mem_iff.mpr ((sortByKey_perm right).mem_iff.mp second)
  exact List.inj_on_of_nodup_map distinct here there (String.le_antisymm below above)

section Laws

variable {number other : Numeral → Numeral}
  {order : List (String × Json) → List (String × Json)}

theorem reshapeMembers_keys (members : List (String × Json)) :
    (reshapeMembers number order members).map Prod.fst = members.map Prod.fst := by
  rw [reshapeMembers_eq_map, List.map_map]
  rfl

section Permuted

set_option linter.unusedSectionVars false

variable (permutes : ∀ members, (order members).Perm members) (again : Numeral → Numeral)

include permutes

mutual

theorem reshape_distinct :
    ∀ value : Json, DistinctKeys value → DistinctKeys (reshape number order value)
  | null, _ | bool _, _ | Json.number _, _ | string _, _ => by
    simp [reshape, DistinctKeys]
  | array items, distinct => by
    simp only [reshape, DistinctKeys] at distinct ⊢
    exact reshapeItems_distinct items distinct
  | object members, distinct => by
    simp only [reshape, DistinctKeys] at distinct ⊢
    have perm := permutes (reshapeMembers number order members)
    have inner := reshapeMembers_distinct members distinct.2
    constructor
    · rw [(perm.map Prod.fst).nodup_iff, reshapeMembers_keys]
      exact distinct.1
    · rw [distinctMembers_iff] at inner ⊢
      intro member listed
      exact inner member (perm.mem_iff.mp listed)

theorem reshapeItems_distinct :
    ∀ items : List Json, DistinctItems items → DistinctItems (reshapeItems number order items)
  | [], _ => trivial
  | item :: items, distinct =>
    ⟨reshape_distinct item distinct.1, reshapeItems_distinct items distinct.2⟩

theorem reshapeMembers_distinct :
    ∀ members : List (String × Json), DistinctMembers members →
      DistinctMembers (reshapeMembers number order members)
  | [], _ => trivial
  | (_, value) :: members, distinct =>
    ⟨reshape_distinct value distinct.1, reshapeMembers_distinct members distinct.2⟩

end

mutual

theorem levels_reshape : ∀ value : Json, levels (reshape number order value) = levels value
  | null | bool _ | Json.number _ | string _ => by simp [reshape, levels]
  | array items => by
    simp only [reshape, levels]
    exact levelsItems_reshape items
  | object members => by
    simp only [reshape, levels]
    rw [← levelsMembers_reshape members]
    have perm := permutes (reshapeMembers number order members)
    apply Nat.le_antisymm
    · rw [levelsMembers_le_iff]
      intro member listed
      exact (levelsMembers_le_iff _ _).mp le_rfl member (perm.mem_iff.mp listed)
    · rw [levelsMembers_le_iff]
      intro member listed
      exact (levelsMembers_le_iff _ _).mp le_rfl member (perm.mem_iff.mpr listed)

theorem levelsItems_reshape :
    ∀ items : List Json, levelsItems (reshapeItems number order items) = levelsItems items
  | [] => rfl
  | item :: items => by
    simp only [reshapeItems, levelsItems, levels_reshape item, levelsItems_reshape items]

theorem levelsMembers_reshape : ∀ members : List (String × Json),
    levelsMembers (reshapeMembers number order members) = levelsMembers members
  | [] => rfl
  | (_, value) :: members => by
    simp only [reshapeMembers, levelsMembers, levels_reshape value, levelsMembers_reshape members]

end

mutual

theorem reshape_sort : ∀ value : Json, DistinctKeys value →
    reshape again sortByKey (reshape number order value) = reshape (again ∘ number) sortByKey value
  | null, _ | bool _, _ | Json.number _, _ | string _, _ => by simp [reshape]
  | array items, distinct => by
    simp only [reshape]
    rw [reshapeItems_sort items distinct]
  | object members, distinct => by
    simp only [reshape]
    rw [← reshapeMembers_sort members distinct.2]
    congr 1
    have perm := permutes (reshapeMembers number order members)
    apply sortByKey_eq
    · simp only [reshapeMembers_eq_map again]
      exact perm.map _
    · rw [reshapeMembers_keys, (perm.map Prod.fst).nodup_iff, reshapeMembers_keys]
      exact distinct.1

theorem reshapeItems_sort : ∀ items : List Json, DistinctItems items →
    reshapeItems again sortByKey (reshapeItems number order items) =
      reshapeItems (again ∘ number) sortByKey items
  | [], _ => rfl
  | item :: items, distinct => by
    have first := reshape_sort item distinct.1
    have rest := reshapeItems_sort items distinct.2
    simp only [reshapeItems, first, rest]

theorem reshapeMembers_sort : ∀ members : List (String × Json), DistinctMembers members →
    reshapeMembers again sortByKey (reshapeMembers number order members) =
      reshapeMembers (again ∘ number) sortByKey members
  | [], _ => rfl
  | (_, value) :: members, distinct => by
    have first := reshape_sort value distinct.1
    have rest := reshapeMembers_sort members distinct.2
    simp only [reshapeMembers, first, rest]

end

theorem sorted_reshape {value : Json} (distinct : DistinctKeys value) :
    sorted (reshape number order value) = reshape number sortByKey value := by
  rw [sorted, reshape_sort permutes id value distinct, Function.id_comp]

mutual

theorem allNumbers_of_reshape : ∀ value : Json, DistinctKeys value →
    reshape number order value = reshape other order value →
      AllNumbers (fun numeral => number numeral = other numeral) value
  | null, _, _ | bool _, _, _ | string _, _, _ => by simp [AllNumbers]
  | Json.number _, _, same => by
    simp only [reshape, Json.number.injEq] at same
    exact same
  | array items, distinct, same => by
    simp only [reshape, array.injEq] at same
    exact allNumbersItems_of_reshape items distinct same
  | object members, distinct, same => by
    simp only [reshape, object.injEq, reshapeMembers_eq_map] at same
    apply allNumbersMembers_of_reshape members distinct.2
    intro key value listed
    -- Both orders hold the same members, and the key of a member tells it from the others.
    have left : (key, reshape number order value) ∈
        members.map fun member => (member.1, reshape number order member.2) :=
      List.mem_map.mpr ⟨(key, value), listed, rfl⟩
    rw [← (permutes _).mem_iff, same, (permutes _).mem_iff, List.mem_map] at left
    obtain ⟨found, among, equal⟩ := left
    rw [List.inj_on_of_nodup_map distinct.1 among listed (Prod.mk.inj equal).1] at equal
    exact (Prod.mk.inj equal).2.symm

theorem allNumbersItems_of_reshape : ∀ items : List Json, DistinctItems items →
    reshapeItems number order items = reshapeItems other order items →
      AllNumbersItems (fun numeral => number numeral = other numeral) items
  | [], _, _ => trivial
  | item :: items, distinct, same => by
    simp only [reshapeItems, List.cons.injEq] at same
    exact ⟨allNumbers_of_reshape item distinct.1 same.1,
      allNumbersItems_of_reshape items distinct.2 same.2⟩

theorem allNumbersMembers_of_reshape : ∀ members : List (String × Json),
    DistinctMembers members →
    (∀ key value, (key, value) ∈ members →
      reshape number order value = reshape other order value) →
      AllNumbersMembers (fun numeral => number numeral = other numeral) members
  | [], _, _ => trivial
  | (key, value) :: members, distinct, same => by
    have rest := allNumbersMembers_of_reshape members distinct.2
      fun other inner listed => same other inner (List.mem_cons_of_mem _ listed)
    exact ⟨allNumbers_of_reshape value distinct.1 (same key value List.mem_cons_self), rest⟩

end

end Permuted

theorem reshape_sorted (again : Numeral → Numeral) {value : Json}
    (distinct : DistinctKeys value) :
    reshape again sortByKey (sorted value) = reshape again sortByKey value := by
  rw [sorted, reshape_sort sortByKey_perm again value distinct, Function.comp_id]

theorem sorted_distinct {value : Json} (distinct : DistinctKeys value) :
    DistinctKeys (sorted value) :=
  reshape_distinct sortByKey_perm value distinct

theorem levels_sorted (value : Json) : levels (sorted value) = levels value :=
  levels_reshape sortByKey_perm value

mutual

theorem reshape_congr : ∀ value : Json,
    AllNumbers (fun numeral => number numeral = other numeral) value →
      reshape number order value = reshape other order value
  | null, _ | bool _, _ | string _, _ => by simp [reshape]
  | Json.number _, same => by
    simp only [reshape]
    exact congrArg Json.number same
  | array items, same => by
    simp only [reshape]
    exact congrArg array (reshapeItems_congr items same)
  | object members, same => by
    simp only [reshape, reshapeMembers_congr members same]

theorem reshapeItems_congr : ∀ items : List Json,
    AllNumbersItems (fun numeral => number numeral = other numeral) items →
      reshapeItems number order items = reshapeItems other order items
  | [], _ => rfl
  | item :: items, same => by
    simp only [reshapeItems, reshape_congr item same.1, reshapeItems_congr items same.2]

theorem reshapeMembers_congr : ∀ members : List (String × Json),
    AllNumbersMembers (fun numeral => number numeral = other numeral) members →
      reshapeMembers number order members = reshapeMembers other order members
  | [], _ => rfl
  | (_, value) :: members, same => by
    simp only [reshapeMembers, reshape_congr value same.1, reshapeMembers_congr members same.2]

end

end Laws

end CloudRing.Library.Json
