import Mathlib.Data.List.Basic
import Mathlib.Order.WellFounded

/-!
# Ancestors in an acyclic graph

Every node has parents, and no node is its own ancestor.
-/

namespace CloudRing.Library

section Ancestry

variable {α β : Type} (parents : α → List α)

def Ancestor : α → α → Prop := Relation.ReflTransGen fun child parent => parent ∈ parents child

theorem exists_origin (acyclic : WellFounded fun parent child => parent ∈ parents child)
    (old : α → Prop) (value : α → β) (node : α) :
    (∃ ancestor, Ancestor parents node ancestor ∧ old ancestor ∧ value ancestor = value node) ∨
      ∃ origin, Ancestor parents node origin ∧ ¬ old origin ∧ value origin = value node ∧
        (parents origin = [] ∨ ∃ parent ∈ parents origin, value parent ≠ value origin) := by
  induction node using acyclic.induction with
  | _ node earlier =>
    by_cases known : old node
    · exact .inl ⟨node, .refl, known, rfl⟩
    by_cases brought : parents node = [] ∨ ∃ parent ∈ parents node, value parent ≠ value node
    · exact .inr ⟨node, .refl, known, rfl, brought⟩
    -- Every parent has the value, so the origin of the first parent's is the node's.
    rw [not_or, not_exists] at brought
    obtain ⟨parent, listed⟩ := List.exists_mem_of_ne_nil _ brought.1
    have same : value parent = value node := by
      by_contra other
      exact brought.2 parent ⟨listed, other⟩
    obtain ⟨ancestor, reached, oldest, kept⟩ | ⟨origin, reached, fresh, kept, brings⟩ :=
      earlier parent listed
    · exact .inl ⟨ancestor, .head listed reached, oldest, kept.trans same⟩
    · exact .inr ⟨origin, .head listed reached, fresh, kept.trans same, brings⟩

end Ancestry

end CloudRing.Library
