import Mathlib.Logic.Relation

/-!
# Machines of concurrent actors

A machine is a set of initial states and a step relation labelled by the actor that steps.
-/

namespace CloudRing.Library

structure Machine (σ ι : Type) where
  initial : σ → Prop
  step : ι → σ → σ → Prop

namespace Machine

variable {σ ι : Type} (machine : Machine σ ι)

def Reaches : σ → σ → Prop :=
  Relation.ReflTransGen fun state next => ∃ actor, machine.step actor state next

def Reachable (state : σ) : Prop := ∃ start, machine.initial start ∧ machine.Reaches start state

variable {machine}

theorem Reaches.step {start state next : σ} {actor : ι} (reaches : machine.Reaches start state)
    (taken : machine.step actor state next) : machine.Reaches start next :=
  reaches.tail ⟨actor, taken⟩

theorem Reachable.reaches {state last : σ} (reachable : machine.Reachable state)
    (run : machine.Reaches state last) : machine.Reachable last := by
  obtain ⟨start, initial, before⟩ := reachable
  exact ⟨start, initial, before.trans run⟩

theorem invariant {property : σ → Prop} (start : ∀ state, machine.initial state → property state)
    (kept : ∀ actor state next, property state → machine.step actor state next → property next)
    {state : σ} (reachable : machine.Reachable state) : property state := by
  obtain ⟨first, initial, run⟩ := reachable
  induction run with
  | refl => exact start first initial
  | tail _ taken ih =>
    obtain ⟨actor, taken⟩ := taken
    exact kept actor _ _ ih taken

theorem stable (property : σ → Prop)
    (kept : ∀ actor state next, machine.Reachable state → property state →
      machine.step actor state next → property next)
    {state last : σ} (reachable : machine.Reachable state) (run : machine.Reaches state last)
    (holds : property state) : property last := by
  induction run with
  | refl => exact holds
  | tail before taken ih =>
    obtain ⟨actor, taken⟩ := taken
    exact kept actor _ _ (reachable.reaches before) ih taken

end Machine

end CloudRing.Library
