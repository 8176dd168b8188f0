import CloudRing.Library.Exit
import Mathlib.Data.List.Infix

/-!
# Histories of acts

A history is proper if every act in it was allowed by the acts before it (`Proper`).
-/

namespace CloudRing.Library

variable {Act : Type} {permits : List Act → Act → Prop}

def Proper (permits : List Act → Act → Prop) : List Act → Prop
  | [] => True
  | act :: older => permits older act ∧ Proper permits older

theorem Proper.older {trace older : List Act} (proper : Proper permits trace)
    (begins : older <:+ trace) : Proper permits older := by
  obtain ⟨newer, rfl⟩ := begins
  induction newer with
  | nil => exact proper
  | cons act newer ih => exact ih proper.2

theorem Proper.allowed {trace newer older : List Act} {act : Act} (proper : Proper permits trace)
    (split : trace = newer ++ act :: older) : permits older act :=
  (proper.older ⟨newer, split.symm⟩).1

structure Recorder {Call : Type} {Reply : Call → Type}
    (environment : Program.Environment Reply (List Act)) : Prop where
  grows : ∀ {trace call reply next}, environment trace call reply next → trace <:+ next
  answers : ∀ trace call, ∃ reply next, environment trace call reply next

theorem Recorder.cut {Call : Type} {Reply : Call → Type} {ρ α : Type}
    {environment : Program.Environment Reply (List Act)} (recorder : Recorder environment)
    {procedure : Exiting Reply ρ α} {trace last : List Act}
    (keeps : Program.wpExit environment procedure (fun _ last => Proper permits last)
      (fun _ last => Proper permits last) trace)
    (killed : Program.Cut environment trace procedure.run last) : Proper permits last := by
  have holds : procedure.run.wp environment (fun _ last => Proper permits last) trace := by
    refine Program.wp_mono keeps fun result last reached => ?_
    cases result <;> exact reached
  exact killed.safe recorder.answers (fun _ _ _ _ done proper => proper.older (recorder.grows done))
    holds

end CloudRing.Library
