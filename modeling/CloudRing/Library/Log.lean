import CloudRing.Library.Exit

/-!
# Programs that leave a log

An environment that records every call with its reply, and whether it took effect.
-/

namespace CloudRing.Library

structure Event {Call : Type} (Reply : Call → Type) where
  call : Call
  reply : Reply call
  effective : Bool

variable {Call : Type} {Reply : Call → Type} {α β ρ : Type}

def recording (admits : (call : Call) → Reply call → Bool → Prop) :
    Program.Environment Reply (List (Event Reply)) :=
  fun log call reply next =>
    ∃ effective, admits call reply effective ∧ next = ⟨call, reply, effective⟩ :: log

def Extends (allowed : Call → Prop) (log later : List (Event Reply)) : Prop :=
  ∃ newer, later = newer ++ log ∧ ∀ event ∈ newer, allowed event.call

section Rules

variable {admits : (call : Call) → Reply call → Bool → Prop} {allowed : Call → Prop}
  {log later : List (Event Reply)}

theorem wp_recorded {call : Call} {post : Reply call → List (Event Reply) → Prop} :
    (Program.request call).wp (recording admits) post log ↔
      ∀ reply effective, admits call reply effective →
        post reply (⟨call, reply, effective⟩ :: log) := by
  constructor
  · intro holds reply effective admitted
    exact holds reply _ ⟨effective, admitted, rfl⟩
  · rintro holds reply _ ⟨effective, admitted, rfl⟩
    exact holds reply effective admitted

theorem wp_asked {call : Call} {rest : Reply call → Program Reply α}
    {post : α → List (Event Reply) → Prop}
    (answered : ∀ reply effective, admits call reply effective →
      (rest reply).wp (recording admits) post (⟨call, reply, effective⟩ :: log)) :
    (Program.request call >>= rest).wp (recording admits) post log := by
  rintro reply _ ⟨effective, admitted, rfl⟩
  exact answered reply effective admitted

theorem wpExit_asked {call : Call} {rest : Reply call → Exiting Reply ρ α}
    {after : α → List (Event Reply) → Prop} {leaves : ρ → List (Event Reply) → Prop}
    (answered : ∀ reply effective, admits call reply effective →
      Program.wpExit (recording admits) (rest reply) after leaves
        (⟨call, reply, effective⟩ :: log)) :
    Program.wpExit (recording admits) (liftM (Program.request call) >>= rest) after leaves
      log := by
  rw [Program.wpExit_bind, Program.wpExit_lift]
  exact wp_recorded.mpr answered

theorem Extends.refl (allowed : Call → Prop) (log : List (Event Reply)) :
    Extends allowed log log := ⟨[], rfl, by simp⟩

theorem Extends.cons {event : Event Reply} (extension : Extends allowed log later)
    (permitted : allowed event.call) : Extends allowed log (event :: later) := by
  obtain ⟨newer, rfl, calls⟩ := extension
  exact ⟨event :: newer, rfl, List.forall_mem_cons.mpr ⟨permitted, calls⟩⟩

theorem Extends.trans {last : List (Event Reply)} (first : Extends allowed log later)
    (second : Extends allowed later last) : Extends allowed log last := by
  obtain ⟨newer, rfl, calls⟩ := second
  induction newer with
  | nil => exact first
  | cons event newer ih =>
    exact (ih fun other member => calls other (by simp [member])).cons (calls event (by simp))

theorem Extends.mono {weaker : Call → Prop} (extension : Extends allowed log later)
    (implies : ∀ call, allowed call → weaker call) : Extends weaker log later := by
  obtain ⟨newer, rfl, calls⟩ := extension
  exact ⟨newer, rfl, fun event member => implies event.call (calls event member)⟩

theorem Extends.carries (property : List (Event Reply) → Prop)
    (step : ∀ event before, allowed event.call → property before → property (event :: before))
    (extension : Extends allowed log later) (holds : property log) : property later := by
  obtain ⟨newer, rfl, calls⟩ := extension
  induction newer with
  | nil => exact holds
  | cons event newer ih =>
    exact step event _ (calls event (by simp))
      (ih fun other member => calls other (by simp [member]))

theorem Extends.keeps {view : List (Event Reply) → β}
    (step : ∀ event before, allowed event.call → view (event :: before) = view before)
    (extension : Extends allowed log later) : view later = view log :=
  Extends.carries (fun logged => view logged = view log)
    (fun event before permitted same => (step event before permitted).trans same) extension rfl

theorem wp_extends {program : Program Reply α} (uses : program.Uses allowed) :
    program.wp (recording admits) (fun _ later => Extends allowed log later) log := by
  refine Program.wp_of_uses (Extends allowed log) ?_ uses (Extends.refl allowed log)
  rintro before call reply _ permitted extended ⟨effective, -, rfl⟩
  exact extended.cons permitted

end Rules

end CloudRing.Library
