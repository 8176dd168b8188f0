import CloudRing.Library.Program

/-!
# Programs that return early

A procedure that returns early goes on with a value or leaves with a report (`leave`).
-/

namespace CloudRing.Library

abbrev Exiting {Call : Type} (Reply : Call → Type) (ρ α : Type) := ExceptT ρ (Program Reply) α

namespace Program

variable {Call : Type} {Reply : Call → Type} {ρ α β σ : Type}

def leave (report : Program Reply ρ) : Exiting Reply ρ α :=
  ExceptT.mk (report >>= fun value => done (Except.error value))

def require (holds : Bool) (otherwise : Program Reply ρ) : Exiting Reply ρ Unit :=
  if holds then pure () else leave otherwise

def finish (procedure : Exiting Reply ρ ρ) : Program Reply ρ :=
  procedure.run >>= fun result =>
    match result with
    | .ok report => done report
    | .error report => done report

def wpExit (environment : Environment Reply σ) (procedure : Exiting Reply ρ α)
    (goes : α → σ → Prop) (leaves : ρ → σ → Prop) (state : σ) : Prop :=
  procedure.run.wp environment (fun result last =>
    match result with
    | .ok value => goes value last
    | .error report => leaves report last) state

section Rules

variable {environment : Environment Reply σ} {goes : α → σ → Prop} {leaves : ρ → σ → Prop}
  {state : σ}

@[simp] theorem wpExit_pure (value : α) :
    wpExit environment (pure value : Exiting Reply ρ α) goes leaves state ↔ goes value state :=
  Iff.rfl

@[simp] theorem wpExit_lift (program : Program Reply α) :
    wpExit environment (liftM program : Exiting Reply ρ α) goes leaves state ↔
      program.wp environment goes state := by
  have lifted : (liftM program : Exiting Reply ρ α).run =
      program >>= fun value => done (Except.ok value) := rfl
  rw [wpExit, lifted, wp_bind]
  rfl

@[simp] theorem wpExit_leave (report : Program Reply ρ) :
    wpExit environment (leave report : Exiting Reply ρ α) goes leaves state ↔
      report.wp environment leaves state := by
  have left : (leave report : Exiting Reply ρ α).run =
      report >>= fun value => done (Except.error value) := rfl
  rw [wpExit, left, wp_bind]
  rfl

@[simp] theorem wpExit_require {onward : Unit → σ → Prop} (holds : Bool)
    (otherwise : Program Reply ρ) :
    wpExit environment (require holds otherwise) onward leaves state ↔
      (holds = true → onward () state) ∧
        (holds = false → otherwise.wp environment leaves state) := by
  cases holds with
  | true | false => simp [require]

@[simp] theorem wpExit_bind (procedure : Exiting Reply ρ α) (rest : α → Exiting Reply ρ β)
    (after : β → σ → Prop) :
    wpExit environment (procedure >>= rest) after leaves state ↔
      wpExit environment procedure
        (fun value middle => wpExit environment (rest value) after leaves middle) leaves
        state := by
  have bound : (procedure >>= rest).run =
      procedure.run >>= fun result =>
        match result with
        | .ok value => (rest value).run
        | .error report => done (Except.error report) := rfl
  rw [wpExit, bound, wp_bind, wpExit]
  refine iff_of_eq (congrArg (fun post => procedure.run.wp environment post state) ?_)
  funext result middle
  cases result <;> rfl

theorem wpExit_mono {procedure : Exiting Reply ρ α} {after : α → σ → Prop}
    {outcome : ρ → σ → Prop}
    (holds : wpExit environment procedure goes leaves state)
    (onward : ∀ value last, goes value last → after value last)
    (outward : ∀ report last, leaves report last → outcome report last) :
    wpExit environment procedure after outcome state := by
  refine wp_mono holds fun result last reached => ?_
  cases result with
  | ok value => exact onward value last reached
  | error report => exact outward report last reached

theorem wpExit_then {procedure : Exiting Reply ρ α} {rest : α → Exiting Reply ρ β}
    {middle : α → σ → Prop} {after : β → σ → Prop}
    (first : wpExit environment procedure middle leaves state)
    (second : ∀ value last, middle value last →
      wpExit environment (rest value) after leaves last) :
    wpExit environment (procedure >>= rest) after leaves state :=
  (wpExit_bind procedure rest after).mpr (wpExit_mono first second fun _ _ left => left)

theorem wpExit_run {program : Program Reply α} {rest : α → Exiting Reply ρ β}
    {middle : α → σ → Prop} {after : β → σ → Prop}
    (first : program.wp environment middle state)
    (second : ∀ value last, middle value last →
      wpExit environment (rest value) after leaves last) :
    wpExit environment (liftM program >>= rest) after leaves state :=
  wpExit_then ((wpExit_lift program).mpr first) second

theorem wpExit_unless {holds : Bool} {otherwise : Program Reply ρ}
    {rest : Unit → Exiting Reply ρ β} {after : β → σ → Prop}
    (fails : holds = false → otherwise.wp environment leaves state)
    (goes : holds = true → wpExit environment (rest ()) after leaves state) :
    wpExit environment (require holds otherwise >>= rest) after leaves state :=
  (wpExit_bind _ rest after).mpr ((wpExit_require holds otherwise).mpr ⟨goes, fails⟩)

theorem wpExit_granted {holds : Bool} {otherwise : Program Reply ρ}
    {rest : Unit → Exiting Reply ρ β} {after : β → σ → Prop} (granted : holds = true)
    (goes : wpExit environment (rest ()) after leaves state) :
    wpExit environment (require holds otherwise >>= rest) after leaves state :=
  wpExit_unless (fun refused => absurd (granted.symm.trans refused) nofun) fun _ => goes

theorem wpExit_trivial (procedure : Exiting Reply ρ α) :
    wpExit environment procedure (fun _ _ => True) (fun _ _ => True) state := by
  refine wp_mono (wp_invariant (fun _ => True) (fun _ _ _ _ _ _ => trivial) procedure.run trivial)
    fun result last _ => ?_
  cases result <;> trivial

theorem wp_finish {procedure : Exiting Reply ρ ρ} {outcome : ρ → σ → Prop}
    (holds : wpExit environment procedure outcome outcome state) :
    (finish procedure).wp environment outcome state := by
  rw [finish, wp_bind]
  refine wp_mono holds fun result last reached => ?_
  cases result <;> exact reached

end Rules

section Runs

variable {environment : Environment Reply σ} {state middle last : σ}

theorem Run.lifted {program : Program Reply α} {rest : α → Exiting Reply ρ β} {value : α}
    {result : Except ρ β} (first : Run environment state program value middle)
    (second : Run environment middle (rest value).run result last) :
    Run environment state (liftM program >>= rest : Exiting Reply ρ β).run result last :=
  Run.bind (Run.bind first (Run.done middle (Except.ok value))) second

theorem Run.onward {procedure : Exiting Reply ρ α} {rest : α → Exiting Reply ρ β} {value : α}
    {result : Except ρ β} (first : Run environment state procedure.run (.ok value) middle)
    (second : Run environment middle (rest value).run result last) :
    Run environment state (procedure >>= rest).run result last :=
  Run.bind first second

theorem runWith_onward {handler : σ → (call : Call) → Reply call × σ}
    {procedure : Exiting Reply ρ α} {rest : α → Exiting Reply ρ β} {value : α}
    (first : procedure.run.runWith handler state = (.ok value, middle)) :
    (procedure >>= rest).run.runWith handler state =
      (rest value).run.runWith handler middle := by
  have bound : (procedure >>= rest).run =
      procedure.run >>= fun result =>
        match result with
        | .ok value => (rest value).run
        | .error report => done (Except.error report) := rfl
  rw [bound, runWith_bind, first]

end Runs

section Uses

variable {allowed : Call → Prop}

theorem uses_leave {report : Program Reply ρ} (uses : report.Uses allowed) :
    (leave report : Exiting Reply ρ α).run.Uses allowed :=
  uses_bind uses fun _ => trivial

theorem uses_require {holds : Bool} {otherwise : Program Reply ρ}
    (uses : otherwise.Uses allowed) : (require holds otherwise).run.Uses allowed := by
  cases holds with
  | true => trivial
  | false => exact uses_leave uses

theorem uses_lift {program : Program Reply α} (uses : program.Uses allowed) :
    (liftM program : Exiting Reply ρ α).run.Uses allowed :=
  uses_bind uses fun _ => trivial

theorem uses_bindExit {procedure : Exiting Reply ρ α} {rest : α → Exiting Reply ρ β}
    (first : procedure.run.Uses allowed) (second : ∀ value, (rest value).run.Uses allowed) :
    (procedure >>= rest).run.Uses allowed := by
  refine uses_bind first fun result => ?_
  cases result with
  | ok value => exact second value
  | error report => trivial

end Uses

end Program

end CloudRing.Library
