import Mathlib.Order.Basic

/-!
# Programs that ask an environment

A program is done with a value, or it asks one call and goes on with the reply.
-/

namespace CloudRing.Library

inductive Program {Call : Type} (Reply : Call → Type) (α : Type) where
  | done (value : α)
  | ask (call : Call) (next : Reply call → Program Reply α)

namespace Program

variable {Call : Type} {Reply : Call → Type} {α β γ : Type}

def bind : Program Reply α → (α → Program Reply β) → Program Reply β
  | done value, rest => rest value
  | ask call next, rest => ask call fun reply => (next reply).bind rest

instance : Monad (Program Reply) where
  pure := done
  bind := bind

def request (call : Call) : Program Reply (Reply call) := ask call done

@[simp] theorem bind_done (value : α) (rest : α → Program Reply β) :
    (done value >>= rest) = rest value := rfl

@[simp] theorem bind_ask (call : Call) (next : Reply call → Program Reply α)
    (rest : α → Program Reply β) :
    (ask call next >>= rest) = ask call fun reply => next reply >>= rest := rfl

theorem bind_assoc (program : Program Reply α) (first : α → Program Reply β)
    (second : β → Program Reply γ) :
    (program >>= first) >>= second = program >>= fun value => first value >>= second := by
  induction program with
  | done value => rfl
  | ask call next ih =>
    simp only [bind_ask]
    congr 1
    funext reply
    exact ih reply

theorem bind_done_right (program : Program Reply α) : (program >>= done) = program := by
  induction program with
  | done value => rfl
  | ask call next ih =>
    rw [bind_ask]
    congr 1
    funext reply
    exact ih reply

instance : LawfulMonad (Program Reply) := LawfulMonad.mk' (Program Reply)
  (fun program => bind_done_right program)
  (fun _ _ => rfl)
  (fun program first second => bind_assoc program first second)

abbrev Environment (Reply : Call → Type) (σ : Type) :=
  σ → (call : Call) → Reply call → σ → Prop

inductive Run {σ : Type} (environment : Environment Reply σ) :
    σ → Program Reply α → α → σ → Prop where
  | done (state : σ) (value : α) : Run environment state (done value) value state
  | ask {state middle last : σ} {call : Call} {next : Reply call → Program Reply α} {value : α}
      (reply : Reply call) (answered : environment state call reply middle)
      (rest : Run environment middle (next reply) value last) :
      Run environment state (ask call next) value last

def wp {σ : Type} (environment : Environment Reply σ) :
    Program Reply α → (α → σ → Prop) → σ → Prop
  | done value, post, state => post value state
  | ask call next, post, state =>
    ∀ reply middle, environment state call reply middle →
      (next reply).wp environment post middle

section Rules

variable {σ : Type} {environment : Environment Reply σ}

@[simp] theorem wp_done (value : α) (post : α → σ → Prop) (state : σ) :
    (done value).wp environment post state ↔ post value state := Iff.rfl

@[simp] theorem wp_pure (value : α) (post : α → σ → Prop) (state : σ) :
    (pure value : Program Reply α).wp environment post state ↔ post value state := Iff.rfl

@[simp] theorem wp_ask (call : Call) (next : Reply call → Program Reply α)
    (post : α → σ → Prop) (state : σ) :
    (ask call next).wp environment post state ↔
      ∀ reply middle, environment state call reply middle →
        (next reply).wp environment post middle := Iff.rfl

@[simp] theorem wp_request (call : Call) (post : Reply call → σ → Prop) (state : σ) :
    (request call).wp environment post state ↔
      ∀ reply middle, environment state call reply middle → post reply middle := Iff.rfl

@[simp] theorem wp_bind (program : Program Reply α) (rest : α → Program Reply β)
    (post : β → σ → Prop) (state : σ) :
    (program >>= rest).wp environment post state ↔
      program.wp environment (fun value middle => (rest value).wp environment post middle)
        state := by
  induction program generalizing state with
  | done value => rfl
  | ask call next ih =>
    simp only [bind_ask, wp_ask]
    exact forall₃_congr fun reply middle _ => ih reply middle

theorem wp_mono {program : Program Reply α} {strong weak : α → σ → Prop} {state : σ}
    (holds : program.wp environment strong state)
    (implies : ∀ value last, strong value last → weak value last) :
    program.wp environment weak state := by
  induction program generalizing state with
  | done value => exact implies value state holds
  | ask call next ih =>
    intro reply middle answered
    exact ih reply (holds reply middle answered)

theorem wp_then {program : Program Reply α} {rest : α → Program Reply β}
    {middle : α → σ → Prop} {post : β → σ → Prop} {state : σ}
    (first : program.wp environment middle state)
    (second : ∀ value later, middle value later → (rest value).wp environment post later) :
    (program >>= rest).wp environment post state :=
  (wp_bind program rest post state).mpr (wp_mono first second)

theorem wp_and {program : Program Reply α} {left right : α → σ → Prop} {state : σ}
    (first : program.wp environment left state) (second : program.wp environment right state) :
    program.wp environment (fun value last => left value last ∧ right value last) state := by
  induction program generalizing state with
  | done value => exact ⟨first, second⟩
  | ask call next ih =>
    intro reply middle answered
    exact ih reply (first reply middle answered) (second reply middle answered)

theorem wp_run {program : Program Reply α} {post : α → σ → Prop} {state last : σ} {value : α}
    (holds : program.wp environment post state) (run : Run environment state program value last) :
    post value last := by
  induction run with
  | done state value => exact holds
  | ask reply answered _ ih => exact ih (holds reply _ answered)

theorem wp_invariant (invariant : σ → Prop)
    (preserved : ∀ state call reply next, invariant state → environment state call reply next →
      invariant next)
    (program : Program Reply α) {state : σ} (initial : invariant state) :
    program.wp environment (fun _ last => invariant last) state := by
  induction program generalizing state with
  | done value => exact initial
  | ask call next ih =>
    intro reply middle answered
    exact ih reply (preserved state call reply middle initial answered)

end Rules

def Uses (allowed : Call → Prop) : Program Reply α → Prop
  | done _ => True
  | ask call next => allowed call ∧ ∀ reply, (next reply).Uses allowed

section Uses

variable {allowed : Call → Prop}

@[simp] theorem uses_done (value : α) : (done value : Program Reply α).Uses allowed := trivial

@[simp] theorem uses_pure (value : α) : (pure value : Program Reply α).Uses allowed := trivial

@[simp] theorem uses_request (call : Call) :
    (request call : Program Reply (Reply call)).Uses allowed ↔ allowed call :=
  ⟨fun uses => uses.1, fun permitted => ⟨permitted, fun _ => trivial⟩⟩

theorem uses_bind {program : Program Reply α} {rest : α → Program Reply β}
    (first : program.Uses allowed) (second : ∀ value, (rest value).Uses allowed) :
    (program >>= rest).Uses allowed := by
  induction program with
  | done value => exact second value
  | ask call next ih => exact ⟨first.1, fun reply => ih reply (first.2 reply)⟩

theorem uses_mono {weaker : Call → Prop} {program : Program Reply α}
    (uses : program.Uses allowed) (implies : ∀ call, allowed call → weaker call) :
    program.Uses weaker := by
  induction program with
  | done value => trivial
  | ask call next ih =>
    exact ⟨implies call uses.1, fun reply => ih reply (uses.2 reply)⟩

theorem wp_of_uses {σ : Type} {environment : Environment Reply σ} (invariant : σ → Prop)
    (preserved : ∀ state call reply next, allowed call → invariant state →
      environment state call reply next → invariant next)
    {program : Program Reply α} (uses : program.Uses allowed) {state : σ}
    (initial : invariant state) :
    program.wp environment (fun _ last => invariant last) state := by
  induction program generalizing state with
  | done value => exact initial
  | ask call next ih =>
    intro reply middle answered
    exact ih reply (uses.2 reply)
      (preserved state call reply middle uses.1 initial answered)

end Uses

theorem Run.map {σ τ : Type} {detailed : Environment Reply σ} {abstract : Environment Reply τ}
    (view : σ → τ)
    (simulates : ∀ state call reply next, detailed state call reply next →
      abstract (view state) call reply (view next))
    {program : Program Reply α} {state last : σ} {value : α}
    (run : Run detailed state program value last) :
    Run abstract (view state) program value (view last) := by
  induction run with
  | done state value => exact Run.done (view state) value
  | ask reply answered _ ih => exact Run.ask reply (simulates _ _ _ _ answered) ih

theorem Run.bind {σ : Type} {environment : Environment Reply σ} {program : Program Reply α}
    {rest : α → Program Reply β} {state middle last : σ} {value : α} {result : β}
    (first : Run environment state program value middle)
    (second : Run environment middle (rest value) result last) :
    Run environment state (program >>= rest) result last := by
  induction first with
  | done => exact second
  | ask reply answered _ ih => exact Run.ask reply answered (ih second)

def runWith {σ : Type} (handler : σ → (call : Call) → Reply call × σ) :
    Program Reply α → σ → α × σ
  | done value, state => (value, state)
  | ask call next, state =>
    let answer := handler state call
    (next answer.1).runWith handler answer.2

@[simp] theorem runWith_done {σ : Type} (handler : σ → (call : Call) → Reply call × σ) (value : α)
    (state : σ) : (done value : Program Reply α).runWith handler state = (value, state) := rfl

@[simp] theorem runWith_pure {σ : Type} (handler : σ → (call : Call) → Reply call × σ) (value : α)
    (state : σ) : (pure value : Program Reply α).runWith handler state = (value, state) := rfl

@[simp] theorem runWith_request {σ : Type} (handler : σ → (call : Call) → Reply call × σ)
    (call : Call) (state : σ) :
    (request call : Program Reply (Reply call)).runWith handler state = handler state call := rfl

@[simp] theorem runWith_bind {σ : Type} (handler : σ → (call : Call) → Reply call × σ)
    (program : Program Reply α) (rest : α → Program Reply β) (state : σ) :
    (program >>= rest).runWith handler state =
      (rest (program.runWith handler state).1).runWith handler
        (program.runWith handler state).2 := by
  induction program generalizing state with
  | done value => rfl
  | ask call next ih => exact ih _ _

@[simp] theorem runWith_map {σ : Type} (handler : σ → (call : Call) → Reply call × σ)
    (f : α → β) (program : Program Reply α) (state : σ) :
    (f <$> program).runWith handler state =
      (f (program.runWith handler state).1, (program.runWith handler state).2) := by
  rw [← bind_pure_comp, runWith_bind]
  rfl

def answers {σ : Type} (handler : σ → (call : Call) → Reply call × σ) : Environment Reply σ :=
  fun state call reply next => (reply, next) = handler state call

theorem run_runWith {σ : Type} {environment : Environment Reply σ}
    {handler : σ → (call : Call) → Reply call × σ}
    (admitted : ∀ state call,
      environment state call (handler state call).1 (handler state call).2)
    (program : Program Reply α) (state : σ) :
    Run environment state program (program.runWith handler state).1
      (program.runWith handler state).2 := by
  induction program generalizing state with
  | done value => exact Run.done state value
  | ask call next ih => exact Run.ask _ (admitted state call) (ih _ _)

/-! ## Interrupted runs -/

inductive Cut {σ : Type} (environment : Environment Reply σ) :
    σ → Program Reply α → σ → Prop where
  | stop (state : σ) (program : Program Reply α) : Cut environment state program state
  | ask {state middle last : σ} {call : Call} {next : Reply call → Program Reply α}
      (reply : Reply call) (answered : environment state call reply middle)
      (rest : Cut environment middle (next reply) last) :
      Cut environment state (ask call next) last

section Cut

variable {σ : Type} {environment : Environment Reply σ}

theorem Run.cut {program : Program Reply α} {state last : σ} {value : α}
    (run : Run environment state program value last) : Cut environment state program last := by
  induction run with
  | done state value => exact Cut.stop state (.done value)
  | ask reply answered _ ih => exact Cut.ask reply answered ih

theorem Cut.after {program : Program Reply α} {rest : α → Program Reply β}
    {state middle last : σ} {value : α} (first : Run environment state program value middle)
    (second : Cut environment middle (rest value) last) :
    Cut environment state (program >>= rest) last := by
  induction first with
  | done => exact second
  | ask reply answered _ ih => exact Cut.ask reply answered (ih second)

def Along (environment : Environment Reply σ) (property : σ → Prop) :
    Program Reply α → σ → Prop
  | done _, state => property state
  | ask call next, state =>
    property state ∧ ∀ reply middle, environment state call reply middle →
      Along environment property (next reply) middle

theorem Along.cut {property : σ → Prop} {program : Program Reply α} {state last : σ}
    (along : Along environment property program state)
    (cut : Cut environment state program last) : property last := by
  induction cut with
  | stop state program =>
    cases program with
    | done value => exact along
    | ask call next => exact along.1
  | ask reply answered _ ih => exact ih (along.2 reply _ answered)

theorem along_bind {property : σ → Prop} {handler : σ → (call : Call) → Reply call × σ}
    {program : Program Reply α} {rest : α → Program Reply β} {state : σ}
    (first : Along (answers handler) property program state)
    (second : Along (answers handler) property (rest (program.runWith handler state).1)
      (program.runWith handler state).2) :
    Along (answers handler) property (program >>= rest) state := by
  induction program generalizing state with
  | done value => exact second
  | ask call next ih =>
    refine ⟨first.1, fun reply middle answered => ?_⟩
    have same : (reply, middle) = handler state call := answered
    have following := first.2 reply middle answered
    simp only [runWith, ← same] at second
    exact ih reply following second

theorem along_request {property : σ → Prop} {handler : σ → (call : Call) → Reply call × σ}
    {call : Call} {rest : Reply call → Program Reply α} {state : σ} (holds : property state)
    (along : Along (answers handler) property (rest (handler state call).1)
      (handler state call).2) :
    Along (answers handler) property (request call >>= rest) state := by
  refine ⟨holds, fun reply middle answered => ?_⟩
  rw [← answered] at along
  exact along

theorem holds_of_wp {property : σ → Prop}
    (answers : ∀ state call, ∃ reply next, environment state call reply next)
    (lasting : ∀ state call reply next, environment state call reply next →
      property next → property state)
    {program : Program Reply α} {state : σ}
    (holds : program.wp environment (fun _ last => property last) state) : property state := by
  induction program generalizing state with
  | done value => exact holds
  | ask call next ih =>
    obtain ⟨reply, middle, answered⟩ := answers state call
    exact lasting state call reply middle answered (ih reply (holds reply middle answered))

/-- A safety property, one that no call can establish, holds wherever a program is stopped if it
holds at the end of every run. An environment that answers every call can always be asked to go
on from where the program was stopped. -/
theorem Cut.safe {property : σ → Prop}
    (answers : ∀ state call, ∃ reply next, environment state call reply next)
    (lasting : ∀ state call reply next, environment state call reply next →
      property next → property state)
    {program : Program Reply α} {state last : σ}
    (holds : program.wp environment (fun _ last => property last) state)
    (cut : Cut environment state program last) : property last := by
  induction cut with
  | stop state program => exact holds_of_wp answers lasting holds
  | ask reply answered _ ih => exact ih (holds reply _ answered)

end Cut

end Program

end CloudRing.Library
