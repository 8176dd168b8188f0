import CloudRing.Library.Machine
import CloudRing.Library.Program

/-!
# Threads that share a state

One step starts a thread, answers one call of a thread, or lets the shared state drift, so the runs
of a pool are all interleavings of its threads' calls.
-/

namespace CloudRing.Library

variable {Call : Type} {Reply : Call → Type} {σ ι α β : Type}

structure Pool (Reply : Call → Type) (σ ι α : Type) where
  shared : σ
  thread : ι → Option (Program Reply α)

/-- The programs of threads, how their calls are answered, and how the shared state changes by
itself. -/
structure System (Reply : Call → Type) (σ ι α : Type) where
  program : ι → Program Reply α
  environment : ι → Program.Environment Reply σ
  drift : σ → σ → Prop

namespace System

variable [DecidableEq ι] (system : System Reply σ ι α)

inductive Step : Option ι → Pool Reply σ ι α → Pool Reply σ ι α → Prop where
  | drift {pool : Pool Reply σ ι α} {shared : σ} (drifts : system.drift pool.shared shared) :
      Step none pool ⟨shared, pool.thread⟩
  | start {pool : Pool Reply σ ι α} {actor : ι} (idle : pool.thread actor = none) :
      Step (some actor) pool
        ⟨pool.shared, Function.update pool.thread actor (some (system.program actor))⟩
  | call {pool : Pool Reply σ ι α} {actor : ι} {call : Call} {next : Reply call → Program Reply α}
      {reply : Reply call} {shared : σ} (running : pool.thread actor = some (.ask call next))
      (answered : system.environment actor pool.shared call reply shared) :
      Step (some actor) pool ⟨shared, Function.update pool.thread actor (some (next reply))⟩

def machine (initial : σ → Prop) : Machine (Pool Reply σ ι α) (Option ι) where
  initial pool := initial pool.shared ∧ ∀ actor, pool.thread actor = none
  step := system.Step

end System

/-! ## One thread among others -/

structure Contract (σ ι : Type) where
  invariant : σ → Prop
  (rely guarantee : ι → σ → σ → Prop)
  rely_refl : ∀ actor state, rely actor state state
  rely_trans : ∀ {actor first second third}, rely actor first second → rely actor second third →
    rely actor first third
  guarantee_refl : ∀ actor state, guarantee actor state state
  guarantee_invariant : ∀ {actor state next}, invariant state → guarantee actor state next →
    invariant next
  guarantee_rely : ∀ {actor other state next}, actor ≠ other → invariant state →
    guarantee actor state next → rely other state next

namespace Contract

variable (contract : Contract σ ι)

section Guards

variable (environment : Program.Environment Reply σ) (actor : ι)

/-- Whatever the other threads do in between, every call of the program keeps to the guarantee,
and its result meets the postcondition from then on. -/
def Guards (post : α → σ → Prop) : Program Reply α → σ → Prop
  | .done value, state =>
    ∀ later, contract.rely actor state later → contract.invariant later → post value later
  | .ask call next, state =>
    ∀ later, contract.rely actor state later → contract.invariant later →
      ∀ reply after, environment later call reply after →
        contract.guarantee actor later after ∧ Guards post (next reply) after

variable {contract environment actor} {post : α → σ → Prop} {program : Program Reply α} {state : σ}

theorem Guards.later {later : σ} (guards : contract.Guards environment actor post program state)
    (relied : contract.rely actor state later) :
    contract.Guards environment actor post program later := by
  cases program with
  | done | ask => exact fun last relies => guards last (contract.rely_trans relied relies)

theorem guards_of_later
    (guards : ∀ later, contract.rely actor state later → contract.invariant later →
      contract.Guards environment actor post program later) :
    contract.Guards environment actor post program state := by
  cases program with
  | done | ask =>
    intro later relied holds
    exact guards later relied holds later (contract.rely_refl actor later) holds

theorem guards_done {value : α}
    (holds : ∀ later, contract.rely actor state later → contract.invariant later →
      post value later) :
    contract.Guards environment actor post (.done value) state := holds

theorem guards_ask {call : Call} {rest : Reply call → Program Reply α}
    (step : ∀ later, contract.rely actor state later → contract.invariant later →
      ∀ reply after, environment later call reply after →
        contract.guarantee actor later after ∧
          contract.Guards environment actor post (rest reply) after) :
    contract.Guards environment actor post (Program.request call >>= rest) state := step

theorem Guards.mono {weaker : α → σ → Prop}
    (guards : contract.Guards environment actor post program state)
    (implies : ∀ value later, post value later → weaker value later) :
    contract.Guards environment actor weaker program state := by
  induction program generalizing state with
  | done value => exact fun later relied holds => implies value later (guards later relied holds)
  | ask call next ih =>
    intro later relied holds reply after answered
    obtain ⟨guaranteed, rest⟩ := guards later relied holds reply after answered
    exact ⟨guaranteed, ih reply rest⟩

theorem guards_bind {program : Program Reply β} {rest : β → Program Reply α}
    (guards : contract.Guards environment actor
      (fun value => contract.Guards environment actor post (rest value)) program state) :
    contract.Guards environment actor post (program >>= rest) state := by
  induction program generalizing state with
  | done value => exact guards_of_later guards
  | ask call next ih =>
    intro later relied holds reply after answered
    obtain ⟨guaranteed, following⟩ := guards later relied holds reply after answered
    exact ⟨guaranteed, ih reply following⟩

end Guards

/-! ## All threads together -/

section Pool

variable (system : System Reply σ ι α) (post : ι → α → σ → Prop)

structure Sound : Prop where
  drift_invariant : ∀ {state later}, contract.invariant state → system.drift state later →
    contract.invariant later
  drift_rely : ∀ {actor state later}, contract.invariant state → system.drift state later →
    contract.rely actor state later
  program : ∀ {actor state}, contract.invariant state →
    contract.Guards (system.environment actor) actor (post actor) (system.program actor) state

structure Proved (pool : Pool Reply σ ι α) : Prop where
  invariant : contract.invariant pool.shared
  thread : ∀ {actor program}, pool.thread actor = some program →
    contract.Guards (system.environment actor) actor (post actor) program pool.shared

variable {contract system post} {pool next : Pool Reply σ ι α}

theorem Proved.result {actor : ι} {value : α} (proved : contract.Proved system post pool)
    (finished : pool.thread actor = some (.done value)) : post actor value pool.shared :=
  proved.thread finished pool.shared (contract.rely_refl actor _) proved.invariant

variable [DecidableEq ι]

theorem Proved.guaranteed {actor : ι} (proved : contract.Proved system post pool)
    (step : system.Step (some actor) pool next) :
    contract.guarantee actor pool.shared next.shared := by
  cases step with
  | start idle => exact contract.guarantee_refl actor pool.shared
  | call running answered =>
    exact (proved.thread running pool.shared (contract.rely_refl actor _) proved.invariant _ _
      answered).1

theorem step_other {label : Option ι} {actor : ι} (step : system.Step label pool next)
    (other : label ≠ some actor) : next.thread actor = pool.thread actor := by
  cases step with
  | drift change => rfl
  | start idle => exact Function.update_of_ne (fun same => other (congrArg some same.symm)) _ _
  | call running answered =>
    exact Function.update_of_ne (fun same => other (congrArg some same.symm)) _ _

variable (sound : contract.Sound system post)

include sound

theorem Proved.relied {label : Option ι} {actor : ι} (proved : contract.Proved system post pool)
    (step : system.Step label pool next) (other : label ≠ some actor) :
    contract.rely actor pool.shared next.shared := by
  cases label with
  | none =>
    cases step with
    | drift change => exact sound.drift_rely proved.invariant change
  | some stepping =>
    have different : stepping ≠ actor := fun same => other (congrArg some same)
    exact contract.guarantee_rely different proved.invariant (proved.guaranteed step)

theorem Proved.step {label : Option ι} (proved : contract.Proved system post pool)
    (step : system.Step label pool next) : contract.Proved system post next := by
  have invariant : contract.invariant next.shared := by
    cases label with
    | none =>
      cases step with
      | drift change => exact sound.drift_invariant proved.invariant change
    | some actor => exact contract.guarantee_invariant proved.invariant (proved.guaranteed step)
  refine ⟨invariant, fun {actor program} running => ?_⟩
  by_cases own : label = some actor
  · subst own
    cases step with
    | start idle =>
      simp only [Function.update_self, Option.some.injEq] at running
      subst running
      exact sound.program proved.invariant
    | call before answered =>
      simp only [Function.update_self, Option.some.injEq] at running
      subst running
      exact (proved.thread before pool.shared (contract.rely_refl actor _) proved.invariant _ _
        answered).2
  · rw [step_other step own] at running
    exact (proved.thread running).later (proved.relied sound step own)

theorem proved {initial : σ → Prop} (starts : ∀ state, initial state → contract.invariant state)
    (reachable : (system.machine initial).Reachable pool) : contract.Proved system post pool := by
  apply Machine.invariant _ _ reachable
  · rintro first ⟨begins, idle⟩
    refine ⟨starts _ begins, fun {actor program} running => ?_⟩
    rw [idle actor] at running
    cases running
  · intro label before after proved step
    exact proved.step sound step

omit sound

structure Lasts (contract : Contract σ ι) (system : System Reply σ ι α) (lasting : σ → Prop) :
    Prop where
  guarantee : ∀ {actor state next}, contract.invariant state →
    contract.guarantee actor state next → lasting state → lasting next
  drift : ∀ {state later}, contract.invariant state → system.drift state later →
    lasting state → lasting later

theorem Lasts.step {lasting : σ → Prop} (lasts : contract.Lasts system lasting)
    {label : Option ι} (proved : contract.Proved system post pool)
    (step : system.Step label pool next) (holds : lasting pool.shared) : lasting next.shared := by
  cases label with
  | none =>
    cases step with
    | drift change => exact lasts.drift proved.invariant change holds
  | some actor => exact lasts.guarantee proved.invariant (proved.guaranteed step) holds

theorem Lasts.reaches {lasting : σ → Prop} (lasts : contract.Lasts system lasting)
    (sound : contract.Sound system post) {initial : σ → Prop}
    (starts : ∀ state, initial state → contract.invariant state)
    (reachable : (system.machine initial).Reachable pool)
    (run : (system.machine initial).Reaches pool next) (holds : lasting pool.shared) :
    lasting next.shared := by
  apply Machine.stable (fun pool : Pool Reply σ ι α => lasting pool.shared) _ reachable run holds
  intro label before after reached holds step
  exact lasts.step (proved sound starts reached) step holds

theorem Lasts.follows {lasting : σ → Prop} (lasts : contract.Lasts system lasting)
    (sound : contract.Sound system post) {initial : σ → Prop}
    (starts : ∀ state, initial state → contract.invariant state) {actor : ι}
    {special : α → σ → Prop}
    (guards : ∀ {state}, contract.invariant state → lasting state →
      contract.Guards (system.environment actor) actor special (system.program actor) state)
    (reachable : (system.machine initial).Reachable pool)
    (run : (system.machine initial).Reaches pool next) (idle : pool.thread actor = none)
    (holds : lasting pool.shared) {program : Program Reply α}
    (running : next.thread actor = some program) :
    contract.Guards (system.environment actor) actor special program next.shared := by
  have safe : lasting next.shared ∧ ∀ program, next.thread actor = some program →
      contract.Guards (system.environment actor) actor special program next.shared := by
    apply Machine.stable (fun pool : Pool Reply σ ι α => lasting pool.shared ∧
      ∀ program, pool.thread actor = some program →
        contract.Guards (system.environment actor) actor special program pool.shared) _
      reachable run
    · exact ⟨holds, fun program running => by rw [idle] at running; cases running⟩
    · rintro label before after reached ⟨holds, safe⟩ step
      have proved := proved sound starts reached
      refine ⟨lasts.step proved step holds, fun program running => ?_⟩
      by_cases own : label = some actor
      · subst own
        cases step with
        | start idle =>
          simp only [Function.update_self, Option.some.injEq] at running
          subst running
          exact guards proved.invariant holds
        | call asked answered =>
          simp only [Function.update_self, Option.some.injEq] at running
          subst running
          exact (safe _ asked before.shared (contract.rely_refl actor _) proved.invariant _ _
            answered).2
      · rw [step_other step own] at running
        exact (safe program running).later (proved.relied sound step own)
  exact safe.2 program running

end Pool

end Contract

/-! ## Runs of one thread -/

theorem System.reaches_run [DecidableEq ι] {system : System Reply σ ι α} {initial : σ → Prop}
    {actor : ι} {program : Program Reply α} {value : α} {state last : σ}
    (run : Program.Run (system.environment actor) state program value last)
    (thread : ι → Option (Program Reply α)) (running : thread actor = some program) :
    (system.machine initial).Reaches ⟨state, thread⟩
      ⟨last, Function.update thread actor (some (.done value))⟩ := by
  induction run generalizing thread with
  | done state value =>
    rw [← running, Function.update_eq_self]
    exact .refl
  | @ask state middle last call next value reply answered rest ih =>
    have step : system.Step (some actor) ⟨state, thread⟩
        ⟨middle, Function.update thread actor (some (next reply))⟩ :=
      .call running answered
    have later := ih (Function.update thread actor (some (next reply)))
      (Function.update_self actor _ _)
    rw [Function.update_idem] at later
    exact .head ⟨some actor, step⟩ later

theorem System.reaches_runWith [DecidableEq ι] {system : System Reply σ ι α} {initial : σ → Prop}
    (actor : ι) {handler : σ → (call : Call) → Reply call × σ}
    (admitted : ∀ state call,
      system.environment actor state call (handler state call).1 (handler state call).2)
    (state : σ) (thread : ι → Option (Program Reply α)) (idle : thread actor = none) :
    (system.machine initial).Reaches ⟨state, thread⟩
      ⟨((system.program actor).runWith handler state).2, Function.update thread actor
        (some (.done ((system.program actor).runWith handler state).1))⟩ := by
  have step : system.Step (some actor) ⟨state, thread⟩
      ⟨state, Function.update thread actor (some (system.program actor))⟩ := .start idle
  have started : (system.machine initial).Reaches
      ⟨state, Function.update thread actor (some (system.program actor))⟩ _ :=
    system.reaches_run (Program.run_runWith admitted (system.program actor) state) _
      (Function.update_self actor _ _)
  rw [Function.update_idem] at started
  exact .head ⟨some actor, step⟩ started

end CloudRing.Library
