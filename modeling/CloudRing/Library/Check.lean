import Mathlib.Logic.Basic

/-!
# Chains of checks

A validator is a chain of checks in an error monad: each check goes on or stops with its message.
-/

namespace CloudRing.Library

variable {ε α : Type}

def ensure (message : ε) (holds : Bool) : Except ε Unit :=
  if holds then .ok () else .error message

variable {message : ε} {β σ : Type}

@[simp] theorem ensure_ok {holds : Bool} {value : Unit} :
    ensure message holds = .ok value ↔ holds = true := by
  cases holds <;> simp [ensure]

theorem check_bind {first : Except ε Unit} {rest : Unit → Except ε α} {value : α} :
    (first >>= rest) = .ok value ↔ first = .ok () ∧ rest () = .ok value := by
  cases first <;> simp [bind, Except.bind]

theorem bind_ok {first : Except ε α} {rest : α → Except ε β} {value : β} :
    (first >>= rest) = .ok value ↔ ∃ middle, first = .ok middle ∧ rest middle = .ok value := by
  cases first <;> simp [bind, Except.bind]

theorem bind_error {first : Except ε α} {rest : α → β}
    (failed : (first >>= fun value => .ok (rest value)) = .error message) :
    first = .error message := by
  cases first with
  | error other =>
    cases failed
    rfl
  | ok value => cases failed

theorem ok_bind (value : α) (rest : α → Except ε β) :
    ((.ok value : Except ε α) >>= rest) = rest value := rfl

def require (message : ε) : Option α → Except ε α
  | none => .error message
  | some value => .ok value

theorem mem_of_lookup [BEq α] [LawfulBEq α] {entries : List (α × β)} {key : α} {value : β}
    (found : entries.lookup key = some value) : (key, value) ∈ entries := by
  obtain ⟨before, after, rfl, -⟩ := List.lookup_eq_some_iff.mp found
  simp

theorem require_ok {value : Option α} {found : α} :
    require message value = .ok found ↔ value = some found := by
  cases value <;> simp [require]

def Ends (stops : ε → Prop) (gives : α → Prop) : Except ε α → Prop
  | .error message => stops message
  | .ok value => gives value

section Ends

variable {β : Type} {message : ε} {stops : ε → Prop} {middle : α → Prop} {gives : β → Prop}

theorem ends_bind {first : Except ε α} {rest : α → Except ε β} (before : Ends stops middle first)
    (after : ∀ value, middle value → Ends stops gives (rest value)) :
    Ends stops gives (first >>= rest) := by
  cases first with
  | error message => exact before
  | ok value => exact after value before

theorem ends_ensure {holds : Bool} {rest : Unit → Except ε β} (fails : stops message)
    (goes : holds = true → Ends stops gives (rest ())) :
    Ends stops gives (ensure message holds >>= rest) := by
  cases holds with
  | false => exact fails
  | true => exact goes rfl

theorem ends_require {value : Option α} {rest : α → Except ε β} (fails : stops message)
    (goes : ∀ found, value = some found → Ends stops gives (rest found)) :
    Ends stops gives (require message value >>= rest) := by
  cases value with
  | none => exact fails
  | some found => exact goes found rfl

theorem ends_mapError {δ : Type} {chain : Except δ β} {convert : δ → ε}
    (fails : ∀ message, stops (convert message)) (passes : Ends (fun _ => True) gives chain) :
    Ends stops gives (chain.mapError convert) := by
  cases chain with
  | error message => exact fails message
  | ok value => exact passes

end Ends

def forEach {β : Type} (check : β → Except ε Unit) : List β → Except ε Unit
  | [] => .ok ()
  | item :: rest => do
    check item
    forEach check rest

theorem forEach_ok {check : β → Except ε Unit} {items : List β} :
    forEach check items = .ok () ↔ ∀ item ∈ items, check item = .ok () := by
  induction items with
  | nil => simp [forEach]
  | cons item rest ih => simp only [forEach, check_bind, ih, List.forall_mem_cons]

theorem foldlM_ok {step : σ → β → Except ε σ} (invariant : List β → σ → Prop)
    (kept : ∀ done item state next, invariant done state → step state item = .ok next →
      invariant (done ++ [item]) next)
    {items : List β} {state last : σ} (passed : items.foldlM step state = .ok last)
    (initial : invariant [] state) : invariant items last := by
  have whole : ∀ (items done : List β) (state : σ), invariant done state →
      items.foldlM step state = .ok last → invariant (done ++ items) last := by
    intro items
    induction items with
    | nil =>
      intro done state holds passed
      cases passed
      rwa [List.append_nil]
    | cons item rest ih =>
      intro done state holds passed
      rw [List.foldlM_cons, bind_ok] at passed
      obtain ⟨next, taken, passed⟩ := passed
      have reached := ih (done ++ [item]) next (kept done item state next holds taken) passed
      rwa [List.append_assoc, List.singleton_append] at reached
  exact whole items [] state initial passed

/-- A loop that remembers what it has seen accepts its items exactly when each is free at the start
and no two of them conflict. -/
theorem foldlM_accepts {step : σ → β → Except ε σ} (add : σ → β → σ) (free : σ → β → Prop)
    (apart : β → β → Prop)
    (one : ∀ state item next, step state item = .ok next ↔ free state item ∧ next = add state item)
    (more : ∀ state item later, free (add state item) later ↔ free state later ∧ apart item later)
    {items : List β} {state last : σ} :
    items.foldlM step state = .ok last ↔
      (∀ item ∈ items, free state item) ∧ items.Pairwise apart ∧ last = items.foldl add state := by
  induction items generalizing state with
  | nil => simp [pure, Except.pure, eq_comm]
  | cons item rest ih =>
    simp only [List.foldlM_cons, bind_ok, one, ih, more, List.forall_mem_cons, List.pairwise_cons,
      List.foldl_cons, and_assoc, exists_and_left, exists_eq_left, forall_and]

theorem foldlM_error {step : σ → β → Except ε σ} {items : List β} {state : σ}
    (failed : items.foldlM step state = .error message) :
    ∃ item ∈ items, ∃ state, step state item = .error message := by
  induction items generalizing state with
  | nil => cases failed
  | cons item rest ih =>
    rw [List.foldlM_cons] at failed
    cases taken : step state item with
    | error other =>
      rw [taken] at failed
      cases failed
      exact ⟨item, List.mem_cons_self, state, taken⟩
    | ok next =>
      rw [taken] at failed
      obtain ⟨other, member, fails⟩ := ih failed
      exact ⟨other, List.mem_cons_of_mem _ member, fails⟩

theorem foldlM_each {step : σ → β → Except ε σ} {holds : β → Prop}
    (sound : ∀ state item next, step state item = .ok next → holds item)
    {items : List β} {state last : σ} (passed : items.foldlM step state = .ok last) :
    ∀ item ∈ items, holds item := by
  induction items generalizing state with
  | nil => exact List.forall_mem_nil _
  | cons item rest ih =>
    rw [List.foldlM_cons, bind_ok] at passed
    obtain ⟨next, taken, passed⟩ := passed
    exact List.forall_mem_cons.mpr ⟨sound state item next taken, ih passed⟩

@[simp] theorem isOk_ok (value : α) : (Except.ok value : Except ε α).isOk = true := rfl

@[simp] theorem isOk_error (message : ε) : (Except.error message : Except ε α).isOk = false := rfl

theorem isOk_iff {chain : Except ε Unit} : chain.isOk = true ↔ chain = .ok () := by
  cases chain <;> simp

end CloudRing.Library
