import CloudRing.TransactionalState.Store

/-!
# Revisions under concurrent writers

Calls of any number of clients reach the table one statement at a time.
-/

namespace CloudRing.TransactionalState

inductive Operation where
  | load (scope key : String)
  | save (scope key : String) (expectedRevision : Int) (text : List UInt8)
  | delete (scope key : String) (expectedRevision : Int)

structure Call where
  operation : Operation
  delivery : Delivery
  now : Int

def Call.run (postgres : Postgres) (call : Call) (table : Table) : Table :=
  match call.operation with
  | .load _ _ => table
  | .save scope key expectedRevision text =>
    (TransactionalState.save postgres call.delivery call.now table scope key expectedRevision
      text).2
  | .delete scope key expectedRevision =>
    (TransactionalState.delete call.delivery table scope key expectedRevision).2

def runAll (postgres : Postgres) (calls : List Call) (table : Table) : Table :=
  calls.foldl (fun table call => call.run postgres table) table

/-- A `Delete` of the current revision of a document reaches the database. -/
def Call.Removes (call : Call) (table : Table) (scope key : String) : Prop :=
  call.delivery ≠ .refused ∧
    ∃ row, table scope key = some row ∧ call.operation = .delete scope key row.revision

section Steps

variable {postgres : Postgres} {table : Table} {scope key : String}

theorem save_table (delivery : Delivery) (now : Int) (expectedRevision : Int)
    (text : List UInt8) :
    (save postgres delivery now table scope key expectedRevision text).2 = table ∨
      ∃ row, Replaces table scope key expectedRevision row ∧
        (save postgres delivery now table scope key expectedRevision text).2 =
          table.set scope key (some row) := by
  unfold save
  split
  · exact .inl rfl
  cases canonicalJSON text with
  | none => exact .inl rfl
  | some canonical =>
    rcases saveStatement_cases postgres now scope key expectedRevision canonical table with
      ⟨row, written, _, _, replaces⟩ | ⟨answer, unchanged, other⟩
    · cases delivery with
      | refused => exact .inl rfl
      | lost =>
        simp only [Delivery.run, written]
        exact .inr ⟨row, replaces, rfl⟩
      | answered =>
        refine .inr ⟨row, replaces, ?_⟩
        simp only [Delivery.run, written]
        cases canonicalJSON (bodyText row.body) with
        | none | some => rfl
    · left
      cases delivery with
      | refused => rfl
      | lost => simp only [Delivery.run, unchanged]
      | answered =>
        simp only [Delivery.run, unchanged]
        cases answer with
        | row row => exact absurd rfl (other row)
        | noRows | uniqueViolation | failed => rfl

theorem delete_table (delivery : Delivery) (expectedRevision : Int) :
    (delete delivery table scope key expectedRevision).2 = table ∨
      delivery ≠ .refused ∧
        ∃ row, table scope key = some row ∧ (row.revision : Int) = expectedRevision ∧
          (delete delivery table scope key expectedRevision).2 = table.set scope key none := by
  unfold delete
  split
  · exact .inl rfl
  rcases deleteDocument_cases scope key expectedRevision table with
    ⟨row, present, same, removed⟩ | ⟨_, unchanged⟩
  · cases delivery with
    | refused => exact .inl rfl
    | lost => exact .inr ⟨by decide, row, present, same, by simp only [Delivery.run, removed]⟩
    | answered =>
      simp only [Delivery.run, removed]
      exact .inr ⟨by decide, row, present, same, rfl⟩
  · left
    cases delivery with
    | refused => rfl
    | lost => simp only [Delivery.run, unchanged]
    | answered =>
      simp only [Delivery.run, unchanged]
      rfl

theorem delete_removes {delivery : Delivery} {row : Row} (scopeSafe : safeKey scope = true)
    (keySafe : safeKey key = true) (sent : delivery ≠ .refused)
    (present : table scope key = some row) :
    (delete delivery table scope key row.revision).2 scope key = none := by
  have request : ¬(!safeKey scope || !safeKey key || decide ((row.revision : Int) < 1)) =
      true := by
    have positive := row.positive
    simp only [scopeSafe, keySafe, Bool.not_true, Bool.or_self, Bool.false_or,
      decide_eq_true_eq]
    omega
  have removed : deleteDocument scope key row.revision table =
      (.row 1, table.set scope key none) := by
    simp [deleteDocument, present]
  rw [delete, if_neg request]
  cases delivery with
  | refused => contradiction
  | lost => simp only [Delivery.run, removed, Table.set_same]
  | answered => simp [Delivery.run, removed]

theorem Call.run_present (call : Call) {row : Row} (present : table scope key = some row)
    (kept : ¬call.Removes table scope key) :
    call.run postgres table scope key = some row ∨
      ∃ next, call.run postgres table scope key = some next ∧
        next.revision = row.revision + 1 := by
  obtain ⟨operation, delivery, now⟩ := call
  cases operation with
  | load _ _ => exact .inl present
  | save otherScope otherKey expectedRevision text =>
    simp only [Call.run]
    rcases save_table delivery now expectedRevision text with same | ⟨next, replaces, written⟩
    · rw [same]
      exact .inl present
    · rw [written]
      by_cases here : scope = otherScope ∧ key = otherKey
      · obtain ⟨rfl, rfl⟩ := here
        rw [Table.set_same]
        rcases replaces with ⟨_, absent, _⟩ | ⟨old, found, _, _, revision⟩
        · rw [present] at absent
          contradiction
        · rw [present, Option.some.injEq] at found
          rw [found]
          exact .inr ⟨next, rfl, revision⟩
      · rw [Table.set_other _ _ here]
        exact .inl present
  | delete otherScope otherKey expectedRevision =>
    simp only [Call.run]
    rcases delete_table delivery expectedRevision with same | ⟨sent, old, found, same, removed⟩
    · rw [same]
      exact .inl present
    · rw [removed]
      by_cases here : scope = otherScope ∧ key = otherKey
      · obtain ⟨rfl, rfl⟩ := here
        exact absurd ⟨sent, old, found, by rw [same]⟩ kept
      · rw [Table.set_other _ _ here]
        exact .inl present

theorem runAll_present (calls : List Call) {row : Row} (present : table scope key = some row)
    (kept : ∀ earlier call later, calls = earlier ++ call :: later →
      ¬call.Removes (runAll postgres earlier table) scope key) :
    ∃ last, runAll postgres calls table scope key = some last ∧ row.revision ≤ last.revision ∧
      (last.revision = row.revision → ∀ earlier call later, calls = earlier ++ call :: later →
        call.run postgres (runAll postgres earlier table) scope key =
          runAll postgres earlier table scope key) := by
  induction calls generalizing table row with
  | nil =>
    refine ⟨row, present, le_rfl, fun _ earlier call later split => ?_⟩
    simp at split
  | cons first calls ih =>
    have rest : ∀ earlier call later, calls = earlier ++ call :: later →
        ¬call.Removes (runAll postgres earlier (first.run postgres table)) scope key :=
      fun earlier call later split => kept (first :: earlier) call later (by rw [split]; rfl)
    rcases first.run_present present (kept [] first calls rfl) with same | ⟨next, found, later⟩
    · obtain ⟨last, final, ordered, quiet⟩ := ih same rest
      refine ⟨last, final, ordered, fun equal earlier call later split => ?_⟩
      cases earlier with
      | nil =>
        simp only [List.nil_append, List.cons.injEq] at split
        rw [← split.1]
        exact same.trans present.symm
      | cons head earlier =>
        simp only [List.cons_append, List.cons.injEq] at split
        rw [← split.1]
        exact quiet equal earlier call later split.2
    · obtain ⟨last, final, ordered, _⟩ := ih found rest
      exact ⟨last, final, by omega, fun equal => by omega⟩

end Steps

theorem load_ok {table : Table} {scope key : String} {document : Document}
    (loaded : load .answered table scope key = .ok document) :
    safeKey scope = true ∧ safeKey key = true ∧
      ∃ row, table scope key = some row ∧ document.revision = row.revision := by
  unfold load at loaded
  split at loaded
  · contradiction
  rename_i request
  simp only [Bool.or_eq_true, Bool.not_eq_true', not_or, Bool.not_eq_false] at request
  cases present : table scope key with
  | none => simp [Delivery.run, selectDocument, present] at loaded
  | some row =>
    simp only [Delivery.run, selectDocument, present] at loaded
    split at loaded
    · contradiction
    · simp only [Except.ok.injEq] at loaded
      exact ⟨request.1, request.2, row, rfl, by rw [← loaded]⟩

theorem save_ok {postgres : Postgres} {now : Int} {table : Table} {scope key : String}
    {expectedRevision : Int} {text : List UInt8} {document : Document}
    (saved : (save postgres .answered now table scope key expectedRevision text).1 =
      .ok document) :
    ∃ row, Replaces table scope key expectedRevision row := by
  unfold save at saved
  split at saved
  · contradiction
  cases accepted : canonicalJSON text with
  | none => simp [accepted] at saved
  | some canonical =>
    rw [accepted] at saved
    rcases saveStatement_cases postgres now scope key expectedRevision canonical table with
      ⟨row, _, _, _, replaces⟩ | ⟨answer, unchanged, other⟩
    · exact ⟨row, replaces⟩
    · simp only [Delivery.run, unchanged] at saved
      cases answer with
      | row row => exact absurd rfl (other row)
      | noRows | uniqueViolation | failed => contradiction

/-- When a document was loaded and a later save with the loaded revision succeeds, no call in
between took effect on the document exactly when none in between removed it. -/
theorem save_after_load_iff (postgres : Postgres) (table : Table) (scope key : String)
    (loadedDocument savedDocument : Document) (between : List Call) (now : Int)
    (text : List UInt8) (loaded : load .answered table scope key = .ok loadedDocument)
    (saved : (save postgres .answered now (runAll postgres between table) scope key
      loadedDocument.revision text).1 = .ok savedDocument) :
    (∀ earlier call later, between = earlier ++ call :: later →
      call.run postgres (runAll postgres earlier table) scope key =
        runAll postgres earlier table scope key) ↔
      ∀ earlier call later, between = earlier ++ call :: later →
        ¬call.Removes (runAll postgres earlier table) scope key := by
  obtain ⟨scopeSafe, keySafe, row, present, revision⟩ := load_ok loaded
  constructor
  · intro quiet earlier call later split
    rintro ⟨sent, old, found, removes⟩
    have same := quiet earlier call later split
    rw [Call.run, removes] at same
    simp only [delete_removes scopeSafe keySafe sent found, found] at same
    contradiction
  · intro kept
    obtain ⟨last, final, ordered, quiet⟩ := runAll_present between present kept
    obtain ⟨written, replaces⟩ := save_ok saved
    rcases replaces with ⟨zero, absent, _⟩ | ⟨old, found, same, _, _⟩
    · rw [final] at absent
      contradiction
    · rw [final, Option.some.injEq] at found
      rw [found] at quiet
      exact quiet (by omega)

def firstRevision : Table :=
  Table.set (fun _ _ => none) "scope" "key" (some ⟨1, Nat.one_pos, .null, 0⟩)

def recreate : List Call :=
  [⟨.delete "scope" "key" 1, .answered, 1⟩,
    ⟨.save "scope" "key" 0 (Library.Utf8.ofString "true"), .answered, 2⟩]

/-- A save with a loaded revision overwrites a document that was deleted and created again. -/
theorem save_over_recreated :
    (load .answered firstRevision "scope" "key").map Document.revision = .ok 1 ∧
      ((runAll .verbatim recreate firstRevision) "scope" "key").map Row.updatedAt ≠
        (firstRevision "scope" "key").map Row.updatedAt ∧
      (save .verbatim .answered 3 (runAll .verbatim recreate firstRevision) "scope" "key" 1
        (Library.Utf8.ofString "false")).1.map Document.revision = .ok 2 := by
  decide +kernel

def onlooker : List Call := [⟨.load "scope" "key", .answered, 1⟩]

/-- A save with a loaded revision after another client's load excluded every other writer. -/
theorem save_after_onlooker :
    load .answered firstRevision "scope" "key" =
        .ok ⟨"scope", "key", 1, Library.Utf8.ofString "null", 0⟩ ∧
      (save .verbatim .answered 3 (runAll .verbatim onlooker firstRevision) "scope" "key" 1
        (Library.Utf8.ofString "false")).1 =
        .ok ⟨"scope", "key", 2, Library.Utf8.ofString "false", 3⟩ ∧
      ((∀ earlier call later, onlooker = earlier ++ call :: later →
        call.run .verbatim (runAll .verbatim earlier firstRevision) "scope" "key" =
          runAll .verbatim earlier firstRevision "scope" "key") ↔
        ∀ earlier call later, onlooker = earlier ++ call :: later →
          ¬call.Removes (runAll .verbatim earlier firstRevision) "scope" "key") := by
  have loaded : load .answered firstRevision "scope" "key" =
      .ok ⟨"scope", "key", 1, Library.Utf8.ofString "null", 0⟩ := by decide +kernel
  have saved : (save .verbatim .answered 3 (runAll .verbatim onlooker firstRevision) "scope" "key"
      1 (Library.Utf8.ofString "false")).1 =
      .ok ⟨"scope", "key", 2, Library.Utf8.ofString "false", 3⟩ := by decide +kernel
  exact ⟨loaded, saved, save_after_load_iff .verbatim firstRevision "scope" "key" _ _ onlooker 3
    _ loaded saved⟩

end CloudRing.TransactionalState
