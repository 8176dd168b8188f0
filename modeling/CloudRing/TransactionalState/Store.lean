import CloudRing.TransactionalState.Canonical

/-!
# The document store

`Load`, `Save` and `Delete` each run one SQL statement on a table from scope and key to a row.
-/

namespace CloudRing.TransactionalState

open Library (Json)

/-- A row of `cloudring_state.documents`. -/
structure Row where
  revision : Nat
  positive : 0 < revision
  body : Json
  updatedAt : Int

/-- The table `cloudring_state.documents`, by scope and document key. -/
abbrev Table := String → String → Option Row

def Table.set (table : Table) (scope key : String) (row : Option Row) : Table :=
  fun otherScope otherKey =>
    if otherScope = scope ∧ otherKey = key then row else table otherScope otherKey

/-- The largest `bigint`. -/
def maximumRevision : Nat := 9223372036854775807

structure Document where
  (scope key : String)
  revision : Nat
  value : List UInt8
  updatedAt : Int
  deriving DecidableEq

inductive Failure where
  | conflict
  | notFound
  | loadRequest
  | loadStatement
  | storedDocument
  | saveRequest
  | saveDocument
  | saveStatement
  | savedDocument
  | deleteRequest
  | deleteStatement
  deriving DecidableEq, Repr

def Failure.text : Failure → String
  | conflict => "transactional state revision conflict"
  | notFound => "transactional state document not found"
  | loadRequest => "transactional state request is invalid"
  | loadStatement => "load transactional state document"
  | storedDocument => "stored transactional state document is invalid"
  | saveRequest => "transactional state save request is invalid"
  | saveDocument => "transactional state document is invalid"
  | saveStatement => "save transactional state document"
  | savedDocument => "saved transactional state document is invalid"
  | deleteRequest => "transactional state delete request is invalid"
  | deleteStatement => "delete transactional state document"

def Failure.fromDatabase : Failure → Bool
  | loadStatement | saveStatement | deleteStatement => true
  | _ => false

inductive Answer (α : Type) where
  | row (value : α)
  | noRows
  | uniqueViolation
  | failed

inductive Delivery where
  | answered
  | lost
  | refused
  deriving DecidableEq, Repr

def Delivery.run {α : Type} (delivery : Delivery) (statement : Table → Answer α × Table)
    (table : Table) : Answer α × Table :=
  match delivery with
  | .answered => statement table
  | .lost => (.failed, (statement table).2)
  | .refused => (.failed, table)

/-- The `SELECT` of `Load`. -/
def selectDocument (scope key : String) (table : Table) : Answer Row × Table :=
  match table scope key with
  | some row => (.row row, table)
  | none => (.noRows, table)

/-- A body that `documents_body_size` admits. -/
def bodyFits (body : Json) : Bool := (bodyText body).length ≤ 8388608

/-- The `INSERT` of `Save`. -/
def insertDocument (postgres : Postgres) (now : Int) (scope key : String)
    (canonical : List UInt8) (table : Table) : Answer Row × Table :=
  match postgres.input canonical with
  | none => (.failed, table)
  | some body =>
    if !bodyFits body then (.failed, table)
    else
      match table scope key with
      | some _ => (.uniqueViolation, table)
      | none =>
        let row : Row := ⟨1, Nat.one_pos, body, now⟩
        (.row row, table.set scope key (some row))

/-- The `UPDATE` of `Save`. -/
def updateDocument (postgres : Postgres) (now : Int) (scope key : String)
    (expectedRevision : Int) (canonical : List UInt8) (table : Table) : Answer Row × Table :=
  match postgres.input canonical with
  | none => (.failed, table)
  | some body =>
    match table scope key with
    | none => (.noRows, table)
    | some row =>
      if (row.revision : Int) ≠ expectedRevision then (.noRows, table)
      else if !bodyFits body || row.revision + 1 > maximumRevision then (.failed, table)
      else
        let next : Row := ⟨row.revision + 1, Nat.succ_pos _, body, now⟩
        (.row next, table.set scope key (some next))

/-- The `DELETE` of `Delete`, answering the number of rows affected. -/
def deleteDocument (scope key : String) (expectedRevision : Int) (table : Table) :
    Answer Nat × Table :=
  match table scope key with
  | none => (.row 0, table)
  | some row =>
    if (row.revision : Int) ≠ expectedRevision then (.row 0, table)
    else (.row 1, table.set scope key none)

def load (delivery : Delivery) (table : Table) (scope key : String) : Except Failure Document :=
  if !safeKey scope || !safeKey key then .error .loadRequest
  else
    match (delivery.run (selectDocument scope key) table).1 with
    | .noRows => .error .notFound
    | .row row =>
      match canonicalJSON (bodyText row.body) with
      | none => .error .storedDocument
      | some canonical => .ok ⟨scope, key, row.revision, canonical, row.updatedAt⟩
    | _ => .error .loadStatement

/-- The statement of `Save` for an expected revision. -/
def saveStatement (postgres : Postgres) (now : Int) (scope key : String)
    (expectedRevision : Int) (canonical : List UInt8) : Table → Answer Row × Table :=
  if expectedRevision = 0 then insertDocument postgres now scope key canonical
  else updateDocument postgres now scope key expectedRevision canonical

/-- `Save`, with the table it leaves. -/
def save (postgres : Postgres) (delivery : Delivery) (now : Int) (table : Table)
    (scope key : String) (expectedRevision : Int) (value : List UInt8) :
    Except Failure Document × Table :=
  if !safeKey scope || !safeKey key || expectedRevision < 0 then (.error .saveRequest, table)
  else
    match canonicalJSON value with
    | none => (.error .saveDocument, table)
    | some canonical =>
      match delivery.run
          (saveStatement postgres now scope key expectedRevision canonical) table with
      | (.noRows, table) | (.uniqueViolation, table) => (.error .conflict, table)
      | (.failed, table) => (.error .saveStatement, table)
      | (.row row, table) =>
        match canonicalJSON (bodyText row.body) with
        | none => (.error .savedDocument, table)
        | some stored => (.ok ⟨scope, key, row.revision, stored, row.updatedAt⟩, table)

/-- `Delete`, with the table it leaves. -/
def delete (delivery : Delivery) (table : Table) (scope key : String)
    (expectedRevision : Int) : Except Failure Unit × Table :=
  if !safeKey scope || !safeKey key || expectedRevision < 1 then (.error .deleteRequest, table)
  else
    match delivery.run (deleteDocument scope key expectedRevision) table with
    | (.row affected, table) =>
      if affected ≠ 1 then (.error .conflict, table) else (.ok (), table)
    | (_, table) => (.error .deleteStatement, table)

@[simp] theorem Table.set_same (table : Table) (scope key : String) (row : Option Row) :
    table.set scope key row scope key = row := by
  simp [Table.set]

/-- The row a `Save` writes: revision one where there was no row, or the next revision after
the expected one. -/
def Replaces (table : Table) (scope key : String) (expectedRevision : Int) (row : Row) : Prop :=
  (expectedRevision = 0 ∧ table scope key = none ∧ row.revision = 1) ∨
    ∃ old, table scope key = some old ∧ (old.revision : Int) = expectedRevision ∧
      old.revision < maximumRevision ∧ row.revision = old.revision + 1

theorem saveStatement_cases (postgres : Postgres) (now : Int) (scope key : String)
    (expectedRevision : Int) (canonical : List UInt8) (table : Table) :
    (∃ row, saveStatement postgres now scope key expectedRevision canonical table =
        (.row row, table.set scope key (some row)) ∧
      postgres.input canonical = some row.body ∧ bodyFits row.body = true ∧
      Replaces table scope key expectedRevision row) ∨
    ∃ answer, saveStatement postgres now scope key expectedRevision canonical table =
      (answer, table) ∧ ∀ row, answer ≠ .row row := by
  unfold saveStatement
  split
  · rename_i zero
    unfold insertDocument
    cases kept : postgres.input canonical with
    | none => exact .inr ⟨.failed, rfl, nofun⟩
    | some body =>
      cases fits : bodyFits body with
      | false => exact .inr ⟨.failed, by simp [fits], nofun⟩
      | true =>
        cases present : table scope key with
        | some row => exact .inr ⟨.uniqueViolation, by simp [fits], nofun⟩
        | none =>
          exact .inl ⟨⟨1, Nat.one_pos, body, now⟩, by simp [fits], rfl, fits,
            .inl ⟨zero, present, rfl⟩⟩
  · unfold updateDocument
    cases kept : postgres.input canonical with
    | none => exact .inr ⟨.failed, rfl, nofun⟩
    | some body =>
      cases present : table scope key with
      | none => exact .inr ⟨.noRows, rfl, nofun⟩
      | some old =>
        by_cases same : (old.revision : Int) = expectedRevision
        · by_cases full : old.revision + 1 > maximumRevision
          · refine .inr ⟨.failed, ?_, nofun⟩
            simp [same, full]
          · cases fits : bodyFits body with
            | false =>
              refine .inr ⟨.failed, ?_, nofun⟩
              simp [same, fits]
            | true =>
              refine .inl ⟨⟨old.revision + 1, Nat.succ_pos _, body, now⟩, ?_, rfl, fits,
                .inr ⟨old, present, same, by omega, rfl⟩⟩
              simp [same, full, fits]
        · refine .inr ⟨.noRows, ?_, nofun⟩
          simp [same]

theorem deleteDocument_cases (scope key : String) (expectedRevision : Int) (table : Table) :
    (∃ row, table scope key = some row ∧ (row.revision : Int) = expectedRevision ∧
      deleteDocument scope key expectedRevision table = (.row 1, table.set scope key none)) ∨
    (∀ row, table scope key = some row → (row.revision : Int) ≠ expectedRevision) ∧
      deleteDocument scope key expectedRevision table = (.row 0, table) := by
  unfold deleteDocument
  cases present : table scope key with
  | none => exact .inr ⟨nofun, rfl⟩
  | some row =>
    by_cases same : (row.revision : Int) = expectedRevision
    · exact .inl ⟨row, rfl, same, by simp [same]⟩
    · refine .inr ⟨fun other found => ?_, by simp [same]⟩
      rw [← Option.some.inj found]
      exact same

theorem Table.set_other (table : Table) {scope key otherScope otherKey : String}
    (row : Option Row) (other : ¬(otherScope = scope ∧ otherKey = key)) :
    table.set scope key row otherScope otherKey = table otherScope otherKey := by
  simp [Table.set, other]

end CloudRing.TransactionalState
