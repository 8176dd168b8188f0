import CloudRing.Library.Machine
import CloudRing.TransactionalState.Store

/-!
# The audit journal

`AppendAuditEvent` runs one read-committed transaction: an insert that does nothing when the key
exists, a read of the existing event in that case, and a commit whose answer may be lost.
-/

namespace CloudRing.TransactionalState

open Library (Json Machine)

def maximumAuditEventBytes : Nat := 262144

structure AuditEvent where
  (scope id : String)
  value : List UInt8
  createdAt : Int
  deriving DecidableEq

structure AuditEventRecord where
  event : AuditEvent
  payloadSHA256 : String
  deriving DecidableEq

/-- A row of `cloudring_state.audit_journal`. -/
structure Entry where
  body : Json
  payloadSHA256 : String
  createdAt : Int

/-- The errors of `AppendAuditEvent`. -/
inductive AppendFailure where
  | request
  | event
  | beginning
  | append
  | stored
  | read
  | notFound
  | conflict
  | commit
  deriving DecidableEq, Repr

def AppendFailure.text : AppendFailure → String
  | request => "transactional state audit append request is invalid"
  | event => "transactional state audit event is invalid"
  | beginning => "begin transactional state audit append"
  | append => "append transactional state audit event"
  | stored => "stored transactional state audit event is invalid"
  | read => "read transactional state audit event"
  | notFound => Failure.text .notFound
  | conflict => Failure.text .conflict
  | commit => "commit transactional state audit append"

def AppendFailure.fromDatabase : AppendFailure → Bool
  | beginning | append | read => true
  | _ => false

def canonicalAuditJSON (value : List UInt8) : Option (List UInt8) :=
  if value.length = 0 ∨ value.length > maximumAuditEventBytes then none
  else (canonicalJSON value).filter fun canonical => canonical.length ≤ maximumAuditEventBytes

/-- `scannedAuditEvent`, with the digest of the row. -/
def scannedAuditEvent (scope eventID : String) (entry : Entry) : Option AuditEventRecord :=
  (canonicalAuditJSON (bodyText entry.body)).map fun canonical =>
    ⟨⟨scope, eventID, canonical, entry.createdAt⟩, entry.payloadSHA256⟩

structure AppendRequest where
  (scope eventID : String)
  value : List UInt8

inductive Phase where
  | called
  | begun (canonical : List UInt8)
  | inserted (record : AuditEventRecord)
  | taken (canonical : List UInt8)
  | matched (record : AuditEventRecord)
  | returned (result : Except AppendFailure AuditEvent)

structure JournalState (Call : Type) where
  journal : String → String → Option Entry
  held : String → String → Option (Call × Entry)
  phase : Call → Phase

section System

variable {Call : Type} [DecidableEq Call] (postgres : Postgres) (sha256 : List UInt8 → String)
  (request : Call → AppendRequest)

namespace JournalState

def advance (state : JournalState Call) (call : Call) (phase : Phase) : JournalState Call :=
  { state with phase := fun other => if other = call then phase else state.phase other }

def hold (state : JournalState Call) (scope eventID : String) (row : Option (Call × Entry)) :
    JournalState Call :=
  { state with
    held := fun otherScope otherID =>
      if otherScope = scope ∧ otherID = eventID then row else state.held otherScope otherID }

def commit (state : JournalState Call) (scope eventID : String) (entry : Entry) :
    JournalState Call :=
  { state with
    journal := fun otherScope otherID =>
      if otherScope = scope ∧ otherID = eventID then some entry
      else state.journal otherScope otherID }

end JournalState

def insertedEntry (now : Int) (canonical : List UInt8) : Option Entry :=
  ((postgres.input canonical).filter fun body =>
    (bodyText body).length ≤ maximumAuditEventBytes).map fun body =>
      ⟨body, sha256 canonical, now⟩

/-- One step of one call of `AppendAuditEvent`. -/
inductive AppendStep (call : Call) : JournalState Call → JournalState Call → Prop where
  | invalidRequest {state : JournalState Call} (here : state.phase call = .called)
      (malformed : (safeKey (request call).scope && safeKey (request call).eventID) = false) :
      AppendStep call state (state.advance call (.returned (.error .request)))
  | invalidEvent {state : JournalState Call} (here : state.phase call = .called)
      (wellFormed : (safeKey (request call).scope && safeKey (request call).eventID) = true)
      (malformed : canonicalAuditJSON (request call).value = none) :
      AppendStep call state (state.advance call (.returned (.error .event)))
  | beginTx {state : JournalState Call} {canonical : List UInt8}
      (here : state.phase call = .called)
      (wellFormed : (safeKey (request call).scope && safeKey (request call).eventID) = true)
      (accepted : canonicalAuditJSON (request call).value = some canonical) :
      AppendStep call state (state.advance call (.begun canonical))
  | beginFails {state : JournalState Call} {canonical : List UInt8}
      (here : state.phase call = .called)
      (wellFormed : (safeKey (request call).scope && safeKey (request call).eventID) = true)
      (accepted : canonicalAuditJSON (request call).value = some canonical) :
      AppendStep call state (state.advance call (.returned (.error .beginning)))
  | insert {state : JournalState Call} {canonical : List UInt8} {entry : Entry}
      {record : AuditEventRecord} (now : Int) (here : state.phase call = .begun canonical)
      (free : state.journal (request call).scope (request call).eventID = none)
      (unheld : state.held (request call).scope (request call).eventID = none)
      (written : insertedEntry postgres sha256 now canonical = some entry)
      (scanned : scannedAuditEvent (request call).scope (request call).eventID entry =
        some record) :
      AppendStep call state
        ((state.hold (request call).scope (request call).eventID (some (call, entry))).advance
          call (.inserted record))
  | insertUnscanned {state : JournalState Call} {canonical : List UInt8} {entry : Entry}
      (now : Int) (here : state.phase call = .begun canonical)
      (free : state.journal (request call).scope (request call).eventID = none)
      (unheld : state.held (request call).scope (request call).eventID = none)
      (written : insertedEntry postgres sha256 now canonical = some entry)
      (unscanned : scannedAuditEvent (request call).scope (request call).eventID entry = none) :
      AppendStep call state (state.advance call (.returned (.error .stored)))
  | insertTaken {state : JournalState Call} {canonical : List UInt8} {entry : Entry}
      (here : state.phase call = .begun canonical)
      (present : state.journal (request call).scope (request call).eventID = some entry) :
      AppendStep call state (state.advance call (.taken canonical))
  | insertFails {state : JournalState Call} {canonical : List UInt8}
      (here : state.phase call = .begun canonical) :
      AppendStep call state (state.advance call (.returned (.error .append)))
  | readMatches {state : JournalState Call} {canonical : List UInt8} {entry : Entry}
      {record : AuditEventRecord} (here : state.phase call = .taken canonical)
      (present : state.journal (request call).scope (request call).eventID = some entry)
      (scanned : scannedAuditEvent (request call).scope (request call).eventID entry =
        some record)
      (same : record.payloadSHA256 = sha256 canonical) :
      AppendStep call state (state.advance call (.matched record))
  | readConflicts {state : JournalState Call} {canonical : List UInt8} {entry : Entry}
      {record : AuditEventRecord} (here : state.phase call = .taken canonical)
      (present : state.journal (request call).scope (request call).eventID = some entry)
      (scanned : scannedAuditEvent (request call).scope (request call).eventID entry =
        some record)
      (other : record.payloadSHA256 ≠ sha256 canonical) :
      AppendStep call state (state.advance call (.returned (.error .conflict)))
  | readUnscanned {state : JournalState Call} {canonical : List UInt8} {entry : Entry}
      (here : state.phase call = .taken canonical)
      (present : state.journal (request call).scope (request call).eventID = some entry)
      (unscanned : scannedAuditEvent (request call).scope (request call).eventID entry = none) :
      AppendStep call state (state.advance call (.returned (.error .stored)))
  | readMissing {state : JournalState Call} {canonical : List UInt8}
      (here : state.phase call = .taken canonical)
      (absent : state.journal (request call).scope (request call).eventID = none) :
      AppendStep call state (state.advance call (.returned (.error .notFound)))
  | readFails {state : JournalState Call} {canonical : List UInt8}
      (here : state.phase call = .taken canonical) :
      AppendStep call state (state.advance call (.returned (.error .read)))
  | commitInserted {state : JournalState Call} {record : AuditEventRecord} {entry : Entry}
      (here : state.phase call = .inserted record)
      (holding : state.held (request call).scope (request call).eventID = some (call, entry)) :
      AppendStep call state
        (((state.commit (request call).scope (request call).eventID entry).hold
          (request call).scope (request call).eventID none).advance call
            (.returned (.ok record.event)))
  | commitUnanswered {state : JournalState Call} {record : AuditEventRecord}
      (here : state.phase call = .inserted record) :
      AppendStep call state (state.advance call (.returned (.error .commit)))
  | settleCommit {state : JournalState Call} {entry : Entry}
      (here : state.phase call = .returned (.error .commit))
      (holding : state.held (request call).scope (request call).eventID = some (call, entry)) :
      AppendStep call state
        ((state.commit (request call).scope (request call).eventID entry).hold
          (request call).scope (request call).eventID none)
  | abort {state : JournalState Call} {entry : Entry}
      (holding : state.held (request call).scope (request call).eventID = some (call, entry)) :
      AppendStep call state (state.hold (request call).scope (request call).eventID none)
  | commitMatched {state : JournalState Call} {record : AuditEventRecord} (lost : Bool)
      (here : state.phase call = .matched record) :
      AppendStep call state
        (state.advance call (.returned (if lost then .error .commit else .ok record.event)))

/-- Concurrent calls of `AppendAuditEvent` on an empty journal. -/
def appendMachine : Machine (JournalState Call) Call where
  initial state := (∀ scope eventID, state.journal scope eventID = none) ∧
    (∀ scope eventID, state.held scope eventID = none) ∧ ∀ call, state.phase call = .called
  step := AppendStep postgres sha256 request

end System

end CloudRing.TransactionalState
