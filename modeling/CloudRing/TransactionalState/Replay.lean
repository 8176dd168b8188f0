import CloudRing.TransactionalState.AppendOnly

/-!
# Appending again what was read

The digest of a row is taken from the caller's canonical payload, and `ReadAuditEvent` returns the
canonical form of what PostgreSQL kept.
-/

namespace CloudRing.TransactionalState

open Library (Json Machine)

/-- The errors of `ReadAuditEvent`. -/
inductive ReadFailure where
  | request
  | notFound
  | read
  | stored
  deriving DecidableEq, Repr

def ReadFailure.text : ReadFailure → String
  | request => "transactional state audit read request is invalid"
  | notFound => Failure.text .notFound
  | read => "read transactional state audit event"
  | stored => "stored transactional state audit event is invalid"

/-- `ReadAuditEvent`, given whether its query is answered. -/
def readAuditEvent (answered : Bool) (journal : String → String → Option Entry)
    (scope eventID : String) : Except ReadFailure AuditEvent :=
  if (safeKey scope && safeKey eventID) = false then .error .request
  else if answered = false then .error .read
  else
    match journal scope eventID with
    | none => .error .notFound
    | some entry =>
      match scannedAuditEvent scope eventID entry with
      | none => .error .stored
      | some record => .ok record.event

theorem readAuditEvent_ok {journal : String → String → Option Entry} {scope eventID : String}
    {event : AuditEvent} (read : readAuditEvent true journal scope eventID = .ok event) :
    (safeKey scope && safeKey eventID) = true ∧ ∃ entry record,
      journal scope eventID = some entry ∧
        scannedAuditEvent scope eventID entry = some record ∧ record.event = event := by
  unfold readAuditEvent at read
  split at read
  · contradiction
  rename_i wellFormed
  rw [Bool.not_eq_false] at wellFormed
  split at read
  · contradiction
  split at read
  · contradiction
  rename_i entry present
  split at read
  · contradiction
  rename_i record scanned
  exact ⟨wellFormed, entry, record, present, scanned, Except.ok.inj read⟩

def PlainSpelling (value : Json) : Prop :=
  value.AllNumbers fun numeral => Json.plainDecimal numeral = numeral

section Payloads

theorem canonicalAuditJSON_some {text canonical : List UInt8}
    (accepted : canonicalAuditJSON text = some canonical) :
    canonicalJSON text = some canonical ∧ canonical.length ≤ maximumAuditEventBytes := by
  unfold canonicalAuditJSON at accepted
  split at accepted
  · contradiction
  obtain ⟨found, short⟩ := Option.filter_eq_some_iff.mp accepted
  exact ⟨found, of_decide_eq_true short⟩

theorem canonicalAuditJSON_again {text canonical : List UInt8}
    (accepted : canonicalAuditJSON text = some canonical) :
    canonicalAuditJSON canonical = some canonical := by
  obtain ⟨found, short⟩ := canonicalAuditJSON_some accepted
  have again := canonicalJSON_again found
  obtain ⟨value, -, -, -, rfl⟩ := canonicalJSON_some found
  have sized : ¬((Json.marshal value).length = 0 ∨
      (Json.marshal value).length > maximumAuditEventBytes) := by
    rw [List.length_eq_zero_iff]
    exact fun outside => outside.elim (marshal_nonempty value) (Nat.not_lt.mpr short)
  rw [canonicalAuditJSON, if_neg sized, again, Option.filter_some, if_pos (decide_eq_true short)]

theorem marshal_plainNumbers_iff {value : Json} (distinct : value.DistinctKeys) :
    Json.marshal (plainNumbers value) = Json.marshal value ↔ PlainSpelling value := by
  have plain : Json.sorted (plainNumbers value) =
      Json.reshape Json.plainDecimal Json.sortByKey value :=
    Json.sorted_reshape (fun members => List.Perm.refl members) distinct
  rw [Json.marshal, plain, Json.marshal, (Json.bytes_injective Json.goStyle_lawful).eq_iff,
    Json.sorted]
  constructor
  · intro same
    exact Json.allNumbers_of_reshape Json.sortByKey_perm value distinct same
  · intro same
    exact Json.reshape_congr value same

end Payloads

section Rows

variable {Call : Type} (postgres : Postgres) (sha256 : List UInt8 → String)
  (request : Call → AppendRequest)

structure StoredBy (state : JournalState Call) (writer : Call) (value : Json) (entry : Entry) :
    Prop where
  present : state.journal (request writer).scope (request writer).eventID = some entry
  parsed : Json.parse (request writer).value = some value
  canonical : canonicalAuditJSON (request writer).value = some (Json.marshal value)
  inserted : ∃ now, insertedEntry postgres sha256 now (Json.marshal value) = some entry

variable {postgres sha256 request}

variable {state : JournalState Call} {writer : Call} {value : Json} {entry : Entry}

section Stored

variable (stored : StoredBy postgres sha256 request state writer value entry)

include stored

theorem StoredBy.distinct :
    value.DistinctKeys := by
  obtain ⟨found, parsed, distinct, -, -⟩ :=
    canonicalJSON_some (canonicalAuditJSON_some stored.canonical).1
  rw [stored.parsed, Option.some.injEq] at parsed
  rw [parsed]
  exact distinct

theorem StoredBy.scanned_value {record : AuditEventRecord} {scope eventID : String}
    (scanned : scannedAuditEvent scope eventID entry = some record) :
    record.event.value = Json.marshal (plainNumbers value) ∧
      canonicalAuditJSON record.event.value = some record.event.value := by
  obtain ⟨canonical, accepted, rfl⟩ := Option.map_eq_some_iff.mp scanned
  refine ⟨?_, canonicalAuditJSON_again accepted⟩
  obtain ⟨now, written⟩ := stored.inserted
  obtain ⟨body, filtered, rfl⟩ := Option.map_eq_some_iff.mp written
  obtain ⟨input, -⟩ := Option.filter_eq_some_iff.mp filtered
  rw [Postgres.input, Json.parse_marshal, Option.map_eq_some_iff] at input
  obtain ⟨sorted, kept, rfl⟩ := input
  obtain ⟨same, -⟩ := Option.filter_eq_some_iff.mp kept
  rw [Option.some.injEq] at same
  subst same
  obtain ⟨found, parsed, -, -, rfl⟩ := canonicalJSON_some (canonicalAuditJSON_some accepted).1
  have whole : Json.parse (bodyText (postgres.kept (Json.sorted value))) =
      some (postgres.kept (Json.sorted value)) :=
    Json.parse_bytes Json.postgresStyle_lawful _
  rw [whole, Option.some.injEq] at parsed
  rw [← parsed]
  exact marshal_kept postgres stored.distinct

theorem StoredBy.digest :
    entry.payloadSHA256 = sha256 (Json.marshal value) := by
  obtain ⟨now, written⟩ := stored.inserted
  exact insertedEntry_digest written

end Stored

end Rows

section Steps

variable {Call : Type} [DecidableEq Call] {postgres : Postgres} {sha256 : List UInt8 → String}
  {request : Call → AppendRequest} {state next last : JournalState Call} {call actor : Call}
  {canonical : List UInt8} {entry : Entry} {record : AuditEventRecord}

/-- What a call can come to once an event with the digest of its payload is stored under its
key. -/
def Accepting (canonical : List UInt8) (record : AuditEventRecord) : Phase → Prop
  | .called => True
  | .begun payload => payload = canonical
  | .inserted _ => False
  | .taken payload => payload = canonical
  | .matched found => found = record
  | .returned (.error failure) => failure.fromDatabase = true ∨ failure = .commit
  | .returned (.ok event) => event = record.event

theorem Replays.accepting {before after : Phase}
    (step : Replays sha256 canonical record before after)
    (same : record.payloadSHA256 = sha256 canonical)
    (accepting : Accepting canonical record before) : Accepting canonical record after := by
  cases step with
  | stays | takes => exact accepting
  | begins | matched => rfl
  | fails _ database => exact Or.inl database
  | conflicts other => exact absurd (accepting ▸ same) other
  | unanswered => exact Or.inr rfl
  | commits lost =>
    cases lost with
    | true => exact Or.inr rfl
    | false => exact congrArg AuditEventRecord.event accepting

variable (accepted : canonicalAuditJSON (request call).value = some canonical)
  (present : state.journal (request call).scope (request call).eventID = some entry)
  (scanned : scannedAuditEvent (request call).scope (request call).eventID entry = some record)

include accepted present scanned

theorem accepting_run (reachable : (appendMachine postgres sha256 request).Reachable state)
    (run : (appendMachine postgres sha256 request).Reaches state last)
    (digest : entry.payloadSHA256 = sha256 canonical) (waiting : state.phase call = .called) :
    Accepting canonical record (last.phase call) := by
  have start : Accepting canonical record (state.phase call) := by
    rw [waiting]
    trivial
  refine (Machine.stable (fun later =>
    later.journal (request call).scope (request call).eventID = some entry ∧
      Accepting canonical record (later.phase call)) ?_ reachable run ⟨present, start⟩).2
  rintro actor middle next reached ⟨stored, accepting⟩ taken
  have sound := appendMachine_sound reached
  obtain ⟨found, again, step, -⟩ := AppendStep.replays sound taken accepted stored
  obtain rfl := Option.some.inj (scanned.symm.trans again)
  exact ⟨AppendStep.grows sound taken stored,
    step.accepting ((scannedAuditEvent_digest scanned).trans digest) accepting⟩

variable (wellFormed : (safeKey (request call).scope && safeKey (request call).eventID) = true)

include wellFormed

omit scanned in
theorem replay_taken (waiting : state.phase call = .called) :
    ∃ middle, (appendMachine postgres sha256 request).Reaches state middle ∧
      middle.journal = state.journal ∧ middle.phase call = .taken canonical := by
  let begun := state.advance call (.begun canonical)
  have begins : AppendStep postgres sha256 request call state begun :=
    .beginTx waiting wellFormed accepted
  have collides : AppendStep postgres sha256 request call begun
      (begun.advance call (.taken canonical)) :=
    .insertTaken (if_pos rfl) present
  have run : (appendMachine postgres sha256 request).Reaches state
      (begun.advance call (.taken canonical)) :=
    (Relation.ReflTransGen.refl.tail ⟨call, begins⟩).tail ⟨call, collides⟩
  exact ⟨_, run, rfl, if_pos rfl⟩

theorem replay_returns (digest : entry.payloadSHA256 = sha256 canonical)
    (waiting : state.phase call = .called) :
    ∃ last, (appendMachine postgres sha256 request).Reaches state last ∧
      last.phase call = .returned (.ok record.event) := by
  obtain ⟨middle, run, unchanged, here⟩ :=
    @replay_taken _ _ postgres sha256 _ _ _ _ _ accepted present wellFormed waiting
  rw [← unchanged] at present
  have reads : AppendStep postgres sha256 request call middle
      (middle.advance call (.matched record)) :=
    .readMatches here present scanned ((scannedAuditEvent_digest scanned).trans digest)
  have commits : AppendStep postgres sha256 request call (middle.advance call (.matched record))
      ((middle.advance call (.matched record)).advance call (.returned (.ok record.event))) :=
    .commitMatched false (if_pos rfl)
  exact ⟨_, (run.tail ⟨call, reads⟩).tail ⟨call, commits⟩, if_pos rfl⟩

theorem replay_conflicts (other : entry.payloadSHA256 ≠ sha256 canonical)
    (waiting : state.phase call = .called) :
    ∃ last, (appendMachine postgres sha256 request).Reaches state last ∧
      last.phase call = .returned (.error .conflict) := by
  obtain ⟨middle, run, unchanged, here⟩ :=
    @replay_taken _ _ postgres sha256 _ _ _ _ _ accepted present wellFormed waiting
  rw [← unchanged] at present
  rw [← scannedAuditEvent_digest scanned] at other
  have reads : AppendStep postgres sha256 request call middle
      (middle.advance call (.returned (.error .conflict))) :=
    .readConflicts here present scanned other
  exact ⟨_, run.tail ⟨call, reads⟩, if_pos rfl⟩

end Steps

/-- A call that appends the payload of a stored event again, as it was read, can return the
event, and returns nothing else unless a statement of its transaction fails, exactly when every
number of the stored value was spelled as PostgreSQL spells it, or the two spellings of the
value have the same digest. -/
theorem appendAuditEvent_again_iff {Call : Type} [DecidableEq Call] (postgres : Postgres)
    (sha256 : List UInt8 → String) (request : Call → AppendRequest) (state : JournalState Call)
    (writer again : Call) (value : Json) (entry : Entry) (event : AuditEvent)
    (reachable : (appendMachine postgres sha256 request).Reachable state)
    (stored : StoredBy postgres sha256 request state writer value entry)
    (read : readAuditEvent true state.journal (request writer).scope (request writer).eventID =
      .ok event)
    (retry : request again = ⟨(request writer).scope, (request writer).eventID, event.value⟩)
    (waiting : state.phase again = .called) :
    ((∃ last, (appendMachine postgres sha256 request).Reaches state last ∧
        last.phase again = .returned (.ok event)) ∧
      ∀ last result, (appendMachine postgres sha256 request).Reaches state last →
        last.phase again = .returned result →
        result = .ok event ∨ ∃ failure, result = .error failure ∧
          (failure.fromDatabase = true ∨ failure = .commit)) ↔
      (PlainSpelling value ∨
        Json.marshal (plainNumbers value) ≠ Json.marshal value ∧
          sha256 (Json.marshal (plainNumbers value)) = sha256 (Json.marshal value)) := by
  obtain ⟨wellFormed, row, record, present, scanned, rfl⟩ := readAuditEvent_ok read
  rw [stored.present, Option.some.injEq] at present
  subst present
  obtain ⟨returned, accepted⟩ := stored.scanned_value scanned
  have sameScope : (request again).scope = (request writer).scope := by rw [retry]
  have sameID : (request again).eventID = (request writer).eventID := by rw [retry]
  have samePayload : (request again).value = record.event.value := by rw [retry]
  rw [← samePayload] at accepted
  rw [← sameScope, ← sameID] at wellFormed scanned
  have present : state.journal (request again).scope (request again).eventID = some entry := by
    rw [sameScope, sameID]
    exact stored.present
  have text : Json.marshal (plainNumbers value) = (request again).value :=
    returned.symm.trans samePayload.symm
  have spelling := marshal_plainNumbers_iff stored.distinct
  rw [text] at spelling ⊢
  by_cases digest : sha256 (request again).value = sha256 (Json.marshal value)
  · have matching : entry.payloadSHA256 = sha256 (request again).value :=
      stored.digest.trans digest.symm
    apply iff_of_true
    · refine ⟨replay_returns accepted present scanned wellFormed matching waiting, ?_⟩
      intro last result run done
      have phase := accepting_run accepted present scanned reachable run matching waiting
      rw [done] at phase
      cases result with
      | ok found => exact .inl (congrArg Except.ok phase)
      | error failure => exact .inr ⟨failure, rfl, phase⟩
    · by_cases plain : PlainSpelling value
      · exact .inl plain
      · exact .inr ⟨fun same => plain (spelling.mp same), digest⟩
  · have other : entry.payloadSHA256 ≠ sha256 (request again).value := by
      intro same
      exact digest (same.symm.trans stored.digest)
    apply iff_of_false
    · intro succeeds
      obtain ⟨last, run, done⟩ := succeeds.1
      have running : ∀ result, state.phase again ≠ .returned result := by simp [waiting]
      obtain ⟨-, refused⟩ := refused_run reachable run accepted present other running
      rw [done] at refused
      exact refused
    · intro condition
      obtain plain | collision := condition
      · exact digest (congrArg sha256 (spelling.mpr plain))
      · exact digest collision.2

section Samples

/-- A call that appends a spelling of one hundred, and a call that appends it as `100`. -/
def hundredRequests (spelling : Json.Numeral) : Bool → AppendRequest
  | false => ⟨"scope", "event", Json.marshal (.number spelling)⟩
  | true => ⟨"scope", "event", Library.Utf8.ofString "100"⟩

def beforeCalls : JournalState Bool := ⟨fun _ _ => none, fun _ _ => none, fun _ => .called⟩

def plainHundred : Json.Numeral := ⟨"100", by decide⟩

def exponentHundred : Json.Numeral := ⟨"1e2", by decide⟩

def hundredEvent : AuditEvent := ⟨"scope", "event", Library.Utf8.ofString "100", 0⟩

/-- The first of the two calls stores its spelling, and the event is read back as `100`. -/
theorem hundred_stored (spelling : Json.Numeral) (digest : String)
    (accepted : canonicalAuditJSON (Json.marshal (.number spelling)) =
      some (Json.marshal (.number spelling)))
    (written : (insertedEntry .verbatim textDigest 0 (Json.marshal (.number spelling))).bind
      (scannedAuditEvent "scope" "event") = some ⟨hundredEvent, digest⟩) :
    ∃ state entry, (appendMachine .verbatim textDigest (hundredRequests spelling)).Reachable
        state ∧
      StoredBy .verbatim textDigest (hundredRequests spelling) state false (.number spelling)
        entry ∧
      readAuditEvent true state.journal "scope" "event" = .ok hundredEvent ∧
      state.phase true = .called := by
  have initial : (appendMachine .verbatim textDigest (hundredRequests spelling)).initial
      beforeCalls := ⟨fun _ _ => rfl, fun _ _ => rfl, fun _ => rfl⟩
  have wellFormed : (safeKey "scope" && safeKey "event") = true := by decide
  obtain ⟨state, entry, reachable, present, inserted, scanned, -, others⟩ :=
    @appended_alone _ _ _ _ (hundredRequests spelling) _ false _ _ 0 initial wellFormed accepted
      written
  have parsed : Json.parse (Json.marshal (.number spelling)) = some (.number spelling) :=
    Json.parse_marshal (.number spelling)
  refine ⟨state, entry, reachable, ⟨present, parsed, accepted, 0, inserted⟩, ?_,
    others true (by decide)⟩
  change state.journal "scope" "event" = some entry at present
  change scannedAuditEvent "scope" "event" entry = _ at scanned
  simp only [readAuditEvent, wellFormed, present, scanned]
  rfl

/-- An event stored as `100` is read as `100`, and appending that again returns it. -/
theorem appendAuditEvent_again_hundred :
    ∃ state last, (appendMachine .verbatim textDigest (hundredRequests plainHundred)).Reaches
        state last ∧
      readAuditEvent true state.journal "scope" "event" = .ok hundredEvent ∧
      last.phase true = .returned (.ok hundredEvent) := by
  obtain ⟨state, entry, reachable, stored, read, waiting⟩ :=
    hundred_stored plainHundred "100" (by decide +kernel) (by decide +kernel)
  have plain : PlainSpelling (.number plainHundred) := by
    have digits : (Json.plainDecimal plainHundred).literal = plainHundred.literal := by
      decide +kernel
    exact Json.Numeral.ext digits
  have results := (appendAuditEvent_again_iff .verbatim textDigest (hundredRequests plainHundred)
    state false true (.number plainHundred) entry hundredEvent reachable stored read rfl
    waiting).mpr (.inl plain)
  obtain ⟨last, run, done⟩ := results.1
  exact ⟨state, last, run, read, done⟩

/-- An event stored as `1e2` is read as `100`, and appending that again is a conflict. -/
theorem appendAuditEvent_again_exponent :
    ∃ state last, (appendMachine .verbatim textDigest (hundredRequests exponentHundred)).Reachable
        state ∧
      (∃ entry, StoredBy .verbatim textDigest (hundredRequests exponentHundred) state false
        (.number exponentHundred) entry) ∧
      readAuditEvent true state.journal "scope" "event" = .ok hundredEvent ∧
      hundredRequests exponentHundred true = ⟨"scope", "event", hundredEvent.value⟩ ∧
      state.phase true = .called ∧
      (appendMachine .verbatim textDigest (hundredRequests exponentHundred)).Reaches state last ∧
      last.phase true = .returned (.error .conflict) := by
  obtain ⟨state, entry, reachable, stored, read, waiting⟩ :=
    hundred_stored exponentHundred "1e2" (by decide +kernel) (by decide +kernel)
  have accepted : canonicalAuditJSON (hundredRequests exponentHundred true).value =
      some (Library.Utf8.ofString "100") := by decide +kernel
  have other : entry.payloadSHA256 ≠ textDigest (Library.Utf8.ofString "100") := by
    rw [stored.digest]
    decide +kernel
  obtain ⟨wellFormed, row, record, present, scanned, -⟩ := readAuditEvent_ok read
  have same : entry = row := Option.some.inj (stored.present.symm.trans present)
  subst same
  obtain ⟨last, run, done⟩ := @replay_conflicts _ _ .verbatim textDigest
    (hundredRequests exponentHundred) state true _ _ _ accepted present scanned wellFormed other
    waiting
  exact ⟨state, last, reachable, ⟨entry, stored⟩, read, rfl, waiting, run, done⟩

end Samples

end CloudRing.TransactionalState
