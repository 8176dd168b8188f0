import CloudRing.Library.Paging
import CloudRing.TransactionalState.Replay
import Mathlib.Data.Finset.Card

/-!
# Listing the audit journal

`ListAuditEvents` selects the rows of one scope beyond an identifier, in the bytewise order of the
identifiers, and names the last event of a full page as the cursor of the next one.
-/

namespace CloudRing.TransactionalState

open Library (Json Machine Paging.after Paging.page Paging.Walk Paging.collected)

def maximumAuditPageSize : Int := 100

structure AuditEventPage where
  events : List AuditEvent
  nextAfterID : String
  deriving DecidableEq

/-- A row of `cloudring_state.audit_journal` with its primary key. -/
structure AuditRow where
  (scope eventID : String)
  entry : Entry

def AuditRow.event (row : AuditRow) : AuditEvent :=
  ⟨row.scope, row.eventID, (canonicalAuditJSON (bodyText row.entry.body)).getD [],
    row.entry.createdAt⟩

structure AuditTable where
  rows : List AuditRow
  unique : (rows.map fun row => (row.scope, row.eventID)).Nodup
  wellFormed : ∀ row ∈ rows, safeKey row.eventID = true
  scannable : ∀ row ∈ rows, (scannedAuditEvent row.scope row.eventID row.entry).isSome = true

def AuditTable.Represents (table : AuditTable) (journal : String → String → Option Entry) :
    Prop :=
  ∀ scope eventID entry, (⟨scope, eventID, entry⟩ : AuditRow) ∈ table.rows ↔
    journal scope eventID = some entry

/-- The bytes of an identifier, which `COLLATE "C"` compares. -/
def idBytes (eventID : String) : List Nat := (Library.Utf8.ofString eventID).map UInt8.toNat

def AuditRow.key (row : AuditRow) : List Nat := idBytes row.eventID

def AuditTable.ofScope (table : AuditTable) (scope : String) : List AuditRow :=
  table.rows.filter fun row => row.scope = scope

/-- The errors of `ListAuditEvents`. -/
inductive ListFailure where
  | request
  | list
  | scan
  | stored
  deriving DecidableEq, Repr

def ListFailure.text : ListFailure → String
  | request => "transactional state audit list request is invalid"
  | list => "list transactional state audit events"
  | scan => "scan transactional state audit events"
  | stored => "stored transactional state audit event is invalid"

inductive QueryEnd where
  | complete
  | failed
  | unscanned
  deriving DecidableEq, Repr

def validateAuditList (scope afterID : String) (pageSize : Int) : Bool :=
  !(!safeKey scope || (afterID ≠ "" && !safeKey afterID) || pageSize < 1 ||
    pageSize > maximumAuditPageSize)

def selectRows (table : AuditTable) (scope afterID : String) (limit : Nat) : List AuditRow :=
  (Paging.after AuditRow.key (idBytes afterID) (table.ofScope scope)).take limit

def collectPage (scope : String) (pageSize : Nat) :
    List AuditRow → List AuditEvent → Except ListFailure AuditEventPage
  | [], events => .ok ⟨events, ""⟩
  | row :: rows, events =>
    if events.length = pageSize then .ok ⟨events, events.getLast?.elim "" AuditEvent.id⟩
    else
      match scannedAuditEvent scope row.eventID row.entry with
      | none => .error .stored
      | some record => collectPage scope pageSize rows (events ++ [record.event])

def listAuditEvents (query : QueryEnd) (table : AuditTable) (scope afterID : String)
    (pageSize : Int) : Except ListFailure AuditEventPage :=
  if validateAuditList scope afterID pageSize = false then .error .request
  else
    match query with
    | .failed => .error .list
    | .unscanned => .error .scan
    | .complete =>
      collectPage scope pageSize.toNat (selectRows table scope afterID (pageSize.toNat + 1)) []

inductive ListWalk (scope : String) (pageSize : Int) :
    String → List AuditTable → List AuditEventPage → Prop where
  | last {afterID : String} {table : AuditTable} {page : AuditEventPage}
      (read : listAuditEvents .complete table scope afterID pageSize = .ok page)
      (ended : page.nextAfterID = "") : ListWalk scope pageSize afterID [table] [page]
  | more {afterID : String} {table : AuditTable} {page : AuditEventPage}
      {later : List AuditTable} {pages : List AuditEventPage}
      (read : listAuditEvents .complete table scope afterID pageSize = .ok page)
      (goes : page.nextAfterID ≠ "") (rest : ListWalk scope pageSize page.nextAfterID later pages) :
      ListWalk scope pageSize afterID (table :: later) (page :: pages)

section Rows

theorem idBytes_injective : Function.Injective idBytes := by
  intro left right same
  have bytes : Library.Utf8.ofString left = Library.Utf8.ofString right :=
    List.map_injective_iff.mpr (fun _ _ equal => UInt8.toNat_inj.mp equal) same
  exact String.toList_injective (Library.Utf8.encode_injective bytes)

theorem safeKey_nonempty {name : String} (safe : safeKey name = true) : name ≠ "" := by
  intro empty
  rw [empty] at safe
  exact absurd safe (by decide)

theorem idBytes_empty_lt {name : String} (nonempty : name ≠ "") : idBytes "" < idBytes name := by
  have empty : idBytes "" = [] := rfl
  rw [empty]
  cases bytes : idBytes name with
  | nil =>
    exact absurd (idBytes_injective (bytes.trans empty.symm)) nonempty
  | cons first rest => exact List.nil_lt_cons first rest

theorem ofScope_distinct (table : AuditTable) (scope : String) :
    ((table.ofScope scope).map AuditRow.key).Nodup := by
  have pairs : ((table.ofScope scope).map fun row => (row.scope, row.eventID)).Nodup :=
    table.unique.sublist (List.filter_sublist.map _)
  have rows := List.Nodup.of_map _ pairs
  apply List.Nodup.map_on ?_ rows
  intro left leftListed right rightListed same
  have sameID := idBytes_injective same
  have leftScope := of_decide_eq_true (List.mem_filter.mp leftListed).2
  have rightScope := of_decide_eq_true (List.mem_filter.mp rightListed).2
  refine List.inj_on_of_nodup_map pairs leftListed rightListed ?_
  rw [leftScope, rightScope, sameID]

theorem scanned_event {row : AuditRow} {record : AuditEventRecord}
    (scanned : scannedAuditEvent row.scope row.eventID row.entry = some record) :
    record.event = row.event := by
  obtain ⟨canonical, accepted, rfl⟩ := Option.map_eq_some_iff.mp scanned
  rw [AuditRow.event, accepted, Option.getD_some]

theorem collectPage_eq {scope : String} {pageSize : Nat} (rows : List AuditRow)
    (readable : ∀ row ∈ rows, row.scope = scope ∧
      (scannedAuditEvent row.scope row.eventID row.entry).isSome = true) :
    ∀ events : List AuditEvent, events.length ≤ pageSize →
      collectPage scope pageSize rows events =
        .ok ⟨events ++ (rows.take (pageSize - events.length)).map AuditRow.event,
          if rows.length > pageSize - events.length then
            (events ++ (rows.take (pageSize - events.length)).map
              AuditRow.event).getLast?.elim "" AuditEvent.id
          else ""⟩ := by
  induction rows with
  | nil =>
    intro events room
    simp [collectPage]
  | cons row rows ih =>
    intro events room
    obtain ⟨⟨ofScope, scannable⟩, readable⟩ := List.forall_mem_cons.mp readable
    by_cases full : events.length = pageSize
    · simp [collectPage, full]
    · obtain ⟨record, scanned⟩ := Option.isSome_iff_exists.mp scannable
      have event := scanned_event scanned
      rw [ofScope] at scanned
      have grown : (events ++ [record.event]).length ≤ pageSize := by
        rw [List.length_append, List.length_singleton]
        omega
      have rest := ih readable (events ++ [record.event]) grown
      have left : pageSize - events.length = pageSize - (events ++ [record.event]).length + 1 := by
        rw [List.length_append, List.length_singleton]
        omega
      simp only [collectPage, if_neg full, scanned]
      rw [rest, left, List.take_succ_cons, List.map_cons, ← event, List.length_cons]
      simp only [List.append_assoc, List.singleton_append, gt_iff_lt, Nat.add_lt_add_iff_right]

theorem listAuditEvents_page (table : AuditTable) {scope afterID : String} {pageSize : Int}
    (valid : validateAuditList scope afterID pageSize = true) :
    ∃ page, listAuditEvents .complete table scope afterID pageSize = .ok page ∧
      page.events = (Paging.page AuditRow.key pageSize.toNat (idBytes afterID)
        (table.ofScope scope)).rows.map AuditRow.event ∧
      ((Paging.page AuditRow.key pageSize.toNat (idBytes afterID) (table.ofScope scope)).next =
        none → page.nextAfterID = "") ∧
      ∀ next, (Paging.page AuditRow.key pageSize.toNat (idBytes afterID)
        (table.ofScope scope)).next = some next →
          safeKey page.nextAfterID = true ∧ idBytes page.nextAfterID = next := by
  have accepted : ¬ validateAuditList scope afterID pageSize = false := by simp [valid]
  have readable : ∀ row ∈ selectRows table scope afterID (pageSize.toNat + 1),
      row.scope = scope ∧
        (scannedAuditEvent row.scope row.eventID row.entry).isSome = true := by
    intro row listed
    obtain ⟨among, -⟩ := Library.Paging.mem_after.mp (List.mem_of_mem_take listed)
    obtain ⟨stored, sameScope⟩ := List.mem_filter.mp among
    exact ⟨of_decide_eq_true sameScope, table.scannable row stored⟩
  have loop := @collectPage_eq scope pageSize.toNat _ readable [] (Nat.zero_le _)
  have front : (selectRows table scope afterID (pageSize.toNat + 1)).take pageSize.toNat =
      (Paging.after AuditRow.key (idBytes afterID) (table.ofScope scope)).take pageSize.toNat := by
    rw [selectRows, List.take_take, Nat.min_eq_left (Nat.le_succ _)]
  have longer : (selectRows table scope afterID (pageSize.toNat + 1)).length > pageSize.toNat ↔
      (Paging.after AuditRow.key (idBytes afterID) (table.ofScope scope)).length >
        pageSize.toNat := by
    rw [selectRows, List.length_take]
    omega
  simp only [List.nil_append, List.length_nil, Nat.sub_zero, front, longer] at loop
  refine ⟨_, by rw [listAuditEvents, if_neg accepted]; exact loop, rfl, ?_, ?_⟩
  · intro ended
    simp only [Paging.page] at ended
    split at ended
    · rename_i long
      rw [if_pos long, List.getLast?_map, Option.map_eq_none_iff.mp ended]
      rfl
    · rename_i short
      exact if_neg short
  · intro next goes
    simp only [Paging.page] at goes
    split at goes
    · rename_i long
      obtain ⟨row, final, rfl⟩ := Option.map_eq_some_iff.mp goes
      simp only [if_pos long, List.getLast?_map, final, Option.map_some, Option.elim_some]
      have listed := List.mem_of_mem_take (List.mem_of_getLast? final)
      have stored := (List.mem_filter.mp (Library.Paging.mem_after.mp listed).1).1
      exact ⟨table.wellFormed row stored, rfl⟩
    · contradiction

end Rows

section Walks

variable {scope afterID : String} {pageSize : Int} {tables : List AuditTable}
  {pages : List AuditEventPage}

theorem validateAuditList_eq_true (safe : safeKey scope = true)
    (bounds : 1 ≤ pageSize ∧ pageSize ≤ 100) (cursor : afterID = "" ∨ safeKey afterID = true) :
    validateAuditList scope afterID pageSize = true := by
  have low : ¬ pageSize < 1 := by omega
  have high : ¬ pageSize > maximumAuditPageSize := by
    rw [maximumAuditPageSize]
    omega
  obtain empty | safeCursor := cursor
  · simp [validateAuditList, safe, empty, low, high]
  · simp [validateAuditList, safe, safeCursor, low, high]

theorem ListWalk.paging (walk : ListWalk scope pageSize afterID tables pages)
    (safe : safeKey scope = true) (bounds : 1 ≤ pageSize ∧ pageSize ≤ 100)
    (cursor : afterID = "" ∨ safeKey afterID = true) :
    ∃ inner, Paging.Walk AuditRow.key pageSize.toNat (idBytes afterID)
        (tables.map fun table => table.ofScope scope) inner ∧
      pages.flatMap AuditEventPage.events = (Paging.collected inner).map AuditRow.event ∧
      pages.length = inner.length := by
  induction walk with
  | @last afterID table page read ended =>
    obtain ⟨found, again, events, -, next⟩ :=
      listAuditEvents_page table (validateAuditList_eq_true safe bounds cursor)
    rw [read, Except.ok.injEq] at again
    subst again
    have stops : (Paging.page AuditRow.key pageSize.toNat (idBytes afterID)
        (table.ofScope scope)).next = none := by
      by_contra goes
      obtain ⟨key, some⟩ := Option.ne_none_iff_exists'.mp goes
      exact safeKey_nonempty (next key some).1 ended
    refine ⟨_, Paging.Walk.last stops, ?_, rfl⟩
    simp [Paging.collected, events]
  | @more afterID table page later pages read goes rest ih =>
    obtain ⟨found, again, events, stops, next⟩ :=
      listAuditEvents_page table (validateAuditList_eq_true safe bounds cursor)
    rw [read, Except.ok.injEq] at again
    subst again
    obtain ⟨key, some⟩ := Option.ne_none_iff_exists'.mp fun none => goes (stops none)
    obtain ⟨safeNext, sameKey⟩ := next key some
    obtain ⟨inner, walk, collected, count⟩ := ih (.inr safeNext)
    rw [sameKey] at walk
    refine ⟨_, Paging.Walk.more some walk, ?_, by simp [count]⟩
    rw [List.flatMap_cons, collected, events, Paging.collected, Paging.collected,
      List.flatMap_cons, List.map_append]

theorem listWalk_of_paging {table : AuditTable} {cursor : List Nat}
    {times : List (List AuditRow)} {inner : List (Library.Paging.Page AuditRow (List Nat))}
    (walk : Paging.Walk AuditRow.key pageSize.toNat cursor times inner)
    (safe : safeKey scope = true) (bounds : 1 ≤ pageSize ∧ pageSize ≤ 100)
    (stays : ∀ time ∈ times, time = table.ofScope scope) :
    ∀ afterID, idBytes afterID = cursor → (afterID = "" ∨ safeKey afterID = true) →
      ∃ tables pages, (∀ other ∈ tables, other = table) ∧
        ListWalk scope pageSize afterID tables pages := by
  induction walk with
  | @last cursor rows ended =>
    intro afterID here valid
    obtain rfl := stays rows (List.mem_singleton_self rows)
    subst here
    obtain ⟨page, read, -, stops, -⟩ :=
      listAuditEvents_page table (validateAuditList_eq_true safe bounds valid)
    exact ⟨[table], [page], fun other among => List.mem_singleton.mp among,
      .last read (stops ended)⟩
  | @more cursor next rows later inner goes rest ih =>
    intro afterID here valid
    obtain ⟨rfl, later⟩ := List.forall_mem_cons.mp stays
    subst here
    obtain ⟨page, read, -, -, named⟩ :=
      listAuditEvents_page table (validateAuditList_eq_true safe bounds valid)
    obtain ⟨safeNext, sameKey⟩ := named next goes
    obtain ⟨tables, pages, same, walk⟩ := ih later page.nextAfterID sameKey (.inr safeNext)
    exact ⟨table :: tables, page :: pages, List.forall_mem_cons.mpr ⟨rfl, same⟩,
      .more read (safeKey_nonempty safeNext) walk⟩

end Walks

section Journals

variable {Call : Type} [DecidableEq Call] {postgres : Postgres} {sha256 : List UInt8 → String}
  {request : Call → AppendRequest}

variable {state : JournalState Call} {table : AuditTable}

omit [DecidableEq Call] in
theorem AuditTable.Represents.commit
    {scope eventID : String} {entry : Entry} (represents : table.Represents state.journal)
    (free : state.journal scope eventID = none) (safe : safeKey eventID = true)
    (scannable : (scannedAuditEvent scope eventID entry).isSome = true) :
    ∃ larger : AuditTable, larger.Represents (state.commit scope eventID entry).journal := by
  have absent : (scope, eventID) ∉ table.rows.map fun row => (row.scope, row.eventID) := by
    intro listed
    obtain ⟨row, stored, same⟩ := List.mem_map.mp listed
    have present := (represents row.scope row.eventID row.entry).mp stored
    rw [Prod.mk.injEq] at same
    rw [same.1, same.2, free] at present
    contradiction
  refine ⟨⟨⟨scope, eventID, entry⟩ :: table.rows, ?_, ?_, ?_⟩, ?_⟩
  · rw [List.map_cons, List.nodup_cons]
    exact ⟨absent, table.unique⟩
  · exact List.forall_mem_cons.mpr ⟨safe, table.wellFormed⟩
  · exact List.forall_mem_cons.mpr ⟨scannable, table.scannable⟩
  · intro otherScope otherID other
    rw [List.mem_cons, represents otherScope otherID other, AuditRow.mk.injEq]
    simp only [JournalState.commit]
    by_cases here : otherScope = scope ∧ otherID = eventID
    · obtain ⟨rfl, rfl⟩ := here
      rw [free]
      simp [eq_comm]
    · rw [if_neg here]
      tauto

theorem appendMachine_table (reachable : (appendMachine postgres sha256 request).Reachable state) :
    ∃ table : AuditTable, table.Represents state.journal := by
  obtain ⟨start, initial, run⟩ := reachable
  have first : ∃ table : AuditTable, table.Represents start.journal := by
    refine ⟨⟨[], List.nodup_nil, nofun, nofun⟩, ?_⟩
    intro scope eventID entry
    rw [initial.1]
    simp
  apply Machine.stable (fun later => ∃ table : AuditTable, table.Represents later.journal) ?_
    ⟨start, initial, Relation.ReflTransGen.refl⟩ run first
  intro actor middle next reached found taken
  obtain ⟨table, represents⟩ := found
  have sound := appendMachine_sound reached
  have commits : ∀ entry, middle.held (request actor).scope (request actor).eventID =
      some (actor, entry) → ∃ larger : AuditTable, larger.Represents
        (middle.commit (request actor).scope (request actor).eventID entry).journal := by
    intro entry holding
    obtain ⟨free, record, appended, -⟩ := sound.held _ _ _ _ holding
    have safe := appended.wellFormed
    rw [Bool.and_eq_true] at safe
    exact represents.commit free safe.2 (Option.isSome_iff_exists.mpr ⟨record, appended.scanned⟩)
  cases taken with
  | commitInserted here holding | settleCommit here holding => exact commits _ holding
  | _ => exact ⟨table, represents⟩

theorem represents_grows {last : JournalState Call} {later : AuditTable}
    (reachable : (appendMachine postgres sha256 request).Reachable state)
    (run : (appendMachine postgres sha256 request).Reaches state last)
    (before : table.Represents state.journal) (afterwards : later.Represents last.journal) :
    ∀ row ∈ table.rows, row ∈ later.rows := by
  intro row stored
  have present := (before row.scope row.eventID row.entry).mp stored
  apply (afterwards row.scope row.eventID row.entry).mpr
  exact Machine.stable (fun now => now.journal row.scope row.eventID = some row.entry)
    (fun _ _ _ reached holds taken => AppendStep.grows (appendMachine_sound reached) taken holds)
    reachable run present

theorem represents_perm {other : AuditTable} {journal : String → String → Option Entry}
    (left : table.Represents journal) (right : other.Represents journal) (scope : String) :
    (table.ofScope scope).Perm (other.ofScope scope) := by
  have nodup : ∀ each : AuditTable, (each.ofScope scope).Nodup := fun each =>
    List.Nodup.of_map _ (ofScope_distinct each scope)
  rw [List.perm_ext_iff_of_nodup (nodup table) (nodup other)]
  intro row
  simp only [AuditTable.ofScope, List.mem_filter]
  rw [left row.scope row.eventID row.entry, right row.scope row.eventID row.entry]

omit [DecidableEq Call] in
theorem represented_source {states : List (JournalState Call)} {tables : List AuditTable}
    (represented : List.Forall₂ (fun state table => table.Represents state.journal) states tables)
    (listed : table ∈ tables) : ∃ state ∈ states, table.Represents state.journal := by
  induction represented with
  | nil => contradiction
  | @cons state first _ _ here _ ih =>
    rw [List.mem_cons] at listed
    obtain rfl | among := listed
    · exact ⟨state, List.mem_cons_self, here⟩
    · obtain ⟨other, found, represents⟩ := ih among
      exact ⟨other, List.mem_cons_of_mem _ found, represents⟩

theorem tables_grow {states : List (JournalState Call)} {tables : List AuditTable}
    (represented : List.Forall₂ (fun state table => table.Represents state.journal) states tables)
    (reachable : ∀ state ∈ states, (appendMachine postgres sha256 request).Reachable state)
    (ordered : states.Pairwise (appendMachine postgres sha256 request).Reaches)
    (scope : String) :
    (tables.map fun table => table.ofScope scope).Pairwise
      fun earlier later => ∀ row ∈ earlier, row ∈ later := by
  induction represented with
  | nil => exact List.Pairwise.nil
  | @cons state table states tables here rest ih =>
    rw [List.pairwise_cons] at ordered
    rw [List.forall_mem_cons] at reachable
    rw [List.map_cons, List.pairwise_cons]
    constructor
    · intro rows listed row stored
      obtain ⟨later, among, rfl⟩ := List.mem_map.mp listed
      obtain ⟨last, found, represents⟩ := represented_source rest among
      have kept := represents_grows reachable.1 (ordered.1 last found) here represents
      obtain ⟨present, sameScope⟩ := List.mem_filter.mp stored
      exact List.mem_filter.mpr ⟨kept row present, sameScope⟩
    · exact ih reachable.2 ordered.2

theorem after_empty (table : AuditTable) (scope : String) {row : AuditRow}
    (listed : row ∈ table.ofScope scope) : idBytes "" < row.key :=
  idBytes_empty_lt (safeKey_nonempty (table.wellFormed row (List.mem_filter.mp listed).1))

theorem after_empty_length {journal : String → String → Option Entry}
    (represents : table.Represents journal) {scope : String} {events : Finset String}
    (all : ∀ eventID, eventID ∈ events ↔ (journal scope eventID).isSome = true) :
    (Paging.after AuditRow.key (idBytes "") (table.ofScope scope)).length = events.card := by
  rw [Library.Paging.after_length fun row listed => after_empty table scope listed]
  have nodup : ((table.ofScope scope).map AuditRow.eventID).Nodup := by
    have bytes := ofScope_distinct table scope
    rw [show AuditRow.key = idBytes ∘ AuditRow.eventID from rfl, ← List.map_map] at bytes
    exact List.Nodup.of_map _ bytes
  have same : events = ((table.ofScope scope).map AuditRow.eventID).toFinset := by
    ext eventID
    rw [all, List.mem_toFinset, List.mem_map, Option.isSome_iff_exists]
    constructor
    · intro stored
      obtain ⟨entry, present⟩ := stored
      have row := (represents scope eventID entry).mpr present
      exact ⟨_, List.mem_filter.mpr ⟨row, decide_eq_true rfl⟩, rfl⟩
    · intro listed
      obtain ⟨row, among, rfl⟩ := listed
      obtain ⟨stored, sameScope⟩ := List.mem_filter.mp among
      have present := (represents row.scope row.eventID row.entry).mp stored
      rw [of_decide_eq_true sameScope] at present
      exact ⟨row.entry, present⟩
  rw [same, List.toFinset_card_of_nodup nodup, List.length_map]

end Journals

end CloudRing.TransactionalState
