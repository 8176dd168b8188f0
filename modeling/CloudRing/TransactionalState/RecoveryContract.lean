import CloudRing.Library.Check
import CloudRing.Library.Time
import CloudRing.TransactionalState.Canonical

/-!
# The recovery contract

`DecodeRecoveryContract` decodes an observation, marshals it again and asks that the two documents
hold the same value, so that an omitted or null fact is not read as a zero value.
-/

namespace CloudRing.TransactionalState

open Library (Json Fits64 mem_of_lookup)

/-! ## Declared facts -/

inductive Shape where
  | text
  | flag
  | count
  | list (element : Shape)
  | record (fields : List (String × Shape))

def texts (names : List String) : List (String × Shape) := names.map (·, .text)

def flags (names : List String) : List (String × Shape) := names.map (·, .flag)

def counts (names : List String) : List (String × Shape) := names.map (·, .count)

def recoveryRoles : Shape := .record (texts ["owner", "application"])

def recoveryRole : Shape :=
  .record (texts ["name"] ++ flags ["superuser", "inherit", "createRole", "createDatabase", "login",
    "replication", "bypassRls"] ++ counts ["membershipCount"])

def recoveryRelation : Shape :=
  .record (texts ["name", "owner", "kind", "persistence"] ++
    flags ["rowSecurity", "forceRowSecurity", "inherited"])

def recoveryColumn : Shape :=
  .record (texts ["table", "name", "dataType"] ++ flags ["notNull"] ++
    texts ["default", "collation", "identity", "generated"])

def recoveryConstraint : Shape :=
  .record (texts ["table", "name", "type", "definition"] ++
    flags ["validated", "deferrable", "initiallyDeferred"])

def recoveryIndex : Shape :=
  .record (texts ["table", "name", "owner", "kind", "persistence", "definition"] ++
    flags ["unique", "primary", "exclusion", "immediate", "valid", "ready", "live",
      "nullsNotDistinct"] ++ texts ["constraintName", "constraintType"])

def recoveryMigration : Shape := .record (counts ["version"] ++ texts ["checksum"])

def recoveryPrivileges : Shape :=
  .record (flags ["databaseConnect", "databaseCreate", "databaseTemporary", "schemaUsage",
    "schemaCreate"] ++
    ["documents", "auditJournal", "schemaMigrations"].map (·, .list .text))

def recoveryContractObservation : Shape :=
  .record (texts ["schemaVersion"] ++ [("roles", recoveryRoles)] ++
    texts ["database", "databaseOwner", "schemaOwner"] ++
    [("applicationRole", recoveryRole), ("relations", .list recoveryRelation),
      ("columns", .list recoveryColumn), ("constraints", .list recoveryConstraint),
      ("indexes", .list recoveryIndex), ("migrations", .list recoveryMigration),
      ("privileges", recoveryPrivileges)] ++
    counts ["unexpectedAclCount", "columnAclCount", "functionCount", "userTriggerCount",
      "ruleCount", "policyCount"])

/-! ## The decoder -/

/-- The `int` that a number is decoded into: a literal without a point and an exponent. -/
def readCount (value : Json.Numeral) : Option Int :=
  let (sign, digits) := Json.scanSign value.literal.toList
  let amount : Int := if sign = [] then Json.digitsValue digits else -Json.digitsValue digits
  if digits.all Char.isDigit ∧ Fits64 amount then some amount else none

mutual

def recode : Shape → Json → Option Json
  | .text, .string text => some (.string text)
  | .text, .null => some (.string "")
  | .flag, .bool value => some (.bool value)
  | .flag, .null => some (.bool false)
  | .count, .number value => (readCount value).map fun amount => .number (.ofInt amount)
  | .count, .null => some (.number (.ofInt 0))
  | .list element, .array items => (items.mapM (recode element)).map .array
  | .list _, .null => some .null
  | .record fields, .object members => (recodeFields fields members).map .object
  | .record fields, .null => (recodeFields fields []).map .object
  | _, _ => none

def recodeFields : List (String × Shape) → List (String × Json) → Option (List (String × Json))
  | [], _ => some []
  | (name, shape) :: fields, members => do
    let value ← recode shape ((members.lookup name).getD .null)
    let rest ← recodeFields fields members
    some ((name, value) :: rest)

end

def hasIndexes : Json → Bool
  | .object members =>
    match members.lookup "indexes" with
    | some (.array _) => true
    | _ => false
  | _ => false

def decodeRecoveryContract (payload : List UInt8) : Except String Json :=
  match StrictJson.decode payload with
  | .error _ => .error "recovery contract observation is invalid"
  | .ok received =>
    match recode recoveryContractObservation received with
    | none => .error "recovery contract observation is invalid"
    | some observation =>
      if 256 * 1024 < payload.length || !hasIndexes observation then
        .error "recovery contract observation is invalid"
      else match StrictJson.decode (Json.goStyle.bytes observation) with
        | .error _ => .error "recovery contract observation contains omitted or null facts"
        | .ok expected =>
          -- Decoded values are deeply equal exactly when their sorted texts are the same.
          if Json.marshal received = Json.marshal expected then .ok observation
          else .error "recovery contract observation contains omitted or null facts"

/-! ## Presence -/

mutual

def Complete : Shape → Json → Prop
  | .text, value => ∃ text, value = .string text
  | .flag, value => ∃ flag, value = .bool flag
  | .count, value => ∃ number, value = .number number ∧ (readCount number).isSome = true
  | .list element, value => ∃ items, value = .array items ∧ ∀ item ∈ items, Complete element item
  | .record fields, value => ∃ members, value = .object members ∧ CompleteFields fields members

def CompleteFields : List (String × Shape) → List (String × Json) → Prop
  | [], _ => True
  | (name, shape) :: fields, members =>
    (∃ value, members.lookup name = some value ∧ Complete shape value) ∧
      CompleteFields fields members

end

mutual

def ListsGiven : Shape → Json → Prop
  | .list element, .array items => ∀ item ∈ items, ListsGiven element item
  | .list _, value => value ≠ .null
  | .record fields, .object members => ListsGivenFields fields members
  | _, _ => True

def ListsGivenFields : List (String × Shape) → List (String × Json) → Prop
  | [], _ => True
  | (name, shape) :: fields, members =>
    (∀ value, members.lookup name = some value → ListsGiven shape value) ∧
      ListsGivenFields fields members

end

theorem meaningMembers_lookup (members : List (String × Json)) (key : String) :
    Json.meaningMembers members key = (members.lookup key).map Json.meaning := by
  induction members with
  | nil => rfl
  | cons member members ih =>
    obtain ⟨name, value⟩ := member
    rw [Json.meaningMembers, List.lookup_cons]
    by_cases same : key = name
    · simp [same]
    · have other : (key == name) = false := by simpa using same
      rw [if_neg same, other, ih]

theorem meaningItems_eq (items : List Json) : Json.meaningItems items = items.map Json.meaning := by
  induction items with
  | nil => rfl
  | cons item items ih => rw [Json.meaningItems, ih, List.map_cons]

theorem mapM_alike {convert : Json → Option Json} {items others : List Json}
    (each : items.mapM convert = some others)
    (same : items.map Json.meaning = others.map Json.meaning) :
    ∀ item ∈ items, ∃ other ∈ others, convert item = some other ∧ item.meaning = other.meaning := by
  induction items generalizing others with
  | nil => exact List.forall_mem_nil _
  | cons first items ih =>
    simp only [List.mapM_cons, Option.bind_eq_bind, Option.bind_eq_some_iff, Option.pure_def,
      Option.some.injEq] at each
    obtain ⟨other, converted, rest, tail, rfl⟩ := each
    obtain ⟨alike, later⟩ := List.cons.inj same
    refine List.forall_mem_cons.mpr ⟨⟨other, List.mem_cons_self, converted, alike⟩, ?_⟩
    intro item member
    obtain ⟨found, listed, facts⟩ := ih tail later item member
    exact ⟨found, List.mem_cons_of_mem _ listed, facts⟩

mutual

theorem complete_iff : ∀ (shape : Shape) (value : Json) {again : Json}, value.DistinctKeys →
    again.DistinctKeys → recode shape value = some again → value.meaning = again.meaning →
    (Complete shape value ↔ ListsGiven shape value)
  | .text, value, again, _, _, recoded, same => by
    cases value with
    | string text => simp [Complete, ListsGiven]
    | null =>
      obtain rfl := Option.some.inj recoded
      cases same
    | _ => simp [recode] at recoded
  | .flag, value, again, _, _, recoded, same => by
    cases value with
    | bool flag => simp [Complete, ListsGiven]
    | null =>
      obtain rfl := Option.some.inj recoded
      cases same
    | _ => simp [recode] at recoded
  | .count, value, again, _, _, recoded, same => by
    cases value with
    | number value =>
      obtain ⟨amount, read, -⟩ := Option.map_eq_some_iff.mp recoded
      simp [Complete, ListsGiven, read]
    | null =>
      obtain rfl := Option.some.inj recoded
      cases same
    | _ => simp [recode] at recoded
  | .list element, value, again, distinct, againDistinct, recoded, same => by
    cases value with
    | array items =>
      obtain ⟨others, each, rfl⟩ := Option.map_eq_some_iff.mp recoded
      simp only [Json.meaning, Json.Meaning.array.injEq, meaningItems_eq] at same
      have inner : ∀ item ∈ items, (Complete element item ↔ ListsGiven element item) := by
        intro item member
        obtain ⟨other, listed, converted, alike⟩ := mapM_alike each same item member
        exact complete_iff element item ((Json.distinctItems_iff items).mp distinct item member)
          ((Json.distinctItems_iff others).mp againDistinct other listed) converted alike
      simp only [Complete, ListsGiven, Json.array.injEq, exists_eq_left']
      exact forall₂_congr inner
    | null => simp [Complete, ListsGiven]
    | _ => simp [recode] at recoded
  | .record fields, value, again, distinct, againDistinct, recoded, same => by
    cases value with
    | object members =>
      obtain ⟨others, each, rfl⟩ := Option.map_eq_some_iff.mp recoded
      simp only [Json.meaning, Json.Meaning.object.injEq] at same
      have found : ∀ entry ∈ others,
          (members.lookup entry.1).map Json.meaning = some entry.2.meaning := by
        intro entry listed
        rw [← meaningMembers_lookup, same]
        exact (Json.meaningMembers_some againDistinct.1).mpr ⟨entry.2, listed, rfl⟩
      simp only [Complete, ListsGiven, Json.object.injEq, exists_eq_left']
      exact completeFields_iff fields distinct.2 againDistinct.2 each found
    | null =>
      obtain ⟨others, -, rfl⟩ := Option.map_eq_some_iff.mp recoded
      cases same
    | _ => simp [recode] at recoded

theorem completeFields_iff : ∀ (fields : List (String × Shape))
    {members again : List (String × Json)}, Json.DistinctMembers members →
    Json.DistinctMembers again → recodeFields fields members = some again →
    (∀ entry ∈ again, (members.lookup entry.1).map Json.meaning = some entry.2.meaning) →
    (CompleteFields fields members ↔ ListsGivenFields fields members)
  | [], _, _, _, _, _, _ => by simp [CompleteFields, ListsGivenFields]
  | (name, shape) :: fields, members, again, distinct, againDistinct, recoded, same => by
    simp only [recodeFields, Option.bind_eq_bind, Option.bind_eq_some_iff,
      Option.some.injEq] at recoded
    obtain ⟨other, first, others, rest, rfl⟩ := recoded
    obtain ⟨value, found, alike⟩ := Option.map_eq_some_iff.mp (same _ List.mem_cons_self)
    have later := completeFields_iff fields distinct againDistinct.2 rest fun entry listed =>
      same entry (List.mem_cons_of_mem _ listed)
    rw [found, Option.getD_some] at first
    have here := complete_iff shape value
      ((Json.distinctMembers_iff members).mp distinct _ (mem_of_lookup found))
      againDistinct.1 first alike
    simp only [CompleteFields, ListsGivenFields, found, Option.some.injEq, exists_eq_left',
      forall_eq', here, later]

end

/-- In an accepted payload every declared fact is there and not null exactly when none of its lists
is null. -/
theorem decodeRecoveryContract_complete_iff {payload : List UInt8} {observation value : Json}
    (accepted : decodeRecoveryContract payload = .ok observation)
    (received : StrictJson.decode payload = .ok value) :
    Complete recoveryContractObservation value ↔
      ListsGiven recoveryContractObservation value := by
  simp only [decodeRecoveryContract, received] at accepted
  split at accepted
  · cases accepted
  rename_i again recoded
  split at accepted
  · cases accepted
  split at accepted
  · cases accepted
  rename_i expected decoded
  split at accepted
  · rename_i same
    obtain ⟨parsed, againDistinct, -⟩ := StrictJson.decode_ok decoded
    obtain ⟨-, distinct, -⟩ := StrictJson.decode_ok received
    obtain rfl := Option.some.inj ((Json.parse_bytes Json.goStyle_lawful again).symm.trans parsed)
    exact complete_iff _ value distinct againDistinct recoded
      ((Json.marshal_eq_iff distinct againDistinct).mp same)
  · cases accepted

mutual

def blank : Shape → Json
  | .text => .string ""
  | .flag => .bool false
  | .count => .number (.ofInt 0)
  | .list _ => .array []
  | .record fields => .object (blankFields fields)

def blankFields : List (String × Shape) → List (String × Json)
  | [] => []
  | (name, shape) :: fields => (name, blank shape) :: blankFields fields

end

def sampleObservation (relations : Json) : Json :=
  match blank recoveryContractObservation with
  | .object members =>
    .object (members.map fun (name, value) =>
      (name, if name = "relations" then relations else value))
  | value => value

theorem sampleObservation_accepted {relations : Json} (given : relations ∈ [.array [], .null]) :
    StrictJson.decode (Json.goStyle.bytes (sampleObservation relations)) =
        .ok (sampleObservation relations) ∧
      decodeRecoveryContract (Json.goStyle.bytes (sampleObservation relations)) =
        .ok (sampleObservation relations) := by
  have facts : StrictJson.inspectWithin StrictJson.maxDepth 0 (sampleObservation relations) =
        .ok false ∧
      (Json.goStyle.bytes (sampleObservation relations)).length ≤ 256 * 1024 ∧
      recode recoveryContractObservation (sampleObservation relations) =
        some (sampleObservation relations) ∧ hasIndexes (sampleObservation relations) = true := by
    simp only [List.mem_cons, List.not_mem_nil, or_false] at given
    rcases given with rfl | rfl
    · exact ⟨rfl, by decide +kernel, rfl, rfl⟩
    · exact ⟨rfl, by decide +kernel, rfl, rfl⟩
  obtain ⟨inspected, short, recoded, indexed⟩ := facts
  obtain ⟨distinct, shallow⟩ := (StrictJson.inspectWithin_ok _ _ _).mp inspected
  have decoded := StrictJson.decode_of_parse (bytes_nonempty _ _) (short.trans (by decide))
    (Json.parse_bytes Json.goStyle_lawful _) distinct (by simpa using shallow)
  refine ⟨decoded, ?_⟩
  simp [decodeRecoveryContract, decoded, recoded, indexed, Nat.not_lt.mpr short]

theorem decodeRecoveryContract_complete_sample :
    Complete recoveryContractObservation (sampleObservation (.array [])) := by
  obtain ⟨decoded, accepted⟩ := @sampleObservation_accepted (.array []) (by simp)
  apply (decodeRecoveryContract_complete_iff accepted decoded).mpr
  simp [sampleObservation, blank, blankFields, recoveryContractObservation, recoveryRoles,
    recoveryRole, recoveryPrivileges, texts, flags, counts, ListsGiven, ListsGivenFields,
    List.lookup_cons]

theorem decodeRecoveryContract_null_relations :
    decodeRecoveryContract (Json.goStyle.bytes (sampleObservation .null)) =
        .ok (sampleObservation .null) ∧
      StrictJson.decode (Json.goStyle.bytes (sampleObservation .null)) =
        .ok (sampleObservation .null) ∧
      ¬Complete recoveryContractObservation (sampleObservation .null) := by
  obtain ⟨decoded, accepted⟩ := @sampleObservation_accepted .null (by simp)
  refine ⟨accepted, decoded, ?_⟩
  simp [sampleObservation, blank, blankFields, recoveryContractObservation, texts, counts, Complete,
    CompleteFields, List.lookup_cons]

end CloudRing.TransactionalState
