import CloudRing.Library.Json.Reshape

/-!
# The subject of an evidence attestation

`decodeStrictJSON` builds Go values from the tokens of a document, and `canonicalEvidenceSubject`
marshals the object again without its attestation member.
-/

namespace CloudRing.RoadmapProgram

open Library (Json)

def maxRoadmapFileBytes : Nat := 1048576

inductive GoValue where
  | nil
  | bool (value : Bool)
  | number (value : Json.Numeral)
  | string (text : String)
  | nilSlice
  | slice (items : List GoValue)
  | map (entries : List (String × GoValue))

def GoValue.appended : List GoValue → GoValue
  | [] => .nilSlice
  | item :: items => .slice (item :: items)

mutual

/-- `decodeJSONValue` on the tokens of a value; it fails at a repeated key. -/
def decodeJSONValue : Json → Option GoValue
  | .null => some .nil
  | .bool value => some (.bool value)
  | .number value => some (.number value)
  | .string text => some (.string text)
  | .array items => (decodeItems items).map GoValue.appended
  | .object members => (decodeMembers [] members).map GoValue.map

def decodeItems : List Json → Option (List GoValue)
  | [] => some []
  | item :: items =>
    match decodeJSONValue item with
    | none => none
    | some value => (decodeItems items).map fun values => value :: values

def decodeMembers (seen : List String) : List (String × Json) → Option (List (String × GoValue))
  | [] => some []
  | (key, member) :: members =>
    if key ∈ seen then none
    else
      match decodeJSONValue member with
      | none => none
      | some value =>
        (decodeMembers (key :: seen) members).map fun entries => (key, value) :: entries

end

/-- `decodeStrictJSON`, without the text of its errors. -/
def decodeStrictJSON (data : List UInt8) : Option GoValue :=
  if data.length = 0 ∨ data.length > maxRoadmapFileBytes then none
  else (Json.parse data).bind decodeJSONValue

mutual

/-- What `json.Marshal` makes of a value, before the keys of maps are sorted. -/
def GoValue.json : GoValue → Json
  | .nil => .null
  | .bool value => .bool value
  | .number value => .number value
  | .string text => .string text
  | .nilSlice => .null
  | .slice items => .array (GoValue.jsonItems items)
  | .map entries => .object (GoValue.jsonEntries entries)

def GoValue.jsonItems : List GoValue → List Json
  | [] => []
  | item :: items => item.json :: GoValue.jsonItems items

def GoValue.jsonEntries : List (String × GoValue) → List (String × Json)
  | [] => []
  | (key, value) :: entries => (key, value.json) :: GoValue.jsonEntries entries

end

/-- `json.Marshal`. -/
def marshalGo (value : GoValue) : List UInt8 := Json.marshal value.json

/-- The errors of `canonicalEvidenceSubject`. -/
inductive SubjectFailure where
  | notObject
  | noAttestation
  deriving DecidableEq, Repr

def SubjectFailure.text : SubjectFailure → String
  | notObject => "evidence subject must be an object"
  | noAttestation => "evidence subject has no attestation member"

def canonicalEvidenceSubject (document : GoValue) : Except SubjectFailure (List UInt8) :=
  match document with
  | .map entries =>
    if entries.any (fun entry => entry.1 = "attestation") then
      .ok (marshalGo (.map (entries.filter fun entry => entry.1 ≠ "attestation")))
    else .error .noAttestation
  | _ => .error .notObject

def detached : Json → Json
  | .object members => .object (members.filter fun member => member.1 ≠ "attestation")
  | value => value

def SameValue (left right : Json) : Prop := left.sorted = right.sorted

mutual

/-- Two values agree item by item and member by member, except that an empty array may stand
where the other value has null. -/
def Alike : Json → Json → Prop
  | .null, .null => True
  | .null, .array items => items = []
  | .array items, .null => items = []
  | .bool left, .bool right => left = right
  | .number left, .number right => left = right
  | .string left, .string right => left = right
  | .array left, .array right => AlikeItems left right
  | .object left, .object right => AlikeMembers left right
  | _, _ => False

def AlikeItems : List Json → List Json → Prop
  | [], [] => True
  | left :: lefts, right :: rights => Alike left right ∧ AlikeItems lefts rights
  | _, _ => False

def AlikeMembers : List (String × Json) → List (String × Json) → Prop
  | [], [] => True
  | (leftKey, left) :: lefts, (rightKey, right) :: rights =>
    leftKey = rightKey ∧ Alike left right ∧ AlikeMembers lefts rights
  | _, _ => False

end

mutual

def emptied : Json → Json
  | .array [] => .null
  | .array (item :: items) => .array (emptied item :: emptiedItems items)
  | .object members => .object (emptiedMembers members)
  | value => value

def emptiedItems : List Json → List Json
  | [] => []
  | item :: items => emptied item :: emptiedItems items

def emptiedMembers : List (String × Json) → List (String × Json)
  | [] => []
  | (key, value) :: members => (key, emptied value) :: emptiedMembers members

end

section Emptied

attribute [local simp] emptied emptiedItems emptiedMembers Alike AlikeItems AlikeMembers

mutual

theorem emptied_eq_iff : ∀ left right : Json, emptied left = emptied right ↔ Alike left right
  | .null, right | .bool _, right | .number _, right | .string _, right => by
    cases right with
    | array items => cases items <;> simp
    | _ => simp
  | .array [], right => by
    cases right with
    | array items => cases items <;> simp
    | _ => simp
  | .array (item :: items), right => by
    cases right with
    | array others =>
      cases others with
      | nil => simp
      | cons other others =>
        have first := emptied_eq_iff item other
        have rest := emptiedItems_eq_iff items others
        simp [first, rest]
    | _ => simp
  | .object members, right => by
    cases right with
    | object others =>
      have inner := emptiedMembers_eq_iff members others
      simp [inner]
    | array items => cases items <;> simp
    | _ => simp

theorem emptiedItems_eq_iff : ∀ left right : List Json,
    emptiedItems left = emptiedItems right ↔ AlikeItems left right
  | [], right => by cases right <;> simp
  | item :: items, right => by
    cases right with
    | nil => simp
    | cons other others =>
      have first := emptied_eq_iff item other
      have rest := emptiedItems_eq_iff items others
      simp [first, rest]

theorem emptiedMembers_eq_iff : ∀ left right : List (String × Json),
    emptiedMembers left = emptiedMembers right ↔ AlikeMembers left right
  | [], right => by cases right <;> simp
  | (key, value) :: members, right => by
    cases right with
    | nil => simp
    | cons other others =>
      have first := emptied_eq_iff value other.2
      have rest := emptiedMembers_eq_iff members others
      simp [first, rest, and_assoc]

end

theorem emptiedMembers_eq_map (members : List (String × Json)) :
    emptiedMembers members = members.map fun member => (member.1, emptied member.2) := by
  induction members with
  | nil => rfl
  | cons member members ih => rw [emptiedMembers, ih, List.map_cons]

theorem sortByKey_emptied (members : List (String × Json)) :
    Json.sortByKey (emptiedMembers members) = emptiedMembers (Json.sortByKey members) := by
  rw [emptiedMembers_eq_map, emptiedMembers_eq_map, Json.sortByKey, Json.sortByKey]
  exact (List.map_insertionSort Json.keyLe Json.keyLe
    (fun member : String × Json => (member.1, emptied member.2)) members
    fun _ _ _ _ => Iff.rfl).symm

mutual

theorem sorted_emptied : ∀ value : Json, (emptied value).sorted = emptied value.sorted
  | .null | .bool _ | .number _ | .string _ => by simp [emptied, Json.sorted, Json.reshape]
  | .array [] => by simp [emptied, Json.sorted, Json.reshape, Json.reshapeItems]
  | .array (item :: items) => by
    have first := sorted_emptied item
    have rest := sortedItems_emptied items
    simp only [Json.sorted] at first rest
    simp only [emptied, Json.sorted, Json.reshape, Json.reshapeItems, first, rest]
  | .object members => by
    have inner := sortedMembers_emptied members
    simp only [emptied, Json.sorted, Json.reshape, inner, sortByKey_emptied]

theorem sortedItems_emptied : ∀ items : List Json,
    Json.reshapeItems id Json.sortByKey (emptiedItems items) =
      emptiedItems (Json.reshapeItems id Json.sortByKey items)
  | [] => rfl
  | item :: items => by
    have first := sorted_emptied item
    have rest := sortedItems_emptied items
    simp only [Json.sorted] at first
    simp only [emptiedItems, Json.reshapeItems, first, rest]

theorem sortedMembers_emptied : ∀ members : List (String × Json),
    Json.reshapeMembers id Json.sortByKey (emptiedMembers members) =
      emptiedMembers (Json.reshapeMembers id Json.sortByKey members)
  | [] => rfl
  | (key, value) :: members => by
    have first := sorted_emptied value
    have rest := sortedMembers_emptied members
    simp only [Json.sorted] at first
    simp only [emptiedMembers, Json.reshapeMembers, first, rest]

end

end Emptied

section Decoding

mutual

theorem decodeJSONValue_json : ∀ (value : Json) (decoded : GoValue),
    decodeJSONValue value = some decoded → decoded.json = emptied value
  | .null, _, read | .bool _, _, read | .number _, _, read | .string _, _, read => by
    simp only [decodeJSONValue, Option.some.injEq] at read
    rw [← read]
    simp [GoValue.json, emptied]
  | .array items, _, read => by
    obtain ⟨values, inner, rfl⟩ := Option.map_eq_some_iff.mp read
    have same := decodeItems_json items values inner
    cases items with
    | nil =>
      simp only [decodeItems, Option.some.injEq] at inner
      rw [← inner]
      simp [GoValue.appended, GoValue.json, emptied]
    | cons item items =>
      cases values with
      | nil => simp [GoValue.jsonItems, emptiedItems] at same
      | cons value values =>
        simp only [emptiedItems] at same
        simp only [GoValue.appended, GoValue.json, emptied, same]
  | .object members, _, read => by
    obtain ⟨entries, inner, rfl⟩ := Option.map_eq_some_iff.mp read
    simp only [GoValue.json, emptied, decodeMembers_json members [] entries inner]

theorem decodeItems_json : ∀ (items : List Json) (values : List GoValue),
    decodeItems items = some values → GoValue.jsonItems values = emptiedItems items
  | [], _, read => by
    simp only [decodeItems, Option.some.injEq] at read
    rw [← read]
    rfl
  | item :: items, _, read => by
    simp only [decodeItems] at read
    split at read
    · contradiction
    · rename_i value first
      obtain ⟨values, rest, rfl⟩ := Option.map_eq_some_iff.mp read
      simp only [GoValue.jsonItems, emptiedItems, decodeJSONValue_json item value first,
        decodeItems_json items values rest]

theorem decodeMembers_json : ∀ (members : List (String × Json)) (seen : List String)
    (entries : List (String × GoValue)), decodeMembers seen members = some entries →
      GoValue.jsonEntries entries = emptiedMembers members
  | [], _, _, read => by
    simp only [decodeMembers, Option.some.injEq] at read
    rw [← read]
    rfl
  | (key, member) :: members, seen, _, read => by
    simp only [decodeMembers] at read
    split at read
    · contradiction
    split at read
    · contradiction
    · rename_i value first
      obtain ⟨entries, rest, rfl⟩ := Option.map_eq_some_iff.mp read
      simp only [GoValue.jsonEntries, emptiedMembers, decodeJSONValue_json member value first,
        decodeMembers_json members (key :: seen) entries rest]

end

theorem jsonEntries_filter (keep : String → Bool) (entries : List (String × GoValue)) :
    GoValue.jsonEntries (entries.filter fun entry => keep entry.1) =
      (GoValue.jsonEntries entries).filter fun member => keep member.1 := by
  induction entries with
  | nil => rfl
  | cons entry entries ih =>
    by_cases kept : keep entry.1 = true
    · simp [GoValue.jsonEntries, kept, ih]
    · simp [GoValue.jsonEntries, kept, ih]

theorem emptiedMembers_filter (keep : String → Bool) (members : List (String × Json)) :
    emptiedMembers (members.filter fun member => keep member.1) =
      (emptiedMembers members).filter fun member => keep member.1 := by
  rw [emptiedMembers_eq_map, emptiedMembers_eq_map, List.filter_map]
  rfl

theorem canonicalEvidenceSubject_eq {document : List UInt8} {value : Json} {decoded : GoValue}
    {subject : List UInt8} (accepted : decodeStrictJSON document = some decoded)
    (parsed : Json.parse document = some value)
    (canonical : canonicalEvidenceSubject decoded = .ok subject) :
    subject = Json.marshal (emptied (detached value)) := by
  unfold decodeStrictJSON at accepted
  split at accepted
  · contradiction
  rw [parsed, Option.bind_some] at accepted
  have rendered := decodeJSONValue_json value decoded accepted
  cases decoded with
  | map entries =>
    simp only [canonicalEvidenceSubject] at canonical
    split at canonical
    · have object : ∃ members, value = .object members := by
        cases value with
        | object members => exact ⟨members, rfl⟩
        | array items => cases items <;> simp [GoValue.json, emptied] at rendered
        | _ => simp [GoValue.json, emptied] at rendered
      obtain ⟨members, rfl⟩ := object
      simp only [GoValue.json, emptied, Json.object.injEq] at rendered
      rw [← Except.ok.inj canonical, marshalGo, detached, emptied, GoValue.json,
        jsonEntries_filter (fun key => decide (key ≠ "attestation")), rendered,
        emptiedMembers_filter (fun key => decide (key ≠ "attestation"))]
    · contradiction
  | _ => exact absurd canonical (by simp [canonicalEvidenceSubject])

end Decoding

/-- For two accepted documents with subjects: the same subject means the same value apart from
the attestation member, exactly when it is not the case that the detached documents differ, and
only in that an empty array stands where the other document has null. -/
theorem canonicalEvidenceSubject_binds_iff (leftDocument rightDocument : List UInt8)
    (left right : Json) (leftDecoded rightDecoded : GoValue)
    (leftSubject rightSubject : List UInt8)
    (leftParsed : Json.parse leftDocument = some left)
    (rightParsed : Json.parse rightDocument = some right)
    (leftAccepted : decodeStrictJSON leftDocument = some leftDecoded)
    (rightAccepted : decodeStrictJSON rightDocument = some rightDecoded)
    (leftCanonical : canonicalEvidenceSubject leftDecoded = .ok leftSubject)
    (rightCanonical : canonicalEvidenceSubject rightDecoded = .ok rightSubject) :
    (leftSubject = rightSubject → SameValue (detached left) (detached right)) ↔
      ¬(¬SameValue (detached left) (detached right) ∧
        Alike (detached left).sorted (detached right).sorted) := by
  have same : leftSubject = rightSubject ↔
      Alike (detached left).sorted (detached right).sorted := by
    rw [canonicalEvidenceSubject_eq leftAccepted leftParsed leftCanonical,
      canonicalEvidenceSubject_eq rightAccepted rightParsed rightCanonical, Json.marshal,
      Json.marshal, (Json.bytes_injective Json.goStyle_lawful).eq_iff, sorted_emptied,
      sorted_emptied, emptied_eq_iff]
  rw [same]
  constructor
  · intro binds differ
    exact differ.1 (binds differ.2)
  · intro undifferent alike
    by_contra differ
    exact undifferent ⟨differ, alike⟩

def evidence (items : Json) : Json := .object [("attestation", .bool true), ("items", items)]

def reordered (items : Json) : Json := .object [("items", items), ("attestation", .bool false)]

theorem decodeStrictJSON_bytes {value : Json} {decoded : GoValue}
    (short : (Json.goStyle.bytes value).length ≤ maxRoadmapFileBytes)
    (nonempty : (Json.goStyle.bytes value).length ≠ 0)
    (read : decodeJSONValue value = some decoded) :
    decodeStrictJSON (Json.goStyle.bytes value) = some decoded := by
  have sized : ¬((Json.goStyle.bytes value).length = 0 ∨
      (Json.goStyle.bytes value).length > maxRoadmapFileBytes) := by omega
  rw [decodeStrictJSON, if_neg sized, Json.parse_bytes Json.goStyle_lawful, Option.bind_some, read]

/-- Two orders of the members have the same subject, and are the same value. -/
theorem canonicalEvidenceSubject_reordered :
    SameValue (detached (evidence (.string "a"))) (detached (reordered (.string "a"))) := by
  have left : decodeStrictJSON (Json.goStyle.bytes (evidence (.string "a"))) =
      some (.map [("attestation", .bool true), ("items", .string "a")]) :=
    decodeStrictJSON_bytes (by decide +kernel) (by decide +kernel) (by rfl)
  have right : decodeStrictJSON (Json.goStyle.bytes (reordered (.string "a"))) =
      some (.map [("items", .string "a"), ("attestation", .bool false)]) :=
    decodeStrictJSON_bytes (by decide +kernel) (by decide +kernel) (by rfl)
  refine (canonicalEvidenceSubject_binds_iff _ _ _ _ _ _ _ _
    (Json.parse_bytes Json.goStyle_lawful _) (Json.parse_bytes Json.goStyle_lawful _) left right
    rfl rfl).mpr ?_ rfl
  intro differ
  exact differ.1 rfl

/-- An empty array and a null have the same subject, and are different values. -/
theorem canonicalEvidenceSubject_empty :
    ∃ left right subject,
      decodeStrictJSON (Json.goStyle.bytes (evidence (.array []))) = some left ∧
      decodeStrictJSON (Json.goStyle.bytes (evidence .null)) = some right ∧
      canonicalEvidenceSubject left = .ok subject ∧
      canonicalEvidenceSubject right = .ok subject ∧
      Json.parse (Json.goStyle.bytes (evidence (.array []))) = some (evidence (.array [])) ∧
      Json.parse (Json.goStyle.bytes (evidence .null)) = some (evidence .null) ∧
      ¬SameValue (detached (evidence (.array []))) (detached (evidence .null)) := by
  have left : decodeStrictJSON (Json.goStyle.bytes (evidence (.array []))) =
      some (.map [("attestation", .bool true), ("items", .nilSlice)]) :=
    decodeStrictJSON_bytes (by decide +kernel) (by decide +kernel) (by rfl)
  have right : decodeStrictJSON (Json.goStyle.bytes (evidence .null)) =
      some (.map [("attestation", .bool true), ("items", .nil)]) :=
    decodeStrictJSON_bytes (by decide +kernel) (by decide +kernel) (by rfl)
  refine ⟨_, _, marshalGo (.map [("items", .nil)]), left, right, rfl, rfl,
    Json.parse_bytes Json.goStyle_lawful _, Json.parse_bytes Json.goStyle_lawful _, ?_⟩
  intro same
  simp [SameValue, evidence, detached, Json.sorted, Json.reshape, Json.reshapeMembers,
    Json.sortByKey] at same

end CloudRing.RoadmapProgram
