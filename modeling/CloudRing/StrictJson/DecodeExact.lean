import CloudRing.StrictJson.Validate

/-!
# Decoding into declared fields

`strictjson.DecodeExact` validates a document and decodes it with unknown fields disallowed.
-/

namespace CloudRing.StrictJson

open Library (Json)

/-- A Go type a value is decoded into. Struct types are referred to by name, so a type may
contain itself. -/
inductive Destination (Struct : Type) where
  | leaf (accepts : Json → Bool)
  | slice (element : Destination Struct)
  | array (length : Nat) (element : Destination Struct)
  | map (accepts : String → Bool) (element : Destination Struct)
  | pointer (element : Destination Struct)
  | struct (name : Struct)

structure Types (Struct : Type) where
  fields : Struct → List (String × Destination Struct)
  distinct : ∀ name, ((fields name).map Prod.fst).Nodup

inductive Decoded where
  | leaf
  | list (items : List Decoded)
  | map (entries : List (String × Decoded))
  | struct (members : List (String × String × Decoded))

namespace Decoded

mutual

/-- Every struct is decoded from keys equal to the names of its fields, and none of its fields
receives more than one value. -/
def Exact : Decoded → Prop
  | leaf => True
  | list items => ExactItems items
  | map entries => ExactEntries entries
  | struct members =>
    (∀ member ∈ members, member.1 = member.2.1) ∧ (members.map fun member => member.2.1).Nodup ∧
      ExactMembers members

def ExactItems : List Decoded → Prop
  | [] => True
  | item :: items => Exact item ∧ ExactItems items

def ExactEntries : List (String × Decoded) → Prop
  | [] => True
  | (_, value) :: entries => Exact value ∧ ExactEntries entries

def ExactMembers : List (String × String × Decoded) → Prop
  | [] => True
  | (_, _, value) :: members => Exact value ∧ ExactMembers members

end

end Decoded

variable {Struct : Type}

/-- The type behind every pointer, `indirect`. -/
def Destination.pointee : Destination Struct → Destination Struct
  | .pointer element => element.pointee
  | destination => destination

/-- `foldName`: ASCII letters in upper case, other characters by their simple fold. -/
def foldName (foldRune : Char → Char) (name : String) : List Char :=
  name.toList.map fun rune => if rune.toNat < 0x80 then rune.toUpper else foldRune rune

section Decoder

variable (foldRune : Char → Char) (types : Types Struct)

def foldedField (fields : List (String × Destination Struct)) (key : String) :
    Option (String × Destination Struct) :=
  fields.find? fun field => foldName foldRune field.1 = foldName foldRune key

def exactField (fields : List (String × Destination Struct)) (key : String) :
    Option (String × Destination Struct) :=
  fields.find? fun field => field.1 = key

def fieldOf (fields : List (String × Destination Struct)) (key : String) :
    Option (String × Destination Struct) :=
  (exactField fields key).or (foldedField foldRune fields key)

mutual

/-- The decoder with `DisallowUnknownFields`: nothing when any part is refused. A null leaves
a destination as it is unless its type decides. -/
def decodeValue (destination : Destination Struct) : Json → Option Decoded
  | .object members =>
    match destination.pointee with
    | .struct name => (decodeFields (types.fields name) members).map .struct
    | .map accepts element => (decodeEntries accepts element members).map .map
    | .leaf accepts => if accepts (.object members) then some .leaf else none
    | _ => none
  | .array items =>
    match destination.pointee with
    | .slice element => (decodeItems none element items).map .list
    | .array length element => (decodeItems (some length) element items).map .list
    | .leaf accepts => if accepts (.array items) then some .leaf else none
    | _ => none
  | value =>
    match destination.pointee with
    | .leaf accepts => if accepts value then some .leaf else none
    | _ =>
      match value with
      | .null => some .leaf
      | _ => none

def decodeItems (room : Option Nat) (element : Destination Struct) :
    List Json → Option (List Decoded)
  | [] => some []
  | item :: items =>
    match room with
    | some 0 => some []
    | _ => do
      let first ← decodeValue element item
      let rest ← decodeItems (room.map Nat.pred) element items
      some (first :: rest)

def decodeEntries (accepts : String → Bool) (element : Destination Struct) :
    List (String × Json) → Option (List (String × Decoded))
  | [] => some []
  | (key, value) :: members => do
    guard (accepts key)
    let first ← decodeValue element value
    let rest ← decodeEntries accepts element members
    some ((key, first) :: rest)

def decodeFields (fields : List (String × Destination Struct)) :
    List (String × Json) → Option (List (String × String × Decoded))
  | [] => some []
  | (key, value) :: members => do
    let field ← fieldOf foldRune fields key
    let first ← decodeValue field.2 value
    let rest ← decodeFields fields members
    some ((key, field.1, first) :: rest)

end

def decodeExact (destination : Destination Struct) (data : List UInt8) :
    Except Failure Decoded :=
  match validate data with
  | .error failure => .error failure
  | .ok () =>
    match Json.parse data with
    | none => .error .invalid
    | some value =>
      match decodeValue foldRune types destination value with
      | none => .error .invalid
      | some decoded => .ok decoded

mutual

/-- No key of an object decoded into a struct is another spelling of a declared name: a key
that folds to a declared name is a declared name. -/
def OwnSpelling (destination : Destination Struct) : Json → Prop
  | .object members =>
    match destination.pointee with
    | .struct name => OwnSpellingFields (types.fields name) members
    | .map _ element => OwnSpellingEntries element members
    | _ => True
  | .array items =>
    match destination.pointee with
    | .slice element => OwnSpellingItems none element items
    | .array length element => OwnSpellingItems (some length) element items
    | _ => True
  | _ => True

def OwnSpellingItems (room : Option Nat) (element : Destination Struct) : List Json → Prop
  | [] => True
  | item :: items =>
    match room with
    | some 0 => True
    | _ => OwnSpelling element item ∧ OwnSpellingItems (room.map Nat.pred) element items

def OwnSpellingEntries (element : Destination Struct) : List (String × Json) → Prop
  | [] => True
  | (_, value) :: members =>
    OwnSpelling element value ∧ OwnSpellingEntries element members

def OwnSpellingFields (fields : List (String × Destination Struct)) :
    List (String × Json) → Prop
  | [] => True
  | (key, value) :: members =>
    (match exactField fields key with
      | some field => OwnSpelling field.2 value
      | none => foldedField foldRune fields key = none) ∧
      OwnSpellingFields fields members

end

variable {foldRune : Char → Char} {types : Types Struct}

variable {fields : List (String × Destination Struct)}

theorem exactField_name {key : String}
    {field : String × Destination Struct} (found : exactField fields key = some field) :
    field.1 = key := by
  have same := List.find?_some found
  simpa using same

theorem foldedField_name {key : String}
    {field : String × Destination Struct} (missing : exactField fields key = none)
    (found : foldedField foldRune fields key = some field) : field.1 ≠ key := by
  have declared := List.mem_of_find?_eq_some found
  have other := List.find?_eq_none.mp missing field declared
  simpa using other

theorem decodeFields_keys
    {members : List (String × Json)} {decoded : List (String × String × Decoded)}
    (read : decodeFields foldRune types fields members = some decoded) :
    decoded.map Prod.fst = members.map Prod.fst := by
  induction members generalizing decoded with
  | nil =>
    simp only [decodeFields, Option.some.injEq] at read
    rw [← read]
    rfl
  | cons member members ih =>
    obtain ⟨key, value⟩ := member
    simp only [decodeFields, Option.bind_eq_bind, Option.bind_eq_some_iff,
      Option.some.injEq] at read
    obtain ⟨field, _, first, _, rest, tail, rfl⟩ := read
    rw [List.map_cons, List.map_cons, ih tail]

mutual

theorem decodeValue_exact (destination : Destination Struct) :
    ∀ (value : Json) (decoded : Decoded), value.DistinctKeys →
      decodeValue foldRune types destination value = some decoded →
      (decoded.Exact ↔ OwnSpelling foldRune types destination value)
  | .object members, decoded, distinct, read => by
    simp only [decodeValue] at read
    simp only [OwnSpelling]
    split at read
    · rename_i name pointee
      obtain ⟨assigned, fields, rfl⟩ := Option.map_eq_some_iff.mp read
      have inner := decodeFields_exact (types.fields name) members assigned distinct.2 fields
      have keys := decodeFields_keys fields
      simp only [pointee, Decoded.Exact, ← inner]
      refine and_congr_right fun spelled => ⟨fun both => both.2, fun exact => ⟨?_, exact⟩⟩
      have names : (assigned.map fun member => member.2.1) = assigned.map Prod.fst :=
        List.map_congr_left fun member listed => (spelled member listed).symm
      rw [names, keys]
      exact distinct.1
    · rename_i accepts element pointee
      obtain ⟨entries, inside, rfl⟩ := Option.map_eq_some_iff.mp read
      simp only [pointee, Decoded.Exact]
      exact decodeEntries_exact accepts element members entries distinct.2 inside
    · rename_i accepts pointee
      obtain ⟨_, same⟩ := Option.ite_none_right_eq_some.mp read
      simp [pointee, ← Option.some.inj same, Decoded.Exact]
    · contradiction
  | .array items, decoded, distinct, read => by
    simp only [decodeValue] at read
    simp only [OwnSpelling]
    split at read
    · rename_i element pointee
      obtain ⟨inside, listed, rfl⟩ := Option.map_eq_some_iff.mp read
      simp only [pointee, Decoded.Exact]
      exact decodeItems_exact none element items inside distinct listed
    · rename_i length element pointee
      obtain ⟨inside, listed, rfl⟩ := Option.map_eq_some_iff.mp read
      simp only [pointee, Decoded.Exact]
      exact decodeItems_exact (some length) element items inside distinct listed
    · rename_i accepts pointee
      obtain ⟨_, same⟩ := Option.ite_none_right_eq_some.mp read
      simp [pointee, ← Option.some.inj same, Decoded.Exact]
    · contradiction
  | .null, decoded, _, read | .bool _, decoded, _, read | .number _, decoded, _, read
  | .string _, decoded, _, read => by
    simp only [decodeValue] at read
    split at read
    · obtain ⟨_, same⟩ := Option.ite_none_right_eq_some.mp read
      simp [OwnSpelling, ← Option.some.inj same, Decoded.Exact]
    · first
      | contradiction
      | simp [OwnSpelling, ← Option.some.inj read, Decoded.Exact]

theorem decodeItems_exact (room : Option Nat) (element : Destination Struct) :
    ∀ (items : List Json) (decoded : List Decoded), Json.DistinctItems items →
      decodeItems foldRune types room element items = some decoded →
      (Decoded.ExactItems decoded ↔ OwnSpellingItems foldRune types room element items)
  | [], decoded, _, read => by
    simp only [decodeItems, Option.some.injEq] at read
    simp [← read, Decoded.ExactItems, OwnSpellingItems]
  | item :: items, decoded, distinct, read => by
    simp only [decodeItems] at read
    simp only [OwnSpellingItems]
    split at read
    · simp only [Option.some.injEq] at read
      simp [← read, Decoded.ExactItems]
    · simp only [Option.bind_eq_bind, Option.bind_eq_some_iff, Option.some.injEq] at read
      obtain ⟨first, head, rest, tail, rfl⟩ := read
      have here := decodeValue_exact element item first distinct.1 head
      have there := decodeItems_exact (room.map Nat.pred) element items rest distinct.2 tail
      simp only [Decoded.ExactItems, here, there]

theorem decodeEntries_exact (accepts : String → Bool) (element : Destination Struct) :
    ∀ (members : List (String × Json)) (decoded : List (String × Decoded)),
      Json.DistinctMembers members →
      decodeEntries foldRune types accepts element members = some decoded →
      (Decoded.ExactEntries decoded ↔ OwnSpellingEntries foldRune types element members)
  | [], decoded, _, read => by
    simp only [decodeEntries, Option.some.injEq] at read
    simp [← read, Decoded.ExactEntries, OwnSpellingEntries]
  | (key, value) :: members, decoded, distinct, read => by
    simp only [decodeEntries, Option.bind_eq_bind, Option.bind_eq_some_iff,
      Option.some.injEq] at read
    obtain ⟨_, _, first, head, rest, tail, rfl⟩ := read
    have here := decodeValue_exact element value first distinct.1 head
    have there := decodeEntries_exact accepts element members rest distinct.2 tail
    simp only [Decoded.ExactEntries, OwnSpellingEntries, here, there]

theorem decodeFields_exact (fields : List (String × Destination Struct)) :
    ∀ (members : List (String × Json)) (decoded : List (String × String × Decoded)),
      Json.DistinctMembers members →
      decodeFields foldRune types fields members = some decoded →
      ((∀ member ∈ decoded, member.1 = member.2.1) ∧ Decoded.ExactMembers decoded ↔
        OwnSpellingFields foldRune types fields members)
  | [], decoded, _, read => by
    simp only [decodeFields, Option.some.injEq] at read
    simp [← read, Decoded.ExactMembers, OwnSpellingFields]
  | (key, value) :: members, decoded, distinct, read => by
    simp only [decodeFields, Option.bind_eq_bind, Option.bind_eq_some_iff,
      Option.some.injEq] at read
    obtain ⟨field, assigned, first, head, rest, tail, rfl⟩ := read
    have here := decodeValue_exact field.2 value first distinct.1 head
    have there := decodeFields_exact fields members rest distinct.2 tail
    simp only [Decoded.ExactMembers, OwnSpellingFields, List.mem_cons, forall_eq_or_imp,
      ← there]
    cases exact : exactField fields key with
    | some declared =>
      rw [fieldOf, exact, Option.some_or, Option.some.injEq] at assigned
      rw [assigned] at exact ⊢
      have name := exactField_name exact
      simp only [name, here, true_and]
      tauto
    | none =>
      rw [fieldOf, exact, Option.none_or] at assigned
      have other := foldedField_name exact assigned
      simp [assigned, other.symm]

end

/-- A document that `DecodeExact` accepts fills every struct from keys equal to its declared
names, each field at most once, exactly when none of its keys is another spelling of a
declared name. -/
theorem decodeExact_exact_iff (foldRune : Char → Char) (types : Types Struct)
    (destination : Destination Struct) (data : List UInt8) (value : Json) (decoded : Decoded)
    (parsed : Json.parse data = some value)
    (accepted : decodeExact foldRune types destination data = .ok decoded) :
    decoded.Exact ↔ OwnSpelling foldRune types destination value := by
  unfold decodeExact at accepted
  split at accepted
  · contradiction
  · rename_i valid
    obtain ⟨found, read, distinct, _⟩ := validate_ok valid
    rw [parsed, Option.some.injEq] at read
    rw [parsed] at accepted
    simp only at accepted
    split at accepted
    · contradiction
    · rename_i tree filled
      simp only [Except.ok.injEq] at accepted
      rw [← accepted]
      rw [← read] at distinct
      exact decodeValue_exact destination value tree distinct filled

theorem decodeExact_of_parse {destination : Destination Struct} {data : List UInt8}
    {value : Json} {decoded : Decoded} (valid : validate data = .ok ())
    (parsed : Json.parse data = some value)
    (filled : decodeValue foldRune types destination value = some decoded) :
    decodeExact foldRune types destination data = .ok decoded := by
  unfold decodeExact
  rw [valid, parsed]
  simp only [filled]

end Decoder

/-- A struct with the one field `known`, a string. -/
def knownField : Types Unit where
  fields _ := [("known", .leaf fun
    | .string _ => true
    | .null => true
    | _ => false)]
  distinct _ := by simp

def twoSpellings : List UInt8 :=
  Library.Utf8.ofString "\x7b\"known\":\"first\",\"KNOWN\":\"second\"\x7d"

def ownSpelling : List UInt8 :=
  Library.Utf8.ofString "\x7b\"known\":\"first\"\x7d"

/-- Two spellings of one field are both accepted, and the field receives both values. -/
theorem decodeExact_twoSpellings :
    decodeExact id knownField (.struct ()) twoSpellings =
        .ok (.struct [("known", "known", .leaf), ("KNOWN", "known", .leaf)]) ∧
      ¬(Decoded.struct [("known", "known", .leaf), ("KNOWN", "known", .leaf)]).Exact := by
  have written : twoSpellings = Json.goStyle.bytes
      (.object [("known", .string "first"), ("KNOWN", .string "second")]) := by decide
  have parsed := Json.parse_bytes Json.goStyle_lawful
    (.object [("known", .string "first"), ("KNOWN", .string "second")])
  rw [← written] at parsed
  have valid : validate twoSpellings = .ok () := by
    refine validate_of_parse (by decide) (by decide) parsed ?_ (by decide)
    simp [Json.DistinctKeys, Json.DistinctMembers]
  refine ⟨decodeExact_of_parse valid parsed rfl, ?_⟩
  simp [Decoded.Exact]

/-- The declared spelling is accepted and exact. -/
theorem decodeExact_ownSpelling :
    decodeExact id knownField (.struct ()) ownSpelling =
        .ok (.struct [("known", "known", .leaf)]) ∧
      (Decoded.struct [("known", "known", .leaf)]).Exact := by
  have written : ownSpelling = Json.goStyle.bytes (.object [("known", .string "first")]) := by
    decide
  have parsed := Json.parse_bytes Json.goStyle_lawful (.object [("known", .string "first")])
  rw [← written] at parsed
  have valid : validate ownSpelling = .ok () := by
    refine validate_of_parse (by decide) (by decide) parsed ?_ (by decide)
    simp [Json.DistinctKeys, Json.DistinctMembers]
  have accepted : decodeExact id knownField (.struct ()) ownSpelling =
      .ok (.struct [("known", "known", .leaf)]) := decodeExact_of_parse valid parsed rfl
  refine ⟨accepted, ?_⟩
  refine (decodeExact_exact_iff id knownField (.struct ()) ownSpelling _ _ parsed
    accepted).mpr ?_
  simp [OwnSpelling, OwnSpellingFields, Destination.pointee, knownField, exactField]

end CloudRing.StrictJson
