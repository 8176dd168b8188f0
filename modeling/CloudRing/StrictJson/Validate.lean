import CloudRing.Library.Json.Reshape

/-!
# Structural validation of untrusted documents

`strictjson.Validate` accepts one document of bounded size and depth in which no object names a key
twice.
-/

namespace CloudRing.StrictJson

open Library (Json)

/-- `MaxDocumentBytes`, `8 << 20`. -/
def maxDocumentBytes : Nat := 8388608

def maxDepth : Nat := 64

/-- The nesting limit of the scanner behind `json.Valid`. -/
def maxNestingDepth : Nat := 10000

inductive Failure where
  | invalid
  | duplicate
  | tooLarge
  deriving DecidableEq, Repr

/-- The document `json.Valid` accepts, as its value. -/
def validDocument (data : List UInt8) : Option Json :=
  (Json.parse data).filter fun value => value.depth ≤ maxNestingDepth

section Walk

variable (limit : Nat)

mutual

/-- The token walk under a depth limit: whether a key is repeated, or an error for a value
nested too deeply. It stops at the first of either. -/
def inspectWithin (depth : Nat) : Json → Except Failure Bool
  | .object members =>
    if depth > limit then .error .invalid else inspectMembers (depth + 1) [] members
  | .array items =>
    if depth > limit then .error .invalid else inspectItems (depth + 1) items
  | _ => if depth > limit then .error .invalid else .ok false

def inspectItems (depth : Nat) : List Json → Except Failure Bool
  | [] => .ok false
  | item :: items =>
    match inspectWithin depth item with
    | .ok false => inspectItems depth items
    | stopped => stopped

def inspectMembers (depth : Nat) (seen : List String) :
    List (String × Json) → Except Failure Bool
  | [] => .ok false
  | (key, value) :: members =>
    if key ∈ seen then .ok true
    else
      match inspectWithin depth value with
      | .ok false => inspectMembers depth (key :: seen) members
      | stopped => stopped

end

end Walk

def inspectValue (value : Json) (depth : Nat) : Except Failure Bool :=
  inspectWithin maxDepth depth value

def validate (data : List UInt8) : Except Failure Unit :=
  if data.length = 0 ∨ data.length > maxDocumentBytes then
    .error (if data.length > maxDocumentBytes then .tooLarge else .invalid)
  else
    match validDocument data with
    | none => .error .invalid
    | some value =>
      match inspectValue value 0 with
      | .error _ => .error .invalid
      | .ok true => .error .duplicate
      | .ok false => .ok ()

/-- `Decode` into an interface value: numbers keep their literals. -/
def decode (data : List UInt8) : Except Failure Json :=
  match validate data with
  | .error failure => .error failure
  | .ok () =>
    match Json.parse data with
    | none => .error .invalid
    | some value => .ok value

mutual

theorem inspectWithin_ok (limit depth : Nat) : ∀ value : Json,
    inspectWithin limit depth value = .ok false ↔
      value.DistinctKeys ∧ depth + value.levels ≤ limit
  | .null | .bool _ | .number _ | .string _ => by
    simp [inspectWithin, Json.DistinctKeys, Json.levels]
  | .array items => by
    by_cases deep : depth > limit
    · simp only [inspectWithin, if_pos deep, reduceCtorEq, false_iff, not_and]
      omega
    · have inner := inspectItems_ok limit (depth + 1) items
      simp only [inspectWithin, if_neg deep, Json.DistinctKeys, Json.levels, inner]
      refine and_congr_right fun _ => ?_
      rcases Nat.eq_zero_or_pos (Json.levelsItems items) with none | some
      · omega
      · omega
  | .object members => by
    by_cases deep : depth > limit
    · simp only [inspectWithin, if_pos deep, reduceCtorEq, false_iff, not_and]
      omega
    · have inner := inspectMembers_ok limit (depth + 1) [] members
      simp only [inspectWithin, if_neg deep, Json.DistinctKeys, Json.levels, inner]
      simp only [List.not_mem_nil, not_false_eq_true, implies_true, true_and, and_assoc]
      refine and_congr_right fun _ => and_congr_right fun _ => ?_
      omega

theorem inspectItems_ok (limit depth : Nat) : ∀ items : List Json,
    inspectItems limit depth items = .ok false ↔
      Json.DistinctItems items ∧ (Json.levelsItems items = 0 ∨
        depth + Json.levelsItems items ≤ limit + 1)
  | [] => by simp [inspectItems, Json.DistinctItems, Json.levelsItems]
  | item :: items => by
    have first := inspectWithin_ok limit depth item
    have rest := inspectItems_ok limit depth items
    have both : inspectItems limit depth (item :: items) = .ok false ↔
        inspectWithin limit depth item = .ok false ∧
          inspectItems limit depth items = .ok false := by
      rw [inspectItems]
      split
      · rename_i passed
        simp [passed]
      · rename_i stopped
        exact ⟨fun passed => (stopped passed).elim, fun passed => (stopped passed.1).elim⟩
    rw [both, first, rest]
    simp only [Json.DistinctItems, Json.levelsItems]
    have positive : 0 < max (item.levels + 1) (Json.levelsItems items) := by omega
    constructor
    · rintro ⟨⟨here, bound⟩, there, bounds⟩
      exact ⟨⟨here, there⟩, by omega⟩
    · rintro ⟨⟨here, there⟩, bounds⟩
      exact ⟨⟨here, by omega⟩, there, by omega⟩

theorem inspectMembers_ok (limit depth : Nat) (seen : List String) :
    ∀ members : List (String × Json),
    inspectMembers limit depth seen members = .ok false ↔
      (∀ member ∈ members, member.1 ∉ seen) ∧ (members.map Prod.fst).Nodup ∧
        Json.DistinctMembers members ∧ (Json.levelsMembers members = 0 ∨
          depth + Json.levelsMembers members ≤ limit + 1)
  | [] => by simp [inspectMembers, Json.DistinctMembers, Json.levelsMembers]
  | (key, value) :: members => by
    have first := inspectWithin_ok limit depth value
    have rest := inspectMembers_ok limit depth (key :: seen) members
    have both : inspectMembers limit depth seen ((key, value) :: members) = .ok false ↔
        key ∉ seen ∧ inspectWithin limit depth value = .ok false ∧
          inspectMembers limit depth (key :: seen) members = .ok false := by
      rw [inspectMembers]
      by_cases repeated : key ∈ seen
      · simp [repeated]
      · rw [if_neg repeated]
        split
        · rename_i passed
          simp [passed, repeated]
        · rename_i stopped
          exact ⟨fun passed => (stopped passed).elim, fun passed => (stopped passed.2.1).elim⟩
    rw [both, first, rest]
    simp only [Json.DistinctMembers, Json.levelsMembers, List.map_cons, List.nodup_cons,
      List.mem_cons, forall_eq_or_imp, not_or]
    constructor
    · rintro ⟨fresh, ⟨here, bound⟩, new, nodup, there, bounds⟩
      refine ⟨⟨fresh, fun member listed => (new member listed).2⟩, ⟨?_, nodup⟩, ⟨here, there⟩,
        by omega⟩
      intro listed
      obtain ⟨member, found, same⟩ := List.mem_map.mp listed
      exact (new member found).1 same
    · rintro ⟨⟨fresh, new⟩, ⟨single, nodup⟩, ⟨here, there⟩, bounds⟩
      refine ⟨fresh, ⟨here, by omega⟩, ?_, nodup, there, by omega⟩
      intro member listed
      exact ⟨fun same => single (List.mem_map.mpr ⟨member, listed, same⟩), new member listed⟩

end

variable {data : List UInt8} {value : Json}

theorem validate_ok (valid : validate data = .ok ()) :
    ∃ value, Json.parse data = some value ∧ value.DistinctKeys ∧ value.levels ≤ maxDepth := by
  unfold validate at valid
  split at valid
  · contradiction
  split at valid
  · contradiction
  · rename_i value parsed
    split at valid
    · contradiction
    · contradiction
    · rename_i passed
      have shape := (inspectWithin_ok maxDepth 0 value).mp passed
      rw [Nat.zero_add] at shape
      exact ⟨value, (Option.filter_eq_some_iff.mp parsed).1, shape⟩

theorem validate_of_parse (nonempty : data ≠ [])
    (bounded : data.length ≤ maxDocumentBytes) (parsed : Json.parse data = some value)
    (distinct : value.DistinctKeys) (shallow : value.levels ≤ maxDepth) :
    validate data = .ok () := by
  have size : ¬(data.length = 0 ∨ data.length > maxDocumentBytes) := by
    rw [List.length_eq_zero_iff]
    exact fun outside => outside.elim nonempty (Nat.not_lt.mpr bounded)
  have nesting : value.depth ≤ maxNestingDepth := by
    have brackets := Json.depth_le_levels value
    unfold maxDepth at shallow
    unfold maxNestingDepth
    omega
  have document : validDocument data = some value := by
    rw [validDocument, parsed]
    simp [nesting]
  have passed : inspectValue value 0 = .ok false :=
    (inspectWithin_ok maxDepth 0 value).mpr ⟨distinct, by rwa [Nat.zero_add]⟩
  rw [validate, if_neg size, document]
  simp only [passed]

theorem decode_ok (decoded : decode data = .ok value) :
    Json.parse data = some value ∧ value.DistinctKeys ∧ value.levels ≤ maxDepth := by
  unfold decode at decoded
  split at decoded
  · contradiction
  · rename_i valid
    obtain ⟨found, parsed, shape⟩ := validate_ok valid
    rw [parsed] at decoded
    simp only [Except.ok.injEq] at decoded
    rw [← decoded]
    exact ⟨parsed, shape⟩

theorem decode_of_parse (nonempty : data ≠ [])
    (bounded : data.length ≤ maxDocumentBytes) (parsed : Json.parse data = some value)
    (distinct : value.DistinctKeys) (shallow : value.levels ≤ maxDepth) :
    decode data = .ok value := by
  rw [decode, validate_of_parse nonempty bounded parsed distinct shallow, parsed]

end CloudRing.StrictJson
