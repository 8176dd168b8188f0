import CloudRing.Library.Json.Decimal
import CloudRing.Library.Json.Meaning
import CloudRing.StrictJson.Validate

/-!
# Canonical documents and their storage

The store accepts a document by strict validation and Go's rendering of the decoded value.
-/

namespace CloudRing.TransactionalState

open Library (Json)

def maximumDocumentBytes : Nat := StrictJson.maxDocumentBytes

def isKeyCharacter (rune : Char) : Bool :=
  ('a' ≤ rune && rune ≤ 'z') || ('0' ≤ rune && rune ≤ '9') || rune = '.' || rune = '_' ||
    rune = ':' || rune = '-'

/-- `safeKeyPattern`, `^[a-z0-9][a-z0-9._:-]{0,127}$`. -/
def safeKey (name : String) : Bool :=
  match name.toList with
  | [] => false
  | first :: rest =>
    (('a' ≤ first && first ≤ 'z') || ('0' ≤ first && first ≤ '9')) && rest.length ≤ 127 &&
      rest.all isKeyCharacter

/-- `canonicalJSON`, without the text of its errors, which every caller replaces. -/
def canonicalJSON (value : List UInt8) : Option (List UInt8) :=
  if value.length = 0 ∨ value.length > maximumDocumentBytes then none
  else
    match StrictJson.decode value with
    | .error _ => none
    | .ok parsed =>
      let canonical := Json.marshal parsed
      if canonical.length = 0 ∨ canonical.length > maximumDocumentBytes then none
      else some canonical

/-- What PostgreSQL decides by itself about `jsonb` values. -/
structure Postgres where
  accepts : Json → Bool
  order : List (String × Json) → List (String × Json)
  permutes : ∀ members, (order members).Perm members

def Postgres.verbatim : Postgres := ⟨fun _ => true, id, fun members => List.Perm.refl members⟩

/-- The value a `jsonb` column keeps for a value: numbers as decimals, members in order. -/
def Postgres.kept (postgres : Postgres) (value : Json) : Json :=
  Json.reshape Json.plainDecimal postgres.order value

/-- A text cast to `jsonb`. -/
def Postgres.input (postgres : Postgres) (text : List UInt8) : Option Json :=
  ((Json.parse text).filter postgres.accepts).map postgres.kept

/-- `body::text`. -/
def bodyText (body : Json) : List UInt8 := Json.postgresStyle.bytes body

def plainNumbers (value : Json) : Json := Json.reshape Json.plainDecimal id value

variable {canonical text : List UInt8} {value : Json}

theorem canonicalJSON_decoded (accepted : canonicalJSON text = some canonical) :
    ∃ value, StrictJson.decode text = .ok value ∧ value.DistinctKeys ∧
      value.levels ≤ StrictJson.maxDepth ∧ canonical = Json.marshal value ∧
      canonical.length ≤ maximumDocumentBytes := by
  unfold canonicalJSON at accepted
  split at accepted
  · contradiction
  split at accepted
  · contradiction
  · rename_i value decoded
    obtain ⟨-, distinct, shallow⟩ := StrictJson.decode_ok decoded
    simp only at accepted
    split at accepted
    · contradiction
    · rename_i size
      obtain rfl := Option.some.inj accepted
      exact ⟨value, decoded, distinct, shallow, rfl,
        Nat.le_of_not_lt fun large => size (Or.inr large)⟩

theorem canonicalJSON_some (accepted : canonicalJSON text = some canonical) :
    ∃ value, Json.parse text = some value ∧ value.DistinctKeys ∧
      value.levels ≤ StrictJson.maxDepth ∧ canonical = Json.marshal value := by
  obtain ⟨value, decoded, distinct, shallow, written, -⟩ := canonicalJSON_decoded accepted
  exact ⟨value, (StrictJson.decode_ok decoded).1, distinct, shallow, written⟩

theorem bytes_nonempty (style : Json.Style) (value : Json) : style.bytes value ≠ [] := by
  obtain ⟨first, rest, start, _⟩ := Json.render_head style value
  rw [Json.Style.bytes, start, Library.Utf8.encode, List.flatMap_cons]
  intro empty
  have none := (List.append_eq_nil_iff.mp empty).1
  have some := (Library.Utf8.encodeRune_length first).1
  rw [none] at some
  exact absurd some (by decide)

theorem marshal_nonempty (value : Json) : Json.marshal value ≠ [] :=
  bytes_nonempty Json.goStyle (Json.sorted value)

theorem canonicalJSON_of_parse (nonempty : text ≠ [])
    (bounded : text.length ≤ maximumDocumentBytes) (parsed : Json.parse text = some value)
    (distinct : value.DistinctKeys) (shallow : value.levels ≤ StrictJson.maxDepth) :
    canonicalJSON text =
      if (Json.marshal value).length > maximumDocumentBytes then none
      else some (Json.marshal value) := by
  have size : ¬(text.length = 0 ∨ text.length > maximumDocumentBytes) := by
    rw [List.length_eq_zero_iff]
    exact fun outside => outside.elim nonempty (Nat.not_lt.mpr bounded)
  have decoded := StrictJson.decode_of_parse nonempty bounded parsed distinct shallow
  have written : (Json.marshal value).length ≠ 0 := by
    rw [ne_eq, List.length_eq_zero_iff]
    exact marshal_nonempty value
  rw [canonicalJSON, if_neg size, decoded]
  simp only [written, false_or]

theorem marshal_sorted (distinct : value.DistinctKeys) :
    Json.marshal value.sorted = Json.marshal value := by
  have twice : value.sorted.sorted = value.sorted := Json.reshape_sorted id distinct
  rw [Json.marshal, twice, Json.marshal]

theorem canonicalJSON_again (accepted : canonicalJSON text = some canonical) :
    canonicalJSON canonical = some canonical := by
  obtain ⟨value, -, distinct, shallow, rfl, bounded⟩ := canonicalJSON_decoded accepted
  have shallowSorted : value.sorted.levels ≤ StrictJson.maxDepth := by
    rw [Json.levels_sorted]
    exact shallow
  have again := canonicalJSON_of_parse (marshal_nonempty value) bounded
    (Json.parse_marshal value) (Json.sorted_distinct distinct) shallowSorted
  rw [marshal_sorted distinct, if_neg (Nat.not_lt.mpr bounded)] at again
  exact again

/-- Canonicalising an accepted document again changes nothing, and two accepted documents have
one canonical form exactly when they are decoded to values of one meaning: objects are compared
as finite maps, strings after decoding, numbers by their literals. -/
theorem canonicalJSON_canonical {left right leftCanonical rightCanonical : List UInt8}
    (leftAccepted : canonicalJSON left = some leftCanonical)
    (rightAccepted : canonicalJSON right = some rightCanonical) :
    canonicalJSON leftCanonical = some leftCanonical ∧
      (leftCanonical = rightCanonical ↔
        (StrictJson.decode left).map Json.meaning =
          (StrictJson.decode right).map Json.meaning) := by
  refine ⟨canonicalJSON_again leftAccepted, ?_⟩
  obtain ⟨value, leftDecoded, leftDistinct, -, rfl, -⟩ := canonicalJSON_decoded leftAccepted
  obtain ⟨other, rightDecoded, rightDistinct, -, rfl, -⟩ := canonicalJSON_decoded rightAccepted
  rw [leftDecoded, rightDecoded, Json.marshal_eq_iff leftDistinct rightDistinct]
  simp [Except.map]

def twoMembers (swapped : Bool) : Json :=
  let one := ("a", Json.null)
  let two := ("b", Json.bool true)
  .object (if swapped then [two, one] else [one, two])

theorem canonicalJSON_twoMembers (swapped : Bool) :
    canonicalJSON (Json.goStyle.bytes (twoMembers swapped)) =
      some (Json.goStyle.bytes (twoMembers false)) := by
  cases swapped <;> decide +kernel

theorem canonicalJSON_canonical_swapped :
    canonicalJSON (Json.goStyle.bytes (twoMembers false)) =
        some (Json.goStyle.bytes (twoMembers false)) ∧
      (StrictJson.decode (Json.goStyle.bytes (twoMembers true))).map Json.meaning =
        (StrictJson.decode (Json.goStyle.bytes (twoMembers false))).map Json.meaning :=
  have forms := canonicalJSON_canonical (canonicalJSON_twoMembers true)
    (canonicalJSON_twoMembers false)
  ⟨forms.1, forms.2.mp rfl⟩

theorem marshal_kept (postgres : Postgres) (distinct : value.DistinctKeys) :
    Json.marshal (postgres.kept (Json.sorted value)) = Json.marshal (plainNumbers value) := by
  have stored : Json.sorted (postgres.kept (Json.sorted value)) =
      Json.reshape Json.plainDecimal Json.sortByKey value := by
    rw [Postgres.kept, Json.sorted_reshape postgres.permutes (Json.sorted_distinct distinct),
      Json.reshape_sorted _ distinct]
  have plain : Json.sorted (plainNumbers value) =
      Json.reshape Json.plainDecimal Json.sortByKey value :=
    Json.sorted_reshape (fun members => List.Perm.refl members) distinct
  rw [Json.marshal, stored, Json.marshal, plain]

theorem canonicalJSON_stored (postgres : Postgres)
    (distinct : value.DistinctKeys) (shallow : value.levels ≤ StrictJson.maxDepth)
    (bounded : (bodyText (postgres.kept (Json.sorted value))).length ≤ maximumDocumentBytes) :
    canonicalJSON (bodyText (postgres.kept (Json.sorted value))) =
      if (Json.marshal (plainNumbers value)).length > maximumDocumentBytes then none
      else some (Json.marshal (plainNumbers value)) := by
  have keptDistinct : (postgres.kept (Json.sorted value)).DistinctKeys :=
    Json.reshape_distinct postgres.permutes _ (Json.sorted_distinct distinct)
  have keptShallow : (postgres.kept (Json.sorted value)).levels ≤ StrictJson.maxDepth := by
    rw [Postgres.kept, Json.levels_reshape postgres.permutes, Json.levels_sorted]
    exact shallow
  have parsed : Json.parse (bodyText (postgres.kept (Json.sorted value))) =
      some (postgres.kept (Json.sorted value)) :=
    Json.parse_bytes Json.postgresStyle_lawful (postgres.kept (Json.sorted value))
  have nonempty : bodyText (postgres.kept (Json.sorted value)) ≠ [] := bytes_nonempty _ _
  rw [canonicalJSON_of_parse nonempty bounded parsed keptDistinct keptShallow,
    marshal_kept postgres distinct]

end CloudRing.TransactionalState
