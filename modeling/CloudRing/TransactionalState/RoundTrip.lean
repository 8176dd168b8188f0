import CloudRing.TransactionalState.Store

/-!
# What a committed document is worth

`Save` checks the size of a document before the statement and again, on PostgreSQL's text, after it.
-/

namespace CloudRing.TransactionalState

open Library (Json)

/-- The statement of a `Save` takes effect on a table. -/
structure Stores (postgres : Postgres) (table : Table) (scope key : String)
    (expectedRevision : Int) (text : List UInt8) (value : Json) : Prop where
  scopeSafe : safeKey scope = true
  keySafe : safeKey key = true
  nonnegative : 0 ≤ expectedRevision
  parsed : Json.parse text = some value
  canonical : canonicalJSON text = some (Json.marshal value)
  accepted : postgres.accepts (Json.sorted value) = true
  fits : (bodyText (postgres.kept (Json.sorted value))).length ≤ maximumDocumentBytes
  expected : expectedRevision = 0 ∧ table scope key = none ∨
    ∃ row, table scope key = some row ∧ (row.revision : Int) = expectedRevision ∧
      row.revision < maximumRevision

section Save

variable {postgres : Postgres} {table : Table} {scope key : String} {expectedRevision : Int}
  {text : List UInt8} {value : Json}

theorem input_marshal (accepted : postgres.accepts (Json.sorted value) = true) :
    postgres.input (Json.marshal value) = some (postgres.kept (Json.sorted value)) := by
  rw [Postgres.input, Json.parse_marshal, Option.filter_some, if_pos accepted]
  rfl

theorem Stores.save_eq (now : Int)
    (stores : Stores postgres table scope key expectedRevision text value) :
    ∃ row : Row, row.body = postgres.kept (Json.sorted value) ∧ table scope key ≠ some row ∧
      save postgres .answered now table scope key expectedRevision text =
        (match canonicalJSON (bodyText row.body) with
          | none => .error .savedDocument
          | some stored => .ok ⟨scope, key, row.revision, stored, row.updatedAt⟩,
          table.set scope key (some row)) := by
  have kept := input_marshal stores.accepted
  have fits : bodyFits (postgres.kept (Json.sorted value)) = true := decide_eq_true stores.fits
  have request : ¬(!safeKey scope || !safeKey key || decide (expectedRevision < 0)) = true := by
    have sign := stores.nonnegative
    simp only [stores.scopeSafe, stores.keySafe, Bool.not_true, Bool.or_self, Bool.false_or,
      decide_eq_true_eq]
    omega
  rcases saveStatement_cases postgres now scope key expectedRevision (Json.marshal value) table
    with ⟨row, written, body, _, replaces⟩ | ⟨answer, unchanged, other⟩
  · rw [kept, Option.some.injEq] at body
    refine ⟨row, body.symm, ?_, ?_⟩
    · intro same
      rcases replaces with ⟨_, absent, _⟩ | ⟨old, present, _, _, next⟩
      · rw [absent] at same
        contradiction
      · rw [present, Option.some.injEq] at same
        rw [same] at next
        omega
    · rw [save, if_neg request, stores.canonical]
      simp only [Delivery.run, written]
      cases canonicalJSON (bodyText row.body) with
      | none | some => rfl
  · -- The statement cannot refuse what `Stores` has checked.
    exfalso
    rcases stores.expected with ⟨zero, absent⟩ | ⟨old, present, same, room⟩
    · rw [saveStatement, if_pos zero, insertDocument, kept] at unchanged
      simp only [fits, Bool.not_true, Bool.false_eq_true, ↓reduceIte, absent,
        Prod.mk.injEq] at unchanged
      exact other _ unchanged.1.symm
    · have nonzero : expectedRevision ≠ 0 := by
        have positive := old.positive
        omega
      have notFull : ¬(old.revision + 1 > maximumRevision) := by omega
      rw [saveStatement, if_neg nonzero, updateDocument, kept] at unchanged
      simp only [present, same, fits, notFull, ne_eq, not_true_eq_false, Bool.not_true,
        decide_false, Bool.or_self, Bool.false_eq_true, ↓reduceIte, Prod.mk.injEq] at unchanged
      exact other _ unchanged.1.symm

theorem save_unchanged (now : Int)
    (never : ¬∃ value, Stores postgres table scope key expectedRevision text value) :
    (save postgres .answered now table scope key expectedRevision text).2 = table := by
  unfold save
  split
  · rfl
  rename_i request
  simp only [Bool.or_eq_true, Bool.not_eq_true', decide_eq_true_eq, not_or,
    Bool.not_eq_false, not_lt] at request
  cases accepted : canonicalJSON text with
  | none => rfl
  | some canonical =>
    obtain ⟨value, parsed, _, _, rfl⟩ := canonicalJSON_some accepted
    simp only [Delivery.run]
    rcases saveStatement_cases postgres now scope key expectedRevision (Json.marshal value) table
      with ⟨row, _, body, fits, replaces⟩ | ⟨answer, unchanged, other⟩
    · exfalso
      rw [Postgres.input, Json.parse_marshal, Option.map_eq_some_iff] at body
      obtain ⟨found, filtered, kept⟩ := body
      obtain ⟨same, valid⟩ := Option.filter_eq_some_iff.mp filtered
      rw [← Option.some.inj same] at valid kept
      rw [← kept] at fits
      refine never ⟨value, request.1.1, request.1.2, request.2, parsed, accepted, valid,
        of_decide_eq_true fits, ?_⟩
      rcases replaces with ⟨zero, absent, _⟩ | ⟨old, present, same, room, _⟩
      · exact .inl ⟨zero, absent⟩
      · exact .inr ⟨old, present, same, room⟩
    · rw [unchanged]
      cases answer with
      | row row => exact absurd rfl (other row)
      | noRows | uniqueViolation | failed => rfl

theorem load_row {row : Row} (scopeSafe : safeKey scope = true) (keySafe : safeKey key = true)
    (present : table scope key = some row) :
    load .answered table scope key =
      match canonicalJSON (bodyText row.body) with
      | none => .error .storedDocument
      | some canonical => .ok ⟨scope, key, row.revision, canonical, row.updatedAt⟩ := by
  simp only [load, scopeSafe, keySafe, Delivery.run, selectDocument, present]
  rfl

end Save

/-- A `Save` that fails for any reason but the database leaves the table, and the document of a
committed `Save` can be loaded for as long as its row stays, exactly when it is not the case
that the save stores a value whose rendering with plain decimals exceeds the size limit. -/
theorem save_round_trip_iff (postgres : Postgres) (now : Int) (table : Table)
    (scope key : String) (expectedRevision : Int) (text : List UInt8) :
    ((∀ failure,
        (save postgres .answered now table scope key expectedRevision text).1 = .error failure →
        failure.fromDatabase = false →
        (save postgres .answered now table scope key expectedRevision text).2 = table) ∧
      ((save postgres .answered now table scope key expectedRevision text).2 ≠ table →
        ∀ later : Table,
          later scope key =
            (save postgres .answered now table scope key expectedRevision text).2 scope key →
          ∃ document, load .answered later scope key = .ok document)) ↔
      ¬∃ value, Stores postgres table scope key expectedRevision text value ∧
        (Json.marshal (plainNumbers value)).length > maximumDocumentBytes := by
  by_cases storing : ∃ value, Stores postgres table scope key expectedRevision text value
  · obtain ⟨value, stores⟩ := storing
    obtain ⟨row, body, changed, saved⟩ := stores.save_eq now
    obtain ⟨found, parsed, distinct, shallow, _⟩ := canonicalJSON_some stores.canonical
    rw [stores.parsed, Option.some.injEq] at parsed
    rw [← parsed] at distinct shallow
    have again := canonicalJSON_stored postgres distinct shallow stores.fits
    rw [← body] at again
    have differs : table.set scope key (some row) ≠ table := by
      intro same
      have rows := congrFun (congrFun same scope) key
      rw [Table.set_same] at rows
      exact changed rows.symm
    rw [saved, again]
    by_cases long : (Json.marshal (plainNumbers value)).length > maximumDocumentBytes
    · simp only [if_pos long]
      refine iff_of_false ?_ ?_
      · rintro ⟨kept, _⟩
        exact differs (kept .savedDocument rfl rfl)
      · exact fun short => short ⟨value, stores, long⟩
    · simp only [if_neg long]
      refine iff_of_true ⟨nofun, fun _ later same => ?_⟩ ?_
      · rw [Table.set_same] at same
        rw [load_row stores.scopeSafe stores.keySafe same, again, if_neg long]
        exact ⟨_, rfl⟩
      · rintro ⟨other, others, exceeds⟩
        rw [Option.some.inj (others.parsed.symm.trans stores.parsed)] at exceeds
        exact long exceeds
  · have unchanged := save_unchanged now storing
    refine iff_of_true ⟨fun _ _ _ => unchanged, fun changed => absurd unchanged changed⟩ ?_
    rintro ⟨value, stores, _⟩
    exact storing ⟨value, stores⟩

def angles (count : Nat) (number : Json.Numeral) : Json :=
  .array [.string (String.ofList (List.replicate count '<')), .number number]

theorem reshape_angles (number : Json.Numeral → Json.Numeral)
    (order : List (String × Json) → List (String × Json)) (count : Nat)
    (value : Json.Numeral) :
    Json.reshape number order (angles count value) = angles count (number value) := by
  simp [angles, Json.reshape, Json.reshapeItems]

theorem angles_length (style : Json.Style) (count : Nat) (value : Json.Numeral) :
    (style.bytes (angles count value)).length =
      count * (Library.Utf8.encode (style.escape '<')).length +
        (Library.Utf8.encode style.afterComma).length +
        (Library.Utf8.encode value.literal.toList).length + 5 := by
  have repeated : (Library.Utf8.encode
      ((List.replicate count '<').flatMap style.escape)).length =
      count * (Library.Utf8.encode (style.escape '<')).length := by
    induction count with
    | zero => simp [Library.Utf8.encode]
    | succ count ih =>
      rw [List.replicate_succ, List.flatMap_cons, Library.Utf8.encode_append,
        List.length_append, ih, Nat.succ_mul, Nat.add_comm]
  have single : ∀ (rune : Char) (rest : List Char), rune.toNat < 0x80 →
      (Library.Utf8.encode (rune :: rest)).length = (Library.Utf8.encode rest).length + 1 := by
    intro rune rest ascii
    simp [Library.Utf8.encode, Library.Utf8.encodeRune_ascii ascii, Nat.add_comm]
  have empty : (Library.Utf8.encode []).length = 0 := rfl
  simp only [Json.Style.bytes, angles, Json.Style.render, Json.Style.renderItems,
    Json.Style.quote, String.toList_ofList, List.cons_append, List.append_assoc,
    List.nil_append, Library.Utf8.encode_append, List.length_append, repeated,
    single '[' _ (by decide), single ']' _ (by decide), single '"' _ (by decide),
    single ',' _ (by decide), empty]
  omega

theorem angles_distinct (count : Nat) (value : Json.Numeral) :
    (angles count value).DistinctKeys := by
  simp [angles, Json.DistinctKeys, Json.DistinctItems]

theorem angles_shallow (count : Nat) (value : Json.Numeral) :
    (angles count value).levels ≤ StrictJson.maxDepth := by
  simp [angles, Json.levels, Json.levelsItems, StrictJson.maxDepth]

def thousandZeros : Json.Numeral := ⟨"1e1000", by decide⟩

/-- A committed save that is reported as invalid and cannot be loaded: `1398000` angle brackets
and `1e1000` are within the size limit as Go writes them and as PostgreSQL writes them, but not
in Go's escapes with PostgreSQL's digits. -/
theorem save_committed_unreadable :
    (save .verbatim .answered 0 (fun _ _ => none) "scope" "key" 0
        (Json.marshal (angles 1398000 thousandZeros))).1 = .error .savedDocument ∧
      (save .verbatim .answered 0 (fun _ _ => none) "scope" "key" 0
        (Json.marshal (angles 1398000 thousandZeros))).2 ≠ (fun _ _ => none) ∧
      load .answered (save .verbatim .answered 0 (fun _ _ => none) "scope" "key" 0
        (Json.marshal (angles 1398000 thousandZeros))).2 "scope" "key" =
          .error .storedDocument := by
  have sortedSame : Json.sorted (angles 1398000 thousandZeros) = angles 1398000 thousandZeros :=
    reshape_angles id Json.sortByKey 1398000 thousandZeros
  have keptSame : Postgres.verbatim.kept (angles 1398000 thousandZeros) =
      angles 1398000 (Json.plainDecimal thousandZeros) :=
    reshape_angles _ _ 1398000 thousandZeros
  have digits : (Library.Utf8.encode (Json.plainDecimal thousandZeros).literal.toList).length =
      1001 := by
    rw [Json.plainDecimal, String.toList_ofList]
    decide +kernel
  have written : (Json.marshal (angles 1398000 thousandZeros)).length = 8388011 := by
    rw [Json.marshal, sortedSame, angles_length]
    decide
  have expanded : (Json.marshal (plainNumbers (angles 1398000 thousandZeros))).length =
      8389006 := by
    rw [plainNumbers, reshape_angles, Json.marshal, Json.sorted, reshape_angles, angles_length,
      id, digits]
    decide
  have stored : (bodyText (Postgres.verbatim.kept
      (Json.sorted (angles 1398000 thousandZeros)))).length ≤ maximumDocumentBytes := by
    rw [sortedSame, keptSame, bodyText, angles_length, digits]
    decide
  have distinct := angles_distinct 1398000 thousandZeros
  have shallow := angles_shallow 1398000 thousandZeros
  have parsed : Json.parse (Json.marshal (angles 1398000 thousandZeros)) =
      some (angles 1398000 thousandZeros) := by
    rw [Json.parse_marshal, sortedSame]
  have canonical : canonicalJSON (Json.marshal (angles 1398000 thousandZeros)) =
      some (Json.marshal (angles 1398000 thousandZeros)) := by
    have limit : 8388011 ≤ maximumDocumentBytes := by decide
    rw [canonicalJSON_of_parse (marshal_nonempty _) (written ▸ limit) parsed distinct shallow,
      if_neg (written ▸ Nat.not_lt.mpr limit)]
  have stores : Stores .verbatim (fun _ _ => none) "scope" "key" 0
      (Json.marshal (angles 1398000 thousandZeros)) (angles 1398000 thousandZeros) :=
    ⟨by decide, by decide, le_rfl, parsed, canonical, rfl, stored, .inl ⟨rfl, rfl⟩⟩
  obtain ⟨row, body, changed, saved⟩ := stores.save_eq 0
  have refused : canonicalJSON (bodyText row.body) = none := by
    have limit : maximumDocumentBytes < 8389006 := by decide
    rw [body, canonicalJSON_stored .verbatim distinct shallow stored,
      if_pos (expanded ▸ limit)]
  rw [saved, refused]
  refine ⟨rfl, ?_, ?_⟩
  · intro same
    have rows : Table.set (fun _ _ => none) "scope" "key" (some row) "scope" "key" = none :=
      congrFun (congrFun same "scope") "key"
    rw [Table.set_same] at rows
    exact Option.some_ne_none row rows
  · rw [load_row stores.scopeSafe stores.keySafe (Table.set_same _ _ _ _), refused]

end CloudRing.TransactionalState
