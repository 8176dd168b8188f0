import CloudRing.Library.Check
import CloudRing.Library.Json.Parse
import CloudRing.Library.Split
import CloudRing.Library.Time
import Mathlib.Data.Nat.Digits.Defs

/-!
# Qualifying a restore boundary

`QualifyBoundary` accepts a snapshot and a restore marker of one primary when the snapshot is empty
and the marker transaction was the first to be given an identifier after it.
-/

namespace CloudRing.CnpgRecovery

open Library (Json Time splitText)

structure BoundarySource where
  systemIdentifier : String
  (timeline walSegmentBytes : UInt32)
  serverStartedAt : String
  inRecovery : Bool
  deriving DecidableEq

structure BoundarySnapshot where
  source : BoundarySource
  (snapshot isolation : String)
  readOnly : Bool
  assignedXID : Option String
  deriving DecidableEq

structure BoundaryMarker where
  (sourceBefore sourceAfter : BoundarySource)
  (name lsn walFile : String)
  (xidBefore xidAfter : Option String)
  firstXID : String
  deriving DecidableEq

def boundarySchemaVersion : String := "cloudring.postgresql-snapshot-boundary/v1"

structure QualifiedBoundary where
  schemaVersion : String
  snapshot : BoundarySnapshot
  marker : BoundaryMarker
  deriving DecidableEq

/-- The errors of `QualifyBoundary`. -/
inductive BoundaryFailure where
  | source
  | snapshot
  | marker
  | unavailable
  deriving DecidableEq, Repr

def BoundaryFailure.text : BoundaryFailure → String
  | source => "PostgreSQL boundary source observation is invalid"
  | snapshot => "PostgreSQL full-XID snapshot is invalid"
  | marker => "PostgreSQL restore marker observation is invalid"
  | unavailable => "consistent PostgreSQL boundary is unavailable"

/-- `strconv.ParseUint(text, base, bits)`, for a base up to sixteen. -/
def parseUint (base bits : Nat) (text : String) : Option Nat :=
  if text = "" then none
  else do
    let digits ← text.toList.mapM fun char => (Json.hexValue char).filter (· < base)
    let value := digits.foldl (fun value digit => value * base + digit) 0
    if value < 2 ^ bits then some value else none

def parseFullXID (value : String) : Option Nat :=
  (parseUint 10 64 value).filter fun xid => 3 ≤ xid && 3 ≤ xid % 2 ^ 32 && xid.repr = value

def parseActive (minimum maximum : Nat) : List Nat → List String → Option (List Nat)
  | active, [] => some active
  | active, item :: items =>
    match parseFullXID item with
    | none => none
    | some xid =>
      if xid < minimum || maximum ≤ xid || active.getLast?.elim false (xid ≤ ·) then none
      else parseActive minimum maximum (active ++ [xid]) items

def parseBoundarySnapshot (value : String) : Option (Nat × Nat × List Nat) :=
  if value.utf8ByteSize > 1048576 then none
  else
    match splitText ':' value with
    | [first, second, third] =>
      match parseFullXID first, parseFullXID second with
      | some minimum, some maximum =>
        if minimum > maximum then none
        else if third = "" then some (minimum, maximum, [])
        else (parseActive minimum maximum [] (splitText ',' third)).map fun active =>
          (minimum, maximum, active)
      | _, _ => none
    | _ => none

/-- `strings.ToUpper` of a number in base sixteen. -/
def upperHex (value : Nat) : List Char := (Nat.toDigits 16 value).map Char.toUpper

def validMarkerLSN (value : String) : Bool :=
  match splitText '/' value with
  | [high, low] =>
    value.toList.map Char.toUpper = value.toList &&
      [high, low].all (fun part =>
        1 ≤ part.utf8ByteSize && part.utf8ByteSize ≤ 8 &&
          (parseUint 16 32 part).elim false fun number => upperHex number = part.toList) &&
      [high, low].any fun part => (parseUint 16 32 part).elim false (· ≠ 0)
  | _ => false

/-- `fmt.Sprintf("%08X", value)`. -/
def paddedHex (value : Nat) : List Char := (upperHex value).leftpad 8 '0'

def validMarkerWAL (value lsn : String) (source : BoundarySource) : Bool :=
  value.utf8ByteSize = 24 && value.toList.map Char.toUpper = value.toList &&
    value.toList.all (fun char => (Json.hexValue char).isSome) &&
    match splitText '/' lsn with
    | [first, second] =>
      source.walSegmentBytes ≠ 0 &&
        match parseUint 16 32 first, parseUint 16 32 second with
        | some high, some low =>
          let last := high * 2 ^ 32 + low
          let segment := (last - 1) / source.walSegmentBytes.toNat
          let perLog := 2 ^ 32 / source.walSegmentBytes.toNat
          last ≠ 0 && value.toList = paddedHex source.timeline.toNat ++
            paddedHex (segment / perLog) ++ paddedHex (segment % perLog)
        | _, _ => false
    | _ => false

/-- `restoreMarkerNamePattern`, `^[a-z][a-z0-9_]{0,62}$`. -/
def restoreMarkerName (name : String) : Bool :=
  match name.toList with
  | [] => false
  | first :: rest =>
    ('a' ≤ first && first ≤ 'z') && rest.length ≤ 62 &&
      rest.all fun char => ('a' ≤ char && char ≤ 'z') || ('0' ≤ char && char ≤ '9') || char = '_'

section Qualify

variable (parseTime : String → Option Time)

def validBoundarySource (source : BoundarySource) : Bool :=
  let segment := source.walSegmentBytes
  (parseUint 10 64 source.systemIdentifier).elim false (fun system =>
      0 < system && system.repr = source.systemIdentifier) &&
    0 < source.timeline && 1048576 ≤ segment && segment ≤ 1073741824 &&
    segment &&& (segment - 1) = 0 &&
    (parseTime source.serverStartedAt).elim false (fun started => !started.isZero) &&
    source.serverStartedAt.toList.getLast? = some 'Z' && !source.inRecovery

def qualifyBoundary (snapshot : BoundarySnapshot) (marker : BoundaryMarker) :
    Except BoundaryFailure QualifiedBoundary :=
  if !validBoundarySource parseTime snapshot.source || snapshot.source ≠ marker.sourceBefore ||
      snapshot.source ≠ marker.sourceAfter || snapshot.isolation ≠ "repeatable read" ||
      !snapshot.readOnly || snapshot.assignedXID.isSome then
    .error .source
  else
    match parseBoundarySnapshot snapshot.snapshot with
    | none => .error .snapshot
    | some (minimum, maximum, active) =>
      match parseFullXID marker.firstXID with
      | none => .error .marker
      | some first =>
        if !restoreMarkerName marker.name || !validMarkerLSN marker.lsn ||
            !validMarkerWAL marker.walFile marker.lsn snapshot.source ||
            marker.xidBefore.isSome || marker.xidAfter.isSome then
          .error .marker
        else if minimum ≠ maximum || active.length ≠ 0 || first ≠ maximum then
          .error .unavailable
        else .ok ⟨boundarySchemaVersion, snapshot, marker⟩

end Qualify

theorem parseFullXID_repr {value : String} {xid : Nat} (parsed : parseFullXID value = some xid) :
    xid.repr = value := by
  obtain ⟨-, checked⟩ := Option.filter_eq_some_iff.mp parsed
  simp only [Bool.and_eq_true, decide_eq_true_eq] at checked
  exact checked.2

theorem parseActive_length {minimum maximum : Nat} : ∀ {items : List String}
    {active result : List Nat}, parseActive minimum maximum active items = some result →
      result.length = active.length + items.length
  | [], active, result, read => by
    simp only [parseActive, Option.some.injEq] at read
    rw [← read]
    rfl
  | item :: items, active, result, read => by
    simp only [parseActive] at read
    split at read
    · contradiction
    split at read
    · contradiction
    · rw [parseActive_length read, List.length_append, List.length_singleton, List.length_cons]
      omega

theorem qualifyBoundary_ok {parseTime : String → Option Time} {snapshot : BoundarySnapshot}
    {marker : BoundaryMarker} {qualified : QualifiedBoundary}
    (accepted : qualifyBoundary parseTime snapshot marker = .ok qualified) :
    ∃ xid : Nat, xid.repr = marker.firstXID ∧
      splitText ':' snapshot.snapshot = [xid.repr, xid.repr, ""] := by
  unfold qualifyBoundary at accepted
  split at accepted
  · contradiction
  split at accepted
  · contradiction
  rename_i minimum maximum active read
  split at accepted
  · contradiction
  rename_i first firstRead
  split at accepted
  · contradiction
  split at accepted
  · contradiction
  rename_i empty
  simp only [Bool.or_eq_true, decide_eq_true_eq, not_or, not_not] at empty
  obtain ⟨⟨sameBounds, noneActive⟩, sameFirst⟩ := empty
  unfold parseBoundarySnapshot at read
  split at read
  · contradiction
  split at read
  · rename_i low high rest cut
    split at read
    · rename_i minimumRead maximumRead
      split at read
      · contradiction
      split at read
      · rename_i nothing
        simp only [Option.some.injEq, Prod.mk.injEq] at read
        obtain ⟨rfl, rfl, rfl⟩ := read
        refine ⟨first, parseFullXID_repr firstRead, ?_⟩
        rw [cut, nothing, ← parseFullXID_repr minimumRead, ← parseFullXID_repr maximumRead,
          sameBounds, sameFirst]
      · obtain ⟨found, loop, same⟩ := Option.map_eq_some_iff.mp read
        simp only [Prod.mk.injEq] at same
        -- The third part is not empty, so it names at least one identifier in progress.
        have count := parseActive_length loop
        rw [same.2.2, noneActive, List.length_nil, Nat.zero_add, splitText,
          List.length_map] at count
        have parts := List.splitOn_ne_nil ',' rest.toList
        exact absurd (List.length_eq_zero_iff.mp count.symm) parts
    · contradiction
  · contradiction

end CloudRing.CnpgRecovery
