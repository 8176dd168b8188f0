import CloudRing.Library.Check
import CloudRing.Library.Path

/-!
# Policy paths

A path of the policy is brought to one form: names joined by slashes, from the root of the
repository. The drive is looked for in the text as it was given, before its empty and `.` parts
are dropped.
-/

namespace CloudRing.SourceCheck

open Library (bind_ok ensure ensure_ok)

/-- A letter and a colon in front. -/
def drivePrefixedPath : List UInt8 → Bool
  | letter :: colon :: _ =>
    (65 ≤ letter && letter ≤ 90 || 97 ≤ letter && letter ≤ 122) && colon = 58
  | _ => false

/-- Every backslash is read as a slash. -/
def normalized (raw : List UInt8) : List UInt8 := raw.map fun byte => if byte = 92 then 47 else byte

/-- Neither empty nor `.`. -/
def isName (part : List UInt8) : Bool := part ≠ [] && part ≠ [46]

def addPart (clean : List (List UInt8)) (part : List UInt8) : Except String (List (List UInt8)) :=
  if !isName part then .ok clean
  else if part = [46, 46] then .error "policy path escapes the repository"
  else .ok (clean ++ [part])

def canonicalPolicyPath (raw : List UInt8) : Except String (List UInt8) := do
  ensure "policy path is invalid" (raw ≠ [] && 0 ∉ raw)
  ensure "policy path must be repository-relative"
    ((normalized raw).head? ≠ some 47 && !drivePrefixedPath (normalized raw))
  let clean ← ((normalized raw).splitOn 47).foldlM addPart []
  ensure "policy path is empty" (clean ≠ [])
  return [47].intercalate clean

/-- The names that a path is made of. -/
def cleanParts (raw : List UInt8) : List (List UInt8) := ((normalized raw).splitOn 47).filter isName

variable {raw path : List UInt8}

theorem foldlM_addPart {pieces clean done : List (List UInt8)} :
    pieces.foldlM addPart done = .ok clean ↔
      [46, 46] ∉ pieces ∧ done ++ pieces.filter isName = clean := by
  induction pieces generalizing done with
  | nil => simp [pure, Except.pure]
  | cons piece rest ih =>
    rw [List.foldlM_cons, bind_ok]
    simp only [addPart, ih]
    by_cases parent : piece = [46, 46]
    · simp [parent, isName]
    · by_cases named : isName piece = true
      · simp [named, parent, Ne.symm parent]
      · simp [named, Ne.symm parent]

theorem canonicalPolicyPath_ok : canonicalPolicyPath raw = .ok path ↔
    raw ≠ [] ∧ 0 ∉ raw ∧ (normalized raw).head? ≠ some 47 ∧
      drivePrefixedPath (normalized raw) = false ∧ [46, 46] ∉ (normalized raw).splitOn 47 ∧
      cleanParts raw ≠ [] ∧ [47].intercalate (cleanParts raw) = path := by
  simp [canonicalPolicyPath, bind_ok, foldlM_addPart, cleanParts, pure, Except.pure, and_assoc]

theorem forall_mem_intercalate {holds : UInt8 → Prop} {separator : UInt8}
    {pieces : List (List UInt8)} (held : holds separator) :
    (∀ byte ∈ [separator].intercalate pieces, holds byte) ↔
      ∀ piece ∈ pieces, ∀ byte ∈ piece, holds byte := by
  induction pieces with
  | nil => simp
  | cons piece rest ih =>
    cases rest with
    | nil => simp
    | cons next rest =>
      rw [List.intercalate_cons_cons, List.forall_mem_append, List.forall_mem_append,
        List.forall_mem_cons, ih]
      simp [held]

theorem intercalate_start {byte : UInt8} {more : List UInt8} {rest : List (List UInt8)} :
    ([47].intercalate ((byte :: more) :: rest)).head? = some byte ∧
      drivePrefixedPath ([47].intercalate ((byte :: more) :: rest)) =
        drivePrefixedPath (byte :: more) := by
  cases rest with
  | nil => simp
  | cons next rest =>
    rw [List.intercalate_cons_cons]
    cases more with
    | nil => simp [drivePrefixedPath]
    | cons colon more => exact ⟨rfl, rfl⟩

/-- Names joined by slashes: none of them is empty, `.` or `..`, and no backslash is left. -/
structure Canonical (path : List UInt8) : Prop where
  names : ∀ part ∈ path.splitOn 47, part ∉ [[], [46], [46, 46]]
  slashes : 92 ∉ path
  drive : drivePrefixedPath path = false

/-- The first name of the path has no drive in front. -/
def DriveFree (raw : List UInt8) : Prop :=
  ∀ first ∈ (cleanParts raw).head?, drivePrefixedPath first = false

theorem canonicalPolicyPath_canonical_iff (accepted : canonicalPolicyPath raw = .ok path) :
    canonicalPolicyPath path = .ok path ∧ Canonical path ↔ DriveFree raw := by
  obtain ⟨-, text, -, -, inside, some, joined⟩ := canonicalPolicyPath_ok.mp accepted
  have listed : ∀ part ∈ cleanParts raw, part ∈ (normalized raw).splitOn 47 ∧ isName part = true :=
    fun part member => List.mem_filter.mp member
  have bytes : ∀ byte ∈ path, byte ≠ 0 ∧ byte ≠ 92 := by
    have given : ∀ byte ∈ normalized raw, byte ≠ 0 ∧ byte ≠ 92 := by
      rw [normalized, List.forall_mem_map]
      grind
    rw [← @List.intercalate_splitOn _ (normalized raw) _ _ 47,
      forall_mem_intercalate (by decide)] at given
    rw [← joined, forall_mem_intercalate (by decide)]
    exact fun part member => given part (listed part member).1
  have cut : path.splitOn 47 = cleanParts raw := by
    rw [← joined]
    exact List.splitOn_intercalate 47 (fun part member =>
      Library.Path.notMem_of_mem_splitOn (listed part member).1) some
  have same : normalized path = path :=
    (List.map_congr_left fun byte member => if_neg (bytes byte member).2).trans (List.map_id _)
  have fixed : cleanParts path = cleanParts raw := by
    rw [cleanParts, same, cut]
    exact List.filter_eq_self.mpr fun part member => (listed part member).2
  have clean : [46, 46] ∉ cleanParts raw := fun member => inside (listed _ member).1
  obtain ⟨first, rest, pieces⟩ := List.exists_cons_of_ne_nil some
  obtain ⟨member, named⟩ := listed first (pieces ▸ List.mem_cons_self)
  obtain ⟨byte, more, rfl⟩ := List.exists_cons_of_ne_nil (l := first) (by grind [isName])
  obtain ⟨head, drive⟩ := @intercalate_start byte more rest
  rw [← pieces, joined] at head drive
  have slash : byte ≠ 47 := fun same =>
    Library.Path.notMem_of_mem_splitOn member (same ▸ List.mem_cons_self)
  have condition : DriveFree raw ↔ drivePrefixedPath (byte :: more) = false := by
    simp [DriveFree, pieces]
  rw [canonicalPolicyPath_ok, same, fixed, cut, head, drive, condition]
  constructor
  · exact fun holds => holds.1.2.2.2.1
  · intro free
    refine ⟨⟨?_, fun zero => (bytes 0 zero).1 rfl, by simpa using slash, free, clean, some, joined⟩,
      ⟨?_, fun back => (bytes 92 back).2 rfl, drive.trans free⟩⟩
    · rintro rfl
      cases head
    · rw [cut]
      intro part member
      have named := (listed part member).2
      have parent : part ≠ [46, 46] := fun same => clean (same ▸ member)
      grind [isName]

/-- `a/./b` is brought to `a/b`. -/
theorem canonicalPolicyPath_dotted : canonicalPolicyPath [97, 47, 46, 47, 98] = .ok [97, 47, 98] ∧
    canonicalPolicyPath [97, 47, 98] = .ok [97, 47, 98] ∧ Canonical [97, 47, 98] := by
  have accepted : canonicalPolicyPath [97, 47, 46, 47, 98] = .ok [97, 47, 98] := by decide
  exact ⟨accepted, (canonicalPolicyPath_canonical_iff accepted).mpr (by simp [DriveFree]; decide)⟩

/-- `./C:/x` is brought to `C:/x`, which is refused. -/
theorem canonicalPolicyPath_hidden_drive :
    canonicalPolicyPath [46, 47, 67, 58, 47, 120] = .ok [67, 58, 47, 120] ∧
      canonicalPolicyPath [67, 58, 47, 120] = .error "policy path must be repository-relative" ∧
      drivePrefixedPath [67, 58, 47, 120] = true := by
  decide

end CloudRing.SourceCheck
