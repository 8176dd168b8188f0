import CloudRing.CnpgRecovery.Transactions
import Mathlib.Data.String.Basic

/-!
# The WAL file of a restore marker

The file that `validMarkerWAL` accepts for a position is the segment that holds the last byte before
it.
-/

namespace CloudRing.CnpgRecovery

open Library (Json Time splitText)

/-- The position that a text `high/low` stands for. -/
def lsnPosition (lsn : String) : Option Nat :=
  match splitText '/' lsn with
  | [first, second] => do
    let high ← parseUint 16 32 first
    let low ← parseUint 16 32 second
    return high * 2 ^ 32 + low
  | _ => none

def walFileName (timeline log segment : Nat) : String :=
  String.ofList (paddedHex timeline ++ paddedHex log ++ paddedHex segment)

/-- An upper-case hexadecimal digit. -/
abbrev IsUpperHex (char : Char) : Prop :=
  char.utf8Size = 1 ∧ char.toUpper = char ∧ (Json.hexValue char).isSome = true

theorem upperHex_digits (value : Nat) : ∀ char ∈ upperHex value, IsUpperHex char := by
  have digits : ∀ digit < 16, IsUpperHex digit.digitChar.toUpper := by decide
  induction value using Nat.strong_induction_on with
  | _ value ih =>
    intro char member
    rw [upperHex, Nat.toDigits_eq_if (by decide)] at member
    split at member
    · rename_i small
      rw [List.map_singleton, List.mem_singleton] at member
      rw [member]
      exact digits value small
    · rename_i large
      rw [List.map_append, List.mem_append, List.map_singleton, List.mem_singleton] at member
      rcases member with earlier | rfl
      · exact ih (value / 16) (by omega) char earlier
      · exact digits _ (Nat.mod_lt _ (by decide))

theorem paddedHex_digits (value : Nat) : ∀ char ∈ paddedHex value, IsUpperHex char := by
  refine List.forall_mem_append.mpr ⟨fun char zero => ?_, upperHex_digits value⟩
  rw [List.eq_of_mem_replicate zero]
  decide

theorem paddedHex_length {value : Nat} (small : value < 2 ^ 32) : (paddedHex value).length = 8 := by
  have short := Nat.toDigits_length 16 value 8 (by decide) (by omega)
  rw [paddedHex, List.length_leftpad, upperHex, List.length_map]
  omega

theorem utf8ByteSize_digits {chars : List Char} (digits : ∀ char ∈ chars, IsUpperHex char) :
    (String.ofList chars).utf8ByteSize = chars.length := by
  rw [String.utf8ByteSize_ofList]
  induction chars with
  | nil => rfl
  | cons char rest ih =>
    rw [List.forall_mem_cons] at digits
    rw [String.utf8Len_cons, ih digits.2, digits.1.1, List.length_cons]

theorem parseUint_lt {base bits value : Nat} {text : String}
    (read : parseUint base bits text = some value) : value < 2 ^ bits := by
  obtain ⟨-, read⟩ := Option.ite_none_left_eq_some.mp read
  obtain ⟨digits, -, read⟩ := Option.bind_eq_some_iff.mp read
  obtain ⟨small, held⟩ := Option.ite_none_right_eq_some.mp read
  cases held
  exact small

theorem validMarkerLSN_position {lsn : String} (marked : validMarkerLSN lsn = true) :
    ∃ first second high low, splitText '/' lsn = [first, second] ∧
      parseUint 16 32 first = some high ∧ parseUint 16 32 second = some low ∧
      1 ≤ high * 2 ^ 32 + low := by
  unfold validMarkerLSN at marked
  split at marked
  · rename_i first second parts
    rw [Bool.and_eq_true, Bool.and_eq_true, List.all_eq_true] at marked
    obtain ⟨⟨-, each⟩, nonzero⟩ := marked
    have reads : ∀ part ∈ [first, second], ∃ number, parseUint 16 32 part = some number := by
      intro part member
      have checked := each part member
      cases read : parseUint 16 32 part with
      | none => simp [read] at checked
      | some number => exact ⟨number, rfl⟩
    obtain ⟨high, highRead⟩ := reads first (by simp)
    obtain ⟨low, lowRead⟩ := reads second (by simp)
    refine ⟨first, second, high, low, parts, highRead, lowRead, ?_⟩
    simp [highRead, lowRead] at nonzero
    omega
  · cases marked

/-- The size of a segment is a power of two, so segments fill the files of a log number. -/
theorem segmentBytes_dvd {parseTime : String → Option Time} {source : BoundarySource}
    (known : validBoundarySource parseTime source = true) :
    0 < source.walSegmentBytes.toNat ∧ source.walSegmentBytes.toNat ∣ 2 ^ 32 := by
  simp only [validBoundarySource, Bool.and_eq_true, decide_eq_true_eq, and_assoc] at known
  obtain ⟨-, -, least, most, single, -⟩ := known
  have atLeast : 1048576 ≤ source.walSegmentBytes.toNat := least
  have atMost : source.walSegmentBytes.toNat ≤ 1073741824 := most
  have bits := congrArg UInt32.toNat single
  rw [UInt32.toNat_and, UInt32.toNat_sub_of_le _ _ (UInt32.le_iff_toNat_le.mpr (by
    change 1 ≤ source.walSegmentBytes.toNat; omega))] at bits
  obtain ⟨power, size⟩ := (Nat.and_sub_one_eq_zero_iff_isPowerOfTwo (by omega)).mp bits
  refine ⟨by omega, ?_⟩
  rw [size] at atMost ⊢
  have small : power ≤ 30 := (Nat.pow_le_pow_iff_right (by decide)).mp (atMost.trans_eq (by decide))
  exact Nat.pow_dvd_pow 2 (by omega)

/-- For a marker of a known source exactly one file name is accepted: that of the segment that
holds the last byte before the position of the marker. -/
theorem validMarkerWAL_iff (parseTime : String → Option Time) (source : BoundarySource)
    (lsn : String) (known : validBoundarySource parseTime source = true)
    (marked : validMarkerLSN lsn = true) :
    ∃ position segment log number, lsnPosition lsn = some position ∧ 1 ≤ position ∧
      segment * source.walSegmentBytes.toNat ≤ position - 1 ∧
      position - 1 < (segment + 1) * source.walSegmentBytes.toNat ∧
      segment = log * (2 ^ 32 / source.walSegmentBytes.toNat) + number ∧
      number < 2 ^ 32 / source.walSegmentBytes.toNat ∧
      (∀ part ∈ [source.timeline.toNat, log, number], (paddedHex part).length = 8) ∧
      ∀ value, validMarkerWAL value lsn source = true ↔
        value = walFileName source.timeline.toNat log number := by
  obtain ⟨first, second, high, low, parts, highRead, lowRead, positive⟩ :=
    validMarkerLSN_position marked
  obtain ⟨nonempty, divides⟩ := segmentBytes_dvd known
  have highSmall := parseUint_lt highRead
  have lowSmall := parseUint_lt lowRead
  generalize perLog : 2 ^ 32 / source.walSegmentBytes.toNat = count
  have whole : source.walSegmentBytes.toNat * count = 2 ^ 32 := by
    rw [← perLog]
    exact Nat.mul_div_cancel' divides
  have filled : 0 < count := by
    refine Nat.pos_of_ne_zero fun none => ?_
    rw [none] at whole
    omega
  let segment := (high * 2 ^ 32 + low - 1) / source.walSegmentBytes.toNat
  have logSmall : segment / count < 2 ^ 32 := by
    rw [Nat.div_div_eq_div_mul, whole]
    omega
  have numberSmall : segment % count < count := Nat.mod_lt _ filled
  have small : ∀ part ∈ [source.timeline.toNat, segment / count, segment % count],
      part < 2 ^ 32 := by
    have timeline := source.timeline.toNat_lt
    have most : count ≤ 2 ^ 32 := whole ▸ Nat.le_mul_of_pos_left count nonempty
    simp only [List.forall_mem_cons]
    refine ⟨timeline, logSmall, by omega, by simp⟩
  refine ⟨high * 2 ^ 32 + low, segment, segment / count, segment % count, ?_, positive,
    Nat.div_mul_le_self _ _, ?_, ?_, numberSmall,
    fun part member => paddedHex_length (small part member), ?_⟩
  · simp [lsnPosition, parts, highRead, lowRead]
  · exact (Nat.lt_mul_div_succ _ nonempty).trans_eq (Nat.mul_comm _ _)
  · rw [Nat.mul_comm]
    exact (Nat.div_add_mod _ _).symm
  · intro value
    have sized : source.walSegmentBytes ≠ 0 := fun zero => by simp [zero] at nonempty
    have accepts : validMarkerWAL value lsn source = true ↔ value.utf8ByteSize = 24 ∧
        value.toList.map Char.toUpper = value.toList ∧
        (∀ char ∈ value.toList, (Json.hexValue char).isSome = true) ∧
        value.toList = paddedHex source.timeline.toNat ++ paddedHex (segment / count) ++
          paddedHex (segment % count) := by
      have some_ : high * 2 ^ 32 + low ≠ 0 := by omega
      simp only [validMarkerWAL, parts, highRead, lowRead, perLog, sized, some_, ne_eq,
        not_false_eq_true, decide_true, Bool.true_and, Bool.and_eq_true, decide_eq_true_eq,
        List.all_eq_true, and_assoc]
      rfl
    rw [accepts, walFileName]
    constructor
    · rintro ⟨-, -, -, named⟩
      rw [← named, String.ofList_toList]
    · rintro rfl
      rw [String.toList_ofList]
      have digits : ∀ char ∈ paddedHex source.timeline.toNat ++ paddedHex (segment / count) ++
          paddedHex (segment % count), IsUpperHex char := by
        simp only [List.forall_mem_append]
        exact ⟨⟨paddedHex_digits _, paddedHex_digits _⟩, paddedHex_digits _⟩
      have size := fun part member => paddedHex_length (small part member)
      simp only [List.forall_mem_cons] at size
      refine ⟨?_, ?_, fun char member => (digits char member).2.2, rfl⟩
      · rw [utf8ByteSize_digits digits, List.length_append, List.length_append, size.1, size.2.1,
          size.2.2.1]
      · refine (List.map_congr_left fun char member => ?_).trans (List.map_id _)
        exact (digits char member).2.1

theorem validMarkerWAL_quiet : validBoundarySource (fun _ => some ⟨1, 0, by decide, by decide⟩)
    quietSource = true ∧ ∃ name, ∀ value,
      validMarkerWAL value quietMarker.lsn quietSource = true ↔ value = name := by
  have known : validBoundarySource (fun _ => some ⟨1, 0, by decide, by decide⟩) quietSource =
    true := by decide +kernel
  obtain ⟨-, -, log, number, -, -, -, -, -, -, -, only⟩ :=
    validMarkerWAL_iff _ quietSource quietMarker.lsn known (by decide +kernel)
  exact ⟨known, walFileName 1 log number, only⟩

end CloudRing.CnpgRecovery
