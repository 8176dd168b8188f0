import CloudRing.Library.Instant
import Mathlib.Algebra.Order.Ring.Int

/-!
# Points in time with fixed-width seconds

A `Time` holds 64-bit seconds since the year 1 and nanoseconds below one second.
-/

namespace CloudRing.Library

def Fits64 (value : Int) : Prop := -2 ^ 63 ≤ value ∧ value < 2 ^ 63

/-- A comparison of two numbers. -/
instance (value : Int) : Decidable (Fits64 value) :=
  inferInstanceAs (Decidable (-2 ^ 63 ≤ value ∧ value < 2 ^ 63))

/-- `time.Duration`: a number of nanoseconds. -/
abbrev Duration := { value : Int // Fits64 value }

def wrapped (value : Int) : Int := value.bmod (2 ^ 64)

theorem wrapped_fits (value : Int) : Fits64 (wrapped value) := by
  have lower := Int.le_bmod (x := value) (m := 2 ^ 64) (by decide)
  have upper := Int.bmod_lt (x := value) (m := 2 ^ 64) (by decide)
  simp only [Nat.reducePow, Nat.cast_ofNat] at lower upper
  refine ⟨?_, ?_⟩
  · exact le_trans (by decide) lower
  · exact lt_of_lt_of_le upper (by decide)

theorem wrapped_of_fits {value : Int} (fits : Fits64 value) : wrapped value = value := by
  obtain ⟨lower, upper⟩ := fits
  rw [wrapped, Int.bmod_eq_of_le] <;> omega

theorem wrapped_of_above {value : Int} (above : 2 ^ 63 ≤ value) (below : value < 2 ^ 63 + 2 ^ 64) :
    wrapped value = value - 2 ^ 64 := by
  rw [wrapped, ← Int.sub_bmod_right, Int.bmod_eq_of_le] <;> omega

/-- `time.Time` without a monotonic reading and a location. -/
structure Time where
  sec : Int
  nsec : Int
  sec_fits : Fits64 sec
  nsec_lt : 0 ≤ nsec ∧ nsec < Instant.second
  deriving DecidableEq

namespace Time

def unixToInternal : Int := 62135596800

def instant (time : Time) : Int := (time.sec - unixToInternal) * Instant.second + time.nsec

def isZero (time : Time) : Bool := time.sec = 0 && time.nsec = 0

def before (time other : Time) : Bool :=
  time.sec < other.sec || (time.sec = other.sec && time.nsec < other.nsec)

def after (time other : Time) : Bool := other.before time

/-- `time.Unix(seconds, 0)`. -/
def unix (seconds : Int) : Time where
  sec := wrapped (seconds + unixToInternal)
  nsec := 0
  sec_fits := wrapped_fits _
  nsec_lt := by decide

def saturated (seconds : Int) : Int :=
  if 2 ^ 63 ≤ seconds then 2 ^ 63 - 1
  else if seconds < -2 ^ 63 then -(2 ^ 63 - 1)
  else seconds

theorem saturated_fits (seconds : Int) : Fits64 (saturated seconds) := by
  unfold saturated Fits64
  split
  · omega
  · split <;> omega

def add (time : Time) (duration : Int) : Time where
  sec := saturated (time.sec + (time.nsec + duration) / Instant.second)
  nsec := (time.nsec + duration) % Instant.second
  sec_fits := saturated_fits _
  nsec_lt := ⟨Int.emod_nonneg _ (by decide), Int.emod_lt_of_pos _ (by decide)⟩

def sub (time other : Time) : Int := Instant.sub time.instant other.instant

/-! ## Exactness -/

theorem before_iff {time other : Time} :
    time.before other = true ↔ time.instant < other.instant := by
  have first := time.nsec_lt
  have second := other.nsec_lt
  simp only [before, instant, Bool.or_eq_true, Bool.and_eq_true, decide_eq_true_eq]
  simp only [Instant.second, Instant.millisecond] at first second ⊢
  omega

theorem before_eq_false_iff {time other : Time} :
    time.before other = false ↔ other.instant ≤ time.instant := by
  rw [← not_lt, ← before_iff, Bool.not_eq_true]

theorem unix_instant {seconds : Int} (lower : -2 ^ 63 ≤ seconds)
    (upper : seconds + unixToInternal < 2 ^ 63) :
    (unix seconds).instant = seconds * Instant.second := by
  have fits : Fits64 (seconds + unixToInternal) := by
    simp only [Fits64, unixToInternal] at upper ⊢
    omega
  simp only [instant, unix, wrapped_of_fits fits, add_sub_cancel_right, add_zero]

theorem unix_instant_wrapped {seconds : Int} (lower : 2 ^ 63 ≤ seconds + unixToInternal)
    (upper : seconds < 2 ^ 63) :
    (unix seconds).instant = (seconds - 2 ^ 64) * Instant.second := by
  have small : seconds + unixToInternal < 2 ^ 63 + 2 ^ 64 := by
    simp only [unixToInternal]
    omega
  simp only [instant, unix, wrapped_of_above lower small]
  simp only [Instant.second, Instant.millisecond]
  omega

def Reaches (time : Time) (duration : Int) : Prop :=
  Fits64 (time.sec + (time.nsec + duration) / Instant.second)

/-- The seconds of the sum fit. -/
instance (time : Time) (duration : Int) : Decidable (time.Reaches duration) :=
  inferInstanceAs (Decidable (Fits64 _))

theorem add_instant {time : Time} {duration : Int} (reaches : time.Reaches duration) :
    (time.add duration).instant = time.instant + duration := by
  obtain ⟨lower, upper⟩ := reaches
  have exact : saturated (time.sec + (time.nsec + duration) / Instant.second) =
      time.sec + (time.nsec + duration) / Instant.second := by
    unfold saturated
    rw [if_neg (by omega), if_neg (by omega)]
  have parts := Int.ediv_mul_add_emod (time.nsec + duration) Instant.second
  simp only [instant, add, exact]
  simp only [Instant.second, Instant.millisecond] at parts ⊢
  omega

theorem add_instant_le {time : Time} {duration : Int} (forward : 0 ≤ duration) :
    (time.add duration).instant ≤ time.instant + duration := by
  by_cases reaches : time.Reaches duration
  · exact (add_instant reaches).le
  · have parts := Int.ediv_mul_add_emod (time.nsec + duration) Instant.second
    have ahead : 0 ≤ (time.nsec + duration) / Instant.second :=
      Int.ediv_nonneg (add_nonneg time.nsec_lt.1 forward) (by decide)
    have lower := time.sec_fits.1
    have above : 2 ^ 63 ≤ time.sec + (time.nsec + duration) / Instant.second := by
      by_contra below
      exact reaches ⟨by omega, by omega⟩
    have top : saturated (time.sec + (time.nsec + duration) / Instant.second) = 2 ^ 63 - 1 :=
      if_pos above
    simp only [instant, add, top]
    simp only [Instant.second, Instant.millisecond] at parts above ⊢
    omega

end Time

theorem Instant.sub_eq_of_fits {later earlier : Int} (fits : Fits64 (later - earlier)) :
    Instant.sub later earlier = later - earlier := by
  obtain ⟨lower, upper⟩ := fits
  simp only [Instant.sub, Instant.minDuration, Instant.maxDuration]
  omega

end CloudRing.Library
