import Mathlib.Algebra.Group.Int.Defs
import Mathlib.Order.Lattice

/-!
# Instants and durations

An instant is a number of nanoseconds since the epoch, a duration a number of nanoseconds that fits
64 bits.
-/

namespace CloudRing.Library.Instant

def millisecond : Int := 1000000

def second : Int := 1000 * millisecond

def minute : Int := 60 * second

def hour : Int := 60 * minute

/-- The zero `time.Time`, the beginning of the year 1. -/
def zero : Int := -62135596800 * second

def minDuration : Int := -2 ^ 63

def maxDuration : Int := 2 ^ 63 - 1

def sub (later earlier : Int) : Int := max minDuration (min maxDuration (later - earlier))

end CloudRing.Library.Instant
