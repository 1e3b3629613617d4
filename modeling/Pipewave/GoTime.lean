/-
Go's times and durations.  A time counts the nanoseconds since 1970 and a
duration is a 64-bit number of them: differences of times saturate, and sums
and products wrap around.
-/
import Mathlib.Algebra.Group.Nat.Defs
import Mathlib.Algebra.Ring.Int.Defs

namespace Pipewave

namespace GoTime

/-- The value of a signed 64-bit result. -/
def wrap64 (x : Int) : Int := x.bmod (2 ^ 64)

def minDuration : Int := -9223372036854775808
def maxDuration : Int := 9223372036854775807

/-- Seconds from the year 1 to 1970. -/
def unixToInternal : Int := 62135596800

/-- The zero value of `time.Time`, which is the start of the year 1. -/
def zeroTime : Int := -(unixToInternal * 10 ^ 9)

/-- `time.Unix(sec, 0)`.  The seconds are kept since the year 1. -/
def unix (sec : Int) : Int :=
  (wrap64 (sec + unixToInternal) - unixToInternal) * 10 ^ 9

def unixMilli (t : Int) : Int := t / 10 ^ 6

/-- `Time.Sub`, which saturates. -/
def sub (t u : Int) : Int := max minDuration (min maxDuration (t - u))

theorem wrap64_eq_self {x : Int} (hlow : minDuration ≤ x)
    (hhigh : x ≤ maxDuration) : wrap64 x = x := by
  rw [minDuration] at hlow
  rw [maxDuration] at hhigh
  rw [wrap64]
  apply Int.bmod_eq_of_le <;> omega

theorem unix_eq {sec : Int} (hlow : minDuration ≤ sec)
    (hhigh : sec + unixToInternal ≤ maxDuration) :
    unix sec = sec * 10 ^ 9 := by
  have hinternal : minDuration ≤ sec + unixToInternal := by
    rw [unixToInternal]
    omega
  rw [unix, wrap64_eq_self hinternal hhigh, Int.add_sub_cancel]

section Sub

variable {t u d : Int}

theorem le_sub (hmax : d ≤ maxDuration) (hle : d ≤ t - u) : d ≤ sub t u := by
  rw [sub]
  omega

theorem le_sub_iff (hpos : 0 < d) (hmax : d ≤ maxDuration) :
    d ≤ sub t u ↔ d ≤ t - u := by
  rw [sub, minDuration]
  omega

theorem sub_le_iff (hmin : minDuration ≤ d) (hmax : d < maxDuration) :
    sub t u ≤ d ↔ t - u ≤ d := by
  rw [sub]
  omega

end Sub

end GoTime

end Pipewave
