/-
Token buckets over integer time.  A bucket remembers its level at its last
use; between two uses it fills at a constant rate up to its capacity.
-/
import Mathlib.Tactic.Ring

namespace Pipewave

namespace TokenBucket

/-- The filling per tick, the highest level, and what one use takes. -/
structure Params where
  rate : Int
  capacity : Int
  cost : Int
deriving Repr, DecidableEq

structure Bucket where
  level : Int
  updated : Int
deriving Repr, DecidableEq

def full (p : Params) (now : Int) : Bucket := ⟨p.capacity, now⟩

def levelAt (p : Params) (b : Bucket) (now : Int) : Int :=
  min p.capacity (b.level + p.rate * (now - b.updated))

/-- A use, with whether the bucket holds enough for it. -/
def take (p : Params) (b : Bucket) (now : Int) : Bucket × Bool :=
  let level := levelAt p b now
  if p.cost ≤ level then (⟨level - p.cost, now⟩, true)
  else (⟨level, now⟩, false)

section Levels

variable {p : Params} {b : Bucket} {now : Int}

theorem levelAt_le_capacity (p : Params) (b : Bucket) (now : Int) :
    levelAt p b now ≤ p.capacity :=
  Int.min_le_left _ _

theorem levelAt_updated {level : Int} (hle : level ≤ p.capacity) :
    levelAt p ⟨level, now⟩ now = level := by
  simp only [levelAt, Int.sub_self, Int.mul_zero, Int.add_zero]
  exact Int.min_eq_right hle

theorem levelAt_full (p : Params) (now : Int) :
    levelAt p (full p now) now = p.capacity :=
  levelAt_updated (Int.le_refl _)

/-- The level later follows from the level now. -/
theorem levelAt_add (hrate : 0 ≤ p.rate) (b : Bucket) (now : Int)
    (elapsed : Nat) : levelAt p b (now + elapsed) =
      min p.capacity (levelAt p b now + p.rate * elapsed) := by
  have hfilled : 0 ≤ p.rate * elapsed :=
    Int.mul_nonneg hrate (Int.natCast_nonneg _)
  have hsplit : p.rate * (now + elapsed - b.updated) =
      p.rate * (now - b.updated) + p.rate * elapsed := by ring
  rw [levelAt, levelAt, hsplit]
  omega

/-- A bucket that has been left alone long enough is full. -/
theorem levelAt_of_idle (hrate : 0 ≤ p.rate) (hlevel : 0 ≤ b.level)
    {idle : Int} (hidle : idle ≤ now - b.updated)
    (hfull : p.capacity ≤ p.rate * idle) :
    levelAt p b now = p.capacity := by
  have hmono := Int.mul_le_mul_of_nonneg_left hidle hrate
  rw [levelAt]
  omega

theorem snd_take (p : Params) (b : Bucket) (now : Int) :
    (take p b now).2 = decide (p.cost ≤ levelAt p b now) := by
  simp only [take]
  split <;> simp [*]

theorem updated_take (p : Params) (b : Bucket) (now : Int) :
    (take p b now).1.updated = now := by
  simp only [take]
  split <;> rfl

/-- A use takes its cost, if it is granted. -/
theorem levelAt_take (hcost : 0 ≤ p.cost) (b : Bucket) (now : Int) :
    levelAt p (take p b now).1 now = levelAt p b now -
      if p.cost ≤ levelAt p b now then p.cost else 0 := by
  have hle := levelAt_le_capacity p b now
  simp only [take]
  split
  · exact levelAt_updated (by omega)
  · rw [Int.sub_zero]
    exact levelAt_updated hle

theorem level_take_nonneg (hrate : 0 ≤ p.rate) (hcapacity : 0 ≤ p.capacity)
    (hlevel : 0 ≤ b.level) (hupdated : b.updated ≤ now) :
    0 ≤ (take p b now).1.level := by
  have hfilled : 0 ≤ p.rate * (now - b.updated) :=
    Int.mul_nonneg hrate (Int.sub_nonneg_of_le hupdated)
  have hnonneg : 0 ≤ levelAt p b now := by
    rw [levelAt]
    omega
  simp only [take]
  split
  · exact Int.sub_nonneg_of_le ‹_›
  · exact hnonneg

end Levels

end TokenBucket

end Pipewave
