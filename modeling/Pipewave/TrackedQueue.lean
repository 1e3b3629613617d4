/-
First-in first-out queues with a record of what has left them.  An entry that
leaves is recorded with who took it, so the queue remembers the order of all
its entries and every taker's share of them.
-/
import Mathlib.Data.List.Basic

namespace Pipewave

universe u v

/-- `gone` is in the order in which the entries left. -/
structure TrackedQueue (α : Type u) (τ : Type v) where
  waiting : List α := []
  gone : List (α × τ) := []
deriving Repr, DecidableEq

namespace TrackedQueue

variable {α : Type u} {τ : Type v}

def push (q : TrackedQueue α τ) (entry : α) : TrackedQueue α τ :=
  { q with waiting := q.waiting ++ [entry] }

/-- Up to `n` entries leave at the front. -/
def take (q : TrackedQueue α τ) (n : Nat) (taker : τ) : TrackedQueue α τ where
  waiting := q.waiting.drop n
  gone := q.gone ++ (q.waiting.take n).map fun entry => (entry, taker)

/-- Everything that was ever pushed, in order. -/
def history (q : TrackedQueue α τ) : List α :=
  q.gone.map Prod.fst ++ q.waiting

def takenBy [DecidableEq τ] (q : TrackedQueue α τ) (taker : τ) : List α :=
  (q.gone.filter fun entry => entry.2 = taker).map Prod.fst

variable (q : TrackedQueue α τ)

@[simp] theorem push_waiting (entry : α) :
    (q.push entry).waiting = q.waiting ++ [entry] := rfl

@[simp] theorem push_gone (entry : α) : (q.push entry).gone = q.gone := rfl

@[simp] theorem take_waiting (n : Nat) (taker : τ) :
    (q.take n taker).waiting = q.waiting.drop n := rfl

@[simp] theorem history_push (entry : α) :
    (q.push entry).history = q.history ++ [entry] :=
  (List.append_assoc _ _ _).symm

/-- Who takes what changes nothing about the order of the pushes. -/
@[simp] theorem history_take (n : Nat) (taker : τ) :
    (q.take n taker).history = q.history := by
  have hback : List.map (Prod.fst ∘ fun entry => (entry, taker))
      (q.waiting.take n) = q.waiting.take n := List.map_id _
  rw [history, history, take, List.map_append, List.map_map, hback,
    List.append_assoc, List.take_append_drop]

variable [DecidableEq τ]

@[simp] theorem takenBy_push (entry : α) (taker : τ) :
    (q.push entry).takenBy taker = q.takenBy taker := rfl

@[simp] theorem takenBy_take_self (n : Nat) (taker : τ) :
    (q.take n taker).takenBy taker =
      q.takenBy taker ++ q.waiting.take n := by
  have hall : ((q.waiting.take n).map fun entry => (entry, taker)).filter
      (fun entry => entry.2 = taker) =
        (q.waiting.take n).map fun entry => (entry, taker) := by
    apply List.filter_eq_self.mpr
    intro entry hentry
    obtain ⟨_, _, rfl⟩ := List.mem_map.mp hentry
    exact decide_eq_true rfl
  have hback : List.map (Prod.fst ∘ fun entry => (entry, taker))
      (q.waiting.take n) = q.waiting.take n := List.map_id _
  rw [takenBy, takenBy, take, List.filter_append, List.map_append, hall,
    List.map_map, hback]

theorem takenBy_take_of_ne {taker other : τ} (hne : other ≠ taker) (n : Nat) :
    (q.take n other).takenBy taker = q.takenBy taker := by
  have hnone : ((q.waiting.take n).map fun entry => (entry, other)).filter
      (fun entry => entry.2 = taker) = [] := by
    apply List.filter_eq_nil_iff.mpr
    intro entry hentry
    obtain ⟨_, _, rfl⟩ := List.mem_map.mp hentry
    exact fun h => hne (of_decide_eq_true h)
  rw [takenBy, takenBy, take, List.filter_append, hnone, List.append_nil]

theorem takenBy_sublist (taker : τ) :
    (q.takenBy taker).Sublist q.history :=
  ((List.filter_sublist.map Prod.fst).trans
    (List.sublist_append_left _ _))

end TrackedQueue

end Pipewave
