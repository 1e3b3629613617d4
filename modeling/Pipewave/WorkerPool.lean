/-
The worker pool: a bounded queue of tasks, a fixed number of workers, and a
monitor that compares the queue's length with two thresholds on every tick.
-/
import Mathlib.Data.List.Basic

namespace Pipewave

universe u

/-- `queue` holds the tasks no worker has taken, `running` those that occupy a
worker. -/
structure WorkerPool (τ : Type u) where
  workers : Nat
  buffer : Nat
  queue : List τ := []
  running : List τ := []
  closed : Bool := false
deriving Repr, DecidableEq

namespace WorkerPool

variable {τ : Type u}

/-- `Submit` with its outcome.  The channel takes a task while it has room or a
worker waits at its other end; it may refuse one once its buffer is full, since
a free worker need not have come back to the channel yet. -/
def submit (pool : WorkerPool τ) (task : τ) (accepted : Bool) :
    Option (WorkerPool τ) :=
  if accepted then
    if pool.closed = false ∧
        pool.queue.length + pool.running.length < pool.buffer + pool.workers then
      some { pool with queue := pool.queue ++ [task] }
    else none
  else if pool.closed = true ∨ pool.buffer ≤ pool.queue.length then some pool
  else none

/-- A free worker takes the oldest task. -/
def take (pool : WorkerPool τ) : Option (τ × WorkerPool τ) :=
  match pool.queue with
  | [] => none
  | task :: rest =>
    if pool.running.length < pool.workers then
      some (task, { pool with
        queue := rest, running := task :: pool.running })
    else none

/-- A running task returns. -/
def finish [DecidableEq τ] (pool : WorkerPool τ) (task : τ) :
    Option (WorkerPool τ) :=
  if task ∈ pool.running then
    some { pool with running := pool.running.erase task }
  else none

/-- Every task the pool knows of. -/
def tasks (pool : WorkerPool τ) : List τ := pool.queue ++ pool.running

section Lemmas

variable {pool next : WorkerPool τ} {task : τ}

theorem submit_true (hsubmit : pool.submit task true = some next) :
    next = { pool with queue := pool.queue ++ [task] } := by
  simp only [submit, if_true] at hsubmit
  split at hsubmit
  · exact (Option.some.inj hsubmit).symm
  · cases hsubmit

theorem submit_false (hsubmit : pool.submit task false = some next) :
    next = pool := by
  simp only [submit, Bool.false_eq_true, if_false] at hsubmit
  split at hsubmit
  · exact (Option.some.inj hsubmit).symm
  · cases hsubmit

theorem take_eq_some (htake : pool.take = some (task, next)) :
    ∃ rest, pool.queue = task :: rest ∧
      next = { pool with queue := rest, running := task :: pool.running } := by
  unfold take at htake
  split at htake
  · cases htake
  next head rest hqueue =>
    split at htake
    · cases htake
      exact ⟨rest, hqueue, rfl⟩
    · cases htake

theorem take_of_lt {rest : List τ} (hqueue : pool.queue = task :: rest)
    (hfree : pool.running.length < pool.workers) :
    pool.take = some (task, { pool with
      queue := rest, running := task :: pool.running }) := by
  simp only [take, hqueue, if_pos hfree]

theorem finish_eq_some [DecidableEq τ]
    (hfinish : pool.finish task = some next) :
    task ∈ pool.running ∧
      next = { pool with running := pool.running.erase task } := by
  unfold finish at hfinish
  split at hfinish
  next hmem =>
    cases hfinish
    exact ⟨hmem, rfl⟩
  · cases hfinish

theorem countP_tasks_submit (p : τ → Bool)
    (hsubmit : pool.submit task true = some next) :
    next.tasks.countP p =
      pool.tasks.countP p + if p task then 1 else 0 := by
  rw [submit_true hsubmit]
  simp only [tasks, List.countP_append, List.countP_singleton]
  omega

theorem countP_tasks_take (p : τ → Bool)
    (htake : pool.take = some (task, next)) :
    next.tasks.countP p = pool.tasks.countP p := by
  obtain ⟨rest, hqueue, rfl⟩ := take_eq_some htake
  simp only [tasks, hqueue, List.countP_append, List.countP_cons]
  omega

theorem countP_tasks_finish [DecidableEq τ] (p : τ → Bool)
    (hfinish : pool.finish task = some next) :
    next.tasks.countP p ≤ pool.tasks.countP p := by
  obtain ⟨-, rfl⟩ := finish_eq_some hfinish
  simp only [tasks, List.countP_append]
  exact Nat.add_le_add_left (List.erase_sublist.countP_le) _

end Lemmas

end WorkerPool

end Pipewave
