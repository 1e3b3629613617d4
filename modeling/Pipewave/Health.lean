/-
The container's health flag and its writers: the pool's monitor, which follows
the length of the queue across two thresholds, and the module's `Shutdown`.
Both read the flag before they write it, and the two accesses are separate
steps.
-/
import Pipewave.Transition
import Pipewave.WorkerPool

namespace Pipewave

namespace Health

open Transition

/-- The configured thresholds, as `validate` lets them through. -/
structure Thresholds where
  lower : Nat
  upper : Nat
  lower_lt_upper : lower < upper

/-- Where the monitor is.  A tick reads the queue's length once. -/
inductive Monitor where
  | waiting
  /-- Before the check of the upper threshold. -/
  | upper (queueLen : Nat)
  /-- `SetUnhealthy` has seen a healthy container. -/
  | clearing (queueLen : Nat)
  /-- Before the check of the lower threshold. -/
  | lower (queueLen : Nat)
  /-- `SetHealthy` has seen an unhealthy container. -/
  | setting (queueLen : Nat)
  | stopped
deriving Repr, DecidableEq

/-- Where `Shutdown` is: not called, between the two accesses of its
`SetUnhealthy`, or behind them, where it runs the cleanup tasks. -/
inductive Shutdown where
  | notCalled
  | clearing
  | cleanup
deriving Repr, DecidableEq

structure State where
  pool : WorkerPool Unit
  isHealthy : Bool := false
  wasAboveUpper : Bool := false
  wasBelowLower : Bool := false
  monitor : Monitor := .waiting
  shutdown : Shutdown := .notCalled
deriving Repr, DecidableEq

inductive Label where
  | submit (accepted : Bool)
  | take
  | finish
  /-- The ticker wakes the monitor. -/
  | tick
  /-- The monitor's next access of the flag. -/
  | monitor
  /-- `Shutdown` reads the flag. -/
  | shutdown
  /-- `Shutdown` writes the flag it found set. -/
  | setUnhealthy
  /-- The late cleanup task `Close`. -/
  | closePool
  /-- The monitor sees that the pool is closed. -/
  | stopMonitor
deriving Repr, DecidableEq

/-- The body of a tick up to the next access of the flag. -/
def monitorStep (thresholds : Thresholds) (state : State) : Option State :=
  match state.monitor with
  | .waiting | .stopped => none
  | .upper queueLen =>
    let isAboveUpper := decide (thresholds.upper < queueLen)
    if isAboveUpper && !state.wasAboveUpper && state.isHealthy then
      some { state with monitor := .clearing queueLen }
    else some { state with
      wasAboveUpper := isAboveUpper, monitor := .lower queueLen }
  | .clearing queueLen => some { state with
      isHealthy := false, wasAboveUpper := true, monitor := .lower queueLen }
  | .lower queueLen =>
    let isBelowLower := decide (queueLen < thresholds.lower)
    if isBelowLower && !state.wasBelowLower && !state.isHealthy then
      some { state with monitor := .setting queueLen }
    else some { state with
      wasBelowLower := isBelowLower, monitor := .waiting }
  | .setting _ => some { state with
      isHealthy := true, wasBelowLower := true, monitor := .waiting }

def step (thresholds : Thresholds) (state : State) : Label → Option State
  | .submit accepted =>
    (state.pool.submit () accepted).map fun pool => { state with pool }
  | .take => state.pool.take.map fun taken => { state with pool := taken.2 }
  | .finish => (state.pool.finish ()).map fun pool => { state with pool }
  | .tick =>
    if state.monitor = .waiting then
      some { state with monitor := .upper state.pool.queue.length }
    else none
  | .monitor => monitorStep thresholds state
  | .shutdown =>
    if state.shutdown = .notCalled then
      some { state with
        shutdown := if state.isHealthy then .clearing else .cleanup }
    else none
  | .setUnhealthy =>
    if state.shutdown = .clearing then
      some { state with isHealthy := false, shutdown := .cleanup }
    else none
  | .closePool =>
    if state.shutdown = .cleanup then
      some { state with pool := { state.pool with closed := true } }
    else none
  | .stopMonitor =>
    if state.monitor = .waiting ∧ state.pool.closed = true then
      some { state with monitor := .stopped }
    else none

def start (workers buffer : Nat) : State where
  pool := { workers, buffer }

/-- `NewConnection`, whose first check is the flag. -/
def newConnection {α : Type} (state : State) (upgrade : Except String α) :
    Except String α :=
  if state.isHealthy then upgrade else .error "server is shutting down"

/-- Behind `Shutdown`'s call of `SetUnhealthy` the container is unhealthy and
turns every connection away. -/
def Down (state : State) : Prop :=
  state.shutdown = .cleanup → state.isHealthy = false ∧
    ∀ (α : Type) (upgrade : Except String α),
      newConnection state upgrade = .error "server is shutting down"

/-- The monitor is about to set the flag. -/
def Monitor.isSetting : Monitor → Bool
  | .setting _ => true
  | _ => false

/-- The check of the lower threshold finds the queue below it for the first
time since it was not. -/
def State.lowEdge (thresholds : Thresholds) (state : State) : Bool :=
  match state.monitor with
  | .lower queueLen =>
    decide (queueLen < thresholds.lower) && !state.wasBelowLower
  | _ => false

/-- `Shutdown` does not read the flag while the monitor is about to set it, and
from then on the queue does not come back below the lower threshold. -/
def Guard (thresholds : Thresholds) (state : State) : Label → Prop
  | .shutdown => state.monitor.isSetting = false
  | .monitor => state.shutdown ≠ .notCalled →
      state.lowEdge thresholds = false
  | _ => True

instance (thresholds : Thresholds) (state : State) :
    ∀ label, Decidable (Guard thresholds state label)
  | .shutdown => inferInstanceAs (Decidable (_ = _))
  | .monitor => inferInstanceAs (Decidable (_ → _))
  | .submit _ | .take | .finish | .tick | .setUnhealthy | .closePool
  | .stopMonitor => .isTrue trivial

/-- Once `Shutdown` has read the flag nobody is about to set it. -/
structure Inv (state : State) : Prop where
  notSetting : state.shutdown ≠ .notCalled → state.monitor.isSetting = false
  unhealthy : state.shutdown = .cleanup → state.isHealthy = false

section Steps

variable {thresholds : Thresholds} {state next : State}

theorem inv_monitorStep (hinv : Inv state)
    (hguard : state.shutdown ≠ .notCalled →
      state.lowEdge thresholds = false)
    (hstep : monitorStep thresholds state = some next) : Inv next := by
  unfold monitorStep at hstep
  split at hstep
  · cases hstep
  · cases hstep
  next queueLen hmonitor =>
    dsimp only at hstep
    split at hstep
    · cases hstep
      exact { hinv with notSetting := fun _ => rfl }
    · cases hstep
      exact { hinv with notSetting := fun _ => rfl }
  next queueLen hmonitor =>
    cases hstep
    exact ⟨fun _ => rfl, fun _ => rfl⟩
  next queueLen hmonitor =>
    dsimp only at hstep
    split at hstep
    next hset =>
      cases hstep
      refine ⟨fun hcalled => ?_, hinv.unhealthy⟩
      have hedge := hguard hcalled
      rw [State.lowEdge, hmonitor] at hedge
      simp [hedge] at hset
    · cases hstep
      exact { hinv with notSetting := fun _ => rfl }
  next queueLen hmonitor =>
    cases hstep
    refine ⟨fun _ => rfl, fun (hcleanup : state.shutdown = .cleanup) => ?_⟩
    have hsetting := hinv.notSetting (by simp [hcleanup])
    rw [hmonitor] at hsetting
    cases hsetting

theorem inv_step (label : Label) (hinv : Inv state)
    (hguard : Guard thresholds state label)
    (hstep : step thresholds state label = some next) : Inv next := by
  cases label with
  | submit accepted =>
    obtain ⟨pool, -, rfl⟩ := Option.map_eq_some_iff.mp hstep
    exact { hinv with }
  | take =>
    obtain ⟨taken, -, rfl⟩ := Option.map_eq_some_iff.mp hstep
    exact { hinv with }
  | finish =>
    obtain ⟨pool, -, rfl⟩ := Option.map_eq_some_iff.mp hstep
    exact { hinv with }
  | tick =>
    simp only [step] at hstep
    split at hstep
    · cases hstep
      exact { hinv with notSetting := fun _ => rfl }
    · cases hstep
  | monitor => exact inv_monitorStep hinv hguard hstep
  | shutdown =>
    simp only [step] at hstep
    split at hstep
    · cases hstep
      refine ⟨fun _ => hguard, fun hcleanup => ?_⟩
      dsimp only at hcleanup
      split at hcleanup
      · cases hcleanup
      next hunhealthy => exact eq_false_of_ne_true hunhealthy
    · cases hstep
  | setUnhealthy =>
    simp only [step] at hstep
    split at hstep
    next hclearing =>
      cases hstep
      exact ⟨fun _ => hinv.notSetting (by simp [hclearing]), fun _ => rfl⟩
    · cases hstep
  | closePool =>
    simp only [step] at hstep
    split at hstep
    · cases hstep
      exact { hinv with }
    · cases hstep
  | stopMonitor =>
    simp only [step] at hstep
    split at hstep
    · cases hstep
      exact { hinv with notSetting := fun _ => rfl }
    · cases hstep

theorem Inv.down (hinv : Inv state) : Down state := by
  intro hcleanup
  have hunhealthy := hinv.unhealthy hcleanup
  refine ⟨hunhealthy, fun α upgrade => ?_⟩
  rw [newConnection, hunhealthy]
  rfl

end Steps

/-- Unless the queue comes back below the lower threshold after `Shutdown` has
begun, the container stays unhealthy. -/
theorem down_of_guard {thresholds : Thresholds} {workers buffer : Nat}
    {state : State} (hreach : Reach (step thresholds)
      (Guard thresholds) (start workers buffer) state) : Down state :=
  (Reach.invariant Inv ⟨fun h => absurd rfl h, fun h => by cases h⟩
    (fun _ label _ hinv hguard hstep => inv_step label hinv hguard hstep)
    hreach).down

def oneAndTwo : Thresholds := ⟨1, 2, by decide⟩

/-- A whole tick that leaves the flag alone. -/
def quietTick : List Label := [.tick, .monitor, .monitor]

/-- The container becomes healthy, serves a task and shuts down while its queue
is empty. -/
def idleShutdown : List Label :=
  List.flatten [[.tick, .monitor, .monitor, .monitor, .submit true, .take,
    .finish, .shutdown, .setUnhealthy], quietTick]

theorem down_idleShutdown :
    let state := final (step oneAndTwo) (start 1 4) idleShutdown
    state.shutdown = .cleanup ∧ Down state :=
  ⟨by decide +kernel, down_of_guard
    (reach_final (by decide +kernel) (by decide +kernel))⟩

/-- A tick finds the queue at the lower threshold, the container shuts down, a
worker takes the task, and the next tick finds the queue below. -/
def busyShutdown : List Label :=
  List.flatten [[.tick, .monitor, .monitor, .monitor, .submit true], quietTick,
    [.shutdown, .setUnhealthy, .take, .tick, .monitor, .monitor, .monitor]]

theorem busyShutdown_healthy :
    let state := final (step oneAndTwo) (start 1 4) busyShutdown
    Reach (step oneAndTwo) Unguarded (start 1 4) state ∧
      state.shutdown = .cleanup ∧ state.isHealthy = true ∧ ¬ Down state := by
  have hhealthy : (final (step oneAndTwo) (start 1 4)
      busyShutdown).isHealthy = true := by decide +kernel
  have hcleanup : (final (step oneAndTwo) (start 1 4)
      busyShutdown).shutdown = .cleanup := by decide +kernel
  refine ⟨reach_final (by decide +kernel) (by decide +kernel),
    hcleanup, hhealthy, fun hdown => ?_⟩
  have hfalse := (hdown hcleanup).1
  rw [hhealthy] at hfalse
  cases hfalse

end Health

end Pipewave
