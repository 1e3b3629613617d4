/-
The health flag under queue pressure.  The thresholds come out of the
configuration's defaults and checks; a tick of the monitor takes one sample of
the queue's length and follows its edges across them.
-/
import Mathlib.Tactic.SplitIfs
import Pipewave.GoTime
import Pipewave.Health
import Pipewave.History

namespace Pipewave

namespace QueuePressure

open Transition
open GoTime (wrap64)

structure WorkerPoolT where
  workers : Int := 0
  buffer : Int := 0
  upperThreshold : Int := 0
  lowerThreshold : Int := 0
deriving Repr, DecidableEq

namespace WorkerPoolT

/-- An error is a panic with its text. -/
def validate (w : WorkerPoolT) : Except String Unit :=
  if w.workers < 0 then
    .error "worker pool workers must be greater than or equal to 0"
  else if w.buffer ≤ 0 then
    .error "worker pool buffer must be greater than 0"
  else if w.upperThreshold ≤ 0 then
    .error "worker pool upper threshold must be greater than 0"
  else if w.lowerThreshold < 0 then
    .error "worker pool lower threshold must be greater than or equal to 0"
  else if w.upperThreshold ≤ w.lowerThreshold then
    .error "worker pool upper threshold must be greater than lower threshold"
  else .ok ()

/-- The last line restores the gap that small ratios have closed. -/
def loadDefault (w : WorkerPoolT) : WorkerPoolT :=
  let buffer := if w.buffer = 0 then 4096 else w.buffer
  let upper := if w.upperThreshold = 0 then
    max 1 ((wrap64 (buffer * 3)).tdiv 4) else w.upperThreshold
  let lower := if w.lowerThreshold = 0 then buffer.tdiv 4
    else w.lowerThreshold
  { w with
    buffer
    upperThreshold := upper
    lowerThreshold := if upper ≤ lower then upper - 1 else lower }

end WorkerPoolT

/-- The flag and the monitor's two memories. -/
structure Watch where
  isHealthy : Bool := true
  wasAboveUpper : Bool := false
  wasBelowLower : Bool := false
deriving Repr, DecidableEq

/-- The check of the upper threshold, whose action is `SetUnhealthy`. -/
def checkUpper (upper : Int) (s : Watch) (queueLen : Nat) : Watch :=
  let isAboveUpper := decide (upper < queueLen)
  { s with
    isHealthy := if isAboveUpper && !s.wasAboveUpper then false
      else s.isHealthy
    wasAboveUpper := isAboveUpper }

/-- The check of the lower threshold, whose action is `SetHealthy`. -/
def checkLower (lower : Int) (s : Watch) (queueLen : Nat) : Watch :=
  let isBelowLower := decide (queueLen < lower)
  { s with
    isHealthy := if isBelowLower && !s.wasBelowLower then true
      else s.isHealthy
    wasBelowLower := isBelowLower }

/-- One tick of `monitorQueue`. -/
def tick (upper lower : Int) (s : Watch) (queueLen : Nat) : Watch :=
  checkLower lower (checkUpper upper s queueLen) queueLen

/-- The state behind a sequence of samples, the newest first. -/
def watch (w : WorkerPoolT) : List Nat → Watch
  | [] => {}
  | queueLen :: earlier =>
    tick w.upperThreshold w.lowerThreshold (watch w earlier) queueLen

/-! ### The monitor of the health machine -/

/-- What the machine with separate accesses of the flag keeps for a tick. -/
def watchOf (state : Health.State) : Watch where
  isHealthy := state.isHealthy
  wasAboveUpper := state.wasAboveUpper
  wasBelowLower := state.wasBelowLower

/-- A step of the monitor itself. -/
def Own (_ : Health.State) (label : Health.Label) : Prop :=
  label = .tick ∨ label = .monitor

section Machine

variable {thresholds : Health.Thresholds} {start state : Health.State}
  {queueLen : Nat}

theorem reach_checkUpper
    (hreach : Reach (Health.step thresholds) Own start state)
    (hat : state.monitor = .upper queueLen) :
    ∃ next, Reach (Health.step thresholds) Own start next ∧
      next.monitor = .lower queueLen ∧
      watchOf next = checkUpper thresholds.upper (watchOf state) queueLen := by
  by_cases hset : (decide (thresholds.upper < queueLen) &&
      !state.wasAboveUpper && state.isHealthy) = true
  · have hfirst : Health.step thresholds state .monitor =
        some { state with monitor := .clearing queueLen } := by
      simp only [Health.step, Health.monitorStep, hat, hset, if_true]
    refine ⟨_, (hreach.tail (.inr rfl) hfirst).tail (.inr rfl) rfl, rfl, ?_⟩
    simp only [Bool.and_eq_true, decide_eq_true_eq, Bool.not_eq_true'] at hset
    simp [watchOf, checkUpper, hset]
  · have hfirst : Health.step thresholds state .monitor = some { state with
        wasAboveUpper := decide (thresholds.upper < queueLen)
        monitor := .lower queueLen } := by
      rw [Bool.not_eq_true] at hset
      simp only [Health.step, Health.monitorStep, hat, hset,
        Bool.false_eq_true, if_false]
    refine ⟨_, hreach.tail (.inr rfl) hfirst, rfl, ?_⟩
    simp only [watchOf, checkUpper, Int.ofNat_lt]
    split
    next hedge =>
      rw [hedge, Bool.true_and, Bool.not_eq_true] at hset
      rw [hset]
    · rfl

theorem reach_checkLower
    (hreach : Reach (Health.step thresholds) Own start state)
    (hat : state.monitor = .lower queueLen) :
    ∃ next, Reach (Health.step thresholds) Own start next ∧
      next.monitor = .waiting ∧
      watchOf next = checkLower thresholds.lower (watchOf state) queueLen := by
  by_cases hset : (decide (queueLen < thresholds.lower) &&
      !state.wasBelowLower && !state.isHealthy) = true
  · have hfirst : Health.step thresholds state .monitor =
        some { state with monitor := .setting queueLen } := by
      simp only [Health.step, Health.monitorStep, hat, hset, if_true]
    refine ⟨_, (hreach.tail (.inr rfl) hfirst).tail (.inr rfl) rfl, rfl, ?_⟩
    simp only [Bool.and_eq_true, decide_eq_true_eq, Bool.not_eq_true'] at hset
    simp [watchOf, checkLower, hset]
  · have hfirst : Health.step thresholds state .monitor = some { state with
        wasBelowLower := decide (queueLen < thresholds.lower)
        monitor := .waiting } := by
      rw [Bool.not_eq_true] at hset
      simp only [Health.step, Health.monitorStep, hat, hset,
        Bool.false_eq_true, if_false]
    refine ⟨_, hreach.tail (.inr rfl) hfirst, rfl, ?_⟩
    simp only [watchOf, checkLower, Int.ofNat_lt]
    split
    next hedge =>
      rw [hedge, Bool.true_and, Bool.not_eq_true, Bool.not_eq_false'] at hset
      rw [hset]
    · rfl

/-- Without another writer between its accesses, a tick of the health machine
is one `tick` with its sample. -/
theorem reach_tick (hwaiting : state.monitor = .waiting) :
    ∃ next, Reach (Health.step thresholds) Own state next ∧
      next.monitor = .waiting ∧
      watchOf next = tick thresholds.upper thresholds.lower (watchOf state)
        state.pool.queue.length := by
  have htick : Health.step thresholds state .tick =
      some { state with monitor := .upper state.pool.queue.length } := by
    rw [Health.step, if_pos hwaiting]
  obtain ⟨middle, hmiddle, hlower, hupper⟩ := reach_checkUpper
    (Reach.refl.tail (.inl rfl) htick) rfl
  obtain ⟨next, hnext, hdone, hwatch⟩ := reach_checkLower hmiddle hlower
  refine ⟨next, hnext, hdone, ?_⟩
  rw [hwatch, hupper]
  rfl

end Machine

/-! ### Samples and the flag -/

/-- Some sample was above the upper threshold and none since was below the
lower one. -/
def Pressed (w : WorkerPoolT) (samples : List Nat) : Prop :=
  ∃ (later : List Nat) (queueLen : Nat) (earlier : List Nat),
    samples = later ++ queueLen :: earlier ∧
    w.upperThreshold < queueLen ∧ ∀ q ∈ later, w.lowerThreshold ≤ (q : Int)

/-- The flag follows the pressure on the queue, and an empty queue is
healthy; no sample exceeds the queue's capacity. -/
def Recovers (w : WorkerPoolT) : Prop :=
  ∀ samples : List Nat, (∀ q ∈ samples, (q : Int) ≤ w.buffer) →
    ((watch w samples).isHealthy = false ↔ Pressed w samples) ∧
    ∀ earlier, samples = 0 :: earlier → (watch w samples).isHealthy = true

/-- The configurations from which a lower threshold of zero is made while the
queue can exceed the upper one.  The upper one is made one of a buffer of two
and of one whose triple wraps around to less than eight. -/
def Unreachable (w : WorkerPoolT) : Prop :=
  (w.upperThreshold = 1 ∧ w.buffer ≠ 1) ∨
  (w.upperThreshold = 0 ∧ 2 ≤ w.buffer ∧ wrap64 (w.buffer * 3) < 8) ∨
  ((w.upperThreshold = 0 ∨ w.upperThreshold = 2) ∧ w.buffer = 3 ∧
    w.lowerThreshold = 0)

instance (w : WorkerPoolT) : Decidable (Unreachable w) :=
  inferInstanceAs (Decidable (_ ∨ _))

variable {w : WorkerPoolT}

theorem pressed_cons {queueLen : Nat} {earlier : List Nat} :
    Pressed w (queueLen :: earlier) ↔ w.upperThreshold < queueLen ∨
      w.lowerThreshold ≤ (queueLen : Int) ∧ Pressed w earlier := by
  constructor
  · rintro ⟨later, q, before, hsplit, habove, hsince⟩
    obtain ⟨-, rfl, -⟩ | ⟨rest, rfl, hrest⟩ := History.cons_split hsplit
    · exact .inl habove
    · refine .inr ⟨hsince queueLen List.mem_cons_self, ?_⟩
      exact ⟨rest, q, before, hrest, habove, fun p hp =>
        hsince p (List.mem_cons_of_mem queueLen hp)⟩
  · rintro (habove | ⟨hnot, later, q, before, rfl, habove, hsince⟩)
    · exact ⟨[], queueLen, earlier, rfl, habove, fun _ h => by cases h⟩
    · refine ⟨queueLen :: later, q, before, rfl, habove, fun p hp => ?_⟩
      obtain rfl | hp := List.mem_cons.mp hp
      · exact hnot
      · exact hsince p hp

theorem not_pressed_nil : ¬ Pressed w [] := by
  rintro ⟨later, q, before, hsplit, -⟩
  cases later <;> cases hsplit

/-- The flag and the two memories, read off the samples. -/
structure Follows (w : WorkerPoolT) (s : Watch) (samples : List Nat) : Prop
    where
  flag : s.isHealthy = false ↔ Pressed w samples
  above : s.wasAboveUpper = true → Pressed w samples
  below : s.wasBelowLower = true → ¬ Pressed w samples

theorem Follows.tick {s : Watch} {samples : List Nat}
    (hapart : w.lowerThreshold < w.upperThreshold)
    (hfollows : Follows w s samples) (queueLen : Nat) :
    Follows w (tick w.upperThreshold w.lowerThreshold s queueLen)
      (queueLen :: samples) := by
  by_cases habove : w.upperThreshold < (queueLen : Int)
  · -- A queue above the upper threshold is not below the lower one.
    have hnot : ¬ (queueLen : Int) < w.lowerThreshold := by omega
    have hpressed : Pressed w (queueLen :: samples) :=
      pressed_cons.mpr (.inl habove)
    refine ⟨iff_of_true ?_ hpressed, fun _ => hpressed, fun h => ?_⟩
    · cases hwas : s.wasAboveUpper with
      | true =>
        have hflag := hfollows.flag.mpr (hfollows.above hwas)
        simp [QueuePressure.tick, checkUpper, checkLower, hnot, hwas, hflag]
      | false =>
        simp [QueuePressure.tick, checkUpper, checkLower, hnot, hwas, habove]
    · simp [QueuePressure.tick, checkLower, hnot] at h
  · by_cases hbelow : (queueLen : Int) < w.lowerThreshold
    · have hpressed : ¬ Pressed w (queueLen :: samples) := by
        rw [pressed_cons]
        rintro (h | ⟨h, -⟩) <;> omega
      refine ⟨iff_of_false ?_ hpressed, fun h => ?_, fun _ => hpressed⟩
      · cases hwas : s.wasBelowLower with
        | true =>
          have hflag := mt hfollows.flag.mp (hfollows.below hwas)
          simp [QueuePressure.tick, checkUpper, checkLower, habove, hwas,
            hflag]
        | false =>
          simp [QueuePressure.tick, checkUpper, checkLower, hbelow, hwas]
      · simp [QueuePressure.tick, checkUpper, checkLower, habove] at h
    · have hpressed : Pressed w (queueLen :: samples) ↔ Pressed w samples := by
        rw [pressed_cons]
        constructor
        · rintro (h | ⟨-, h⟩)
          · exact absurd h habove
          · exact h
        · exact fun h => .inr ⟨Int.not_lt.mp hbelow, h⟩
      refine ⟨?_, fun h => ?_, fun h => ?_⟩
      · rw [hpressed, ← hfollows.flag]
        simp [QueuePressure.tick, checkUpper, checkLower, habove, hbelow]
      · simp [QueuePressure.tick, checkUpper, checkLower, habove] at h
      · simp [QueuePressure.tick, checkLower, hbelow] at h

theorem follows_watch (hapart : w.lowerThreshold < w.upperThreshold)
    (samples : List Nat) :
    Follows w (watch w samples) samples := by
  induction samples with
  | nil => exact ⟨iff_of_false (by simp [watch]) not_pressed_nil,
      fun h => (by cases h), fun h => (by cases h)⟩
  | cons queueLen earlier ih => exact ih.tick hapart queueLen

/-! ### The thresholds -/

theorem validate_eq_ok (hvalid : w.validate = .ok ()) :
    0 < w.buffer ∧ 0 < w.upperThreshold ∧ 0 ≤ w.lowerThreshold ∧
      w.lowerThreshold < w.upperThreshold := by
  unfold WorkerPoolT.validate at hvalid
  split_ifs at hvalid
  omega

/-- With checked thresholds the flag recovers unless the lower one is zero and
the queue can exceed the upper one. -/
theorem recovers_iff (hvalid : w.validate = .ok ()) :
    Recovers w ↔ 0 < w.lowerThreshold ∨ w.buffer ≤ w.upperThreshold := by
  obtain ⟨hbuffer, hupper, hlower, hapart⟩ := validate_eq_ok hvalid
  constructor
  · intro hrecovers
    by_contra hstuck
    have hzero : w.lowerThreshold = 0 := by omega
    -- A full queue, then an empty one.
    have hsamples : ∀ q ∈ [0, w.buffer.toNat], (q : Int) ≤ w.buffer := by
      intro q hq
      simp only [List.mem_cons, List.not_mem_nil, or_false] at hq
      omega
    obtain ⟨hflag, hempty⟩ := hrecovers [0, w.buffer.toNat] hsamples
    have hpressed : Pressed w [0, w.buffer.toNat] := by
      refine ⟨[0], w.buffer.toNat, [], rfl, by omega, fun q hq => ?_⟩
      rw [hzero]
      exact Int.natCast_nonneg q
    have hhealthy := hempty [w.buffer.toNat] rfl
    rw [hflag.mpr hpressed] at hhealthy
    cases hhealthy
  · intro hcondition samples hsamples
    have hfollows := follows_watch hapart samples
    refine ⟨hfollows.flag, ?_⟩
    rintro earlier rfl
    by_contra hunhealthy
    have hpressed := hfollows.flag.mp (eq_false_of_ne_true hunhealthy)
    rw [pressed_cons] at hpressed
    obtain habove | ⟨hnot, hpressed⟩ := hpressed
    · omega
    · obtain ⟨later, q, before, rfl, habove, -⟩ := hpressed
      have hle := hsamples q (by simp)
      omega

/-- The default of the upper threshold for a buffer that is set: more than
one unless the triple is less than eight, and no more than a small buffer. -/
theorem upper_of_buffer {buffer : Int} (hpos : 0 < buffer) :
    let upper := max 1 ((wrap64 (buffer * 3)).tdiv 4)
    (2 ≤ upper ↔ 8 ≤ wrap64 (buffer * 3)) ∧ 1 ≤ upper ∧
      (buffer ≤ 4096 → wrap64 (buffer * 3) = buffer * 3 ∧
        upper = max 1 (buffer * 3 / 4)) := by
  intro upper
  have hquarter : 2 ≤ (wrap64 (buffer * 3)).tdiv 4 ↔
      8 ≤ wrap64 (buffer * 3) := by
    have hsign : Int.sign 4 = 1 := rfl
    rw [Int.tdiv_eq_ediv, hsign]
    split <;> omega
  refine ⟨by omega, by omega, fun hsmall => ?_⟩
  have hwrap : wrap64 (buffer * 3) = buffer * 3 := by
    apply GoTime.wrap64_eq_self
    · rw [GoTime.minDuration]
      omega
    · rw [GoTime.maxDuration]
      omega
  refine ⟨hwrap, ?_⟩
  simp only [upper]
  rw [hwrap, Int.tdiv_eq_ediv_of_nonneg (by omega)]

/-- Which configurations end up there. -/
theorem reachable_loadDefault_iff (hvalid : w.loadDefault.validate = .ok ()) :
    (0 < w.loadDefault.lowerThreshold ∨
      w.loadDefault.buffer ≤ w.loadDefault.upperThreshold) ↔
      ¬ Unreachable w := by
  obtain ⟨hbuffer, hupper, hlower, hapart⟩ := validate_eq_ok hvalid
  simp only [WorkerPoolT.loadDefault] at hbuffer hupper hlower hapart ⊢
  generalize hb : (if w.buffer = 0 then 4096 else w.buffer) = buffer at *
  obtain ⟨htwo, hone, hsmall⟩ := upper_of_buffer hbuffer
  have hquarter : buffer.tdiv 4 = buffer / 4 :=
    Int.tdiv_eq_ediv_of_nonneg (by omega)
  rw [hquarter] at *
  generalize hmax : max 1 ((wrap64 (buffer * 3)).tdiv 4) = upper at *
  unfold Unreachable
  by_cases hzero : w.buffer = 0
  · rw [if_pos hzero] at hb
    subst hb
    split_ifs at * <;> omega
  · rw [if_neg hzero] at hb
    subst hb
    split_ifs at * <;> omega

/-- The health of a pool with an accepted configuration recovers exactly when
the lower threshold can be undercut or the upper one is out of reach. -/
theorem recovers_loadDefault_iff (w : WorkerPoolT)
    (hvalid : w.loadDefault.validate = .ok ()) :
    Recovers w.loadDefault ↔ ¬ Unreachable w := by
  rw [recovers_iff hvalid, reachable_loadDefault_iff hvalid]

theorem recovers_defaults : Recovers (WorkerPoolT.loadDefault {}) :=
  (recovers_loadDefault_iff {} (by decide)).mpr (by decide)

/-- A buffer of two tasks: the thresholds become one and zero. -/
def tinyBuffer : WorkerPoolT := { buffer := 2 }

theorem tinyBuffer_stays_unhealthy :
    tinyBuffer.loadDefault.validate = .ok () ∧
      (watch tinyBuffer.loadDefault [0, 2]).isHealthy = false ∧
      ¬ Recovers tinyBuffer.loadDefault := by
  refine ⟨by decide, by decide, fun hrecovers => ?_⟩
  have hhealthy := (hrecovers [0, 2] (by decide)).2 [2] rfl
  revert hhealthy
  decide

end QueuePressure

end Pipewave
