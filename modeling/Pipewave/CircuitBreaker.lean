/-
The circuit breaker in front of the callback receiver, and the watcher that
reports a breaker which stays open.  A history of recorded outcomes is read as
the failures since its last success.
-/
import Mathlib.Data.List.Induction
import Pipewave.GoTime

namespace Pipewave

namespace Webhook

open GoTime (maxDuration zeroTime sub)

structure CircuitBreaker where
  threshold : Int
  cooldown : Int
  failures : Int := 0
  openedAt : Int := zeroTime
deriving Repr, DecidableEq

namespace CircuitBreaker

def allow (b : CircuitBreaker) (now : Int) : Bool :=
  if b.failures < b.threshold then true
  else decide (b.cooldown ≤ sub now b.openedAt)

def record (b : CircuitBreaker) (success : Bool) (now : Int) :
    CircuitBreaker :=
  if success then { b with failures := 0 }
  else if b.threshold ≤ b.failures + 1 then
    { b with failures := b.failures + 1, openedAt := now }
  else { b with failures := b.failures + 1 }

/-- `none` is a zero time with `ok` false. -/
def openSince (b : CircuitBreaker) : Option Int :=
  if b.failures < b.threshold then none else some b.openedAt

end CircuitBreaker

/-- `notified` counts the calls of `onUnhealthy`. -/
structure HealthMonitor where
  healthy : Bool := true
  fired : Bool := false
  notified : Nat := 0
deriving Repr, DecidableEq

def HealthMonitor.setUnhealthy (m : HealthMonitor) : HealthMonitor where
  healthy := false
  fired := true
  notified := if m.fired then m.notified else m.notified + 1

/-- One tick of `WatchBreakerOpen`. -/
def watchBreakerOpen (b : CircuitBreaker) (maxOpen now : Int)
    (m : HealthMonitor) : HealthMonitor :=
  match b.openSince with
  | none => m
  | some openedAt =>
    if maxOpen ≤ sub now openedAt then m.setUnhealthy else m

/-! ### Histories -/

/-- A call of `Record`. -/
structure Event where
  success : Bool
  time : Int
deriving Repr, DecidableEq

/-- A new breaker behind a history. -/
def breakerAfter (threshold cooldown : Int) (history : List Event) :
    CircuitBreaker :=
  history.foldl (fun b event => b.record event.success event.time)
    { threshold, cooldown }

/-- The times of the failures since the last success. -/
def streak (history : List Event) : List Int :=
  history.foldl (fun times event =>
    if event.success then [] else times ++ [event.time]) []

/-- When the breaker went from closed to open, if it is open. -/
def opened (threshold : Int) (history : List Event) : Option Int :=
  (streak history)[threshold.toNat - 1]?

/-- The breaker tells since when it is open, and a tick that finds it open for
long enough reports it. -/
structure ReportsOpening (threshold cooldown : Int) (history : List Event) :
    Prop where
  ok : (breakerAfter threshold cooldown history).openSince.isSome = true ↔
    threshold ≤ (streak history).length
  since : (breakerAfter threshold cooldown history).openSince =
    opened threshold history
  tick : ∀ start maxOpen now m, opened threshold history = some start →
    maxOpen ≤ maxDuration → maxOpen ≤ now - start →
      watchBreakerOpen (breakerAfter threshold cooldown history) maxOpen now
        m = m.setUnhealthy

/-- Every probe that failed while the breaker was open failed at the moment at
which it opened. -/
def ProbesAtOnce (threshold : Int) (history : List Event) : Prop :=
  ∀ time ∈ (streak history).drop threshold.toNat,
    opened threshold history = some time

instance (threshold : Int) (history : List Event) :
    Decidable (ProbesAtOnce threshold history) :=
  inferInstanceAs (Decidable (∀ time ∈ _, _))

theorem streak_append (history : List Event) (event : Event) :
    streak (history ++ [event]) =
      if event.success then [] else streak history ++ [event.time] := by
  simp only [streak, List.foldl_append, List.foldl_cons, List.foldl_nil]

theorem breakerAfter_append (threshold cooldown : Int) (history : List Event)
    (event : Event) :
    breakerAfter threshold cooldown (history ++ [event]) =
      (breakerAfter threshold cooldown history).record event.success
        event.time := by
  simp only [breakerAfter, List.foldl_append, List.foldl_cons, List.foldl_nil]

theorem streak_sublist (history : List Event) :
    (streak history).Sublist (history.map Event.time) := by
  induction history using List.reverseRecOn with
  | nil => exact .slnil
  | append_singleton history event ih =>
    rw [streak_append, List.map_append]
    split
    · exact List.nil_sublist _
    · exact ih.append (List.Sublist.refl _)

/-- What a breaker knows of the failures since the last success. -/
structure Tracks (limit : Int) (times : List Int) (b : CircuitBreaker) :
    Prop where
  threshold : b.threshold = limit
  failures : b.failures = times.length
  openedAt : limit ≤ times.length → times.getLast? = some b.openedAt

variable {threshold : Int} {b : CircuitBreaker}

theorem Tracks.record {times : List Int} (hpos : 1 ≤ threshold)
    (htracks : Tracks threshold times b) (success : Bool) (now : Int) :
    Tracks threshold (if success then [] else times ++ [now])
      (b.record success now) := by
  have hthreshold := htracks.threshold
  have hfailures := htracks.failures
  cases success with
  | true =>
    refine ⟨hthreshold, rfl, fun hopen => ?_⟩
    simp only [if_true, List.length_nil] at hopen
    omega
  | false =>
    have hlength : ((times ++ [now]).length : Int) = b.failures + 1 := by
      rw [hfailures, List.length_append, List.length_singleton]
      rfl
    simp only [CircuitBreaker.record, Bool.false_eq_true, if_false]
    split
    · refine ⟨hthreshold, hlength.symm, fun _ => ?_⟩
      exact List.getLast?_concat
    next hclosed =>
      refine ⟨hthreshold, hlength.symm, fun hopen => ?_⟩
      rw [hlength, ← hthreshold] at hopen
      exact absurd hopen hclosed

theorem tracks_breakerAfter (hpos : 1 ≤ threshold) (cooldown : Int)
    (history : List Event) :
    Tracks threshold (streak history)
      (breakerAfter threshold cooldown history) := by
  induction history using List.reverseRecOn with
  | nil =>
    refine ⟨rfl, rfl, fun hopen => ?_⟩
    simp only [streak, List.foldl_nil, List.length_nil] at hopen
    omega
  | append_singleton history event ih =>
    rw [streak_append, breakerAfter_append]
    exact ih.record hpos event.success event.time

/-- The breaker knows the last failure, not the one that opened it. -/
theorem openSince_breakerAfter (hpos : 1 ≤ threshold) (cooldown : Int)
    (history : List Event) :
    (breakerAfter threshold cooldown history).openSince =
      if threshold ≤ (streak history).length then (streak history).getLast?
      else none := by
  have htracks := tracks_breakerAfter hpos cooldown history
  rw [CircuitBreaker.openSince, htracks.threshold, htracks.failures]
  by_cases hopen : threshold ≤ (streak history).length
  · rw [if_neg (Int.not_lt.mpr hopen), if_pos hopen, htracks.openedAt hopen]
  · rw [if_pos (Int.not_le.mp hopen), if_neg hopen]

theorem opened_eq_none {history : List Event}
    (hclosed : ¬ threshold ≤ (streak history).length) :
    opened threshold history = none := by
  rw [opened, List.getElem?_eq_none_iff]
  omega

/-- A tick reports a breaker that has been open for long enough, by its own
account. -/
theorem watchBreakerOpen_of_openSince {start : Int}
    (hopen : b.openSince = some start) {maxOpen now : Int}
    (hmax : maxOpen ≤ maxDuration) (hlong : maxOpen ≤ now - start)
    (m : HealthMonitor) :
    watchBreakerOpen b maxOpen now m = m.setUnhealthy := by
  have hsub : maxOpen ≤ sub now start := GoTime.le_sub hmax hlong
  simp only [watchBreakerOpen, hopen, if_pos hsub]

section Sorted

variable {times : List Int}

/-- In a list in order whose last entry is its `k`-th, nothing changes behind
the `k`-th. -/
theorem getElem?_eq_of_getLast? (hsorted : times.Pairwise (· ≤ ·)) {k : Nat}
    (hlast : times.getLast? = times[k]?) {time : Int}
    (hmem : time ∈ times.drop (k + 1)) : times[k]? = some time := by
  obtain ⟨j, hj⟩ := List.mem_iff_getElem?.mp hmem
  rw [List.getElem?_drop] at hj
  obtain ⟨hlt, hj⟩ := List.getElem?_eq_some_iff.mp hj
  have hk : k < times.length := by omega
  rw [List.getLast?_eq_getElem?, List.getElem?_eq_getElem hk,
    List.getElem?_eq_getElem (Nat.sub_lt (by omega) Nat.one_pos),
    Option.some.injEq] at hlast
  have hle := List.pairwise_iff_getElem.mp hsorted k (k + 1 + j) hk hlt
    (by omega)
  have hge : times[k + 1 + j] ≤ times[times.length - 1] := by
    rcases Nat.lt_or_eq_of_le (Nat.le_sub_one_of_lt hlt) with hbefore | hsame
    · exact List.pairwise_iff_getElem.mp hsorted _ _ hlt
        (Nat.sub_lt (by omega) Nat.one_pos) hbefore
    · exact Int.le_of_eq (by congr 1)
  rw [List.getElem?_eq_getElem hk, ← hj]
  exact congrArg some (Int.le_antisymm hle (hlast ▸ hge))

theorem getLast?_eq_of_drop {k : Nat} (hk : k < times.length)
    (hsame : ∀ time ∈ times.drop (k + 1), times[k]? = some time) :
    times.getLast? = times[k]? := by
  rw [List.getLast?_eq_getElem?]
  by_cases hlast : times.length - 1 = k
  · rw [hlast]
  · have hlt : times.length - 1 < times.length := by omega
    rw [List.getElem?_eq_getElem hlt]
    refine (hsame _ (List.mem_iff_getElem?.mpr ⟨times.length - 2 - k, ?_⟩)).symm
    rw [List.getElem?_drop, List.getElem?_eq_getElem (by omega)]
    congr 2
    omega

end Sorted

/-- The breaker reports its opening exactly for histories in which no probe
failed later while it was open. -/
theorem reportsOpening_iff_probesAtOnce {threshold : Int}
    (hpos : 1 ≤ threshold) (cooldown : Int) {history : List Event}
    (htimes : (history.map Event.time).Pairwise (· ≤ ·)) :
    ReportsOpening threshold cooldown history ↔
      ProbesAtOnce threshold history := by
  have hsince := openSince_breakerAfter hpos cooldown history
  have hsorted := htimes.sublist (streak_sublist history)
  have hsucc : threshold.toNat - 1 + 1 = threshold.toNat := by omega
  by_cases hopen : threshold ≤ (streak history).length
  · rw [if_pos hopen] at hsince
    have hk : threshold.toNat - 1 < (streak history).length := by omega
    constructor
    · intro hreports time hmem
      have hlast := hsince.symm.trans hreports.since
      rw [← hsucc] at hmem
      exact getElem?_eq_of_getLast? hsorted hlast hmem
    · intro hprobes
      have hlast : (streak history).getLast? = opened threshold history := by
        apply getLast?_eq_of_drop hk
        rw [hsucc]
        exact hprobes
      rw [hlast] at hsince
      refine ⟨?_, hsince, ?_⟩
      · rw [hsince, opened, List.getElem?_eq_getElem hk]
        exact iff_of_true rfl hopen
      · intro start maxOpen now m hstart hmax hlong
        apply watchBreakerOpen_of_openSince (hsince.trans hstart) hmax hlong
  · rw [if_neg hopen] at hsince
    have hnone := opened_eq_none hopen
    constructor
    · intro _ time hmem
      rw [List.drop_eq_nil_of_le (by omega)] at hmem
      cases hmem
    · intro _
      refine ⟨?_, hsince.trans hnone.symm, ?_⟩
      · rw [hsince]
        exact iff_of_false Bool.false_ne_true hopen
      · intro start maxOpen now m hstart
        rw [hnone] at hstart
        cases hstart

/-- Two failures open a breaker, and a success closes it for a while. -/
theorem reportsOpening_reopened :
    let history : List Event :=
      [⟨false, 10⟩, ⟨false, 20⟩, ⟨true, 50⟩, ⟨false, 60⟩, ⟨false, 70⟩]
    opened 2 history = some 70 ∧ ReportsOpening 2 30 history :=
  ⟨by decide, (reportsOpening_iff_probesAtOnce (by decide) 30
    (by decide)).mpr (by decide)⟩

/-- A breaker that has been open for a hundred seconds, with a probe that
failed half-way, is reported neither by its time nor by a tick that waits for
sixty. -/
theorem failedProbe_hides_opening :
    let second : Int := 1000000000
    let history : List Event := [⟨false, 0⟩, ⟨false, 50 * second⟩]
    opened 1 history = some 0 ∧
      (breakerAfter 1 (30 * second) history).openSince =
        some (50 * second) ∧
      watchBreakerOpen (breakerAfter 1 (30 * second) history) (60 * second)
        (100 * second) {} = {} ∧
      ¬ ReportsOpening 1 (30 * second) history := by
  refine ⟨by decide, by decide, by decide, fun hreports => ?_⟩
  exact absurd hreports.since (by decide)

end Webhook

end Pipewave
