/-
The idle watchdog of a long polling connection.  Every poll of the session
stops the one timer when it starts and restarts it before it answers; a timer
that fires runs `Close` on a goroutine of its own.
-/
import Mathlib.Data.List.Perm.Basic
import Pipewave.LengthPrefix
import Pipewave.Transition

namespace Pipewave

namespace IdleTimer

open Transition

/-- The `time.Timer` in the connection's slot.  One that leaves the slot has
been stopped before. -/
structure Timer where
  armed : Bool
deriving Repr, DecidableEq

/-- 200, 204 and 410. -/
inductive Response where
  | ok (msgs : List Bytes)
  | noContent
  | gone
deriving Repr, DecidableEq

/-- Where a poll is behind its `stopIdleTimer`; `msgs` is what `drainOrWait`
returned, with `none` for nil. -/
inductive Phase where
  | waiting
  | drained (msgs : Option (List Bytes))
  /-- In `resetIdleTimer`, which has found the connection open. -/
  | resetting (msgs : Option (List Bytes))
  | responding (msgs : Option (List Bytes))
  | answered (response : Response)
deriving Repr, DecidableEq

/-- `fired` counts the watchdog's calls of `Close` in front of their
compare-and-swap, `closing` the calls between it and their lock section. -/
structure State where
  closed : Bool := false
  idleTimer : Option Timer := none
  fired : Nat := 0
  closing : Nat := 0
  polls : List Phase := []
deriving Repr, DecidableEq

inductive Label where
  /-- A poll runs `stopIdleTimer`. -/
  | poll
  | drain (p : Nat) (msgs : Option (List Bytes))
  /-- `resetIdleTimer` loads `closed`. -/
  | resetLoad (p : Nat)
  | resetLock (p : Nat)
  | respond (p : Nat)
  | fire
  | watchdogClose
  /-- A call of `Close` that is not the watchdog's. -/
  | close
  | closeLock
deriving Repr, DecidableEq

namespace State

/-- The compare-and-swap of `Close`. -/
def closeSwap (s : State) : State :=
  if s.closed = true then s
  else { s with closed := true, closing := s.closing + 1 }

def setPoll (s : State) (p : Nat) (phase : Phase) : State :=
  { s with polls := s.polls.set p phase }

end State

/-- The last step of the endpoint. -/
def response (closed : Bool) : Option (List Bytes) → Response
  | none => if closed = true then .gone else .noContent
  | some msgs => .ok msgs

def step (s : State) : Label → Option State
  | .poll => some { s with
      idleTimer := none, polls := s.polls ++ [.waiting] }
  | .drain p msgs =>
    match s.polls[p]? with
    | some .waiting => some (s.setPoll p (.drained msgs))
    | _ => none
  | .resetLoad p =>
    match s.polls[p]? with
    | some (.drained msgs) => some (s.setPoll p
        (if s.closed = true then .responding msgs else .resetting msgs))
    | _ => none
  | .resetLock p =>
    match s.polls[p]? with
    | some (.resetting msgs) => some { s.setPoll p (.responding msgs) with
        idleTimer := some ⟨true⟩ }
    | _ => none
  | .respond p =>
    match s.polls[p]? with
    | some (.responding msgs) =>
      some (s.setPoll p (.answered (response s.closed msgs)))
    | _ => none
  | .fire =>
    if s.idleTimer = some ⟨true⟩ then
      some { s with idleTimer := some ⟨false⟩, fired := s.fired + 1 }
    else none
  | .watchdogClose =>
    if s.fired = 0 then none
    else some { s with fired := s.fired - 1 }.closeSwap
  | .close => some s.closeSwap
  | .closeLock =>
    if s.closing = 0 then none
    else some { s with closing := s.closing - 1, idleTimer := none }

/-- Between `stopIdleTimer` and the end of `resetIdleTimer`. -/
def Phase.inFlight : Phase → Bool
  | .waiting | .drained _ | .resetting _ => true
  | .responding _ | .answered _ => false

def InFlight (s : State) : Prop := ∃ poll ∈ s.polls, poll.inFlight = true

instance (s : State) : Decidable (InFlight s) :=
  inferInstanceAs (Decidable (∃ poll ∈ s.polls, poll.inFlight = true))

/-- While a poll is in flight no timer is armed and the watchdog is not about
to close. -/
structure Undisturbed (s : State) : Prop where
  unarmed : InFlight s → s.idleTimer ≠ some ⟨true⟩
  uncalled : InFlight s → s.fired = 0

/-- No poll starts under a watchdog that has fired and not yet closed, and the
timer is restarted by the last poll only. -/
def RestartsLast (s : State) : Label → Prop
  | .poll => s.fired = 0
  | .resetLock p => ∀ poll ∈ s.polls.eraseIdx p, poll.inFlight = false
  | _ => True

instance (s : State) : ∀ label, Decidable (RestartsLast s label)
  | .poll => inferInstanceAs (Decidable (_ = _))
  | .resetLock p => inferInstanceAs
      (Decidable (∀ poll ∈ s.polls.eraseIdx p, poll.inFlight = false))
  | .drain _ _ | .resetLoad _ | .respond _ | .fire | .watchdogClose |
    .close | .closeLock => .isTrue trivial

/-! ### What keeps the polls undisturbed -/

variable {p : Nat} {s : State}

theorem inFlight_of_set {polls : List Phase} {old new : Phase}
    (hget : polls[p]? = some old)
    (hphase : new.inFlight = true → old.inFlight = true)
    (hflight : ∃ poll ∈ polls.set p new, poll.inFlight = true) :
    ∃ poll ∈ polls, poll.inFlight = true := by
  obtain ⟨poll, hmem, hpoll⟩ := hflight
  obtain hold | rfl := List.mem_or_eq_of_mem_set hmem
  · exact ⟨poll, hold, hpoll⟩
  · exact ⟨old, List.mem_of_getElem? hget, hphase hpoll⟩

/-- A poll moves on without touching the timer. -/
theorem Undisturbed.setPoll (hs : Undisturbed s) {old new : Phase}
    (hget : s.polls[p]? = some old)
    (hphase : new.inFlight = true → old.inFlight = true) :
    Undisturbed (s.setPoll p new) :=
  ⟨fun hflight => hs.unarmed (inFlight_of_set hget hphase hflight),
    fun hflight => hs.uncalled (inFlight_of_set hget hphase hflight)⟩

theorem Undisturbed.closeSwap (hs : Undisturbed s) :
    Undisturbed s.closeSwap := by
  rw [State.closeSwap]
  split
  · exact hs
  · exact ⟨hs.unarmed, hs.uncalled⟩

/-- The poll that restarts the timer has to be the last one. -/
theorem undisturbed_resetLock_iff (hlt : p < s.polls.length)
    {msgs : Option (List Bytes)} :
    Undisturbed { s.setPoll p (.responding msgs) with
        idleTimer := some ⟨true⟩ } ↔
      ∀ poll ∈ s.polls.eraseIdx p, poll.inFlight = false := by
  have hperm := List.set_perm_cons_eraseIdx hlt (Phase.responding msgs)
  constructor
  · intro hs poll hmem
    by_contra hpoll
    rw [Bool.not_eq_false] at hpoll
    refine hs.unarmed ⟨poll, ?_, hpoll⟩ rfl
    exact hperm.mem_iff.mpr (List.mem_cons_of_mem _ hmem)
  · intro hlast
    have hnone : ¬ InFlight { s.setPoll p (.responding msgs) with
        idleTimer := some ⟨true⟩ } := by
      rintro ⟨poll, hmem, hpoll⟩
      obtain rfl | hmem := List.mem_cons.mp (hperm.mem_iff.mp hmem)
      · cases hpoll
      · rw [hlast poll hmem] at hpoll
        cases hpoll
    exact ⟨fun h => absurd h hnone, fun h => absurd h hnone⟩

theorem undisturbed_poll_iff :
    Undisturbed { s with
      idleTimer := none, polls := s.polls ++ [.waiting] } ↔ s.fired = 0 := by
  constructor
  · intro hs
    exact hs.uncalled ⟨.waiting, by simp, rfl⟩
  · intro hfired
    exact ⟨fun _ => by simp, fun _ => hfired⟩

/-- The condition on the steps is exactly what keeps the polls undisturbed. -/
theorem undisturbed_step_iff {next : State} {label : Label}
    (hs : Undisturbed s) (hstep : step s label = some next) :
    Undisturbed next ↔ RestartsLast s label := by
  cases label with
  | poll =>
    cases hstep
    exact undisturbed_poll_iff
  | drain p msgs =>
    simp only [step] at hstep
    split at hstep
    next hget =>
      cases hstep
      exact iff_of_true (hs.setPoll hget fun _ => rfl) trivial
    · cases hstep
  | resetLoad p =>
    simp only [step] at hstep
    split at hstep
    next msgs hget =>
      cases hstep
      exact iff_of_true (hs.setPoll hget fun _ => rfl) trivial
    · cases hstep
  | resetLock p =>
    simp only [step] at hstep
    split at hstep
    next msgs hget =>
      cases hstep
      exact undisturbed_resetLock_iff (List.getElem?_eq_some_iff.mp hget).1
    · cases hstep
  | respond p =>
    simp only [step] at hstep
    split at hstep
    next msgs hget =>
      cases hstep
      refine iff_of_true (hs.setPoll hget fun h => ?_) trivial
      cases h
    · cases hstep
  | fire =>
    simp only [step, Option.ite_none_right_eq_some] at hstep
    obtain ⟨harmed, hstep⟩ := hstep
    cases hstep
    have hnone : ¬ InFlight s := fun h => hs.unarmed h harmed
    exact iff_of_true
      ⟨fun h => absurd h hnone, fun h => absurd h hnone⟩ trivial
  | watchdogClose =>
    simp only [step, Option.ite_none_left_eq_some] at hstep
    obtain ⟨hfired, hstep⟩ := hstep
    cases hstep
    have hnone : ¬ InFlight s := fun h => hfired (hs.uncalled h)
    refine iff_of_true (Undisturbed.closeSwap ?_) trivial
    exact ⟨fun h => absurd h hnone, fun h => absurd h hnone⟩
  | close =>
    cases hstep
    exact iff_of_true hs.closeSwap trivial
  | closeLock =>
    simp only [step, Option.ite_none_left_eq_some] at hstep
    obtain ⟨-, hstep⟩ := hstep
    cases hstep
    exact iff_of_true ⟨fun _ => by simp, hs.uncalled⟩ trivial

/-- Along every run, the polls in flight are left alone by the watchdog
exactly when no poll starts under a fired watchdog and only the last poll in
flight restarts the timer. -/
theorem undisturbed_iff_restartsLast {labels : List Label} {s : State}
    (hrun : run step {} labels = some s) :
    (∀ k passed, run step {} (labels.take k) = some passed →
        Undisturbed passed) ↔
      Meets step RestartsLast {} labels :=
  along_iff_meets (fun _ => True) Undisturbed (fun _ _ _ _ _ => trivial)
    (fun _ _ _ _ hs hstep => undisturbed_step_iff hs hstep) trivial
    ⟨fun _ => by simp, fun _ => rfl⟩ hrun

/-- A client polls twice, one at a time, and leaves. -/
def oneAtATime : List Label :=
  [.poll, .drain 0 (some [[1]]), .resetLoad 0, .resetLock 0, .respond 0,
    .poll, .drain 1 none, .resetLoad 1, .resetLock 1, .respond 1, .fire,
    .watchdogClose, .closeLock]

theorem undisturbed_oneAtATime :
    (final step {} oneAtATime).polls =
        [.answered (.ok [[1]]), .answered .noContent] ∧
      ∀ k passed, run step {} (oneAtATime.take k) = some passed →
        Undisturbed passed :=
  ⟨by decide +kernel, (undisturbed_iff_restartsLast (run_eq_final
    (by decide +kernel))).mpr (by decide +kernel)⟩

/-- The first of two polls gets its message and restarts the timer, which
fires while the second one is still waiting. -/
def restartedUnderPoll : List Label :=
  [.poll, .poll, .drain 0 (some [[1]]), .resetLoad 0, .resetLock 0,
    .respond 0, .fire, .watchdogClose, .closeLock, .drain 1 none,
    .resetLoad 1, .respond 1]

/-- Nobody but the watchdog closes, and the second poll is told that the
session is gone. -/
theorem restartedUnderPoll_cut :
    let armed := final step {} (restartedUnderPoll.take 6)
    let cut := final step {} restartedUnderPoll
    (run step {} restartedUnderPoll).isSome = true ∧
      InFlight armed ∧ armed.idleTimer = some ⟨true⟩ ∧
      cut.closed = true ∧ cut.polls[1]? = some (.answered .gone) ∧
      ¬ ∀ k passed, run step {} (restartedUnderPoll.take k) =
        some passed → Undisturbed passed := by
  refine ⟨by decide +kernel, by decide +kernel, by decide +kernel,
    by decide +kernel, by decide +kernel, fun halong => ?_⟩
  have hs := halong 6 _ (run_eq_final (by decide +kernel))
  exact hs.unarmed (by decide +kernel) (by decide +kernel)

end IdleTimer

end Pipewave
