/-
The life of a timer.  Every step of the hub either moves one registration
along its phases or leaves all phases alone, and none changes whose timer a
registration is.
-/
import Pipewave.HubExpiry
import Pipewave.HubTimers

namespace Pipewave

namespace Hub

variable {hub hub' : Hub} {i j : Nat}

def phase (hub : Hub) (i : Nat) : Option Phase :=
  (hub.reg i).map Registration.phase

theorem phase_eq_some {phase : Phase} :
    hub.phase i = some phase ↔ ∃ r, hub.reg i = some r ∧ r.phase = phase :=
  Option.map_eq_some_iff

theorem phase_modifyReg (f : Registration → Registration) :
    (hub.modifyReg i f).phase j =
      if i = j then (hub.reg j).map fun r => (f r).phase else hub.phase j := by
  rw [phase, reg_modifyReg]
  split
  · rw [Option.map_map]
    rfl
  · rfl

theorem phase_modifyReg_of_eq {f : Registration → Registration}
    (hphase : ∀ r, (f r).phase = r.phase) :
    (hub.modifyReg i f).phase j = hub.phase j := by
  rw [phase_modifyReg]
  split
  · simp only [hphase]
    rfl
  · rfl

@[simp] theorem phase_cancelEntry (prev : Option Entry) :
    (hub.cancelEntry prev).phase j = hub.phase j := by
  cases prev with
  | none => rfl
  | some e => exact phase_modifyReg_of_eq fun _ => rfl

theorem phase_allocate {userID instanceID : Bytes} {phase : Phase}
    (hphase : hub.phase j = some phase) :
    (hub.allocate userID instanceID).phase j = some phase := by
  obtain ⟨r, hreg, -⟩ := phase_eq_some.mp hphase
  have hlt := (List.getElem?_eq_some_iff.mp hreg).1
  rw [Hub.phase, reg_allocate, if_neg hlt.ne]
  exact hphase

theorem phase_moveTo {enabled : Registration → Bool} {phase : Phase}
    (hmove : hub.moveTo i enabled phase = some hub') :
    hub'.phase j = if i = j then some phase else hub.phase j := by
  obtain ⟨r, hreg, -, rfl⟩ := moveTo_eq_some hmove
  rw [phase_modifyReg]
  split
  next hsame =>
    subst hsame
    rw [hreg, Option.map_some]
  · rfl

theorem phase_insert (hinsert : hub.insert i = some hub') :
    hub.phase i = some .allocated ∧
      hub'.phase j = if i = j then some .inserted else hub.phase j := by
  simp only [insert] at hinsert
  split at hinsert
  · cases hinsert
  next r hreg =>
    split at hinsert
    · cases hinsert
    next hallocated =>
      cases hinsert
      have hphase : hub.phase i = some .allocated :=
        phase_eq_some.mpr ⟨r, hreg, not_not.mp hallocated⟩
      refine ⟨hphase, ?_⟩
      change ((hub.cancelEntry _).modifyReg i _).phase j = _
      rw [phase_modifyReg]
      split
      next hsame =>
        subst hsame
        have hsome : (hub.cancelEntry (hub.registry.get r.userID
            r.instanceID)).phase i = some .allocated := by
          rw [phase_cancelEntry, hphase]
        obtain ⟨s, hs, -⟩ := phase_eq_some.mp hsome
        rw [hs, Option.map_some]
      · rw [phase_cancelEntry]

theorem phase_lock (hlock : hub.lock i = some hub') :
    hub.phase i = some .fired ∧
      hub'.phase j = if i = j then some .locked else hub.phase j := by
  cases hreg : hub.reg i with
  | none => simp [lock, hreg] at hlock
  | some r =>
    by_cases hfired : r.phase = .fired
    · refine ⟨phase_eq_some.mpr ⟨r, hreg, hfired⟩, ?_⟩
      obtain ⟨next, hnext, hregs, -⟩ := lock_spec hreg hfired
      rw [hlock] at hnext
      cases hnext
      have hsame : hub'.phase j = (hub.modifyReg i fun r => { r with
          phase := .locked
          heldAtLock := decide (hub.Current i r) }).phase j := by
        simp only [phase, reg, hregs]
      rw [hsame, phase_modifyReg]
      split
      next hij =>
        subst hij
        rw [hreg, Option.map_some]
      · rfl
    · simp [lock, hreg, hfired] at hlock

@[simp] theorem phase_deregister (userID instanceID : Bytes) :
    (hub.deregister userID instanceID).phase j = hub.phase j := by
  rw [phase, reg_deregister]
  exact phase_cancelEntry _

@[simp] theorem phase_reset : hub.reset.phase j = hub.phase j := by
  rw [phase, reg_reset, Option.map_map]
  cases hreg : hub.reg j with
  | none => rw [phase, hreg, Option.map_none, Option.map_none]
  | some r =>
    rw [phase, hreg, Option.map_some, Option.map_some, Function.comp_apply]
    split <;> rfl

@[simp] theorem phase_cancel : (hub.cancel i).phase j = hub.phase j :=
  phase_modifyReg_of_eq fun _ => rfl

end Hub

namespace HubExpiry

/-- The registration a step moves along. -/
def Label.own : Label → Option Nat
  | .insert i | .submit i _ | .start i | .fire i | .stop i | .lock i
  | .call i => some i
  | .allocate .. | .deregister .. | .reset | .cancel _ | .advance _ => none

/-- The phases a step leads from and to. -/
inductive Moves : Label → Phase → Phase → Prop where
  | insert (i : Nat) : Moves (.insert i) .allocated .inserted
  | accept (i : Nat) : Moves (.submit i true) .inserted .queued
  | reject (i : Nat) : Moves (.submit i false) .inserted .rejected
  | start (i : Nat) (deadline : Int) :
      Moves (.start i) .queued (.waiting deadline)
  | fire (i : Nat) (deadline : Int) : Moves (.fire i) (.waiting deadline) .fired
  | stop (i : Nat) (deadline : Int) :
      Moves (.stop i) (.waiting deadline) .stopped
  | lock (i : Nat) : Moves (.lock i) .fired .locked
  | call (i : Nat) : Moves (.call i) .locked .expired

section Steps

variable {state next : State} {label : Label} {i j : Nat}

theorem exists_waiting {r : Registration} (hwaiting : r.isWaiting = true) :
    ∃ deadline, r.phase = .waiting deadline := by
  unfold Registration.isWaiting at hwaiting
  split at hwaiting
  next deadline hphase => exact ⟨deadline, hphase⟩
  · cases hwaiting

theorem isWaiting_of_due {r : Registration} {now : Int}
    (hdue : r.due now = true) : r.isWaiting = true := by
  unfold Registration.due at hdue
  unfold Registration.isWaiting
  split at hdue
  · rfl
  · cases hdue

/-- What a step does to the phase of the registration it moves, and to the
others. -/
theorem phase_own (hown : label.own = some i)
    (hstep : step state label = some next) :
    ∃ before after, Moves label before after ∧
      state.hub.phase i = some before ∧
      ∀ j, next.hub.phase j =
        if i = j then some after else state.hub.phase j := by
  cases label with
  | insert k =>
    cases hown
    obtain ⟨hub, hinsert, rfl⟩ := Option.map_eq_some_iff.mp hstep
    exact ⟨_, _, .insert i, (Hub.phase_insert (j := 0) hinsert).1, fun j =>
      (Hub.phase_insert hinsert).2⟩
  | submit k accepted =>
    cases hown
    obtain ⟨hub, hsubmit, rfl⟩ := Option.map_eq_some_iff.mp hstep
    obtain ⟨r, hreg, hphase, -⟩ := Hub.moveTo_eq_some hsubmit
    have hbefore := Hub.phase_eq_some.mpr
      ⟨r, hreg, of_decide_eq_true hphase⟩
    cases accepted with
    | true => exact ⟨_, _, .accept i, hbefore, fun _ =>
      Hub.phase_moveTo hsubmit⟩
    | false => exact ⟨_, _, .reject i, hbefore, fun _ =>
      Hub.phase_moveTo hsubmit⟩
  | start k =>
    cases hown
    obtain ⟨hub, hstart, rfl⟩ := Option.map_eq_some_iff.mp hstep
    obtain ⟨r, hreg, hphase, -⟩ := Hub.moveTo_eq_some hstart
    exact ⟨_, _, .start i _, Hub.phase_eq_some.mpr
      ⟨r, hreg, of_decide_eq_true hphase⟩, fun _ =>
      Hub.phase_moveTo hstart⟩
  | fire k =>
    cases hown
    obtain ⟨hub, hfire, rfl⟩ := Option.map_eq_some_iff.mp hstep
    obtain ⟨r, hreg, hdue, -⟩ := Hub.moveTo_eq_some hfire
    obtain ⟨deadline, hphase⟩ := exists_waiting (isWaiting_of_due hdue)
    exact ⟨_, _, .fire i deadline, Hub.phase_eq_some.mpr ⟨r, hreg, hphase⟩,
      fun _ => Hub.phase_moveTo hfire⟩
  | stop k =>
    cases hown
    obtain ⟨hub, hstop, rfl⟩ := Option.map_eq_some_iff.mp hstep
    obtain ⟨r, hreg, hstopped, -⟩ := Hub.moveTo_eq_some hstop
    obtain ⟨deadline, hphase⟩ := exists_waiting
      (Bool.and_eq_true_iff.mp hstopped).1
    exact ⟨_, _, .stop i deadline, Hub.phase_eq_some.mpr ⟨r, hreg, hphase⟩,
      fun _ => Hub.phase_moveTo hstop⟩
  | lock k =>
    cases hown
    obtain ⟨hub, hlock, rfl⟩ := Option.map_eq_some_iff.mp hstep
    exact ⟨_, _, .lock i, (Hub.phase_lock (j := 0) hlock).1, fun j =>
      (Hub.phase_lock hlock).2⟩
  | call k =>
    cases hown
    obtain ⟨hub, hcall, rfl⟩ := Option.map_eq_some_iff.mp hstep
    obtain ⟨r, hreg, hphase, -⟩ := Hub.moveTo_eq_some hcall
    exact ⟨_, _, .call i, Hub.phase_eq_some.mpr
      ⟨r, hreg, of_decide_eq_true hphase⟩, fun _ => Hub.phase_moveTo hcall⟩
  | allocate _ _ | deregister _ _ | reset | cancel _ | advance _ => cases hown

theorem phase_frame (hown : label.own = none) {phase : Phase}
    (hphase : state.hub.phase j = some phase)
    (hstep : step state label = some next) :
    next.hub.phase j = some phase := by
  cases label with
  | allocate userID instanceID =>
    cases hstep
    exact Hub.phase_allocate hphase
  | deregister userID instanceID =>
    cases hstep
    exact (Hub.phase_deregister _ _).trans hphase
  | reset =>
    cases hstep
    exact Hub.phase_reset.trans hphase
  | cancel k =>
    simp only [step] at hstep
    split at hstep
    · cases hstep
      exact Hub.phase_cancel.trans hphase
    · cases hstep
  | advance elapsed =>
    cases hstep
    exact hphase
  | insert _ | submit _ _ | start _ | fire _ | stop _ | lock _ | call _ =>
    cases hown

/-- Only its own steps move a registration. -/
theorem phase_step {phase : Phase} (hphase : state.hub.phase j = some phase)
    (hstep : step state label = some next) :
    next.hub.phase j = some phase ∨
      label.own = some j ∧ ∃ after, Moves label phase after ∧
        next.hub.phase j = some after := by
  cases hown : label.own with
  | none => exact .inl (phase_frame hown hphase hstep)
  | some i =>
    obtain ⟨before, after, hmoves, hbefore, hnext⟩ := phase_own hown hstep
    by_cases hsame : i = j
    · subst hsame
      rw [hphase] at hbefore
      cases hbefore
      exact .inr ⟨rfl, after, hmoves, (hnext i).trans (if_pos rfl)⟩
    · exact .inl ((hnext j).trans ((if_neg hsame).trans hphase))

end Steps

end HubExpiry

end Pipewave
