/-
Which registration an expiry belongs to.  The goroutine calls `onExpired`
without looking at what its lock section found, so the callback is guarded
only by what cannot happen between the timer's firing and the lock.
-/
import Pipewave.MsgHub

namespace Pipewave

namespace HubExpiry

open Transition

/-- The hub, the clock, and the contexts that running `Shutdown` calls still
have to cancel. -/
structure State where
  hub : Hub
  now : Int := 0
  cancelling : List Nat := []

inductive Label where
  | allocate (userID instanceID : Bytes)
  | insert (i : Nat)
  | submit (i : Nat) (accepted : Bool)
  | start (i : Nat)
  | fire (i : Nat)
  | stop (i : Nat)
  | lock (i : Nat)
  | call (i : Nat)
  | deregister (userID instanceID : Bytes)
  | reset
  | cancel (i : Nat)
  | advance (elapsed : Nat)
deriving Repr, DecidableEq

def State.withHub (state : State) (hub : Hub) : State := { state with hub }

def step (state : State) : Label → Option State
  | .allocate userID instanceID =>
    some (state.withHub (state.hub.allocate userID instanceID))
  | .insert i => (state.hub.insert i).map state.withHub
  | .submit i accepted => (state.hub.submit i accepted).map state.withHub
  | .start i => (state.hub.start i state.now).map state.withHub
  | .fire i => (state.hub.fire i state.now).map state.withHub
  | .stop i => (state.hub.stop i).map state.withHub
  | .lock i => (state.hub.lock i).map state.withHub
  | .call i => (state.hub.call i).map state.withHub
  | .deregister userID instanceID =>
    some (state.withHub (state.hub.deregister userID instanceID))
  | .reset => some { state with
      hub := state.hub.reset
      cancelling := state.cancelling ++ state.hub.collect }
  | .cancel i =>
    if i ∈ state.cancelling then some { state with
      hub := state.hub.cancel i
      cancelling := state.cancelling.erase i }
    else none
  | .advance elapsed => some { state with now := state.now + elapsed }

/-- An `onExpired` that has run belongs to the registration that was the entry
when its goroutine took the lock, and nobody else had removed that entry. -/
def ExpiryOwned (state : State) : Prop :=
  ∀ i, ∀ r ∈ state.hub.reg i, r.phase = .expired →
    r.heldAtLock = true ∧ r.removed = false

/-- No goroutine is between its timer and its lock for the given entry. -/
def NotFired (hub : Hub) (slot : Option Entry) : Prop :=
  ∀ e ∈ slot, ∀ r ∈ hub.reg e.cancel, r.phase ≠ .fired

/-- A timer fires only for the entry of its session, and no entry is taken out
while its timer has fired and its goroutine has not taken the lock. -/
def Timely (state : State) : Label → Prop
  | .fire i => ∀ r ∈ state.hub.reg i, state.hub.Current i r
  | .insert i => ∀ r ∈ state.hub.reg i, NotFired state.hub
      (state.hub.registry.get r.userID r.instanceID)
  | .deregister userID instanceID =>
    NotFired state.hub (state.hub.registry.get userID instanceID)
  | .reset => ∀ i ∈ state.hub.collect, ∀ r ∈ state.hub.reg i, r.phase ≠ .fired
  | _ => True

instance (hub : Hub) (slot : Option Entry) : Decidable (NotFired hub slot) :=
  inferInstanceAs (Decidable (∀ e ∈ slot, ∀ r ∈ hub.reg e.cancel, _))

instance (state : State) : ∀ label, Decidable (Timely state label)
  | .fire i => inferInstanceAs (Decidable (∀ r ∈ state.hub.reg i, _))
  | .insert i => inferInstanceAs (Decidable (∀ r ∈ state.hub.reg i, _))
  | .deregister _ _ => inferInstanceAs (Decidable (NotFired _ _))
  | .reset => inferInstanceAs
      (Decidable (∀ i ∈ state.hub.collect, ∀ r ∈ state.hub.reg i, _))
  | .allocate .. | .submit .. | .start .. | .stop .. | .lock .. | .call ..
  | .cancel .. | .advance .. => .isTrue trivial

/-- The phases in which a registration may still be an entry. -/
def Holds : Phase → Prop
  | .allocated | .locked | .expired => False
  | _ => True

structure Inv (hub : Hub) : Prop where
  entry : ∀ {userID instanceID e},
    hub.registry.get userID instanceID = some e →
      ∃ r, hub.reg e.cancel = some r ∧ r.userID = userID ∧
        r.instanceID = instanceID ∧ r.gen = e.gen ∧ r.removed = false ∧
        Holds r.phase
  fresh : ∀ {i r}, hub.reg i = some r → r.phase = .allocated →
    r.removed = false
  fired : ∀ {i r}, hub.reg i = some r → r.phase = .fired → hub.Current i r
  owned : ∀ {i r}, hub.reg i = some r →
    r.phase = .locked ∨ r.phase = .expired →
      r.heldAtLock = true ∧ r.removed = false

variable {hub hub' : Hub} {i : Nat} {r : Registration}

/-- A step that changes one registration and no entry keeps the invariant if
it respects what the phases promise. -/
theorem Inv.modify (hinv : Inv hub) {f : Registration → Registration}
    (hreg : hub.reg i = some r) (huser : (f r).userID = r.userID)
    (hinstance : (f r).instanceID = r.instanceID) (hgen : (f r).gen = r.gen)
    (hremoved : (f r).removed = r.removed)
    (hheld : (f r).heldAtLock = r.heldAtLock)
    (hholds : Holds r.phase → Holds (f r).phase)
    (hfresh : (f r).phase = .allocated → r.phase = .allocated)
    (hfired : (f r).phase = .fired → hub.Current i r)
    (howned : (f r).phase = .locked ∨ (f r).phase = .expired →
      r.phase = .locked ∨ r.phase = .expired) :
    Inv (hub.modifyReg i f) := by
  have hcases : ∀ {j s}, (hub.modifyReg i f).reg j = some s →
      (i = j ∧ s = f r) ∨ (i ≠ j ∧ hub.reg j = some s) := by
    intro j s hs
    rw [Hub.reg_modifyReg] at hs
    by_cases hsame : i = j
    · subst hsame
      rw [if_pos rfl, hreg] at hs
      exact .inl ⟨rfl, (Option.some.inj hs).symm⟩
    · rw [if_neg hsame] at hs
      exact .inr ⟨hsame, hs⟩
  constructor
  · intro userID instanceID e hget
    obtain ⟨s, hs, hu, hi, hg, hrem, hph⟩ := hinv.entry hget
    by_cases hsame : i = e.cancel
    · subst hsame
      rw [hreg] at hs
      cases hs
      refine ⟨f r, ?_, ?_, ?_, ?_, ?_, hholds hph⟩
      · rw [Hub.reg_modifyReg, if_pos rfl, hreg, Option.map_some]
      · rw [huser, hu]
      · rw [hinstance, hi]
      · rw [hgen, hg]
      · rw [hremoved, hrem]
    · refine ⟨s, ?_, hu, hi, hg, hrem, hph⟩
      rw [Hub.reg_modifyReg, if_neg hsame, hs]
  · intro j s hs hphase
    rcases hcases hs with ⟨rfl, rfl⟩ | ⟨-, hold⟩
    · rw [hremoved]
      exact hinv.fresh hreg (hfresh hphase)
    · exact hinv.fresh hold hphase
  · intro j s hs hphase
    rcases hcases hs with ⟨rfl, rfl⟩ | ⟨-, hold⟩
    · obtain ⟨e, hget, hcancel⟩ := hfired hphase
      refine ⟨e, ?_, hcancel⟩
      rw [huser, hinstance]
      exact hget
    · exact hinv.fired hold hphase
  · intro j s hs hphase
    rcases hcases hs with ⟨rfl, rfl⟩ | ⟨-, hold⟩
    · rw [hremoved, hheld]
      exact hinv.owned hreg (howned hphase)
    · exact hinv.owned hold hphase

/-- The invariant sees the registry only through its lookups. -/
theorem Inv.congr (hinv : Inv hub) (hreg : ∀ i, hub'.reg i = hub.reg i)
    (hget : ∀ userID instanceID, hub'.registry.get userID instanceID =
      hub.registry.get userID instanceID) : Inv hub' := by
  constructor
  · intro userID instanceID e h
    rw [hget] at h
    obtain ⟨r, hr, hrest⟩ := hinv.entry h
    exact ⟨r, by rw [hreg, hr], hrest⟩
  · intro i r hr
    rw [hreg] at hr
    exact hinv.fresh hr
  · intro i r hr hphase
    rw [hreg] at hr
    obtain ⟨e, he, hcancel⟩ := hinv.fired hr hphase
    exact ⟨e, by rw [hget, he], hcancel⟩
  · intro i r hr
    rw [hreg] at hr
    exact hinv.owned hr

theorem Inv.allocate (hinv : Inv hub) (userID instanceID : Bytes) :
    Inv (hub.allocate userID instanceID) := by
  have hcases : ∀ {i r}, (hub.allocate userID instanceID).reg i = some r →
      hub.reg i = some r ∨ r.phase = .allocated ∧ r.removed = false := by
    intro i r hr
    rw [Hub.reg_allocate] at hr
    split at hr
    · cases hr
      exact .inr ⟨rfl, rfl⟩
    · exact .inl hr
  constructor
  · intro userID' instanceID' e hget
    obtain ⟨r, hr, hrest⟩ := hinv.entry hget
    obtain ⟨hlt, -⟩ := List.getElem?_eq_some_iff.mp hr
    exact ⟨r, by rw [Hub.reg_allocate, if_neg hlt.ne, hr], hrest⟩
  · intro i r hr hphase
    rcases hcases hr with hold | ⟨-, hnew⟩
    · exact hinv.fresh hold hphase
    · exact hnew
  · intro i r hr hphase
    rcases hcases hr with hold | ⟨hnew, -⟩
    · exact hinv.fired hold hphase
    · rw [hphase] at hnew
      cases hnew
  · intro i r hr hphase
    rcases hcases hr with hold | ⟨hnew, -⟩
    · exact hinv.owned hold hphase
    · rcases hphase with hphase | hphase <;>
        · rw [hphase] at hnew
          cases hnew

/-- An entry is taken out and its registration changed, so that it is not
about to take the lock. -/
theorem Inv.takeOut {hub hub' : Hub} (hinv : Inv hub)
    {userID instanceID : Bytes} {e : Entry} {new : Registration}
    (hget : hub.registry.get userID instanceID = some e)
    (hregistry : ∀ userID' instanceID',
      hub'.registry.get userID' instanceID' =
        if userID' = userID ∧ instanceID' = instanceID then none
        else hub.registry.get userID' instanceID')
    (hregs : ∀ j, hub'.reg j = if e.cancel = j then some new else hub.reg j)
    (hfresh : new.phase ≠ .allocated) (hfired : new.phase ≠ .fired)
    (howned : new.phase = .locked ∨ new.phase = .expired →
      new.heldAtLock = true ∧ new.removed = false) : Inv hub' := by
  obtain ⟨r, hr, hu, hi, -⟩ := hinv.entry hget
  have hcases : ∀ {j s}, hub'.reg j = some s →
      hub.reg j = some s ∧ e.cancel ≠ j ∨ s = new := by
    intro j s hs
    rw [hregs] at hs
    split at hs
    · exact .inr (Option.some.inj hs).symm
    · next hne => exact .inl ⟨hs, hne⟩
  constructor
  · intro userID' instanceID' e' hget'
    rw [hregistry] at hget'
    split at hget'
    · cases hget'
    · next hother =>
      obtain ⟨s, hs, hsu, hsi, hrest⟩ := hinv.entry hget'
      have hdistinct : e.cancel ≠ e'.cancel := by
        intro heq
        rw [← heq, hr] at hs
        cases hs
        exact hother ⟨hsu.symm.trans hu, hsi.symm.trans hi⟩
      exact ⟨s, by rw [hregs, if_neg hdistinct, hs], hsu, hsi, hrest⟩
  · intro j s hs hphase
    rcases hcases hs with ⟨hold, -⟩ | rfl
    · exact hinv.fresh hold hphase
    · exact absurd hphase hfresh
  · intro j s hs hphase
    rcases hcases hs with ⟨hold, hne⟩ | rfl
    · obtain ⟨e', hget', hcancel⟩ := hinv.fired hold hphase
      refine ⟨e', ?_, hcancel⟩
      rw [hregistry, if_neg, hget']
      rintro ⟨hsu, hsi⟩
      rw [hsu, hsi, hget] at hget'
      cases hget'
      exact hne hcancel
    · exact absurd hphase hfired
  · intro j s hs hphase
    rcases hcases hs with ⟨hold, -⟩ | rfl
    · exact hinv.owned hold hphase
    · exact howned hphase

/-- Taking an entry out is safe while its goroutine is not about to lock. -/
theorem Inv.deregister (hinv : Inv hub) {userID instanceID : Bytes}
    (hquiet : NotFired hub (hub.registry.get userID instanceID)) :
    Inv (hub.deregister userID instanceID) := by
  cases hget : hub.registry.get userID instanceID with
  | none =>
    have hsame : hub.deregister userID instanceID = hub := by
      simp only [Hub.deregister, hget]
    rw [hsame]
    exact hinv
  | some e =>
    obtain ⟨r, hr, -, -, -, -, hholds⟩ := hinv.entry hget
    refine @Inv.takeOut hub _ hinv _ _ _
      { r with cancelled := true, removed := true } hget
      (Hub.get_deregister userID instanceID) ?_ ?_ (hquiet e hget r hr) ?_
    · intro j
      simp only [Hub.reg_deregister, hget, Hub.reg_cancelEntry,
        Option.map_some, Option.some.injEq]
      by_cases hsame : e.cancel = j
      · subst hsame
        rw [if_pos rfl, if_pos rfl, hr, Option.map_some]
      · rw [if_neg hsame, if_neg hsame]
    · intro hphase
      rw [show r.phase = .allocated from hphase] at hholds
      exact hholds
    · rintro (hphase | hphase) <;>
        · rw [show r.phase = _ from hphase] at hholds
          exact hholds.elim

/-- A new registration becomes the entry of a session that has none. -/
theorem Inv.place (hinv : Inv hub) (hreg : hub.reg i = some r)
    (hphase : r.phase = .allocated)
    (hfree : hub.registry.get r.userID r.instanceID = none) :
    Inv { hub.modifyReg i fun r => { r with phase := .inserted } with
      registry := hub.registry.set r.userID r.instanceID ⟨i, r.gen⟩ } := by
  have hregs : ∀ j, Hub.reg { hub.modifyReg i fun r =>
      { r with phase := .inserted } with
      registry := hub.registry.set r.userID r.instanceID ⟨i, r.gen⟩ } j =
        if i = j then some { r with phase := .inserted } else hub.reg j := by
    intro j
    refine (Hub.reg_modifyReg _).trans ?_
    by_cases hsame : i = j
    · subst hsame
      rw [if_pos rfl, if_pos rfl, hreg, Option.map_some]
    · rw [if_neg hsame, if_neg hsame]
  constructor
  · intro userID instanceID e hget
    rw [NestedMap.get_set] at hget
    by_cases hsame : userID = r.userID ∧ instanceID = r.instanceID
    · rw [if_pos hsame] at hget
      cases hget
      have hremoved := hinv.fresh hreg hphase
      exact ⟨_, (hregs i).trans (if_pos rfl), hsame.1.symm, hsame.2.symm, rfl,
        hremoved, trivial⟩
    · rw [if_neg hsame] at hget
      obtain ⟨s, hs, hu, hi, hg, hrem, hholds⟩ := hinv.entry hget
      refine ⟨s, ?_, hu, hi, hg, hrem, hholds⟩
      rw [hregs, if_neg, hs]
      rintro rfl
      rw [hreg] at hs
      cases hs
      rw [hphase] at hholds
      exact hholds
  · intro j s hs hfresh
    rw [hregs] at hs
    split at hs
    · cases hs
      cases hfresh
    · exact hinv.fresh hs hfresh
  · intro j s hs hfired
    rw [hregs] at hs
    split at hs
    · cases hs
      cases hfired
    · obtain ⟨e, hget, hcancel⟩ := hinv.fired hs hfired
      refine ⟨e, ?_, hcancel⟩
      rw [NestedMap.get_set, if_neg, hget]
      rintro ⟨hu, hi⟩
      rw [hu, hi, hfree] at hget
      cases hget
  · intro j s hs howned
    rw [hregs] at hs
    split at hs
    · cases hs
      rcases howned with howned | howned <;> cases howned
    · exact hinv.owned hs howned

theorem Inv.insert (hinv : Inv hub) (hquiet : ∀ r ∈ hub.reg i,
      NotFired hub (hub.registry.get r.userID r.instanceID))
    (hinsert : hub.insert i = some hub') : Inv hub' := by
  cases hreg : hub.reg i with
  | none => simp [Hub.insert, hreg] at hinsert
  | some r =>
    by_cases hphase : r.phase = .allocated
    · have hout := hinv.deregister (hquiet r hreg)
      have hfree : (hub.deregister r.userID r.instanceID).registry.get
          r.userID r.instanceID = none := by
        rw [Hub.get_deregister, if_pos ⟨rfl, rfl⟩]
      have hreg' : (hub.deregister r.userID r.instanceID).reg i =
          some r := by
        rw [Hub.reg_deregister, Hub.reg_cancelEntry, if_neg, hreg]
        intro hprev
        obtain ⟨e, hget, rfl⟩ := Option.map_eq_some_iff.mp hprev
        obtain ⟨s, hs, -, -, -, -, hholds⟩ := hinv.entry hget
        rw [hreg] at hs
        cases hs
        rw [hphase] at hholds
        exact hholds
      simp only [Hub.insert, hreg, hphase, ne_eq, not_true_eq_false,
        ↓reduceIte, Option.some.injEq] at hinsert
      subst hinsert
      refine (hout.place hreg' hphase hfree).congr ?_ ?_
      · intro j
        refine (Hub.reg_modifyReg _).trans (Eq.trans ?_
          (Hub.reg_modifyReg _).symm)
        rw [Hub.reg_deregister]
      · intro userID instanceID
        simp only [Hub.registry_modifyReg, Hub.registry_cancelEntry,
          NestedMap.get_set, Hub.get_deregister]
        by_cases hsame : userID = r.userID ∧ instanceID = r.instanceID
        · rw [if_pos hsame, if_pos hsame]
        · rw [if_neg hsame, if_neg hsame, if_neg hsame]
    · simp [Hub.insert, hreg, hphase] at hinsert

/-- The goroutine of the current entry deletes its own entry. -/
theorem Inv.lock (hinv : Inv hub) (hlock : hub.lock i = some hub') :
    Inv hub' := by
  cases hreg : hub.reg i with
  | none => simp [Hub.lock, hreg] at hlock
  | some r =>
    by_cases hphase : r.phase = .fired
    · obtain ⟨e, hget, rfl⟩ := hinv.fired hreg hphase
      obtain ⟨s, hs, -, -, hgen, hremoved, -⟩ := hinv.entry hget
      rw [hreg] at hs
      cases hs
      simp only [Hub.lock, hreg, hphase, ne_eq, not_true_eq_false,
        ↓reduceIte, hget, hgen, Option.some.injEq] at hlock
      subst hlock
      refine @Inv.takeOut hub _ hinv _ _ _
        { r with phase := .locked, heldAtLock := true } hget
        (fun _ _ => NestedMap.get_delete _ _ _ _ _) ?_ Phase.noConfusion
        Phase.noConfusion fun _ => ⟨rfl, hremoved⟩
      intro j
      refine (Hub.reg_modifyReg _).trans ?_
      by_cases hsame : e.cancel = j
      · subst hsame
        rw [if_pos rfl, if_pos rfl, hreg, Option.map_some,
          decide_eq_true ⟨e, hget, rfl⟩]
      · rw [if_neg hsame, if_neg hsame]
    · simp [Hub.lock, hreg, hphase] at hlock

theorem Inv.reset (hinv : Inv hub)
    (hquiet : ∀ i ∈ hub.collect, ∀ r ∈ hub.reg i, r.phase ≠ .fired) :
    Inv hub.reset := by
  have hcases : ∀ {i s}, hub.reset.reg i = some s →
      ∃ r, hub.reg i = some r ∧ s.phase = r.phase ∧
        s.heldAtLock = r.heldAtLock ∧
        (i ∉ hub.collect → s.removed = r.removed) := by
    intro i s hs
    rw [Hub.reg_reset] at hs
    obtain ⟨r, hr, rfl⟩ := Option.map_eq_some_iff.mp hs
    refine ⟨r, hr, ?_⟩
    by_cases hmem : i ∈ hub.collect <;> simp [hmem]
  have hnothold : ∀ {i r}, hub.reg i = some r → ¬ Holds r.phase →
      i ∉ hub.collect := by
    intro i r hr hnot hmem
    obtain ⟨userID, instanceID, e, hget, rfl⟩ := Hub.mem_collect.mp hmem
    obtain ⟨s, hs, -, -, -, -, hholds⟩ := hinv.entry hget
    rw [hr] at hs
    cases hs
    exact hnot hholds
  constructor
  · intro userID instanceID e hget
    simp [Hub.reset] at hget
  · intro i s hs hphase
    obtain ⟨r, hr, hsame, -, hremoved⟩ := hcases hs
    rw [hphase] at hsame
    rw [hremoved (hnothold hr (by rw [← hsame]; exact id))]
    exact hinv.fresh hr hsame.symm
  · intro i s hs hphase
    obtain ⟨r, hr, hsame, -, -⟩ := hcases hs
    rw [hphase] at hsame
    obtain ⟨e, hget, hcancel⟩ := hinv.fired hr hsame.symm
    exact absurd hsame.symm (hquiet i
      (Hub.mem_collect.mpr ⟨_, _, e, hget, hcancel⟩) r hr)
  · intro i s hs hphase
    obtain ⟨r, hr, hsame, hheld, hremoved⟩ := hcases hs
    rw [hsame] at hphase
    have hnot : ¬ Holds r.phase := by
      rcases hphase with hphase | hphase <;>
        · rw [hphase]
          exact id
    rw [hheld, hremoved (hnothold hr hnot)]
    exact hinv.owned hr hphase

/-- A change of phase that neither fires nor leaves the lock section. -/
theorem Inv.moveTo (hinv : Inv hub) {enabled : Registration → Bool}
    {phase : Phase} (hmove : hub.moveTo i enabled phase = some hub')
    (hfresh : phase ≠ .allocated)
    (hholds : ∀ r, enabled r = true → Holds r.phase → Holds phase)
    (hfired : phase = .fired → ∀ r ∈ hub.reg i, hub.Current i r)
    (howned : ∀ r, enabled r = true → phase = .locked ∨ phase = .expired →
      r.phase = .locked ∨ r.phase = .expired) : Inv hub' := by
  obtain ⟨r, hreg, henabled, rfl⟩ := Hub.moveTo_eq_some hmove
  exact hinv.modify hreg rfl rfl rfl rfl rfl (hholds r henabled)
    (fun h => absurd h hfresh) (fun h => hfired h r hreg)
    (howned r henabled)

theorem inv_step {state next : State} {label : Label} (hinv : Inv state.hub)
    (htimely : Timely state label) (hstep : step state label = some next) :
    Inv next.hub := by
  cases label with
  | allocate userID instanceID =>
    cases hstep
    exact hinv.allocate userID instanceID
  | insert i =>
    obtain ⟨hub, hinsert, rfl⟩ := Option.map_eq_some_iff.mp hstep
    exact hinv.insert htimely hinsert
  | submit i accepted =>
    obtain ⟨hub, hsubmit, rfl⟩ := Option.map_eq_some_iff.mp hstep
    cases accepted <;>
      exact hinv.moveTo hsubmit (by simp) (fun _ _ _ => trivial) (by simp)
        (by simp)
  | start i =>
    obtain ⟨hub, hstart, rfl⟩ := Option.map_eq_some_iff.mp hstep
    exact hinv.moveTo hstart (by simp) (fun _ _ _ => trivial) (by simp)
      (by simp)
  | fire i =>
    obtain ⟨hub, hfire, rfl⟩ := Option.map_eq_some_iff.mp hstep
    exact hinv.moveTo hfire (by simp) (fun _ _ _ => trivial)
      (fun _ => htimely) (by simp)
  | stop i =>
    obtain ⟨hub, hstop, rfl⟩ := Option.map_eq_some_iff.mp hstep
    exact hinv.moveTo hstop (by simp) (fun _ _ _ => trivial) (by simp)
      (by simp)
  | lock i =>
    obtain ⟨hub, hlock, rfl⟩ := Option.map_eq_some_iff.mp hstep
    exact hinv.lock hlock
  | call i =>
    obtain ⟨hub, hcall, rfl⟩ := Option.map_eq_some_iff.mp hstep
    refine hinv.moveTo hcall (by simp) ?_ (by simp) ?_
    · intro r hlocked hholds
      rw [of_decide_eq_true hlocked] at hholds
      exact hholds
    · exact fun r hlocked _ => .inl (of_decide_eq_true hlocked)
  | deregister userID instanceID =>
    cases hstep
    exact hinv.deregister htimely
  | reset =>
    cases hstep
    exact hinv.reset htimely
  | cancel i =>
    simp only [step] at hstep
    split at hstep
    · cases hstep
      cases hreg : state.hub.reg i with
      | none =>
        refine hinv.congr ?_ fun _ _ => rfl
        intro j
        refine (Hub.reg_modifyReg _).trans ?_
        by_cases hsame : i = j
        · subst hsame
          rw [if_pos rfl, hreg, Option.map_none]
        · rw [if_neg hsame]
      | some r =>
        have hfired : r.phase = .fired → state.hub.Current i r :=
          hinv.fired hreg
        exact hinv.modify hreg rfl rfl rfl rfl rfl id id hfired id
    · cases hstep
  | advance elapsed =>
    cases hstep
    exact hinv

theorem inv_start (ttl : Int) : Inv { ttl } := by
  constructor
  · intro userID instanceID e hget
    simp at hget
  all_goals
    intro i r hr
    simp [Hub.reg] at hr

/-- In every run whose timers fire in time, an expiry belongs to the entry its
goroutine found under the lock. -/
theorem expiryOwned_of_timely {ttl : Int} {state : State}
    (hreach : Reach step Timely { hub := { ttl } } state) :
    ExpiryOwned state := by
  have hinv : Inv state.hub :=
    Reach.invariant (fun state => Inv state.hub) (inv_start ttl)
      (fun _ _ _ => inv_step) hreach
  exact fun i r hr hphase => hinv.owned hr (.inr hphase)

/-- One session registers and its timer runs out. -/
def expireRun : List Label :=
  [.allocate [1] [2], .insert 0, .submit 0 true, .start 0, .advance 90,
    .fire 0, .lock 0, .call 0]

theorem expiryOwned_expireRun :
    ∃ state, run step { hub := { ttl := 90 } } expireRun = some state ∧
      (state.hub.reg 0).map Registration.phase = some .expired ∧
      ExpiryOwned state :=
  ⟨_, rfl, rfl, @expiryOwned_of_timely 90 _
    (reach_of_run expireRun rfl (by decide))⟩

/-- The session is resumed after its timer has fired and before the goroutine
takes the lock. -/
def resumeRun : List Label :=
  [.allocate [1] [2], .insert 0, .submit 0 true, .start 0, .advance 90,
    .fire 0, .deregister [1] [2], .lock 0, .call 0]

/-- The expiry runs although its entry was removed before the lock. -/
theorem expiry_after_deregister :
    ∃ state, Reach step Unguarded
        { hub := { ttl := 90 } } state ∧ ¬ ExpiryOwned state := by
  refine ⟨_, reach_of_run resumeRun rfl (by decide), ?_⟩
  intro howned
  have hheld := (howned 0 _ rfl rfl).1
  exact absurd hheld (by decide)

end HubExpiry

end Pipewave
