/-
Entries of the registry and the timers behind them.  While no call of
`Register` is in progress, every entry should have one live timer task, and the
only link between the two is the generation.
-/
import Pipewave.HubPhase

namespace Pipewave

namespace LiveTimers

open Transition
open HubExpiry (State Label step)

/-- A call of `Register` has drawn its generation and not returned. -/
def Registering (hub : Hub) : Prop :=
  ∃ i, hub.phase i = some .allocated ∨ hub.phase i = some .inserted

/-- The timer's task is in the queue of the pool or runs on a worker. -/
def InPool : Phase → Prop
  | .queued | .waiting _ | .fired | .locked => True
  | _ => False

instance : ∀ phase, Decidable (InPool phase)
  | .queued | .waiting _ | .fired | .locked => .isTrue trivial
  | .allocated | .inserted | .rejected | .expired | .stopped => .isFalse id

/-- The task is the live timer of the entry. -/
structure Carries (r : Registration) (e : Entry) : Prop where
  gen : r.gen = e.gen
  inPool : InPool r.phase
  uncancelled : r.cancelled = false

/-- A session's entry has a timer of that session and no second one. -/
def HasTimer (hub : Hub) (userID instanceID : Bytes) (e : Entry) : Prop :=
  ∃ i r, hub.reg i = some r ∧ r.userID = userID ∧
    r.instanceID = instanceID ∧ Carries r e ∧
    ∀ j s, hub.reg j = some s → Carries s e → j = i

structure Live (hub : Hub) : Prop where
  timer : ¬ Registering hub → ∀ userID instanceID e,
    hub.registry.get userID instanceID = some e →
      HasTimer hub userID instanceID e
  inner : hub.registry.NoEmptyInner

/-- The pool accepts the timer of every registration, and the generations do
not wrap around. -/
def Guard (state : State) : Label → Prop
  | .submit _ accepted => accepted = true
  | .allocate _ _ => state.hub.genSeq.toNat + 1 < 2 ^ 64
  | _ => True

instance (state : State) : ∀ label, Decidable (Guard state label)
  | .submit _ _ => inferInstanceAs (Decidable (_ = _))
  | .allocate _ _ => inferInstanceAs (Decidable (_ < _))
  | .insert _ | .start _ | .fire _ | .stop _ | .lock _ | .call _
  | .deregister _ _ | .reset | .cancel _ | .advance _ => .isTrue trivial

/-- The phases of an entry's registration. -/
def Pending : Phase → Prop
  | .inserted | .queued | .waiting _ | .fired => True
  | _ => False

theorem Pending.inPool {phase : Phase} (hpending : Pending phase)
    (hinserted : phase ≠ .inserted) : InPool phase := by
  cases phase with
  | inserted => exact absurd rfl hinserted
  | queued | waiting _ | fired => trivial
  | allocated | rejected | locked | expired | stopped => cases hpending

/-- The entry's own registration stands behind it. -/
structure Backed (userID instanceID : Bytes) (e : Entry) (r : Registration) :
    Prop where
  userID : r.userID = userID
  instanceID : r.instanceID = instanceID
  gen : r.gen = e.gen
  uncancelled : r.cancelled = false
  pending : Pending r.phase

structure Inv (state : State) : Prop where
  gens : ∀ {i r}, state.hub.reg i = some r → r.gen.toNat = i + 1
  seq : state.hub.genSeq.toNat = state.hub.regs.length
  entry : ∀ {userID instanceID e},
    state.hub.registry.get userID instanceID = some e →
      ∃ r, state.hub.reg e.cancel = some r ∧ Backed userID instanceID e r
  fresh : ∀ {i r}, state.hub.reg i = some r → r.phase = .allocated →
    r.cancelled = false ∧ i ∉ state.cancelling
  collected : ∀ {userID instanceID e},
    state.hub.registry.get userID instanceID = some e →
      e.cancel ∉ state.cancelling
  bound : ∀ i ∈ state.cancelling, i < state.hub.regs.length
  inner : state.hub.registry.NoEmptyInner

theorem inv_start (ttl : Int) : Inv { hub := { ttl } } where
  gens := fun h => by simp [Hub.reg] at h
  seq := rfl
  entry := fun h => by simp at h
  fresh := fun h => by simp [Hub.reg] at h
  collected := fun h => by simp at h
  bound := fun i h => by cases h
  inner := NestedMap.noEmptyInner_empty

section Steps

variable {state next : State}

variable {userID instanceID : Bytes} {e : Entry} {r : Registration} {i : Nat}
  {hub : Hub}

/-- A registration that backs an entry is not waiting for its lock section. -/
theorem Backed.not_allocated (hbacked : Backed userID instanceID e r) :
    r.phase ≠ .allocated := by
  intro hphase
  have hpending := hbacked.pending
  rw [hphase] at hpending
  exact hpending

/-- Entries of different sessions have different registrations. -/
theorem Inv.session_eq (hinv : Inv state) {userID' instanceID' : Bytes}
    {e' : Entry} (hget : state.hub.registry.get userID instanceID = some e)
    (hget' : state.hub.registry.get userID' instanceID' = some e')
    (hcancel : e.cancel = e'.cancel) :
    userID = userID' ∧ instanceID = instanceID' := by
  obtain ⟨r, hreg, hbacked⟩ := hinv.entry hget
  obtain ⟨r', hreg', hbacked'⟩ := hinv.entry hget'
  rw [hcancel, hreg'] at hreg
  cases hreg
  exact ⟨hbacked.userID.symm.trans hbacked'.userID,
    hbacked.instanceID.symm.trans hbacked'.instanceID⟩

/-- A step that changes registrations one by one, and neither their sessions
nor their generations. -/
theorem Inv.change (hinv : Inv state)
    {f : Nat → Registration → Registration}
    (hregs : ∀ i, next.hub.reg i = (state.hub.reg i).map (f i))
    (hgen : ∀ i r, (f i r).gen = r.gen)
    (hseq : next.hub.genSeq = state.hub.genSeq)
    (hlength : next.hub.regs.length = state.hub.regs.length)
    (hentry : ∀ {userID instanceID e},
      next.hub.registry.get userID instanceID = some e →
        ∃ r, state.hub.reg e.cancel = some r ∧
          Backed userID instanceID e (f e.cancel r) ∧
          e.cancel ∉ next.cancelling)
    (hfresh : ∀ {i r}, state.hub.reg i = some r →
      (f i r).phase = .allocated →
        r.phase = .allocated ∧ (f i r).cancelled = r.cancelled ∧
          (i ∉ state.cancelling → i ∉ next.cancelling))
    (hbound : ∀ i ∈ next.cancelling, i < state.hub.regs.length)
    (hinner : next.hub.registry.NoEmptyInner) : Inv next := by
  have hold : ∀ {i r}, next.hub.reg i = some r →
      ∃ s, state.hub.reg i = some s ∧ f i s = r := by
    intro i r hreg
    rw [hregs] at hreg
    exact Option.map_eq_some_iff.mp hreg
  constructor
  · intro i r hreg
    obtain ⟨s, hs, rfl⟩ := hold hreg
    rw [hgen]
    exact hinv.gens hs
  · rw [hseq, hlength, hinv.seq]
  · intro userID instanceID e hget
    obtain ⟨r, hreg, hbacked, -⟩ := hentry hget
    exact ⟨_, by rw [hregs, hreg, Option.map_some], hbacked⟩
  · intro i r hreg hphase
    obtain ⟨s, hs, rfl⟩ := hold hreg
    obtain ⟨hallocated, hcancelled, hnot⟩ := hfresh hs hphase
    obtain ⟨hopen, hout⟩ := hinv.fresh hs hallocated
    exact ⟨hcancelled.trans hopen, hnot hout⟩
  · intro userID instanceID e hget
    obtain ⟨r, -, -, hout⟩ := hentry hget
    exact hout
  · rw [hlength]
    exact hbound
  · exact hinner

theorem Inv.allocate (hinv : Inv state) (userID instanceID : Bytes)
    (hguard : state.hub.genSeq.toNat + 1 < 2 ^ 64) :
    Inv (state.withHub (state.hub.allocate userID instanceID)) := by
  have hgen : (state.hub.genSeq + 1).toNat = state.hub.regs.length + 1 := by
    rw [UInt64.toNat_add, ← hinv.seq]
    exact Nat.mod_eq_of_lt hguard
  have hcases : ∀ {i r},
      (state.hub.allocate userID instanceID).reg i = some r →
      state.hub.reg i = some r ∨ i = state.hub.regs.length ∧
        r = { userID, instanceID, gen := state.hub.genSeq + 1 } := by
    intro i r hreg
    rw [Hub.reg_allocate] at hreg
    split at hreg
    next hi => exact .inr ⟨hi, (Option.some.inj hreg).symm⟩
    · exact .inl hreg
  constructor
  · intro i r hreg
    rcases hcases hreg with hold | ⟨rfl, rfl⟩
    · exact hinv.gens hold
    · exact hgen
  · simpa [State.withHub, Hub.allocate] using hgen
  · intro userID' instanceID' e hget
    obtain ⟨r, hreg, hbacked⟩ := hinv.entry hget
    have hlt := (List.getElem?_eq_some_iff.mp hreg).1
    exact ⟨r, (Hub.reg_allocate _ _).trans ((if_neg hlt.ne).trans hreg),
      hbacked⟩
  · intro i r hreg hphase
    rcases hcases hreg with hold | ⟨rfl, rfl⟩
    · exact hinv.fresh hold hphase
    · exact ⟨rfl, fun hmem => Nat.lt_irrefl _ (hinv.bound _ hmem)⟩
  · exact hinv.collected
  · intro i hi
    have hlt := hinv.bound i hi
    simp only [State.withHub, Hub.allocate, List.length_append,
      List.length_singleton]
    omega
  · exact hinv.inner

theorem reg_modifyReg_map (hub : Hub) (i k : Nat)
    (f : Registration → Registration) :
    (hub.modifyReg i f).reg k =
      (hub.reg k).map fun r => if i = k then f r else r := by
  rw [Hub.reg_modifyReg]
  by_cases hsame : i = k
  · simp only [hsame, if_true]
  · simp only [hsame, if_false, Option.map_id']

theorem reg_cancelEntry_map (hub : Hub) (prev : Option Entry) (k : Nat) :
    (hub.cancelEntry prev).reg k = (hub.reg k).map fun r =>
      if prev.map Entry.cancel = some k then
        { r with cancelled := true, removed := true }
      else r := by
  rw [Hub.reg_cancelEntry]
  split
  · rfl
  · simp only [Option.map_id']

theorem genSeq_cancelEntry (hub : Hub) (prev : Option Entry) :
    (hub.cancelEntry prev).genSeq = hub.genSeq := by
  cases prev <;> rfl

/-- A timer moves on.  What stops it or takes it past its lock section does not
happen to the timer of an entry. -/
theorem Inv.moveTo (hinv : Inv state) {enabled : Registration → Bool}
    {phase : Phase} (hmove : state.hub.moveTo i enabled phase = some hub)
    (hphase : phase ≠ .allocated)
    (hpending : ∀ r, enabled r = true → r.cancelled = false →
      Pending r.phase → Pending phase) : Inv (state.withHub hub) := by
  obtain ⟨r, hreg, henabled, rfl⟩ := Hub.moveTo_eq_some hmove
  refine hinv.change (fun k => reg_modifyReg_map state.hub i k _) ?_ rfl
    (List.length_modify _ _ _) ?_ ?_ hinv.bound hinv.inner
  · intro k r
    split <;> rfl
  · intro userID instanceID e hget
    obtain ⟨s, hs, hbacked⟩ := hinv.entry hget
    refine ⟨s, hs, ?_, hinv.collected hget⟩
    split
    next hsame =>
      rw [← hsame, hreg] at hs
      cases hs
      exact { hbacked with
        pending := hpending r henabled hbacked.uncancelled hbacked.pending }
    · exact hbacked
  · intro k s hs hallocated
    split at hallocated
    · exact absurd hallocated hphase
    next hother =>
      exact ⟨hallocated, by rw [if_neg hother], id⟩

/-- Taking the entry of a session out cancels no other entry's timer. -/
theorem Inv.not_cancelled (hinv : Inv state) {userID' instanceID' : Bytes}
    (hget : state.hub.registry.get userID' instanceID' = some e)
    (hother : ¬ (userID' = userID ∧ instanceID' = instanceID)) :
    ¬ (state.hub.registry.get userID instanceID).map Entry.cancel =
      some e.cancel := by
  intro hprev
  obtain ⟨e', hget', hcancel⟩ := Option.map_eq_some_iff.mp hprev
  exact hother (hinv.session_eq hget hget' hcancel.symm)

/-- A registration before its lock section is nobody's entry. -/
theorem Inv.not_entry_of_allocated (hinv : Inv state)
    (hreg : state.hub.reg i = some r) (hphase : r.phase = .allocated)
    (userID instanceID : Bytes) :
    ¬ (state.hub.registry.get userID instanceID).map Entry.cancel =
      some i := by
  intro hprev
  obtain ⟨e, hget, rfl⟩ := Option.map_eq_some_iff.mp hprev
  obtain ⟨s, hs, hbacked⟩ := hinv.entry hget
  rw [hreg] at hs
  cases hs
  exact hbacked.not_allocated hphase

theorem Inv.deregister (hinv : Inv state) (userID instanceID : Bytes) :
    Inv (state.withHub (state.hub.deregister userID instanceID)) := by
  have hlength : (state.hub.deregister userID instanceID).regs.length =
      state.hub.regs.length := by
    unfold Hub.deregister
    split
    · rfl
    · exact Hub.length_cancelEntry _
  have hseq : (state.hub.deregister userID instanceID).genSeq =
      state.hub.genSeq := by
    unfold Hub.deregister
    split <;> rfl
  have hinner : (state.hub.deregister userID
      instanceID).registry.NoEmptyInner := by
    unfold Hub.deregister
    split
    · exact hinv.inner
    · exact hinv.inner.delete userID instanceID
  refine hinv.change (fun k => (Hub.reg_deregister _ _).trans
    (reg_cancelEntry_map _ _ k)) ?_ hseq hlength ?_ ?_ hinv.bound hinner
  · intro k r
    split <;> rfl
  · intro userID' instanceID' e hget
    change (state.hub.deregister userID instanceID).registry.get _ _ = _
      at hget
    rw [Hub.get_deregister] at hget
    split at hget
    · cases hget
    next hother =>
      obtain ⟨s, hs, hbacked⟩ := hinv.entry hget
      refine ⟨s, hs, ?_, hinv.collected hget⟩
      rw [if_neg (hinv.not_cancelled hget hother)]
      exact hbacked
  · intro k s hs hallocated
    have hphase : s.phase = .allocated := by
      split at hallocated <;> exact hallocated
    refine ⟨hphase, ?_, id⟩
    rw [if_neg (hinv.not_entry_of_allocated hs hphase _ _)]

theorem Inv.insert (hinv : Inv state)
    (hinsert : state.hub.insert i = some hub) : Inv (state.withHub hub) := by
  obtain ⟨r, hreg, hphase⟩ :=
    Hub.phase_eq_some.mp (Hub.phase_insert (j := i) hinsert).1
  have hnot := hinv.not_entry_of_allocated hreg hphase
  simp only [Hub.insert, hreg, hphase, ne_eq, not_true_eq_false, ↓reduceIte,
    Option.some.injEq] at hinsert
  subst hinsert
  obtain ⟨hopen, hout⟩ := hinv.fresh hreg hphase
  refine hinv.change (fun k => (reg_modifyReg_map _ i k _).trans
    ((congrArg (Option.map _) (reg_cancelEntry_map state.hub _ k)).trans
      (Option.map_map _ _ _))) ?_ ?_ ?_ ?_ ?_ hinv.bound ?_
  · intro k s
    simp only [Function.comp_apply]
    split <;> split <;> rfl
  · exact genSeq_cancelEntry state.hub _
  · exact (List.length_modify _ _ _).trans (Hub.length_cancelEntry _)
  · intro userID instanceID e hget
    simp only [State.withHub, Hub.registry_modifyReg,
      Hub.registry_cancelEntry, NestedMap.get_set] at hget
    split at hget
    next hsame =>
      cases hget
      refine ⟨r, hreg, ?_, hout⟩
      simp only [Function.comp_apply, if_neg (hnot _ _), if_true]
      exact ⟨hsame.1.symm, hsame.2.symm, rfl, hopen, trivial⟩
    next hother =>
      obtain ⟨s, hs, hbacked⟩ := hinv.entry hget
      have hne : ¬ i = e.cancel := by
        rintro rfl
        rw [hreg] at hs
        cases hs
        exact hbacked.not_allocated hphase
      refine ⟨s, hs, ?_, hinv.collected hget⟩
      simp only [Function.comp_apply, if_neg hne,
        if_neg (hinv.not_cancelled hget hother)]
      exact hbacked
  · intro k s hs hallocated
    simp only [Function.comp_apply] at hallocated ⊢
    split at hallocated
    · cases hallocated
    next hother =>
      have hold : s.phase = .allocated := by
        split at hallocated <;> exact hallocated
      rw [if_neg hother, if_neg (hinv.not_entry_of_allocated hs hold _ _)]
      exact ⟨hold, rfl, id⟩
  · refine NestedMap.NoEmptyInner.set ?_ _ _ _
    rw [Hub.registry_modifyReg, Hub.registry_cancelEntry]
    exact hinv.inner

/-- An entry that a registration cancels is the entry of its session. -/
theorem Inv.owner (hinv : Inv state) (hreg : state.hub.reg i = some r)
    (hget : state.hub.registry.get userID instanceID = some e)
    (hsame : i = e.cancel) :
    r.userID = userID ∧ r.instanceID = instanceID ∧ r.gen = e.gen := by
  obtain ⟨s, hs, hbacked⟩ := hinv.entry hget
  rw [← hsame, hreg] at hs
  cases hs
  exact ⟨hbacked.userID, hbacked.instanceID, hbacked.gen⟩

/-- A timer may pass its lock section if that leaves it no entry. -/
theorem Inv.locked (hinv : Inv state) (i : Nat)
    {registry : NestedMap Bytes Bytes Entry}
    (hinner : registry.NoEmptyInner)
    (hsub : ∀ {userID instanceID e},
      registry.get userID instanceID = some e →
        state.hub.registry.get userID instanceID = some e ∧ ¬ i = e.cancel) :
    Inv (state.withHub { state.hub.modifyReg i (fun r => { r with
      phase := .locked
      heldAtLock := decide (state.hub.Current i r) }) with registry }) := by
  refine hinv.change (fun k => reg_modifyReg_map state.hub i k _) ?_ rfl
    (List.length_modify _ _ _) ?_ ?_ hinv.bound hinner
  · intro k s
    split <;> rfl
  · intro userID instanceID e hget
    obtain ⟨hold, hne⟩ := hsub hget
    obtain ⟨s, hs, hbacked⟩ := hinv.entry hold
    refine ⟨s, hs, ?_, hinv.collected hold⟩
    rw [if_neg hne]
    exact hbacked
  · intro k s hs hallocated
    split at hallocated
    · cases hallocated
    next hother => exact ⟨hallocated, by rw [if_neg hother], id⟩

/-- The lock section of a fired timer takes its entry out if it has one. -/
theorem Inv.lock (hinv : Inv state) (hlock : state.hub.lock i = some hub) :
    Inv (state.withHub hub) := by
  obtain ⟨r, hreg, hphase⟩ :=
    Hub.phase_eq_some.mp (Hub.phase_lock (j := i) hlock).1
  simp only [Hub.lock, hreg, hphase, ne_eq, not_true_eq_false,
    ↓reduceIte] at hlock
  split at hlock
  next hnone =>
    cases hlock
    refine hinv.locked i hinv.inner fun hget => ⟨hget, fun hsame => ?_⟩
    obtain ⟨huser, hinstance, -⟩ := hinv.owner hreg hget hsame
    rw [huser, hinstance, hget] at hnone
    cases hnone
  next e hentry =>
    split at hlock
    · cases hlock
      refine hinv.locked i (hinv.inner.delete _ _) fun hget => ?_
      rw [NestedMap.get_delete] at hget
      split at hget
      · cases hget
      next hother =>
        refine ⟨hget, fun hsame => hother ?_⟩
        obtain ⟨huser, hinstance, -⟩ := hinv.owner hreg hget hsame
        exact ⟨huser.symm, hinstance.symm⟩
    next hgen =>
      cases hlock
      refine hinv.locked i hinv.inner fun hget =>
        ⟨hget, fun hsame => hgen ?_⟩
      obtain ⟨huser, hinstance, hsame⟩ := hinv.owner hreg hget hsame
      rw [huser, hinstance, hget] at hentry
      cases hentry
      exact hsame.symm

theorem Inv.reset (hinv : Inv state) : Inv { state with
    hub := state.hub.reset
    cancelling := state.cancelling ++ state.hub.collect } := by
  have hpending : ∀ i ∈ state.hub.collect,
      ∃ r, state.hub.reg i = some r ∧ r.phase ≠ .allocated := by
    intro i hi
    obtain ⟨userID, instanceID, e, hget, rfl⟩ := Hub.mem_collect.mp hi
    obtain ⟨r, hreg, hbacked⟩ := hinv.entry hget
    exact ⟨r, hreg, hbacked.not_allocated⟩
  refine hinv.change (fun k => Hub.reg_reset) ?_ rfl
    (List.length_mapIdx) ?_ ?_ ?_ NestedMap.noEmptyInner_empty
  · intro k r
    split <;> rfl
  · intro userID instanceID e hget
    simp [Hub.reset] at hget
  · intro k r hreg hallocated
    have hphase : r.phase = .allocated := by
      split at hallocated <;> exact hallocated
    refine ⟨hphase, by split <;> rfl, fun hold hmem => ?_⟩
    rcases List.mem_append.mp hmem with hwas | hcollected
    · exact hold hwas
    · obtain ⟨s, hs, hnot⟩ := hpending k hcollected
      rw [hreg] at hs
      cases hs
      exact hnot hphase
  · intro i hi
    rcases List.mem_append.mp hi with hwas | hcollected
    · exact hinv.bound i hwas
    · obtain ⟨r, hreg, -⟩ := hpending i hcollected
      exact (List.getElem?_eq_some_iff.mp hreg).1

theorem Inv.cancel (hinv : Inv state) (hi : i ∈ state.cancelling) :
    Inv { state with
      hub := state.hub.cancel i, cancelling := state.cancelling.erase i } := by
  refine hinv.change (fun k => reg_modifyReg_map state.hub i k _) ?_ rfl
    (List.length_modify _ _ _) ?_ ?_
    (fun k hk => hinv.bound k (List.mem_of_mem_erase hk)) hinv.inner
  · intro k r
    split <;> rfl
  · intro userID instanceID e hget
    obtain ⟨r, hreg, hbacked⟩ := hinv.entry hget
    have hout := hinv.collected hget
    refine ⟨r, hreg, ?_, fun hmem => hout (List.mem_of_mem_erase hmem)⟩
    have hother : ¬ i = e.cancel := fun hsame => hout (hsame ▸ hi)
    rw [if_neg hother]
    exact hbacked
  · intro k r hreg hallocated
    have hphase : r.phase = .allocated := by
      split at hallocated <;> exact hallocated
    have hout := (hinv.fresh hreg hphase).2
    have hother : ¬ i = k := fun hsame => hout (hsame ▸ hi)
    refine ⟨hphase, ?_, fun _ hmem => hout (List.mem_of_mem_erase hmem)⟩
    rw [if_neg hother]

theorem inv_step (label : Label) (hinv : Inv state)
    (hguard : Guard state label) (hstep : step state label = some next) :
    Inv next := by
  cases label with
  | allocate userID instanceID =>
    cases hstep
    exact hinv.allocate userID instanceID hguard
  | insert i =>
    obtain ⟨hub, hinsert, rfl⟩ := Option.map_eq_some_iff.mp hstep
    exact hinv.insert hinsert
  | submit i accepted =>
    obtain ⟨hub, hsubmit, rfl⟩ := Option.map_eq_some_iff.mp hstep
    cases hguard
    exact hinv.moveTo hsubmit (by simp) fun _ _ _ _ => trivial
  | start i =>
    obtain ⟨hub, hstart, rfl⟩ := Option.map_eq_some_iff.mp hstep
    exact hinv.moveTo hstart (by simp) fun _ _ _ _ => trivial
  | fire i =>
    obtain ⟨hub, hfire, rfl⟩ := Option.map_eq_some_iff.mp hstep
    exact hinv.moveTo hfire (by simp) fun _ _ _ _ => trivial
  | stop i =>
    obtain ⟨hub, hstop, rfl⟩ := Option.map_eq_some_iff.mp hstep
    refine hinv.moveTo hstop (by simp) fun r hstopped hopen _ => ?_
    rw [hopen, Bool.and_false] at hstopped
    cases hstopped
  | lock i =>
    obtain ⟨hub, hlock, rfl⟩ := Option.map_eq_some_iff.mp hstep
    exact hinv.lock hlock
  | call i =>
    obtain ⟨hub, hcall, rfl⟩ := Option.map_eq_some_iff.mp hstep
    refine hinv.moveTo hcall (by simp) fun r hlocked _ hpending => ?_
    rw [of_decide_eq_true hlocked] at hpending
    exact hpending
  | deregister userID instanceID =>
    cases hstep
    exact hinv.deregister userID instanceID
  | reset =>
    cases hstep
    exact hinv.reset
  | cancel i =>
    simp only [step] at hstep
    split at hstep
    next hi =>
      cases hstep
      exact hinv.cancel hi
    · cases hstep
  | advance elapsed =>
    cases hstep
    exact ⟨hinv.gens, hinv.seq, hinv.entry, hinv.fresh, hinv.collected,
      hinv.bound, hinv.inner⟩

theorem Inv.live (hinv : Inv state) : Live state.hub := by
  refine ⟨fun hidle userID instanceID e hget => ?_, hinv.inner⟩
  obtain ⟨r, hreg, hbacked⟩ := hinv.entry hget
  have hinserted : r.phase ≠ .inserted := fun hphase => hidle
    ⟨e.cancel, .inr (Hub.phase_eq_some.mpr ⟨r, hreg, hphase⟩)⟩
  refine ⟨e.cancel, r, hreg, hbacked.userID, hbacked.instanceID,
    ⟨hbacked.gen, hbacked.pending.inPool hinserted, hbacked.uncancelled⟩, ?_⟩
  -- the generation of a registration is its place in the list
  intro j s hs hcarries
  have hj := hinv.gens hs
  have hcancel := hinv.gens hreg
  rw [hcarries.gen, ← hbacked.gen] at hj
  omega

end Steps

/-- If the pool takes every timer and the generations do not wrap, every entry
has its live timer and no user is left without an entry. -/
theorem live_of_guard {ttl : Int} {state : State}
    (hreach : Reach step Guard { hub := { ttl } } state) :
    Live state.hub :=
  (Reach.invariant Inv (inv_start ttl)
    (fun _ label _ hinv hguard hstep => inv_step label hinv hguard hstep)
    hreach).live

/-- A session disconnects twice; the second registration replaces the first,
whose timer stops. -/
def reconnectRun : List Label :=
  [.allocate [0x75] [0x69], .insert 0, .submit 0 true, .start 0,
    .allocate [0x75] [0x69], .insert 1, .submit 1 true, .stop 0, .start 1]

theorem live_reconnectRun :
    let state := final step { hub := { ttl := 60 } } reconnectRun
    state.hub.isRegistered [0x75] [0x69] = true ∧ Live state.hub :=
  ⟨by decide +kernel, live_of_guard
    (reach_final (by decide +kernel) (by decide +kernel))⟩

/-- The pool refuses the timer of a registration. -/
def rejectedRun : List Label :=
  [.allocate [0x75] [0x69], .insert 0, .submit 0 false]

/-- `Register` has returned, the session is registered and no timer will ever
expire it. -/
theorem rejectedRun_not_live :
    let state := final step { hub := { ttl := 60 } } rejectedRun
    Reach step Unguarded { hub := { ttl := 60 } } state ∧
      ¬ Registering state.hub ∧
      state.hub.isRegistered [0x75] [0x69] = true ∧
      (∀ r ∈ state.hub.regs, ¬ InPool r.phase) ∧ ¬ Live state.hub := by
  have hentry : (final step { hub := { ttl := 60 } }
      rejectedRun).hub.registry.get [0x75] [0x69] = some ⟨0, 1⟩ := by
    decide +kernel
  have hidle : ¬ Registering (final step { hub := { ttl := 60 } }
      rejectedRun).hub := by
    have hphases : ∀ r ∈ (final step { hub := { ttl := 60 } }
        rejectedRun).hub.regs, r.phase = .rejected := by decide +kernel
    rintro ⟨i, hphase | hphase⟩ <;>
      obtain ⟨r, hreg, hphase⟩ := Hub.phase_eq_some.mp hphase <;>
      rw [hphases r (List.mem_of_getElem? hreg)] at hphase <;>
      cases hphase
  have hnone : ∀ r ∈ (final step { hub := { ttl := 60 } }
      rejectedRun).hub.regs, ¬ InPool r.phase := by decide +kernel
  refine ⟨reach_final (by decide +kernel) (by decide +kernel),
    hidle, by decide +kernel, hnone, fun hlive => ?_⟩
  obtain ⟨i, r, hreg, -, -, hcarries, -⟩ :=
    hlive.timer hidle _ _ _ hentry
  exact hnone r (List.mem_of_getElem? hreg) hcarries.inPool

end LiveTimers

end Pipewave
