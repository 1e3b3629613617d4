/-
The timers of one session in the message hub.  At most one of them may still
expire, and it is the session's entry; `Register` makes the new timer that
one, `Deregister` and an expiry leave none.
-/
import Pipewave.MsgHub

namespace Pipewave

/-- The timer will run `onExpired` unless it is cancelled. -/
def Registration.armed (r : Registration) : Bool :=
  !r.cancelled && (decide (r.phase = .queued) || r.isWaiting)

namespace Hub

section Timers

variable {hub hub' : Hub} {auth : WebsocketAuth} {i j : Nat} {now : Int}

def Armed (hub : Hub) (i : Nat) : Prop :=
  ∃ r, hub.reg i = some r ∧ r.armed = true

/-- The timer has not run `onExpired` and is not going to. -/
def Spent (hub : Hub) (i : Nat) : Prop :=
  ∃ r, hub.reg i = some r ∧ r.armed = false ∧ r.phase ≠ .expired

/-- The hub of one session: a timer that may still expire is its entry. -/
structure Tracks (hub : Hub) (auth : WebsocketAuth) : Prop where
  own : ∀ i r, hub.reg i = some r →
    r.userID = auth.userID ∧ r.instanceID = auth.instanceID
  current : ∀ i, hub.Armed i →
    (hub.registry.get auth.userID auth.instanceID).map Entry.cancel = some i
  bound : ∀ e, hub.registry.get auth.userID auth.instanceID = some e →
    e.cancel < hub.regs.length

/-- The registration of a new timer. -/
def fresh (hub : Hub) (auth : WebsocketAuth) : Registration :=
  { userID := auth.userID, instanceID := auth.instanceID
    gen := hub.genSeq + 1, phase := .queued }

theorem length_cancelEntry (prev : Option Entry) :
    (hub.cancelEntry prev).regs.length = hub.regs.length := by
  cases prev with
  | none => rfl
  | some e => exact List.length_modify _ _ _

variable {r : Registration} {prev : Option Entry}

theorem insert_spec (hreg : hub.reg i = some r)
    (hphase : r.phase = .allocated) :
    ∃ next, hub.insert i = some next ∧
      next.registry = hub.registry.set r.userID r.instanceID ⟨i, r.gen⟩ ∧
      next.regs.length = hub.regs.length ∧
      ∀ j, next.reg j =
        let before :=
          (hub.cancelEntry (hub.registry.get r.userID r.instanceID)).reg j
        if i = j then before.map fun r => { r with phase := .inserted }
        else before := by
  simp only [insert, hreg, hphase, ne_eq, not_true_eq_false, ↓reduceIte]
  refine ⟨_, rfl, ?_, ?_, ?_⟩
  · rw [registry_modifyReg, registry_cancelEntry]
  · exact (List.length_modify _ _ _).trans (length_cancelEntry _)
  · intro j
    exact reg_modifyReg _

theorem moveTo_spec {enabled : Registration → Bool} (phase : Phase)
    {r : Registration} (hreg : hub.reg i = some r)
    (henabled : enabled r = true) :
    ∃ next, hub.moveTo i enabled phase = some next ∧
      next.registry = hub.registry ∧ next.regs.length = hub.regs.length ∧
      ∀ j, next.reg j =
        if i = j then (hub.reg j).map fun r => { r with phase := phase }
        else hub.reg j := by
  simp only [moveTo, hreg, henabled, ↓reduceIte]
  refine ⟨_, rfl, rfl, List.length_modify _ _ _, ?_⟩
  intro j
  exact reg_modifyReg _

/-- What `Register` leaves in the registry and in the list of timers, where
the entry it replaces belongs to an earlier timer. -/
theorem register_spec (hbound : ∀ e, hub.registry.get auth.userID
      auth.instanceID = some e → e.cancel < hub.regs.length) :
    let next := hub.register auth.userID auth.instanceID true
    next.registry.get auth.userID auth.instanceID =
        some ⟨hub.regs.length, hub.genSeq + 1⟩ ∧
      next.regs.length = hub.regs.length + 1 ∧
      ∀ j, next.reg j =
        if j = hub.regs.length then some (hub.fresh auth)
        else (hub.cancelEntry
          (hub.registry.get auth.userID auth.instanceID)).reg j := by
  have hnew := @reg_allocate hub hub.regs.length auth.userID auth.instanceID
  rw [if_pos rfl] at hnew
  obtain ⟨inserted, hinsert, hregistry, hlength, hregs⟩ :=
    insert_spec hnew rfl
  have hprev : (hub.allocate auth.userID auth.instanceID).registry.get
      auth.userID auth.instanceID =
        hub.registry.get auth.userID auth.instanceID := rfl
  have hother : (hub.registry.get auth.userID auth.instanceID).map
      Entry.cancel ≠ some hub.regs.length := by
    intro hsome
    obtain ⟨e, he, hcancel⟩ := Option.map_eq_some_iff.mp hsome
    exact (hbound e he).ne hcancel
  have hinserted : inserted.reg hub.regs.length =
      some { hub.fresh auth with phase := .inserted } := by
    simp only [hregs, ↓reduceIte, hprev, reg_cancelEntry, hother, hnew]
    rfl
  obtain ⟨queued, hsubmit, hregistry', hlength', hregs'⟩ :=
    @moveTo_spec inserted hub.regs.length (fun r => r.phase = .inserted)
      .queued _ hinserted rfl
  have hregister : hub.register auth.userID auth.instanceID true = queued := by
    simp only [register, hinsert, submit, ↓reduceIte, hsubmit,
      Option.getD_some]
  simp only [hregister]
  refine ⟨?_, ?_, ?_⟩
  · rw [hregistry', hregistry, NestedMap.get_set, if_pos ⟨rfl, rfl⟩]
  · rw [hlength', hlength, allocate, List.length_append,
      List.length_singleton]
  · intro j
    by_cases hj : hub.regs.length = j
    · subst hj
      rw [hregs', if_pos rfl, if_pos rfl, hinserted]
      rfl
    · simp only [hregs', hregs, hj, Ne.symm hj, ↓reduceIte, hprev,
        reg_cancelEntry, reg_allocate]

/-- A cancelled context leaves everything else of its timer alone. -/
theorem reg_cancelEntry_some {r' : Registration}
    (hreg : (hub.cancelEntry prev).reg j = some r') :
    ∃ r, hub.reg j = some r ∧ r'.userID = r.userID ∧
      r'.instanceID = r.instanceID ∧ r'.phase = r.phase ∧
      (r' = r ∧ prev.map Entry.cancel ≠ some j ∨ r'.cancelled = true) := by
  rw [reg_cancelEntry] at hreg
  split at hreg
  · obtain ⟨r, hr, rfl⟩ := Option.map_eq_some_iff.mp hreg
    exact ⟨r, hr, rfl, rfl, rfl, .inr rfl⟩
  · next hother => exact ⟨r', hreg, rfl, rfl, rfl, .inl ⟨rfl, hother⟩⟩

theorem armed_of_cancelled (hcancelled : r.cancelled = true) :
    r.armed = false := by
  simp [Registration.armed, hcancelled]

theorem Tracks.not_armed_cancelEntry (htracks : hub.Tracks auth) :
    ¬ (hub.cancelEntry
      (hub.registry.get auth.userID auth.instanceID)).Armed j := by
  rintro ⟨r', hreg, harmed⟩
  obtain ⟨r, hr, -, -, -, hsame | hcancelled⟩ := reg_cancelEntry_some hreg
  · obtain ⟨rfl, hother⟩ := hsame
    exact hother (htracks.current j ⟨r', hr, harmed⟩)
  · rw [armed_of_cancelled hcancelled] at harmed
    cases harmed

theorem Tracks.own_cancelEntry (htracks : hub.Tracks auth)
    (hreg : (hub.cancelEntry prev).reg j = some r) :
    r.userID = auth.userID ∧ r.instanceID = auth.instanceID := by
  obtain ⟨r₀, hr₀, huser, hinstance, -⟩ := reg_cancelEntry_some hreg
  obtain ⟨huser₀, hinstance₀⟩ := htracks.own j r₀ hr₀
  exact ⟨huser.trans huser₀, hinstance.trans hinstance₀⟩

theorem Spent.cancelEntry (hspent : hub.Spent j) (prev : Option Entry) :
    (hub.cancelEntry prev).Spent j := by
  obtain ⟨r, hreg, harmed, hphase⟩ := hspent
  unfold Spent
  rw [reg_cancelEntry]
  split
  · rw [hreg]
    exact ⟨_, rfl, armed_of_cancelled rfl, hphase⟩
  · exact ⟨r, hreg, harmed, hphase⟩

theorem Spent.lt (hspent : hub.Spent j) : j < hub.regs.length := by
  obtain ⟨r, hreg, -⟩ := hspent
  exact (List.getElem?_eq_some_iff.mp hreg).1

/-- Behind `Register` the new timer is the only one that may expire. -/
theorem Tracks.armed_register (htracks : hub.Tracks auth) :
    (hub.register auth.userID auth.instanceID true).Armed j ↔
      j = hub.regs.length := by
  obtain ⟨-, -, hregs⟩ := register_spec htracks.bound
  unfold Armed
  rw [hregs]
  split
  · next hnew => exact iff_of_true ⟨_, rfl, rfl⟩ hnew
  · next hold => exact iff_of_false htracks.not_armed_cancelEntry hold

theorem Tracks.register (htracks : hub.Tracks auth) :
    (hub.register auth.userID auth.instanceID true).Tracks auth := by
  obtain ⟨hget, hlength, hregs⟩ := register_spec htracks.bound
  refine ⟨?_, ?_, ?_⟩
  · intro i r hreg
    rw [hregs] at hreg
    split at hreg
    · cases hreg
      exact ⟨rfl, rfl⟩
    · exact htracks.own_cancelEntry hreg
  · intro i harmed
    rw [hget, htracks.armed_register.mp harmed]
    rfl
  · intro e he
    rw [hget] at he
    cases he
    rw [hlength]
    exact Nat.lt_succ_self _

theorem Spent.register (hspent : hub.Spent j) (htracks : hub.Tracks auth) :
    (hub.register auth.userID auth.instanceID true).Spent j := by
  obtain ⟨-, -, hregs⟩ := register_spec htracks.bound
  unfold Spent
  rw [hregs, if_neg hspent.lt.ne]
  exact hspent.cancelEntry _

/-- Behind `Deregister` no timer of the session expires. -/
theorem Tracks.not_armed_deregister (htracks : hub.Tracks auth) :
    ¬ (hub.deregister auth.userID auth.instanceID).Armed j := by
  unfold Armed
  rw [reg_deregister]
  exact htracks.not_armed_cancelEntry

theorem Tracks.deregister (htracks : hub.Tracks auth) :
    (hub.deregister auth.userID auth.instanceID).Tracks auth := by
  refine ⟨?_, ?_, ?_⟩
  · intro i r hreg
    rw [reg_deregister] at hreg
    exact htracks.own_cancelEntry hreg
  · intro i harmed
    exact absurd harmed htracks.not_armed_deregister
  · intro e he
    rw [get_deregister, if_pos ⟨rfl, rfl⟩] at he
    cases he

theorem Spent.deregister (hspent : hub.Spent j) (auth : WebsocketAuth) :
    (hub.deregister auth.userID auth.instanceID).Spent j := by
  unfold Spent
  rw [reg_deregister]
  exact hspent.cancelEntry _

section Moves

variable {enabled : Registration → Bool} {phase : Phase}
  (hmove : hub.moveTo i enabled phase = some hub')
  (hkeeps : ∀ r, enabled r = true → { r with phase := phase }.armed = r.armed)

include hmove hkeeps

theorem armed_moveTo : hub'.Armed j ↔ hub.Armed j := by
  obtain ⟨r, hreg, henabled, rfl⟩ := moveTo_eq_some hmove
  unfold Armed
  rw [reg_modifyReg]
  by_cases hsame : i = j
  · subst hsame
    simp [hreg, hkeeps r henabled]
  · rw [if_neg hsame]

theorem Tracks.moveTo (htracks : hub.Tracks auth) : hub'.Tracks auth := by
  have harmed : ∀ j, hub'.Armed j ↔ hub.Armed j :=
    fun j => armed_moveTo hmove hkeeps
  obtain ⟨r, hreg, henabled, rfl⟩ := moveTo_eq_some hmove
  refine ⟨?_, ?_, ?_⟩
  · intro j r' hreg'
    rw [reg_modifyReg] at hreg'
    split at hreg'
    · obtain ⟨r₀, hr₀, rfl⟩ := Option.map_eq_some_iff.mp hreg'
      exact htracks.own j r₀ hr₀
    · exact htracks.own j r' hreg'
  · intro j hj
    exact htracks.current j ((harmed j).mp hj)
  · intro e he
    exact (htracks.bound e he).trans_eq (List.length_modify _ _ _).symm

theorem Spent.moveTo (hspent : hub.Spent j) (hphase : phase ≠ .expired) :
    hub'.Spent j := by
  obtain ⟨r', hreg', harmed, hexpired⟩ := hspent
  obtain ⟨r, hreg, henabled, rfl⟩ := moveTo_eq_some hmove
  unfold Spent
  rw [reg_modifyReg]
  by_cases hsame : i = j
  · subst hsame
    rw [hreg] at hreg'
    cases hreg'
    rw [if_pos rfl, hreg]
    exact ⟨_, rfl, (hkeeps r' henabled).trans harmed, hphase⟩
  · rw [if_neg hsame]
    exact ⟨r', hreg', harmed, hexpired⟩

end Moves

theorem start_keeps (deadline : Int) (r : Registration)
    (hqueued : decide (r.phase = .queued) = true) :
    { r with phase := .waiting deadline }.armed = r.armed := by
  simp [Registration.armed, Registration.isWaiting, of_decide_eq_true hqueued]

theorem stop_keeps (r : Registration)
    (hstops : (r.isWaiting && r.cancelled) = true) :
    { r with phase := .stopped }.armed = r.armed := by
  have hcancelled := (Bool.and_eq_true _ _ ▸ hstops).2
  simp [Registration.armed, hcancelled]

/-- A timer that runs out: its goroutine wakes, takes the lock and calls
`onExpired`. -/
def expire (hub : Hub) (i : Nat) (now : Int) : Option Hub :=
  (hub.fire i now).bind fun fired => (fired.lock i).bind (·.call i)

theorem lock_spec (hreg : hub.reg i = some r) (hphase : r.phase = .fired) :
    ∃ next, hub.lock i = some next ∧
      next.regs = (hub.modifyReg i fun r => { r with
        phase := .locked, heldAtLock := decide (hub.Current i r) }).regs ∧
      ∀ userID instanceID e, next.registry.get userID instanceID = some e →
        hub.registry.get userID instanceID = some e := by
  simp only [lock, hreg, hphase, ne_eq, not_true_eq_false, ↓reduceIte]
  split
  · exact ⟨_, rfl, rfl, fun _ _ _ he => he⟩
  · split
    · refine ⟨_, rfl, rfl, ?_⟩
      intro userID instanceID e he
      rw [NestedMap.get_delete] at he
      split at he
      · cases he
      · exact he
    · exact ⟨_, rfl, rfl, fun _ _ _ he => he⟩

/-- What the expiry of a timer that has run out leaves behind. -/
theorem expire_spec (hreg : hub.reg i = some r) (hdue : r.due now = true) :
    ∃ next, hub.expire i now = some next ∧
      next.regs.length = hub.regs.length ∧
      (∃ r', next.reg i = some r' ∧ r'.userID = r.userID ∧
        r'.instanceID = r.instanceID ∧ r'.phase = .expired) ∧
      (∀ j, j ≠ i → next.reg j = hub.reg j) ∧
      ∀ userID instanceID e, next.registry.get userID instanceID = some e →
        hub.registry.get userID instanceID = some e := by
  obtain ⟨fired, hfire, hregistry₁, hlength₁, hregs₁⟩ :=
    @moveTo_spec hub i (fun r => r.due now) .fired r hreg hdue
  have hfired : fired.reg i = some { r with phase := .fired } := by
    rw [hregs₁, if_pos rfl, hreg]
    rfl
  obtain ⟨locked, hlock, hregs₂, hregistry₂⟩ := lock_spec hfired rfl
  have hlocked : ∀ j, locked.reg j = _ := fun j =>
    (congrArg (·[j]?) hregs₂).trans (@reg_modifyReg fired i j _)
  have hlocked_i := (hlocked i).trans (if_pos rfl)
  rw [hfired] at hlocked_i
  obtain ⟨called, hcall, hregistry₃, hlength₃, hregs₃⟩ :=
    @moveTo_spec locked i (fun r => r.phase = .locked) .expired _ hlocked_i
      rfl
  refine ⟨called, ?_, ?_, ?_, ?_, ?_⟩
  · simp only [expire, fire, hfire, Option.bind_some, hlock, call, hcall]
  · rw [hlength₃, hregs₂, ← hlength₁]
    exact List.length_modify _ _ _
  · rw [hregs₃, if_pos rfl, hlocked_i]
    exact ⟨_, rfl, rfl, rfl, rfl⟩
  · intro j hne
    rw [hregs₃, if_neg (Ne.symm hne), hlocked, if_neg (Ne.symm hne), hregs₁,
      if_neg (Ne.symm hne)]
  · intro userID instanceID e he
    rw [hregistry₃] at he
    exact hregistry₁ ▸ hregistry₂ userID instanceID e he

theorem expire_due (hexpire : hub.expire i now = some hub') :
    ∃ r, hub.reg i = some r ∧ r.due now = true := by
  obtain ⟨fired, hfire, -⟩ := Option.bind_eq_some_iff.mp hexpire
  obtain ⟨r, hreg, hdue, -⟩ := moveTo_eq_some hfire
  exact ⟨r, hreg, hdue⟩

theorem armed_of_due (hdue : r.due now = true)
    (hcancelled : r.cancelled = false) : r.armed = true := by
  cases hphase : r.phase <;>
    simp_all [Registration.due, Registration.armed, Registration.isWaiting]

/-- The timer that expires was the only one that could. -/
theorem Tracks.not_armed_expire (htracks : hub.Tracks auth)
    (harmed : hub.Armed i) (hexpire : hub.expire i now = some hub') :
    ¬ hub'.Armed j := by
  obtain ⟨r, hreg, hdue⟩ := expire_due hexpire
  obtain ⟨next, hnext, -, ⟨r', hr', -, -, hphase⟩, hothers, -⟩ :=
    expire_spec hreg hdue
  rw [hexpire] at hnext
  cases hnext
  rintro ⟨rj, hrj, hj⟩
  by_cases hsame : j = i
  · subst hsame
    rw [hr'] at hrj
    cases hrj
    simp [Registration.armed, Registration.isWaiting, hphase] at hj
  · rw [hothers j hsame] at hrj
    have hcurrent := htracks.current j ⟨rj, hrj, hj⟩
    rw [htracks.current i harmed] at hcurrent
    exact hsame (Option.some.inj hcurrent).symm

theorem Tracks.expire (htracks : hub.Tracks auth) (harmed : hub.Armed i)
    (hexpire : hub.expire i now = some hub') : hub'.Tracks auth := by
  have hnone : ∀ j, ¬ hub'.Armed j :=
    fun j => htracks.not_armed_expire harmed hexpire
  obtain ⟨r, hreg, hdue⟩ := expire_due hexpire
  obtain ⟨next, hnext, hlength, ⟨r', hr', huser, hinstance, -⟩, hothers,
    hregistry⟩ := expire_spec hreg hdue
  rw [hexpire] at hnext
  cases hnext
  refine ⟨?_, fun j hj => absurd hj (hnone j), ?_⟩
  · intro j rj hrj
    by_cases hsame : j = i
    · subst hsame
      rw [hr'] at hrj
      cases hrj
      obtain ⟨huser₀, hinstance₀⟩ := htracks.own j r hreg
      exact ⟨huser.trans huser₀, hinstance.trans hinstance₀⟩
    · exact htracks.own j rj (hothers j hsame ▸ hrj)
  · intro e he
    exact (htracks.bound e (hregistry _ _ e he)).trans_eq hlength.symm

theorem Spent.expire (hspent : hub.Spent j) (harmed : hub.Armed i)
    (hexpire : hub.expire i now = some hub') : hub'.Spent j := by
  obtain ⟨r, hreg, hdue⟩ := expire_due hexpire
  obtain ⟨next, hnext, -, -, hothers, -⟩ := expire_spec hreg hdue
  rw [hexpire] at hnext
  cases hnext
  obtain ⟨rj, hrj, hunarmed, hphase⟩ := hspent
  have hne : j ≠ i := by
    rintro rfl
    obtain ⟨ri, hri, hi⟩ := harmed
    rw [hri] at hrj
    cases hrj
    rw [hi] at hunarmed
    cases hunarmed
  exact ⟨rj, (hothers j hne).trans hrj, hunarmed, hphase⟩

end Timers

end Hub

end Pipewave
