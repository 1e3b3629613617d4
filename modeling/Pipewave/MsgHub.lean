/-
The message hub's registry of temporarily disconnected sessions.  A
registration owns a timer goroutine; the lock sections of `Register`,
`Deregister`, `Shutdown` and of that goroutine are single steps, and so are
the timer's firing and the final call of `onExpired`.
-/
import Pipewave.Auth
import Pipewave.GoMap
import Pipewave.Transition

namespace Pipewave

/-- Where a registration is.  `allocated` has its generation and not yet its
entry; `locked` has left the lock section and not yet called `onExpired`. -/
inductive Phase where
  | allocated
  | inserted
  | queued
  | rejected
  | waiting (deadline : Int)
  | fired
  | locked
  | expired
  | stopped
deriving Repr, DecidableEq

/-- One call of `registerWithTTL` with its goroutine.  `removed` records that
another party took its entry out of the registry, `heldAtLock` whether it was
the entry when its goroutine took the lock; no step reads either. -/
structure Registration where
  userID : Bytes
  instanceID : Bytes
  gen : UInt64
  phase : Phase := .allocated
  cancelled : Bool := false
  removed : Bool := false
  heldAtLock : Bool := false
deriving Repr, DecidableEq

/-- The timer of a waiting goroutine has run out. -/
def Registration.due (r : Registration) (now : Int) : Bool :=
  match r.phase with
  | .waiting deadline => deadline ≤ now
  | _ => false

def Registration.isWaiting (r : Registration) : Bool :=
  match r.phase with
  | .waiting _ => true
  | _ => false

/-- A registry entry: the registration its cancel function belongs to, and
its generation. -/
structure Entry where
  cancel : Nat
  gen : UInt64
deriving Repr, DecidableEq

structure Hub where
  ttl : Int
  genSeq : UInt64 := 0
  registry : NestedMap Bytes Bytes Entry := ∅
  regs : List Registration := []

namespace Hub

def reg (hub : Hub) (i : Nat) : Option Registration := hub.regs[i]?

def modifyReg (hub : Hub) (i : Nat) (f : Registration → Registration) : Hub :=
  { hub with regs := hub.regs.modify i f }

/-- The registration is the entry of its session. -/
def Current (hub : Hub) (i : Nat) (r : Registration) : Prop :=
  ∃ e, hub.registry.get r.userID r.instanceID = some e ∧ e.cancel = i

instance (hub : Hub) (i : Nat) (r : Registration) :
    Decidable (hub.Current i r) :=
  match hget : hub.registry.get r.userID r.instanceID with
  | none => .isFalse fun ⟨_, h, _⟩ => by rw [hget] at h; cases h
  | some e =>
    if hcancel : e.cancel = i then .isTrue ⟨e, hget, hcancel⟩
    else .isFalse fun ⟨e', h, h'⟩ => by
      rw [hget] at h
      cases h
      exact hcancel h'

def isRegistered (hub : Hub) (userID instanceID : Bytes) : Bool :=
  (hub.registry.get userID instanceID).isSome

/-- The instances registered for a user. -/
def getSessions (hub : Hub) (userID : Bytes) : List Bytes :=
  (hub.registry.inner userID).map Prod.fst

/-- The context is made and the generation drawn. -/
def allocate (hub : Hub) (userID instanceID : Bytes) : Hub :=
  { hub with
    genSeq := hub.genSeq + 1
    regs := hub.regs ++ [{ userID, instanceID, gen := hub.genSeq + 1 }] }

/-- An entry that is taken out has its context cancelled. -/
def cancelEntry (hub : Hub) : Option Entry → Hub
  | none => hub
  | some e => hub.modifyReg e.cancel fun r =>
    { r with cancelled := true, removed := true }

/-- The lock section of `registerWithTTL`. -/
def insert (hub : Hub) (i : Nat) : Option Hub :=
  match hub.reg i with
  | none => none
  | some r =>
    if r.phase ≠ .allocated then none
    else
      let prev := hub.registry.get r.userID r.instanceID
      let hub := (hub.cancelEntry prev).modifyReg i fun r =>
        { r with phase := .inserted }
      some { hub with
        registry := hub.registry.set r.userID r.instanceID
          { cancel := i, gen := r.gen } }

/-- Move a registration from one phase to another. -/
def moveTo (hub : Hub) (i : Nat) (enabled : Registration → Bool)
    (phase : Phase) : Option Hub :=
  match hub.reg i with
  | none => none
  | some r =>
    if enabled r then
      some (hub.modifyReg i fun r => { r with phase := phase })
    else none

/-- The task is handed to the worker pool, which may reject it. -/
def submit (hub : Hub) (i : Nat) (accepted : Bool) : Option Hub :=
  hub.moveTo i (fun r => r.phase = .inserted)
    (if accepted then .queued else .rejected)

/-- A whole call of `Register`, whose only lock section is `insert`. -/
def register (hub : Hub) (userID instanceID : Bytes) (accepted : Bool) : Hub :=
  let i := hub.regs.length
  let hub := hub.allocate userID instanceID
  match hub.insert i with
  | none => hub
  | some hub => (hub.submit i accepted).getD hub

/-- A worker picks the task up and starts the timer. -/
def start (hub : Hub) (i : Nat) (now : Int) : Option Hub :=
  hub.moveTo i (fun r => r.phase = .queued) (.waiting (now + hub.ttl))

/-- The select takes the timer's arm. -/
def fire (hub : Hub) (i : Nat) (now : Int) : Option Hub :=
  hub.moveTo i (fun r => r.due now) .fired

/-- The select takes the context's arm. -/
def stop (hub : Hub) (i : Nat) : Option Hub :=
  hub.moveTo i (fun r => r.isWaiting && r.cancelled) .stopped

/-- The goroutine's lock section: it deletes the entry of its session if the
generations agree. -/
def lock (hub : Hub) (i : Nat) : Option Hub :=
  match hub.reg i with
  | none => none
  | some r =>
    if r.phase ≠ .fired then none
    else
      let hub' := hub.modifyReg i fun r =>
        { r with phase := .locked, heldAtLock := decide (hub.Current i r) }
      match hub.registry.get r.userID r.instanceID with
      | none => some hub'
      | some e =>
        if e.gen = r.gen then
          some { hub' with
            registry := hub.registry.delete r.userID r.instanceID }
        else some hub'

/-- The call of `onExpired`, made whatever the lock section found. -/
def call (hub : Hub) (i : Nat) : Option Hub :=
  hub.moveTo i (fun r => r.phase = .locked) .expired

def deregister (hub : Hub) (userID instanceID : Bytes) : Hub :=
  match hub.registry.get userID instanceID with
  | none => hub
  | some e =>
    { hub.cancelEntry (some e) with
      registry := hub.registry.delete userID instanceID }

/-- The registrations `Shutdown` collects under the lock. -/
def collect (hub : Hub) : List Nat :=
  hub.registry.values.map Entry.cancel

/-- The lock section of `Shutdown`. -/
def reset (hub : Hub) : Hub :=
  { hub with
    registry := ∅
    regs := hub.regs.mapIdx fun i r =>
      if i ∈ hub.collect then { r with removed := true } else r }

/-- `Shutdown` cancels one collected context after the lock is released. -/
def cancel (hub : Hub) (i : Nat) : Hub :=
  hub.modifyReg i fun r => { r with cancelled := true }

section Lemmas

variable {hub hub' : Hub} {i j : Nat}

@[simp] theorem registry_modifyReg (f : Registration → Registration) :
    (hub.modifyReg i f).registry = hub.registry := rfl

theorem mem_getSessions {hub : Hub} {userID instanceID : Bytes} :
    instanceID ∈ hub.getSessions userID ↔
      hub.isRegistered userID instanceID = true := by
  rw [isRegistered, Option.isSome_iff_exists, getSessions, List.mem_map]
  constructor
  · rintro ⟨⟨key, entry⟩, hentry, rfl⟩
    exact ⟨entry, NestedMap.mem_inner.mp hentry⟩
  · rintro ⟨entry, hget⟩
    exact ⟨(instanceID, entry), NestedMap.mem_inner.mpr hget, rfl⟩

theorem reg_modifyReg (f : Registration → Registration) :
    (hub.modifyReg i f).reg j =
      if i = j then (hub.reg j).map f else hub.reg j := by
  by_cases hsame : i = j
  · simp [reg, modifyReg, hsame]
  · simp [reg, modifyReg, hsame]

theorem reg_eq_none_of_length_le (hle : hub.regs.length ≤ j) :
    hub.reg j = none :=
  List.getElem?_eq_none hle

theorem reg_allocate (userID instanceID : Bytes) :
    (hub.allocate userID instanceID).reg j =
      if j = hub.regs.length then
        some { userID, instanceID, gen := hub.genSeq + 1 }
      else hub.reg j := by
  rcases Nat.lt_trichotomy j hub.regs.length with hlt | rfl | hgt
  · rw [if_neg hlt.ne]
    exact List.getElem?_append_left hlt
  · rw [if_pos rfl]
    exact List.getElem?_concat_length
  · rw [if_neg hgt.ne', reg_eq_none_of_length_le hgt.le]
    apply List.getElem?_eq_none
    simp only [allocate, List.length_append, List.length_singleton]
    omega

@[simp] theorem registry_cancelEntry (prev : Option Entry) :
    (hub.cancelEntry prev).registry = hub.registry := by
  cases prev <;> rfl

theorem reg_cancelEntry (prev : Option Entry) :
    (hub.cancelEntry prev).reg j =
      if prev.map Entry.cancel = some j then (hub.reg j).map fun r =>
        { r with cancelled := true, removed := true }
      else hub.reg j := by
  cases prev with
  | none => simp [cancelEntry]
  | some e => simp [cancelEntry, reg_modifyReg]

theorem get_deregister (userID instanceID userID' instanceID' : Bytes) :
    (hub.deregister userID instanceID).registry.get userID' instanceID' =
      if userID' = userID ∧ instanceID' = instanceID then none
      else hub.registry.get userID' instanceID' := by
  cases hget : hub.registry.get userID instanceID with
  | none =>
    simp only [deregister, hget]
    split
    · next hsame => rw [hsame.1, hsame.2, hget]
    · rfl
  | some e => simp only [deregister, hget, NestedMap.get_delete]

theorem reg_deregister (userID instanceID : Bytes) :
    (hub.deregister userID instanceID).reg j =
      (hub.cancelEntry (hub.registry.get userID instanceID)).reg j := by
  cases hget : hub.registry.get userID instanceID with
  | none => simp only [deregister, hget, cancelEntry]
  | some e =>
    simp only [deregister, hget]
    rfl

/-- Everything a phase change does. -/
theorem moveTo_eq_some {enabled : Registration → Bool} {phase : Phase}
    (hmove : hub.moveTo i enabled phase = some hub') :
    ∃ r, hub.reg i = some r ∧ enabled r = true ∧
      hub' = hub.modifyReg i fun r => { r with phase := phase } := by
  cases hreg : hub.reg i with
  | none => simp [moveTo, hreg] at hmove
  | some r =>
    by_cases henabled : enabled r = true
    · simp only [moveTo, hreg, henabled, ↓reduceIte,
        Option.some.injEq] at hmove
      exact ⟨r, rfl, henabled, hmove.symm⟩
    · simp [moveTo, hreg, henabled] at hmove

theorem reg_reset :
    hub.reset.reg j = (hub.reg j).map fun r =>
      if j ∈ hub.collect then { r with removed := true } else r := by
  simp [reset, reg]

theorem mem_collect : j ∈ hub.collect ↔
    ∃ userID instanceID e,
      hub.registry.get userID instanceID = some e ∧ e.cancel = j := by
  simp only [collect, List.mem_map, NestedMap.mem_values]
  constructor
  · rintro ⟨e, ⟨userID, instanceID, hget⟩, hcancel⟩
    exact ⟨userID, instanceID, e, hget, hcancel⟩
  · rintro ⟨userID, instanceID, e, hget, hcancel⟩
    exact ⟨e, ⟨userID, instanceID, hget⟩, hcancel⟩

end Lemmas

end Hub

end Pipewave
