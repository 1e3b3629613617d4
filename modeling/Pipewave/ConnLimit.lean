/-
The connection cap of the WebSocket server.  An attempt to open a connection
reserves a slot in a compare-and-swap loop and gives it back on each of its
failure branches or, once its connection exists, in the teardown that the
first `Close` wins.  Every atomic access is a step of its own.
-/
import Mathlib.Tactic.Ring
import Pipewave.Pool
import Pipewave.Transition

namespace Pipewave

namespace ConnLimit

open Transition

/-- Which branch of `NewConnection` an error came back from. -/
inductive Failure where
  | early
  | file
  | descriptor
  | start
deriving Repr, DecidableEq

/-- Where a call of `NewConnection` is. -/
inductive Stage where
  | entering
  | loading
  /-- `cur` was read and is below the cap. -/
  | loaded (cur : Int)
  | refused
  | reserved
  | fileFailed
  | fileChecked
  | accepted
  | descriptorFailed
  | descriptorReleased
  | starting
  | startFailed
  | returned
  | failed (why : Failure)
deriving Repr, DecidableEq

/-- Where the one `removeClient` is that found the closed flag at 0. -/
inductive Teardown where
  | unclosed
  | counting
  | decrementing
  | cleaning
  | finished
deriving Repr, DecidableEq

/-- An attempt with the connection it makes.  `closers` are the calls of
`Close` before their compare-and-swap; `releases` counts the releases executed
and is not read. -/
structure Attempt where
  stage : Stage := .entering
  slotReleased : Bool := false
  closers : Nat := 0
  teardown : Teardown := .unclosed
  releases : Nat := 0
deriving Repr, DecidableEq

/-- The closed flag of the connection is 1. -/
def Attempt.closed (a : Attempt) : Bool := a.teardown ≠ .unclosed

structure Counters where
  connections : Int := 0
  connectionsAccepted : Int := 0
  connectionsClosed : Int := 0
  connectionsRejected : Int := 0
deriving Repr, DecidableEq

inductive Act where
  /-- The health check and the check for a nil connection. -/
  | check (ok : Bool)
  | load
  | swap
  | reject
  /-- `File` of a TCP connection; any other connection passes. -/
  | file (ok : Bool)
  | releaseFile
  | accept
  /-- `HandleReadOnce`. -/
  | descriptor (ok : Bool)
  | releaseDescriptor
  | countFailed
  /-- `poller.Start` comes back. -/
  | start (ok : Bool)
  | closeFailedStart
  /-- Someone calls `Close`. -/
  | callClose
  | swapClosed
  | countClosed
  | decrement
  | cleanUp
deriving Repr, DecidableEq

/-- `releaseSlot`, guarded by its own flag. -/
def releaseSlot (k : Counters) (a : Attempt) : Counters × Attempt :=
  if a.slotReleased then (k, a)
  else ({ k with connections := k.connections - 1 },
    { a with slotReleased := true, releases := a.releases + 1 })

/-- The poller may call back, or a caller may hold the connection. -/
def Stage.closeable : Stage → Bool
  | .starting | .startFailed | .returned => true
  | _ => false

def advance (maxConns : Int) (k : Counters) (a : Attempt) :
    Act → Option (Counters × Attempt)
  | .check ok =>
    if a.stage ≠ .entering then none
    else some (k, { a with
      stage := if ok then .loading else .failed .early })
  | .load =>
    if a.stage ≠ .loading then none
    else if maxConns ≤ 0 then
      some ({ k with connections := k.connections + 1 },
        { a with stage := .reserved })
    else if maxConns ≤ k.connections then
      some (k, { a with stage := .refused })
    else some (k, { a with stage := .loaded k.connections })
  | .swap =>
    match a.stage with
    | .loaded cur =>
      if k.connections = cur then
        some ({ k with connections := cur + 1 },
          { a with stage := .reserved })
      else some (k, { a with stage := .loading })
    | _ => none
  | .reject =>
    if a.stage ≠ .refused then none
    else some ({ k with connectionsRejected := k.connectionsRejected + 1 },
      { a with stage := .failed .early })
  | .file ok =>
    if a.stage ≠ .reserved then none
    else some (k, { a with
      stage := if ok then .fileChecked else .fileFailed })
  | .releaseFile =>
    if a.stage ≠ .fileFailed then none
    else
      let (k, a) := releaseSlot k a
      some (k, { a with stage := .failed .file })
  | .accept =>
    if a.stage ≠ .fileChecked then none
    else some ({ k with connectionsAccepted := k.connectionsAccepted + 1 },
      { a with stage := .accepted })
  | .descriptor ok =>
    if a.stage ≠ .accepted then none
    else some (k, { a with
      stage := if ok then .starting else .descriptorFailed })
  | .releaseDescriptor =>
    if a.stage ≠ .descriptorFailed then none
    else
      let (k, a) := releaseSlot k a
      some (k, { a with stage := .descriptorReleased })
  | .countFailed =>
    if a.stage ≠ .descriptorReleased then none
    else some ({ k with connectionsClosed := k.connectionsClosed + 1 },
      { a with stage := .failed .descriptor })
  | .start ok =>
    if a.stage ≠ .starting then none
    else if ok then some (k, { a with stage := .returned })
    else some (k, { a with stage := .startFailed, slotReleased := true })
  | .closeFailedStart =>
    if a.stage ≠ .startFailed then none
    else some (k, { a with
      stage := .failed .start, closers := a.closers + 1 })
  | .callClose =>
    if a.stage.closeable then
      some (k, { a with closers := a.closers + 1 })
    else none
  | .swapClosed =>
    if a.closers = 0 then none
    else if a.closed then some (k, { a with closers := a.closers - 1 })
    else some (k, { a with
      closers := a.closers - 1, teardown := .counting })
  | .countClosed =>
    if a.teardown ≠ .counting then none
    else some ({ k with connectionsClosed := k.connectionsClosed + 1 },
      { a with teardown := .decrementing })
  | .decrement =>
    if a.teardown ≠ .decrementing then none
    else some ({ k with connections := k.connections - 1 },
      { a with teardown := .cleaning, releases := a.releases + 1 })
  | .cleanUp =>
    if a.teardown ≠ .cleaning then none
    else some (k, { a with teardown := .finished })

structure State where
  counters : Counters := {}
  attempts : List Attempt := []
deriving Repr, DecidableEq

inductive Label where
  /-- `NewConnection` is called. -/
  | newConnection
  | act (i : Nat) (act : Act)
deriving Repr, DecidableEq

def step (maxConns : Int) (s : State) : Label → Option State
  | .newConnection => some { s with attempts := s.attempts ++ [{}] }
  | .act i act =>
    match s.attempts[i]? with
    | none => none
    | some a =>
      match advance maxConns s.counters a act with
      | none => none
      | some (k, a) =>
        some { counters := k, attempts := s.attempts.set i a }

/-- The attempt is past a successful `reserveSlot`. -/
def Stage.passedReserve : Stage → Bool
  | .entering | .loading | .loaded _ | .refused | .failed .early => false
  | _ => true

/-- It is, and has not executed a release. -/
def Attempt.holdsSlot (a : Attempt) : Bool :=
  a.stage.passedReserve ∧ a.releases = 0

/-- No part of `NewConnection` or of a `Close` is in progress. -/
def Attempt.idle (a : Attempt) : Bool :=
  (a.stage = .returned ∨
    a.stage ∈ [Failure.early, .file, .descriptor, .start].map .failed) ∧
  a.closers = 0 ∧ (a.teardown = .unclosed ∨ a.teardown = .finished)

/-- `NewConnection` returned the connection and its closed flag is 0. -/
def Attempt.isOpen (a : Attempt) : Bool := a.stage = .returned ∧ ¬ a.closed

/-- The cap is exact. -/
structure Exact (maxConns : Int) (s : State) : Prop where
  counts : s.counters.connections = s.attempts.countP Attempt.holdsSlot
  capped : s.counters.connections ≤ maxConns
  nonneg : 0 ≤ s.counters.connections
  once : ∀ a ∈ s.attempts, a.releases ≤ 1
  atRest : (∀ a ∈ s.attempts, a.idle = true) →
    s.counters.connections = s.attempts.countP Attempt.isOpen ∧
    s.counters.connections =
      s.counters.connectionsAccepted - s.counters.connectionsClosed

/-! ### What one attempt contributes -/

/-- The stages in which a connection exists that may be closed. -/
def Stage.hasClient : Stage → Bool
  | .starting | .startFailed | .returned | .failed .start => true
  | _ => false

/-- The slot as the branches of `NewConnection` leave it: taken, given back,
or never taken. -/
def Stage.slot : Stage → Int
  | .entering | .loading | .loaded _ | .refused | .descriptorReleased => 0
  | .failed .early | .failed .file | .failed .descriptor => 0
  | _ => 1

def Stage.branchReleases : Stage → Nat
  | .descriptorReleased | .failed .file | .failed .descriptor => 1
  | _ => 0

def Stage.slotSpent : Stage → Bool
  | .descriptorReleased | .failed .file | .failed .descriptor => true
  | .startFailed | .failed .start => true
  | _ => false

def Stage.acceptedOnce : Stage → Int
  | .accepted | .descriptorFailed | .descriptorReleased | .starting => 1
  | .startFailed | .returned | .failed .descriptor | .failed .start => 1
  | _ => 0

def Stage.closedOnce : Stage → Int
  | .failed .descriptor => 1
  | _ => 0

def Teardown.releases : Teardown → Nat
  | .cleaning | .finished => 1
  | _ => 0

def Teardown.closedOnce : Teardown → Int
  | .decrementing | .cleaning | .finished => 1
  | _ => 0

namespace Attempt

variable (a : Attempt)

def slot : Int := a.stage.slot - a.teardown.releases
def acceptedOnce : Int := a.stage.acceptedOnce
def closedOnce : Int := a.stage.closedOnce + a.teardown.closedOnce

/-- What holds of an attempt by itself. -/
structure Sane (maxConns : Int) : Prop where
  releases : a.releases = a.stage.branchReleases + a.teardown.releases
  slotReleased : a.slotReleased = a.stage.slotSpent
  unclosed : a.stage.hasClient = false →
    a.closers = 0 ∧ a.teardown = .unclosed
  closedStart : a.stage = .failed .start →
    a.closers = 0 → a.teardown ≠ .unclosed
  below : ∀ cur, a.stage = .loaded cur → cur < maxConns

end Attempt

theorem Stage.of_hasClient {stage : Stage} (hclient : stage.hasClient = true) :
    stage.passedReserve = true ∧ stage.branchReleases = 0 ∧
      stage.slot = 1 ∧ stage.acceptedOnce = 1 ∧ stage.closedOnce = 0 := by
  unfold hasClient at hclient
  split at hclient
  · exact ⟨rfl, rfl, rfl, rfl, rfl⟩
  · exact ⟨rfl, rfl, rfl, rfl, rfl⟩
  · exact ⟨rfl, rfl, rfl, rfl, rfl⟩
  · exact ⟨rfl, rfl, rfl, rfl, rfl⟩
  · cases hclient

section Sane

variable {maxConns : Int} {a : Attempt} (hsane : a.Sane maxConns)

include hsane

theorem Attempt.Sane.hasClient_of_teardown
    (hteardown : a.teardown ≠ .unclosed) : a.stage.hasClient = true := by
  by_contra hclient
  exact hteardown (hsane.unclosed (Bool.eq_false_iff.mpr hclient)).2

theorem Attempt.Sane.hasClient_of_closers (hclosers : a.closers ≠ 0) :
    a.stage.hasClient = true := by
  by_contra hclient
  exact hclosers (hsane.unclosed (Bool.eq_false_iff.mpr hclient)).1

theorem Attempt.Sane.releases_le_one : a.releases ≤ 1 := by
  rw [hsane.releases]
  cases hclient : a.stage.hasClient with
  | true =>
    rw [(Stage.of_hasClient hclient).2.1, Nat.zero_add]
    cases a.teardown <;> decide
  | false =>
    rw [(hsane.unclosed hclient).2]
    unfold Stage.branchReleases
    split <;> decide

/-- The weights count the attempts that hold a slot. -/
theorem Attempt.Sane.slot_eq :
    a.slot = if a.holdsSlot then 1 else 0 := by
  unfold slot holdsSlot
  rw [hsane.releases]
  cases hclient : a.stage.hasClient with
  | true =>
    obtain ⟨hpassed, hbranch, hslot, _⟩ := Stage.of_hasClient hclient
    rw [hpassed, hbranch, hslot]
    cases a.teardown <;> decide
  | false =>
    rw [(hsane.unclosed hclient).2]
    unfold Stage.slot Stage.branchReleases Stage.passedReserve
    cases a.stage with
    | failed why => cases why <;> rfl
    | _ => rfl

theorem Attempt.Sane.releases_eq (hclient : a.stage.hasClient = true) :
    a.releases = a.teardown.releases := by
  rw [hsane.releases, (Stage.of_hasClient hclient).2.1, Nat.zero_add]

end Sane

/-- One act changes the counters by what it changes of its attempt. -/
structure Moves (maxConns : Int) (k k' : Counters) (a a' : Attempt) :
    Prop where
  sane : a'.Sane maxConns
  connections : k'.connections - k.connections = a'.slot - a.slot
  accepted : k'.connectionsAccepted - k.connectionsAccepted =
    a'.acceptedOnce - a.acceptedOnce
  closed : k'.connectionsClosed - k.connectionsClosed =
    a'.closedOnce - a.closedOnce
  capped : k.connections ≤ maxConns → k'.connections ≤ maxConns

section Moves

variable {maxConns : Int} {k k' : Counters} {a a' : Attempt}

/-- An act of `NewConnection` while there is no connection. -/
theorem moves_branch (hsane : a.Sane maxConns)
    (hbefore : a.stage.hasClient = false)
    (hcloses : a'.closers = a.closers ∧ a'.teardown = a.teardown)
    (hreleases : a'.releases + a.stage.branchReleases =
      a.releases + a'.stage.branchReleases)
    (hspent : a'.slotReleased = a'.stage.slotSpent)
    (hfailed : a'.stage ≠ .failed .start)
    (hbelow : ∀ cur, a'.stage = .loaded cur → cur < maxConns)
    (hconnections : k'.connections - k.connections =
      a'.stage.slot - a.stage.slot)
    (haccepted : k'.connectionsAccepted - k.connectionsAccepted =
      a'.stage.acceptedOnce - a.stage.acceptedOnce)
    (hclosed : k'.connectionsClosed - k.connectionsClosed =
      a'.stage.closedOnce - a.stage.closedOnce)
    (hcapped : k.connections ≤ maxConns → k'.connections ≤ maxConns) :
    Moves maxConns k k' a a' := by
  obtain ⟨hclosers, hteardown⟩ := hcloses
  have hunclosed := hsane.unclosed hbefore
  refine ⟨⟨?_, hspent, fun _ => ?_, fun h => absurd h hfailed, hbelow⟩,
    ?_, haccepted, ?_, hcapped⟩
  · have hreleased := hsane.releases
    rw [hteardown]
    omega
  · rw [hclosers, hteardown]
    exact hunclosed
  · rw [hconnections, Attempt.slot, Attempt.slot, hteardown]
    ring
  · rw [hclosed, Attempt.closedOnce, Attempt.closedOnce, hteardown]
    ring

/-- The two stages come before the connection exists and count alike. -/
def Stage.alike (before after : Stage) : Bool :=
  decide (before.hasClient = false ∧
    after.branchReleases = before.branchReleases ∧
    after.slotSpent = before.slotSpent ∧ after.slot = before.slot ∧
    after.acceptedOnce = before.acceptedOnce ∧
    after.closedOnce = before.closedOnce ∧ after ≠ .failed .start)

variable {stage : Stage} {act : Act}

/-- An act that only moves on between stages that count alike. -/
theorem moves_quiet (hsane : a.Sane maxConns)
    (halike : a.stage.alike stage = true)
    (hcounts : k'.connections = k.connections ∧
      k'.connectionsAccepted = k.connectionsAccepted ∧
      k'.connectionsClosed = k.connectionsClosed)
    (hbelow : ∀ cur, stage = .loaded cur → cur < maxConns) :
    Moves maxConns k k' a { a with stage } := by
  obtain ⟨hconnections, haccepted, hclosed⟩ := hcounts
  obtain ⟨hbefore, hbranch, hspent, hslot, hacceptedOnce, hclosedOnce,
    hfailed⟩ := of_decide_eq_true halike
  refine moves_branch hsane hbefore ⟨rfl, rfl⟩ ?_ ?_ hfailed hbelow ?_ ?_ ?_ ?_
  · rw [hbranch]
  · rw [hspent]
    exact hsane.slotReleased
  · rw [hconnections, hslot, Int.sub_self, Int.sub_self]
  · rw [haccepted, hacceptedOnce, Int.sub_self, Int.sub_self]
  · rw [hclosed, hclosedOnce, Int.sub_self, Int.sub_self]
  · rw [hconnections]
    exact id

/-- An act on an attempt whose connection exists, before and after. -/
theorem moves_client (hbefore : a.stage.hasClient = true)
    (hafter : a'.stage.hasClient = true)
    (hreleases : a'.releases = a'.teardown.releases)
    (hspent : a'.slotReleased = a'.stage.slotSpent)
    (hclosedStart : a'.stage = .failed .start → a'.closers = 0 →
      a'.teardown ≠ .unclosed)
    (hconnections : k'.connections - k.connections =
      a.teardown.releases - a'.teardown.releases)
    (haccepted : k'.connectionsAccepted = k.connectionsAccepted)
    (hclosed : k'.connectionsClosed - k.connectionsClosed =
      a'.teardown.closedOnce - a.teardown.closedOnce)
    (hcapped : k.connections ≤ maxConns → k'.connections ≤ maxConns) :
    Moves maxConns k k' a a' := by
  obtain ⟨_, _, hslot, haccOnce, hclosedOnce⟩ := Stage.of_hasClient hbefore
  obtain ⟨_, hbranch, hslot', haccOnce', hclosedOnce'⟩ :=
    Stage.of_hasClient hafter
  refine ⟨⟨?_, hspent, fun h => ?_, hclosedStart, fun cur h => ?_⟩, ?_, ?_, ?_,
    hcapped⟩
  · rw [hbranch, Nat.zero_add, hreleases]
  · rw [hafter] at h
    cases h
  · rw [h] at hafter
    cases hafter
  · rw [hconnections, Attempt.slot, Attempt.slot, hslot, hslot']
    ring
  · rw [haccepted, Attempt.acceptedOnce, Attempt.acceptedOnce, haccOnce,
      haccOnce', Int.sub_self, Int.sub_self]
  · rw [hclosed, Attempt.closedOnce, Attempt.closedOnce, hclosedOnce,
      hclosedOnce']
    ring

/-- An act that no counter sees. -/
theorem moves_uncounted (hsane : a.Sane maxConns)
    (hbefore : a.stage.hasClient = true) (hafter : a'.stage.hasClient = true)
    (hteardown : a'.teardown.releases = a.teardown.releases)
    (hclosed : a'.teardown.closedOnce = a.teardown.closedOnce)
    (hreleases : a'.releases = a.releases)
    (hspent : a'.slotReleased = a'.stage.slotSpent)
    (hclosedStart : a'.stage = .failed .start → a'.closers = 0 →
      a'.teardown ≠ .unclosed) : Moves maxConns k k a a' := by
  refine moves_client hbefore hafter ?_ hspent hclosedStart ?_ rfl ?_ id
  · rw [hreleases, hteardown]
    exact hsane.releases_eq hbefore
  · rw [hteardown, Int.sub_self, Int.sub_self]
  · rw [hclosed, Int.sub_self, Int.sub_self]

/-- An act beside the teardown of a connection. -/
theorem moves_beside (hsane : a.Sane maxConns)
    (hbefore : a.stage.hasClient = true) (hafter : a'.stage.hasClient = true)
    (hteardown : a'.teardown = a.teardown)
    (hreleases : a'.releases = a.releases)
    (hspent : a'.slotReleased = a'.stage.slotSpent)
    (hclosedStart : a'.stage = .failed .start → a'.closers = 0 →
      a'.teardown ≠ .unclosed) : Moves maxConns k k a a' :=
  moves_uncounted hsane hbefore hafter (congrArg _ hteardown)
    (congrArg _ hteardown) hreleases hspent hclosedStart

/-- `releaseSlot` on a branch that has not released yet. -/
theorem releaseSlot_eq (hreleased : a.slotReleased = false) :
    releaseSlot k a = ({ k with connections := k.connections - 1 },
      { a with slotReleased := true, releases := a.releases + 1 }) := by
  rw [releaseSlot, hreleased]
  rfl

/-- A branch of `NewConnection` that fails gives its slot back. -/
theorem moves_release (hsane : a.Sane maxConns)
    (hbefore : a.stage.hasClient = false)
    (hbranch : stage.branchReleases = a.stage.branchReleases + 1)
    (hspent : stage.slotSpent = true) (hslot : stage.slot = a.stage.slot - 1)
    (hcounts : stage.acceptedOnce = a.stage.acceptedOnce ∧
      stage.closedOnce = a.stage.closedOnce) (hfailed : stage ≠ .failed .start)
    (hbelow : ∀ cur, stage = .loaded cur → cur < maxConns) :
    Moves maxConns k { k with connections := k.connections - 1 } a
      { a with stage, slotReleased := true, releases := a.releases + 1 } := by
  refine moves_branch hsane hbefore ⟨rfl, rfl⟩ ?_ hspent.symm hfailed hbelow
    ?_ ?_ ?_ fun hcapped => ?_
  · dsimp only
    omega
  · dsimp only
    omega
  · rw [hcounts.1, Int.sub_self, Int.sub_self]
  · rw [hcounts.2, Int.sub_self, Int.sub_self]
  · dsimp only
    omega

/-- The acts of `NewConnection`. -/
def Act.ofNewConnection : Act → Bool
  | .callClose | .swapClosed | .countClosed | .decrement | .cleanUp => false
  | _ => true

theorem moves_newConnection (hmax : 0 < maxConns)
    (hact : act.ofNewConnection = true) (hsane : a.Sane maxConns)
    (hadvance : advance maxConns k a act = some (k', a')) :
    Moves maxConns k k' a a' := by
  obtain ⟨stage, slotReleased, closers, teardown, releases⟩ := a
  have hspent := hsane.slotReleased
  cases act with
  | check ok | file ok | descriptor ok =>
    rw [advance, Option.ite_none_left_eq_some, not_not] at hadvance
    obtain ⟨rfl, hnext⟩ := hadvance
    cases hnext
    cases ok <;>
      exact moves_quiet hsane rfl ⟨rfl, rfl, rfl⟩ fun _ h => by cases h
  | load =>
    rw [advance, Option.ite_none_left_eq_some, not_not] at hadvance
    obtain ⟨rfl, hnext⟩ := hadvance
    rw [if_neg (Int.not_le.mpr hmax)] at hnext
    split at hnext
    · cases hnext
      exact moves_quiet hsane rfl ⟨rfl, rfl, rfl⟩ fun _ h => by cases h
    · next hbelow =>
      cases hnext
      apply moves_quiet hsane rfl ⟨rfl, rfl, rfl⟩
      intro cur hcur
      cases hcur
      exact Int.not_le.mp hbelow
  | swap =>
    simp only [advance] at hadvance
    split at hadvance
    · next cur =>
      have hbelow := hsane.below cur rfl
      split at hadvance
      · next hsame =>
        cases hadvance
        refine moves_branch hsane rfl ⟨rfl, rfl⟩ rfl hspent
          (fun h => by cases h) (fun _ h => by cases h) ?_ (Int.sub_self _)
          (Int.sub_self _) fun _ => hbelow
        change cur + 1 - k.connections = 1
        omega
      · cases hadvance
        exact moves_quiet hsane rfl ⟨rfl, rfl, rfl⟩ fun _ h => by cases h
    · cases hadvance
  | reject =>
    rw [advance, Option.ite_none_left_eq_some, not_not] at hadvance
    obtain ⟨rfl, hnext⟩ := hadvance
    cases hnext
    exact moves_quiet hsane rfl ⟨rfl, rfl, rfl⟩ fun _ h => by cases h
  | releaseFile | releaseDescriptor =>
    rw [advance, Option.ite_none_left_eq_some, not_not] at hadvance
    obtain ⟨rfl, hnext⟩ := hadvance
    rw [releaseSlot_eq hspent] at hnext
    cases hnext
    exact moves_release hsane rfl rfl rfl rfl ⟨rfl, rfl⟩ (by decide)
      fun _ h => by cases h
  | accept =>
    rw [advance, Option.ite_none_left_eq_some, not_not] at hadvance
    obtain ⟨rfl, hnext⟩ := hadvance
    cases hnext
    refine moves_branch hsane rfl ⟨rfl, rfl⟩ rfl hspent (fun h => by cases h)
      (fun _ h => by cases h) (Int.sub_self _) ?_ (Int.sub_self _) id
    change k.connectionsAccepted + 1 - k.connectionsAccepted = 1
    omega
  | countFailed =>
    rw [advance, Option.ite_none_left_eq_some, not_not] at hadvance
    obtain ⟨rfl, hnext⟩ := hadvance
    cases hnext
    refine moves_branch hsane rfl ⟨rfl, rfl⟩ rfl hspent (fun h => by cases h)
      (fun _ h => by cases h) (Int.sub_self _) (Int.sub_self _) ?_ id
    change k.connectionsClosed + 1 - k.connectionsClosed = 1
    omega
  | start ok =>
    rw [advance, Option.ite_none_left_eq_some, not_not] at hadvance
    obtain ⟨rfl, hnext⟩ := hadvance
    cases ok with
    | true =>
      cases hnext
      exact moves_beside hsane rfl rfl rfl rfl hspent fun h => by cases h
    | false =>
      cases hnext
      exact moves_beside hsane rfl rfl rfl rfl rfl fun h => by cases h
  | closeFailedStart =>
    rw [advance, Option.ite_none_left_eq_some, not_not] at hadvance
    obtain ⟨rfl, hnext⟩ := hadvance
    cases hnext
    exact moves_beside hsane rfl rfl rfl rfl hspent
      fun _ h => absurd h (Nat.succ_ne_zero _)
  | _ => cases hact

theorem Stage.hasClient_of_closeable (hcloseable : stage.closeable = true) :
    stage.hasClient = true ∧ stage ≠ .failed .start := by
  unfold closeable at hcloseable
  split at hcloseable
  · exact ⟨rfl, by decide⟩
  · exact ⟨rfl, by decide⟩
  · exact ⟨rfl, by decide⟩
  · cases hcloseable

theorem moves_close (hact : act.ofNewConnection = false)
    (hsane : a.Sane maxConns)
    (hadvance : advance maxConns k a act = some (k', a')) :
    Moves maxConns k k' a a' := by
  cases act with
  | callClose =>
    simp only [advance] at hadvance
    split at hadvance
    · next hcloseable =>
      cases hadvance
      obtain ⟨hclient, hstart⟩ := Stage.hasClient_of_closeable hcloseable
      exact moves_beside hsane hclient hclient rfl rfl hsane.slotReleased
        fun h => absurd h hstart
    · cases hadvance
  | swapClosed =>
    simp only [advance] at hadvance
    split at hadvance
    · cases hadvance
    · next hclosers =>
      have hclient := hsane.hasClient_of_closers hclosers
      split at hadvance
      · next hclosed =>
        cases hadvance
        exact moves_beside hsane hclient hclient rfl rfl hsane.slotReleased
          fun _ _ => of_decide_eq_true hclosed
      · next hclosed =>
        cases hadvance
        have hteardown : a.teardown = .unclosed := by
          simpa [Attempt.closed] using hclosed
        refine moves_uncounted hsane hclient hclient ?_ ?_ rfl
          hsane.slotReleased fun _ _ h => by cases h
        · rw [hteardown]
          rfl
        · rw [hteardown]
          rfl
  | countClosed =>
    rw [advance, Option.ite_none_left_eq_some, not_not] at hadvance
    obtain ⟨hteardown, hnext⟩ := hadvance
    have hclient := hsane.hasClient_of_teardown (by rw [hteardown]; decide)
    have hreleases := hsane.releases_eq hclient
    cases hnext
    refine moves_client hclient hclient ?_ hsane.slotReleased
      (fun _ _ h => by cases h) ?_ rfl ?_ id
    · rw [hreleases, hteardown]
      rfl
    · rw [hteardown, Int.sub_self]
      rfl
    · rw [hteardown]
      change k.connectionsClosed + 1 - k.connectionsClosed = 1 - 0
      omega
  | decrement =>
    rw [advance, Option.ite_none_left_eq_some, not_not] at hadvance
    obtain ⟨hteardown, hnext⟩ := hadvance
    have hclient := hsane.hasClient_of_teardown (by rw [hteardown]; decide)
    have hreleases := hsane.releases_eq hclient
    cases hnext
    refine moves_client hclient hclient ?_ hsane.slotReleased
      (fun _ _ h => by cases h) ?_ rfl ?_ fun h => ?_
    · rw [hreleases, hteardown]
      rfl
    · rw [hteardown]
      change k.connections - 1 - k.connections = 0 - 1
      omega
    · rw [hteardown, Int.sub_self]
      rfl
    · change k.connections - 1 ≤ maxConns
      omega
  | cleanUp =>
    rw [advance, Option.ite_none_left_eq_some, not_not] at hadvance
    obtain ⟨hteardown, hnext⟩ := hadvance
    have hclient := hsane.hasClient_of_teardown (by rw [hteardown]; decide)
    cases hnext
    refine moves_uncounted hsane hclient hclient ?_ ?_ rfl
      hsane.slotReleased fun _ _ h => by cases h
    · rw [hteardown]
      rfl
    · rw [hteardown]
      rfl
  | _ => cases hact

theorem moves_of_advance (hmax : 0 < maxConns) (hsane : a.Sane maxConns)
    (hadvance : advance maxConns k a act = some (k', a')) :
    Moves maxConns k k' a a' := by
  cases hact : act.ofNewConnection with
  | true => exact moves_newConnection hmax hact hsane hadvance
  | false => exact moves_close hact hsane hadvance

end Moves

/-! ### All attempts together -/

structure Inv (maxConns : Int) (s : State) : Prop where
  sane : ∀ a ∈ s.attempts, a.Sane maxConns
  connections : s.counters.connections = (s.attempts.map Attempt.slot).sum
  accepted : s.counters.connectionsAccepted =
    (s.attempts.map Attempt.acceptedOnce).sum
  closed : s.counters.connectionsClosed =
    (s.attempts.map Attempt.closedOnce).sum
  capped : s.counters.connections ≤ maxConns

variable {maxConns : Int}

theorem inv_start (hmax : 0 < maxConns) :
    Inv maxConns {} where
  sane := by simp
  connections := rfl
  accepted := rfl
  closed := rfl
  capped := Int.le_of_lt hmax

theorem sane_new (maxConns : Int) : Attempt.Sane {} maxConns where
  releases := rfl
  slotReleased := rfl
  unclosed := fun _ => ⟨rfl, rfl⟩
  closedStart := fun h => by cases h
  below := fun _ h => by cases h

theorem inv_step (hmax : 0 < maxConns) {s s' : State} {label : Label}
    (hinv : Inv maxConns s) (hstep : step maxConns s label = some s') :
    Inv maxConns s' := by
  cases label with
  | newConnection =>
    cases hstep
    refine ⟨?_, ?_, ?_, ?_, hinv.capped⟩
    · intro a ha
      rcases List.mem_append.mp ha with hold | hnew
      · exact hinv.sane a hold
      · rw [List.mem_singleton.mp hnew]
        exact sane_new maxConns
    · rw [List.map_append, List.sum_append, ← hinv.connections]
      exact (Int.add_zero _).symm
    · rw [List.map_append, List.sum_append, ← hinv.accepted]
      exact (Int.add_zero _).symm
    · rw [List.map_append, List.sum_append, ← hinv.closed]
      exact (Int.add_zero _).symm
  | act i act =>
    simp only [step] at hstep
    split at hstep
    · cases hstep
    · next a ha =>
      split at hstep
      · cases hstep
      · next k a' hadvance =>
        cases hstep
        have hmoves := moves_of_advance hmax
          (hinv.sane a (List.mem_of_getElem? ha)) hadvance
        refine ⟨?_, ?_, ?_, ?_, hmoves.capped hinv.capped⟩
        · intro b hb
          rcases List.mem_or_eq_of_mem_set hb with hold | rfl
          · exact hinv.sane b hold
          · exact hmoves.sane
        · have hdiff := hmoves.connections
          have hsum := hinv.connections
          rw [sum_map_set Attempt.slot ha]
          dsimp only
          omega
        · have hdiff := hmoves.accepted
          have hsum := hinv.accepted
          rw [sum_map_set Attempt.acceptedOnce ha]
          dsimp only
          omega
        · have hdiff := hmoves.closed
          have hsum := hinv.closed
          rw [sum_map_set Attempt.closedOnce ha]
          dsimp only
          omega

/-- An attempt at rest counts in the three ways alike. -/
theorem Attempt.Sane.of_idle {a : Attempt} (hsane : a.Sane maxConns)
    (hidle : a.idle = true) :
    a.slot = (if a.isOpen then 1 else 0) ∧
      a.slot = a.acceptedOnce - a.closedOnce := by
  obtain ⟨hstage, hclosers, hteardown⟩ := of_decide_eq_true hidle
  obtain ⟨stage, slotReleased, closers, teardown, releases⟩ := a
  have hunclosed := hsane.unclosed
  have hclosedStart := hsane.closedStart
  dsimp only at *
  rcases hstage with rfl | hfailed
  · rcases hteardown with rfl | rfl <;> exact ⟨rfl, rfl⟩
  · simp only [List.map_cons, List.map_nil, List.mem_cons, List.not_mem_nil,
      or_false] at hfailed
    rcases hfailed with rfl | rfl | rfl | rfl
    · obtain rfl := (hunclosed rfl).2
      exact ⟨rfl, rfl⟩
    · obtain rfl := (hunclosed rfl).2
      exact ⟨rfl, rfl⟩
    · obtain rfl := (hunclosed rfl).2
      exact ⟨rfl, rfl⟩
    · rcases hteardown with rfl | rfl
      · exact absurd rfl (hclosedStart rfl hclosers)
      · exact ⟨rfl, rfl⟩

theorem Inv.exact {s : State} (hinv : Inv maxConns s) :
    Exact maxConns s := by
  have hcounts : s.counters.connections =
      s.attempts.countP Attempt.holdsSlot := by
    rw [hinv.connections, ← sum_map_ite]
    exact congrArg List.sum (List.map_congr_left fun a ha =>
      (hinv.sane a ha).slot_eq)
  refine ⟨hcounts, hinv.capped, ?_, ?_, ?_⟩
  · rw [hcounts]
    exact Int.natCast_nonneg _
  · exact fun a ha => (hinv.sane a ha).releases_le_one
  · intro hidle
    constructor
    · rw [hinv.connections, ← sum_map_ite]
      exact congrArg List.sum (List.map_congr_left fun a ha =>
        ((hinv.sane a ha).of_idle (hidle a ha)).1)
    · rw [hinv.connections, hinv.accepted, hinv.closed, ← sum_map_sub]
      exact congrArg List.sum (List.map_congr_left fun a ha =>
        ((hinv.sane a ha).of_idle (hidle a ha)).2)

/-- Under a positive cap every reachable state has the exact count. -/
theorem cap_exact {maxConns : Int} (hmax : 0 < maxConns) {s : State}
    (hreach : Reach (step maxConns) Unguarded {} s) :
    Exact maxConns s :=
  (Reach.invariant (Inv maxConns) (inv_start hmax)
    (fun _ _ _ hinv _ hstep => inv_step hmax hinv hstep) hreach).exact

/-- Two attempts race for one slot: one is refused, the other's `poller.Start`
fails and gives the slot back through `Close`. -/
def raceRun : List Label :=
  [.newConnection, .newConnection, .act 0 (.check true),
    .act 1 (.check true), .act 0 .load, .act 1 .load, .act 1 .swap,
    .act 0 .swap, .act 0 .load, .act 0 .reject, .act 1 (.file true),
    .act 1 .accept, .act 1 (.descriptor true), .act 1 .callClose,
    .act 1 (.start false), .act 1 .closeFailedStart, .act 1 .swapClosed,
    .act 1 .swapClosed, .act 1 .countClosed, .act 1 .decrement,
    .act 1 .cleanUp]

theorem cap_exact_raceRun :
    (final (step 1) {} raceRun).counters = ⟨0, 1, 1, 1⟩ ∧
      Exact 1 (final (step 1) {} raceRun) :=
  ⟨by decide, cap_exact (by decide) (reach_final (by decide) (by decide))⟩

end ConnLimit

end Pipewave
