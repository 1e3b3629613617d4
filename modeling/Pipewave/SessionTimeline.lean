/-
One session on one container, with every callback atomic.  The session's row
is visible for one heartbeat cutoff, its expiry timer runs one minute longer;
a new connection cancels the timer only through a visible row.
-/
import Pipewave.ActiveConn
import Pipewave.ConnectionManager
import Pipewave.GoTime
import Pipewave.HubTimers

namespace Pipewave

/-- The settings of active connections; durations are in nanoseconds. -/
structure ActiveConnectionT where
  heartbeatCutoff : Int
  pendingMsgTTL : Int
  maxConnections : Int
deriving Repr, DecidableEq

namespace ActiveConnectionT

/-- The text of the first check that panics. -/
def validate (m : ActiveConnectionT) : Option String :=
  if m.heartbeatCutoff ≤ 0 then
    some "active connection heartbeat cutoff must be greater than 0"
  else if m.maxConnections < 0 then
    some "active connection max connections must be greater than or equal to 0"
  else if m.pendingMsgTTL < m.heartbeatCutoff then
    some
      "active connection pending message ttl must be greater than heartbeat cutoff"
  else none

/-- The time to live of the message hub: the cutoff and a minute, added in
64 bits. -/
def hubTTL (m : ActiveConnectionT) : Int :=
  GoTime.wrap64 (m.heartbeatCutoff + 60 * 10 ^ 9)

end ActiveConnectionT

/-- One session as its container and the store see it. -/
structure Session where
  cutoff : Int
  now : Int
  row : Option ActiveConnection
  registered : Option ConnID
  hub : Hub

namespace Session

variable (auth : WebsocketAuth)

/-- The row as `GetInstanceConnection` returns it. -/
def visibleRow (s : Session) : Option ActiveConnection :=
  s.row.filter fun row => s.now - s.cutoff < row.lastHeartbeat

/-- The whole close callback of the registered connection. -/
def onClose (s : Session) : Session :=
  { s with
    registered := none
    row := s.row.map fun row => { row with status := .tempDisconnected }
    hub := s.hub.register auth.userID auth.instanceID true }

def closeDuplicate (s : Session) : Session :=
  if s.registered.isSome then s.onClose auth else s

/-- A visible row leads to `Deregister`. -/
def resume (s : Session) : Session :=
  if s.visibleRow.isSome then
    { s with hub := s.hub.deregister auth.userID auth.instanceID }
  else s

/-- The whole new-connection callback. -/
def newConnection (c : ConnID) (s : Session) : Session :=
  { (s.closeDuplicate auth).resume auth with
    row := some ⟨some 0, .connected, s.now⟩
    registered := some c }

/-- One event of the session's timeline. -/
inductive Step : Session → Session → Prop where
  | connect {s : Session} (c : ConnID) : Step s (s.newConnection auth c)
  | disconnect {s : Session} (registered : s.registered ≠ none) :
      Step s (s.onClose auth)
  | nothing {s : Session} : Step s s
  | heartbeat {s : Session} : Step s { s with
      row := s.row.map fun row => { row with lastHeartbeat := s.now } }
  | advance {s : Session} (elapsed : Nat) :
      Step s { s with now := s.now + elapsed }
  | start {s : Session} {i : Nat} {hub : Hub}
      (starts : s.hub.start i s.now = some hub) : Step s { s with hub }
  | stop {s : Session} {i : Nat} {hub : Hub}
      (stops : s.hub.stop i = some hub) : Step s { s with hub }
  | expire {s : Session} {i : Nat} {hub : Hub} (armed : s.hub.Armed i)
      (expires : s.hub.expire i s.now = some hub) :
      Step s { s with row := none, hub }

/-- The row belongs to the container, and is temporarily disconnected while
no connection is registered. -/
structure Sound (s : Session) : Prop where
  hub : s.hub.Tracks auth
  holder : ∀ row, s.row = some row → row.holderID = some 0
  status : ∀ row, s.row = some row → s.registered = none →
    row.status = .tempDisconnected

variable {auth} {s s' : Session} {c : ConnID} {i : Nat}

theorem Sound.onClose (hsound : s.Sound auth) : (s.onClose auth).Sound auth where
  hub := hsound.hub.register
  holder := by
    intro row hrow
    obtain ⟨before, hbefore, rfl⟩ := Option.map_eq_some_iff.mp hrow
    exact hsound.holder before hbefore
  status := by
    intro row hrow _
    obtain ⟨before, -, rfl⟩ := Option.map_eq_some_iff.mp hrow
    rfl

theorem Sound.closeDuplicate (hsound : s.Sound auth) :
    (s.closeDuplicate auth).Sound auth ∧
      (s.closeDuplicate auth).registered = none := by
  unfold Session.closeDuplicate
  split
  · exact ⟨hsound.onClose, rfl⟩
  · next hnone =>
    exact ⟨hsound, Option.not_isSome_iff_eq_none.mp hnone⟩

theorem Sound.resume (hsound : s.Sound auth) : (s.resume auth).Sound auth := by
  unfold Session.resume
  split
  · exact ⟨hsound.hub.deregister, hsound.holder, hsound.status⟩
  · exact hsound

theorem Sound.newConnection (hsound : s.Sound auth) (c : ConnID) :
    (s.newConnection auth c).Sound auth where
  hub := hsound.closeDuplicate.1.resume.hub
  holder := by
    intro row hrow
    cases hrow
    rfl
  status := by
    intro row _ hnone
    cases hnone

theorem Sound.step (hsound : s.Sound auth) (hstep : Step auth s s') :
    s'.Sound auth := by
  cases hstep with
  | connect c => exact hsound.newConnection c
  | disconnect registered => exact hsound.onClose
  | nothing => exact hsound
  | heartbeat =>
    refine ⟨hsound.hub, ?_, ?_⟩
    · intro row hrow
      obtain ⟨before, hbefore, rfl⟩ := Option.map_eq_some_iff.mp hrow
      exact hsound.holder before hbefore
    · intro row hrow hnone
      obtain ⟨before, hbefore, rfl⟩ := Option.map_eq_some_iff.mp hrow
      exact hsound.status before hbefore hnone
  | advance elapsed => exact ⟨hsound.hub, hsound.holder, hsound.status⟩
  | start starts =>
    exact ⟨hsound.hub.moveTo starts (Hub.start_keeps _), hsound.holder,
      hsound.status⟩
  | stop stops =>
    exact ⟨hsound.hub.moveTo stops Hub.stop_keeps, hsound.holder,
      hsound.status⟩
  | expire armed expires =>
    refine ⟨hsound.hub.expire armed expires, ?_, ?_⟩
    · intro row hrow
      cases hrow
    · intro row hrow
      cases hrow

/-- A timer that will not run `onExpired` never does. -/
theorem spent_step (hsound : s.Sound auth) (hspent : s.hub.Spent i)
    (hstep : Step auth s s') : s'.hub.Spent i := by
  have hclose : (s.onClose auth).hub.Spent i := hspent.register hsound.hub
  cases hstep with
  | connect c =>
    have hduplicate : (s.closeDuplicate auth).hub.Spent i := by
      unfold closeDuplicate
      split
      · exact hclose
      · exact hspent
    change ((s.closeDuplicate auth).resume auth).hub.Spent i
    unfold resume
    split
    · exact hduplicate.deregister auth
    · exact hduplicate
  | disconnect registered => exact hclose
  | nothing => exact hspent
  | heartbeat => exact hspent
  | advance elapsed => exact hspent
  | start starts =>
    exact hspent.moveTo starts (Hub.start_keeps _) Phase.noConfusion
  | stop stops => exact hspent.moveTo stops Hub.stop_keeps Phase.noConfusion
  | expire armed expires => exact hspent.expire armed expires

theorem visibleRow_onClose :
    (s.onClose auth).visibleRow.isSome = s.visibleRow.isSome := by
  cases hrow : s.row with
  | none => simp [visibleRow, onClose, hrow]
  | some row =>
    simp only [visibleRow, onClose, hrow, Option.map_some,
      Option.filter_some]
    split <;> rfl

/-- A new connection leaves a timer that may expire exactly where no visible
row led to `Deregister` and there was a timer, or a duplicate whose close made
one. -/
theorem armed_newConnection (hsound : s.Sound auth) (c : ConnID) :
    (∃ i, (s.newConnection auth c).hub.Armed i) ↔
      s.visibleRow.isSome = false ∧
        (s.registered ≠ none ∨ ∃ i, s.hub.Armed i) := by
  have hduplicate := hsound.closeDuplicate.1
  have hvisible : (s.closeDuplicate auth).visibleRow.isSome =
      s.visibleRow.isSome := by
    unfold closeDuplicate
    split
    · exact visibleRow_onClose
    · rfl
  change (∃ i, ((s.closeDuplicate auth).resume auth).hub.Armed i) ↔ _
  unfold resume
  rw [hvisible]
  cases hrow : s.visibleRow.isSome with
  | true =>
    refine iff_of_false ?_ (fun h => Bool.noConfusion h.1)
    rintro ⟨i, harmed⟩
    exact hduplicate.hub.not_armed_deregister harmed
  | false =>
    simp only [Bool.false_eq_true, ↓reduceIte, true_and]
    cases hregistered : s.registered with
    | none => simp [closeDuplicate, hregistered]
    | some d =>
      refine iff_of_true ⟨s.hub.regs.length, ?_⟩
        (.inl (Option.some_ne_none d))
      simp only [closeDuplicate, hregistered, Option.isSome_some,
        ↓reduceIte]
      exact hsound.hub.armed_register.mpr rfl

end Session

end Pipewave
