/-
The liveness probe of a websocket connection.  Reads and pongs are noted with
their time; the ping checker asks at its own times what to do, and its answers
are compared with everything noted and answered before.
-/
import Pipewave.GoTime
import Pipewave.History
import Pipewave.Transition

namespace Pipewave

namespace PingProbe

open Transition
open GoTime (maxDuration zeroTime sub)

/-- `PingCheckerT`, as `validate` lets it through. -/
structure PingChecker where
  pingIdleAfter : Int
  pongTimeout : Int
  pingIdleAfter_pos : 0 < pingIdleAfter
  pingIdleAfter_le : pingIdleAfter ≤ maxDuration
  pongTimeout_pos : 0 < pongTimeout
  pongTimeout_le : pongTimeout ≤ maxDuration

structure Conn where
  lastReadAt : Int
  lastPingAt : Int := zeroTime
  lastPongAt : Int := zeroTime
  awaitingPong : Bool := false
  closed : Bool := false
deriving Repr, DecidableEq

inductive PingAction where
  | skip
  | send
  | close
deriving Repr, DecidableEq

namespace Conn

def noteRead (c : Conn) (now : Int) : Conn :=
  { c with lastReadAt := now, awaitingPong := false }

def notePong (c : Conn) (now : Int) : Conn :=
  { c with lastReadAt := now, lastPongAt := now, awaitingPong := false }

def nextPingAction (c : Conn) (cfg : PingChecker) (now : Int) :
    Conn × PingAction :=
  if c.awaitingPong then
    if cfg.pongTimeout ≤ sub now c.lastPingAt then (c, .close)
    else (c, .skip)
  else if sub now c.lastReadAt < cfg.pingIdleAfter then (c, .skip)
  else ({ c with awaitingPong := true, lastPingAt := now }, .send)

/-- The server's `ping`; `written` says whether the ping frame went out. -/
def ping (c : Conn) (cfg : PingChecker) (now : Int) (written : Bool) : Conn :=
  match c.nextPingAction cfg now with
  | (c, .skip) => c
  | (c, .close) => { c with closed := true }
  | (c, .send) => if written then c else { c with closed := true }

end Conn

inductive Label where
  | noteRead (now : Int)
  | notePong (now : Int)
  | ping (now : Int) (written : Bool)
deriving Repr, DecidableEq

def Label.now : Label → Int
  | .noteRead now | .notePong now | .ping now _ => now

/-- A read or pong, or a call of `nextPingAction` with its answer. -/
inductive Entry where
  | noted (now : Int)
  | asked (now : Int) (action : PingAction)
deriving Repr, DecidableEq

/-- `now` is the time of the newest event; `history` is read by no step. -/
structure State where
  conn : Conn
  now : Int
  history : List Entry := []
deriving Repr, DecidableEq

def step (cfg : PingChecker) (s : State) : Label → Option State
  | .noteRead now => some
      ⟨s.conn.noteRead now, now, .noted now :: s.history⟩
  | .notePong now => some
      ⟨s.conn.notePong now, now, .noted now :: s.history⟩
  | .ping now written => some ⟨s.conn.ping cfg now written, now,
      .asked now (s.conn.nextPingAction cfg now).2 :: s.history⟩

/-- `NewConnection` makes a connection that has just been read from. -/
def start (created : Int) : State where
  conn := { lastReadAt := created }
  now := created

/-- Events come at non-decreasing times. -/
def TimeFlows (s : State) (label : Label) : Prop := s.now ≤ label.now

instance (s : State) (label : Label) : Decidable (TimeFlows s label) :=
  inferInstanceAs (Decidable (_ ≤ _))

/-! ### What the answers mean -/

/-- A call returned `Send` at `sent`, and nothing was noted since. -/
def Outstanding (sent : Int) (history : List Entry) : Prop :=
  ∃ since before, history = since ++ .asked sent .send :: before ∧
    ∀ now, .noted now ∉ since

/-- A `Close` ends a `Send` that has been outstanding for the pong timeout; a
`Send` finds none outstanding and nothing noted in the idle window. -/
def Justified (cfg : PingChecker) : Entry → List Entry → Prop
  | .asked now .close, earlier =>
    ∃ sent, Outstanding sent earlier ∧ cfg.pongTimeout ≤ now - sent
  | .asked now .send, earlier =>
    (∀ read, .noted read ∈ earlier →
      ¬ (now - cfg.pingIdleAfter < read ∧ read ≤ now)) ∧
    ∀ sent, ¬ Outstanding sent earlier
  | _, _ => True

/-- Every answer is justified by the history before it, and between two `Send`
answers something was noted. -/
structure OnlySilentPeers (cfg : PingChecker) (history : List Entry) : Prop
    where
  justified : History.Always (Justified cfg) history
  separated : ∀ later now between sent before,
    history = later ++ .asked now .send ::
      (between ++ .asked sent .send :: before) →
      ∃ read, .noted read ∈ between

section Outstanding

variable {sent : Int} {history : List Entry}

theorem Outstanding.sent_now (history : List Entry) (now : Int) :
    Outstanding now (.asked now .send :: history) :=
  ⟨[], history, rfl, fun _ => List.not_mem_nil⟩

theorem Outstanding.asked (hout : Outstanding sent history) (now : Int)
    (action : PingAction) :
    Outstanding sent (.asked now action :: history) := by
  obtain ⟨since, before, rfl, hquiet⟩ := hout
  refine ⟨.asked now action :: since, before, rfl, fun read hread => ?_⟩
  cases hread with
  | tail _ hread => exact hquiet read hread

theorem not_outstanding_nil : ¬ Outstanding sent [] := by
  rintro ⟨since, before, hsplit, -⟩
  cases since <;> cases hsplit

theorem not_outstanding_noted (now : Int) :
    ¬ Outstanding sent (.noted now :: history) := by
  rintro ⟨since, before, hsplit, hquiet⟩
  obtain ⟨-, hentry, -⟩ | ⟨rest, rfl, -⟩ := History.cons_split hsplit
  · cases hentry
  · exact hquiet now List.mem_cons_self

/-- An answer other than `Send` leaves nothing outstanding that was not. -/
theorem not_outstanding_asked {now : Int} {action : PingAction}
    (hout : ∀ sent, ¬ Outstanding sent history) (haction : action ≠ .send) :
    ¬ Outstanding sent (.asked now action :: history) := by
  rintro ⟨since, before, hsplit, hquiet⟩
  obtain ⟨-, hentry, -⟩ | ⟨rest, rfl, hrest⟩ := History.cons_split hsplit
  · cases hentry
    exact haction rfl
  · apply hout sent
    exact ⟨rest, before, hrest, fun read hread =>
      hquiet read (List.mem_cons_of_mem _ hread)⟩

end Outstanding

/-! ### The invariant -/

/-- The three fields of a connection against its history. -/
structure Tracks (c : Conn) (now : Int) (history : List Entry) : Prop where
  awaiting : c.awaitingPong = true → Outstanding c.lastPingAt history
  idle : c.awaitingPong = false → ∀ sent, ¬ Outstanding sent history
  noted : ∀ read, .noted read ∈ history → read ≤ c.lastReadAt
  lastRead : c.lastReadAt ≤ now

section Steps

variable {cfg : PingChecker} {c : Conn} {now now' : Int}
  {history : List Entry}

/-- Whatever resets the flag and the read time with the newest event keeps
track of it. -/
theorem Tracks.note (htracks : Tracks c now history) (hle : now ≤ now')
    {c' : Conn} (hread : c'.lastReadAt = now')
    (hflag : c'.awaitingPong = false) :
    Tracks c' now' (.noted now' :: history) where
  awaiting := fun h => by
    rw [hflag] at h
    cases h
  idle := fun _ _ => not_outstanding_noted now'
  noted := fun read hmem => by
    cases hmem with
    | head => exact Int.le_of_eq hread.symm
    | tail _ hmem =>
      have hold := htracks.noted read hmem
      have hlast := htracks.lastRead
      omega
  lastRead := Int.le_of_eq hread

/-- An answer leaves the noted times alone. -/
theorem Tracks.noted_asked (htracks : Tracks c now history)
    {action : PingAction} :
    ∀ read, .noted read ∈ Entry.asked now' action :: history →
      read ≤ c.lastReadAt := by
  intro read hmem
  cases hmem with
  | tail _ hmem => exact htracks.noted read hmem

theorem Tracks.nextPingAction (htracks : Tracks c now history)
    (hle : now ≤ now') :
    Tracks (c.nextPingAction cfg now').1 now'
        (.asked now' (c.nextPingAction cfg now').2 :: history) ∧
      Justified cfg (.asked now' (c.nextPingAction cfg now').2) history := by
  have hlast : c.lastReadAt ≤ now' := Int.le_trans htracks.lastRead hle
  unfold Conn.nextPingAction
  split
  next hawaiting =>
    have hout := htracks.awaiting hawaiting
    have hkept : ∀ action : PingAction,
        Tracks c now' (.asked now' action :: history) := fun action =>
      ⟨fun _ => hout.asked now' action,
        fun h => absurd (hawaiting.symm.trans h) (by decide),
        htracks.noted_asked, hlast⟩
    split
    next hlate =>
      rw [GoTime.le_sub_iff cfg.pongTimeout_pos cfg.pongTimeout_le] at hlate
      exact ⟨hkept .close, c.lastPingAt, hout, hlate⟩
    · exact ⟨hkept .skip, trivial⟩
  next hflag =>
    have hidle : c.awaitingPong = false := eq_false_of_ne_true hflag
    have hnone := htracks.idle hidle
    split
    · refine ⟨⟨fun h => absurd h hflag, fun _ sent => ?_,
        htracks.noted_asked, hlast⟩, trivial⟩
      exact not_outstanding_asked hnone PingAction.noConfusion
    next hsilent =>
      rw [Int.not_lt, GoTime.le_sub_iff cfg.pingIdleAfter_pos
        cfg.pingIdleAfter_le] at hsilent
      refine ⟨⟨fun _ => .sent_now history now', fun h => (by cases h),
        htracks.noted_asked, hlast⟩, fun read hread hwindow => ?_, hnone⟩
      have hbound := htracks.noted read hread
      omega

/-- `ping` does with the connection's times what `nextPingAction` does. -/
theorem Tracks.ping {written : Bool}
    (htracks : Tracks (c.nextPingAction cfg now').1 now' history) :
    Tracks (c.ping cfg now' written) now' history := by
  unfold Conn.ping
  cases hnext : c.nextPingAction cfg now' with
  | mk next action =>
    rw [hnext] at htracks
    cases action with
    | skip => exact htracks
    | close => exact { htracks with }
    | send =>
      dsimp only
      split
      · exact htracks
      · exact { htracks with }

end Steps

/-- A justified history keeps its `Send` answers apart. -/
theorem OnlySilentPeers.of_justified {cfg : PingChecker}
    {history : List Entry}
    (hjustified : History.Always (Justified cfg) history) :
    OnlySilentPeers cfg history := by
  refine ⟨hjustified, ?_⟩
  rintro later now between sent before rfl
  by_contra hquiet
  apply hjustified.at.2 sent
  exact ⟨between, before, rfl, fun read hread => hquiet ⟨read, hread⟩⟩

structure Inv (cfg : PingChecker) (s : State) : Prop where
  tracks : Tracks s.conn s.now s.history
  justified : History.Always (Justified cfg) s.history

theorem inv_start (cfg : PingChecker) (created : Int) :
    Inv cfg (start created) where
  tracks := ⟨fun h => (by cases h), fun _ _ => not_outstanding_nil,
    fun _ h => absurd h List.not_mem_nil, Int.le_refl created⟩
  justified := trivial

theorem inv_step {cfg : PingChecker} {s next : State} (label : Label)
    (hinv : Inv cfg s) (hflows : TimeFlows s label)
    (hstep : step cfg s label = some next) : Inv cfg next := by
  cases label with
  | noteRead now | notePong now =>
    cases hstep
    exact ⟨hinv.tracks.note hflows rfl rfl, trivial, hinv.justified⟩
  | ping now written =>
    cases hstep
    obtain ⟨htracks, hjustified⟩ := hinv.tracks.nextPingAction hflows
    exact ⟨htracks.ping, hjustified, hinv.justified⟩

/-- In every run the probe closes and pings silent peers only. -/
theorem onlySilentPeers_of_reach {cfg : PingChecker} {created : Int}
    {s : State} (hreach : Reach (step cfg) TimeFlows
      (start created) s) : OnlySilentPeers cfg s.history := by
  have hinv : Inv cfg s := Reach.invariant (Inv cfg) (inv_start cfg created)
    (fun _ label _ hinv hflows hstep => inv_step label hinv hflows hstep)
    hreach
  exact .of_justified hinv.justified

/-- The defaults, twenty seconds and three. -/
def defaultChecker : PingChecker where
  pingIdleAfter := 20000000000
  pongTimeout := 3000000000
  pingIdleAfter_pos := by decide
  pingIdleAfter_le := by decide
  pongTimeout_pos := by decide
  pongTimeout_le := by decide

/-- A ping is answered, the next one is not. -/
def silentRun : List Label :=
  [.ping 5000000000 true, .ping 20000000000 true, .notePong 21000000000,
    .ping 41000000000 true, .ping 43000000000 true, .ping 44000000000 true]

theorem onlySilentPeers_silentRun :
    let s := final (step defaultChecker) (start 0) silentRun
    s.conn.closed = true ∧ OnlySilentPeers defaultChecker s.history :=
  ⟨by decide +kernel, onlySilentPeers_of_reach
    (reach_final (by decide +kernel) (by decide +kernel))⟩

end PingProbe

end Pipewave
