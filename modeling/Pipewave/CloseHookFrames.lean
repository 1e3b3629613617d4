/-
The frame loop and the calls of `Close`.  A step of the loop on a WebSocket
connection is one goroutine, or one after the other, of the machine that runs
the close hook; so the hook has run on every connection the loop has closed.
-/
import Pipewave.CloseHook
import Pipewave.FrameLoop

namespace Pipewave

namespace CloseHook

/-- A WebSocket connection as the frame loop has it, with no call of `Close`
under way. -/
structure Matches (c : FrameLoop.Conn) (state : State) : Prop where
  transport : state.transport = .gobwas
  closed : state.closed = c.closed
  socketClosed : state.socketClosed = c.closed
  closeTx : state.closeTx = c.closeTx
  hooked : c.closed = true → 0 < state.hooks

/-- Goroutine `i` of a matching state has the task before it. -/
def At (c : FrameLoop.Conn) (i : Nat) (task : Task) (state : State) : Prop :=
  state.threads[i]? = some (.running task) ∧ Matches c state

/-- Some moves lead to a state with the property. -/
def Leads (state : State) (property : State → Prop) : Prop :=
  ∃ next, Transition.Reach step Transition.Unguarded state next ∧
    property next

section Frames

open FrameLoop (Act Conn Gobwas Header Turn)

/-- What a goroutine that nobody interrupts makes of the connection, as the
frame loop has it. -/
inductive Runs : Task → Conn → Conn → Prop where
  | done (c : Conn) : Runs .done c c
  | close {rest : Task} {c c' : Conn} (next : Runs rest c.close c') :
      Runs (.close rest) c c'
  | writeCloseOnce {written failed : Task} {c c' : Conn}
      (frame : FrameLoop.CloseFrame) (ok : Bool)
      (next : Runs (if (c.writeCloseOnce frame ok).2 then written else failed)
        (c.writeCloseOnce frame ok).1 c') :
      Runs (.writeCloseOnce written failed) c c'
  | writeFrame {written failed : Task} {c c' : Conn} (ok : Bool)
      (next : Runs (if c.writes ok then written else failed) c c') :
      Runs (.writeFrame written failed) c c'

variable {c c' : Conn} {i : Nat} {state : State} {property : State → Prop}
  {thread : Thread} {task : Task}

theorem Leads.refl (hstate : property state) : Leads state property :=
  ⟨state, .refl, hstate⟩

theorem Leads.bind {middle : State → Prop} (hleads : Leads state middle)
    (hnext : ∀ next, middle next → Leads next property) :
    Leads state property := by
  obtain ⟨next, hreach, hmiddle⟩ := hleads
  obtain ⟨last, hrest, hlast⟩ := hnext next hmiddle
  exact ⟨last, hreach.trans hrest, hlast⟩

theorem Matches.congr (hmatches : Matches c state)
    (hclosed : c'.closed = c.closed) (hcloseTx : c'.closeTx = c.closeTx) :
    Matches c' state where
  transport := hmatches.transport
  closed := hmatches.closed.trans hclosed.symm
  socketClosed := hmatches.socketClosed.trans hclosed.symm
  closeTx := hmatches.closeTx.trans hcloseTx.symm
  hooked := fun h => hmatches.hooked (hclosed.symm.trans h)

theorem Leads.move {next : State} (ok : Bool)
    (hthread : state.threads[i]? = some thread)
    (hmove : runThread state i ok thread = some next)
    (hnext : Leads next property) : Leads state property := by
  have hstep : step state (.run i ok) = some next := by
    rw [← hmove]
    simp only [step, hthread]
  obtain ⟨last, hreach, hlast⟩ := hnext
  exact ⟨last, hreach.head trivial hstep, hlast⟩

theorem getElem?_set_self_of_some (hthread : state.threads[i]? = some thread)
    (next : Thread) :
    (state.threads.set i next)[i]? = some next :=
  List.getElem?_set_self (List.getElem?_eq_some_iff.mp hthread).1

/-- A move that comes to the next call of the goroutine. -/
theorem Leads.arrive (ok : Bool) (next : State)
    (hthread : state.threads[i]? = some thread)
    (hmove : runThread state i ok thread = some { next with
      threads := state.threads.set i (.running task) })
    (hnext : Matches c next) : Leads state (At c i task) :=
  .move ok hthread hmove
    (.refl ⟨getElem?_set_self_of_some hthread _, { hnext with }⟩)

/-- The end of a call of `Close`, once the socket is closed. -/
theorem leads_hook {rest : Task}
    (hthread : state.threads[i]? = some (.hook rest))
    (hgobwas : state.transport = .gobwas) (hclosed : state.closed = true)
    (hsocket : state.socketClosed = true)
    (hcloseTx : state.closeTx = c.closeTx) :
    Leads state (At c.close i rest) :=
  .arrive true { state with
      hooks := state.hooks + 1
      completed := state.completed + 1 } hthread rfl
    ⟨hgobwas, hclosed, hsocket, hcloseTx, fun _ => Nat.succ_pos _⟩

/-- A goroutine that nobody interrupts gets through `Close`. -/
theorem leads_close {rest : Task} (hat : At c i (.close rest) state) :
    Leads state (At c.close i rest) := by
  obtain ⟨hthread, hmatches⟩ := hat
  have hgobwas := hmatches.transport
  have hhook := getElem?_set_self_of_some hthread (.hook rest)
  cases hclosed : state.closed with
  | false =>
    have hwin : runThread state i true (.running (.close rest)) =
        some { state with
          closed := true
          threads := state.threads.set i (.tearDown rest) } := by
      simp only [runThread, hclosed]
    have htearDown := getElem?_set_self_of_some hthread (.tearDown rest)
    have hremoved : runThread { state with
        closed := true
        threads := state.threads.set i (.tearDown rest) } i true
        (.tearDown rest) = some { state with
          closed := true
          socketClosed := true
          threads := state.threads.set i (.hook rest) } := by
      simp only [runThread, hgobwas, List.set_set]
    exact .move true hthread hwin (.move true htearDown hremoved
      (leads_hook hhook hgobwas rfl rfl hmatches.closeTx))
  | true =>
    have hlose : runThread state i true (.running (.close rest)) =
        some { state with threads := state.threads.set i (.hook rest) } := by
      simp only [runThread, hclosed, hgobwas]
    have hsocket : state.socketClosed = true :=
      hmatches.socketClosed.trans (hmatches.closed.symm.trans hclosed)
    exact .move true hthread hlose
      (leads_hook hhook hgobwas hclosed hsocket hmatches.closeTx)

theorem Matches.wrote (hmatches : Matches c state) (ok : Bool) :
    state.wrote ok = c.writes ok := by
  rw [State.wrote, hmatches.socketClosed, Conn.writes]

theorem leads_writeCloseOnce {written failed : Task}
    (hat : At c i (.writeCloseOnce written failed) state)
    (frame : FrameLoop.CloseFrame) (ok : Bool) :
    Leads state (At (c.writeCloseOnce frame ok).1 i
      (if (c.writeCloseOnce frame ok).2 then written else failed)) := by
  obtain ⟨hthread, hmatches⟩ := hat
  have hcloseTx := hmatches.closeTx
  rw [Conn.writeCloseOnce]
  cases hsent : c.closeTx with
  | true =>
    rw [hsent] at hcloseTx
    refine .arrive ok state hthread ?_ hmatches
    simp only [runThread, hcloseTx, if_true]
  | false =>
    rw [hsent] at hcloseTx
    refine .arrive ok { state with closeTx := true } hthread ?_
      { hmatches with closeTx := rfl }
    simp only [runThread, hcloseTx, Bool.false_eq_true, if_false,
      hmatches.wrote]

theorem leads_writeFrame {written failed : Task}
    (hat : At c i (.writeFrame written failed) state) (ok : Bool) :
    Leads state (At c i (if c.writes ok then written else failed)) := by
  obtain ⟨hthread, hmatches⟩ := hat
  refine .arrive ok state hthread ?_ hmatches
  rw [runThread, hmatches.wrote]

theorem leads_of_runs (hruns : Runs task c c') (hat : At c i task state) :
    Leads state (Matches c') := by
  induction hruns generalizing state with
  | done c => exact .refl hat.2
  | close next ih => exact (leads_close hat).bind fun _ => ih
  | writeCloseOnce frame ok next ih =>
    exact (leads_writeCloseOnce hat frame ok).bind fun _ => ih
  | writeFrame ok next ih =>
    exact (leads_writeFrame hat ok).bind fun _ => ih

/-- An event starts a goroutine. -/
theorem leads_event (event : Event) (hmatches : Matches c state)
    (htask : event.task .gobwas = some task) (hruns : Runs task c c') :
    Leads state (Matches c') := by
  have hstep : step state (.event event) = some { state with
      threads := state.threads ++ [.running task] } := by
    simp only [step, hmatches.transport, htask, Option.map_some]
  have hat : At c state.threads.length task { state with
      threads := state.threads ++ [.running task] } :=
    ⟨List.getElem?_concat_length, { hmatches with }⟩
  obtain ⟨last, hreach, hlast⟩ := leads_of_runs hruns hat
  exact ⟨last, hreach.head trivial hstep, hlast⟩

theorem leads_closeEvent (event : Event) (hmatches : Matches c state)
    (htask : event.task .gobwas = some (.close .done)) :
    Leads state (Matches c.close) :=
  leads_event event hmatches htask (.close (.done _))

theorem runs_writeThenClose (c : Conn) (frame : FrameLoop.CloseFrame)
    (ok : Bool) : Runs (.writeCloseOnce (.close .done) (.close .done)) c
      (c.writeCloseOnce frame ok).1.close := by
  refine .writeCloseOnce frame ok ?_
  rw [ite_self]
  exact .close (.done _)

theorem leads_violation (hmatches : Matches c state)
    (err : FrameLoop.ProtocolError) (ok : Bool) :
    Leads state (Matches (c.handleProtocolError err ok)) :=
  leads_event .protocolError hmatches rfl (runs_writeThenClose c _ ok)

/-- What others do with the connection. -/
theorem leads_act (hmatches : Matches c state) (act : Act) :
    Leads state (Matches (c.act act)) := by
  cases act with
  | send ok =>
    refine leads_event .send hmatches rfl (.writeFrame ok ?_)
    rw [Conn.act]
    split
    · exact .done c
    · exact .close (.done _)
  | closeWithReason code reason ok =>
    exact leads_event .versionMismatch hmatches rfl
      (runs_writeThenClose c _ ok)
  | close => exact leads_closeEvent .disconnect hmatches rfl

theorem leads_acts (hmatches : Matches c state) (acts : List Act) :
    Leads state (Matches (acts.foldl Conn.act c)) := by
  induction acts generalizing c state with
  | nil => exact .refl hmatches
  | cons act rest ih =>
    exact (leads_act hmatches act).bind fun _ hnext => ih hnext

/-- `handleFrame` behind its handler. -/
def handled (result : Conn × Option FrameLoop.ProtocolError) (ok : Bool) :
    Conn :=
  match result.2 with
  | none => result.1
  | some err => result.1.handleProtocolError err ok

theorem runs_handleCloseFrame (c : Conn) (payload : Bytes) (t : Turn) :
    Runs (handleCloseFrame payload.length) c
      (handled (FrameLoop.handleCloseFrame c payload t) t.closeOk) := by
  unfold handleCloseFrame FrameLoop.handleCloseFrame
  split
  · refine .writeCloseOnce ⟨FrameLoop.statusProtocolError,
      .text "invalid close payload"⟩ t.closeOk ?_
    generalize c.writeCloseOnce _ t.closeOk = result
    obtain ⟨c', ok⟩ := result
    cases ok with
    | true => exact .done c'
    | false => exact runs_writeThenClose c' _ _
  · refine .writeCloseOnce (FrameLoop.closePayload payload) t.closeOk ?_
    generalize c.writeCloseOnce _ t.closeOk = result
    obtain ⟨c', ok⟩ := result
    cases ok with
    | true => exact .close (.done _)
    | false => exact .close (runs_writeThenClose _ _ _)

theorem leads_handlePingFrame (hmatches : Matches c state) (t : Turn) :
    Leads state (Matches
      (handled (c, FrameLoop.handlePingFrame c t) t.closeOk)) := by
  unfold FrameLoop.handlePingFrame
  split
  · exact .refl hmatches
  · refine leads_event .pingFrame hmatches rfl (.writeFrame t.pongOk ?_)
    split
    · exact .done c
    · exact runs_writeThenClose c _ _

theorem leads_handleOpCode (hmatches : Matches c state) (h : Header)
    (payload : Bytes) (t : Turn) :
    Leads state (Matches
      (handled (FrameLoop.handleOpCode c h payload t) t.closeOk)) := by
  unfold FrameLoop.handleOpCode
  split_ifs
  · exact leads_violation hmatches _ _
  · exact leads_acts hmatches t.handler
  · exact leads_violation hmatches _ _
  · exact leads_acts hmatches t.handler
  · exact leads_violation hmatches _ _
  · exact leads_event (.closeFrame payload.length) hmatches rfl
      (runs_handleCloseFrame c payload t)
  · exact leads_handlePingFrame hmatches t
  · exact .refl hmatches
  · exact leads_violation hmatches _ _

theorem leads_handleFrame (ws : Gobwas) (hmatches : Matches c state)
    (h : Header) (payload : Bytes) (t : Turn) :
    Leads state (Matches (FrameLoop.handleFrame ws c h payload t)) := by
  have hentered : Matches { c with dispatched := c.dispatched ++ [h] } state :=
    hmatches.congr rfl rfl
  exact leads_handleOpCode hentered h _ t

theorem leads_processClientMessage (ws : Gobwas) (hmatches : Matches c state)
    (t : Turn) :
    Leads state (Matches (FrameLoop.processClientMessage ws c t)) := by
  unfold FrameLoop.processClientMessage
  split
  · exact leads_closeEvent .readEnd hmatches rfl
  · exact .refl hmatches
  · split
    · exact leads_violation hmatches _ _
    · split
      · exact leads_closeEvent .payloadReadFailed hmatches rfl
      · split
        · exact leads_violation hmatches _ _
        · exact leads_handleFrame ws hmatches _ _ t

/-- A step of the loop is a sequence of moves of goroutines that nobody
interrupts. -/
theorem leads_step {ws : Gobwas} {event : FrameLoop.Event} {next : Conn}
    (hmatches : Matches c state)
    (hstep : FrameLoop.step ws c event = some next) :
    Leads state (Matches next) := by
  cases event with
  | turn t =>
    simp only [FrameLoop.step] at hstep
    split at hstep
    · cases hstep
    · cases hstep
      exact (leads_processClientMessage ws hmatches t).bind fun _ hlast =>
        .refl (hlast.congr rfl rfl)
  | outside act =>
    cases hstep
    exact leads_act hmatches act

/-- Whatever the frame loop does to a connection, the machine of its hook can
do, and the hook has run if the connection is closed. -/
theorem matches_of_frameLoop {ws : Gobwas}
    (hreach : Transition.Reach (FrameLoop.step ws) Transition.Unguarded
      {} c) :
    Leads (start .gobwas) (Matches c) := by
  refine hreach.simulate Matches
    (fun _ _ _ _ hmatches _ hstep => leads_step hmatches hstep) ?_
  exact ⟨rfl, rfl, rfl, rfl, fun h => by cases h⟩

end Frames

end CloseHook

end Pipewave
