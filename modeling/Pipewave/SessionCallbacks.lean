/-
Callbacks of one session on one container that run to their end undisturbed,
with every store operation succeeding.  A rule for each act says what it does
to the session, so that a whole callback is read off its list of acts.
-/
import Pipewave.Admission
import Pipewave.SessionTimeline

namespace Pipewave

namespace Cluster

open Transition

/-- The thread runs to its end, with every operation succeeding. -/
def Completes (t : Nat) (w w' : World) : Prop :=
  ∃ n, run step w (List.replicate n (.exec t true)) = some w' ∧ Returned w' t

/-- What the world holds of one session. -/
def World.session (w : World) (auth : WebsocketAuth) : Session where
  cutoff := w.cutoff
  now := w.now
  row := w.row auth
  registered := w.registered 0 auth
  hub := (w.nodes 0).hub

section Effects

variable {w : World} {auth : WebsocketAuth} {conn : Conn} {c : ConnID}

theorem session_setHub (hub : Hub) :
    (w.setHub 0 hub).session auth = { w.session auth with hub } := by
  simp only [World.session, registered_setHub]
  simp [World.setHub, World.setNode, World.row]

theorem session_claimRow (hnode : conn.node = 0) (hauth : conn.auth = auth) :
    (w.claimRow c conn).session auth = { w.session auth with
      row := some ⟨some 0, .connected, w.now⟩ } := by
  subst hauth
  simp [World.session, World.claimRow, World.row, World.registered,
    ActiveConnTable.lookup_addConnection, hnode]

theorem session_addConnection (hnode : conn.node = 0)
    (hauth : conn.auth = auth) :
    (w.addConnection c conn).session auth = { w.session auth with
      registered := some c } := by
  simp only [World.session, registered_addConnection, hnode, hauth, and_self,
    ↓reduceIte]
  simp [World.addConnection, World.setConnections, World.setNode, World.row,
    hnode]

theorem session_updateStatus (status : WsStatus) :
    ({ w with rows := w.rows.updateStatus auth status } : World).session auth =
      { w.session auth with
        row := (w.session auth).row.map fun row => { row with status } } := by
  simp [World.session, World.row, World.registered,
    ActiveConnTable.updateStatus, ActiveConnTable.lookup_modify]

theorem session_removeRow :
    (w.removeRow auth).session auth = { w.session auth with row := none } := by
  simp [World.session, World.removeRow, World.row, World.registered,
    ActiveConnTable.lookup_removeConnection]

theorem session_removeConnection (hnode : conn.node = 0)
    (hauth : conn.auth = auth) :
    (w.removeConnection conn).session auth = { w.session auth with
      registered := none } := by
  subst hauth
  simp only [World.session, World.removeConnection, registered_setConnections,
    ConnectionMap.getConnection_removeConnection, hnode, ↓reduceIte]
  simp [World.setConnections, World.setNode, World.row]

theorem shuttingDown_setNode {other node : ContainerID} {value : Node}
    (hvalue : value.shuttingDown = (w.nodes other).shuttingDown) :
    ((w.setNode other value).nodes node).shuttingDown =
      (w.nodes node).shuttingDown := by
  by_cases hsame : node = other
  · subst hsame
    simp [World.setNode, hvalue]
  · simp [World.setNode, hsame]

theorem exec_shuttingDown (w : World) (act : Act) (ok : Bool)
    (node : ContainerID) :
    ((exec w act ok).world.nodes node).shuttingDown =
      (w.nodes node).shuttingDown := by
  cases act <;> simp only [exec, execConn] <;> (repeat' split) <;>
    first | rfl | exact shuttingDown_setNode rfl

theorem closeStep_shuttingDown (w : World) (c : ConnID) (conn : Conn)
    (ok : Bool) (stage : CloseStage) (node : ContainerID) :
    ((closeStep w c conn ok stage).1.nodes node).shuttingDown =
      (w.nodes node).shuttingDown := by
  cases stage <;> simp only [closeStep] <;> (repeat' split) <;>
    first | rfl | exact shuttingDown_setNode rfl

end Effects

section Atomic

variable {auth : WebsocketAuth} {t : Nat} {w w' : World} {thread : Thread}

theorem run_exec_succ {n : Nat} (hthread : w.threads[t]? = some thread)
    (hrun : run step w (List.replicate (n + 1) (.exec t true)) = some w') :
    ∃ next thread', ThreadCase w thread true next thread' ∧
      run step { next with threads := w.threads.set t thread' }
        (List.replicate n (.exec t true)) = some w' := by
  rw [List.replicate_succ] at hrun
  obtain ⟨after, hstep, hrun⟩ := run_cons hrun
  obtain ⟨running, next, thread', hrunning, hcase, rfl⟩ := step_exec hstep
  rw [hthread] at hrunning
  cases hrunning
  exact ⟨next, thread', hcase, hrun⟩

/-- A thread with work left takes its next step. -/
theorem Completes.next (hcompletes : Completes t w w')
    (hthread : w.threads[t]? = some thread)
    (hbusy : thread.closing ≠ none ∨ thread.todo ≠ []) :
    ∃ next thread', ThreadCase w thread true next thread' ∧
      Completes t { next with threads := w.threads.set t thread' } w' := by
  obtain ⟨n, hrun, hreturned⟩ := hcompletes
  cases n with
  | zero =>
    cases hrun
    obtain ⟨hidle, hdone, -⟩ := hreturned.of_thread hthread
    rcases hbusy with hclosing | htodo
    · exact absurd hidle hclosing
    · exact absurd hdone htodo
  | succ n =>
    obtain ⟨next, thread', hcase, hnext⟩ := run_exec_succ hthread hrun
    exact ⟨next, thread', hcase, n, hnext, hreturned⟩

/-- One thread of the container is at work on the session. -/
structure At (auth : WebsocketAuth) (t : Nat) (s : Session)
    (conns : List Conn) (thread : Thread) (w : World) : Prop where
  session : w.session auth = s
  conns : w.conns = conns
  running : (w.nodes 0).shuttingDown = false
  thread : w.threads[t]? = some thread
  others : ∀ u other, u ≠ t → w.threads[u]? = some other →
    other.closing = none ∧ other.todo = []

/-- The thread completes from a state as described. -/
def Ahead (auth : WebsocketAuth) (t : Nat) (s : Session) (conns : List Conn)
    (thread : Thread) (w' : World) : Prop :=
  ∃ w, At auth t s conns thread w ∧ Completes t w w'

variable {s s' : Session} {conns conns' : List Conn} {act : Act}
  {rest todo onErr : List Act}

theorem At.after {next : World} {thread' : Thread}
    (hat : At auth t s conns thread w)
    (hsession : next.session auth = s') (hconns : next.conns = conns')
    (hrunning : (next.nodes 0).shuttingDown = (w.nodes 0).shuttingDown) :
    At auth t s' conns' thread'
      { next with threads := w.threads.set t thread' } where
  session := hsession
  conns := hconns
  running := hrunning.trans hat.running
  thread := List.getElem?_set_self
    (List.getElem?_eq_some_iff.mp hat.thread).1
  others := by
    intro u other hne hother
    exact hat.others u other hne (List.getElem?_set_ne (Ne.symm hne) ▸ hother)

/-- The rule for an act: what it does to the session and to its thread. -/
theorem Ahead.perform {thread' : Thread} (hidle : thread.closing = none)
    (htodo : thread.todo = act :: rest)
    (hexec : ∀ w, w.session auth = s → w.conns = conns →
      (exec w act true).world.session auth = s' ∧
        afterAct thread rest (exec w act true) = thread')
    (hahead : Ahead auth t s conns thread w') :
    Ahead auth t s' conns thread' w' := by
  obtain ⟨w, hat, hcompletes⟩ := hahead
  obtain ⟨hsession, hafter⟩ := hexec w hat.session hat.conns
  obtain ⟨next, thread₁, hcase, hnext⟩ := hcompletes.next hat.thread
    (.inr (by rw [htodo]; exact List.cons_ne_nil act rest))
  obtain ⟨_, _, hfirst, rfl, rfl⟩ := hcase.of_idle hidle
  rw [htodo] at hfirst
  cases hfirst
  rw [hafter] at hnext
  exact ⟨_, hat.after hsession ((exec_conns w act true).trans hat.conns)
    (exec_shuttingDown w act true 0), hnext⟩

variable {c : ConnID} {conn base : Conn}

theorem conn_of_conns (hconns : w.conns = conns)
    (hconn : conns[c]? = some conn) :
    w.conn c = some conn := by
  rw [World.conn, hconns]
  exact hconn

/-- The rule for a step of a `Close`. -/
theorem Ahead.closing {d : ConnID} {conn : Conn} {stage : CloseStage}
    (after : Option CloseStage) (hclosing : thread.closing = some (d, stage))
    (hconn : conns[d]? = some conn)
    (hstep : ∀ w, w.session auth = s → w.conns = conns →
      (w.nodes 0).shuttingDown = false →
      (closeStep w d conn true stage).1.session auth = s' ∧
        (closeStep w d conn true stage).1.conns = conns' ∧
        (closeStep w d conn true stage).2 = after)
    (hahead : Ahead auth t s conns thread w') :
    Ahead auth t s' conns' { thread with closing := after.map (d, ·) } w' := by
  obtain ⟨w, hat, hcompletes⟩ := hahead
  obtain ⟨hsession, hconns, hafter⟩ :=
    hstep w hat.session hat.conns hat.running
  have hfound := conn_of_conns hat.conns hconn
  obtain ⟨next, thread₁, hcase, hnext⟩ := hcompletes.next hat.thread
    (.inl (by rw [hclosing]; exact Option.some_ne_none _))
  obtain ⟨rfl, rfl⟩ := hcase.of_closing hclosing hfound
  rw [hafter] at hnext
  exact ⟨_, hat.after hsession hconns
    (closeStep_shuttingDown w d conn true stage 0), hnext⟩

theorem Ahead.swap {d : ConnID} (hconn : conns[d]? = some conn)
    (hopen : conn.closed = false) (hahead : Ahead auth t s conns
      { closing := some (d, .swap), todo, onErr } w') :
    Ahead auth t s (conns.set d { conn with closed := true })
      { closing := some (d, .removeConnection), todo, onErr } w' := by
  refine hahead.closing (some .removeConnection) rfl hconn ?_
  rintro w hsession hconns -
  refine ⟨?_, ?_, ?_⟩
  · simp only [closeStep, hopen, Bool.false_eq_true, ↓reduceIte]
    exact hsession
  · rw [closeStep_conns, if_pos ⟨rfl, hopen⟩, hconns]
  · simp [closeStep, hopen]

/-- The close callback, behind the compare-and-swap. -/
theorem Ahead.callback {d : ConnID} (hauthenticated : auth.isAnonymous = false)
    (hconn : conns[d]? = some conn) (hnode : conn.node = 0)
    (hauth : conn.auth = auth) (hahead : Ahead auth t s conns
      { closing := some (d, .removeConnection), todo, onErr } w') :
    Ahead auth t (s.onClose auth) conns { todo, onErr } w' := by
  have hremoved : Ahead auth t { s with registered := none } conns
      { closing := some (d, .persist), todo, onErr } w' := by
    refine hahead.closing (some .persist) rfl hconn ?_
    rintro w rfl hconns -
    exact ⟨session_removeConnection hnode hauth, hconns, rfl⟩
  have hpersisted : Ahead auth t { s with registered := none } conns
      { closing := some (d, .updateStatus), todo, onErr } w' := by
    refine hremoved.closing (some .updateStatus) rfl hconn ?_
    intro w hsession hconns hrunning
    simp only [closeStep, hauth, hauthenticated, Bool.false_eq_true,
      ↓reduceIte, hnode, hrunning]
    exact ⟨hsession, hconns, trivial⟩
  have hupdated : Ahead auth t { s with
        registered := none
        row := s.row.map fun row => { row with status := .tempDisconnected } }
      conns { closing := some (d, .register), todo, onErr } w' := by
    refine hpersisted.closing (some .register) rfl hconn ?_
    rintro w hsession hconns -
    refine ⟨?_, hconns, rfl⟩
    simp only [closeStep, ↓reduceIte, hauth, session_updateStatus, hsession]
  refine hupdated.closing none rfl hconn ?_
  rintro w hsession hconns -
  have hhub : (w.nodes 0).hub = s.hub := congrArg Session.hub hsession
  refine ⟨?_, hconns, rfl⟩
  simp only [closeStep, hnode, hauth, hhub, session_setHub, hsession]
  rfl

/-- The acts that leave the session alone. -/
def Act.harmless : Act → Prop
  | .getAll _ | .deleteUpTo .. | .sendDirect .. | .serve _ => True
  | .hook admits => admits = true
  | .expireMessages _ => True
  | _ => False

theorem exec_harmless (w : World) (hact : act.harmless) :
    (exec w act true).world.session auth = w.session auth ∧
      (exec w act true).closing = none ∧
      (exec w act true).verdict = .done ∧
      ∀ pushed ∈ (exec w act true).push, pushed.harmless := by
  have hpush : ∀ pushed ∈ (exec w act true).push, pushed.harmless := by
    intro pushed hpushed
    cases pushes_of_mem hpushed with
    | deleteUpTo | sendDirect => trivial
    | _ => exact hact.elim
  refine ⟨?_, ?_, ?_, hpush⟩
  all_goals
    cases act <;> first | exact hact.elim | skip
    case hook admits =>
      cases hact
      rfl
    all_goals
      simp only [exec, execConn]
      (repeat' split) <;> first | rfl | contradiction

/-- A state between two events. -/
structure Done (auth : WebsocketAuth) (s : Session) (conns : List Conn)
    (w : World) : Prop where
  session : w.session auth = s
  conns : w.conns = conns
  running : (w.nodes 0).shuttingDown = false
  idle : ∀ (u : Nat) (thread : Thread), w.threads[u]? = some thread →
    thread.closing = none ∧ thread.todo = []

/-- A thread with only harmless acts left completes without a trace. -/
theorem Ahead.done (hidle : thread.closing = none)
    (hharmless : ∀ act ∈ thread.todo, act.harmless)
    (hahead : Ahead auth t s conns thread w') : Done auth s conns w' := by
  obtain ⟨w, hat, n, hrun, hreturned⟩ := hahead
  induction n generalizing w thread with
  | zero =>
    cases hrun
    refine ⟨hat.session, hat.conns, hat.running, ?_⟩
    intro u other hother
    by_cases hsame : u = t
    · subst hsame
      obtain ⟨hclosing, hdone, -⟩ := hreturned.of_thread hother
      exact ⟨hclosing, hdone⟩
    · exact hat.others u other hsame hother
  | succ n ih =>
    obtain ⟨next, thread', hcase, hnext⟩ := run_exec_succ hat.thread hrun
    obtain ⟨act, rest, htodo, rfl, rfl⟩ := hcase.of_idle hidle
    have hact := hharmless act (htodo ▸ List.mem_cons_self)
    obtain ⟨hsession, hclosing, hverdict, hpush⟩ :=
      @exec_harmless auth act w hact
    have hafter : afterAct thread rest (exec w act true) = { thread with
        closing := none
        todo := (exec w act true).push ++ rest } := by
      simp only [afterAct, hverdict, hclosing]
    rw [hafter] at hnext
    refine ih rfl ?_ _ (hat.after (hsession.trans hat.session)
      ((exec_conns w act true).trans hat.conns)
      (exec_shuttingDown w act true 0)) hnext
    intro later hlater
    rcases List.mem_append.mp hlater with hmem | hrest
    · exact hpush later hmem
    · exact hharmless later (htodo ▸ List.mem_cons_of_mem _ hrest)

/-- The read of the session's row, with what follows from it. -/
theorem Ahead.readRow (hsound : s.Sound auth) (hnone : s.registered = none)
    (hconn : conns[c]? = some base) (hnode : base.node = 0)
    (hauth : base.auth = auth) (hahead : Ahead auth t s conns
      { todo := .readRow c :: rest, onErr } w') :
    Ahead auth t (s.resume auth) conns { todo := rest, onErr } w' := by
  have hread : Ahead auth t s conns
      { todo := onRow base s.visibleRow ++ rest, onErr } w' := by
    refine hahead.perform rfl rfl ?_
    rintro w rfl hconns
    simp only [exec, conn_of_conns hconns hconn, execConn, ↓reduceIte, hauth]
    exact ⟨trivial, rfl⟩
  unfold Session.resume
  cases hvisible : s.visibleRow with
  | none =>
    rw [hvisible] at hread
    exact hread
  | some row =>
    obtain ⟨hrow, -⟩ := Option.filter_eq_some_iff.mp hvisible
    have hpush : onRow base (some row) =
        [.resumeSession 0 (some 0) auth] := by
      simp only [onRow, hsound.status row hrow hnone,
        hsound.holder row hrow, hnode, hauth]
    rw [hvisible, hpush] at hread
    have hresumed : Ahead auth t s conns
        { todo := .deregister 0 auth :: rest, onErr } w' := by
      refine hread.perform rfl rfl ?_
      rintro w hsession -
      exact ⟨hsession, rfl⟩
    refine hresumed.perform rfl rfl ?_
    rintro w rfl -
    exact ⟨session_setHub _, rfl⟩

/-- The acts of the new-connection callback behind the row's read. -/
theorem Ahead.claim (hconn : conns[c]? = some base) (hnode : base.node = 0)
    (hauth : base.auth = auth) (hahead : Ahead auth t s conns
      { todo := .addRow c :: .addConnection c :: rest, onErr } w') :
    Ahead auth t { s with
        row := some ⟨some 0, .connected, s.now⟩, registered := some c }
      conns { todo := rest, onErr } w' := by
  have hclaimed : Ahead auth t { s with
        row := some ⟨some 0, .connected, s.now⟩ }
      conns { todo := .addConnection c :: rest, onErr } w' := by
    refine hahead.perform rfl rfl ?_
    rintro w rfl hconns
    simp only [exec, conn_of_conns hconns hconn, execConn, ↓reduceIte,
      session_claimRow hnode hauth]
    exact ⟨rfl, rfl⟩
  refine hclaimed.perform rfl rfl ?_
  rintro w hsession hconns
  simp only [exec, conn_of_conns hconns hconn, execConn,
    session_addConnection hnode hauth, hsession]
  exact ⟨trivial, rfl⟩

/-- The connections of one session: the open one is the registered one. -/
def Listed (auth : WebsocketAuth) (conns : List Conn)
    (registered : Option ConnID) : Prop :=
  ∀ c conn, conns[c]? = some conn → conn.node = 0 ∧ conn.auth = auth ∧
    (conn.closed = false ↔ registered = some c)

/-- The close of a stale duplicate, if there is one. -/
theorem Ahead.closeDuplicate (hauthenticated : auth.isAnonymous = false)
    (hconn : conns[c]? = some base) (hnode : base.node = 0)
    (hauth : base.auth = auth) (hopen : base.closed = false)
    (hnew : s.registered ≠ some c)
    (hknown : ∀ d, s.registered = some d → ∃ conn, conns[d]? = some conn)
    (hlisted : ∀ d conn, d ≠ c → conns[d]? = some conn → conn.node = 0 ∧
      conn.auth = auth ∧ (conn.closed = false ↔ s.registered = some d))
    (hahead : Ahead auth t s conns
      { todo := .closeDuplicate c :: rest, onErr } w') :
    ∃ conns', conns'[c]? = some base ∧ Listed auth conns' (some c) ∧
      Ahead auth t (s.closeDuplicate auth) conns' { todo := rest, onErr }
        w' := by
  have hfound : Ahead auth t s conns
      { closing := s.registered.map (·, .swap), todo := rest, onErr } w' := by
    refine hahead.perform rfl rfl ?_
    rintro w rfl hconns
    simp only [exec, conn_of_conns hconns hconn, execConn, hnode, hauth]
    exact ⟨trivial, rfl⟩
  unfold Session.closeDuplicate
  cases hregistered : s.registered with
  | none =>
    rw [hregistered] at hfound
    refine ⟨conns, hconn, ?_, hfound⟩
    intro d conn hd
    by_cases hsame : d = c
    · subst hsame
      rw [hconn] at hd
      cases hd
      exact ⟨hnode, hauth, iff_of_true hopen rfl⟩
    · obtain ⟨hnode', hauth', hclosed⟩ := hlisted d conn hsame hd
      refine ⟨hnode', hauth', ?_⟩
      rw [hclosed, hregistered]
      simp [Ne.symm hsame]
  | some d =>
    rw [hregistered] at hfound hnew
    have hne : d ≠ c := fun h => hnew (congrArg some h)
    obtain ⟨conn, hd⟩ := hknown d hregistered
    obtain ⟨hnode', hauth', hclosed⟩ := hlisted d conn hne hd
    have hlt := (List.getElem?_eq_some_iff.mp hd).1
    have hshut : (conns.set d { conn with closed := true })[d]? =
        some { conn with closed := true } := List.getElem?_set_self hlt
    have hswapped := hfound.swap hd (hclosed.mpr hregistered)
    have hafter := hswapped.callback hauthenticated hshut hnode' hauth'
    refine ⟨_, (List.getElem?_set_ne hne).trans hconn, ?_, hafter⟩
    intro e other he
    by_cases hed : e = d
    · subst hed
      rw [List.getElem?_set_self hlt] at he
      cases he
      refine ⟨hnode', hauth', ?_⟩
      simp [Ne.symm hne]
    · rw [List.getElem?_set_ne (Ne.symm hed)] at he
      by_cases hec : e = c
      · subst hec
        rw [hconn] at he
        cases he
        exact ⟨hnode, hauth, iff_of_true hopen rfl⟩
      · obtain ⟨hnode₁, hauth₁, hclosed₁⟩ := hlisted e other hec he
        refine ⟨hnode₁, hauth₁, ?_⟩
        rw [hclosed₁, hregistered]
        simp [Ne.symm hec, Ne.symm hed]

end Atomic

end Cluster

end Pipewave
