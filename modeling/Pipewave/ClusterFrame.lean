/-
What one step of the cluster can change.  Registries, rows, claims and closed
flags are each written by few acts; every other step leaves them alone.
-/
import Pipewave.Cluster

namespace Pipewave

namespace Cluster

section Worlds

variable (w : World) (node other : ContainerID) (auth : WebsocketAuth)

@[simp] theorem registered_setConnections (map : ConnectionMap) :
    (w.setConnections node map).registered other auth =
      if other = node then map.getConnection auth
      else w.registered other auth := by
  by_cases hsame : other = node
  · subst hsame
    simp [World.registered, World.setConnections, World.setNode]
  · simp [World.registered, World.setConnections, World.setNode, hsame]

@[simp] theorem registered_setNode (value : Node)
    (hconnections : value.connections = (w.nodes node).connections) :
    (w.setNode node value).registered other auth =
      w.registered other auth := by
  by_cases hsame : other = node
  · subst hsame
    simp [World.registered, World.setNode, hconnections]
  · simp [World.registered, World.setNode, hsame]

@[simp] theorem registered_setHub (hub : Hub) :
    (w.setHub node hub).registered other auth = w.registered other auth :=
  registered_setNode w node other auth _ rfl

end Worlds

section CloseSteps

variable (w : World) (c : ConnID) (conn : Conn) (ok : Bool)
  (stage : CloseStage)

/-- A `Close` leaves everything alone but connections, containers and rows.
-/
theorem closeStep_frame {α : Type} (field : World → α)
    (hframe : ∀ w conns nodes rows, field
      { w with conns := conns, nodes := nodes, rows := rows } = field w) :
    field (closeStep w c conn ok stage).1 = field w := by
  cases stage <;> simp only [closeStep]
  case swap => split <;> [rfl; exact hframe w _ w.nodes w.rows]
  case removeConnection => exact hframe w w.conns _ w.rows
  case persist => split <;> [rfl; split <;> rfl]
  case updateStatus => split <;> [exact hframe w w.conns w.nodes _; rfl]
  case removeRow => split <;> [exact hframe w w.conns w.nodes _; rfl]
  case register => exact hframe w w.conns _ w.rows

theorem closeStep_threads :
    (closeStep w c conn ok stage).1.threads = w.threads :=
  closeStep_frame w c conn ok stage World.threads fun _ _ _ _ => rfl

theorem closeStep_claims :
    (closeStep w c conn ok stage).1.claims = w.claims :=
  closeStep_frame w c conn ok stage World.claims fun _ _ _ _ => rfl

theorem closeStep_consumed :
    (closeStep w c conn ok stage).1.consumed = w.consumed :=
  closeStep_frame w c conn ok stage World.consumed fun _ _ _ _ => rfl

/-- Only a successful swap closes a connection. -/
theorem closeStep_conns :
    (closeStep w c conn ok stage).1.conns =
      if stage = .swap ∧ conn.closed = false then
        w.conns.set c { conn with closed := true }
      else w.conns := by
  cases stage <;> simp only [closeStep, reduceCtorEq, false_and, ↓reduceIte,
    true_and]
  case swap => cases conn.closed <;> rfl
  case persist => split <;> [rfl; split <;> rfl]
  case updateStatus => split <;> rfl
  case removeRow => split <;> rfl
  all_goals rfl

/-- Only the removal step writes a registry. -/
theorem closeStep_registered (node : ContainerID) (auth : WebsocketAuth) :
    (closeStep w c conn ok stage).1.registered node auth =
      if stage = .removeConnection ∧ node = conn.node ∧ auth = conn.auth
      then none else w.registered node auth := by
  cases stage <;> simp only [closeStep, reduceCtorEq, false_and, ↓reduceIte,
    true_and]
  case swap => split <;> rfl
  case removeConnection =>
    rw [World.removeConnection, registered_setConnections,
      ConnectionMap.getConnection_removeConnection]
    by_cases hnode : node = conn.node
    · subst hnode
      simp [World.registered]
    · simp [hnode]
  case persist => split <;> [rfl; split <;> rfl]
  case updateStatus => split <;> rfl
  case removeRow => split <;> rfl
  case register => exact registered_setHub _ _ _ _ _

/-- Only the two store steps write a row. -/
theorem closeStep_row (auth : WebsocketAuth) :
    (closeStep w c conn ok stage).1.row auth =
      if auth = conn.auth ∧ ok = true ∧ stage = .updateStatus then
        (w.row conn.auth).map fun row =>
          { row with status := .tempDisconnected }
      else if auth = conn.auth ∧ ok = true ∧ stage = .removeRow then none
      else w.row auth := by
  cases stage <;> simp only [closeStep, reduceCtorEq, and_false, ↓reduceIte,
    and_true]
  case swap => split <;> rfl
  case removeConnection => rfl
  case persist => split <;> [rfl; split <;> rfl]
  case updateStatus =>
    cases ok with
    | false => simp
    | true =>
      simp only [↓reduceIte, World.row, ActiveConnTable.updateStatus,
        ActiveConnTable.lookup_modify, and_true]
  case removeRow =>
    cases ok with
    | false => simp
    | true =>
      simp only [↓reduceIte, World.row, World.removeRow,
        ActiveConnTable.lookup_removeConnection, and_true]
  case register => rfl

end CloseSteps

/-- The holder and status of a session's row. -/
def World.held (w : World) (auth : WebsocketAuth) :
    Option (Option ContainerID × WsStatus) :=
  (w.row auth).map fun row => (row.holderID, row.status)

/-- Nothing changed that a registry, a claim or a takeover depends on. -/
structure Quiet (w w' : World) : Prop where
  conns : w'.conns = w.conns
  claims : w'.claims = w.claims
  registered : ∀ node auth, w'.registered node auth = w.registered node auth
  held : ∀ auth, w'.held auth = w.held auth

variable {w w' next : World} {act : Act} {ok : Bool} {c : ConnID}
  {stage : CloseStage} {thread thread' : Thread} {conn : Conn}

theorem Quiet.of_eq (hconns : w'.conns = w.conns)
    (hclaims : w'.claims = w.claims) (hnodes : w'.nodes = w.nodes)
    (hrows : w'.rows = w.rows) : Quiet w w' where
  conns := hconns
  claims := hclaims
  registered := fun node auth => by simp only [World.registered, hnodes]
  held := fun auth => by simp only [World.held, World.row, hrows]

theorem Quiet.setHub (w : World) (node : ContainerID) (hub : Hub) :
    Quiet w (w.setHub node hub) :=
  ⟨rfl, rfl, fun _ _ => registered_setHub _ _ _ _ _, fun _ => rfl⟩

/-- The acts that are not quiet are the two claims of a new connection and the
removal by an expiry. -/
theorem exec_cases (w : World) (act : Act) (ok : Bool) :
    Quiet w (exec w act ok).world ∨
    (∃ c conn, act = .addConnection c ∧ w.conn c = some conn ∧
      exec w act ok = { world := w.addConnection c conn }) ∨
    (∃ c conn, act = .addRow c ∧ w.conn c = some conn ∧ ok = true ∧
      exec w act ok = { world := w.claimRow c conn }) ∨
    (∃ auth, act = .expireRow auth ∧ ok = true ∧
      exec w act ok = { world := w.removeRow auth }) := by
  have hquiet : Quiet w w := .of_eq rfl rfl rfl rfl
  cases act with
  | addConnection c =>
    cases hconn : w.conn c with
    | none =>
      refine .inl ?_
      simpa only [exec, hconn] using hquiet
    | some conn =>
      refine .inr (.inl ⟨c, conn, rfl, hconn, ?_⟩)
      simp only [exec, hconn, execConn]
  | addRow c =>
    cases hconn : w.conn c with
    | none =>
      refine .inl ?_
      simpa only [exec, hconn] using hquiet
    | some conn =>
      cases ok with
      | false =>
        refine .inl ?_
        simpa only [exec, hconn, execConn, Bool.false_eq_true,
          ↓reduceIte] using hquiet
      | true =>
        refine .inr (.inr (.inl ⟨c, conn, rfl, hconn, rfl, ?_⟩))
        simp only [exec, hconn, execConn, ↓reduceIte]
  | expireRow auth =>
    cases ok with
    | false => exact .inl hquiet
    | true => exact .inr (.inr (.inr ⟨auth, rfl, rfl, rfl⟩))
  | deregister node auth => exact .inl (Quiet.setHub w node _)
  | closeDuplicate c | readRow c | getAll c | sendDirect c message | serve c
  | close c =>
    refine .inl ?_
    cases hconn : w.conn c with
    | none => simpa only [exec, hconn] using hquiet
    | some conn =>
      simp only [exec, hconn, execConn]
      (repeat' split) <;> exact .of_eq rfl rfl rfl rfl
  | disconnectSession node auth | disconnectLocal node auth
  | disconnectRemote auth | publish envelope
  | resumeSession node holder auth | deleteUpTo auth maxSendAt
  | hook admits | expireMessages auth =>
    refine .inl ?_
    simp only [exec]
    (repeat' split) <;> exact .of_eq rfl rfl rfl rfl

theorem registered_addConnection (w : World) (c : ConnID) (conn : Conn)
    (node : ContainerID) (auth : WebsocketAuth) :
    (w.addConnection c conn).registered node auth =
      if conn.node = node ∧ conn.auth = auth then some c
      else w.registered node auth := by
  rw [World.addConnection, registered_setConnections,
    ConnectionMap.getConnection_addConnection]
  by_cases hnode : node = conn.node
  · subst hnode
    simp [World.registered, eq_comm]
  · simp [hnode, Ne.symm hnode]

/-- Only the registration of a new connection writes a registry. -/
theorem exec_registered (w : World) (act : Act) (ok : Bool)
    (node : ContainerID) (auth : WebsocketAuth) :
    (exec w act ok).world.registered node auth = w.registered node auth ∨
      ∃ c conn, act = .addConnection c ∧ w.conn c = some conn ∧
        conn.node = node ∧ conn.auth = auth ∧
        (exec w act ok).world.registered node auth = some c := by
  rcases exec_cases w act ok with hquiet | ⟨c, conn, rfl, hconn, hexec⟩ |
    ⟨c, conn, rfl, hconn, rfl, hexec⟩ | ⟨gone, rfl, rfl, hexec⟩
  · exact .inl (hquiet.registered node auth)
  · rw [hexec, registered_addConnection]
    by_cases hslot : conn.node = node ∧ conn.auth = auth
    · exact .inr ⟨c, conn, rfl, hconn, hslot.1, hslot.2, if_pos hslot⟩
    · exact .inl (if_neg hslot)
  · rw [hexec]
    exact .inl rfl
  · rw [hexec]
    exact .inl rfl

theorem exec_threads (w : World) (act : Act) (ok : Bool) :
    (exec w act ok).world.threads = w.threads := by
  cases act <;> simp only [exec, execConn] <;> (repeat' split) <;> rfl

theorem exec_conns (w : World) (act : Act) (ok : Bool) :
    (exec w act ok).world.conns = w.conns := by
  cases act <;> simp only [exec, execConn] <;> (repeat' split) <;> rfl

/-- An act starts a `Close` at its compare-and-swap, on the connection it is
about or on one it has found registered. -/
theorem exec_closing (hclosing : (exec w act ok).closing =
      some (c, stage)) :
    stage = .swap ∧
      (((∃ message, act = .sendDirect c message) ∨ act = .close c) ∧
          (∃ conn, w.conn c = some conn) ∨
        ∃ node auth, w.registered node auth = some c) := by
  cases act with
  | closeDuplicate d =>
    cases hconn : w.conn d with
    | none => simp [exec, hconn] at hclosing
    | some conn =>
      simp only [exec, hconn, execConn] at hclosing
      obtain ⟨e, he, hpair⟩ := Option.map_eq_some_iff.mp hclosing
      cases hpair
      exact ⟨rfl, .inr ⟨_, _, he⟩⟩
  | disconnectLocal node auth =>
    simp only [exec] at hclosing
    split at hclosing
    · cases hclosing
    · obtain ⟨e, he, hpair⟩ := Option.map_eq_some_iff.mp hclosing
      cases hpair
      exact ⟨rfl, .inr ⟨_, _, he⟩⟩
  | sendDirect d message =>
    cases hconn : w.conn d with
    | none => simp [exec, hconn] at hclosing
    | some conn =>
      simp only [exec, hconn, execConn] at hclosing
      split at hclosing
      · cases hclosing
      · cases hclosing
        exact ⟨rfl, .inl ⟨.inl ⟨message, rfl⟩, conn, hconn⟩⟩
  | close d =>
    cases hconn : w.conn d with
    | none => simp [exec, hconn] at hclosing
    | some conn =>
      simp only [exec, hconn, execConn] at hclosing
      cases hclosing
      exact ⟨rfl, .inl ⟨.inr rfl, conn, hconn⟩⟩
  | readRow d | addRow d | addConnection d | getAll d | serve d =>
    cases hconn : w.conn d with
    | none => simp [exec, hconn] at hclosing
    | some conn =>
      simp only [exec, hconn, execConn] at hclosing
      (repeat' split at hclosing) <;> cases hclosing
  | disconnectSession node auth | disconnectRemote auth | publish envelope
  | resumeSession node holder auth | deregister node auth
  | deleteUpTo auth maxSendAt | hook admits | expireRow auth
  | expireMessages auth =>
    simp only [exec] at hclosing
    (repeat' split at hclosing) <;> cases hclosing

theorem afterAct_closing {rest : List Act} {result : Result}
    {call : ConnID × CloseStage}
    (hclosing : (afterAct thread rest result).closing = some call) :
    result.closing = some call := by
  cases hverdict : result.verdict <;>
    simp [afterAct, hverdict] at hclosing
  exact hclosing

theorem Thread.nextAct_eq_some :
    thread.nextAct = some act ↔
      thread.closing = none ∧ ∃ rest, thread.todo = act :: rest := by
  unfold Thread.nextAct
  split
  · next hclosing => simp [hclosing, List.head?_eq_some_iff]
  · next hclosing => simp [hclosing]

/-- The connection that an act registers, reads messages for or serves. -/
def Act.owner : Act → Option ConnID
  | .addConnection c | .getAll c | .serve c => some c
  | _ => none

/-- Everything a thread may still do. -/
def Thread.acts (thread : Thread) : List Act := thread.todo ++ thread.onErr

/-- The acts that an act may put in front of the others. -/
inductive Act.Pushes : Act → Act → Prop where
  | disconnectSession (c : ConnID) (node : ContainerID)
      (auth : WebsocketAuth) :
      Pushes (.readRow c) (.disconnectSession node auth)
  | resumeSession (c : ConnID) (node : ContainerID)
      (holder : Option ContainerID) (auth : WebsocketAuth) :
      Pushes (.readRow c) (.resumeSession node holder auth)
  | deleteUpTo (c : ConnID) (auth : WebsocketAuth) (maxSendAt : Int) :
      Pushes (.getAll c) (.deleteUpTo auth maxSendAt)
  | sendDirect (c : ConnID) (message : Bytes) :
      Pushes (.getAll c) (.sendDirect c message)
  | disconnectLocal (node : ContainerID) (auth auth' : WebsocketAuth) :
      Pushes (.disconnectSession node auth) (.disconnectLocal node auth')
  | disconnectRemote (node : ContainerID) (auth auth' : WebsocketAuth) :
      Pushes (.disconnectSession node auth) (.disconnectRemote auth')
  | publishDisconnect (auth : WebsocketAuth) (envelope : Envelope) :
      Pushes (.disconnectRemote auth) (.publish envelope)
  | deregister (node : ContainerID) (holder : Option ContainerID)
      (auth : WebsocketAuth) :
      Pushes (.resumeSession node holder auth) (.deregister node auth)
  | publishResume (node : ContainerID) (holder : Option ContainerID)
      (auth : WebsocketAuth) (envelope : Envelope) :
      Pushes (.resumeSession node holder auth) (.publish envelope)

theorem pushes_of_mem {pushed : Act}
    (hpushed : pushed ∈ (exec w act ok).push) : act.Pushes pushed := by
  cases act with
  | readRow c =>
    cases hconn : w.conn c with
    | none => simp [exec, hconn] at hpushed
    | some conn =>
      simp only [exec, hconn, execConn] at hpushed
      split at hpushed
      · simp only [onRow] at hpushed
        (repeat' split at hpushed) <;> simp at hpushed <;>
          (subst hpushed; constructor)
      · simp at hpushed
  | getAll c =>
    cases hconn : w.conn c with
    | none => simp [exec, hconn] at hpushed
    | some conn =>
      simp only [exec, hconn, execConn] at hpushed
      split at hpushed
      · simp at hpushed
      · rcases List.mem_cons.mp hpushed with rfl | hsend
        · exact .deleteUpTo c _ _
        · obtain ⟨row, -, rfl⟩ := List.mem_map.mp hsend
          exact .sendDirect c row.message
  | closeDuplicate c | addRow c | addConnection c | sendDirect c message
  | serve c | close c =>
    cases hconn : w.conn c with
    | none => simp [exec, hconn] at hpushed
    | some conn =>
      simp only [exec, hconn, execConn] at hpushed
      (repeat' split at hpushed) <;> simp at hpushed
  | disconnectSession node auth | disconnectRemote auth
  | resumeSession node holder auth =>
    simp only [exec] at hpushed
    (repeat' split at hpushed) <;> simp at hpushed <;>
      (subst hpushed; constructor)
  | disconnectLocal node auth | publish envelope | deregister node auth
  | deleteUpTo auth maxSendAt | hook admits | expireRow auth
  | expireMessages auth =>
    simp only [exec] at hpushed
    (repeat' split at hpushed) <;> simp at hpushed

theorem exec_push (w : World) (act : Act) (ok : Bool) :
    ∀ pushed ∈ (exec w act ok).push, pushed.owner = none := by
  intro pushed hpushed
  cases pushes_of_mem hpushed <;> rfl

theorem mem_acts_afterAct {rest : List Act} {result : Result}
    (hact : act ∈ (afterAct thread rest result).acts) :
    act ∈ result.push ∨ act ∈ rest ∨ act ∈ thread.onErr := by
  cases hverdict : result.verdict <;>
    simp only [afterAct, hverdict, Thread.acts, List.mem_append,
      List.not_mem_nil, or_false] at hact
  · rcases hact with (hpush | hrest) | herr
    · exact .inl hpush
    · exact .inr (.inl hrest)
    · exact .inr (.inr herr)
  · exact .inr (.inr hact)

/-- Everything one step can do. -/
inductive StepCase (w : World) : Label → World → Prop where
  | quiet {label : Label} {w' : World} (same : Quiet w w')
      (threads : w'.threads = w.threads) : StepCase w label w'
  | spawned {label : Label} {w' : World} {thread : Thread}
      (same : Quiet w w') (threads : w'.threads = w.threads ++ [thread])
      (swaps : ∀ {c stage}, thread.closing = some (c, stage) →
        stage = .swap ∧ ∃ conn, w.conn c = some conn)
      (unowned : ∀ act ∈ thread.acts, act.owner = none) :
      StepCase w label w'
  | opened {label : Label} {conn : Conn} {thread : ConnID → Thread}
      (isOpen : conn.closed = false) (idle : ∀ c, (thread c).closing = none)
      (own : ∀ c, ∀ act ∈ (thread c).acts,
        act.owner = none ∨ act.owner = some c) :
      StepCase w label (openConn w conn thread)
  | orphan {t : Nat} {ok : Bool} {thread : Thread} {c : ConnID}
      {stage : CloseStage} (running : w.threads[t]? = some thread)
      (closing : thread.closing = some (c, stage)) (gone : w.conn c = none) :
      StepCase w (.exec t ok)
        { w with threads := w.threads.set t { thread with closing := none } }
  | closing {t : Nat} {ok : Bool} {thread : Thread} {c : ConnID} {conn : Conn}
      {stage : CloseStage} (running : w.threads[t]? = some thread)
      (closing : thread.closing = some (c, stage))
      (known : w.conn c = some conn) :
      StepCase w (.exec t ok)
        { (closeStep w c conn ok stage).1 with
          threads := w.threads.set t { thread with
            closing := (closeStep w c conn ok stage).2.map (c, ·) } }
  | act {t : Nat} {ok : Bool} {thread : Thread} {act : Act} {rest : List Act}
      (running : w.threads[t]? = some thread)
      (closing : thread.closing = none) (todo : thread.todo = act :: rest) :
      StepCase w (.exec t ok)
        { (exec w act ok).world with
          threads := w.threads.set t
            (afterAct thread rest (exec w act ok)) }

/-- Everything one step of a thread can do. -/
inductive ThreadCase (w : World) (thread : Thread) (ok : Bool) :
    World → Thread → Prop where
  | orphan {c : ConnID} {stage : CloseStage}
      (closing : thread.closing = some (c, stage)) (gone : w.conn c = none) :
      ThreadCase w thread ok w { thread with closing := none }
  | closing {c : ConnID} {conn : Conn} {stage : CloseStage}
      (closing : thread.closing = some (c, stage))
      (known : w.conn c = some conn) :
      ThreadCase w thread ok (closeStep w c conn ok stage).1 { thread with
        closing := (closeStep w c conn ok stage).2.map (c, ·) }
  | act {act : Act} {rest : List Act} (closing : thread.closing = none)
      (todo : thread.todo = act :: rest) :
      ThreadCase w thread ok (exec w act ok).world
        (afterAct thread rest (exec w act ok))

/-- Outside of a `Close` a thread performs its next act. -/
theorem ThreadCase.of_idle (hcase : ThreadCase w thread ok next thread')
    (hidle : thread.closing = none) :
    ∃ act rest, thread.todo = act :: rest ∧ next = (exec w act ok).world ∧
      thread' = afterAct thread rest (exec w act ok) := by
  cases hcase with
  | orphan closing | closing closing =>
    rw [hidle] at closing
    cases closing
  | act closing todo => exact ⟨_, _, todo, rfl, rfl⟩

theorem ThreadCase.of_closing (hcase : ThreadCase w thread ok next thread')
    (hclosing : thread.closing = some (c, stage))
    (hconn : w.conn c = some conn) :
    next = (closeStep w c conn ok stage).1 ∧ thread' = { thread with
      closing := (closeStep w c conn ok stage).2.map (c, ·) } := by
  cases hcase with
  | orphan closing gone =>
    cases hclosing.symm.trans closing
    cases hconn.symm.trans gone
  | closing closing known =>
    cases hclosing.symm.trans closing
    cases hconn.symm.trans known
    exact ⟨rfl, rfl⟩
  | act closing => cases hclosing.symm.trans closing

theorem ThreadCase.threads (hcase : ThreadCase w thread ok next thread') :
    next.threads = w.threads := by
  cases hcase with
  | orphan closing gone => rfl
  | closing closing known => exact closeStep_threads _ _ _ _ _
  | act closing todo => exact exec_threads _ _ _

theorem stepThread_cases
    (hstep : stepThread w thread ok = some (next, thread')) :
    ThreadCase w thread ok next thread' := by
  cases hclosing : thread.closing with
  | none =>
    cases htodo : thread.todo with
    | nil => simp [stepThread, hclosing, htodo] at hstep
    | cons act rest =>
      simp only [stepThread, hclosing, htodo, Option.some.injEq,
        Prod.mk.injEq] at hstep
      obtain ⟨rfl, rfl⟩ := hstep
      exact .act hclosing htodo
  | some call =>
    obtain ⟨c, stage⟩ := call
    cases hconn : w.conn c with
    | none =>
      simp only [stepThread, hclosing, hconn, Option.some.injEq,
        Prod.mk.injEq] at hstep
      obtain ⟨rfl, rfl⟩ := hstep
      exact .orphan hclosing hconn
    | some conn =>
      simp only [stepThread, hclosing, hconn, Option.some.injEq,
        Prod.mk.injEq] at hstep
      obtain ⟨rfl, rfl⟩ := hstep
      exact .closing hclosing hconn

theorem step_exec {t : Nat} (hstep : step w (.exec t ok) = some w') :
    ∃ thread next thread', w.threads[t]? = some thread ∧
      ThreadCase w thread ok next thread' ∧
      w' = { next with threads := w.threads.set t thread' } := by
  cases hthread : w.threads[t]? with
  | none => simp [step, hthread] at hstep
  | some thread =>
    simp only [step, hthread] at hstep
    obtain ⟨⟨next, thread'⟩, hnext, rfl⟩ := Option.map_eq_some_iff.mp hstep
    have hcase := stepThread_cases hnext
    exact ⟨thread, next, thread', rfl, hcase, by rw [hcase.threads]⟩

theorem step_exec_cases {t : Nat} (hstep : step w (.exec t ok) = some w') :
    StepCase w (.exec t ok) w' := by
  obtain ⟨thread, next, thread', hthread, hcase, rfl⟩ := step_exec hstep
  cases hcase with
  | orphan closing gone => exact .orphan hthread closing gone
  | closing closing known => exact .closing hthread closing known
  | act closing todo => exact .act hthread closing todo

theorem owner_onNewStuff {hookFirst admits : Bool}
    (hact : act ∈ onNewStuff c hookFirst admits) :
    act.owner = none ∨ act.owner = some c := by
  cases hookFirst <;>
    simp only [onNewStuff, newConnection, ↓reduceIte, Bool.false_eq_true,
      List.cons_append, List.nil_append, List.mem_cons,
      List.not_mem_nil, or_false] at hact <;>
    rcases hact with rfl | rfl | rfl | rfl | rfl | rfl <;>
    first | exact .inl rfl | exact .inr rfl

theorem step_cases {label : Label} (hstep : step w label = some w') :
    StepCase w label w' := by
  have htimer : ∀ {label node next},
      Option.map (w.setHub node) next = some w' → StepCase w label w' := by
    intro label node next hmap
    obtain ⟨hub, -, rfl⟩ := Option.map_eq_some_iff.mp hmap
    exact .quiet (.setHub w node hub) rfl
  cases label with
  | accept node auth hookFirst admits =>
    cases hstep
    refine .opened rfl (fun _ => rfl) ?_
    intro c act hact
    rcases List.mem_append.mp hact with hnew | hclose
    · exact owner_onNewStuff hnew
    · rw [List.mem_singleton.mp hclose]
      exact .inl rfl
  | poll node auth hookFirst admits =>
    simp only [step] at hstep
    split at hstep
    · cases hstep
      refine .opened rfl (fun _ => rfl) ?_
      intro c act hact
      rw [Thread.acts, List.append_nil] at hact
      rcases List.mem_append.mp hact with hnew | hserve
      · exact owner_onNewStuff hnew
      · rw [List.mem_singleton.mp hserve]
        exact .inr rfl
    · split at hstep
      · cases hstep
      · split at hstep <;> cases hstep <;>
          exact .quiet (.of_eq rfl rfl rfl rfl) rfl
  | lpSend node auth =>
    simp only [step] at hstep
    split at hstep
    · cases hstep
      exact .quiet (.of_eq rfl rfl rfl rfl) rfl
    · split at hstep
      · cases hstep
      · split at hstep <;> cases hstep <;>
          exact .quiet (.of_eq rfl rfl rfl rfl) rfl
  | frame c =>
    simp only [step] at hstep
    split at hstep
    · cases hstep
    · split at hstep <;> cases hstep
      exact .quiet (.of_eq rfl rfl rfl rfl) rfl
  | close c =>
    simp only [step] at hstep
    split at hstep
    · next hconn =>
      cases hstep
      refine .spawned (.of_eq rfl rfl rfl rfl) rfl ?_ ?_
      · intro d stage hclosing
        cases hclosing
        exact ⟨rfl, Option.isSome_iff_exists.mp hconn⟩
      · exact fun act hact => absurd hact List.not_mem_nil
    · cases hstep
  | exec t ok => exact step_exec_cases hstep
  | deliver k =>
    simp only [step] at hstep
    split at hstep
    · cases hstep
    · next envelope _ =>
      cases hstep
      refine .spawned (.of_eq rfl rfl rfl rfl) rfl ?_ ?_
      · intro d stage hclosing
        cases hsignal : envelope.signal <;>
          simp [handler, hsignal] at hclosing
      · intro act hact
        cases hsignal : envelope.signal <;>
          simp [handler, hsignal, Thread.acts] at hact <;>
          (subst hact; rfl)
  | startTimer node i => exact htimer hstep
  | fireTimer node i => exact htimer hstep
  | stopTimer node i => exact htimer hstep
  | lockTimer node i => exact htimer hstep
  | callTimer node i =>
    simp only [step] at hstep
    split at hstep
    · next r hub _ _ =>
      cases hstep
      refine @StepCase.spawned w _ _ (onExpired r) ?_ rfl ?_ ?_
      · exact ⟨rfl, rfl, fun _ _ => registered_setHub w node _ _ hub,
          fun _ => rfl⟩
      · intro d stage hclosing
        cases hclosing
      · intro act hact
        simp only [onExpired, Thread.acts, List.append_nil, List.mem_cons,
          List.not_mem_nil, or_false] at hact
        rcases hact with rfl | rfl <;> rfl
    · cases hstep
  | markShuttingDown node =>
    cases hstep
    exact .quiet ⟨rfl, rfl, fun _ _ => registered_setNode w node _ _ _ rfl,
      fun _ => rfl⟩ rfl
  | heartbeat auth =>
    cases hstep
    refine .quiet ⟨rfl, rfl, fun _ _ => rfl, ?_⟩ rfl
    intro other
    simp only [World.held, World.row, ActiveConnTable.updateHeartBeat,
      ActiveConnTable.lookup_modify]
    by_cases hsame : other = auth
    · subst hsame
      rw [if_pos rfl, Option.map_map]
      rfl
    · rw [if_neg hsame]
  | save row =>
    cases hstep
    exact .quiet (.of_eq rfl rfl rfl rfl) rfl
  | advance elapsed =>
    cases hstep
    exact .quiet (.of_eq rfl rfl rfl rfl) rfl

theorem conn_openConn {new : Conn} {thread : ConnID → Thread}
    (hconn : w.conn c = some conn) :
    (openConn w new thread).conn c = some conn := by
  obtain ⟨hlt, -⟩ := List.getElem?_eq_some_iff.mp hconn
  rw [← hconn]
  exact List.getElem?_append_left hlt

theorem conn_closeStep {w : World} {c d : ConnID} {conn : Conn} {ok : Bool}
    {stage : CloseStage} (hconn : w.conn c = some conn) :
    (closeStep w c conn ok stage).1.conn d =
      if stage = .swap ∧ conn.closed = false ∧ d = c then
        some { conn with closed := true }
      else w.conn d := by
  obtain ⟨hlt, -⟩ := List.getElem?_eq_some_iff.mp hconn
  rw [World.conn, closeStep_conns]
  by_cases hswap : stage = .swap ∧ conn.closed = false
  · by_cases hsame : d = c
    · subst hsame
      rw [if_pos hswap, if_pos ⟨hswap.1, hswap.2, rfl⟩,
        List.getElem?_set_self hlt]
    · rw [if_pos hswap, if_neg fun h => hsame h.2.2,
        List.getElem?_set_ne (Ne.symm hsame)]
      rfl
  · rw [if_neg hswap, if_neg fun h => hswap ⟨h.1, h.2.1⟩]
    rfl

/-- A later state of a connection. -/
structure Conn.Keeps (conn conn' : Conn) : Prop where
  node : conn'.node = conn.node
  auth : conn'.auth = conn.auth
  coreType : conn'.coreType = conn.coreType
  closed : conn.closed = true → conn'.closed = true

theorem Conn.Keeps.refl (conn : Conn) : conn.Keeps conn :=
  ⟨rfl, rfl, rfl, id⟩

/-- A connection keeps its container and identity, and stays closed. -/
theorem conn_step {label : Label} (hstep : step w label = some w')
    (hconn : w.conn c = some conn) :
    ∃ conn', w'.conn c = some conn' ∧ conn.Keeps conn' := by
  have hsame : w'.conns = w.conns →
      ∃ conn', w'.conn c = some conn' ∧ conn.Keeps conn' := by
    intro hconns
    exact ⟨conn, by rw [World.conn, hconns]; exact hconn, .refl conn⟩
  cases step_cases hstep with
  | quiet same threads => exact hsame same.conns
  | spawned same threads swaps => exact hsame same.conns
  | opened isOpen idle => exact ⟨conn, conn_openConn hconn, .refl conn⟩
  | orphan running closing gone => exact hsame rfl
  | @closing t ok thread d closed stage running closing known =>
    have hafter := @conn_closeStep w d c closed ok stage known
    by_cases hswap : stage = .swap ∧ closed.closed = false ∧ c = d
    · rw [if_pos hswap] at hafter
      obtain ⟨-, -, rfl⟩ := hswap
      rw [hconn] at known
      cases known
      exact ⟨_, hafter, rfl, rfl, rfl, fun _ => rfl⟩
    · rw [if_neg hswap] at hafter
      exact ⟨conn, hafter.trans hconn, .refl conn⟩
  | act running closing todo => exact hsame (exec_conns w _ _)

end Cluster

end Pipewave
