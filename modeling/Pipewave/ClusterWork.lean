/-
What threads still do for a connection.  A connection is registered, read for
and served only by acts of the thread that opened it, by requests that find
it in a registry, and by frames on an open WebSocket.
-/
import Pipewave.ClusterFrame
import Pipewave.Pool

namespace Pipewave

namespace Cluster

/-- The act that a thread is about to make. -/
def World.nextAct (w : World) (t : Nat) : Option Act :=
  w.threads[t]?.bind Thread.nextAct

/-- The thread may still register, read for or serve the connection. -/
def World.WorksFor (w : World) (s : Nat) (c : ConnID) : Prop :=
  ∃ thread, w.threads[s]? = some thread ∧
    ∃ act ∈ thread.acts, act.owner = some c

section Steps

variable {w w' : World} {label : Label}

variable {s : Nat} {thread : Thread} {c : ConnID} {node : ContainerID}
  {auth : WebsocketAuth}

theorem nextAct_running {act : Act} {rest : List Act}
    (hthread : w.threads[s]? = some thread) (hclosing : thread.closing = none)
    (htodo : thread.todo = act :: rest) :
    w.nextAct s = some act := by
  rw [World.nextAct, hthread, Option.bind_some]
  exact Thread.nextAct_eq_some.mpr ⟨hclosing, rest, htodo⟩

theorem worksFor_of_nextAct {act : Act} (hnext : w.nextAct s = some act)
    (howner : act.owner = some c) :
    w.WorksFor s c := by
  obtain ⟨thread, hthread, hact⟩ := Option.bind_eq_some_iff.mp hnext
  refine ⟨thread, hthread, act, ?_, howner⟩
  obtain ⟨-, rest, htodo⟩ := Thread.nextAct_eq_some.mp hact
  exact List.mem_append_left _ (htodo ▸ List.mem_cons_self)

theorem not_worksFor (hthread : w.threads[s]? = some thread)
    (hfree : ∀ act ∈ thread.acts, act.owner ≠ some c) :
    ¬ w.WorksFor s c := by
  rintro ⟨thread', hthread', act, hact, howner⟩
  rw [hthread] at hthread'
  cases hthread'
  exact hfree act hact howner

/-- A thread works for a connection from the step on that opens it. -/
theorem worksFor_step (hstep : step w label = some w') {d : ConnID}
    (hworks : w'.WorksFor s d) :
    w.WorksFor s d ∨ d = w.conns.length ∧ ∃ conn, w'.conn d = some conn := by
  obtain ⟨thread', hthread, act, hact, howner⟩ := hworks
  cases step_cases hstep with
  | quiet same threads =>
    exact .inl ⟨thread', threads ▸ hthread, act, hact, howner⟩
  | spawned same threads swaps unowned =>
    rw [threads] at hthread
    rcases getElem?_concat_cases hthread with hold | ⟨-, rfl⟩
    · exact .inl ⟨thread', hold, act, hact, howner⟩
    · rw [unowned act hact] at howner
      cases howner
  | @opened _ conn _ isOpen idle own =>
    rcases getElem?_concat_cases hthread with hold | ⟨-, rfl⟩
    · exact .inl ⟨thread', hold, act, hact, howner⟩
    · rcases own _ act hact with hnone | hsome
      · rw [hnone] at howner
        cases howner
      · rw [hsome] at howner
        cases howner
        exact .inr ⟨rfl, conn, List.getElem?_concat_length⟩
  | orphan running closing gone =>
    rcases getElem?_set_cases hthread with hold | ⟨rfl, rfl⟩
    · exact .inl ⟨thread', hold, act, hact, howner⟩
    · exact .inl ⟨_, running, act, hact, howner⟩
  | closing running closing known =>
    rcases getElem?_set_cases hthread with hold | ⟨rfl, rfl⟩
    · exact .inl ⟨thread', hold, act, hact, howner⟩
    · exact .inl ⟨_, running, act, hact, howner⟩
  | @act t ok thread next rest running closing todo =>
    rcases getElem?_set_cases hthread with hold | ⟨rfl, rfl⟩
    · exact .inl ⟨thread', hold, act, hact, howner⟩
    · refine .inl ⟨thread, running, act, ?_, howner⟩
      rcases mem_acts_afterAct hact with hpush | hrest | herr
      · rw [exec_push w next ok act hpush] at howner
        cases howner
      · exact List.mem_append_left _
          (todo ▸ List.mem_cons_of_mem _ hrest)
      · exact List.mem_append_right _ herr

theorem registered_start (cutoff ttl : Int) (node : ContainerID)
    (auth : WebsocketAuth) :
    (start cutoff ttl).registered node auth = none := by
  by_cases hanonymous : auth.isAnonymous = true <;>
    simp [World.registered, start, ConnectionMap.getConnection, hanonymous]

/-- A registry gets a connection only by the act that registers it, in the
slot of the connection's container and identity. -/
theorem registered_step (hstep : step w label = some w')
    (hregistered : w'.registered node auth = some c) :
    w.registered node auth = some c ∨
      ∃ s ok conn, label = .exec s ok ∧
        w.nextAct s = some (.addConnection c) ∧
        w.conn c = some conn ∧ conn.node = node ∧ conn.auth = auth := by
  cases step_cases hstep with
  | quiet same threads => exact .inl (same.registered node auth ▸ hregistered)
  | spawned same threads swaps =>
    exact .inl (same.registered node auth ▸ hregistered)
  | opened isOpen idle => exact .inl hregistered
  | orphan running closing gone => exact .inl hregistered
  | @closing t ok thread d conn stage running closing known =>
    have hslot :
        (closeStep w d conn ok stage).1.registered node auth = some c :=
      hregistered
    rw [closeStep_registered] at hslot
    split at hslot
    · cases hslot
    · exact .inl hslot
  | @act t ok thread act rest running closing todo =>
    rcases exec_registered w act ok node auth with hsame |
      ⟨d, conn, rfl, hconn, hnode, hauth, hnew⟩
    · exact .inl (hsame ▸ hregistered)
    · have hdc : some d = some c := hnew.symm.trans hregistered
      cases hdc
      exact .inr ⟨t, ok, conn, rfl, nextAct_running running closing todo,
        hconn, hnode, hauth⟩

/-- The container that holds a session's row. -/
def World.holder (w : World) (auth : WebsocketAuth) : Option ContainerID :=
  (w.row auth).bind ActiveConnection.holderID

theorem holder_eq_held (w : World) (auth : WebsocketAuth) :
    w.holder auth = (w.held auth).bind Prod.fst := by
  unfold World.holder World.held
  cases w.row auth <;> rfl

theorem holder_claimRow (w : World) (c : ConnID) (conn : Conn)
    (auth : WebsocketAuth) :
    (w.claimRow c conn).holder auth =
      if auth = conn.auth then some conn.node else w.holder auth := by
  unfold World.holder World.row World.claimRow
  dsimp only
  rw [ActiveConnTable.lookup_addConnection]
  split <;> rfl

theorem holder_removeRow {other : WebsocketAuth}
    (hholder : (w.removeRow auth).holder other =
      some node) : w.holder other = some node := by
  unfold World.holder World.row World.removeRow at hholder
  dsimp only at hholder
  rw [ActiveConnTable.lookup_removeConnection] at hholder
  split at hholder
  · cases hholder
  · exact hholder

theorem holder_closeStep {conn : Conn} {ok : Bool} {stage : CloseStage}
    (hholder : (closeStep w c conn ok stage).1.holder auth = some node) :
    w.holder auth = some node := by
  unfold World.holder at hholder ⊢
  rw [closeStep_row] at hholder
  split at hholder
  · next hupdate =>
      rw [hupdate.1]
      cases hrow : w.row conn.auth with
      | none =>
        rw [hrow] at hholder
        cases hholder
      | some row =>
        rw [hrow] at hholder
        exact hholder
  · split at hholder
    · cases hholder
    · exact hholder

/-- A row gets a holder only by the act with which one of that container's
connections claims it. -/
theorem holder_step (hstep : step w label = some w')
    (hholder : w'.holder auth = some node) :
    w.holder auth = some node ∨
      ∃ s c conn, label = .exec s true ∧ w.nextAct s = some (.addRow c) ∧
        w.conn c = some conn ∧ conn.node = node ∧ conn.auth = auth := by
  have hquiet : ∀ {next : World}, Quiet w next →
      next.holder auth = some node → w.holder auth = some node := by
    intro next hsame hnext
    rw [holder_eq_held, hsame.held] at hnext
    rw [holder_eq_held]
    exact hnext
  cases step_cases hstep with
  | quiet same threads => exact .inl (hquiet same hholder)
  | spawned same threads swaps => exact .inl (hquiet same hholder)
  | opened isOpen idle => exact .inl hholder
  | orphan running closing gone => exact .inl hholder
  | closing running closing known => exact .inl (holder_closeStep hholder)
  | @act t ok thread act rest running closing todo =>
    rcases exec_cases w act ok with hsame | ⟨c, conn, rfl, hconn, hexec⟩ |
      ⟨c, conn, rfl, hconn, rfl, hexec⟩ | ⟨other, rfl, rfl, hexec⟩
    · exact .inl (hquiet hsame hholder)
    · rw [hexec] at hholder
      exact .inl hholder
    · rw [hexec] at hholder
      change (w.claimRow c conn).holder auth = some node at hholder
      rw [holder_claimRow] at hholder
      split at hholder
      · next hauth =>
          exact .inr ⟨t, c, conn, rfl,
            nextAct_running running closing todo, hconn,
            Option.some.inj hholder, hauth.symm⟩
      · exact .inl hholder
    · rw [hexec] at hholder
      exact .inl (holder_removeRow hholder)

theorem exec_consumed (w : World) (act : Act) (ok : Bool) :
    (exec w act ok).world.consumed = w.consumed ∨
      ∃ (c : ConnID) (rows : List PendingMessage), act = .getAll c ∧
        (exec w act ok).world.consumed =
          w.consumed ++ rows.map fun row => (c, row) := by
  cases act with
  | getAll c =>
    simp only [exec]
    split
    · exact .inl rfl
    · simp only [execConn]
      split
      · exact .inl rfl
      · exact .inr ⟨c, _, rfl, rfl⟩
  | _ =>
    refine .inl ?_
    simp only [exec, execConn]
    (repeat' split) <;> rfl

/-- Messages are read for a connection only by the act that does so. -/
theorem consumed_step (hstep : step w label = some w')
    {read : ConnID × PendingMessage} (hread : read ∈ w'.consumed) :
    read ∈ w.consumed ∨ ∃ s ok, label = .exec s ok ∧
      w.nextAct s = some (.getAll read.1) := by
  cases label with
  | exec t ok =>
    obtain ⟨thread, next, thread', hthread, hcase, rfl⟩ := step_exec hstep
    cases hcase with
    | orphan closing gone => exact .inl hread
    | closing closing known =>
      exact .inl (closeStep_consumed w _ _ ok _ ▸ hread)
    | @act act rest closing todo =>
      rcases exec_consumed w act ok with hsame | ⟨c, rows, rfl, hnew⟩
      · exact .inl (hsame ▸ hread)
      · rcases List.mem_append.mp (hnew ▸ hread) with hold | hmem
        · exact .inl hold
        · obtain ⟨row, -, rfl⟩ := List.mem_map.mp hmem
          exact .inr ⟨t, ok, rfl, nextAct_running hthread closing todo⟩
  | _ =>
    refine .inl ?_
    simp only [step] at hstep
    (repeat' split at hstep) <;>
      first
      | cases hstep <;> exact hread
      | obtain ⟨hub, -, rfl⟩ := Option.map_eq_some_iff.mp hstep
        exact hread

theorem ThreadCase.consumed_subset {next : World} {thread' : Thread}
    {ok : Bool} (hcase : ThreadCase w thread ok next thread')
    {read : ConnID × PendingMessage} (hread : read ∈ w.consumed) :
    read ∈ next.consumed := by
  cases hcase with
  | orphan closing gone => exact hread
  | closing closing known => exact closeStep_consumed w _ _ ok _ ▸ hread
  | @act act rest closing todo =>
    rcases exec_consumed w act ok with hsame | ⟨d, rows, -, hnew⟩
    · exact hsame ▸ hread
    · rw [hnew]
      exact List.mem_append_left _ hread

theorem consumed_subset_step (hstep : step w label = some w')
    {read : ConnID × PendingMessage} (hread : read ∈ w.consumed) :
    read ∈ w'.consumed := by
  cases label with
  | exec t ok =>
    obtain ⟨thread, next, thread', -, hcase, rfl⟩ := step_exec hstep
    exact hcase.consumed_subset hread
  | _ =>
    simp only [step] at hstep
    (repeat' split at hstep) <;>
      first
      | cases hstep <;> exact hread
      | obtain ⟨hub, -, rfl⟩ := Option.map_eq_some_iff.mp hstep
        exact hread

theorem exec_served (w : World) (act : Act) (ok : Bool) :
    (exec w act ok).world.served = w.served ∨
      ∃ c, act = .serve c ∧
        (exec w act ok).world.served = c :: w.served := by
  cases act with
  | serve c =>
    simp only [exec]
    split
    · exact .inl rfl
    · exact .inr ⟨c, rfl, rfl⟩
  | _ =>
    refine .inl ?_
    simp only [exec, execConn]
    (repeat' split) <;> rfl

/-- A request is served on a registered connection, on an open WebSocket, or
by the poll that opened the connection. -/
theorem served_step (hstep : step w label = some w') :
    w'.served = w.served ∨ ∃ c, w'.served = c :: w.served ∧
      ((∃ node auth, w.registered node auth = some c) ∨
        (∃ conn, w.conn c = some conn ∧ conn.coreType = .gobwas ∧
          conn.closed = false) ∨
        ∃ s, w.nextAct s = some (.serve c)) := by
  cases label with
  | exec t ok =>
    obtain ⟨thread, next, thread', hthread, hcase, rfl⟩ := step_exec hstep
    cases hcase with
    | orphan closing gone => exact .inl rfl
    | closing closing known =>
      exact .inl
        (closeStep_frame w _ _ ok _ World.served fun _ _ _ _ => rfl)
    | @act act rest closing todo =>
      rcases exec_served w act ok with hsame | ⟨c, rfl, hnew⟩
      · exact .inl hsame
      · exact .inr ⟨c, hnew,
          .inr (.inr ⟨t, nextAct_running hthread closing todo⟩)⟩
  | poll node auth hookFirst admits =>
    simp only [step] at hstep
    split at hstep
    · cases hstep
      exact .inl rfl
    · next c hregistered =>
      split at hstep
      · cases hstep
      · split at hstep <;> cases hstep
        · exact .inr ⟨c, rfl, .inl ⟨node, auth, hregistered⟩⟩
        · exact .inl rfl
  | lpSend node auth =>
    simp only [step] at hstep
    split at hstep
    · cases hstep
      exact .inl rfl
    · next c hregistered =>
      split at hstep
      · cases hstep
      · split at hstep <;> cases hstep
        · exact .inr ⟨c, rfl, .inl ⟨node, auth, hregistered⟩⟩
        · exact .inl rfl
  | frame c =>
    simp only [step] at hstep
    split at hstep
    · cases hstep
    · next conn hconn =>
      split at hstep
      · next hopen =>
        cases hstep
        exact .inr ⟨c, rfl, .inr (.inl ⟨conn, hconn, hopen⟩)⟩
      · cases hstep
  | _ =>
    refine .inl ?_
    simp only [step] at hstep
    (repeat' split at hstep) <;>
      first
      | cases hstep <;> rfl
      | obtain ⟨hub, -, rfl⟩ := Option.map_eq_some_iff.mp hstep
        rfl

end Steps

section Known

variable {w w' : World} {label : Label} {c : ConnID}

/-- Every connection that a thread works for, or that messages were read for,
has been opened. -/
structure Known (w : World) : Prop where
  works : ∀ s c, w.WorksFor s c → ∃ conn, w.conn c = some conn
  consumed : ∀ read ∈ w.consumed, ∃ conn, w.conn read.1 = some conn

theorem known_start (cutoff ttl : Int) : Known (start cutoff ttl) where
  works := by
    rintro s c ⟨thread, hthread, -⟩
    cases hthread
  consumed := by
    intro read hread
    cases hread

theorem known_step (hknown : Known w) (hstep : step w label = some w') :
    Known w' := by
  have hkept : ∀ d, (∃ conn, w.conn d = some conn) →
      ∃ conn, w'.conn d = some conn := by
    rintro d ⟨conn, hconn⟩
    obtain ⟨conn', hconn', -⟩ := conn_step hstep hconn
    exact ⟨conn', hconn'⟩
  constructor
  · intro s d hworks
    rcases worksFor_step hstep hworks with hold | ⟨-, hconn⟩
    · exact hkept d (hknown.works s d hold)
    · exact hconn
  · intro read hread
    rcases consumed_step hstep hread with hold | ⟨s, -, -, hnext⟩
    · exact hkept read.1 (hknown.consumed read hold)
    · exact hkept read.1
        (hknown.works s read.1 (worksFor_of_nextAct hnext rfl))

/-- No thread is about to register, read for or serve the connection. -/
def Idle (w : World) (c : ConnID) : Prop :=
  ∀ s act, w.nextAct s = some act → act.owner ≠ some c

theorem unregistered_step (hidle : Idle w c)
    (hnone : ∀ node auth, w.registered node auth ≠ some c)
    (hstep : step w label = some w') :
    ∀ node auth, w'.registered node auth ≠ some c := by
  intro node auth hregistered
  rcases registered_step hstep hregistered with hold |
    ⟨s, ok, conn, -, hnext, -⟩
  · exact hnone node auth hold
  · exact hidle s _ hnext rfl

theorem unread_step (hidle : Idle w c)
    (hnone : ∀ read ∈ w.consumed, read.1 ≠ c)
    (hstep : step w label = some w') :
    ∀ read ∈ w'.consumed, read.1 ≠ c := by
  intro read hread hsame
  rcases consumed_step hstep hread with hold | ⟨s, -, -, hnext⟩
  · exact hnone read hold hsame
  · exact hidle s _ hnext (congrArg some hsame)

end Known

section Owned

variable {w w' : World} {label : Label} {base : Conn} {t : Nat} {c : ConnID}

theorem lt_of_conn {conn : Conn} (hconn : w.conn c = some conn) :
    c < w.conns.length :=
  (List.getElem?_eq_some_iff.mp hconn).1

theorem Conn.Keeps.trans {conn conn' conn'' : Conn} (h : conn.Keeps conn')
    (h' : conn'.Keeps conn'') : conn.Keeps conn'' where
  node := h'.node.trans h.node
  auth := h'.auth.trans h.auth
  coreType := h'.coreType.trans h.coreType
  closed := fun hclosed => h'.closed (h.closed hclosed)

/-- The connection is one that only the given thread will work for. -/
structure Owned (base : Conn) (w : World) (t : Nat) (c : ConnID) : Prop where
  conn : ∃ conn, w.conn c = some conn ∧ base.Keeps conn
  others : ∀ s, w.WorksFor s c → s = t

theorem owned_step (howned : Owned base w t c)
    (hstep : step w label = some w') : Owned base w' t c := by
  obtain ⟨conn, hconn, hkeeps⟩ := howned.conn
  constructor
  · obtain ⟨conn', hconn', hkeeps'⟩ := conn_step hstep hconn
    exact ⟨conn', hconn', hkeeps.trans hkeeps'⟩
  · intro s hworks
    rcases worksFor_step hstep hworks with hold | ⟨hnew, -⟩
    · exact howned.others s hold
    · exact absurd hnew (lt_of_conn hconn).ne

/-- The other threads register the connection nowhere. -/
theorem Owned.unregistered_step (howned : Owned base w t c)
    (hother : ∀ ok, label ≠ .exec t ok)
    (hnone : ∀ node auth, w.registered node auth ≠ some c)
    (hstep : step w label = some w') :
    ∀ node auth, w'.registered node auth ≠ some c := by
  intro node auth hregistered
  rcases registered_step hstep hregistered with hold |
    ⟨s, ok, conn, hlabel, hnext, -⟩
  · exact hnone node auth hold
  · obtain rfl := howned.others s (worksFor_of_nextAct hnext rfl)
    exact hother ok hlabel

/-- The other threads read no messages for the connection. -/
theorem Owned.unread_step (howned : Owned base w t c)
    (hother : ∀ ok, label ≠ .exec t ok)
    (hnone : ∀ read ∈ w.consumed, read.1 ≠ c)
    (hstep : step w label = some w') :
    ∀ read ∈ w'.consumed, read.1 ≠ c := by
  intro read hread hsame
  rcases consumed_step hstep hread with hold | ⟨s, ok, hlabel, hnext⟩
  · exact hnone read hold hsame
  · obtain rfl := howned.others s
      (worksFor_of_nextAct hnext (congrArg some hsame))
    exact hother ok hlabel

theorem thread_step (hstep : step w label = some w') {thread : Thread}
    (hthread : w.threads[t]? = some thread) :
    (∃ ok, label = .exec t ok) ∨ w'.threads[t]? = some thread := by
  have hlt := (List.getElem?_eq_some_iff.mp hthread).1
  have hset : ∀ {s ok new}, label = .exec s ok →
      (∃ ok, label = .exec t ok) ∨
        (w.threads.set s new)[t]? = some thread := by
    rintro s ok new rfl
    by_cases hsame : s = t
    · exact .inl ⟨ok, by rw [hsame]⟩
    · exact .inr (by rw [List.getElem?_set_ne hsame, hthread])
  cases step_cases hstep with
  | quiet same threads => exact .inr (threads ▸ hthread)
  | spawned same threads swaps =>
    exact .inr (by rw [threads, List.getElem?_append_left hlt, hthread])
  | opened isOpen idle =>
    exact .inr ((List.getElem?_append_left hlt).trans hthread)
  | orphan running closing gone => exact hset rfl
  | closing running closing known => exact hset rfl
  | act running closing todo => exact hset rfl

end Owned

end Cluster

end Pipewave
