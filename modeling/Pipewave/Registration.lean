/-
What a container's registry holds while connections open and close.  A close
cleans up by identity and not by connection, so it is safe only as long as no
other connection of that identity is in the registry's slot.
-/
import Pipewave.ClusterWork

namespace Pipewave

namespace Cluster

open Transition

/-- Registries and threads refer to existing connections, a registry's slot to
one of that container and identity, and a `Close` behind its compare-and-swap
to a closed connection. -/
structure Coherent (w : World) : Prop where
  registered : ∀ {node auth c}, w.registered node auth = some c →
    ∃ conn, w.conn c = some conn ∧ conn.node = node ∧ conn.auth = auth
  closing : ∀ {thread : Thread} {c stage}, thread ∈ w.threads →
    thread.closing = some (c, stage) →
      ∃ conn, w.conn c = some conn ∧ (stage ≠ .swap → conn.closed = true)

theorem mem_set_of_ne {α : Type} {list : List α} {t : Nat}
    {old new kept : α} (hold : list[t]? = some old) (hkept : kept ∈ list)
    (hne : kept ≠ old) : kept ∈ list.set t new := by
  obtain ⟨k, hk⟩ := List.mem_iff_getElem?.mp hkept
  refine List.mem_iff_getElem?.mpr ⟨k, ?_⟩
  rw [List.getElem?_set_ne, hk]
  rintro rfl
  rw [hold] at hk
  exact hne (Option.some.inj hk).symm

theorem mem_set_new {α : Type} {list : List α} {t : Nat} {old new : α}
    (hold : list[t]? = some old) : new ∈ list.set t new := by
  obtain ⟨hlt, -⟩ := List.getElem?_eq_some_iff.mp hold
  exact List.mem_set hlt new

variable {w : World}

theorem closeStep_next {c : ConnID} {conn : Conn} {ok : Bool}
    {stage next : CloseStage}
    (hnext : (closeStep w c conn ok stage).2 = some next) :
    next ≠ .swap ∧ (stage = .swap →
      conn.closed = false ∧ next = .removeConnection) := by
  cases stage <;> simp only [closeStep] at hnext
  case swap =>
    split at hnext
    · cases hnext
    · next hopen =>
      cases hnext
      exact ⟨CloseStage.noConfusion,
        fun _ => ⟨Bool.not_eq_true _ ▸ hopen, rfl⟩⟩
  case removeConnection =>
    cases hnext
    exact ⟨CloseStage.noConfusion, CloseStage.noConfusion⟩
  case persist =>
    split at hnext
    · cases hnext
      exact ⟨CloseStage.noConfusion, CloseStage.noConfusion⟩
    · split at hnext <;> cases hnext
      exact ⟨CloseStage.noConfusion, CloseStage.noConfusion⟩
  case updateStatus =>
    split at hnext <;> cases hnext <;>
      exact ⟨CloseStage.noConfusion, CloseStage.noConfusion⟩
  case removeRow => split at hnext <;> cases hnext
  case register => cases hnext

theorem Coherent.registered_step {w' : World} {label : Label}
    (hcoherent : Coherent w) (hstep : step w label = some w')
    {node : ContainerID} {auth : WebsocketAuth} {c : ConnID}
    (hregistered : w'.registered node auth = some c) :
    ∃ conn, w'.conn c = some conn ∧ conn.node = node ∧ conn.auth = auth := by
  obtain ⟨conn, hconn, hnode, hauth⟩ : ∃ conn, w.conn c = some conn ∧
      conn.node = node ∧ conn.auth = auth := by
    rcases Cluster.registered_step hstep hregistered with hold |
      ⟨s, ok, conn, -, -, hadded⟩
    · exact hcoherent.registered hold
    · exact ⟨conn, hadded⟩
  obtain ⟨conn', hconn', hkeeps⟩ := conn_step hstep hconn
  exact ⟨conn', hconn', hkeeps.node.trans hnode, hkeeps.auth.trans hauth⟩

theorem coherent_step {w' : World} {label : Label} (hcoherent : Coherent w)
    (hstep : step w label = some w') : Coherent w' := by
  have hcalls : ∀ {thread : Thread} {c stage}, thread ∈ w.threads →
      thread.closing = some (c, stage) →
        ∃ conn, w'.conn c = some conn ∧
          (stage ≠ .swap → conn.closed = true) := by
    intro thread c stage hmem hclosing
    obtain ⟨conn, hconn, hclosed⟩ := hcoherent.closing hmem hclosing
    obtain ⟨conn', hconn', hkeeps⟩ := conn_step hstep hconn
    exact ⟨conn', hconn', fun hne => hkeeps.closed (hclosed hne)⟩
  refine ⟨hcoherent.registered_step hstep, ?_⟩
  intro thread' d stage' hmem hclosing
  cases step_cases hstep with
  | quiet same threads =>
    rw [threads] at hmem
    exact hcalls hmem hclosing
  | spawned same threads swaps =>
    rw [threads, List.mem_append, List.mem_singleton] at hmem
    rcases hmem with hold | rfl
    · exact hcalls hold hclosing
    · obtain ⟨hswap, conn, hconn⟩ := swaps hclosing
      obtain ⟨conn', hconn', -⟩ := conn_step hstep hconn
      exact ⟨conn', hconn', fun hne => absurd hswap hne⟩
  | opened isOpen idle =>
    rcases List.mem_append.mp hmem with hold | hnew
    · exact hcalls hold hclosing
    · rw [List.mem_singleton.mp hnew, idle] at hclosing
      cases hclosing
  | orphan running closing gone =>
    rcases List.mem_or_eq_of_mem_set hmem with hold | rfl
    · exact hcalls hold hclosing
    · cases hclosing
  | @closing t ok thread c conn stage running closing known =>
    rcases List.mem_or_eq_of_mem_set hmem with hold | rfl
    · exact hcalls hold hclosing
    · obtain ⟨next, hnext, hpair⟩ := Option.map_eq_some_iff.mp hclosing
      cases hpair
      have hafter := @conn_closeStep w d d conn ok stage known
      obtain ⟨-, hswap⟩ := closeStep_next hnext
      by_cases hstage : stage = .swap
      · rw [if_pos ⟨hstage, (hswap hstage).1, rfl⟩] at hafter
        exact ⟨_, hafter, fun _ => rfl⟩
      · obtain ⟨conn', hconn', hclosed⟩ :=
          hcalls (List.mem_of_getElem? running) closing
        exact ⟨conn', hconn', fun _ => hclosed hstage⟩
  | act running closing todo =>
    rcases List.mem_or_eq_of_mem_set hmem with hold | rfl
    · exact hcalls hold hclosing
    · obtain ⟨rfl, hfound⟩ := exec_closing (afterAct_closing hclosing)
      obtain ⟨conn, hconn⟩ : ∃ conn, w.conn d = some conn := by
        rcases hfound with ⟨-, hconn⟩ | ⟨node, auth, hregistered⟩
        · exact hconn
        · obtain ⟨conn, hconn, -⟩ := hcoherent.registered hregistered
          exact ⟨conn, hconn⟩
      obtain ⟨conn', hconn', -⟩ := conn_step hstep hconn
      exact ⟨conn', hconn', fun hne => absurd rfl hne⟩

theorem coherent_start (cutoff ttl : Int) : Coherent (start cutoff ttl) where
  registered := by
    intro node auth c hregistered
    rw [registered_start] at hregistered
    cases hregistered
  closing := by
    intro thread c stage hmem
    simp [start] at hmem

section Stale

/-- The removal from the registry is the next step of a `Close`. -/
def Removing (w : World) (c : ConnID) : Prop :=
  ∃ thread ∈ w.threads, thread.closing = some (c, .removeConnection)

instance (w : World) (c : ConnID) : Decidable (Removing w c) :=
  inferInstanceAs (Decidable (∃ thread ∈ w.threads, _))

/-- A registered connection that no `Close` is working on is open. -/
def NoClosedRegistered (w : World) : Prop :=
  ∀ node auth c conn, w.registered node auth = some c →
    w.conn c = some conn →
    (∀ thread ∈ w.threads, thread.closing.map Prod.fst ≠ some c) →
    conn.closed = false

/-- A connection is registered only while it is open or its own removal is
still to come. -/
def AddInTime (w : World) : Act → Prop
  | .addConnection c => ∀ conn ∈ w.conn c, conn.closed = true → Removing w c
  | _ => True

/-- A condition on what an act registers. -/
def decidableOnAdd {p : ConnID → Prop} [DecidablePred p] :
    ∀ act : Act, Decidable (match act with
      | .addConnection c => p c
      | _ => True)
  | .addConnection c => inferInstanceAs (Decidable (p c))
  | .closeDuplicate _ | .readRow _ | .disconnectSession .. => .isTrue trivial
  | .disconnectLocal .. | .disconnectRemote _ | .publish _ => .isTrue trivial
  | .resumeSession .. | .deregister .. | .addRow _ => .isTrue trivial
  | .getAll _ | .deleteUpTo .. | .sendDirect .. => .isTrue trivial
  | .hook _ | .serve _ | .close _ => .isTrue trivial
  | .expireRow _ | .expireMessages _ => .isTrue trivial

instance (w : World) (act : Act) : Decidable (AddInTime w act) :=
  decidableOnAdd act

def AddsInTime (w : World) (label : Label) : Prop :=
  ∀ thread ∈ running w label, ∀ act ∈ thread.nextAct, AddInTime w act

instance (w : World) (label : Label) : Decidable (AddsInTime w label) :=
  inferInstanceAs (Decidable (∀ thread ∈ running w label, _))

/-- What is registered and closed is about to be removed. -/
def ClosedRemoved (w : World) : Prop :=
  ∀ node auth c conn, w.registered node auth = some c →
    w.conn c = some conn → conn.closed = true → Removing w c

variable {w w' : World} {c : ConnID} {label : Label}

theorem Removing.of_set {t : Nat} {old new : Thread} (hremoving : Removing w c)
    (hold : w.threads[t]? = some old)
    (hne : old.closing ≠ some (c, .removeConnection)) :
    ∃ thread ∈ w.threads.set t new,
      thread.closing = some (c, .removeConnection) := by
  obtain ⟨thread, hmem, hclosing⟩ := hremoving
  refine ⟨thread, mem_set_of_ne hold hmem ?_, hclosing⟩
  rintro rfl
  exact hne hclosing

theorem Removing.step {node : ContainerID} {auth : WebsocketAuth}
    (hremoving : Removing w c) (hcoherent : Coherent w)
    (hstep : step w label = some w')
    (hregistered : w'.registered node auth = some c) : Removing w' c := by
  cases step_cases hstep with
  | quiet same threads =>
    obtain ⟨thread, hmem, hclosing⟩ := hremoving
    exact ⟨thread, threads ▸ hmem, hclosing⟩
  | spawned same threads swaps =>
    obtain ⟨thread, hmem, hclosing⟩ := hremoving
    exact ⟨thread, threads ▸ List.mem_append_left _ hmem, hclosing⟩
  | opened isOpen idle =>
    obtain ⟨thread, hmem, hclosing⟩ := hremoving
    exact ⟨thread, List.mem_append_left _ hmem, hclosing⟩
  | orphan running closing gone =>
    refine hremoving.of_set running ?_
    intro hsame
    obtain ⟨conn, hconn, -⟩ :=
      hcoherent.closing (List.mem_of_getElem? running) hsame
    rw [closing] at hsame
    cases hsame
    rw [gone] at hconn
    cases hconn
  | @closing t ok thread d conn stage running closing known =>
    refine hremoving.of_set running ?_
    -- the removal itself would have emptied the slot
    intro hsame
    rw [closing] at hsame
    cases hsame
    obtain ⟨conn', hconn', hnode, hauth⟩ :=
      hcoherent.registered_step hstep hregistered
    obtain ⟨kept, hkept, hkeeps⟩ := conn_step hstep known
    rw [hconn'] at hkept
    cases hkept
    have hslot : (closeStep w c conn ok .removeConnection).1.registered
        node auth = some c := hregistered
    rw [closeStep_registered, if_pos ⟨rfl, hnode.symm.trans hkeeps.node,
      hauth.symm.trans hkeeps.auth⟩] at hslot
    cases hslot
  | act running closing todo =>
    refine hremoving.of_set running ?_
    rw [closing]
    exact (Option.some_ne_none _).symm

/-- A connection that a step closes is about to be removed. -/
theorem removing_of_closed {conn conn' : Conn} (hstep : step w label = some w')
    (hconn : w.conn c = some conn) (hopen : conn.closed = false)
    (hconn' : w'.conn c = some conn') (hclosed : conn'.closed = true) :
    Removing w' c := by
  have hchanged : w'.conn c ≠ w.conn c := by
    intro hsame
    rw [hconn', hconn] at hsame
    cases hsame
    rw [hopen] at hclosed
    cases hclosed
  cases step_cases hstep with
  | quiet same threads =>
    exact absurd (congrArg (·[c]?) same.conns) hchanged
  | spawned same threads swaps =>
    exact absurd (congrArg (·[c]?) same.conns) hchanged
  | opened isOpen idle =>
    exact absurd ((conn_openConn hconn).trans hconn.symm) hchanged
  | orphan running closing gone => exact absurd rfl hchanged
  | @closing t ok thread d found stage running closing known =>
    have hafter := @conn_closeStep w d c found ok stage known
    by_cases hswap : stage = .swap ∧ found.closed = false ∧ c = d
    · obtain ⟨rfl, hisopen, rfl⟩ := hswap
      refine ⟨_, mem_set_new running, ?_⟩
      simp [closeStep, hisopen]
    · rw [if_neg hswap] at hafter
      exact absurd hafter hchanged
  | act running closing todo =>
    exact absurd (congrArg (·[c]?) (exec_conns w _ _)) hchanged

theorem closedRemoved_step (hcoherent : Coherent w) (hinv : ClosedRemoved w)
    (hguard : AddsInTime w label) (hstep : step w label = some w') :
    ClosedRemoved w' := by
  intro node auth c conn' hregistered hconn' hclosed
  obtain ⟨conn, hconn, hremoving⟩ : ∃ conn, w.conn c = some conn ∧
      (conn.closed = true → Removing w c) := by
    rcases registered_step hstep hregistered with hold |
      ⟨s, ok, conn, rfl, hnext, hconn, -⟩
    · obtain ⟨conn, hconn, -⟩ := hcoherent.registered hold
      exact ⟨conn, hconn, hinv node auth c conn hold hconn⟩
    · obtain ⟨thread, hthread, hact⟩ := Option.bind_eq_some_iff.mp hnext
      exact ⟨conn, hconn, hguard thread hthread _ hact conn hconn⟩
  cases hbefore : conn.closed with
  | true => exact (hremoving hbefore).step hcoherent hstep hregistered
  | false => exact removing_of_closed hstep hconn hbefore hconn' hclosed

/-- In every run that registers connections in time, a registered connection
no `Close` is working on is open. -/
theorem noClosedRegistered_of_addsInTime {cutoff ttl : Int} {w : World}
    (hreach : Reach step AddsInTime (start cutoff ttl) w) :
    NoClosedRegistered w := by
  have hstart : Coherent (start cutoff ttl) ∧
      ClosedRemoved (start cutoff ttl) := by
    refine ⟨coherent_start cutoff ttl, ?_⟩
    intro node auth c conn hregistered
    obtain ⟨conn', hconn', -⟩ :=
      (coherent_start cutoff ttl).registered hregistered
    simp [World.conn, start] at hconn'
  have hinv := Reach.invariant (fun w => Coherent w ∧ ClosedRemoved w) hstart
    (fun _ _ _ hinv hguard hstep => ⟨coherent_step hinv.1 hstep,
      closedRemoved_step hinv.1 hinv.2 hguard hstep⟩) hreach
  intro node auth c conn hregistered hconn hnone
  by_contra hclosed
  obtain ⟨thread, hmem, hclosing⟩ := hinv.2 node auth c conn hregistered
    hconn (Bool.not_eq_false _ ▸ hclosed)
  exact hnone thread hmem (by rw [hclosing]; rfl)

/-- A connection is accepted, registered and later closed by its peer. -/
def hangUpRun : List Label :=
  [.accept 0 alice true true, .exec 0 true, .exec 0 true, .exec 0 true,
    .exec 0 true, .exec 0 true, .exec 0 true, .close 0, .exec 1 true,
    .exec 1 true, .exec 1 true, .exec 1 true, .exec 1 true]

theorem noClosedRegistered_hangUpRun :
    let w := final step (start 60 120) hangUpRun
    (w.conn 0).map Conn.closed = some true ∧ w.registered 0 alice = none ∧
      NoClosedRegistered w :=
  ⟨by decide +kernel, by decide +kernel, noClosedRegistered_of_addsInTime
    (reach_final (by decide +kernel) (by decide +kernel))⟩

/-- The peer hangs up between the upsert and the registration of a new
connection. -/
def earlyHangUpRun : List Label :=
  [.accept 0 alice true true, .exec 0 true, .exec 0 true, .exec 0 true,
    .exec 0 true, .close 0, .exec 1 true, .exec 1 true, .exec 1 true,
    .exec 1 true, .exec 1 true, .exec 0 true, .exec 0 true]

/-- The closed connection is registered with nothing left in progress. -/
theorem closed_stays_registered :
    ∃ w, Reach step Unguarded (start 60 120) w ∧
      (∀ thread ∈ w.threads, thread.closing = none ∧ thread.todo = []) ∧
      ¬ NoClosedRegistered w := by
  refine ⟨final step (start 60 120) earlyHangUpRun,
    reach_final (by decide +kernel) (by decide +kernel),
    by decide +kernel, ?_⟩
  intro hopen
  have hregistered : (final step (start 60 120)
      earlyHangUpRun).registered 0 alice = some 0 := by decide +kernel
  have hconn : (final step (start 60 120) earlyHangUpRun).conn 0 =
      some ⟨0, alice, .gobwas, true⟩ := by decide +kernel
  exact absurd (hopen 0 alice 0 _ hregistered hconn (by decide +kernel))
    (by decide)

end Stale

section Others

/-- The stages at which a `Close` may still touch its identity's slot or
row. -/
def CloseStage.harmful : CloseStage → Bool
  | .removeConnection | .persist | .updateStatus | .removeRow => true
  | .swap | .register => false

/-- Another connection of the identity is in the middle of its `Close`. -/
def Racing (w : World) (node : ContainerID) (auth : WebsocketAuth)
    (c : ConnID) : Prop :=
  ∃ thread ∈ w.threads, ∃ call ∈ thread.closing, call.2.harmful = true ∧
    call.1 ≠ c ∧ ∃ conn ∈ w.conn call.1, conn.node = node ∧ conn.auth = auth

instance (w : World) (node : ContainerID) (auth : WebsocketAuth)
    (c : ConnID) : Decidable (Racing w node auth c) :=
  inferInstanceAs (Decidable (∃ thread ∈ w.threads, _))

/-- No other open connection is in the slot of a connection. -/
def SlotFree (w : World) (c : ConnID) : Prop :=
  ∀ conn ∈ w.conn c, conn.closed = false →
    ∀ d ∈ w.registered conn.node conn.auth, d ≠ c →
      ∀ other ∈ w.conn d, other.closed = true

instance (w : World) (c : ConnID) : Decidable (SlotFree w c) :=
  inferInstanceAs (Decidable (∀ conn ∈ w.conn c, _))

def AddAlone (w : World) : Act → Prop
  | .addConnection c =>
    ∀ conn ∈ w.conn c, ¬ Racing w conn.node conn.auth c
  | _ => True

instance (w : World) (act : Act) : Decidable (AddAlone w act) :=
  decidableOnAdd act

/-- A connection is closed only while no other open connection is in its slot,
and registered only while no other one of its identity is being closed. -/
def Alone (w : World) (label : Label) : Prop :=
  ∀ thread ∈ running w label,
    (∀ call ∈ thread.closing, call.2 = .swap → SlotFree w call.1) ∧
      ∀ act ∈ thread.nextAct, AddAlone w act

instance (w : World) (label : Label) : Decidable (Alone w label) :=
  inferInstanceAs (Decidable (∀ thread ∈ running w label, _))

/-- No step of a `Close` takes another open connection of the same container
and identity out of the registry or touches its session's row. -/
def SparesOthers (w : World) : Prop :=
  ∀ t ok w' thread c₁ c₂ stage conn₁ conn₂, w.threads[t]? = some thread →
    thread.closing = some (c₁, stage) → step w (.exec t ok) = some w' →
    w.conn c₁ = some conn₁ → w.conn c₂ = some conn₂ → c₁ ≠ c₂ →
    conn₁.node = conn₂.node → conn₁.auth = conn₂.auth →
    w.registered conn₂.node conn₂.auth = some c₂ → conn₂.closed = false →
    w'.registered conn₂.node conn₂.auth = some c₂ ∧
      w'.row conn₂.auth = w.row conn₂.auth

/-- An open registered connection has its identity to itself. -/
def Unraced (w : World) : Prop :=
  ∀ node auth c conn, w.registered node auth = some c →
    w.conn c = some conn → conn.closed = false → ¬ Racing w node auth c

variable {w w' : World} {stage : CloseStage} {label : Label}

theorem closeStep_harmful {c : ConnID} {conn : Conn} {ok : Bool}
    {next : CloseStage} (hnext : (closeStep w c conn ok stage).2 = some next) :
    stage = .swap ∨ stage.harmful = true := by
  cases stage
  case swap => exact .inl rfl
  case register => simp [closeStep] at hnext
  all_goals exact .inr rfl

/-- A `Close` gets harmful by the swap that closes its connection. -/
theorem harmful_step {thread' : Thread} {d : ConnID}
    (hstep : step w label = some w') (hmem : thread' ∈ w'.threads)
    (hclosing : thread'.closing = some (d, stage))
    (hharm : stage.harmful = true) :
    (∃ thread ∈ w.threads, ∃ before, thread.closing = some (d, before) ∧
      before.harmful = true) ∨
    ∃ t ok thread conn, label = .exec t ok ∧ w.threads[t]? = some thread ∧
      thread.closing = some (d, .swap) ∧ w.conn d = some conn ∧
      conn.closed = false := by
  have hkept : thread' ∈ w.threads → ∃ thread ∈ w.threads, ∃ before,
      thread.closing = some (d, before) ∧ before.harmful = true :=
    fun hold => ⟨thread', hold, stage, hclosing, hharm⟩
  cases step_cases hstep with
  | quiet same threads => exact .inl (hkept (threads ▸ hmem))
  | spawned same threads swaps =>
    rw [threads, List.mem_append, List.mem_singleton] at hmem
    rcases hmem with hold | rfl
    · exact .inl (hkept hold)
    · rw [(swaps hclosing).1] at hharm
      cases hharm
  | opened isOpen idle =>
    rcases List.mem_append.mp hmem with hold | hnew
    · exact .inl (hkept hold)
    · rw [List.mem_singleton.mp hnew, idle] at hclosing
      cases hclosing
  | orphan running closing gone =>
    rcases List.mem_or_eq_of_mem_set hmem with hold | rfl
    · exact .inl (hkept hold)
    · cases hclosing
  | @closing t ok thread e conn before running closing known =>
    rcases List.mem_or_eq_of_mem_set hmem with hold | rfl
    · exact .inl (hkept hold)
    · obtain ⟨next, hnext, hpair⟩ := Option.map_eq_some_iff.mp hclosing
      cases hpair
      rcases closeStep_harmful hnext with rfl | hharmful
      · exact .inr ⟨t, ok, thread, conn, rfl, running, closing, known,
          ((closeStep_next hnext).2 rfl).1⟩
      · exact .inl ⟨thread, List.mem_of_getElem? running, before, closing,
          hharmful⟩
  | act running closing todo =>
    rcases List.mem_or_eq_of_mem_set hmem with hold | rfl
    · exact .inl (hkept hold)
    · rw [(exec_closing (afterAct_closing hclosing)).1] at hharm
      cases hharm

/-- A race is one from before the step, or begins with the swap of another
connection in the same slot. -/
theorem racing_step {node : ContainerID} {auth : WebsocketAuth} {c : ConnID}
    (hcoherent : Coherent w) (hstep : step w label = some w')
    (hracing : Racing w' node auth c) :
    Racing w node auth c ∨
      ∃ t ok thread d conn, label = .exec t ok ∧
        w.threads[t]? = some thread ∧ thread.closing = some (d, .swap) ∧
        w.conn d = some conn ∧ conn.closed = false ∧ d ≠ c ∧
        conn.node = node ∧ conn.auth = auth := by
  obtain ⟨thread', hmem, ⟨d, stage⟩, hclosing, hharm, hne, conn', hconn',
    hnode, hauth⟩ := hracing
  have hslot : ∀ {conn}, w.conn d = some conn →
      conn.node = node ∧ conn.auth = auth := by
    intro conn hconn
    obtain ⟨kept, hkept, hkeeps⟩ := conn_step hstep hconn
    obtain rfl : kept = conn' := Option.some.inj (hkept.symm.trans hconn')
    exact ⟨hkeeps.node.symm.trans hnode, hkeeps.auth.symm.trans hauth⟩
  rcases harmful_step hstep hmem hclosing hharm with
    ⟨thread, hthread, before, hbefore, hharmful⟩ |
    ⟨t, ok, thread, conn, hlabel, hthread, hswap, hconn, hopen⟩
  · obtain ⟨conn, hconn, -⟩ := hcoherent.closing hthread hbefore
    exact .inl ⟨thread, hthread, (d, before), hbefore, hharmful, hne, conn,
      hconn, hslot hconn⟩
  · exact .inr ⟨t, ok, thread, d, conn, hlabel, hthread, hswap, hconn, hopen,
      hne, hslot hconn⟩

theorem unraced_step (hcoherent : Coherent w) (hinv : Unraced w)
    (hguard : Alone w label) (hstep : step w label = some w') :
    Unraced w' := by
  intro node auth c conn' hregistered hconn' hopen hracing
  have hwasOpen : ∀ conn, w.conn c = some conn → conn.closed = false := by
    intro conn hconn
    obtain ⟨kept, hkept, hkeeps⟩ := conn_step hstep hconn
    obtain rfl : kept = conn' := Option.some.inj (hkept.symm.trans hconn')
    by_contra hclosed
    rw [hkeeps.closed (Bool.not_eq_false _ ▸ hclosed)] at hopen
    cases hopen
  rcases registered_step hstep hregistered with hslot |
    ⟨s, ok, conn, rfl, hnext, hconn, rfl, rfl⟩
  · obtain ⟨conn, hconn, -⟩ := hcoherent.registered hslot
    rcases racing_step hcoherent hstep hracing with hbefore |
      ⟨t, ok, thread, d, other, rfl, hthread, hswap, hother, hisopen, hne,
        rfl, rfl⟩
    · exact hinv node auth c conn hslot hconn (hwasOpen conn hconn) hbefore
    · -- the swap found the slot taken by an open connection
      have hclosed := (hguard thread hthread).1 (d, .swap) hswap rfl other
        hother hisopen c hslot (Ne.symm hne) conn hconn
      rw [hwasOpen conn hconn] at hclosed
      cases hclosed
  · obtain ⟨thread, hthread, hact⟩ := Option.bind_eq_some_iff.mp hnext
    rcases racing_step hcoherent hstep hracing with hbefore |
      ⟨t, ok', thread', d, other, hlabel, hthread', hswap, -⟩
    · exact (hguard thread hthread).2 _ hact conn hconn hbefore
    · cases hlabel
      rw [hthread] at hthread'
      cases hthread'
      simp [Thread.nextAct, hswap] at hact

theorem sparesOthers_of_unraced (hunraced : Unraced w) :
    SparesOthers w := by
  intro t ok w' thread c₁ c₂ stage conn₁ conn₂ hrunning hclosing hstep hconn₁
    hconn₂ hne hnode hauth hregistered hopen
  have hharmless : stage.harmful = false := by
    by_contra hharm
    exact hunraced _ _ c₂ conn₂ hregistered hconn₂ hopen
      ⟨thread, List.mem_of_getElem? hrunning, (c₁, stage), hclosing,
        Bool.not_eq_false _ ▸ hharm, hne, conn₁, hconn₁, hnode, hauth⟩
  have hstages : stage ≠ .removeConnection ∧ stage ≠ .updateStatus ∧
      stage ≠ .removeRow := by
    refine ⟨?_, ?_, ?_⟩ <;>
      · rintro rfl
        cases hharmless
  simp only [step, hrunning, stepThread, hclosing, hconn₁, Option.map_some,
    Option.some.injEq] at hstep
  subst hstep
  constructor
  · refine (closeStep_registered w c₁ conn₁ ok stage _ _).trans ?_
    rw [if_neg fun h => hstages.1 h.1, hregistered]
  · refine (closeStep_row w c₁ conn₁ ok stage _).trans ?_
    rw [if_neg fun h => hstages.2.1 h.2.2, if_neg fun h => hstages.2.2 h.2.2]

/-- In every run in which connections are closed and registered alone, no
`Close` touches another connection of its identity. -/
theorem sparesOthers_of_alone {cutoff ttl : Int} {w : World}
    (hreach : Reach step Alone (start cutoff ttl) w) :
    SparesOthers w := by
  have hstart : Coherent (start cutoff ttl) ∧ Unraced (start cutoff ttl) := by
    refine ⟨coherent_start cutoff ttl, ?_⟩
    rintro node auth c conn hregistered hconn hopen ⟨thread, hmem, -⟩
    simp [start] at hmem
  have hinv := Reach.invariant (fun w => Coherent w ∧ Unraced w) hstart
    (fun _ _ _ hinv hguard hstep => ⟨coherent_step hinv.1 hstep,
      unraced_step hinv.1 hinv.2 hguard hstep⟩) hreach
  exact sparesOthers_of_unraced hinv.2

/-- A second connection of a session closes the first as a duplicate and takes
its place. -/
def replaceRun : List Label :=
  .accept 0 alice true true :: List.replicate 6 (.exec 0 true) ++
    .accept 0 alice true true :: List.replicate 13 (.exec 1 true)

theorem sparesOthers_replaceRun :
    let w := final step (start 60 120) replaceRun
    w.registered 0 alice = some 1 ∧
      (w.conn 0).map Conn.closed = some true ∧ SparesOthers w :=
  ⟨by decide +kernel, by decide +kernel, sparesOthers_of_alone
    (reach_final (by decide +kernel) (by decide +kernel))⟩

/-- A second connection of a session is rejected by the admission hook; its
`Close` has made its compare-and-swap. -/
def rejectedRun : List Label :=
  .accept 0 alice true true :: List.replicate 6 (.exec 0 true) ++
    .accept 0 alice true false :: List.replicate 3 (.exec 1 true)

/-- The next step of the rejected connection's `Close` takes the first, open
connection out of the registry. -/
theorem rejected_unregisters_other :
    ∃ w, Reach step Unguarded (start 60 120) w ∧ ¬ SparesOthers w := by
  refine ⟨final step (start 60 120) rejectedRun,
    reach_final (by decide +kernel) (by decide +kernel), ?_⟩
  intro hspares
  obtain ⟨w', hstep⟩ := Option.isSome_iff_exists.mp (show
    (step (final step (start 60 120) rejectedRun)
      (.exec 1 true)).isSome = true by decide +kernel)
  have hgone : (step (final step (start 60 120) rejectedRun)
      (.exec 1 true)).bind (·.registered 0 alice) = none := by decide +kernel
  rw [hstep, Option.bind_some] at hgone
  have hkept := (hspares 1 true w'
    ⟨some (1, .removeConnection), [], [], false⟩ 1 0 .removeConnection
    ⟨0, alice, .gobwas, true⟩ ⟨0, alice, .gobwas, false⟩
    (by decide +kernel) rfl hstep (by decide +kernel) (by decide +kernel)
    (by decide) rfl rfl (by decide +kernel) rfl).1
  rw [hgone] at hkept
  cases hkept

end Others

end Cluster

end Pipewave
