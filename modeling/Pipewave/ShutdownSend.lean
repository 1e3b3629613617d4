/-
One `SendToSession` while a container shuts down.  The payload goes from the
sender's lookup over the bus and a handler to a connection or to the table of
pending messages; the subscription of the container ends before its shutdown
begins, and everything else goes on in between.
-/
import Pipewave.SendOrSave
import Pipewave.Shutdown

namespace Pipewave

namespace ShutdownSend

open Transition
open Cluster (World)

/-- A call of `SendToSession`, with the payload as it is wrapped. -/
structure Call where
  sender : ContainerID
  auth : WebsocketAuth
  payload : Bytes

/-- Where the payload is. -/
inductive Stage where
  | ready
  | panicked
  | reading
  | publishing (holder : ContainerID)
  | handling (target : ContainerID)
  | sending (c : ConnID)
  /-- `Send` failed and closes its connection in the given thread. -/
  | closing (t : Nat)
  /-- The task of `saveMessageHub` is handed to the pool when it is due. -/
  | waiting (retryNumber : Nat) (due : Int)
  | queued (retryNumber : Nat)
  | saving
  | written (c : ConnID)
  | saved
  | dropped
deriving Repr, DecidableEq

structure State where
  shutdown : Shutdown.State
  subscribed : Bool := true
  stage : Stage := .ready

def State.world (s : State) : World := s.shutdown.world

def State.setWorld (s : State) (w : World) : State :=
  { s with shutdown := { s.shutdown with world := w } }

inductive Label where
  | shutdown (label : Shutdown.Label)
  /-- The first of the cleanup tasks. -/
  | unsubscribe
  | call
  | read
  | publish
  | handle
  | send (ok : Bool)
  | sendClosed
  | submit (accepted : Bool)
  | saveMessageHub
  | save (sendAt expiresAt : Int)
deriving Repr, DecidableEq

/-- The tasks that the shutdown runs behind the end of the subscription. -/
def isCleanup : Shutdown.Label → Bool
  | .markShuttingDown | .resetHub => true
  | _ => false

/-- The row that `Save` writes. -/
def pendingRow (m : Call) (sendAt expiresAt : Int) : PendingMessage :=
  { sessionKey := sessionKey m.auth, sendAt, message := m.payload, expiresAt }

/-- The session has a pending message with this stamp. -/
def stamped (w : World) (m : Call) (sendAt : Int) : Bool :=
  w.pending.any fun old =>
    old.sessionKey = sessionKey m.auth ∧ old.sendAt = sendAt

/-- What the read of the session's row leads to. -/
def onRead : Option ActiveConnection → Stage
  | none => .dropped
  | some row => match row.holderID with
    | none => .saving
    | some holder => .publishing holder

/-- The handler of a container. -/
def onHandle (w : World) (auth : WebsocketAuth) (target : ContainerID) :
    Stage :=
  match w.registered target auth with
  | some c => .sending c
  | none =>
    if (w.nodes target).hub.isRegistered auth.userID auth.instanceID then
      .saving
    else .dropped

/-- The delay is in milliseconds, the clock in nanoseconds. -/
def onDecision (retryNumber : Nat) (now : Int) : SendOrSave.Decision → Stage
  | .drop => .dropped
  | .retry delay => .waiting (retryNumber + 1) (now + delay * 10 ^ 6)
  | .save => .saving

/-- The steps of a send and of the shutdown of container `node`.  Every other
container stays subscribed. -/
def step (node : ContainerID) (m : Call) (s : State) : Label → Option State
  | .shutdown label =>
    if s.subscribed = true ∧ isCleanup label = true then none
    else (Shutdown.step node s.shutdown label).map fun shutdown =>
      { s with shutdown }
  | .unsubscribe =>
    if s.subscribed then some { s with subscribed := false } else none
  | .call =>
    if s.stage = .ready then
      match userWebsocketAuth m.auth.userID m.auth.instanceID with
      | none => some { s with stage := .panicked }
      | some auth =>
        if (s.world.registered m.sender auth).isSome then
          some { s with stage := .handling m.sender }
        else some { s with stage := .reading }
    else none
  | .read =>
    if s.stage = .reading then
      some { s with stage := onRead (s.world.visibleRow m.auth) }
    else none
  | .publish =>
    match s.stage with
    | .publishing holder =>
      if holder = node ∧ s.subscribed = false then
        some { s with stage := .dropped }
      else some { s with stage := .handling holder }
    | _ => none
  | .handle =>
    match s.stage with
    | .handling target =>
      some { s with stage := onHandle s.world m.auth target }
    | _ => none
  | .send ok =>
    match s.stage with
    | .sending c =>
      if ok then some { s with stage := .written c }
      else match s.world.conn c with
        | none => none
        | some conn => match conn.coreType with
          | .gobwas =>
            some { s.setWorld (s.world.spawn
              { closing := some (c, .swap) }) with
                stage := .closing s.world.threads.length }
          | .longPolling =>
            some { s with stage := .waiting 0 s.world.now }
    | _ => none
  | .sendClosed =>
    match s.stage with
    | .closing t =>
      if s.shutdown.finished t then
        some { s with stage := .waiting 0 s.world.now }
      else none
    | _ => none
  | .submit accepted =>
    match s.stage with
    | .waiting retryNumber due =>
      if due ≤ s.world.now then
        some { s with
          stage := if accepted then .queued retryNumber else .dropped }
      else none
    | _ => none
  | .saveMessageHub =>
    match s.stage with
    | .queued retryNumber =>
      let decision := SendOrSave.saveMessageHub retryNumber
        (s.world.visibleRow m.auth)
      some { s with stage := onDecision retryNumber s.world.now decision }
    | _ => none
  | .save sendAt expiresAt =>
    if s.stage = .saving then
      some { s.setWorld { s.world with
          pending := s.world.pending.create
            (pendingRow m sendAt expiresAt) } with
        stage := if stamped s.world m sendAt then .dropped else .saved }
    else none

def start (cutoff ttl : Int) : State :=
  { shutdown := Shutdown.start cutoff ttl }

/-- The send is over, without a panic. -/
def Stage.finished : Stage → Bool
  | .written _ | .saved | .dropped => true
  | _ => false

/-- The payload was written to a connection of the session or saved. -/
def Stage.delivered : Stage → Bool
  | .written _ | .saved => true
  | _ => false

/-! ### Conditions on a run -/

/-- Store operations succeed. -/
def StoreSucceeds (s : State) : Label → Prop
  | .shutdown label => Shutdown.StoreSucceeds s.shutdown label
  | _ => True

instance (s : State) : ∀ label, Decidable (StoreSucceeds s label)
  | .shutdown label =>
    inferInstanceAs (Decidable (Shutdown.StoreSucceeds s.shutdown label))
  | .unsubscribe | .call | .read | .publish | .handle | .send _ | .sendClosed
  | .submit _ | .saveMessageHub | .save _ _ => .isTrue trivial

def Stage.target : Stage → Option ContainerID
  | .handling target => some target
  | _ => none

def Stage.retryNumber : Stage → Option Nat
  | .queued retryNumber => some retryNumber
  | _ => none

/-- The session is in the connection table or in the hub of a container. -/
def Knows (w : World) (auth : WebsocketAuth) (target : ContainerID) : Prop :=
  (w.registered target auth).isSome = true ∨
    (w.nodes target).hub.isRegistered auth.userID auth.instanceID = true

instance (w : World) (auth : WebsocketAuth) (target : ContainerID) :
    Decidable (Knows w auth target) :=
  inferInstanceAs (Decidable (_ ∨ _))

/-- Each read finds the session's row, the container is subscribed when it is
addressed and knows the session when it handles the message, the pool takes
the tasks of a failed send, which gets to its save in time, and the save has a
stamp of its own. -/
def Careful (node : ContainerID) (m : Call) (s : State) : Label → Prop
  | .read => (s.world.visibleRow m.auth).isSome = true
  | .publish => s.stage = .publishing node → s.subscribed = true
  | .handle => ∀ target ∈ s.stage.target, Knows s.world m.auth target
  | .submit accepted => accepted = true
  | .saveMessageHub => (s.world.visibleRow m.auth).isSome = true ∧
      ∀ k ∈ s.stage.retryNumber, k < SendOrSave.maxRetryNumber
  | .save sendAt _ => stamped s.world m sendAt = false
  | _ => True

instance (node : ContainerID) (m : Call) (s : State) :
    ∀ label, Decidable (Careful node m s label)
  | .read => inferInstanceAs (Decidable (_ = _))
  | .publish => inferInstanceAs (Decidable (_ → _))
  | .handle => inferInstanceAs (Decidable (∀ target ∈ s.stage.target, _))
  | .submit _ => inferInstanceAs (Decidable (_ = _))
  | .saveMessageHub => inferInstanceAs (Decidable (_ ∧ _))
  | .save _ _ => inferInstanceAs (Decidable (_ = _))
  | .shutdown _ | .unsubscribe | .call | .send _ | .sendClosed =>
    .isTrue trivial

/-! ### What one step does to the payload -/

/-- The steps of the send itself. -/
def isOwn : Label → Bool
  | .shutdown _ | .unsubscribe => false
  | _ => true

/-- Where a step takes the payload from and to. -/
inductive Moves (node : ContainerID) (m : Call) (s : State) :
    Label → Stage → Stage → Prop where
  | aside {label : Label} {stage : Stage} (other : isOwn label = false) :
      Moves node m s label stage stage
  | panics : Moves node m s .call .ready .panicked
  | here : Moves node m s .call .ready (.handling m.sender)
  | elsewhere : Moves node m s .call .ready .reading
  | read : Moves node m s .read .reading
      (onRead (s.world.visibleRow m.auth))
  | unheard (gone : s.subscribed = false) :
      Moves node m s .publish (.publishing node) .dropped
  | published {holder : ContainerID}
      (heard : holder = node → s.subscribed = true) :
      Moves node m s .publish (.publishing holder) (.handling holder)
  | handled {target : ContainerID} :
      Moves node m s .handle (.handling target)
        (onHandle s.world m.auth target)
  | written {c : ConnID} : Moves node m s (.send true) (.sending c) (.written c)
  | closes {c : ConnID} {t : Nat} :
      Moves node m s (.send false) (.sending c) (.closing t)
  | fails {c : ConnID} :
      Moves node m s (.send false) (.sending c) (.waiting 0 s.world.now)
  | closed {t : Nat} :
      Moves node m s .sendClosed (.closing t) (.waiting 0 s.world.now)
  | submitted {retryNumber : Nat} {due : Int} {accepted : Bool} :
      Moves node m s (.submit accepted) (.waiting retryNumber due)
        (if accepted then .queued retryNumber else .dropped)
  | polled {retryNumber : Nat} :
      Moves node m s .saveMessageHub (.queued retryNumber)
        (onDecision retryNumber s.world.now (SendOrSave.saveMessageHub
          retryNumber (s.world.visibleRow m.auth)))
  | saves {sendAt expiresAt : Int} :
      Moves node m s (.save sendAt expiresAt) .saving
        (if stamped s.world m sendAt then .dropped else .saved)

variable {node : ContainerID} {m : Call} {s : State} {label : Label}
  {after : Stage}

theorem moves_of_step {s' : State} (hstep : step node m s label = some s') :
    Moves node m s label s.stage s'.stage := by
  cases label with
  | shutdown label =>
    simp only [step] at hstep
    split at hstep
    · cases hstep
    · obtain ⟨shutdown, -, rfl⟩ := Option.map_eq_some_iff.mp hstep
      exact .aside rfl
  | unsubscribe =>
    simp only [step] at hstep
    split at hstep <;> cases hstep
    exact .aside rfl
  | call =>
    simp only [step] at hstep
    split at hstep
    · next hstage =>
        rw [hstage]
        split at hstep
        · cases hstep
          exact .panics
        · split at hstep <;> cases hstep
          · exact .here
          · exact .elsewhere
    · cases hstep
  | read =>
    simp only [step] at hstep
    split at hstep <;> cases hstep
    next hstage =>
      rw [hstage]
      exact .read
  | publish =>
    simp only [step] at hstep
    split at hstep
    · next holder hstage =>
        rw [hstage]
        split at hstep <;> cases hstep
        · next hgone =>
            rw [hgone.1]
            exact .unheard hgone.2
        · next hthere =>
            refine .published fun hsame => ?_
            by_contra hsubscribed
            exact hthere ⟨hsame, Bool.eq_false_iff.mpr hsubscribed⟩
    · cases hstep
  | handle =>
    simp only [step] at hstep
    split at hstep <;> cases hstep
    next target hstage =>
      rw [hstage]
      exact .handled
  | send ok =>
    simp only [step] at hstep
    split at hstep
    · next c hstage =>
        rw [hstage]
        cases ok with
        | true =>
          cases hstep
          exact .written
        | false =>
          rw [if_neg Bool.false_ne_true] at hstep
          split at hstep
          · cases hstep
          · split at hstep <;> cases hstep
            · exact .closes
            · exact .fails
    · cases hstep
  | sendClosed =>
    simp only [step] at hstep
    split at hstep
    · next t hstage =>
        rw [hstage]
        split at hstep <;> cases hstep
        exact .closed
    · cases hstep
  | submit accepted =>
    simp only [step] at hstep
    split at hstep
    · next retryNumber due hstage =>
        rw [hstage]
        split at hstep <;> cases hstep
        exact .submitted
    · cases hstep
  | saveMessageHub =>
    simp only [step] at hstep
    split at hstep <;> cases hstep
    next retryNumber hstage =>
      rw [hstage]
      exact .polled
  | save sendAt expiresAt =>
    simp only [step] at hstep
    split at hstep <;> cases hstep
    next hstage =>
      rw [hstage]
      exact .saves

/-! ### The send comes to its end -/

/-- How many steps of its own the send has left at most. -/
def Stage.rank : Stage → Nat
  | .ready => 18
  | .reading => 17
  | .publishing _ => 16
  | .handling _ => 15
  | .sending _ => 14
  | .closing _ => 13
  | .waiting retryNumber _ =>
    2 * (SendOrSave.maxRetryNumber - retryNumber) + 2
  | .queued retryNumber => 2 * (SendOrSave.maxRetryNumber - retryNumber) + 1
  | .saving => 1
  | .panicked | .written _ | .saved | .dropped => 0

theorem rank_onRead (row : Option ActiveConnection) :
    (onRead row).rank < Stage.reading.rank := by
  cases row with
  | none => simp [onRead, Stage.rank]
  | some row =>
    cases hholder : row.holderID <;> simp [onRead, hholder, Stage.rank]

theorem rank_onHandle (w : World) (auth : WebsocketAuth)
    (target : ContainerID) :
    (onHandle w auth target).rank < (Stage.handling target).rank := by
  unfold onHandle
  split
  · simp [Stage.rank]
  · split <;> simp [Stage.rank]

theorem rank_onDecision (retryNumber : Nat) (now : Int)
    (row : Option ActiveConnection) :
    (onDecision retryNumber now
        (SendOrSave.saveMessageHub retryNumber row)).rank <
      (Stage.queued retryNumber).rank := by
  cases hdecision : SendOrSave.saveMessageHub retryNumber row with
  | drop => simp [onDecision, Stage.rank]
  | retry delay =>
    have hlt := SendOrSave.lt_of_saveMessageHub_retry hdecision
    simp only [onDecision, Stage.rank]
    omega
  | save =>
    have hlt : retryNumber < SendOrSave.maxRetryNumber := by
      by_contra hmax
      rw [SendOrSave.saveMessageHub_exhausted (Nat.not_lt.mp hmax)]
        at hdecision
      cases hdecision
    simp only [onDecision, Stage.rank]
    omega

theorem Moves.rank {before : Stage}
    (hmoves : Moves node m s label before after) :
    (if isOwn label then 1 else 0) + after.rank ≤ before.rank := by
  cases hmoves with
  | aside hown => simp [hown]
  | read =>
    have hlt := rank_onRead (s.world.visibleRow m.auth)
    simp only [isOwn, if_true]
    omega
  | @handled target =>
    have hlt := rank_onHandle s.world m.auth target
    simp only [isOwn, if_true]
    omega
  | @submitted retryNumber due accepted =>
    simp only [isOwn, if_true]
    cases accepted with
    | true =>
      simp only [if_true, Stage.rank]
      omega
    | false => simp [Stage.rank]
  | @polled retryNumber =>
    have hlt := rank_onDecision retryNumber s.world.now
      (s.world.visibleRow m.auth)
    simp only [isOwn, if_true]
    omega
  | @saves sendAt =>
    cases stamped s.world m sendAt <;> simp [isOwn, Stage.rank]
  | _ => simp [isOwn, Stage.rank, SendOrSave.maxRetryNumber]

/-- Whatever else happens, a send has at most eighteen steps of its own. -/
theorem countP_isOwn_le {cutoff ttl : Int} {labels : List Label}
    (hrun : run (step node m) (start cutoff ttl) labels =
      some s) : labels.countP isOwn ≤ 18 := by
  have hcount := countP_add_rank_le (fun _ => True) isOwn (fun _ => 0)
    (fun s : State => s.stage.rank)
    (fun _ _ _ _ hstep => ⟨trivial, (moves_of_step hstep).rank⟩) trivial hrun
  rw [List.map_const', List.sum_replicate_nat, Nat.mul_zero] at hcount
  exact Nat.le_trans (Nat.le_add_right _ _) hcount

/-- The send waits for the close of its connection or for its next task to be
due. -/
def Waits (s : State) : Prop :=
  match s.stage with
  | .closing t => s.shutdown.finished t = false
  | .waiting _ due => s.world.now < due
  | _ => False

/-- A send that is not over and does not wait has a step to make. -/
theorem own_step_enabled (hleft : 0 < s.stage.rank) (hwaits : ¬ Waits s) :
    ∃ label, isOwn label = true ∧ (step node m s label).isSome = true := by
  unfold Waits at hwaits
  cases hstage : s.stage with
  | ready =>
    refine ⟨.call, rfl, ?_⟩
    simp only [step, hstage, if_true]
    split
    · rfl
    · split <;> rfl
  | reading => exact ⟨.read, rfl, by simp [step, hstage]⟩
  | publishing holder =>
    refine ⟨.publish, rfl, ?_⟩
    simp only [step, hstage]
    split <;> rfl
  | handling target => exact ⟨.handle, rfl, by simp [step, hstage]⟩
  | sending c => exact ⟨.send true, rfl, by simp [step, hstage]⟩
  | closing t =>
    rw [hstage] at hwaits
    have hfinished : s.shutdown.finished t = true :=
      eq_true_of_ne_false hwaits
    exact ⟨.sendClosed, rfl, by simp [step, hstage, hfinished]⟩
  | waiting retryNumber due =>
    rw [hstage] at hwaits
    exact ⟨.submit true, rfl, by simp [step, hstage, Int.not_lt.mp hwaits]⟩
  | queued retryNumber =>
    exact ⟨.saveMessageHub, rfl, by simp [step, hstage]⟩
  | saving => exact ⟨.save 0 0, rfl, by simp [step, hstage]⟩
  | panicked | written c | saved | dropped =>
    rw [hstage] at hleft
    cases hleft

/-! ### What becomes of the payload -/

theorem onRead_ne_dropped_iff (row : Option ActiveConnection) :
    onRead row ≠ .dropped ↔ row.isSome = true := by
  cases row with
  | none => simp [onRead]
  | some row => cases hholder : row.holderID <;> simp [onRead, hholder]

theorem onHandle_ne_dropped_iff (w : World) (auth : WebsocketAuth)
    (target : ContainerID) :
    onHandle w auth target ≠ .dropped ↔ Knows w auth target := by
  unfold onHandle Knows
  cases w.registered target auth with
  | some c => simp
  | none => simp

theorem onDecision_ne_dropped_iff (retryNumber : Nat) (now : Int)
    (row : Option ActiveConnection) :
    onDecision retryNumber now (SendOrSave.saveMessageHub retryNumber row) ≠
        .dropped ↔
      row.isSome = true ∧ retryNumber < SendOrSave.maxRetryNumber := by
  by_cases hretry : retryNumber < SendOrSave.maxRetryNumber
  · cases row with
    | none =>
      rw [SendOrSave.saveMessageHub_none]
      simp [onDecision]
    | some row =>
      rw [SendOrSave.saveMessageHub_some row hretry]
      by_cases hstatus : row.status = .connected <;>
        simp [onDecision, hstatus, hretry]
  · rw [SendOrSave.saveMessageHub_exhausted (Nat.not_lt.mp hretry)]
    simp [onDecision, hretry]

/-- A dropped payload stays dropped. -/
theorem Moves.of_dropped (hmoves : Moves node m s label .dropped after) :
    after = .dropped := by
  cases hmoves
  rfl

/-- A step that is careful is one that does not drop the payload. -/
theorem Moves.kept_iff (hmoves : Moves node m s label s.stage after)
    (hkept : s.stage ≠ .dropped) :
    after ≠ .dropped ↔ Careful node m s label := by
  generalize hstage : s.stage = before at hmoves hkept
  cases hmoves with
  | aside other =>
    cases label with
    | shutdown label => exact iff_of_true hkept trivial
    | unsubscribe => exact iff_of_true hkept trivial
    | _ => cases other
  | read => exact onRead_ne_dropped_iff _
  | unheard gone => simp [Careful, hstage, gone]
  | published heard =>
    simpa [Careful, hstage] using heard
  | @handled target =>
    simpa [Careful, hstage, Stage.target] using
      onHandle_ne_dropped_iff s.world m.auth target
  | @submitted retryNumber due accepted =>
    cases accepted <;> simp [Careful]
  | @polled retryNumber =>
    simpa [Careful, hstage, Stage.retryNumber] using
      onDecision_ne_dropped_iff retryNumber s.world.now
        (s.world.visibleRow m.auth)
  | @saves sendAt =>
    cases hstamped : stamped s.world m sendAt <;> simp [Careful, hstamped]
  | _ => simp [Careful]

theorem delivered_iff_kept {stage : Stage} (hfinished : stage.finished = true) :
    stage.delivered = true ↔ stage ≠ .dropped := by
  cases stage <;> simp_all [Stage.finished, Stage.delivered]

/-- A send that comes to its end has delivered its payload exactly when every
step of the run was careful. -/
theorem delivered_iff_careful {node : ContainerID} {m : Call}
    {cutoff ttl : Int} {labels : List Label} {s : State}
    (hrun : run (step node m) (start cutoff ttl) labels = some s)
    (hfinished : s.stage.finished = true) :
    s.stage.delivered = true ↔
      Meets (step node m) (Careful node m) (start cutoff ttl) labels := by
  have hfinal := along_iff_final (fun s : State => s.stage ≠ .dropped)
    (fun _ _ _ hstep hkept hdropped =>
      hkept ((hdropped ▸ moves_of_step hstep).of_dropped)) hrun
  have hmeets := along_iff_meets (fun _ : State => True)
    (fun s : State => s.stage ≠ .dropped) (fun _ _ _ _ _ => trivial)
    (fun _ _ _ _ hkept hstep => (moves_of_step hstep).kept_iff hkept) trivial
    (fun h => by cases h) hrun
  exact (delivered_iff_kept hfinished).trans (hfinal.symm.trans hmeets)

/-- Container 1 sends to the session that container 0 holds. -/
def greeting : Call := ⟨1, Cluster.alice, [7]⟩

/-- The message is published in time and handled once the subscription has
ended; the connection is closed before the send and the row says transferring
when the payload is saved. -/
def rescuedRun : List Label :=
  List.flatten
    [(Shutdown.connect 0 Cluster.alice 0).map .shutdown,
      [.call, .read, .publish, .unsubscribe],
      Shutdown.untilList.map .shutdown,
      [.handle, .shutdown (.transitionConnectionToTransferring true),
        .shutdown .closeAllAuthenticatedConnections],
      List.replicate 4 (.shutdown (.cluster (.exec 2 true))),
      [.send false, .shutdown (.cluster (.exec 3 true)), .sendClosed,
        .submit true, .saveMessageHub, .save 5 100]]

theorem delivered_rescuedRun :
    (final (step 0 greeting) (start 60 120) rescuedRun).stage = .saved ∧
      (final (step 0 greeting) (start 60 120)
        rescuedRun).stage.delivered = true :=
  ⟨by decide +kernel, (delivered_iff_careful
    (run_eq_final (by decide +kernel)) (by decide +kernel)).mpr
      (by decide +kernel)⟩

/-- The message is published after container 0 has ended its subscription and
before it has touched the session. -/
def unsubscribedRun : List Label :=
  (Shutdown.connect 0 Cluster.alice 0).map .shutdown ++
    [.unsubscribe, .call, .read, .publish]

/-- The payload is gone although the session is connected all the time. -/
theorem unsubscribedRun_dropped :
    ∃ s, Reach (step 0 greeting) StoreSucceeds (start 60 120) s ∧
      s.world.held Cluster.alice = some (some 0, .connected) ∧
      s.world.registered 0 Cluster.alice = some 0 ∧
      (s.world.conn 0).map Cluster.Conn.closed = some false ∧
      s.world.pending = [] ∧ s.stage.finished = true ∧
      s.stage.delivered = false :=
  ⟨final (step 0 greeting) (start 60 120) unsubscribedRun,
    reach_final (by decide +kernel) (by decide +kernel),
    by decide +kernel, by decide +kernel, by decide +kernel,
    by decide +kernel, by decide +kernel, by decide +kernel⟩

end ShutdownSend

end Pipewave
