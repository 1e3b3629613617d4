/-
The order of the callbacks.  An endpoint whose new-connection callback comes
before a hook that refuses the connection is followed act by act, from the
request to its error, among other threads that leave its connection alone.
-/
import Pipewave.Admission
import Pipewave.Registration

namespace Pipewave

namespace Cluster

open Transition

section Undisturbed

/-- A step of another thread does not close the connection and, for a poll,
leaves the registry's slot of its identity as it is. -/
def Spares (base : Conn) (c : ConnID) (w w' : World) : Prop :=
  w'.conn c = w.conn c ∧
    (base.coreType = .longPolling →
      w'.registered base.node base.auth = w.registered base.node base.auth)

instance (base : Conn) (c : ConnID) (w w' : World) :
    Decidable (Spares base c w w') := inferInstanceAs (Decidable (_ ∧ _))

/-- The endpoint's upsert has the given outcome and its read of the pending
messages finds something or not.  If the upsert succeeds, the other threads
leave the connection alone. -/
def Undisturbed (base : Conn) (t : Nat) (c : ConnID)
    (addRowOk readsNone : Bool) (w : World) : Label → Prop
  | .exec s ok =>
    (s = t → (w.nextAct t = some (.addRow c) → ok = addRowOk) ∧
      (w.nextAct t = some (.getAll c) →
        (readsNone = true ↔ ok = false ∨
          w.pending.ofSession (sessionKey base.auth) = []))) ∧
    (s ≠ t → addRowOk = true →
      ∀ w' ∈ step w (.exec s ok), Spares base c w w')
  | _ => True

instance (base : Conn) (t : Nat) (c : ConnID) (addRowOk readsNone : Bool)
    (w : World) :
    ∀ label, Decidable (Undisturbed base t c addRowOk readsNone w label)
  | .exec _ _ => inferInstanceAs (Decidable (_ ∧ _))
  | .accept .. | .poll .. | .lpSend .. | .frame _ | .close _ | .deliver _
  | .startTimer .. | .fireTimer .. | .stopTimer .. | .lockTimer ..
  | .callTimer .. | .markShuttingDown _ | .heartbeat _ | .save _
  | .advance _ => .isTrue trivial

/-- The acts of the new-connection callback before its upsert. -/
def Act.prepares : Act → Prop
  | .closeDuplicate _ | .readRow _ | .disconnectSession .. => True
  | .disconnectLocal .. | .disconnectRemote _ | .publish _ => True
  | .resumeSession .. | .deregister .. => True
  | _ => False

/-- The acts of a long-polling endpoint behind its registration. -/
def Act.attends (c : ConnID) : Act → Prop
  | .getAll d | .sendDirect d _ => d = c
  | .deleteUpTo .. | .hook _ | .serve _ => True
  | _ => False

variable {w : World} {act : Act} {ok : Bool} {c : ConnID}

theorem exec_prepares_world (hact : act.prepares) :
    (exec w act ok).world.consumed = w.consumed ∧
      ∀ node auth, (exec w act ok).world.registered node auth =
        w.registered node auth := by
  refine ⟨?_, ?_⟩
  · rcases exec_consumed w act ok with hsame | ⟨d, rows, rfl, -⟩
    · exact hsame
    · exact hact.elim
  · intro node auth
    rcases exec_registered w act ok node auth with hsame |
      ⟨d, conn, rfl, -⟩
    · exact hsame
    · exact hact.elim

theorem exec_prepares_push (hact : act.prepares) :
    ∀ pushed ∈ (exec w act ok).push, pushed.prepares := by
  intro pushed hpushed
  cases pushes_of_mem hpushed with
  | deleteUpTo | sendDirect => exact hact.elim
  | _ => trivial

theorem exec_prepares_verdict (hact : act.prepares) :
    (exec w act ok).verdict ≠ .failed := by
  cases act <;> first | exact hact.elim | skip
  all_goals
    simp only [exec, execConn]
    (repeat' split) <;> exact Verdict.noConfusion

variable {stage : CloseStage} {conn : Conn}

theorem exec_prepares_closing (hact : act.prepares) {d : ConnID}
    (hclosing : (exec w act ok).closing = some (d, stage)) :
    ∃ node auth, w.registered node auth = some d := by
  obtain ⟨-, ⟨⟨message, rfl⟩ | rfl, -⟩ | hregistered⟩ := exec_closing hclosing
  · exact hact.elim
  · exact hact.elim
  · exact hregistered

/-- Behind its registration a long-polling endpoint closes nothing. -/
theorem exec_attends {conn : Conn} (hact : act.attends c)
    (hconn : w.conn c = some conn) (hcore : conn.coreType = .longPolling) :
    (exec w act ok).closing = none ∧
      (∀ pushed ∈ (exec w act ok).push, pushed.attends c) ∧
      ∀ node auth, (exec w act ok).world.registered node auth =
        w.registered node auth := by
  refine ⟨?_, ?_, ?_⟩
  · cases act <;> first | exact hact.elim | skip
    case sendDirect d message =>
      cases hact
      simp [exec, hconn, execConn, hcore]
    all_goals
      simp only [exec, execConn]
      (repeat' split) <;> rfl
  · intro pushed hpushed
    cases pushes_of_mem hpushed with
    | deleteUpTo => trivial
    | sendDirect => exact hact
    | _ => exact hact.elim
  · intro node auth
    rcases exec_registered w act ok node auth with hsame |
      ⟨d, conn, rfl, -⟩
    · exact hsame
    · exact hact.elim

/-- The acts of an endpoint behind the new-connection callback. -/
def afterwards (coreType : WsCoreType) (c : ConnID) : List Act :=
  match coreType with
  | .gobwas => [.hook false]
  | .longPolling => [.hook false, .serve c]

/-- Nothing was done for the connection yet. -/
structure Fresh (c : ConnID) (w : World) : Prop where
  unregistered : ∀ node auth, w.registered node auth ≠ some c
  unread : ∀ read ∈ w.consumed, read.1 ≠ c

/-- A WebSocket endpoint on its way from the hook to the end of the `Close` it
makes. -/
inductive Leaves (base : Conn) (c : ConnID) (w : World) : Thread → Prop where
  | asking (conn : w.conn c = some base) :
      Leaves base c w { todo := [.hook false], onErr := [.close c] }
  | told (conn : w.conn c = some base) :
      Leaves base c w { todo := [.close c] }
  | swapping (conn : w.conn c = some base) :
      Leaves base c w { closing := some (c, .swap) }
  | removing {conn : Conn} (found : w.conn c = some conn)
      (closed : conn.closed = true) :
      Leaves base c w { closing := some (c, .removeConnection) }
  | gone {conn : Conn} {stage : Option CloseStage}
      (found : w.conn c = some conn) (closed : conn.closed = true)
      (unregistered : ∀ node auth, w.registered node auth ≠ some c) :
      Leaves base c w { closing := stage.map (c, ·) }

theorem Leaves.threadCase (hopen : base.closed = false)
    (hcoherent : Coherent w) (hleaves : Leaves base c w thread)
    (hcase : ThreadCase w thread ok next thread') :
    Leaves base c next thread' ∧ next.consumed = w.consumed := by
  cases hleaves with
  | asking conn =>
    obtain ⟨_, _, htodo, rfl, rfl⟩ := hcase.of_idle rfl
    cases htodo
    exact ⟨.told conn, rfl⟩
  | told conn =>
    obtain ⟨_, _, htodo, rfl, rfl⟩ := hcase.of_idle rfl
    cases htodo
    have hexec : exec w (.close c) ok =
        { world := w, closing := some (c, .swap) } := by
      simp only [exec, conn, execConn]
    rw [hexec]
    exact ⟨.swapping conn, rfl⟩
  | swapping conn =>
    obtain ⟨rfl, rfl⟩ := hcase.of_closing rfl conn
    have hafter := @conn_closeStep w c c base ok .swap conn
    rw [if_pos ⟨rfl, hopen, rfl⟩] at hafter
    refine ⟨?_, closeStep_consumed w c base ok .swap⟩
    simp only [closeStep, hopen] at hafter ⊢
    exact .removing hafter rfl
  | @removing conn found closed =>
    obtain ⟨rfl, rfl⟩ := hcase.of_closing rfl found
    refine ⟨?_, closeStep_consumed w c conn ok .removeConnection⟩
    refine .gone ((@conn_closeStep w c c conn ok _ found).trans ?_)
      closed ?_
    · rw [if_neg (by simp), found]
    · intro node auth hregistered
      rw [closeStep_registered] at hregistered
      split at hregistered
      · cases hregistered
      · next hkept =>
        obtain ⟨conn', hconn', hnode, hauth⟩ :=
          hcoherent.registered hregistered
        rw [found] at hconn'
        cases hconn'
        exact hkept ⟨rfl, hnode.symm, hauth.symm⟩
  | @gone conn stage found closed unregistered =>
    cases stage with
    | none =>
      obtain ⟨_, _, htodo, -, -⟩ := hcase.of_idle rfl
      cases htodo
    | some stage =>
      obtain ⟨rfl, rfl⟩ := hcase.of_closing rfl found
      refine ⟨?_, closeStep_consumed w c conn ok stage⟩
      refine .gone ((@conn_closeStep w c c conn ok stage found).trans ?_)
        closed ?_
      · rw [if_neg (by simp [closed]), found]
      · intro node auth hregistered
        rw [closeStep_registered] at hregistered
        split at hregistered
        · cases hregistered
        · exact unregistered node auth hregistered

/-- Where an endpoint is that runs the new-connection callback before a hook
that refuses the connection. -/
inductive Progress (base : Conn) (c : ConnID) (addRowOk readsNone : Bool)
    (w : World) : Thread → Prop where
  | preparing {closing : Option (ConnID × CloseStage)} {pre : List Act}
      (fresh : Fresh c w) (spared : addRowOk = true → w.conn c = some base)
      (prepares : ∀ act ∈ pre, act.prepares)
      (other : ∀ d stage, closing = some (d, stage) → d ≠ c) :
      Progress base c addRowOk readsNone w
        { closing
          todo := pre ++ .addRow c :: .addConnection c :: .getAll c ::
            afterwards base.coreType c
          onErr := (endpoint base.coreType false false c).onErr }
  | claimed (fresh : Fresh c w) (added : addRowOk = true)
      (conn : w.conn c = some base) :
      Progress base c addRowOk readsNone w
        { todo := .addConnection c :: .getAll c :: afterwards base.coreType c
          onErr := (endpoint base.coreType false false c).onErr }
  | attached (core : base.coreType = .gobwas) (added : addRowOk = true)
      (conn : w.conn c = some base)
      (unread : ∀ read ∈ w.consumed, read.1 ≠ c) :
      Progress base c addRowOk readsNone w
        { todo := [.getAll c, .hook false], onErr := [.close c] }
  | held {thread : Thread} (core : base.coreType = .longPolling)
      (added : addRowOk = true)
      (registered : w.registered base.node base.auth = some c)
      (idle : thread.closing = none)
      (attends : ∀ act ∈ thread.acts, act.attends c) :
      Progress base c addRowOk readsNone w thread
  | read {thread : Thread} (core : base.coreType = .gobwas)
      (added : addRowOk = true) (some : readsNone = false)
      (read : ∃ read ∈ w.consumed, read.1 = c) :
      Progress base c addRowOk readsNone w thread
  | leaving {thread : Thread} (core : base.coreType = .gobwas)
      (added : addRowOk = true) (none : readsNone = true)
      (unread : ∀ read ∈ w.consumed, read.1 ≠ c)
      (leaves : Leaves base c w thread) :
      Progress base c addRowOk readsNone w thread
  | panicked : Progress base c addRowOk readsNone w { panicked := true }

variable {base : Conn} {addRowOk readsNone : Bool} {next : World}
  {thread thread' : Thread}

theorem Fresh.closeStep {d : ConnID} (hfresh : Fresh c w) :
    Fresh c (closeStep w d conn ok stage).1 := by
  have hconsumed := closeStep_consumed w d conn ok stage
  refine ⟨?_, hconsumed ▸ hfresh.unread⟩
  intro node auth hregistered
  rw [closeStep_registered] at hregistered
  split at hregistered
  · cases hregistered
  · exact hfresh.unregistered node auth hregistered

theorem Fresh.exec_prepares (hfresh : Fresh c w) (hact : act.prepares) :
    Fresh c (exec w act ok).world := by
  obtain ⟨hconsumed, hregistered⟩ := @exec_prepares_world w act ok hact
  refine ⟨?_, hconsumed ▸ hfresh.unread⟩
  intro node auth
  rw [hregistered]
  exact hfresh.unregistered node auth

/-- The endpoint goes on, or its upsert has failed. -/
theorem Progress.preparing_threadCase {call : Option (ConnID × CloseStage)}
    {pre : List Act} (hfresh : Fresh c w)
    (hspared : addRowOk = true → w.conn c = some base)
    (hprepares : ∀ act ∈ pre, act.prepares)
    (hother : ∀ d stage, call = some (d, stage) → d ≠ c)
    (hconn : w.conn c = some conn) (hcase : ThreadCase w
      { closing := call
        todo := pre ++ .addRow c :: .addConnection c :: .getAll c ::
          afterwards base.coreType c
        onErr := (endpoint base.coreType false false c).onErr } ok next
      thread') (hrow : call = none → pre = [] → ok = addRowOk) :
    Progress base c addRowOk readsNone next thread' ∨
      addRowOk = false ∧ Fresh c next ∧ GivesUp base next c thread' := by
  cases hcase with
  | orphan closing gone =>
    exact .inl (.preparing hfresh hspared hprepares
      fun d stage h => by cases h)
  | @closing d closed stage closing known =>
    have hne := hother d stage closing
    refine .inl (.preparing hfresh.closeStep ?_ hprepares ?_)
    · intro hadded
      rw [conn_closeStep known, if_neg fun h => hne h.2.2.symm]
      exact hspared hadded
    · intro e after hafter
      obtain ⟨_, -, hpair⟩ := Option.map_eq_some_iff.mp hafter
      cases hpair
      exact hne
  | @act act rest closing todo =>
    have hnone : call = none := closing
    subst hnone
    cases pre with
    | nil =>
      obtain rfl := hrow rfl rfl
      cases todo
      simp only [exec, hconn, execConn]
      cases ok with
      | true =>
        exact .inl (.claimed ⟨hfresh.unregistered, hfresh.unread⟩ rfl
          (hspared rfl))
      | false =>
        exact .inr ⟨rfl, hfresh, givesUp_onErr base w c false false⟩
    | cons first pre =>
      cases todo
      have hact := hprepares _ List.mem_cons_self
      have hafter : Fresh c (exec w act ok).world :=
        hfresh.exec_prepares hact
      cases hverdict : (exec w act ok).verdict with
      | failed => exact absurd hverdict (exec_prepares_verdict hact)
      | panicked =>
        simp only [afterAct, hverdict]
        exact .inl .panicked
      | done =>
        simp only [afterAct, hverdict, List.append_eq, ←
          List.append_assoc]
        refine .inl (.preparing hafter ?_ ?_ ?_)
        · intro hadded
          rw [World.conn, exec_conns]
          exact hspared hadded
        · intro later hlater
          rcases List.mem_append.mp hlater with hpush | hpre
          · exact exec_prepares_push hact later hpush
          · exact hprepares later (List.mem_cons_of_mem _ hpre)
        · rintro d stage hclosing rfl
          obtain ⟨node, auth, hregistered⟩ :=
            exec_prepares_closing hact hclosing
          exact hfresh.unregistered node auth hregistered

theorem Progress.held_threadCase (hcore : base.coreType = .longPolling)
    (hadded : addRowOk = true)
    (hregistered : w.registered base.node base.auth = some c)
    (hidle : thread.closing = none)
    (hattends : ∀ act ∈ thread.acts, act.attends c)
    (hconn : w.conn c = some conn) (hkeeps : base.Keeps conn)
    (hcase : ThreadCase w thread ok next thread') :
    Progress base c addRowOk readsNone next thread' := by
  obtain ⟨act, rest, htodo, rfl, rfl⟩ := hcase.of_idle hidle
  have hact : act.attends c := hattends act
    (List.mem_append_left _ (htodo ▸ List.mem_cons_self))
  obtain ⟨hnone, hpush, hsame⟩ := @exec_attends w act ok c conn hact hconn
    (hkeeps.coreType.trans hcore)
  refine .held hcore hadded ((hsame _ _).trans hregistered) ?_ ?_
  · cases hcall : (afterAct thread rest (exec w act ok)).closing with
    | none => rfl
    | some call =>
      rw [afterAct_closing hcall] at hnone
      cases hnone
  · intro later hlater
    rcases mem_acts_afterAct hlater with hmem | hrest | herr
    · exact hpush later hmem
    · exact hattends later (List.mem_append_left _
        (htodo ▸ List.mem_cons_of_mem _ hrest))
    · exact hattends later (List.mem_append_right _ herr)

/-- The read of the pending messages decides between the two ways a WebSocket
endpoint ends. -/
theorem Progress.attached_exec (hcore : base.coreType = .gobwas)
    (hadded : addRowOk = true) (hconn : w.conn c = some base)
    (hunread : ∀ read ∈ w.consumed, read.1 ≠ c)
    (hget : readsNone = true ↔ ok = false ∨
      w.pending.ofSession (sessionKey base.auth) = []) :
    Progress base c addRowOk readsNone (exec w (.getAll c) ok).world
      (afterAct { todo := [.getAll c, .hook false], onErr := [.close c] }
        [.hook false] (exec w (.getAll c) ok)) := by
  cases hnone : readsNone with
  | false =>
    rw [hnone] at hget
    obtain ⟨hok, hrows⟩ := not_or.mp fun h => Bool.noConfusion (hget.mpr h)
    refine .read hcore hadded rfl ?_
    obtain ⟨row, hrow⟩ := List.exists_mem_of_ne_nil _ hrows
    refine ⟨(c, row), ?_, rfl⟩
    simp only [exec, hconn, execConn, hok, hrows]
    exact List.mem_append_right _ (List.mem_map_of_mem hrow)
  | true =>
    have hexec : exec w (.getAll c) ok = { world := w } := by
      rcases hget.mp hnone with hfailed | hempty
      · simp [exec, hconn, execConn, hfailed]
      · simp [exec, hconn, execConn, hempty]
    rw [hexec]
    exact .leaving hcore hadded rfl hunread (.asking hconn)

theorem Progress.claimed_exec (hfresh : Fresh c w) (hadded : addRowOk = true)
    (hconn : w.conn c = some base) :
    Progress base c addRowOk readsNone (exec w (.addConnection c) ok).world
      (afterAct
        { todo := .addConnection c :: .getAll c :: afterwards base.coreType c
          onErr := (endpoint base.coreType false false c).onErr }
        (.getAll c :: afterwards base.coreType c)
        (exec w (.addConnection c) ok)) := by
  have hexec : exec w (.addConnection c) ok =
      { world := w.addConnection c base } := by
    simp only [exec, hconn, execConn]
  rw [hexec]
  cases hcore : base.coreType with
  | gobwas => exact .attached hcore hadded hconn hfresh.unread
  | longPolling =>
    refine .held hcore hadded ?_ rfl ?_
    · rw [registered_addConnection, if_pos ⟨rfl, rfl⟩]
    · intro later hlater
      simp only [afterAct, endpoint, afterwards, Thread.acts,
        List.nil_append, List.append_nil, List.mem_cons,
        List.not_mem_nil, or_false] at hlater
      rcases hlater with rfl | rfl | rfl
      · rfl
      · trivial
      · trivial

theorem Progress.threadCase (hopen : base.closed = false)
    (hcoherent : Coherent w) (hconn : w.conn c = some conn)
    (hkeeps : base.Keeps conn)
    (hprogress : Progress base c addRowOk readsNone w thread)
    (hcase : ThreadCase w thread ok next thread')
    (hrow : thread.nextAct = some (.addRow c) → ok = addRowOk)
    (hget : thread.nextAct = some (.getAll c) →
      (readsNone = true ↔ ok = false ∨
        w.pending.ofSession (sessionKey base.auth) = [])) :
    Progress base c addRowOk readsNone next thread' ∨
      addRowOk = false ∧ Fresh c next ∧ GivesUp base next c thread' := by
  cases hprogress with
  | preparing fresh spared prepares other =>
    refine Progress.preparing_threadCase fresh spared prepares other hconn
      hcase ?_
    rintro rfl rfl
    exact hrow rfl
  | claimed fresh added found =>
    obtain ⟨_, _, htodo, rfl, rfl⟩ := hcase.of_idle rfl
    cases htodo
    exact .inl (Progress.claimed_exec fresh added found)
  | attached core added found unread =>
    have hreads := hget rfl
    obtain ⟨_, _, htodo, rfl, rfl⟩ := hcase.of_idle rfl
    cases htodo
    exact .inl (Progress.attached_exec core added found unread hreads)
  | held core added registered idle attends =>
    exact .inl (Progress.held_threadCase core added registered idle attends
      hconn hkeeps hcase)
  | read core added found read =>
    obtain ⟨read, hmem, hown⟩ := read
    exact .inl (.read core added found
      ⟨read, hcase.consumed_subset hmem, hown⟩)
  | leaving core added nothing unread leaves =>
    obtain ⟨hleaves, hsame⟩ := leaves.threadCase hopen hcoherent hcase
    exact .inl (.leaving core added nothing (hsame ▸ unread) hleaves)
  | panicked =>
    obtain ⟨_, _, htodo, -, -⟩ := hcase.of_idle rfl
    cases htodo

/-- What other threads may do to a connection they leave alone changes nothing
for its endpoint. -/
theorem Leaves.frame (hconn : w'.conn c = w.conn c)
    (hunregistered : (∀ node auth, w.registered node auth ≠ some c) →
      ∀ node auth, w'.registered node auth ≠ some c)
    (hleaves : Leaves base c w thread) : Leaves base c w' thread := by
  cases hleaves with
  | asking conn => exact .asking (hconn.trans conn)
  | told conn => exact .told (hconn.trans conn)
  | swapping conn => exact .swapping (hconn.trans conn)
  | removing found closed => exact .removing (hconn.trans found) closed
  | gone found closed unregistered =>
    exact .gone (hconn.trans found) closed (hunregistered unregistered)

theorem Progress.frame (hspares : addRowOk = true → Spares base c w w')
    (hunregistered : (∀ node auth, w.registered node auth ≠ some c) →
      ∀ node auth, w'.registered node auth ≠ some c)
    (hunread : (∀ read ∈ w.consumed, read.1 ≠ c) →
      ∀ read ∈ w'.consumed, read.1 ≠ c)
    (hread : ∀ read ∈ w.consumed, read ∈ w'.consumed)
    (hprogress : Progress base c addRowOk readsNone w thread) :
    Progress base c addRowOk readsNone w' thread := by
  have hfresh : Fresh c w → Fresh c w' := fun fresh =>
    ⟨hunregistered fresh.unregistered, hunread fresh.unread⟩
  cases hprogress with
  | preparing fresh spared prepares other =>
    exact .preparing (hfresh fresh)
      (fun hadded => (hspares hadded).1.trans (spared hadded)) prepares
      other
  | claimed fresh added conn =>
    exact .claimed (hfresh fresh) added ((hspares added).1.trans conn)
  | attached core added conn unread =>
    exact .attached core added ((hspares added).1.trans conn)
      (hunread unread)
  | held core added registered idle attends =>
    exact .held core added (((hspares added).2 core).trans registered) idle
      attends
  | read core added found read =>
    obtain ⟨read, hmem, hown⟩ := read
    exact .read core added found ⟨read, hread read hmem, hown⟩
  | leaving core added nothing unread leaves =>
    exact .leaving core added nothing (hunread unread)
      (leaves.frame (hspares added).1 hunregistered)
  | panicked => exact .panicked

/-- What holds all along the run of the endpoint, unless its upsert fails. -/
structure Runs (base : Conn) (t : Nat) (c : ConnID)
    (addRowOk readsNone : Bool) (w : World) : Prop where
  coherent : Coherent w
  owned : Owned base w t c
  thread : ∃ thread, w.threads[t]? = some thread ∧
    Progress base c addRowOk readsNone w thread

variable {t : Nat} {label : Label} {w' : World}

/-- Requests, messages and timers begin threads; only threads touch the
connection. -/
theorem spares_of_not_exec {conn : Conn} (hconn : w.conn c = some conn)
    (hother : ∀ s ok, label ≠ .exec s ok)
    (hstep : step w label = some w') : Spares base c w w' := by
  cases step_cases hstep with
  | quiet same threads =>
    exact ⟨by rw [World.conn, same.conns]; rfl,
      fun _ => same.registered _ _⟩
  | spawned same threads swaps =>
    exact ⟨by rw [World.conn, same.conns]; rfl,
      fun _ => same.registered _ _⟩
  | opened isOpen idle =>
    exact ⟨(conn_openConn hconn).trans hconn.symm, fun _ => rfl⟩
  | orphan | closing | act => exact absurd rfl (hother _ _)

theorem runs_own_step {s : Nat} (hopen : base.closed = false)
    (hruns : Runs base s c addRowOk readsNone w)
    (hrow : w.nextAct s = some (.addRow c) → ok = addRowOk)
    (hget : w.nextAct s = some (.getAll c) →
      (readsNone = true ↔ ok = false ∨
        w.pending.ofSession (sessionKey base.auth) = []))
    (hstep : step w (.exec s ok) = some w') :
    Runs base s c addRowOk readsNone w' ∨
      addRowOk = false ∧ Refused base w' s c := by
  have hcoherent := coherent_step hruns.coherent hstep
  have howned := owned_step hruns.owned hstep
  obtain ⟨conn, hconn, hkeeps⟩ := hruns.owned.conn
  obtain ⟨thread, hthread, hprogress⟩ := hruns.thread
  obtain ⟨running, next, thread', hrunning, hcase, rfl⟩ := step_exec hstep
  rw [hthread] at hrunning
  cases hrunning
  have hset : (w.threads.set s thread')[s]? = some thread' :=
    List.getElem?_set_self (List.getElem?_eq_some_iff.mp hthread).1
  rw [World.nextAct, hthread] at hrow hget
  rcases hprogress.threadCase hopen hruns.coherent hconn hkeeps hcase hrow
    hget with hafter | ⟨hfailed, hfresh, hgives⟩
  · refine .inl ⟨hcoherent, howned, thread', hset, ?_⟩
    refine Progress.frame ?_ ?_ ?_ ?_ hafter
    · exact fun _ => ⟨rfl, fun _ => rfl⟩
    · exact id
    · exact id
    · exact fun _ => id
  · exact .inr ⟨hfailed, howned, hfresh.unregistered, hfresh.unread,
      thread', hset, hgives⟩

theorem runs_other_step (hruns : Runs base t c addRowOk readsNone w)
    (hother : ∀ ok, label ≠ .exec t ok)
    (hspares : addRowOk = true → Spares base c w w')
    (hstep : step w label = some w') :
    Runs base t c addRowOk readsNone w' := by
  obtain ⟨thread, hthread, hprogress⟩ := hruns.thread
  refine ⟨coherent_step hruns.coherent hstep, owned_step hruns.owned hstep,
    ?_⟩
  rcases thread_step hstep hthread with ⟨ok, hlabel⟩ | hkept
  · exact absurd hlabel (hother ok)
  · refine ⟨thread, hkept, hprogress.frame hspares ?_ ?_ ?_⟩
    · intro hnone
      exact hruns.owned.unregistered_step hother hnone hstep
    · intro hnone
      exact hruns.owned.unread_step hother hnone hstep
    · exact fun _ => consumed_subset_step hstep

theorem runs_step (hopen : base.closed = false)
    (hruns : Runs base t c addRowOk readsNone w)
    (hallowed : Undisturbed base t c addRowOk readsNone w label)
    (hstep : step w label = some w') :
    Runs base t c addRowOk readsNone w' ∨
      addRowOk = false ∧ Refused base w' t c := by
  obtain ⟨conn, hconn, -⟩ := hruns.owned.conn
  cases label with
  | exec s ok =>
    by_cases hown : s = t
    · subst hown
      obtain ⟨hrow, hget⟩ := hallowed.1 rfl
      exact runs_own_step hopen hruns hrow hget hstep
    · refine .inl (runs_other_step hruns ?_ ?_ hstep)
      · rintro ok' hlabel
        cases hlabel
        exact hown rfl
      · exact fun hadded => hallowed.2 hown hadded w' hstep
  | _ =>
    have hspares := @spares_of_not_exec w c base _ w' conn hconn
      (fun _ _ => Label.noConfusion) hstep
    exact .inl (runs_other_step hruns (fun _ => Label.noConfusion)
      (fun _ => hspares) hstep)

/-- The end of a run on which the upsert did not fail. -/
theorem Runs.failClosed_iff (hruns : Runs base t c addRowOk readsNone w)
    (hreturned : Returned w t) :
    FailClosed w c ↔
      addRowOk = false ∨ base.coreType = .gobwas ∧ readsNone = true := by
  obtain ⟨thread, hthread, hprogress⟩ := hruns.thread
  obtain ⟨hidle, hdone, hreturns⟩ := hreturned.of_thread hthread
  cases hprogress with
  | preparing fresh spared prepares other => simp at hdone
  | claimed fresh added conn => cases hdone
  | attached core added conn unread => cases hdone
  | held core added registered idle attends =>
    refine iff_of_false ?_ ?_
    · intro hclosed
      exact hclosed.unregistered _ _ registered
    · rw [added, core]
      simp
  | read core added found read =>
    obtain ⟨read, hmem, hown⟩ := read
    refine iff_of_false ?_ ?_
    · intro hclosed
      exact hclosed.unread read hmem hown
    · rw [added, found]
      simp
  | leaving core added nothing unread leaves =>
    refine iff_of_true ?_ (.inr ⟨core, nothing⟩)
    cases leaves with
    | asking conn => cases hdone
    | told conn => cases hdone
    | swapping conn => cases hidle
    | removing found closed => cases hidle
    | @gone conn stage found closed unregistered =>
      refine Dismissed.failClosed
        ⟨⟨conn, found, fun _ => closed⟩, unregistered, ?_⟩ unread
      intro s hworks
      have hst := hruns.owned.others s hworks
      subst hst
      exact not_worksFor hthread
        (fun act hact => absurd hact List.not_mem_nil) hworks
  | panicked => cases hreturns

end Undisturbed

section Endpoint

variable {w w' : World} {coreType : WsCoreType} {node : ContainerID}
  {auth : WebsocketAuth} {cutoff ttl : Int}

theorem coherent_known_reach
    (hreach : Reach step Unguarded (start cutoff ttl) w) :
    Coherent w ∧ Known w :=
  hreach.invariant (fun w => Coherent w ∧ Known w)
    ⟨coherent_start cutoff ttl, known_start cutoff ttl⟩
    fun _ _ _ hinv _ hstep =>
      ⟨coherent_step hinv.1 hstep, known_step hinv.2 hstep⟩

/-- The state behind a request that opens a connection. -/
theorem admission_opens
    (hreach : Reach step Unguarded (start cutoff ttl) w)
    {hookFirst admits : Bool} (hopens : Opens w coreType node auth)
    (hstep : step w (admission coreType node auth hookFirst admits) =
      some w') :
    Coherent w' ∧
      Owned { node, auth, coreType } w' w.threads.length w.conns.length ∧
      w'.conn w.conns.length = some { node, auth, coreType } ∧
      Fresh w.conns.length w' ∧
      w'.threads[w.threads.length]? =
        some (endpoint coreType hookFirst admits w.conns.length) := by
  obtain ⟨hcoherent, hknown⟩ := coherent_known_reach hreach
  have hafter := coherent_step hcoherent hstep
  rw [step_admission hookFirst admits hopens] at hstep
  cases hstep
  have hnew : ∀ d, (∃ conn, w.conn d = some conn) → d ≠ w.conns.length := by
    rintro d ⟨conn, hconn⟩
    exact (lt_of_conn hconn).ne
  have hconn : (openConn w { node, auth, coreType }
      (endpoint coreType hookFirst admits)).conn w.conns.length =
        some { node, auth, coreType } := List.getElem?_concat_length
  refine ⟨hafter, ⟨⟨_, hconn, .refl _⟩, ?_⟩, hconn, ⟨?_, ?_⟩,
    List.getElem?_concat_length⟩
  · rintro s ⟨thread, hthread, act, hact, howner⟩
    rcases getElem?_concat_cases hthread with hold | ⟨hlast, -⟩
    · have hworks : w.WorksFor s w.conns.length :=
        ⟨thread, hold, act, hact, howner⟩
      exact absurd rfl (hnew _ (hknown.works s _ hworks))
    · exact hlast
  · intro node' auth' hregistered
    obtain ⟨conn, hconn, -⟩ := hcoherent.registered hregistered
    exact hnew _ ⟨conn, hconn⟩ rfl
  · intro read hread
    exact hnew _ (hknown.consumed read hread)

/-- A connection whose hook refuses it is fail-closed, in any interleaving, if
the hook is asked first or the upsert fails.  Otherwise, among threads that
leave the connection alone, it is so exactly on a WebSocket whose read of the
pending messages finds nothing. -/
theorem refused_failClosed_iff
    (hreach : Reach step Unguarded (start cutoff ttl) w)
    (hookFirst : Bool) (hopens : Opens w coreType node auth)
    (hstep : step w (admission coreType node auth hookFirst false) =
      some w') :
    (hookFirst = true → ∀ later, Reach step Unguarded w' later →
      Returned later w.threads.length → FailClosed later w.conns.length) ∧
    ∀ addRowOk readsNone later,
      Reach step (Undisturbed { node, auth, coreType } w.threads.length
        w.conns.length addRowOk readsNone) w' later →
      Returned later w.threads.length →
      (FailClosed later w.conns.length ↔
        hookFirst = true ∨ addRowOk = false ∨
          coreType = .gobwas ∧ readsNone = true) := by
  obtain ⟨hcoherent, howned, hconn, hfresh, hthread⟩ :=
    admission_opens hreach hopens hstep
  have hfirst : hookFirst = true → ∀ later, Reach step Unguarded w' later →
      Returned later w.threads.length →
      FailClosed later w.conns.length := by
    rintro rfl later hlater hreturned
    have hrefused := hlater.invariant
      (Refused { node, auth, coreType } · w.threads.length w.conns.length)
      ⟨howned, hfresh.unregistered, hfresh.unread, _, hthread, .inl rfl⟩
      fun _ _ _ hrefused _ => refused_step hrefused
    exact hrefused.failClosed hreturned
  refine ⟨hfirst, ?_⟩
  intro addRowOk readsNone later hlater hreturned
  cases hookFirst with
  | true =>
    have hunguarded := hlater.mono (fun _ _ _ => trivial)
    exact iff_of_true (hfirst rfl later hunguarded hreturned) (.inl rfl)
  | false =>
    have hinv := hlater.invariant
      (fun later =>
        Runs { node, auth, coreType } w.threads.length w.conns.length
          addRowOk readsNone later ∨
        addRowOk = false ∧ Refused { node, auth, coreType } later
          w.threads.length w.conns.length)
      (.inl ⟨hcoherent, howned, _, hthread, ?_⟩) ?_
    · rcases hinv with hruns | ⟨hfailed, hrefused⟩
      · rw [hruns.failClosed_iff hreturned]
        simp
      · exact iff_of_true (hrefused.failClosed hreturned)
          (.inr (.inl hfailed))
    · have hprogress := @Progress.preparing { node, auth, coreType }
        w.conns.length addRowOk readsNone w' none
        [.closeDuplicate w.conns.length, .readRow w.conns.length] hfresh
        (fun _ => hconn) (by simp [Act.prepares]) (by simp)
      cases coreType <;> exact hprogress
    · rintro state label next (hruns | ⟨hfailed, hrefused⟩) hallowed hnext
      · exact runs_step rfl hruns hallowed hnext
      · exact .inr ⟨hfailed, refused_step hrefused hnext⟩

/-- A container that has just taken a request whose hook will refuse it. -/
def refusing (coreType : WsCoreType) (hookFirst : Bool) : World :=
  openConn (start 60 120) { node := 0, auth := alice, coreType }
    (endpoint coreType hookFirst false)

/-- Another container accepts the same session while the first one refuses
it. -/
def crowdedRun : List Label :=
  .accept 1 alice false true ::
    (List.replicate 6 [.exec 0 true, .exec 1 true]).flatten ++
    List.replicate 6 (.exec 0 true)

theorem refused_nothingPending :
    FailClosed (final step (refusing .longPolling true) [.exec 0 true]) 0 ∧
      FailClosed (final step (refusing .gobwas false) crowdedRun) 0 := by
  have hopens : ∀ coreType, Opens (start 60 120) coreType 0 alice :=
    fun _ _ => by decide +kernel
  constructor
  · exact (refused_failClosed_iff .refl true (hopens _)
      (step_admission true false (hopens _))).1 rfl _
      (reach_final (by decide +kernel) (by decide +kernel))
      (by decide +kernel)
  · exact ((refused_failClosed_iff .refl false (hopens _)
      (step_admission false false (hopens _))).2 true true _
      (reach_final (by decide +kernel) (by decide +kernel))
      (by decide +kernel)).mpr (.inr (.inr ⟨rfl, rfl⟩))

/-- The peer hangs up between the upsert and the registration. -/
def hungUpRun : List Label :=
  List.replicate 3 (.exec 0 true) ++ .close 0 ::
    List.replicate 5 (.exec 1 true) ++ List.replicate 5 (.exec 0 true)

-- The closed connection is registered for good: its `Close` is over.
example :
    let w := final step (refusing .gobwas false) hungUpRun
    Returned w 0 ∧ w.consumed = [] ∧ w.registered 0 alice = some 0 := by
  decide +kernel

/-- A message is pending and the hook, asked last, refuses the poll. -/
def refusedPollRun : List Label :=
  .save ⟨sessionKey alice, 1, [7], 100⟩ :: .poll 0 alice false false ::
    List.replicate 8 (.exec 0 true)

/-- The refused connection stays registered, has consumed the message and
serves the next poll without a new call of the hook. -/
theorem refused_poll_served :
    let w := final step (start 60 120) refusedPollRun
    Returned w 0 ∧ w.registered 0 alice = some 0 ∧
      w.consumed.map Prod.fst = [0] ∧ w.pending = [] ∧ w.served = [] ∧
      (final step w [.poll 0 alice false false]).served = [0] ∧
      ¬ FailClosed w 0 := by
  refine ⟨by decide +kernel, by decide +kernel, by decide +kernel,
    by decide +kernel, by decide +kernel, by decide +kernel, ?_⟩
  intro hclosed
  exact hclosed.unregistered 0 alice (by decide +kernel)

end Endpoint

end Cluster

end Pipewave
