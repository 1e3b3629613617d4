/-
Whether accepting a connection can panic.  The new-connection callback runs
its acts in surroundings that are free to change between any two of them, so
that every registry and every row may be what it meets; it always comes to an
end, by a return or by the panic of a helper that rebuilds the auth value.
-/
import Pipewave.ClusterWork

namespace Pipewave

namespace Cluster

open Transition

/-- What a step of a thread meets: the world at that moment, and whether the
store or bus operation it makes succeeds. -/
abbrev Moment := World × Bool

/-- One step of a thread, or none when it has ended. -/
def Thread.advance (thread : Thread) (moment : Moment) : Thread :=
  ((stepThread moment.1 thread moment.2).map Prod.snd).getD thread

/-- The new-connection callback behind its first steps. -/
def callback (c : ConnID) (moments : Nat → Moment) : Nat → Thread :=
  drive Thread.advance { todo := newConnection c } moments

def Thread.Ended (thread : Thread) : Prop :=
  thread.closing = none ∧ thread.todo = []

/-- The callback returns, with or without an error. -/
def CallbackReturns (c : ConnID) (moments : Nat → Moment) : Prop :=
  ∃ n, (callback c moments n).Ended ∧ (callback c moments n).panicked = false

/-- The connection has been accepted under an auth value. -/
def AcceptedUnder (c : ConnID) (auth : WebsocketAuth)
    (moments : Nat → Moment) : Prop :=
  ∀ n, ∃ conn, (moments n).1.conn c = some conn ∧ conn.auth = auth

/-- The auth value comes from one of the constructors. -/
def Constructed (auth : WebsocketAuth) : Prop :=
  (∃ userID instanceID, userWebsocketAuth userID instanceID = some auth) ∨
    ∃ instanceID, anonymousUserWebsocketAuth instanceID = some auth

/-- The thread reads the row of its session at this moment and is given one
that says connected. -/
def ReadsConnected (c : ConnID) (auth : WebsocketAuth) (thread : Thread)
    (moment : Moment) : Prop :=
  thread.nextAct = some (.readRow c) ∧ moment.2 = true ∧
    (moment.1.visibleRow auth).map (·.status) = some .connected

variable {w : World} {thread : Thread}

/-- A step of a thread in the system is a step in the world it finds. -/
theorem threads_exec {w' : World} {t : Nat} {ok : Bool}
    (hthread : w.threads[t]? = some thread)
    (hstep : step w (.exec t ok) = some w') :
    w'.threads[t]? = some (thread.advance (w, ok)) := by
  simp only [step, hthread] at hstep
  obtain ⟨⟨next, thread'⟩, hnext, rfl⟩ := Option.map_eq_some_iff.mp hstep
  have hlt : t < w.threads.length := by
    rw [List.getElem?_eq_some_iff] at hthread
    exact hthread.1
  have hthreads := (stepThread_cases hnext).threads
  simp [Thread.advance, hnext, hthreads, hlt]

/-- Whatever the other threads do in a run, a thread of it is driven by the
moments at which it is scheduled. -/
theorem drive_of_reach {w' : World} {t : Nat}
    (hthread : w.threads[t]? = some thread)
    (hreach : Reach step Unguarded w w') :
    ∃ moments n,
      w'.threads[t]? = some (drive Thread.advance thread moments n) := by
  induction hreach with
  | refl => exact ⟨fun _ => (w, true), 0, hthread⟩
  | @tail state next label _ _ hstep ih =>
    obtain ⟨moments, n, hdriven⟩ := ih
    rcases thread_step hstep hdriven with ⟨ok, rfl⟩ | hsame
    · -- The moments so far, and then the one of this step.
      let extended : Nat → Moment := fun m =>
        if m < n then moments m else (state, ok)
      refine ⟨extended, n + 1, ?_⟩
      have hbefore : drive Thread.advance thread extended n =
          drive Thread.advance thread moments n :=
        drive_congr fun m hm => if_pos hm
      have hlast : extended n = (state, ok) := if_neg (Nat.lt_irrefl n)
      rw [threads_exec hdriven hstep, drive, hbefore, hlast]
    · exact ⟨moments, n, hsame⟩

/-! ### The callback comes to an end -/

/-- How many steps a `Close` has left at most. -/
def CloseStage.rank : CloseStage → Nat
  | .swap => 5
  | .removeConnection => 4
  | .persist => 3
  | .updateStatus => 2
  | .removeRow | .register => 1

/-- How many steps an act leads to at most, except for the messages that
`getAll` reads. -/
def Act.rank : Act → Nat
  | .readRow _ => 8
  | .disconnectSession _ _ => 7
  | .closeDuplicate _ | .disconnectLocal _ _ | .sendDirect _ _ | .close _ => 6
  | .disconnectRemote _ | .resumeSession _ _ _ => 2
  | _ => 1

def Act.isGetAll : Act → Bool
  | .getAll _ => true
  | _ => false

def closingRank (closing : Option (ConnID × CloseStage)) : Nat :=
  closing.elim 0 fun place => place.2.rank

def actsRank (acts : List Act) : Nat := (acts.map Act.rank).sum

/-- Reading the pending messages outweighs everything that follows it. -/
def Thread.rank (thread : Thread) : Nat × Nat :=
  (thread.acts.countP Act.isGetAll,
    closingRank thread.closing + actsRank thread.acts)

theorem Act.rank_pos (act : Act) : 0 < act.rank := by
  cases act <;> simp [Act.rank]

theorem CloseStage.rank_pos (stage : CloseStage) : 0 < stage.rank := by
  cases stage <;> simp [CloseStage.rank]

@[simp] theorem closingRank_none : closingRank none = 0 := rfl

@[simp] theorem closingRank_some (c : ConnID) (stage : CloseStage) :
    closingRank (some (c, stage)) = stage.rank := rfl

/-- Closing whatever connection is registered. -/
theorem closingRank_swap (found : Option ConnID) :
    closingRank (found.map (·, .swap)) < 6 := by
  cases found <;> simp [CloseStage.rank]

@[simp] theorem actsRank_nil : actsRank [] = 0 := rfl

@[simp] theorem actsRank_cons (act : Act) (rest : List Act) :
    actsRank (act :: rest) = act.rank + actsRank rest := by
  simp [actsRank]

@[simp] theorem actsRank_append (acts rest : List Act) :
    actsRank (acts ++ rest) = actsRank acts + actsRank rest := by
  simp [actsRank]

theorem closingRank_closeStep (w : World) (c : ConnID) (conn : Conn)
    (ok : Bool) (stage : CloseStage) :
    closingRank ((closeStep w c conn ok stage).2.map (c, ·)) < stage.rank := by
  cases stage <;> simp only [closeStep] <;> (repeat' split) <;>
    simp [CloseStage.rank]

theorem countP_push (w : World) (act : Act) (ok : Bool) :
    (exec w act ok).push.countP Act.isGetAll = 0 := by
  rw [List.countP_eq_zero]
  intro pushed hpushed
  have hunowned := exec_push w act ok pushed hpushed
  cases pushed <;> simp_all [Act.owner, Act.isGetAll]

/-- What an act leaves to be done takes fewer steps than the act was ranked
at. -/
theorem rank_exec (w : World) {act : Act} (ok : Bool)
    (hact : act.isGetAll = false) :
    actsRank (exec w act ok).push + closingRank (exec w act ok).closing <
      act.rank := by
  cases act with
  | getAll c => cases hact
  | _ =>
    simp only [exec, execConn, onRow]
    (repeat' split) <;>
      simp [Act.rank, CloseStage.rank, closingRank_swap]

theorem stepThread_eq_none_iff {ok : Bool} :
    stepThread w thread ok = none ↔ thread.Ended := by
  rw [stepThread, Thread.Ended]
  cases thread.closing with
  | none => cases thread.todo <;> simp
  | some place => cases hconn : w.conn place.1 <;> simp [hconn]

theorem Thread.Ended.advance (hended : thread.Ended) (moment : Moment) :
    thread.advance moment = thread := by
  rw [Thread.advance, stepThread_eq_none_iff.mpr hended]
  rfl

/-- The step of a thread that has not ended. -/
theorem threadCase_advance (hrunning : ¬ thread.Ended) (moment : Moment) :
    ∃ next, ThreadCase moment.1 thread moment.2 next
      (thread.advance moment) := by
  cases hstep : stepThread moment.1 thread moment.2 with
  | none => exact absurd (stepThread_eq_none_iff.mp hstep) hrunning
  | some result =>
    have hcase := stepThread_cases hstep
    rw [Thread.advance, hstep]
    exact ⟨result.1, hcase⟩

theorem lex_of_le_of_lt {a a' b b' : Nat} (hfirst : a' ≤ a)
    (hsecond : b' < b) : Prod.Lex (· < ·) (· < ·) (a', b') (a, b) := by
  rcases Nat.lt_or_eq_of_le hfirst with hlt | rfl
  · exact .left _ _ hlt
  · exact .right _ hsecond

theorem rank_afterAct (w : World) {act : Act} {rest : List Act} (ok : Bool)
    (hclosing : thread.closing = none) (htodo : thread.todo = act :: rest) :
    Prod.Lex (· < ·) (· < ·) (afterAct thread rest (exec w act ok)).rank
      thread.rank := by
  have hpos := act.rank_pos
  have hpush := countP_push w act ok
  cases hverdict : (exec w act ok).verdict with
  | done =>
    cases hact : act.isGetAll with
    | true =>
      apply Prod.Lex.left
      simp only [afterAct, hverdict, Thread.acts, htodo, hact, hpush,
        List.countP_append, List.countP_cons, ↓reduceIte]
      omega
    | false =>
      have hrank := rank_exec w ok hact
      apply lex_of_le_of_lt <;>
        simp only [afterAct, hverdict, Thread.acts, htodo, hclosing,
          hpush, List.countP_append, List.countP_cons, actsRank_append,
          actsRank_cons, closingRank_none]
      · omega
      · omega
  | failed | panicked =>
    apply lex_of_le_of_lt <;>
      simp only [afterAct, hverdict, Thread.acts, htodo, hclosing,
        List.countP_append, actsRank_append, actsRank_cons, actsRank_nil,
        List.countP_nil, closingRank_none]
    · omega
    · omega

theorem rank_advance (thread : Thread) (moment : Moment)
    (hrunning : ¬ thread.Ended) :
    Prod.Lex (· < ·) (· < ·) (thread.advance moment).rank thread.rank := by
  obtain ⟨next, hcase⟩ := threadCase_advance hrunning moment
  generalize thread.advance moment = thread' at hcase
  cases hcase with
  | @orphan c stage closing gone =>
    have hpos := stage.rank_pos
    apply Prod.Lex.right
    simp only [closing, closingRank_some, closingRank_none, Thread.acts]
    omega
  | @closing c conn stage closing known =>
    have hdrop := closingRank_closeStep moment.1 c conn moment.2 stage
    apply Prod.Lex.right
    simp only [closing, closingRank_some, Thread.acts]
    omega
  | act closing todo => exact rank_afterAct moment.1 moment.2 closing todo

/-- The callback ends, whatever it meets. -/
theorem callback_ends (c : ConnID) (moments : Nat → Moment) :
    ∃ n, (callback c moments n).Ended :=
  exists_drive_rests (Prod.lex Nat.lt_wfRel Nat.lt_wfRel).wf Thread.rank
    Thread.Ended rank_advance _ moments

/-! ### When it panics -/

/-- The act reads the row of the given connection only, and closes sessions
only under ids that are not empty. -/
def Act.Harmless (c : ConnID) : Act → Prop
  | .readRow d => d = c
  | .disconnectSession _ auth | .disconnectLocal _ auth =>
    auth.userID ≠ [] ∧ auth.instanceID ≠ []
  | _ => True

structure Thread.Calm (c : ConnID) (thread : Thread) : Prop where
  acts : ∀ act ∈ thread.acts, act.Harmless c
  quiet : thread.panicked = false

section Calm

variable {w : World} {c : ConnID} {conn : Conn} {act : Act} {ok : Bool}

/-- Closing the old session of a row that says connected is the one place
where the ids of the connection are used. -/
theorem harmless_onRow {row : Option ActiveConnection}
    (hnamed : row.map (·.status) = some .connected →
      conn.auth.userID ≠ [] ∧ conn.auth.instanceID ≠ []) :
    ∀ pushed ∈ onRow conn row, pushed.Harmless c := by
  intro pushed hpushed
  cases row with
  | none => cases hpushed
  | some row =>
    cases hstatus : row.status with
    | connected =>
      simp only [onRow, hstatus, List.mem_singleton] at hpushed
      rw [hpushed]
      exact hnamed (congrArg some hstatus)
    | tempDisconnected =>
      simp only [onRow, hstatus, List.mem_singleton] at hpushed
      rw [hpushed]
      trivial
    | transferring => simp [onRow, hstatus] at hpushed

theorem exec_calm (hconn : w.conn c = some conn)
    (hact : act.Harmless c)
    (hnamed : act = .readRow c → ok = true →
      (w.visibleRow conn.auth).map (·.status) = some .connected →
        conn.auth.userID ≠ [] ∧ conn.auth.instanceID ≠ []) :
    (exec w act ok).verdict ≠ .panicked ∧
      ∀ pushed ∈ (exec w act ok).push, pushed.Harmless c := by
  cases act with
  | readRow d =>
    cases hact
    simp only [exec, hconn, execConn]
    cases hok : ok with
    | false => simp
    | true => exact ⟨by simp, harmless_onRow (hnamed rfl hok)⟩
  | disconnectSession node auth =>
    have hauth := userWebsocketAuth_eq_some hact.1 hact.2
    simp only [exec, hauth]
    split
    · simpa [Act.Harmless] using hact
    · simp [Act.Harmless]
  | disconnectLocal node auth =>
    have hauth := userWebsocketAuth_eq_some hact.1 hact.2
    simp [exec, hauth]
  | getAll d =>
    simp only [exec, execConn]
    repeat' split
    · simp
    · simp
    · refine ⟨by simp, ?_⟩
      intro pushed hpushed
      rw [List.mem_cons, List.mem_map] at hpushed
      rcases hpushed with rfl | ⟨row, -, rfl⟩ <;> trivial
  | _ =>
    simp only [exec, execConn]
    (repeat' split) <;> simp [Act.Harmless]

variable {thread : Thread} {moment : Moment}

theorem Thread.advance_act {rest : List Act}
    (hclosing : thread.closing = none) (htodo : thread.todo = act :: rest) :
    thread.advance moment =
      afterAct thread rest (exec moment.1 act moment.2) := by
  simp [Thread.advance, stepThread, hclosing, htodo]

theorem Thread.Calm.advance (hcalm : thread.Calm c)
    (hconn : moment.1.conn c = some conn)
    (hnamed : ReadsConnected c conn.auth thread moment →
      conn.auth.userID ≠ [] ∧ conn.auth.instanceID ≠ []) :
    (thread.advance moment).Calm c := by
  by_cases hended : thread.Ended
  · rw [hended.advance]
    exact hcalm
  obtain ⟨next, hcase⟩ := threadCase_advance hended moment
  generalize thread.advance moment = thread' at hcase
  cases hcase with
  | orphan closing gone => exact ⟨hcalm.acts, hcalm.quiet⟩
  | closing closing known => exact ⟨hcalm.acts, hcalm.quiet⟩
  | @act act rest closing todo =>
    have hacts : ∀ later, later = act ∨ later ∈ rest ∨
        later ∈ thread.onErr → later.Harmless c := by
      intro later hlater
      apply hcalm.acts
      simp only [Thread.acts, todo, List.cons_append, List.mem_cons,
        List.mem_append]
      exact hlater
    obtain ⟨hverdict, hpush⟩ := exec_calm hconn
      (hacts act (.inl rfl)) fun hact hok hstatus =>
        hnamed ⟨Thread.nextAct_eq_some.mpr ⟨closing, rest, hact ▸ todo⟩,
          hok, hstatus⟩
    constructor
    · intro later hlater
      rcases mem_acts_afterAct hlater with hpushed | hold
      · exact hpush later hpushed
      · exact hacts later (.inr hold)
    · cases hresult : (exec moment.1 act moment.2).verdict with
      | done =>
        simp only [afterAct, hresult]
        exact hcalm.quiet
      | failed => simp only [afterAct, hresult]
      | panicked => exact absurd hresult hverdict

/-- The row is read, and `DisconnectSession` is called with no user. -/
theorem panicked_of_readsConnected (hconn : moment.1.conn c = some conn)
    (hanonymous : conn.auth.userID = [])
    (hreads : ReadsConnected c conn.auth thread moment) (moment' : Moment) :
    (thread.advance moment).advance moment' = { panicked := true } := by
  obtain ⟨hnext, hok, hstatus⟩ := hreads
  obtain ⟨hclosing, rest, htodo⟩ := Thread.nextAct_eq_some.mp hnext
  obtain ⟨row, hrow, hconnected⟩ := Option.map_eq_some_iff.mp hstatus
  have hfirst : thread.advance moment = { thread with
      closing := none
      todo := .disconnectSession conn.node conn.auth :: rest } := by
    rw [Thread.advance_act hclosing htodo]
    simp [exec, hconn, execConn, hok, hrow, onRow, hconnected, afterAct]
  rw [hfirst, Thread.advance_act rfl rfl]
  simp [exec, userWebsocketAuth, hanonymous, afterAct]

end Calm

section Callback

variable {c : ConnID} {auth : WebsocketAuth} {moments : Nat → Moment}

theorem Constructed.named_iff (hauth : Constructed auth) :
    (auth.userID ≠ [] ∧ auth.instanceID ≠ []) ↔ auth.isAnonymous = false := by
  rcases hauth with ⟨userID, instanceID, huser⟩ | ⟨instanceID, hanonymous⟩
  · rw [userWebsocketAuth] at huser
    split at huser
    · cases huser
    · next hnamed =>
      cases huser
      rw [not_or] at hnamed
      simp [WebsocketAuth.isAnonymous, hnamed]
  · rw [anonymousUserWebsocketAuth] at hanonymous
    split at hanonymous
    · cases hanonymous
    · cases hanonymous
      simp [WebsocketAuth.isAnonymous]

theorem calm_callback (haccepted : AcceptedUnder c auth moments)
    (hnamed : ∀ n, ReadsConnected c auth (callback c moments n) (moments n) →
      auth.userID ≠ [] ∧ auth.instanceID ≠ []) (n : Nat) :
    (callback c moments n).Calm c := by
  induction n with
  | zero =>
    constructor
    · simp [callback, drive, Thread.acts, newConnection, Act.Harmless]
    · rfl
  | succ n ih =>
    obtain ⟨conn, hconn, rfl⟩ := haccepted n
    exact ih.advance hconn (hnamed n)

theorem callback_eq_of_ended {n m : Nat} (hle : n ≤ m)
    (hended : (callback c moments n).Ended) :
    callback c moments m = callback c moments n :=
  drive_eq_of_le hle fun moment => hended.advance moment

theorem not_callbackReturns_of_panicked {k : Nat}
    (hpanicked : callback c moments k = { panicked := true }) :
    ¬ CallbackReturns c moments := by
  rintro ⟨n, hended, hquiet⟩
  have hsame : callback c moments n = callback c moments k := by
    rcases Nat.le_total k n with hle | hle
    · apply callback_eq_of_ended hle
      rw [hpanicked]
      exact ⟨rfl, rfl⟩
    · exact (callback_eq_of_ended hle hended).symm
  rw [hsame, hpanicked] at hquiet
  cases hquiet

/-- The callback returns exactly when it is not given a connected row for an
anonymous session. -/
theorem callbackReturns_iff_not_anonymous (hauth : Constructed auth)
    (haccepted : AcceptedUnder c auth moments) :
    CallbackReturns c moments ↔
      ∀ n, ReadsConnected c auth (callback c moments n) (moments n) →
        auth.isAnonymous = false := by
  constructor
  · intro hreturns k hreads
    by_contra hanonymous
    rw [Bool.not_eq_false, WebsocketAuth.isAnonymous,
      decide_eq_true_eq] at hanonymous
    obtain ⟨conn, hconn, rfl⟩ := haccepted k
    have hpanicked : callback c moments (k + 2) = { panicked := true } :=
      panicked_of_readsConnected hconn hanonymous hreads (moments (k + 1))
    exact not_callbackReturns_of_panicked hpanicked hreturns
  · intro hnamed
    obtain ⟨n, hended⟩ := callback_ends c moments
    refine ⟨n, hended, ?_⟩
    have hcalm := calm_callback haccepted
      (fun k hreads => hauth.named_iff.mpr (hnamed k hreads)) n
    exact hcalm.quiet

end Callback

/-- A session is connected in container 1 and its client has connected to
container 0 as well. -/
def reconnected (auth : WebsocketAuth) : World :=
  final step (start 60 120)
    (.accept 1 auth true true :: List.replicate 6 (.exec 0 true) ++
      [.accept 0 auth true true])

theorem callbackReturns_alice :
    Constructed alice ∧
    AcceptedUnder 1 alice (fun _ => (reconnected alice, true)) ∧
    CallbackReturns 1 fun _ => (reconnected alice, true) := by
  have hauth : Constructed alice := .inl ⟨[1], [2], rfl⟩
  have hconn : (reconnected alice).conn 1 = some ⟨0, alice, .gobwas, false⟩ :=
    by decide +kernel
  have haccepted : AcceptedUnder 1 alice fun _ => (reconnected alice, true) :=
    fun _ => ⟨_, hconn, rfl⟩
  exact ⟨hauth, haccepted,
    (callbackReturns_iff_not_anonymous hauth haccepted).mpr fun _ _ => rfl⟩

/-- An anonymous client that connects again while its first connection is
open in another container makes the callback panic. -/
theorem anonymous_reconnect_panics :
    Constructed ⟨[], [2]⟩ ∧
    Reach step Unguarded (start 60 120) (reconnected ⟨[], [2]⟩) ∧
    AcceptedUnder 1 ⟨[], [2]⟩ (fun _ => (reconnected ⟨[], [2]⟩, true)) ∧
    ¬ CallbackReturns 1 fun _ => (reconnected ⟨[], [2]⟩, true) := by
  have hconn : (reconnected ⟨[], [2]⟩).conn 1 =
      some ⟨0, ⟨[], [2]⟩, .gobwas, false⟩ := by decide +kernel
  have hpanicked : callback 1 (fun _ => (reconnected ⟨[], [2]⟩, true)) 3 =
      { panicked := true } := by decide +kernel
  exact ⟨.inr ⟨[2], rfl⟩, reach_final (by decide +kernel) (by decide +kernel),
    fun _ => ⟨_, hconn, rfl⟩, not_callbackReturns_of_panicked hpanicked⟩

end Cluster

end Pipewave
