/-
Admission of a new connection.  Both endpoints run the application's hook and
the new-connection callback in the order of a map; a connection that is
refused before it is registered leaves nothing behind.
-/
import Pipewave.ClusterWork

namespace Pipewave

namespace Cluster

open Transition

/-- The request by which a transport opens a connection. -/
def admission (coreType : WsCoreType) (node : ContainerID)
    (auth : WebsocketAuth) (hookFirst admits : Bool) : Label :=
  match coreType with
  | .gobwas => .accept node auth hookFirst admits
  | .longPolling => .poll node auth hookFirst admits

/-- A poll opens a connection only where none is registered. -/
def Opens (w : World) (coreType : WsCoreType) (node : ContainerID)
    (auth : WebsocketAuth) : Prop :=
  coreType = .longPolling → w.registered node auth = none

/-- The thread of an endpoint that opens a connection. -/
def endpoint (coreType : WsCoreType) (hookFirst admits : Bool) (c : ConnID) :
    Thread :=
  match coreType with
  | .gobwas => { todo := onNewStuff c hookFirst admits, onErr := [.close c] }
  | .longPolling => { todo := onNewStuff c hookFirst admits ++ [.serve c] }

theorem step_admission {w : World} {coreType : WsCoreType} {node : ContainerID}
    {auth : WebsocketAuth} (hookFirst admits : Bool)
    (hopens : Opens w coreType node auth) :
    step w (admission coreType node auth hookFirst admits) =
      some (openConn w { node, auth, coreType }
        (endpoint coreType hookFirst admits)) := by
  cases coreType with
  | gobwas => rfl
  | longPolling =>
    simp only [admission, step, hopens rfl]
    rfl

/-- The thread has run to its end, and not by a panic. -/
def Returned (w : World) (t : Nat) : Prop :=
  ∃ thread ∈ w.threads[t]?, thread.closing = none ∧ thread.todo = [] ∧
    thread.panicked = false

instance (w : World) (t : Nat) : Decidable (Returned w t) :=
  inferInstanceAs (Decidable (∃ thread ∈ w.threads[t]?, _))

theorem Returned.of_thread {w : World} {t : Nat} {thread : Thread}
    (hreturned : Returned w t) (hthread : w.threads[t]? = some thread) :
    thread.closing = none ∧ thread.todo = [] ∧ thread.panicked = false := by
  obtain ⟨returned, hmem, hends⟩ := hreturned
  rw [hthread] at hmem
  cases hmem
  exact hends

/-- The connection is in no registry, no pending message was read for it, and
no request is ever served on it again. -/
structure FailClosed (w : World) (c : ConnID) : Prop where
  unregistered : ∀ node auth, w.registered node auth ≠ some c
  unread : ∀ read ∈ w.consumed, read.1 ≠ c
  unserved : ∀ later, Reach step Unguarded w later →
    later.served.count c = w.served.count c

section Dismissed

variable {w w' : World} {label : Label} {c : ConnID}

/-- A connection that no thread and no registry leads to. -/
structure Dismissed (w : World) (c : ConnID) : Prop where
  conn : ∃ conn, w.conn c = some conn ∧
    (conn.coreType = .gobwas → conn.closed = true)
  unregistered : ∀ node auth, w.registered node auth ≠ some c
  free : ∀ s, ¬ w.WorksFor s c

theorem Dismissed.idle (hdismissed : Dismissed w c) : Idle w c :=
  fun s _ hnext howner =>
    hdismissed.free s (worksFor_of_nextAct hnext howner)

theorem dismissed_step (hdismissed : Dismissed w c)
    (hstep : step w label = some w') : Dismissed w' c := by
  obtain ⟨conn, hconn, hclosed⟩ := hdismissed.conn
  refine ⟨?_, unregistered_step hdismissed.idle hdismissed.unregistered hstep,
    ?_⟩
  · obtain ⟨conn', hconn', hkeeps⟩ := conn_step hstep hconn
    refine ⟨conn', hconn', ?_⟩
    intro hcore
    exact hkeeps.closed (hclosed (hkeeps.coreType ▸ hcore))
  · intro s hworks
    rcases worksFor_step hstep hworks with hold | ⟨hnew, -⟩
    · exact hdismissed.free s hold
    · exact absurd hnew (lt_of_conn hconn).ne

theorem Dismissed.served_step (hdismissed : Dismissed w c)
    (hstep : step w label = some w') :
    w'.served.count c = w.served.count c := by
  obtain ⟨conn, hconn, hclosed⟩ := hdismissed.conn
  rcases Cluster.served_step hstep with hsame | ⟨d, hserved, hway⟩
  · rw [hsame]
  · rw [hserved, List.count_cons_of_ne]
    rintro rfl
    rcases hway with ⟨node, auth, hregistered⟩ | ⟨conn', hconn', hcore, hopen⟩ |
      ⟨s, hnext⟩
    · exact hdismissed.unregistered node auth hregistered
    · rw [hconn] at hconn'
      cases hconn'
      rw [hclosed hcore] at hopen
      cases hopen
    · exact hdismissed.idle s _ hnext rfl

theorem Dismissed.failClosed (hdismissed : Dismissed w c)
    (hunread : ∀ read ∈ w.consumed, read.1 ≠ c) : FailClosed w c := by
  refine ⟨hdismissed.unregistered, hunread, ?_⟩
  intro later hreach
  have hinv := hreach.invariant
    (fun later => Dismissed later c ∧
      later.served.count c = w.served.count c)
    ⟨hdismissed, rfl⟩
    (fun state label next hinv _ hstep => ⟨dismissed_step hinv.1 hstep,
      (hinv.1.served_step hstep).trans hinv.2⟩)
  exact hinv.2

end Dismissed

section Refused

variable {w w' : World} {label : Label} {base : Conn} {t : Nat} {c : ConnID}

/-- The connection is closed, or the thread is about to close it. -/
def Closes (w : World) (c : ConnID) (thread : Thread) : Prop :=
  (∃ conn, w.conn c = some conn ∧ conn.closed = true) ∨
    thread.nextAct = some (.close c) ∨ thread.closing = some (c, .swap)

/-- The endpoint has not asked its hook yet, or it has given the connection
up. -/
def GivesUp (base : Conn) (w : World) (c : ConnID) (thread : Thread) : Prop :=
  thread = endpoint base.coreType true false c ∨
    (∀ act ∈ thread.acts, act.owner ≠ some c) ∧
      (base.coreType = .gobwas → Closes w c thread)

/-- The endpoint never got, and will not get, to registering its
connection. -/
structure Refused (base : Conn) (w : World) (t : Nat) (c : ConnID) :
    Prop where
  owned : Owned base w t c
  unregistered : ∀ node auth, w.registered node auth ≠ some c
  unread : ∀ read ∈ w.consumed, read.1 ≠ c
  thread : ∃ thread, w.threads[t]? = some thread ∧ GivesUp base w c thread

theorem nextAct_endpoint (coreType : WsCoreType) (admits : Bool) (c : ConnID) :
    (endpoint coreType true admits c).nextAct = some (.hook admits) := by
  cases coreType <;> rfl

theorem Refused.idle (hrefused : Refused base w t c) : Idle w c := by
  intro s act hnext howner
  have hworks := worksFor_of_nextAct hnext howner
  have hst := hrefused.owned.others s hworks
  subst hst
  obtain ⟨thread, hthread, hgives⟩ := hrefused.thread
  rcases hgives with rfl | ⟨hfree, -⟩
  · rw [World.nextAct, hthread, Option.bind_some, nextAct_endpoint] at hnext
    cases hnext
    cases howner
  · exact not_worksFor hthread hfree hworks

theorem Closes.threadCase {next : World} {thread thread' : Thread} {ok : Bool}
    {conn : Conn} (hcloses : Closes w c thread) (hconn : w.conn c = some conn)
    (hcase : ThreadCase w thread ok next thread') : Closes next c thread' := by
  cases hcase with
  | @orphan d stage closing gone =>
    rcases hcloses with hclosed | hnext | hswap
    · exact .inl hclosed
    · simp [Thread.nextAct, closing] at hnext
    · rw [closing] at hswap
      cases hswap
      rw [hconn] at gone
      cases gone
  | @closing d closed stage closing known =>
    refine .inl ?_
    have hafter := @conn_closeStep w d c closed ok stage known
    rcases hcloses with ⟨conn', hconn', hclosed⟩ | hnext | hswap
    · by_cases hhit : stage = .swap ∧ closed.closed = false ∧ c = d
      · rw [if_pos hhit] at hafter
        exact ⟨_, hafter, rfl⟩
      · rw [if_neg hhit] at hafter
        exact ⟨conn', hafter.trans hconn', hclosed⟩
    · simp [Thread.nextAct, closing] at hnext
    · rw [closing] at hswap
      cases hswap
      cases hopen : closed.closed with
      | false =>
        rw [if_pos ⟨rfl, hopen, rfl⟩] at hafter
        exact ⟨_, hafter, rfl⟩
      | true =>
        rw [if_neg (by simp [hopen])] at hafter
        exact ⟨closed, hafter.trans known, hopen⟩
  | @act act rest closing todo =>
    rcases hcloses with ⟨conn', hconn', hclosed⟩ | hnext | hswap
    · refine .inl ⟨conn', ?_, hclosed⟩
      rw [World.conn, exec_conns]
      exact hconn'
    · obtain ⟨-, rest', htodo⟩ := Thread.nextAct_eq_some.mp hnext
      cases todo.symm.trans htodo
      refine .inr (.inr ?_)
      simp only [exec, hconn, execConn, afterAct]
    · rw [closing] at hswap
      cases hswap

theorem givesUp_onErr (base : Conn) (w : World) (c : ConnID)
    (hookFirst admits : Bool) : GivesUp base w c
      { todo := (endpoint base.coreType hookFirst admits c).onErr } := by
  refine .inr ?_
  cases base.coreType with
  | gobwas =>
    refine ⟨?_, fun _ => .inr (.inl rfl)⟩
    intro act hact
    rw [List.mem_singleton.mp hact]
    exact (Option.some_ne_none c).symm
  | longPolling =>
    exact ⟨fun act hact => absurd hact List.not_mem_nil,
      WsCoreType.noConfusion⟩

theorem GivesUp.threadCase {next : World} {thread thread' : Thread}
    {ok : Bool} {conn : Conn} (hgives : GivesUp base w c thread)
    (hconn : w.conn c = some conn)
    (hcase : ThreadCase w thread ok next thread') :
    GivesUp base next c thread' := by
  rcases hgives with rfl | ⟨hfree, hcloses⟩
  · have hidle : (endpoint base.coreType true false c).closing = none := by
      cases base.coreType <;> rfl
    have hasks : (endpoint base.coreType true false c).todo.head? =
        some (.hook false) := by
      cases base.coreType <;> rfl
    obtain ⟨act, rest, htodo, rfl, rfl⟩ := hcase.of_idle hidle
    rw [htodo] at hasks
    cases hasks
    exact givesUp_onErr base w c true false
  · refine .inr ⟨?_, fun hcore => (hcloses hcore).threadCase hconn hcase⟩
    cases hcase with
    | orphan closing gone => exact hfree
    | closing closing known => exact hfree
    | @act act rest closing todo =>
      intro later hlater
      rcases mem_acts_afterAct hlater with hpush | hrest | herr
      · rw [exec_push w act ok later hpush]
        exact (Option.some_ne_none c).symm
      · exact hfree later (List.mem_append_left _
          (todo ▸ List.mem_cons_of_mem _ hrest))
      · exact hfree later (List.mem_append_right _ herr)

theorem refused_step (hrefused : Refused base w t c)
    (hstep : step w label = some w') : Refused base w' t c := by
  refine ⟨owned_step hrefused.owned hstep,
    unregistered_step hrefused.idle hrefused.unregistered hstep,
    unread_step hrefused.idle hrefused.unread hstep, ?_⟩
  obtain ⟨conn, hconn, -⟩ := hrefused.owned.conn
  obtain ⟨thread, hthread, hgives⟩ := hrefused.thread
  rcases thread_step hstep hthread with ⟨ok, rfl⟩ | hkept
  · obtain ⟨thread0, next, thread', hrunning, hcase, rfl⟩ := step_exec hstep
    rw [hthread] at hrunning
    cases hrunning
    have hafter : GivesUp base next c thread' := hgives.threadCase hconn hcase
    exact ⟨thread', List.getElem?_set_self
      (List.getElem?_eq_some_iff.mp hthread).1, hafter⟩
  · refine ⟨thread, hkept, ?_⟩
    rcases hgives with hasks | ⟨hfree, hcloses⟩
    · exact .inl hasks
    · refine .inr ⟨hfree, fun hcore => ?_⟩
      rcases hcloses hcore with ⟨conn0, hconn0, hclosed⟩ | hlater
      · obtain ⟨conn', hconn', hkeeps⟩ := conn_step hstep hconn0
        exact .inl ⟨conn', hconn', hkeeps.closed hclosed⟩
      · exact .inr hlater

theorem Refused.failClosed (hrefused : Refused base w t c)
    (hreturned : Returned w t) : FailClosed w c := by
  obtain ⟨conn, hconn, hkeeps⟩ := hrefused.owned.conn
  obtain ⟨thread, hthread, hgives⟩ := hrefused.thread
  obtain ⟨hidle, hdone, -⟩ := hreturned.of_thread hthread
  have hnext : thread.nextAct = none := by
    simp [Thread.nextAct, hdone]
  rcases hgives with rfl | ⟨hfree, hcloses⟩
  · rw [nextAct_endpoint] at hnext
    cases hnext
  · refine Dismissed.failClosed ⟨⟨conn, hconn, ?_⟩, hrefused.unregistered, ?_⟩
      hrefused.unread
    · intro hcore
      rcases hcloses (hkeeps.coreType ▸ hcore) with
        ⟨conn', hconn', hclosed⟩ | hclose | hswap
      · rw [hconn] at hconn'
        cases hconn'
        exact hclosed
      · rw [hnext] at hclose
        cases hclose
      · rw [hidle] at hswap
        cases hswap
    · intro s hworks
      have hst := hrefused.owned.others s hworks
      subst hst
      exact not_worksFor hthread hfree hworks

end Refused

end Cluster

end Pipewave
