/-
Graceful shutdown of one container.  The mediator clears the holder of the
sessions it finds in the connection table and then closes what the table holds
by then; the hub drops its registry and cancels the timers.  Requests, closes
and callbacks of every container go on between any two of these steps.
-/
import Pipewave.Registration

namespace Pipewave

namespace Shutdown

open Transition
open Cluster (World Thread Act CloseStage)

/-- Where the mediator's `Shutdown` is.  The two loops of closes are run by
the thread with the given number. -/
inductive Phase where
  | serving
  | marked
  | closingAnonymous (t : Nat)
  | transferring (todo : List WebsocketAuth)
  | closingAuthenticated (t : Nat)
  | done
deriving Repr, DecidableEq

/-- Where the hub's `Shutdown` is. -/
inductive HubPhase where
  | serving
  | cancelling (todo : List Nat)
  | done
deriving Repr, DecidableEq

structure State where
  world : World
  phase : Phase := .serving
  hubPhase : HubPhase := .serving

inductive Label where
  /-- Anything that is not part of the shutdown. -/
  | cluster (label : Cluster.Label)
  /-- The signal is set and the acknowledgements are dropped. -/
  | markShuttingDown
  | closeAllAnonymousConnections
  /-- `shutdownAuthenticatedConnections` takes its list. -/
  | shutdownAuthenticatedConnections
  | transitionConnectionToTransferring (ok : Bool)
  | closeAllAuthenticatedConnections
  | finish
  /-- The lock section of the hub's `Shutdown`, behind its grace period. -/
  | resetHub
  | cancelTimer
  | finishHub
deriving Repr, DecidableEq

def idle (thread : Thread) : Bool :=
  thread.closing.isNone && thread.todo.isEmpty

/-- The thread has made all its closes. -/
def State.finished (s : State) (t : Nat) : Bool :=
  s.world.threads[t]?.all idle

/-- The sessions of the connections that a container has in its table. -/
def authenticated (w : World) (node : ContainerID) : List WebsocketAuth :=
  (w.nodes node).connections.getAllAuthenticatedConn.filterMap fun c =>
    (w.conn c).map Cluster.Conn.auth

/-- A loop that closes connections one after the other. -/
def closeAll (w : World) (conns : List ConnID) : World :=
  w.spawn { todo := conns.map .close }

/-- The steps around the shutdown of one container.  The two cleanup tasks
have the same priority, so either may come first, but not both at a time. -/
def step (node : ContainerID) (s : State) : Label → Option State
  | .cluster label =>
    (Cluster.step s.world label).map fun w => { s with world := w }
  | .markShuttingDown =>
    if s.phase = .serving ∧ (s.hubPhase = .serving ∨ s.hubPhase = .done) then
      (Cluster.step s.world (.markShuttingDown node)).map fun w =>
        { s with world := w, phase := .marked }
    else none
  | .closeAllAnonymousConnections =>
    if s.phase = .marked then
      some { s with
        world := closeAll s.world
          (s.world.nodes node).connections.getAllAnonymousConn
        phase := .closingAnonymous s.world.threads.length }
    else none
  | .shutdownAuthenticatedConnections =>
    match s.phase with
    | .closingAnonymous t =>
      if s.finished t then
        some { s with phase := .transferring (authenticated s.world node) }
      else none
    | _ => none
  | .transitionConnectionToTransferring ok =>
    match s.phase with
    | .transferring (auth :: rest) =>
      some { s with
        world := if ok then { s.world with
            rows := s.world.rows.updateStatusTransferring auth }
          else s.world
        phase := .transferring rest }
    | _ => none
  | .closeAllAuthenticatedConnections =>
    if s.phase = .transferring [] then
      some { s with
        world := closeAll s.world
          (s.world.nodes node).connections.getAllAuthenticatedConn
        phase := .closingAuthenticated s.world.threads.length }
    else none
  | .finish =>
    match s.phase with
    | .closingAuthenticated t =>
      if s.finished t then some { s with phase := .done } else none
    | _ => none
  | .resetHub =>
    if s.hubPhase = .serving ∧ (s.phase = .serving ∨ s.phase = .done) then
      let hub := (s.world.nodes node).hub
      some { s with
        world := s.world.setHub node hub.reset
        hubPhase := .cancelling hub.collect }
    else none
  | .cancelTimer =>
    match s.hubPhase with
    | .cancelling (i :: rest) =>
      some { s with
        world := s.world.setHub node ((s.world.nodes node).hub.cancel i)
        hubPhase := .cancelling rest }
    | _ => none
  | .finishHub =>
    if s.hubPhase = .cancelling [] then some { s with hubPhase := .done }
    else none

def start (cutoff ttl : Int) : State :=
  { world := Cluster.start cutoff ttl }

/-! ### Conditions on a run -/

/-- The acts that read or write a store. -/
def isStoreAct : Act → Bool
  | .readRow _ | .addRow _ | .getAll _ | .disconnectRemote _
  | .deleteUpTo _ _ | .expireRow _ | .expireMessages _ => true
  | _ => false

def isStoreStage : CloseStage → Bool
  | .updateStatus | .removeRow => true
  | _ => false

/-- The thread is about to use a store. -/
def usesStore (thread : Thread) : Bool :=
  match thread.closing with
  | some call => isStoreStage call.2
  | none => thread.todo.head?.any isStoreAct

/-- Store operations succeed. -/
def StoreSucceeds (s : State) : Label → Prop
  | .transitionConnectionToTransferring ok => ok = true
  | .cluster label => ∀ thread ∈ Cluster.running s.world label,
      usesStore thread = true → label.succeeds = true
  | _ => True

instance (s : State) : ∀ label, Decidable (StoreSucceeds s label)
  | .transitionConnectionToTransferring ok =>
    inferInstanceAs (Decidable (ok = true))
  | .cluster label => inferInstanceAs
      (Decidable (∀ thread ∈ Cluster.running s.world label, _))
  | .markShuttingDown | .closeAllAnonymousConnections
  | .shutdownAuthenticatedConnections | .closeAllAuthenticatedConnections
  | .finish | .resetHub | .cancelTimer | .finishHub => .isTrue trivial

/-- The sessions whose rows the shutdown has still to clear, once it has its
list. -/
def Phase.ahead : Phase → Option (List WebsocketAuth)
  | .transferring todo => some todo
  | .closingAuthenticated _ | .done => some []
  | _ => none

/-- The connection for which an act claims a row. -/
def claimant : Act → Option ConnID
  | .addRow c => some c
  | _ => none

/-- The act claims no row for the container that the shutdown is past. -/
def ClaimsAhead (node : ContainerID) (s : State) (act : Act) : Prop :=
  ∀ c ∈ claimant act, ∀ conn ∈ s.world.conn c, conn.node = node →
    conn.auth.isAnonymous = false →
      ∀ todo ∈ s.phase.ahead, conn.auth ∈ todo

instance (node : ContainerID) (s : State) (act : Act) :
    Decidable (ClaimsAhead node s act) :=
  inferInstanceAs (Decidable (∀ c ∈ claimant act, _))

/-- When the list is taken, every session whose row the container holds is in
its connection table; from then on the container claims no row that the
shutdown is past. -/
def HandsOver (node : ContainerID) (s : State) : Label → Prop
  | .shutdownAuthenticatedConnections =>
    ∀ auth ∈ s.world.rows.keys, s.world.holder auth = some node →
      auth.isAnonymous = false →
        (s.world.registered node auth).isSome = true
  | .cluster label => ∀ thread ∈ Cluster.running s.world label,
      ∀ act ∈ thread.nextAct, ClaimsAhead node s act
  | _ => True

instance (node : ContainerID) (s : State) :
    ∀ label, Decidable (HandsOver node s label)
  | .shutdownAuthenticatedConnections => inferInstanceAs
      (Decidable (∀ auth ∈ s.world.rows.keys, _))
  | .cluster label => inferInstanceAs
      (Decidable (∀ thread ∈ Cluster.running s.world label, _))
  | .markShuttingDown | .closeAllAnonymousConnections
  | .transitionConnectionToTransferring _ | .closeAllAuthenticatedConnections
  | .finish | .resetHub | .cancelTimer | .finishHub => .isTrue trivial

/-- No row of an authenticated session names the container. -/
def NoneHeld (node : ContainerID) (s : State) : Prop :=
  ∀ auth : WebsocketAuth, auth.isAnonymous = false →
    s.world.holder auth ≠ some node

/-- Both tasks and everything else in progress have come to their end. -/
structure Completed (s : State) : Prop where
  mediator : s.phase = .done
  hub : s.hubPhase = .done
  threads : ∀ thread ∈ s.world.threads, idle thread = true

/-! ### What the shutdown leaves behind -/

/-- Once the list is taken, the rows that name the container are of sessions
still to be cleared. -/
structure Inv (node : ContainerID) (s : State) : Prop where
  coherent : Cluster.Coherent s.world
  held : ∀ todo ∈ s.phase.ahead, ∀ auth : WebsocketAuth,
    auth.isAnonymous = false → s.world.holder auth = some node → auth ∈ todo

theorem inv_start (node : ContainerID) (cutoff ttl : Int) :
    Inv node (start cutoff ttl) where
  coherent := Cluster.coherent_start cutoff ttl
  held := by
    intro todo hahead
    cases hahead

variable {w : World} {node : ContainerID} {auth : WebsocketAuth}

theorem coherent_closeAll (hcoherent : Cluster.Coherent w)
    (conns : List ConnID) : Cluster.Coherent (closeAll w conns) where
  registered := hcoherent.registered
  closing := by
    intro thread c stage hthread hclosing
    rcases List.mem_append.mp hthread with hold | hnew
    · exact hcoherent.closing hold hclosing
    · rw [List.mem_singleton.mp hnew] at hclosing
      cases hclosing

theorem coherent_setHub (hcoherent : Cluster.Coherent w) (node : ContainerID)
    (hub : Hub) : Cluster.Coherent (w.setHub node hub) where
  registered := by
    intro other auth c hregistered
    rw [Cluster.registered_setHub] at hregistered
    exact hcoherent.registered hregistered
  closing := hcoherent.closing

/-- A session in the connection table is on the list. -/
theorem mem_authenticated (hcoherent : Cluster.Coherent w)
    (hauth : auth.isAnonymous = false)
    (hregistered : (w.registered node auth).isSome = true) :
    auth ∈ authenticated w node := by
  obtain ⟨c, hc⟩ := Option.isSome_iff_exists.mp hregistered
  obtain ⟨conn, hconn, -, rfl⟩ := hcoherent.registered hc
  refine List.mem_filterMap.mpr
    ⟨c, ConnectionMap.mem_getAllAuthenticatedConn hauth hc, ?_⟩
  rw [hconn]
  rfl

theorem mem_keys_of_holder (hholder : w.holder auth = some node) :
    auth ∈ w.rows.keys := by
  obtain ⟨row, hrow, -⟩ := Option.bind_eq_some_iff.mp hholder
  rw [← AList.mem_keys, ← AList.lookup_isSome]
  exact Option.isSome_iff_exists.mpr ⟨row, hrow⟩

theorem holder_updateStatusTransferring {other : WebsocketAuth}
    (hholder : ({ w with
      rows := w.rows.updateStatusTransferring auth } : World).holder other =
        some node) :
    other ≠ auth ∧ w.holder other = some node := by
  unfold World.holder World.row at hholder
  dsimp only at hholder
  rw [ActiveConnTable.updateStatusTransferring,
    ActiveConnTable.lookup_modify] at hholder
  split at hholder
  · next hsame =>
      cases hlookup : w.rows.lookup auth with
      | none =>
        rw [hlookup] at hholder
        cases hholder
      | some row =>
        rw [hlookup] at hholder
        cases hholder
  · next hother => exact ⟨hother, hholder⟩

theorem Inv.cluster {s : State} {label : Cluster.Label} (hinv : Inv node s)
    (hover : HandsOver node s (.cluster label))
    (hstep : Cluster.step s.world label = some w) :
    Inv node { s with world := w } where
  coherent := Cluster.coherent_step hinv.coherent hstep
  held := by
    intro todo hahead auth hauth hholder
    rcases Cluster.holder_step hstep hholder with hold |
      ⟨t, c, conn, rfl, hnext, hconn, hnode, rfl⟩
    · exact hinv.held todo hahead auth hauth hold
    · obtain ⟨thread, hthread, hact⟩ := Option.bind_eq_some_iff.mp hnext
      exact hover thread hthread _ hact c rfl conn hconn hnode hauth todo
        hahead

theorem inv_step {s s' : State} {label : Label} (hinv : Inv node s)
    (hstore : StoreSucceeds s label) (hover : HandsOver node s label)
    (hstep : step node s label = some s') :
    Inv node s' := by
  cases label with
  | cluster label =>
    simp only [step, Option.map_eq_some_iff] at hstep
    obtain ⟨w, hw, rfl⟩ := hstep
    exact hinv.cluster hover hw
  | markShuttingDown =>
    simp only [step] at hstep
    split at hstep
    · obtain ⟨w, hw, rfl⟩ := Option.map_eq_some_iff.mp hstep
      refine ⟨Cluster.coherent_step hinv.coherent hw, ?_⟩
      intro todo hahead
      cases hahead
    · cases hstep
  | closeAllAnonymousConnections =>
    simp only [step] at hstep
    split at hstep <;> cases hstep
    refine ⟨coherent_closeAll hinv.coherent _, ?_⟩
    intro todo hahead
    cases hahead
  | shutdownAuthenticatedConnections =>
    simp only [step] at hstep
    split at hstep
    · split at hstep <;> cases hstep
      refine ⟨hinv.coherent, ?_⟩
      intro todo hahead auth hauth hholder
      cases hahead
      exact mem_authenticated hinv.coherent hauth
        (hover auth (mem_keys_of_holder hholder) hholder hauth)
    · cases hstep
  | transitionConnectionToTransferring ok =>
    change ok = true at hstore
    subst hstore
    simp only [step] at hstep
    split at hstep
    · next auth rest hphase =>
        cases hstep
        refine ⟨⟨hinv.coherent.registered, hinv.coherent.closing⟩, ?_⟩
        intro todo hahead other hother hholder
        cases hahead
        obtain ⟨hne, hold⟩ := holder_updateStatusTransferring hholder
        have hmem := hinv.held (auth :: rest) (by rw [hphase]; rfl) other
          hother hold
        exact (List.mem_cons.mp hmem).resolve_left hne
    · cases hstep
  | closeAllAuthenticatedConnections =>
    simp only [step] at hstep
    split at hstep
    · next hphase =>
        cases hstep
        refine ⟨coherent_closeAll hinv.coherent _, ?_⟩
        intro todo hahead
        cases hahead
        exact hinv.held [] (by rw [hphase]; rfl)
    · cases hstep
  | finish =>
    simp only [step] at hstep
    split at hstep
    · next t hphase =>
        split at hstep <;> cases hstep
        refine ⟨hinv.coherent, ?_⟩
        intro todo hahead
        cases hahead
        exact hinv.held [] (by rw [hphase]; rfl)
    · cases hstep
  | resetHub =>
    simp only [step] at hstep
    split at hstep <;> cases hstep
    exact ⟨coherent_setHub hinv.coherent _ _, hinv.held⟩
  | cancelTimer =>
    simp only [step] at hstep
    split at hstep <;> cases hstep
    exact ⟨coherent_setHub hinv.coherent _ _, hinv.held⟩
  | finishHub =>
    simp only [step] at hstep
    split at hstep <;> cases hstep
    exact ⟨hinv.coherent, hinv.held⟩

/-- In every run in which the container hands its sessions over, no row names
it any more once the mediator's shutdown is done. -/
theorem noneHeld_of_handsOver {node : ContainerID} {cutoff ttl : Int}
    {s : State} (hreach : Reach (step node)
      (fun s label => StoreSucceeds s label ∧ HandsOver node s label)
      (start cutoff ttl) s)
    (hdone : s.phase = .done) : NoneHeld node s := by
  have hinv := Reach.invariant (Inv node) (inv_start node cutoff ttl)
    (fun _ _ _ hinv hmeets hstep => inv_step hinv hmeets.1 hmeets.2 hstep)
    hreach
  intro auth hauth hholder
  have hmem := hinv.held [] (by rw [hdone]; rfl) auth hauth hholder
  cases hmem

/-- A session for concrete runs, next to the one of the cluster. -/
def bob : WebsocketAuth := ⟨[3], [4]⟩

/-- A gobwas connection whose callbacks run to their end. -/
def connect (node : ContainerID) (auth : WebsocketAuth) (t : Nat) :
    List Label :=
  .cluster (.accept node auth true true) ::
    List.replicate 6 (.cluster (.exec t true))

/-- The mediator's shutdown up to its list, with no anonymous connections. -/
def untilList : List Label :=
  [.markShuttingDown, .closeAllAnonymousConnections,
    .shutdownAuthenticatedConnections]

/-- Container 0 shuts down with two sessions connected, one of which has gone
to container 1 before its connection is closed. -/
def handedOverRun : List Label :=
  List.flatten
    [connect 0 Cluster.alice 0, connect 0 bob 1, untilList,
      List.replicate 2 (.transitionConnectionToTransferring true),
      connect 1 bob 3, [.closeAllAuthenticatedConnections],
      List.replicate 8 (.cluster (.exec 4 true)),
      [.finish, .resetHub, .finishHub]]

theorem noneHeld_handedOverRun :
    (run (step 0) (start 60 120) handedOverRun).isSome = true ∧
      (final (step 0) (start 60 120) handedOverRun).world.holder bob = some 1 ∧
      NoneHeld 0 (final (step 0) (start 60 120) handedOverRun) :=
  ⟨by decide +kernel, by decide +kernel, noneHeld_of_handsOver
    (reach_final (by decide +kernel) (by decide +kernel))
    (by decide +kernel)⟩

/-- Container 0 shuts down with one session disconnected and waiting in the
hub, and with the callbacks of another half-way through. -/
def leftBehindRun : List Label :=
  List.flatten
    [connect 0 Cluster.alice 0,
      .cluster (.close 0) :: List.replicate 5 (.cluster (.exec 1 true)),
      .cluster (.accept 0 bob true true) ::
        List.replicate 3 (.cluster (.exec 2 true)),
      untilList, List.replicate 3 (.cluster (.exec 2 true)),
      [.closeAllAuthenticatedConnections],
      List.replicate 4 (.cluster (.exec 4 true)),
      [.finish, .resetHub, .cancelTimer, .finishHub]]

/-- Both rows still name container 0 when all is done, although nobody is
connected to it and its timers are cancelled. -/
theorem leftBehindRun_held :
    ∃ s, Reach (step 0) StoreSucceeds (start 60 120) s ∧ Completed s ∧
      s.world.held Cluster.alice = some (some 0, .tempDisconnected) ∧
      s.world.held bob = some (some 0, .connected) ∧
      (∀ conn ∈ s.world.conns, conn.closed = true) ∧ ¬ NoneHeld 0 s := by
  refine ⟨final (step 0) (start 60 120) leftBehindRun,
    reach_final (by decide +kernel) (by decide +kernel),
    ⟨by decide +kernel, by decide +kernel, by decide +kernel⟩,
    by decide +kernel, by decide +kernel, by decide +kernel, ?_⟩
  intro hnone
  exact hnone Cluster.alice rfl (by decide +kernel)

end Shutdown

end Pipewave
