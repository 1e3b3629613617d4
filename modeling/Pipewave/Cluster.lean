/-
Containers that share a store and a message bus.  A thread is a request, a
close, a bus message or an expiry in progress; each of its acts is one atomic
access to the store, the bus, a registry or a connection's closed flag, and
any two threads may interleave between acts.
-/
import Mathlib.Logic.Function.Basic
import Pipewave.ActiveConn
import Pipewave.ConnectionManager
import Pipewave.MsgHub
import Pipewave.PendingMessage

namespace Pipewave

namespace Cluster

structure Conn where
  node : ContainerID
  auth : WebsocketAuth
  coreType : WsCoreType
  closed : Bool := false
deriving Repr, DecidableEq

structure Node where
  connections : ConnectionMap := {}
  hub : Hub
  shuttingDown : Bool := false

inductive Signal where
  | disconnectSession
  | resumeSession
deriving Repr, DecidableEq

/-- A published message that has not been handled yet. -/
structure Envelope where
  target : ContainerID
  signal : Signal
  auth : WebsocketAuth
deriving Repr, DecidableEq

/-- Where a call of `Close` is: before its compare-and-swap, or at the given
step of the close callback. -/
inductive CloseStage where
  | swap
  | removeConnection
  | persist
  | updateStatus
  | removeRow
  | register
deriving Repr, DecidableEq

/-- The acts of the callbacks, handlers and timers other than `Close`. -/
inductive Act where
  | closeDuplicate (c : ConnID)
  | readRow (c : ConnID)
  | disconnectSession (node : ContainerID) (auth : WebsocketAuth)
  | disconnectLocal (node : ContainerID) (auth : WebsocketAuth)
  | disconnectRemote (auth : WebsocketAuth)
  | publish (envelope : Envelope)
  | resumeSession (node : ContainerID) (holder : Option ContainerID)
      (auth : WebsocketAuth)
  | deregister (node : ContainerID) (auth : WebsocketAuth)
  | addRow (c : ConnID)
  | addConnection (c : ConnID)
  | getAll (c : ConnID)
  | deleteUpTo (auth : WebsocketAuth) (maxSendAt : Int)
  | sendDirect (c : ConnID) (message : Bytes)
  | hook (admits : Bool)
  | serve (c : ConnID)
  | close (c : ConnID)
  | expireRow (auth : WebsocketAuth)
  | expireMessages (auth : WebsocketAuth)
deriving Repr, DecidableEq

/-- A thread runs the `Close` it is in, then its acts; an error replaces the
acts by those of the error path, a panic ends the thread. -/
structure Thread where
  closing : Option (ConnID × CloseStage) := none
  todo : List Act := []
  onErr : List Act := []
  panicked : Bool := false
deriving Repr, DecidableEq

/-- The whole system; times and durations are in nanoseconds.  `claims` records
which connection last claimed a row, `consumed` what was read for a connection
and `served` the requests answered on one; no act reads them. -/
structure World where
  cutoff : Int
  now : Int := 0
  rows : ActiveConnTable := ∅
  pending : PendingTable := []
  nodes : ContainerID → Node
  conns : List Conn := []
  net : List Envelope := []
  threads : List Thread := []
  claims : WebsocketAuth → Option ConnID := fun _ => none
  consumed : List (ConnID × PendingMessage) := []
  served : List ConnID := []

namespace World

def conn (w : World) (c : ConnID) : Option Conn := w.conns[c]?

/-- The connection a container has registered for an identity. -/
def registered (w : World) (node : ContainerID) (auth : WebsocketAuth) :
    Option ConnID :=
  (w.nodes node).connections.getConnection auth

def row (w : World) (auth : WebsocketAuth) : Option ActiveConnection :=
  w.rows.lookup auth

def setNode (w : World) (node : ContainerID) (value : Node) : World :=
  { w with nodes := Function.update w.nodes node value }

def setConnections (w : World) (node : ContainerID) (map : ConnectionMap) :
    World :=
  w.setNode node { w.nodes node with connections := map }

def setHub (w : World) (node : ContainerID) (hub : Hub) : World :=
  w.setNode node { w.nodes node with hub }

def spawn (w : World) (thread : Thread) : World :=
  { w with threads := w.threads ++ [thread] }

/-- `GetInstanceConnection` at the current time. -/
def visibleRow (w : World) (auth : WebsocketAuth) : Option ActiveConnection :=
  w.rows.getInstanceConnection auth w.cutoff w.now

/-- The upsert by which a connection claims its session's row. -/
def claimRow (w : World) (c : ConnID) (conn : Conn) : World :=
  { w with
    rows := w.rows.addConnection conn.auth conn.node w.now
    claims := Function.update w.claims conn.auth (some c) }

def removeRow (w : World) (auth : WebsocketAuth) : World :=
  { w with rows := w.rows.removeConnection auth }

def addConnection (w : World) (c : ConnID) (conn : Conn) : World :=
  w.setConnections conn.node
    ((w.nodes conn.node).connections.addConnection conn.auth c)

def removeConnection (w : World) (conn : Conn) : World :=
  w.setConnections conn.node
    ((w.nodes conn.node).connections.removeConnection conn.auth)

end World

/-- One step of a `Close` of a connection, with the outcome of the store or
pool operation it makes; the next stage, if any, is returned. -/
def closeStep (w : World) (c : ConnID) (conn : Conn) (ok : Bool) :
    CloseStage → World × Option CloseStage
  | .swap =>
    if conn.closed then (w, none)
    else ({ w with conns := w.conns.set c { conn with closed := true } },
      some .removeConnection)
  | .removeConnection => (w.removeConnection conn, some .persist)
  | .persist =>
    if conn.auth.isAnonymous then (w, some .removeRow)
    else if (w.nodes conn.node).shuttingDown then (w, none)
    else (w, some .updateStatus)
  | .updateStatus =>
    if ok then
      ({ w with rows := w.rows.updateStatus conn.auth .tempDisconnected },
        some .register)
    else (w, some .removeRow)
  | .removeRow =>
    if ok then (w.removeRow conn.auth, none) else (w, none)
  | .register =>
    (w.setHub conn.node ((w.nodes conn.node).hub.register conn.auth.userID
      conn.auth.instanceID ok), none)

inductive Verdict where
  | done
  | failed
  | panicked
deriving Repr, DecidableEq

/-- What an act leads to: acts to run before the thread's others, a `Close` to
run before those, or an error or a panic. -/
structure Result where
  world : World
  push : List Act := []
  closing : Option (ConnID × CloseStage) := none
  verdict : Verdict := .done

/-- The reaction of the new-connection callback to the session's row. -/
def onRow (conn : Conn) : Option ActiveConnection → List Act
  | none => []
  | some row => match row.status with
    | .connected => [.disconnectSession conn.node conn.auth]
    | .tempDisconnected => [.resumeSession conn.node row.holderID conn.auth]
    | .transferring => []

/-- The acts that know their connection. -/
def execConn (w : World) (c : ConnID) (conn : Conn) (ok : Bool) :
    Act → Result
  | .closeDuplicate _ =>
    { world := w
      closing := (w.registered conn.node conn.auth).map (·, .swap) }
  | .readRow _ =>
    if ok then { world := w, push := onRow conn (w.visibleRow conn.auth) }
    else { world := w }
  | .addRow _ =>
    if ok then { world := w.claimRow c conn }
    else { world := w, verdict := .failed }
  | .addConnection _ => { world := w.addConnection c conn }
  | .getAll _ =>
    let rows := w.pending.ofSession (sessionKey conn.auth)
    if !ok || rows = [] then { world := w }
    else
      { world := { w with
          consumed := w.consumed ++ rows.map fun row => (c, row) }
        push := .deleteUpTo conn.auth (PendingTable.maxSendAt rows) ::
          rows.map fun row => .sendDirect c row.message }
  | .sendDirect _ _ =>
    if ok || conn.coreType = .longPolling then { world := w }
    else { world := w, closing := some (c, .swap) }
  | .serve _ => { world := { w with served := c :: w.served } }
  | .close _ => { world := w, closing := some (c, .swap) }
  | _ => { world := w }

/-- One act with the outcome of the store or bus operation it makes. -/
def exec (w : World) (act : Act) (ok : Bool) : Result :=
  match act with
  | .closeDuplicate c | .readRow c | .addRow c | .addConnection c
  | .getAll c | .sendDirect c _ | .serve c | .close c =>
    match w.conn c with
    | none => { world := w }
    | some conn => execConn w c conn ok act
  | .disconnectSession node auth =>
    match userWebsocketAuth auth.userID auth.instanceID with
    | none => { world := w, verdict := .panicked }
    | some auth =>
      if (w.registered node auth).isSome then
        { world := w, push := [.disconnectLocal node auth] }
      else { world := w, push := [.disconnectRemote auth] }
  | .disconnectLocal node auth =>
    match userWebsocketAuth auth.userID auth.instanceID with
    | none => { world := w, verdict := .panicked }
    | some auth =>
      { world := w, closing := (w.registered node auth).map (·, .swap) }
  | .disconnectRemote auth =>
    match (if ok then w.visibleRow auth else none).bind (·.holderID) with
    | none => { world := w }
    | some holder =>
      { world := w
        push := [.publish ⟨holder, .disconnectSession, auth⟩] }
  | .publish envelope =>
    if ok then { world := { w with net := w.net ++ [envelope] } }
    else { world := w }
  | .resumeSession node holder auth =>
    match holder with
    | none => { world := w }
    | some holder =>
      if holder = node then { world := w, push := [.deregister node auth] }
      else
        { world := w, push := [.publish ⟨holder, .resumeSession, auth⟩] }
  | .deregister node auth =>
    { world := w.setHub node
        ((w.nodes node).hub.deregister auth.userID auth.instanceID) }
  | .deleteUpTo auth maxSendAt =>
    if ok then
      { world := { w with
          pending := w.pending.deleteUpTo (sessionKey auth) maxSendAt } }
    else { world := w }
  | .hook admits =>
    if admits then { world := w } else { world := w, verdict := .failed }
  | .expireRow auth =>
    if ok then { world := w.removeRow auth } else { world := w }
  | .expireMessages auth =>
    if ok then
      { world := { w with
          pending := w.pending.deleteAll (sessionKey auth) } }
    else { world := w }

/-- The thread behind its next act. -/
def afterAct (thread : Thread) (rest : List Act) (result : Result) : Thread :=
  match result.verdict with
  | .done => { thread with
      closing := result.closing, todo := result.push ++ rest }
  | .failed => { todo := thread.onErr }
  | .panicked => { panicked := true }

/-- One step of a thread: its `Close` first, then its next act. -/
def stepThread (w : World) (thread : Thread) (ok : Bool) :
    Option (World × Thread) :=
  match thread.closing with
  | some (c, stage) =>
    match w.conn c with
    | none => some (w, { thread with closing := none })
    | some conn =>
      let (w, next) := closeStep w c conn ok stage
      some (w, { thread with closing := next.map (c, ·) })
  | none => match thread.todo with
    | [] => none
    | act :: rest =>
      let result := exec w act ok
      some (result.world, afterAct thread rest result)

/-- The new-connection callback of a container. -/
def newConnection (c : ConnID) : List Act :=
  [.closeDuplicate c, .readRow c, .addRow c, .addConnection c, .getAll c]

/-- The registered callbacks, which run in the order of a map. -/
def onNewStuff (c : ConnID) (hookFirst admits : Bool) : List Act :=
  if hookFirst then .hook admits :: newConnection c
  else newConnection c ++ [.hook admits]

inductive Label where
  /-- `GobwasEndpoint` upgrades a request. -/
  | accept (node : ContainerID) (auth : WebsocketAuth)
      (hookFirst admits : Bool)
  /-- `LongPollingEndpoint` takes a poll. -/
  | poll (node : ContainerID) (auth : WebsocketAuth) (hookFirst admits : Bool)
  /-- `LongPollingSendEndpoint` takes a client message. -/
  | lpSend (node : ContainerID) (auth : WebsocketAuth)
  /-- A frame arrives on an open WebSocket. -/
  | frame (c : ConnID)
  /-- A read hang-up, a protocol error, a ping or an idle timer calls
  `Close`. -/
  | close (c : ConnID)
  | exec (t : Nat) (ok : Bool)
  | deliver (k : Nat)
  | startTimer (node : ContainerID) (i : Nat)
  | fireTimer (node : ContainerID) (i : Nat)
  | stopTimer (node : ContainerID) (i : Nat)
  | lockTimer (node : ContainerID) (i : Nat)
  | callTimer (node : ContainerID) (i : Nat)
  | markShuttingDown (node : ContainerID)
  | heartbeat (auth : WebsocketAuth)
  | save (row : PendingMessage)
  | advance (elapsed : Nat)
deriving Repr, DecidableEq

/-- A new connection with the thread of its endpoint. -/
def openConn (w : World) (conn : Conn) (thread : ConnID → Thread) : World :=
  { w with
    conns := w.conns ++ [conn]
    threads := w.threads ++ [thread w.conns.length] }

def handler (envelope : Envelope) : Thread :=
  match envelope.signal with
  | .disconnectSession =>
    { todo := [.disconnectLocal envelope.target envelope.auth] }
  | .resumeSession =>
    { todo := [.deregister envelope.target envelope.auth] }

def onExpired (r : Registration) : Thread :=
  { todo := [.expireRow ⟨r.userID, r.instanceID⟩,
      .expireMessages ⟨r.userID, r.instanceID⟩] }

def step (w : World) : Label → Option World
  | .accept node auth hookFirst admits =>
    some (openConn w { node, auth, coreType := .gobwas } fun c =>
      { todo := onNewStuff c hookFirst admits, onErr := [.close c] })
  | .poll node auth hookFirst admits =>
    match w.registered node auth with
    | none => some (openConn w { node, auth, coreType := .longPolling }
        fun c => { todo := onNewStuff c hookFirst admits ++ [.serve c] })
    | some c => match w.conn c with
      | none => none
      | some conn =>
        if conn.coreType = .longPolling then
          some { w with served := c :: w.served }
        else some w
  | .lpSend node auth =>
    match w.registered node auth with
    | none => some w
    | some c => match w.conn c with
      | none => none
      | some conn =>
        if conn.coreType = .longPolling ∧ conn.closed = false then
          some { w with served := c :: w.served }
        else some w
  | .frame c => match w.conn c with
    | none => none
    | some conn =>
      if conn.coreType = .gobwas ∧ conn.closed = false then
        some { w with served := c :: w.served }
      else none
  | .close c =>
    if (w.conn c).isSome then
      some (w.spawn { closing := some (c, .swap) })
    else none
  | .exec t ok => match w.threads[t]? with
    | none => none
    | some thread => (stepThread w thread ok).map fun (w, thread) =>
      { w with threads := w.threads.set t thread }
  | .deliver k => match w.net[k]? with
    | none => none
    | some envelope =>
      some ({ w with net := w.net.eraseIdx k }.spawn (handler envelope))
  | .startTimer node i =>
    ((w.nodes node).hub.start i w.now).map (w.setHub node)
  | .fireTimer node i =>
    ((w.nodes node).hub.fire i w.now).map (w.setHub node)
  | .stopTimer node i => ((w.nodes node).hub.stop i).map (w.setHub node)
  | .lockTimer node i => ((w.nodes node).hub.lock i).map (w.setHub node)
  | .callTimer node i =>
    match (w.nodes node).hub.reg i, (w.nodes node).hub.call i with
    | some r, some hub => some ((w.setHub node hub).spawn (onExpired r))
    | _, _ => none
  | .markShuttingDown node =>
    some (w.setNode node { w.nodes node with shuttingDown := true })
  | .heartbeat auth =>
    some { w with rows := w.rows.updateHeartBeat auth w.now }
  | .save row => some { w with pending := w.pending.create row }
  | .advance elapsed => some { w with now := w.now + elapsed }

/-- The thread that a label runs. -/
def running (w : World) : Label → Option Thread
  | .exec t _ => w.threads[t]?
  | _ => none

/-- The outcome of the operation that a label's thread makes. -/
def Label.succeeds : Label → Bool
  | .exec _ ok => ok
  | _ => true

/-- The act a thread is about to make, unless it is inside a `Close`. -/
def Thread.nextAct (thread : Thread) : Option Act :=
  if thread.closing = none then thread.todo.head? else none

/-- Containers that have just started. -/
def start (cutoff ttl : Int) : World :=
  { cutoff, nodes := fun _ => { hub := { ttl } } }

/-- A session for concrete runs. -/
def alice : WebsocketAuth := ⟨[1], [2]⟩

end Cluster

end Pipewave
