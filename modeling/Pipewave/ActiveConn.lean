/-
The table of active connections shared by all containers.  A session has at
most one row; its holder is the container that last claimed it, and a row is
visible only while its last heartbeat is recent.
-/
import Pipewave.Auth
import Pipewave.GoMap

namespace Pipewave

inductive WsStatus where
  | connected
  | tempDisconnected
  | transferring
deriving Repr, DecidableEq

inductive WsCoreType where
  | gobwas
  | longPolling
deriving Repr, DecidableEq

abbrev ContainerID := Nat

/-- A row of `active_connections`.  No holder stands for the empty string. -/
structure ActiveConnection where
  holderID : Option ContainerID
  status : WsStatus
  lastHeartbeat : Int
deriving Repr, DecidableEq

abbrev ActiveConnTable := GoMap WebsocketAuth ActiveConnection

namespace ActiveConnTable

variable (table : ActiveConnTable) (auth other : WebsocketAuth)

/-- `AddConnection` is an upsert that claims the row. -/
def addConnection (holder : ContainerID) (now : Int) : ActiveConnTable :=
  table.insert auth ⟨some holder, .connected, now⟩

/-- Change the row of a session; no row is no error. -/
def modify (change : ActiveConnection → ActiveConnection) : ActiveConnTable :=
  match table.lookup auth with
  | none => table
  | some row => table.insert auth (change row)

/-- `UpdateStatus` does not look at the holder. -/
def updateStatus (status : WsStatus) : ActiveConnTable :=
  modify table auth fun row => { row with status }

/-- `UpdateStatusTransferring` also clears the holder, whoever that is. -/
def updateStatusTransferring : ActiveConnTable :=
  modify table auth fun row =>
    { row with status := .transferring, holderID := none }

def updateHeartBeat (now : Int) : ActiveConnTable :=
  modify table auth fun row => { row with lastHeartbeat := now }

def removeConnection : ActiveConnTable := table.erase auth

/-- `GetInstanceConnection` returns a row only while its last heartbeat is
newer than the cutoff. -/
def getInstanceConnection (cutoff now : Int) : Option ActiveConnection :=
  (table.lookup auth).filter fun row => now - cutoff < row.lastHeartbeat

/-- The visible rows of the users a query asks for. -/
def getActiveConnectionsByUserIDs (userIDs : List Bytes) (cutoff now : Int) :
    List ActiveConnection :=
  (table.entries.filter fun entry => entry.1.userID ∈ userIDs ∧
    now - cutoff < entry.2.lastHeartbeat).map fun entry => entry.2

def getActiveConnections (userID : Bytes) (cutoff now : Int) :
    List ActiveConnection :=
  (table.entries.filter fun entry => entry.1.userID = userID ∧
    now - cutoff < entry.2.lastHeartbeat).map fun entry => entry.2

theorem lookup_addConnection (holder : ContainerID) (now : Int) :
    (addConnection table auth holder now).lookup other =
      if other = auth then some ⟨some holder, .connected, now⟩
      else table.lookup other := by
  by_cases hsame : other = auth
  · subst hsame
    simp [addConnection]
  · simp [addConnection, hsame]

theorem lookup_modify (change : ActiveConnection → ActiveConnection) :
    (modify table auth change).lookup other =
      if other = auth then (table.lookup auth).map change
      else table.lookup other := by
  cases hlookup : table.lookup auth with
  | none =>
    by_cases hsame : other = auth
    · subst hsame
      simp [modify, hlookup]
    · simp [modify, hlookup, hsame]
  | some row =>
    by_cases hsame : other = auth
    · subst hsame
      simp [modify, hlookup]
    · simp [modify, hlookup, hsame]

theorem lookup_removeConnection :
    (removeConnection table auth).lookup other =
      if other = auth then none else table.lookup other := by
  by_cases hsame : other = auth
  · subst hsame
    simp [removeConnection]
  · simp [removeConnection, hsame]

theorem getInstanceConnection_eq_some {cutoff now : Int}
    {row : ActiveConnection} :
    getInstanceConnection table auth cutoff now = some row ↔
      table.lookup auth = some row ∧ now - cutoff < row.lastHeartbeat := by
  rw [getInstanceConnection, Option.filter_eq_some_iff, decide_eq_true_eq]

theorem mem_getActiveConnectionsByUserIDs {userIDs : List Bytes}
    {cutoff now : Int} {row : ActiveConnection} :
    row ∈ getActiveConnectionsByUserIDs table userIDs cutoff now ↔
      ∃ auth : WebsocketAuth, auth.userID ∈ userIDs ∧
        getInstanceConnection table auth cutoff now = some row := by
  simp only [getActiveConnectionsByUserIDs, List.mem_map, List.mem_filter,
    decide_eq_true_eq, getInstanceConnection_eq_some]
  constructor
  · rintro ⟨⟨auth, row⟩, ⟨hentry, huser, hvisible⟩, rfl⟩
    exact ⟨auth, huser, AList.mem_lookup_iff.mpr hentry, hvisible⟩
  · rintro ⟨auth, huser, hlookup, hvisible⟩
    exact ⟨⟨auth, row⟩, ⟨AList.mem_lookup_iff.mp hlookup, huser, hvisible⟩,
      rfl⟩

theorem getActiveConnections_eq (userID : Bytes) (cutoff now : Int) :
    getActiveConnections table userID cutoff now =
      getActiveConnectionsByUserIDs table [userID] cutoff now := by
  simp only [getActiveConnections, getActiveConnectionsByUserIDs,
    List.mem_singleton]

end ActiveConnTable

end Pipewave
