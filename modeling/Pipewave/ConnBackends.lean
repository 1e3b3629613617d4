/-
The two stores of active connections side by side, with every column their
callers read.  Times are in Unix milliseconds; the cutoff is a duration in
nanoseconds.  DynamoDB keeps a time as a number attribute, a bare `time.Time`
in an expression is a string attribute, and attributes of different types never
compare.
-/
import Pipewave.ActiveConn
import Pipewave.GoTime
import Pipewave.Mealy

namespace Pipewave

def WsCoreType.code : WsCoreType → Int
  | .gobwas => 1
  | .longPolling => 2

def WsCoreType.ofCode : Int → Option WsCoreType
  | 1 => some .gobwas
  | 2 => some .longPolling
  | _ => none

@[simp] theorem WsCoreType.ofCode_code (connectionType : WsCoreType) :
    WsCoreType.ofCode connectionType.code = some connectionType := by
  cases connectionType <;> rfl

def WsStatus.code : WsStatus → Int
  | .connected => 1
  | .tempDisconnected => 2
  | .transferring => 3

def WsStatus.ofCode : Int → Option WsStatus
  | 1 => some .connected
  | 2 => some .tempDisconnected
  | 3 => some .transferring
  | _ => none

@[simp] theorem WsStatus.ofCode_code (status : WsStatus) :
    WsStatus.ofCode status.code = some status := by
  cases status <;> rfl

namespace ConnBackends

open GoTime (unixMilli unixToInternal zeroTime)

abbrev NonEmptyID := { id : Bytes // id ≠ [] }

/-- The primary key of both tables. -/
structure Session where
  userID : NonEmptyID
  instanceID : NonEmptyID
deriving DecidableEq

/-- What the stores return for a row. -/
structure Entity where
  userID : NonEmptyID
  instanceID : NonEmptyID
  holderID : Bytes
  connectionType : WsCoreType
  status : WsStatus
  connectedAt : Int
  lastHeartbeat : Int
  ttl : Int
deriving DecidableEq

inductive Call where
  | addConnection (session : Session) (holder : Bytes)
      (connectionType : WsCoreType)
  | updateHeartBeat (session : Session)
  | updateStatus (session : Session) (status : WsStatus)
  | updateStatusTransferring (session : Session)
  | removeConnection (session : Session)
  | getInstanceConnection (session : Session)
  | getActiveConnections (userID : NonEmptyID)
  | countActiveConnections (userID : NonEmptyID)

/-- A call and the clock it reads. -/
structure Request where
  now : Int
  call : Call

/-- No row is `RecordNotFound`. -/
inductive Response where
  | done
  | row (found : Option Entity)
  | rows (found : List Entity)
  | count (found : Nat)
  | failed
deriving DecidableEq

/-- The same answer; neither query asks for an order. -/
def Response.Same : Response → Response → Prop
  | .rows found, .rows found' => found.Perm found'
  | response, response' => response = response'

/-- `2*constants.GlobalHeartbeatRateDuration + time.Second` after `now`. -/
def ttlOf (now : Int) : Int := now + 61000

/-- `now` minus the cutoff, in nanoseconds. -/
def cutoffTime (cutoff now : Int) : Int := now * 1000000 - cutoff

namespace Postgres

structure Row where
  holderID : Bytes
  connectionType : WsCoreType
  status : WsStatus
  connectedAt : Int
  lastHeartbeat : Int
  ttl : Int
deriving DecidableEq

abbrev Table := GoMap Session Row

/-- The columns a query scans. -/
def Row.entity (session : Session) (row : Row) : Entity where
  userID := session.userID
  instanceID := session.instanceID
  holderID := row.holderID
  connectionType := row.connectionType
  status := row.status
  connectedAt := row.connectedAt
  lastHeartbeat := row.lastHeartbeat
  ttl := row.ttl

/-- `last_heartbeat > cutoff`. -/
def Row.Recent (cutoff now : Int) (row : Row) : Prop :=
  cutoffTime cutoff now < row.lastHeartbeat * 1000000

instance (cutoff now : Int) (row : Row) : Decidable (row.Recent cutoff now) :=
  inferInstanceAs (Decidable (_ < _))

/-- `INSERT .. ON CONFLICT DO UPDATE`, which leaves `connected_at` alone. -/
def addConnection (table : Table) (session : Session) (holderID : Bytes)
    (connectionType : WsCoreType) (now : Int) : Table :=
  match table.lookup session with
  | none => table.insert session {
      holderID, connectionType, status := .connected, connectedAt := now,
      lastHeartbeat := now, ttl := ttlOf now }
  | some row => table.insert session { row with
      holderID, connectionType, status := .connected, lastHeartbeat := now,
      ttl := ttlOf now }

/-- `UPDATE .. WHERE`, which touches no row if there is none. -/
def update (table : Table) (session : Session) (change : Row → Row) : Table :=
  match table.lookup session with
  | none => table
  | some row => table.insert session (change row)

/-- `WHERE user_id = $1 AND last_heartbeat > $2`. -/
def select (table : Table) (userID : NonEmptyID) (cutoff now : Int) :
    List Entity :=
  (table.entries.filter fun entry =>
    entry.1.userID = userID ∧ entry.2.Recent cutoff now).map
      fun entry => entry.2.entity entry.1

def serve (cutoff : Int) : Mealy.Machine Table Request Response :=
  fun table request =>
    match request.call with
    | .addConnection session holder connectionType =>
      (addConnection table session holder connectionType request.now, .done)
    | .updateHeartBeat session =>
      (update table session fun row => { row with
        lastHeartbeat := request.now, ttl := ttlOf request.now }, .done)
    | .updateStatus session status =>
      (update table session fun row => { row with status }, .done)
    | .updateStatusTransferring session =>
      (update table session fun row => { row with
        status := .transferring, holderID := [] }, .done)
    | .removeConnection session => (table.erase session, .done)
    | .getInstanceConnection session =>
      (table, .row (((table.lookup session).filter fun row =>
        row.Recent cutoff request.now).map fun row => row.entity session))
    | .getActiveConnections userID =>
      (table, .rows (select table userID cutoff request.now))
    | .countActiveConnections userID =>
      (table, .count (select table userID cutoff request.now).length)

end Postgres

namespace Dynamo

inductive AttributeValue where
  | n (number : Int)
  | s (text : Bytes)
deriving DecidableEq

/-- The comparison of a filter expression. -/
def AttributeValue.greaterThan : AttributeValue → AttributeValue → Bool
  | .n number, .n number' => number' < number
  | .s text, .s text' => text' < text
  | _, _ => false

/-- The attributes beside the key.  `AddConnection` is the only call that makes
an item, and it sets all of them. -/
structure Item where
  holderID : AttributeValue
  connectionType : AttributeValue
  status : AttributeValue
  connectedAt : AttributeValue
  lastHeartbeat : AttributeValue
  ttl : AttributeValue
deriving DecidableEq

abbrev Table := GoMap Session Item

/-- `UnmarshalDynamoDBAttributeValue` leaves the zero time for `"0"`. -/
def milliTime : AttributeValue → Option Int
  | .n number => some (if number = 0 then unixMilli zeroTime else number)
  | .s _ => none

def string : AttributeValue → Option Bytes
  | .n _ => none
  | .s text => some text

def number : AttributeValue → Option Int
  | .n number => some number
  | .s _ => none

def fromDynamoMap (session : Session) (item : Item) : Option Entity := do
  let holderID ← string item.holderID
  let connectionType ← (number item.connectionType).bind WsCoreType.ofCode
  let status ← (number item.status).bind WsStatus.ofCode
  let connectedAt ← milliTime item.connectedAt
  let lastHeartbeat ← milliTime item.lastHeartbeat
  let ttl ← milliTime item.ttl
  return {
    userID := session.userID, instanceID := session.instanceID, holderID,
    connectionType, status, connectedAt, lastHeartbeat, ttl }

/-- `UpdateItem` without a condition; `connectedAt` is behind `IfNotExists`. -/
def create (table : Table) (session : Session) (holder : Bytes)
    (connectionType : WsCoreType) (now : Int) : Table :=
  match table.lookup session with
  | none => table.insert session {
      holderID := .s holder, connectionType := .n connectionType.code,
      status := .n WsStatus.connected.code, connectedAt := .n now,
      lastHeartbeat := .n now, ttl := .n (ttlOf now) }
  | some item => table.insert session { item with
      holderID := .s holder, connectionType := .n connectionType.code,
      status := .n WsStatus.connected.code, lastHeartbeat := .n now,
      ttl := .n (ttlOf now) }

/-- `UpdateItem` behind `AttributeExists`, whose failure is no error. -/
def update (table : Table) (session : Session) (change : Item → Item) :
    Table :=
  match table.lookup session with
  | none => table
  | some item => table.insert session (change item)

/-- How a time is written as RFC 3339 text, and how a query is cut into
pages. -/
structure Service where
  rfc3339 : Int → Bytes
  cut : List (Sigma fun _ : Session => Item) →
    List (List (Sigma fun _ : Session => Item))
  flatten_cut : ∀ items, (cut items).flatten = items

/-- The pages of a query by user with the filter on the last heartbeat, whose
bound is a plain `time.Time`. -/
def query (service : Service) (table : Table) (userID : NonEmptyID)
    (cutoff now : Int) : List (List (Sigma fun _ : Session => Item)) :=
  service.cut <| table.entries.filter fun entry =>
    entry.1.userID = userID ∧ entry.2.lastHeartbeat.greaterThan
      (.s (service.rfc3339 (cutoffTime cutoff now)))

/-- `QueryByUserID` appends the items of every page. -/
def queryByUserID (pages : List (List (Sigma fun _ : Session => Item))) :
    Response :=
  match pages.foldlM (fun results page => page.foldlM (fun results item => do
    let entity ← fromDynamoMap item.1 item.2
    return results ++ [entity]) results) ([] : List Entity) with
  | none => .failed
  | some found => .rows found

/-- `CountActive` adds up the lengths of the pages. -/
def countActive (pages : List (List (Sigma fun _ : Session => Item))) : Nat :=
  pages.foldl (fun count page => count + page.length) 0

/-- `GetByUserAndSession` takes a row for stale only before the cutoff. -/
def getByUserAndSession (table : Table) (session : Session)
    (cutoff now : Int) : Response :=
  match table.lookup session with
  | none => .row none
  | some item =>
    match fromDynamoMap session item with
    | none => .failed
    | some entity =>
      if entity.lastHeartbeat * 1000000 < cutoffTime cutoff now then
        .row none
      else .row (some entity)

def serve (service : Service) (cutoff : Int) :
    Mealy.Machine Table Request Response :=
  fun table request =>
    match request.call with
    | .addConnection session holder connectionType =>
      (create table session holder connectionType request.now, .done)
    | .updateHeartBeat session =>
      (update table session fun item => { item with
        lastHeartbeat := .n request.now, ttl := .n (ttlOf request.now) },
        .done)
    | .updateStatus session status =>
      (update table session fun item => { item with
        status := .n status.code }, .done)
    | .updateStatusTransferring session =>
      (update table session fun item => { item with
        status := .n WsStatus.transferring.code, holderID := .s [] }, .done)
    | .removeConnection session => (table.erase session, .done)
    | .getInstanceConnection session =>
      (table, getByUserAndSession table session cutoff request.now)
    | .getActiveConnections userID =>
      (table, queryByUserID (query service table userID cutoff request.now))
    | .countActiveConnections userID =>
      (table, .count
        (countActive (query service table userID cutoff request.now)))

end Dynamo

/-- The item that holds a row's columns. -/
def marshal (row : Postgres.Row) : Dynamo.Item where
  holderID := .s row.holderID
  connectionType := .n row.connectionType.code
  status := .n row.status.code
  connectedAt := .n row.connectedAt
  lastHeartbeat := .n row.lastHeartbeat
  ttl := .n row.ttl

/-- The two tables hold the same rows. -/
def Related (rows : Postgres.Table) (items : Dynamo.Table) : Prop :=
  ∀ session, items.lookup session = (rows.lookup session).map marshal

/-- What a request must find in the table for the answers to agree. -/
def Guard (cutoff : Int) (rows : Postgres.Table) (request : Request) : Prop :=
  match request.call with
  | .getInstanceConnection session =>
    ∀ row ∈ rows.lookup session,
      (row.Recent cutoff request.now → row.lastHeartbeat ≠ 0 ∧
        row.connectedAt ≠ 0 ∧ row.ttl ≠ 0) ∧
      (row.lastHeartbeat * 1000000 = cutoffTime cutoff request.now →
        row.lastHeartbeat = 0)
  | .getActiveConnections userID | .countActiveConnections userID =>
    ∀ entry ∈ rows.entries, entry.1.userID = userID →
      ¬ entry.2.Recent cutoff request.now
  | _ => True

/-- Both stores give the same answers to a list of requests. -/
def Agree (service : Dynamo.Service) (cutoff : Int)
    (requests : List Request) : Prop :=
  List.Forall₂ Response.Same
    (Mealy.outputs (Postgres.serve cutoff) ∅ requests)
    (Mealy.outputs (Dynamo.serve service cutoff) ∅ requests)

section Tables

variable {rows : Postgres.Table} {items : Dynamo.Table}

theorem Related.insert (hrelated : Related rows items) (session : Session)
    {row : Postgres.Row} {item : Dynamo.Item} (hitem : item = marshal row) :
    Related (rows.insert session row) (items.insert session item) := by
  intro other
  by_cases hother : other = session
  · rw [hother, AList.lookup_insert, AList.lookup_insert, Option.map_some,
      hitem]
  · rw [AList.lookup_insert_ne hother, AList.lookup_insert_ne hother,
      hrelated other]

theorem Related.addConnection (hrelated : Related rows items)
    (session : Session) (holder : Bytes) (connectionType : WsCoreType)
    (now : Int) :
    Related (Postgres.addConnection rows session holder connectionType now)
      (Dynamo.create items session holder connectionType now) := by
  have hlookup := hrelated session
  cases hrow : rows.lookup session with
  | none =>
    rw [hrow, Option.map_none] at hlookup
    simp only [Postgres.addConnection, Dynamo.create, hrow, hlookup]
    exact hrelated.insert session rfl
  | some row =>
    rw [hrow, Option.map_some] at hlookup
    simp only [Postgres.addConnection, Dynamo.create, hrow, hlookup]
    exact hrelated.insert session rfl

/-- A change of columns and the same change of attributes keep the tables
related, whether or not there is a row. -/
theorem Related.update (hrelated : Related rows items) (session : Session)
    {change : Postgres.Row → Postgres.Row}
    {change' : Dynamo.Item → Dynamo.Item}
    (hchange : ∀ row, change' (marshal row) = marshal (change row)) :
    Related (Postgres.update rows session change)
      (Dynamo.update items session change') := by
  have hlookup := hrelated session
  cases hrow : rows.lookup session with
  | none =>
    rw [hrow, Option.map_none] at hlookup
    simp only [Postgres.update, Dynamo.update, hrow, hlookup]
    exact hrelated
  | some row =>
    rw [hrow, Option.map_some] at hlookup
    simp only [Postgres.update, Dynamo.update, hrow, hlookup]
    exact hrelated.insert session (hchange row)

theorem Related.erase (hrelated : Related rows items) (session : Session) :
    Related (rows.erase session) (items.erase session) := by
  intro other
  by_cases hother : other = session
  · rw [hother, AList.lookup_erase, AList.lookup_erase, Option.map_none]
  · rw [AList.lookup_erase_ne hother, AList.lookup_erase_ne hother,
      hrelated other]

theorem related_serve (service : Dynamo.Service) (cutoff : Int)
    (request : Request) (hrelated : Related rows items) :
    Related (Postgres.serve cutoff rows request).1
      (Dynamo.serve service cutoff items request).1 := by
  obtain ⟨now, call⟩ := request
  cases call with
  | addConnection session holder connectionType =>
    exact hrelated.addConnection session holder connectionType now
  | updateHeartBeat session => exact hrelated.update session fun _ => rfl
  | updateStatus session status =>
    exact hrelated.update session fun _ => rfl
  | updateStatusTransferring session =>
    exact hrelated.update session fun _ => rfl
  | removeConnection session => exact hrelated.erase session
  | getInstanceConnection session => exact hrelated
  | getActiveConnections userID => exact hrelated
  | countActiveConnections userID => exact hrelated

end Tables

section Reads

/-- A time as DynamoDB gives it back. -/
def readBack (time : Int) : Int :=
  if time = 0 then unixMilli zeroTime else time

theorem readBack_eq_self {time : Int} : readBack time = time ↔ time ≠ 0 := by
  by_cases htime : time = 0
  · simp [readBack, htime, unixMilli, zeroTime, unixToInternal]
  · simp [readBack, htime]

theorem fromDynamoMap_marshal (session : Session) (row : Postgres.Row) :
    Dynamo.fromDynamoMap session (marshal row) =
      some { row.entity session with
        connectedAt := readBack row.connectedAt
        lastHeartbeat := readBack row.lastHeartbeat
        ttl := readBack row.ttl } := by
  simp [Dynamo.fromDynamoMap, marshal, Dynamo.string, Dynamo.number,
    Dynamo.milliTime, readBack, Postgres.Row.entity]

/-- A row that is found is the same row exactly when no time is the epoch. -/
theorem entity_eq_readBack {session : Session} {row : Postgres.Row} :
    row.entity session = { row.entity session with
      connectedAt := readBack row.connectedAt
      lastHeartbeat := readBack row.lastHeartbeat
      ttl := readBack row.ttl } ↔
      row.lastHeartbeat ≠ 0 ∧ row.connectedAt ≠ 0 ∧ row.ttl ≠ 0 := by
  rw [← readBack_eq_self, ← readBack_eq_self, ← readBack_eq_self]
  simp only [Postgres.Row.entity, Entity.mk.injEq, true_and]
  constructor
  · rintro ⟨hconnected, hheartbeat, httl⟩
    exact ⟨hheartbeat.symm, hconnected.symm, httl.symm⟩
  · rintro ⟨hheartbeat, hconnected, httl⟩
    exact ⟨hconnected.symm, hheartbeat.symm, httl.symm⟩

/-- DynamoDB's cutoff is one nanosecond wider, and the epoch is ancient. -/
theorem readBack_lt_iff {time bound : Int} (hnot : time * 1000000 ≤ bound) :
    readBack time * 1000000 < bound ↔
      (time * 1000000 = bound → time = 0) := by
  by_cases htime : time = 0
  · refine iff_of_true ?_ fun _ => htime
    simp only [readBack, htime, if_true, unixMilli, zeroTime, unixToInternal]
    omega
  · simp only [readBack, htime, if_false, imp_false]
    omega

variable {rows : Postgres.Table} {items : Dynamo.Table}

theorem same_getInstanceConnection (hrelated : Related rows items)
    (session : Session) (cutoff now : Int) :
    Response.Same
      (.row (((rows.lookup session).filter fun row =>
        row.Recent cutoff now).map fun row => row.entity session))
      (Dynamo.getByUserAndSession items session cutoff now) ↔
      Guard cutoff rows ⟨now, .getInstanceConnection session⟩ := by
  have hlookup := hrelated session
  cases hrow : rows.lookup session with
  | none =>
    rw [hrow, Option.map_none] at hlookup
    simp [Dynamo.getByUserAndSession, hlookup, Guard, hrow, Response.Same]
  | some row =>
    rw [hrow, Option.map_some] at hlookup
    simp only [Dynamo.getByUserAndSession, hlookup, fromDynamoMap_marshal,
      Guard, hrow, Option.mem_some_iff, forall_eq']
    by_cases hrecent : row.Recent cutoff now
    · have hnot : ¬ row.lastHeartbeat * 1000000 = cutoffTime cutoff now :=
        fun heq => absurd hrecent (by rw [Postgres.Row.Recent, heq]; omega)
      simp only [hrecent, hnot, true_implies, false_implies, and_true,
        Option.filter_some, decide_true, if_true, Option.map_some,
        ← @entity_eq_readBack session row]
      split
      · rename_i hstale
        refine iff_of_false (by simp [Response.Same]) fun heq => ?_
        rw [readBack_eq_self.mpr (entity_eq_readBack.mp heq).1] at hstale
        exact absurd hrecent (Int.not_lt.mpr (Int.le_of_lt hstale))
      · simp [Response.Same]
    · have hle : row.lastHeartbeat * 1000000 ≤ cutoffTime cutoff now :=
        Int.not_lt.mp hrecent
      simp only [hrecent, false_implies, true_and, Option.filter_some,
        decide_false, Bool.false_eq_true, if_false, Option.map_none,
        ← readBack_lt_iff hle]
      split
      · simp_all [Response.Same]
      · simp_all [Response.Same]

theorem countActive_eq_length
    (pages : List (List (Sigma fun _ : Session => Dynamo.Item))) :
    Dynamo.countActive pages = pages.flatten.length := by
  rw [Dynamo.countActive, ← List.foldl_map, List.length_flatten,
    List.sum_eq_foldl]

theorem queryByUserID_of_flatten_nil
    {pages : List (List (Sigma fun _ : Session => Dynamo.Item))}
    (hpages : pages.flatten = []) :
    Dynamo.queryByUserID pages = .rows [] := by
  have hempty : ∀ page ∈ pages, page = [] := List.flatten_eq_nil_iff.mp hpages
  clear hpages
  induction pages with
  | nil => rfl
  | cons page rest ih =>
    rw [hempty page List.mem_cons_self]
    exact ih fun other hother => hempty other (List.mem_cons_of_mem _ hother)

/-- A number is never greater than a string: no item passes the filter. -/
theorem flatten_query (service : Dynamo.Service) (hrelated : Related rows items)
    (userID : NonEmptyID) (cutoff now : Int) :
    (Dynamo.query service items userID cutoff now).flatten = [] := by
  rw [Dynamo.query, service.flatten_cut, List.filter_eq_nil_iff]
  rintro ⟨session, item⟩ hentry
  have hlookup : items.lookup session = some item :=
    AList.mem_lookup_iff.mpr hentry
  rw [hrelated session] at hlookup
  obtain ⟨row, -, rfl⟩ := Option.map_eq_some_iff.mp hlookup
  simp [marshal, Dynamo.AttributeValue.greaterThan]

theorem select_eq_nil_iff {userID : NonEmptyID} {cutoff now : Int} :
    Postgres.select rows userID cutoff now = [] ↔
      Guard cutoff rows ⟨now, .getActiveConnections userID⟩ := by
  simp [Postgres.select, Guard, List.filter_eq_nil_iff]

theorem same_serve (service : Dynamo.Service) (cutoff : Int)
    (request : Request) (hrelated : Related rows items) :
    Response.Same (Postgres.serve cutoff rows request).2
      (Dynamo.serve service cutoff items request).2 ↔
      Guard cutoff rows request := by
  obtain ⟨now, call⟩ := request
  cases call with
  | getInstanceConnection session =>
    exact same_getInstanceConnection hrelated session cutoff now
  | getActiveConnections userID =>
    rw [← select_eq_nil_iff]
    simp only [Postgres.serve, Dynamo.serve, queryByUserID_of_flatten_nil
      (flatten_query service hrelated userID cutoff now), Response.Same,
      List.perm_nil]
  | countActiveConnections userID =>
    refine Iff.trans ?_ (@select_eq_nil_iff rows userID cutoff now)
    simp only [Postgres.serve, Dynamo.serve, countActive_eq_length,
      flatten_query service hrelated userID cutoff now, Response.Same,
      List.length_nil, Response.count.injEq, List.length_eq_zero_iff]
  | _ => exact iff_of_true rfl trivial

end Reads

/-- The stores agree on a list of requests exactly when every read finds the
table in a state where they have to. -/
theorem agree_iff_meets (service : Dynamo.Service) (cutoff : Int)
    (requests : List Request) :
    Agree service cutoff requests ↔
      Mealy.Meets (Postgres.serve cutoff) (Guard cutoff) ∅ requests := by
  have hempty : Related ∅ ∅ := fun session => by simp
  exact Mealy.forall₂_outputs_iff Related
    (fun _ _ request => related_serve service cutoff request)
    (fun _ _ request => same_serve service cutoff request) hempty requests

def userU : NonEmptyID := ⟨[0x75], by decide⟩

def sessionUI : Session where
  userID := userU
  instanceID := ⟨[0x69], by decide⟩

/-- One page per query. -/
def wholeQuery (rfc3339 : Int → Bytes) : Dynamo.Service where
  rfc3339 := rfc3339
  cut := fun items => [items]
  flatten_cut := fun items => by simp

/-- A user connects and is looked up at once. -/
def connectAndList : List Request :=
  [⟨1700000000000, .addConnection sessionUI [0x70] .gobwas⟩,
    ⟨1700000000000, .getActiveConnections userU⟩,
    ⟨1700000000000, .countActiveConnections userU⟩]

/-- PostgreSQL finds the connection and DynamoDB does not, however a time is
written. -/
theorem connectAndList_differs :
    Mealy.outputs (Postgres.serve 60000000000) ∅ connectAndList =
      [.done, .rows [⟨userU, sessionUI.instanceID, [0x70], .gobwas, .connected,
        1700000000000, 1700000000000, 1700000061000⟩], .count 1] ∧
    ∀ rfc3339 : Int → Bytes,
      Mealy.outputs (Dynamo.serve (wholeQuery rfc3339) 60000000000) ∅
        connectAndList = [.done, .rows [], .count 0] ∧
      ¬ Agree (wholeQuery rfc3339) 60000000000 connectAndList := by
  have hpostgres : Mealy.outputs (Postgres.serve 60000000000) ∅
      connectAndList = [.done, .rows [⟨userU, sessionUI.instanceID, [0x70],
        .gobwas, .connected, 1700000000000, 1700000000000, 1700000061000⟩],
        .count 1] := by decide +kernel
  refine ⟨hpostgres, fun rfc3339 => ?_⟩
  have hdynamo : Mealy.outputs
      (Dynamo.serve (wholeQuery rfc3339) 60000000000) ∅ connectAndList =
      [.done, .rows [], .count 0] := rfl
  refine ⟨hdynamo, ?_⟩
  rw [Agree, hpostgres, hdynamo]
  simp [Response.Same]

end ConnBackends

end Pipewave
