/-
The admin API, from the route of a request to its answer.  A handler is the
program of its service calls, and every answer of a service is one way on.
-/
import Pipewave.AdminSend
import Pipewave.Calls
import Pipewave.GoTime
import Pipewave.Presence

namespace Pipewave

namespace AdminApi

open AdminSend (Message Targeted Broadcast)
open Presence (SessionInfo)

abbrev ErrorCode := Int

namespace ErrorCode

def start400 : ErrorCode := 10
def errInvalidInput : ErrorCode := 11
def end400 : ErrorCode := 31
def start401 : ErrorCode := 2000
def logicErrMissingAuthHeader : ErrorCode := 2008
def end401 : ErrorCode := 2019
def start404 : ErrorCode := 3000
def end404 : ErrorCode := 3003
def start403 : ErrorCode := 4000
def end403 : ErrorCode := 4009
def start500 : ErrorCode := 6000
def errUnexpectedBussiness : ErrorCode := 6010
def end500 : ErrorCode := 6022
def start500NoTrace : ErrorCode := 8000
def end500NoTrace : ErrorCode := 8003

def httpCode (e : ErrorCode) : Nat :=
  if start400 < e ∧ e < end400 then 400
  else if start401 < e ∧ e < end401 then 401
  else if start403 < e ∧ e < end403 then 403
  else if start404 < e ∧ e < end404 then 404
  else if start500NoTrace < e ∧ e < end500NoTrace then 500
  else if start500 < e ∧ e < end500 then 500
  else 505

end ErrorCode

structure AError where
  code : ErrorCode
  message : String
deriving DecidableEq

/-! ### Services -/

inductive ServiceCall where
  | sendToSession (userID instanceID msgType : Bytes)
      (payload : Option Bytes)
  | sendToSessionWithAck (userID instanceID msgType : Bytes)
      (payload : Option Bytes) (timeout : Int)
  | sendToUser (userID msgType : Bytes) (payload : Option Bytes)
  | sendToUserWithAck (userID msgType : Bytes) (payload : Option Bytes)
      (timeout : Int)
  | sendToUsers (userIDs : List Bytes) (msgType : Bytes)
      (payload : Option Bytes)
  | sendToAll (msgType : Bytes) (payload : Option Bytes)
  | sendToAuthenticated (msgType : Bytes) (payload : Option Bytes)
  | sendToAnonymous (msgType : Bytes) (payload : Option Bytes)
      (isSendAll : Bool) (instanceIDs : List Bytes)
  | disconnectSession (userID instanceID : Bytes)
  | disconnectUser (userID : Bytes)
  | checkOnline (userID : Bytes)
  | checkOnlineMultiple (userIDs : List Bytes)
  | getUserSessions (userID : Bytes)
  | cleanUpExpiredConnections
  | cleanUpExpiredPendingMessages
  | insideActiveConnection
  | totalActiveConnection
  | workerPoolStats
deriving DecidableEq

structure SumaryActiveConnection where
  anonymosConnection : Int
  userConnection : Int
  totalUser : Int
deriving DecidableEq

structure WorkerPoolSummary where
  length : Int
  capacity : Int
  dropped : Int
deriving DecidableEq

namespace ServiceCall

/-- What a call returns beside its error. -/
abbrev Value : ServiceCall → Type
  | .sendToSessionWithAck _ _ _ _ _ => Bool
  | .sendToUserWithAck _ _ _ _ => Bool
  | .checkOnline _ => Bool
  | .checkOnlineMultiple _ => GoMap Bytes Bool
  | .getUserSessions _ => List SessionInfo
  | .insideActiveConnection => SumaryActiveConnection
  | .totalActiveConnection => Int
  | .workerPoolStats => WorkerPoolSummary
  | _ => Unit

def IsCleanUp (call : ServiceCall) : Prop :=
  call = .cleanUpExpiredConnections ∨ call = .cleanUpExpiredPendingMessages

/-- The message a send ends in. -/
def message : ServiceCall → Option Message
  | .sendToSession userID instanceID _ _ =>
    some (.targeted (.sendToSession userID instanceID))
  | .sendToSessionWithAck userID instanceID _ _ _ =>
    some (.targeted (.sendToSessionWithAck userID instanceID))
  | .sendToUser userID _ _ => some (.targeted (.sendToUser userID))
  | .sendToUserWithAck userID _ _ _ =>
    some (.targeted (.sendToUserWithAck userID))
  | .sendToUsers userIDs _ _ => some (.targeted (.sendToUsers userIDs))
  | .sendToAll _ _ => some (.broadcast .sendToAll)
  | .sendToAuthenticated _ _ => some (.broadcast .sendToAuthenticated)
  | .sendToAnonymous _ _ isSendAll instanceIDs =>
    some (.broadcast (.sendToAnonymous isSendAll instanceIDs))
  | _ => none

end ServiceCall

abbrev Answer (call : ServiceCall) := Except AError call.Value

/-! ### Answers -/

structure SessionDTO where
  instanceID : Bytes
  holderID : Bytes
  connectionType : WsCoreType
  status : WsStatus
  connectedAt : Int
deriving DecidableEq

inductive Body where
  | sent
  | acked (ok : Bool)
  | disconnected
  | online (online : Bool)
  | results (results : GoMap Bytes Bool)
  | sessions (sessions : List SessionDTO)
  | ok
  | connections (inside : SumaryActiveConnection) (total : Int)
  | workerPool (stats : WorkerPoolSummary)
  | publicKey (alg : String) (publicKeyInBase64 : Bytes)
  | signatureDisabled
  | healthy (healthy : Bool)
  | error (code : ErrorCode) (message : String)

inductive Response where
  | json (status : Nat) (body : Body)
  | movedPermanently
  | notFound
  | methodNotAllowed

/-- What a handler leaves: its response, or nothing if it panics, in which
case the server closes the connection. -/
abbrev Program := Calls ServiceCall Answer (Option Response)

def writeJSON (status : Nat) (body : Body) : Program :=
  .done (some (.json status body))

def writeAError (aErr : AError) : Program :=
  writeJSON aErr.code.httpCode (.error aErr.code aErr.message)

def writeBadRequest (msg : String) : Program :=
  writeJSON 400 (.error ErrorCode.errInvalidInput msg)

def writeUnauthorized : Program :=
  writeJSON 401 (.error ErrorCode.logicErrMissingAuthHeader
    "missing or invalid API key")

/-- One service call, with its error as the answer. -/
def request (call : ServiceCall) (next : call.Value → Program) : Program :=
  .call call fun
    | .error aErr => writeAError aErr
    | .ok value => next value

/-! ### Handlers -/

structure SendToSessionReq where
  userID : Bytes
  instanceID : Bytes
  msgType : Bytes
  payload : Option Bytes
  ackTimeoutMs : Int

structure SendToUserReq where
  userID : Bytes
  msgType : Bytes
  payload : Option Bytes
  ackTimeoutMs : Int

structure SendToUsersReq where
  userIDs : List Bytes
  msgType : Bytes
  payload : Option Bytes

structure BroadcastReq where
  target : String
  msgType : Bytes
  payload : Option Bytes
  instanceIDs : List Bytes

/-- Decoding of a body with unknown fields disallowed, and the text of several
errors. -/
structure Codec where
  sendToSessionReq : Bytes → Except String SendToSessionReq
  sendToUserReq : Bytes → Except String SendToUserReq
  sendToUsersReq : Bytes → Except String SendToUsersReq
  broadcastReq : Bytes → Except String BroadcastReq
  presenceBatchReq : Bytes → Except String (List Bytes)
  multiError : List AError → String

def decodeBody {α : Type} (decoded : Except String α) (next : α → Program) :
    Program :=
  match decoded with
  | .error err => writeBadRequest ("invalid JSON body: " ++ err)
  | .ok req => next req

/-- Milliseconds as a duration. -/
def millisecond (ms : Int) : Int := GoTime.wrap64 (ms * 1000000)

def sendToSession (req : SendToSessionReq) : Program :=
  if req.userID = [] ∨ req.instanceID = [] ∨ req.msgType = [] then
    writeBadRequest "user_id, instance_id and msg_type are required"
  else if 0 < req.ackTimeoutMs then
    request (.sendToSessionWithAck req.userID req.instanceID req.msgType
      req.payload (millisecond req.ackTimeoutMs)) fun acked =>
        writeJSON 200 (.acked acked)
  else request (.sendToSession req.userID req.instanceID req.msgType
    req.payload) fun _ => writeJSON 200 .sent

def sendToUser (req : SendToUserReq) : Program :=
  if req.userID = [] ∨ req.msgType = [] then
    writeBadRequest "user_id and msg_type are required"
  else if 0 < req.ackTimeoutMs then
    request (.sendToUserWithAck req.userID req.msgType req.payload
      (millisecond req.ackTimeoutMs)) fun acked =>
        writeJSON 200 (.acked acked)
  else request (.sendToUser req.userID req.msgType req.payload) fun _ =>
    writeJSON 200 .sent

def sendToUsers (req : SendToUsersReq) : Program :=
  if req.userIDs = [] ∨ req.msgType = [] then
    writeBadRequest "user_ids and msg_type are required"
  else request (.sendToUsers req.userIDs req.msgType req.payload) fun _ =>
    writeJSON 200 .sent

def broadcast (req : BroadcastReq) : Program :=
  if req.msgType = [] then writeBadRequest "msg_type is required"
  else if req.target = "all" then
    request (.sendToAll req.msgType req.payload) fun _ =>
      writeJSON 200 .sent
  else if req.target = "authenticated" then
    request (.sendToAuthenticated req.msgType req.payload) fun _ =>
      writeJSON 200 .sent
  else if req.target = "anonymous" then
    request (.sendToAnonymous req.msgType req.payload
      req.instanceIDs.isEmpty req.instanceIDs) fun _ => writeJSON 200 .sent
  else writeBadRequest
    "target must be one of \"all\", \"authenticated\", \"anonymous\""

def disconnectSession (userID instanceID : Bytes) : Program :=
  request (.disconnectSession userID instanceID) fun _ =>
    writeJSON 200 .disconnected

def disconnectUser (userID : Bytes) : Program :=
  request (.disconnectUser userID) fun _ => writeJSON 200 .disconnected

def checkOnline (userID : Bytes) : Program :=
  request (.checkOnline userID) fun online => writeJSON 200 (.online online)

def checkOnlineBatch (userIDs : List Bytes) : Program :=
  if userIDs = [] then writeBadRequest "user_ids is required"
  else request (.checkOnlineMultiple userIDs) fun results =>
    writeJSON 200 (.results results)

def sessionDTO (s : SessionInfo) : SessionDTO where
  instanceID := s.instanceID.1
  holderID := s.holderID
  connectionType := s.connectionType
  status := s.status
  connectedAt := s.connectedAt

def getUserSessions (userID : Bytes) : Program :=
  request (.getUserSessions userID) fun sessions =>
    writeJSON 200 (.sessions (sessions.map sessionDTO))

inductive Repository where
  | postgres
  | dynamoDB

/-- The services as they are handed out. -/
structure GetServices where
  repo : Option Repository

/-- `Services` fills in the websocket services and leaves `repo` nil. -/
def services : GetServices where
  repo := none

/-- `aerror.Append`, which appends twice to nil. -/
def appendError (multiErr : Option (List AError)) (aErr : AError) :
    Option (List AError) :=
  some ((multiErr.getD [aErr]) ++ [aErr])

def cleanUpErrors (err1 err2 : Except AError Unit) : Option (List AError) :=
  let add (multiErr : Option (List AError)) :
      Except AError Unit → Option (List AError)
    | .error aErr => appendError multiErr aErr
    | .ok _ => multiErr
  add (add none err1) err2

/-- `CleanUp` and its handler. -/
def cleanup (codec : Codec) (g : GetServices) : Program :=
  match g.repo with
  | none => .done none
  | some _ =>
    .call .cleanUpExpiredConnections fun err1 =>
      .call .cleanUpExpiredPendingMessages fun err2 =>
        match cleanUpErrors err1 err2 with
        | none => writeJSON 200 .ok
        | some errors => writeAError
            { code := ErrorCode.errUnexpectedBussiness
              message := codec.multiError errors }

def monitoringConnections : Program :=
  request .insideActiveConnection fun inside =>
    request .totalActiveConnection fun total =>
      writeJSON 200 (.connections inside total)

def monitoringWorkerPool : Program :=
  request .workerPoolStats fun stats => writeJSON 200 (.workerPool stats)

structure PublicKeyVerifier where
  alg : String
  publicKeyInBase64 : Bytes

def webhookPublicKey (publicKey : PublicKeyVerifier) : Program :=
  if publicKey.publicKeyInBase64 = [] then writeJSON 404 .signatureDisabled
  else writeJSON 200
    (.publicKey publicKey.alg publicKey.publicKeyInBase64)

/-! ### Routes -/

inductive Method where
  | get
  | head
  | post
  | delete
  | other
deriving DecidableEq

/-- A pattern with method GET also matches HEAD. -/
def Method.pattern : Method → Method
  | .head => .get
  | method => method

inductive Segment where
  | literal (text : String)
  | wildcard
deriving DecidableEq

def utf8 (text : String) : Bytes := text.toUTF8.data.toList

/-- The values of the wildcards.  The path comes in its unescaped segments, a
final slash as one of its own, which no wildcard matches. -/
def matchPath : List Segment → List Bytes → Option (List Bytes)
  | [], [] => some []
  | .literal text :: pattern, segment :: rest =>
    if segment = utf8 text then matchPath pattern rest else none
  | .wildcard :: pattern, segment :: rest =>
    if segment = utf8 "/" then none
    else (matchPath pattern rest).map (segment :: ·)
  | _, _ => none

inductive Endpoint where
  | sendToSession
  | sendToUser
  | sendToUsers
  | broadcast
  | disconnectSession
  | disconnectUser
  | getUserSessions
  | checkOnline
  | checkOnlineBatch
  | cleanup
  | monitoringConnections
  | monitoringWorkerPool
  | webhookPublicKey
deriving DecidableEq

/-- The patterns of the inner mux behind `/api/v1`. -/
def patterns : List (Method × List Segment × Endpoint) :=
  [(.post, [.literal "messages", .literal "session"], .sendToSession),
    (.post, [.literal "messages", .literal "user"], .sendToUser),
    (.post, [.literal "messages", .literal "users"], .sendToUsers),
    (.post, [.literal "messages", .literal "broadcast"], .broadcast),
    (.delete, [.literal "sessions", .wildcard, .wildcard],
      .disconnectSession),
    (.delete, [.literal "sessions", .wildcard], .disconnectUser),
    (.get, [.literal "sessions", .wildcard], .getUserSessions),
    (.get, [.literal "presence", .wildcard], .checkOnline),
    (.post, [.literal "presence", .literal "batch"], .checkOnlineBatch),
    (.post, [.literal "maintenance", .literal "cleanup"], .cleanup),
    (.get, [.literal "monitoring", .literal "connections"],
      .monitoringConnections),
    (.get, [.literal "monitoring", .literal "worker-pool"],
      .monitoringWorkerPool),
    (.get, [.literal "webhook", .literal "public-key"], .webhookPublicKey)]

/-- The endpoint of a path below `/api/v1` and its path values. -/
def route (method : Method) (path : List Bytes) :
    Option (Endpoint × List Bytes) :=
  patterns.findSome? fun entry =>
    if entry.1 = method.pattern then
      (matchPath entry.2.1 path).map fun values => (entry.2.2, values)
    else none

structure Request where
  method : Method
  path : List Bytes
  /-- Whether the path is the cleaned one, or stays as it is for `CONNECT`. -/
  clean : Bool
  authorization : Bytes
  body : Bytes

structure MuxConfig where
  apiKeys : List Bytes
  publicKey : PublicKeyVerifier
  codec : Codec
  trimSpace : Bytes → Bytes

def bearer : Bytes := utf8 "Bearer "

def matchAnyKey (got : Bytes) (keys : List Bytes) : Bool :=
  keys.foldl (fun ok k => if got = k then true else ok) false

/-- The check of `requireAPIKey`. -/
def MuxConfig.hasKey (cfg : MuxConfig) (authz : Bytes) : Bool :=
  if bearer.isPrefixOf authz then
    let got := cfg.trimSpace (authz.drop bearer.length)
    !(got == []) && matchAnyKey got cfg.apiKeys
  else false

def MuxConfig.handle (cfg : MuxConfig) (body : Bytes) :
    Endpoint → List Bytes → Program
  | .sendToSession, _ =>
    decodeBody (cfg.codec.sendToSessionReq body) sendToSession
  | .sendToUser, _ => decodeBody (cfg.codec.sendToUserReq body) sendToUser
  | .sendToUsers, _ =>
    decodeBody (cfg.codec.sendToUsersReq body) sendToUsers
  | .broadcast, _ => decodeBody (cfg.codec.broadcastReq body) broadcast
  | .disconnectSession, values =>
    disconnectSession (values.getD 0 []) (values.getD 1 [])
  | .disconnectUser, values => disconnectUser (values.getD 0 [])
  | .getUserSessions, values => getUserSessions (values.getD 0 [])
  | .checkOnline, values => checkOnline (values.getD 0 [])
  | .checkOnlineBatch, _ =>
    decodeBody (cfg.codec.presenceBatchReq body) checkOnlineBatch
  | .cleanup, _ => cleanup cfg.codec services
  | .monitoringConnections, _ => monitoringConnections
  | .monitoringWorkerPool, _ => monitoringWorkerPool
  | .webhookPublicKey, _ => webhookPublicKey cfg.publicKey

/-- The inner mux.  A path that only another method has is not allowed. -/
def MuxConfig.api (cfg : MuxConfig) (request : Request) (path : List Bytes) :
    Program :=
  match route request.method path with
  | some (endpoint, values) => cfg.handle request.body endpoint values
  | none =>
    if patterns.any fun entry => (matchPath entry.2.1 path).isSome then
      .done (some .methodNotAllowed)
    else .done (some .notFound)

/-- The path below `/api/v1`. -/
def Request.apiPath (request : Request) : Option (List Bytes) :=
  match request.path with
  | first :: second :: rest =>
    if first = utf8 "api" ∧ second = utf8 "v1" then some rest else none
  | _ => none

/-- What `/healthz` reads: the module's flag and the extra source, if set. -/
structure Health where
  isHealthy : Bool
  extraHealthy : Option Bool

def Health.healthy (health : Health) : Bool :=
  health.isHealthy && health.extraHealthy.getD true

/-- `NewAdminMux`. -/
def MuxConfig.serve (cfg : MuxConfig) (health : Health) (request : Request) :
    Program :=
  if !request.clean then .done (some .movedPermanently)
  else
    match request.apiPath with
    | some [] => .done (some .movedPermanently)
    | some (segment :: rest) =>
      if cfg.hasKey request.authorization then
        cfg.api request (segment :: rest)
      else writeUnauthorized
    | none =>
      if request.path = [utf8 "healthz"] then
        if request.method.pattern = .get then
          writeJSON (if health.healthy then 200 else 503)
            (.healthy health.healthy)
        else .done (some .methodNotAllowed)
      else .done (some .notFound)

/-- The requests one after another. -/
def MuxConfig.serveAll (cfg : MuxConfig) :
    List (Health × Request) →
      Calls ServiceCall Answer (List (Option Response))
  | [] => .done []
  | (health, request) :: rest =>
    (cfg.serve health request).bind fun response =>
      (cfg.serveAll rest).bind fun responses =>
        .done (response :: responses)

end AdminApi

end Pipewave
