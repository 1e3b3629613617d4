/-
What the server does with one binary message of a client.  Every answer the
handler reads from its surroundings is a field of an environment, and every
action it takes on them is listed, so that each state of the rate limiter,
the deduplicator and the acknowledgement manager is covered.
-/
import Pipewave.Auth
import Pipewave.MessageType

namespace Pipewave

open Wire

namespace ClientMsgHandler

inductive Outcome where
  | ok
  | error
  | invalidSchema
  | dedup
  | rateLimited
deriving Repr, DecidableEq

/-- The answers of the handler's collaborators to the calls it makes. -/
structure Env where
  allow : Bool
  shouldUpdate : Bytes → Bool
  resolveAck : Bytes → Bool
  resolveRemoteAck : Bytes → Option Bytes
  isDuplicate : Bytes → Bool
  newUUID : Bytes
  /-- The registered connection, and whether it takes a coded close. -/
  connection : Option Bool
  invalidInputSchema : WireError → Bytes
  rateLimitExceeded : Bytes
  handleMessage : WebsocketAuth → Bytes → Option Bytes →
    Except Bytes (Bytes × Option Bytes)

/-- The calls that change something outside the handler. -/
inductive Effect where
  | allow (auth : WebsocketAuth)
  | updateHeartBeat (userID instanceID : Bytes)
  | updateLastHeartbeat (userID : Bytes)
  | resolveAck (ackID : Bytes)
  | resolveRemoteAck (ackID : Bytes)
  | publishAckResolved (containerID ackID : Bytes)
  | isDuplicate (key : Bytes)
  | handleMessage (auth : WebsocketAuth) (msgType : Bytes)
      (binary : Option Bytes)
  | closeWithReason (code : Nat) (reason : String)
  | send (data : Bytes)
deriving DecidableEq

/-- The arm of the handler that ran. -/
inductive Branch where
  | undecodable
  | heartbeat
  | ack
  | user
deriving Repr, DecidableEq

structure Handled where
  branch : Branch
  effects : List Effect
  response : Option WebsocketResponse := none
  outcome : Outcome := .ok
  rawMsgType : Bytes := []

def hearbeatResMsg : WebsocketResponse := { msgType := messageTypeHeartbeat }

/-- The close code of a protocol error. -/
def versionMismatchCloseCode : Nat := 1002

def versionMismatchCloseReason : String := "wire protocol version mismatch"

def closeOnVersionMismatch (env : Env) : List Effect :=
  match env.connection with
  | none => []
  | some false => []
  | some true =>
    [.closeWithReason versionMismatchCloseCode versionMismatchCloseReason]

/-- The bytes of `s:` and `u:`, which keep the two throttles apart. -/
def sessionThrottleKey (auth : WebsocketAuth) : Bytes :=
  [0x73, 0x3A] ++ auth.instanceID
def userThrottleKey (auth : WebsocketAuth) : Bytes :=
  [0x75, 0x3A] ++ auth.userID

def handleHeartbeat (env : Env) (auth : WebsocketAuth) : List Effect :=
  (if env.shouldUpdate (sessionThrottleKey auth) then
    [.updateHeartBeat auth.userID auth.instanceID] else []) ++
  (if env.shouldUpdate (userThrottleKey auth) then
    [.updateLastHeartbeat auth.userID] else [])

def handleUndecodable (env : Env) (err : WireError) : Handled :=
  if err = .version then
    { branch := .undecodable, effects := closeOnVersionMismatch env,
      outcome := .invalidSchema }
  else
    { branch := .undecodable, effects := [],
      response := some { msgType := messageTypeError,
                         error := env.invalidInputSchema err },
      outcome := .invalidSchema }

def handleHeartbeatMsg (env : Env) (auth : WebsocketAuth)
    (msg : WebsocketResquest) : Handled :=
  if env.allow then
    { branch := .heartbeat, effects := .allow auth :: handleHeartbeat env auth,
      response := some hearbeatResMsg, rawMsgType := msg.msgType }
  else
    { branch := .heartbeat, effects := [.allow auth], outcome := .rateLimited,
      rawMsgType := msg.msgType }

def ackEffects (env : Env) (ackID : Bytes) : List Effect :=
  if ackID = [] then []
  else if env.resolveAck ackID then [.resolveAck ackID]
  else match env.resolveRemoteAck ackID with
    | none => [.resolveAck ackID, .resolveRemoteAck ackID]
    | some sourceContainerID =>
      [.resolveAck ackID, .resolveRemoteAck ackID,
        .publishAckResolved sourceContainerID ackID]

def handleAckMsg (env : Env) (auth : WebsocketAuth)
    (msg : WebsocketResquest) : Handled :=
  if env.allow then
    { branch := .ack,
      effects := .allow auth :: ackEffects env (msg.binary.getD []),
      rawMsgType := msg.msgType }
  else
    { branch := .ack, effects := [.allow auth], outcome := .rateLimited,
      rawMsgType := msg.msgType }

/-- The user's handler ran; an empty response type asks for no response. -/
def handleAnswer (env : Env) (auth : WebsocketAuth)
    (msg : WebsocketResquest) (before : List Effect) : Handled :=
  let effects := before ++ [.handleMessage auth msg.msgType msg.binary]
  match env.handleMessage auth msg.msgType msg.binary with
  | .error text =>
    { branch := .user, effects,
      response := some { id := env.newUUID, responseToId := msg.id,
                         msgType := msg.msgType, error := text },
      outcome := .error, rawMsgType := msg.msgType }
  | .ok (msgType, res) =>
    if msgType = [] then
      { branch := .user, effects, rawMsgType := msg.msgType }
    else
      { branch := .user, effects,
        response := some { id := env.newUUID, responseToId := msg.id,
                           msgType, binary := res },
        rawMsgType := msg.msgType }

def handleUserMsg (env : Env) (auth : WebsocketAuth)
    (msg : WebsocketResquest) : Handled :=
  let key := msg.id ++ auth.instanceID
  if !env.allow then
    { branch := .user, effects := [.allow auth],
      response := some { id := env.newUUID, responseToId := msg.id,
                         msgType := msg.msgType,
                         error := env.rateLimitExceeded },
      outcome := .rateLimited, rawMsgType := msg.msgType }
  else if msg.id = [] then handleAnswer env auth msg [.allow auth]
  else if env.isDuplicate key then
    { branch := .user, effects := [.allow auth, .isDuplicate key],
      outcome := .dedup, rawMsgType := msg.msgType }
  else handleAnswer env auth msg [.allow auth, .isDuplicate key]

def dispatch (env : Env) (auth : WebsocketAuth)
    (msg : WebsocketResquest) : Handled :=
  if msg.msgType = messageTypeHeartbeat then handleHeartbeatMsg env auth msg
  else if msg.msgType = messageTypeAck then handleAckMsg env auth msg
  else handleUserMsg env auth msg

/-- The deferred send: a response that does not fit the wire is dropped. -/
def sendResponse (handled : Handled) : Handled :=
  match handled.response.bind WebsocketResponse.marshall with
  | none => handled
  | some data => { handled with effects := handled.effects ++ [.send data] }

/-- `handleMessage`; `none` is a panic of the decoder. -/
def handleMessage (env : Env) (auth : WebsocketAuth) (clientMsg : Bytes) :
    Option Handled :=
  match WebsocketResquest.unmarshall clientMsg with
  | .error .outOfRange => none
  | .error (.err err) => some (sendResponse (handleUndecodable env err))
  | .ok msg => some (sendResponse (dispatch env auth msg))

theorem unmarshall_ne_outOfRange (data : Bytes) :
    WebsocketResquest.unmarshall data ≠ .error .outOfRange := by
  rw [WebsocketResquest.unmarshall_eq, decode_eq_parse]
  cases parse data <;> simp [Except.mapError]

/-- No message of a client makes the handler panic. -/
theorem handleMessage_isSome (env : Env) (auth : WebsocketAuth)
    (clientMsg : Bytes) : (handleMessage env auth clientMsg).isSome := by
  cases hunmarshall : WebsocketResquest.unmarshall clientMsg with
  | ok msg => simp [handleMessage, hunmarshall]
  | error stop =>
    cases stop with
    | err e => simp [handleMessage, hunmarshall]
    | outOfRange => exact absurd hunmarshall (unmarshall_ne_outOfRange _)

@[simp] theorem sendResponse_branch (handled : Handled) :
    (sendResponse handled).branch = handled.branch := by
  unfold sendResponse
  split <;> rfl

/-- The arm of a decoded message is decided by its message type alone. -/
theorem dispatch_branch (env : Env) (auth : WebsocketAuth)
    (msg : WebsocketResquest) :
    (dispatch env auth msg).branch =
      if msg.msgType = messageTypeHeartbeat then .heartbeat
      else if msg.msgType = messageTypeAck then .ack else .user := by
  have hheartbeat : (handleHeartbeatMsg env auth msg).branch = .heartbeat := by
    unfold handleHeartbeatMsg
    split <;> rfl
  have hack : (handleAckMsg env auth msg).branch = .ack := by
    unfold handleAckMsg
    split <;> rfl
  have hanswer : ∀ before,
      (handleAnswer env auth msg before).branch = .user := by
    intro before
    unfold handleAnswer
    split
    · rfl
    · split <;> rfl
  have huser : (handleUserMsg env auth msg).branch = .user := by
    simp only [handleUserMsg]
    split
    · rfl
    · split
      · exact hanswer _
      · split
        · rfl
        · exact hanswer _
  unfold dispatch
  split
  · exact hheartbeat
  · split
    · exact hack
    · exact huser

/-- A decoded message is treated as a control message only for control frames
exactly when its message-type bytes are neither sentinel. -/
theorem control_arms_genuine_iff {data : Bytes} {msg : WebsocketResquest}
    (haccepted : WebsocketResquest.unmarshall data = .ok msg) :
    ((msg.msgType = messageTypeHeartbeat ↔ IsControlFrame data 0xCA) ∧
      (msg.msgType = messageTypeAck ↔ IsControlFrame data 0xCB) ∧
      ∀ env auth, ∀ handled ∈ handleMessage env auth data,
        (handled.branch = .heartbeat → IsControlFrame data 0xCA) ∧
          (handled.branch = .ack → IsControlFrame data 0xCB)) ↔
      msgTypeBytes data ≠ messageTypeHeartbeat ∧
        msgTypeBytes data ≠ messageTypeAck := by
  obtain ⟨p, rfl, rfl⟩ := request_unmarshall_eq_ok_iff.mp haccepted
  have hheartbeat := request_msgType_eq_iff p (by decide)
    messageTypeFor_eq_heartbeat_iff
  have hack := request_msgType_eq_iff p (by decide) messageTypeFor_eq_ack_iff
  have hexclusive : ∀ code, IsControlFrame p.bytes code →
      msgTypeBytes p.bytes = [] := by
    intro code hcontrol
    rw [isControlFrame_bytes_iff] at hcontrol
    rw [msgTypeBytes_bytes, hcontrol, Head.name]
  constructor
  · rintro ⟨hhb, hak, -⟩
    constructor
    · intro hname
      have hcontrol := hhb.mp (hheartbeat.mpr (.inr hname))
      rw [hexclusive _ hcontrol] at hname
      exact absurd hname (by decide)
    · intro hname
      have hcontrol := hak.mp (hack.mpr (.inr hname))
      rw [hexclusive _ hcontrol] at hname
      exact absurd hname (by decide)
  · rintro ⟨hnothb, hnotack⟩
    have hhb : p.request.msgType = messageTypeHeartbeat ↔
        IsControlFrame p.bytes 0xCA := by
      rw [hheartbeat, or_iff_left hnothb]
      rfl
    have hak : p.request.msgType = messageTypeAck ↔
        IsControlFrame p.bytes 0xCB := by
      rw [hack, or_iff_left hnotack]
      rfl
    refine ⟨hhb, hak, ?_⟩
    intro env auth handled hhandled
    simp only [handleMessage, haccepted, Option.mem_def,
      Option.some.injEq] at hhandled
    subst hhandled
    rw [sendResponse_branch, dispatch_branch]
    constructor
    · intro hbranch
      by_cases htype : p.request.msgType = messageTypeHeartbeat
      · exact hhb.mp htype
      · rw [if_neg htype] at hbranch
        split at hbranch <;> cases hbranch
    · intro hbranch
      by_cases htype : p.request.msgType = messageTypeHeartbeat
      · rw [if_pos htype] at hbranch
        cases hbranch
      · rw [if_neg htype] at hbranch
        by_cases hacktype : p.request.msgType = messageTypeAck
        · exact hak.mp hacktype
        · rw [if_neg hacktype] at hbranch
          cases hbranch

theorem control_arms_genuine_heartbeat :
    WebsocketResquest.unmarshall [0x01, 0, 0xCA] =
        .ok { msgType := messageTypeHeartbeat, binary := some [] } ∧
      (messageTypeHeartbeat = messageTypeHeartbeat ↔
        IsControlFrame [0x01, 0, 0xCA] 0xCA) :=
  ⟨by decide, ((@control_arms_genuine_iff [0x01, 0, 0xCA]
    { msgType := messageTypeHeartbeat, binary := some [] }
    (by decide)).mpr (by decide)).1⟩

/-- The text 00000000-0000-7000-8000-000000000000. -/
def plainUUID : Bytes :=
  List.replicate 8 0x30 ++ [0x2D, 0x30, 0x30, 0x30, 0x30, 0x2D,
    0x37, 0x30, 0x30, 0x30, 0x2D, 0x38, 0x30, 0x30, 0x30, 0x2D] ++
    List.replicate 12 0x30

/-- An environment that allows everything and answers nothing. -/
def permissive : Env where
  allow := true
  shouldUpdate := fun _ => true
  resolveAck := fun _ => true
  resolveRemoteAck := fun _ => none
  isDuplicate := fun _ => false
  newUUID := plainUUID
  connection := none
  invalidInputSchema := fun _ => []
  rateLimitExceeded := []
  handleMessage := fun _ _ _ => .ok ([], none)

/-- A user message whose type is the heartbeat sentinel is no control frame,
yet it decodes to the heartbeat type and keeps the session alive. -/
theorem user_frame_spoofs_heartbeat :
    let spoof : Bytes := [0x01, 3, 0x00, 0x68, 0x62]
    WebsocketResquest.unmarshall spoof =
        .ok { msgType := messageTypeHeartbeat, binary := some [] } ∧
      ¬ IsControlFrame spoof 0xCA ∧
      ((handleMessage permissive ⟨[1], [2]⟩ spoof).map fun handled =>
        (handled.branch, handled.effects.take 2)) =
          some (.heartbeat, [.allow ⟨[1], [2]⟩, .updateHeartBeat [1] [2]]) := by
  decide

end ClientMsgHandler

end Pipewave
