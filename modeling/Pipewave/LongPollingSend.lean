/-
Messages that a long polling client posts.  `POST /lp-send` reads the body
through a limiting reader and hands it to the handler that gets the payloads
of binary websocket frames, too.
-/
import Pipewave.AnonInstance
import Pipewave.ClientMsgHandler
import Pipewave.ConnectionManager
import Pipewave.FrameLoop

namespace Pipewave

namespace LongPollingSend

def maxLPBodySize : Nat := 1 <<< 20

/-- The headers that the endpoint reads; an empty one is missing. -/
structure Headers where
  authorization : Bytes
  pipewaveID : Bytes
deriving Repr, DecidableEq

/-- `failed` says that a read which the limiting reader passes on fails. -/
structure Body where
  bytes : Bytes
  failed : Bool
deriving Repr, DecidableEq

structure Request where
  headers : Headers
  body : Body
deriving Repr, DecidableEq

inductive Connection where
  | websocket
  | longPolling (closed : Bool)
deriving Repr, DecidableEq

/-- What the endpoint asks.  `inspectToken` returns the user name and whether
the token is an anonymous one, and is `none` if it is not configured; `now` is
the time at which the signer checks the age of an instance id. -/
structure Server where
  inspectToken : Option (Headers → Except String (Bytes × Bool))
  signer : AnonInstance.Signer
  now : Int
  connectionMgr : ConnectionMap
  conns : ConnID → Connection

inductive Reply where
  | error (text : String) (status : Nat)
  /-- 202. -/
  | accepted
  | panics
deriving Repr, DecidableEq

/-- `handed` is what `HandleBinMessage` is called with. -/
structure Outcome where
  reply : Reply
  handed : Option (Bytes × WebsocketAuth)
deriving Repr, DecidableEq

/-- A nil `Option` of the auth constructors is their panic. -/
def orPanic : Option WebsocketAuth → Except Reply WebsocketAuth
  | none => .error .panics
  | some auth => .ok auth

def authenticate (s : Server) (h : Headers) : Except Reply WebsocketAuth :=
  if h.authorization = [] then
    .error (.error "Missing Authorization header" 401)
  else match s.inspectToken with
    | none => .error .panics
    | some inspectToken => match inspectToken h with
      | .error err => .error (.error err 401)
      | .ok (_, true) =>
        match s.signer.readAnonymousInstanceID h.pipewaveID s.now with
        | none => .error (.error ("Missing or invalid anonymous instance " ++
            "id; call /issue-tmp-token first") 400)
        | some instanceID => orPanic (anonymousUserWebsocketAuth instanceID)
      | .ok (username, false) =>
        if h.pipewaveID = [] then
          .error (.error "Missing X-Pipewave-ID header" 400)
        else orPanic (userWebsocketAuth username h.pipewaveID)

def locate (s : Server) (auth : WebsocketAuth) : Except Reply Unit :=
  match s.connectionMgr.getConnection auth with
  | none => .error (.error "no active polling session" 404)
  | some conn => match s.conns conn with
    | .websocket =>
      .error (.error "session is not a long polling connection" 400)
    | .longPolling true =>
      .error (.error "polling session has been closed" 410)
    | .longPolling false => .ok ()

/-- The limiting reader ends the body without an error. -/
def readBody (body : Body) : Except Reply Bytes :=
  if body.failed = true then
    .error (.error "failed to read request body" 400)
  else
    let read := body.bytes.take maxLPBodySize
    if read.length = 0 then .error (.error "empty body" 400) else .ok read

def longPollingSend (s : Server) (r : Request) : Outcome :=
  match authenticate s r.headers with
  | .error reply => ⟨reply, none⟩
  | .ok auth => match locate s auth with
    | .error reply => ⟨reply, none⟩
    | .ok () => match readBody r.body with
      | .error reply => ⟨reply, none⟩
      | .ok body => ⟨.accepted, some (body, auth)⟩

/-! ### The websocket path -/

open FrameLoop

/-- What `processClientMessage` calls `onBinMessage` with, if it does. -/
def onBinMessage (ws : Gobwas) (t : Turn) : Option Bytes :=
  match t.read with
  | .headerEnd | .headerError _ => none
  | .frame h available =>
    if maxFrameSize < h.length then none
    else match readFull h.length available with
      | none => none
      | some payload => match validateFrame h with
        | some _ => none
        | none =>
          if h.opCode = opBinary ∧ h.fin = true then
            some (if h.masked then ws.cipher payload h.mask else payload)
          else none

/-- A final binary frame whose payload is the message, as a client sends it
with or without a mask. -/
def binaryFrame (ws : Gobwas) (m : Bytes) (masked : Bool) (mask : Bytes) :
    Read :=
  .frame
    { fin := true, rsv := 0, opCode := opBinary, masked, mask,
      length := m.length }
    (some (if masked then ws.cipher m mask else m))

section Frames

variable {ws : Gobwas}

variable {t : Turn}

/-- A payload handed over runs the message handler. -/
theorem processClientMessage_of_onBinMessage {payload : Bytes}
    (hhanded : onBinMessage ws t = some payload) (c : Conn) :
    ∃ h available, t.read = .frame h available ∧
      processClientMessage ws c t = t.handler.foldl Conn.act
        { c with dispatched := c.dispatched ++ [h] } := by
  unfold onBinMessage at hhanded
  split at hhanded
  · cases hhanded
  · cases hhanded
  next h available hread =>
    refine ⟨h, available, hread, ?_⟩
    rw [Option.ite_none_left_eq_some] at hhanded
    obtain ⟨hsize, hhanded⟩ := hhanded
    split at hhanded
    · cases hhanded
    next read hfull =>
      split at hhanded
      · cases hhanded
      next hvalid =>
        rw [Option.ite_none_right_eq_some] at hhanded
        obtain ⟨⟨hop, hfin⟩, -⟩ := hhanded
        simp [processClientMessage, hread, hsize, hfull, hvalid, handleFrame,
          handleOpCode, hop, hfin, opText, opBinary]

theorem handleOpCode_handler {h : Header} (htext : h.opCode ≠ opText)
    (hbinary : h.opCode = opBinary →
      h.fin = false) (c : Conn) (payload : Bytes) (acts : List Act) :
    handleOpCode c h payload { t with handler := acts } =
      handleOpCode c h payload t := by
  simp only [handleOpCode, if_neg htext]
  by_cases hop : h.opCode = opBinary
  · simp only [if_pos hop, if_pos (hbinary hop)]
  · simp only [if_neg hop]
    rfl

/-- With nothing handed over the handler is not asked, a text frame apart. -/
theorem processClientMessage_of_not_onBinMessage
    (hnone : onBinMessage ws t = none)
    (htext : ∀ h available, t.read = .frame h available → h.opCode ≠ opText)
    (c : Conn) (acts : List Act) :
    processClientMessage ws c { t with handler := acts } =
      processClientMessage ws c t := by
  unfold processClientMessage
  simp only
  split
  · rfl
  · rfl
  next h available hread =>
    have hop := htext h available hread
    simp only [onBinMessage, hread] at hnone
    split
    · rfl
    next hsize =>
      rw [if_neg hsize] at hnone
      split
      · rfl
      next payload hfull =>
        simp only [hfull] at hnone
        split
        · rfl
        next hvalid =>
          simp only [hvalid] at hnone
          have hbinary : h.opCode = opBinary → h.fin = false := by
            intro hop
            apply eq_false_of_ne_true
            intro hfin
            rw [if_pos ⟨hop, hfin⟩] at hnone
            cases hnone
          simp only [handleFrame, handleOpCode_handler hop hbinary]

/-- A frame within the limit hands its message over, masked or not. -/
theorem onBinMessage_binaryFrame {m : Bytes} {masked : Bool} {mask : Bytes}
    (hread : t.read = binaryFrame ws m masked mask) :
    onBinMessage ws t = if m.length ≤ maxFrameSize then some m else none := by
  have hsent : (if masked then ws.cipher m mask else m).length = m.length := by
    split
    · exact ws.length_cipher m mask
    · rfl
  have hfull : readFull m.length
      (some (if masked then ws.cipher m mask else m)) =
        some (if masked then ws.cipher m mask else m) := by
    rw [readFull]
    split
    next hzero =>
      rw [List.length_eq_zero_iff.mp (hsent.trans hzero)]
    · rw [Option.filter_some, if_pos (decide_eq_true hsent)]
  have hvalid : validateFrame
      { fin := true, rsv := 0, opCode := opBinary, masked, mask,
        length := m.length } = none := by
    simp [validateFrame, opContinuation, opText, opBinary, opClose]
  have hback : (if masked then
      ws.cipher (if masked then ws.cipher m mask else m) mask else
        (if masked then ws.cipher m mask else m)) = m := by
    cases masked with
    | false => rfl
    | true => exact ws.cipher_cipher m mask
  simp only [onBinMessage, hread, binaryFrame, hfull, hvalid, and_self,
    if_true, hback]
  by_cases hsize : m.length ≤ maxFrameSize
  · rw [if_pos hsize, if_neg (Nat.not_lt.mpr hsize)]
  · rw [if_neg hsize, if_pos (Nat.not_le.mp hsize)]

end Frames

/-! ### The two transports -/

/-- The request is authenticated, and its session polls and is open. -/
def OpenSession (s : Server) (h : Headers) (auth : WebsocketAuth) : Prop :=
  authenticate s h = .ok auth ∧ locate s auth = .ok ()

/-- The client is told that its message was not taken. -/
def Outcome.Rejected (o : Outcome) : Prop :=
  o.handed = none ∧ ∃ text status, o.reply = .error text status

/-- Posting the message does what sending it in a frame does. -/
structure SameAsFrame (ws : Gobwas) (m : Bytes) : Prop where
  handsOrRejects : ∀ s h auth failed, OpenSession s h auth →
    (longPollingSend s ⟨h, m, failed⟩).handed = some (m, auth) ∨
      (longPollingSend s ⟨h, m, failed⟩).Rejected
  handsOver : ∀ s h auth t masked mask, OpenSession s h auth →
    t.read = binaryFrame ws m masked mask →
      ((longPollingSend s ⟨h, m, false⟩).handed = some (m, auth) ↔
        m ≠ [] ∧ onBinMessage ws t = some m)
  sameMessage : ∀ s h auth t masked mask, OpenSession s h auth →
    t.read = binaryFrame ws m masked mask → ∀ body auth' payload,
      (longPollingSend s ⟨h, m, false⟩).handed = some (body, auth') →
      onBinMessage ws t = some payload →
        WebsocketResquest.unmarshall body =
          WebsocketResquest.unmarshall payload

variable {s : Server} {h : Headers} {auth : WebsocketAuth} {m : Bytes}

theorem longPollingSend_of_open (hopen : OpenSession s h auth) (body : Body) :
    longPollingSend s ⟨h, body⟩ = match readBody body with
      | .error reply => ⟨reply, none⟩
      | .ok body => ⟨.accepted, some (body, auth)⟩ := by
  simp only [longPollingSend, hopen.1, hopen.2]

theorem readBody_of_nonempty (hm : m ≠ []) :
    readBody ⟨m, false⟩ = .ok (m.take maxLPBodySize) := by
  have hlength : ¬ (m.take maxLPBodySize).length = 0 := by
    rw [List.length_take]
    have hpos := List.length_pos_iff.mpr hm
    have hmax : 0 < maxLPBodySize := by decide
    omega
  simp only [readBody, Bool.false_eq_true, if_false, if_neg hlength]

/-- What the endpoint does with a body that arrives. -/
theorem handed_of_open (hopen : OpenSession s h auth) (hm : m ≠ []) :
    longPollingSend s ⟨h, m, false⟩ =
      ⟨.accepted, some (m.take maxLPBodySize, auth)⟩ := by
  rw [longPollingSend_of_open hopen, readBody_of_nonempty hm]

theorem rejected_nil (hopen : OpenSession s h auth) :
    (longPollingSend s ⟨h, [], false⟩).Rejected := by
  rw [longPollingSend_of_open hopen]
  exact ⟨rfl, _, _, rfl⟩

theorem rejected_of_failed (hopen : OpenSession s h auth) (m : Bytes) :
    (longPollingSend s ⟨h, m, true⟩).Rejected := by
  rw [longPollingSend_of_open hopen]
  exact ⟨rfl, _, _, rfl⟩

/-! A server with one open session of one user. -/

def soleAuth : WebsocketAuth := ⟨[0x75], [0x31]⟩

def soleServer : Server where
  inspectToken := some fun _ => .ok ([0x75], false)
  signer := AnonInstance.letterSigner
  now := 0
  connectionMgr := ConnectionMap.addConnection {} soleAuth 0
  conns := fun _ => .longPolling false

def soleHeaders : Headers := ⟨[0x74], [0x31]⟩

theorem open_sole : OpenSession soleServer soleHeaders soleAuth := by
  constructor
  · rfl
  · rfl

theorem length_le_of_sameAsFrame {ws : Gobwas} (hsame : SameAsFrame ws m) :
    m.length ≤ maxLPBodySize := by
  by_cases hm : m = []
  · rw [hm]
    exact Nat.zero_le _
  · have hsole := hsame.handsOrRejects _ _ _ false open_sole
    rw [handed_of_open open_sole hm] at hsole
    obtain hhanded | ⟨hnone, -⟩ := hsole
    · simp only [Option.some.injEq, Prod.mk.injEq, and_true] at hhanded
      rw [← hhanded]
      exact List.length_take_le _ _
    · cases hnone

/-- Posting a message is the same as sending it in a frame exactly as long as
the message is within the limit of both. -/
theorem sameAsFrame_iff (ws : Gobwas) (m : Bytes) :
    SameAsFrame ws m ↔ m.length ≤ maxLPBodySize := by
  refine ⟨length_le_of_sameAsFrame, fun hlength => ?_⟩
  have htake : m.take maxLPBodySize = m := List.take_of_length_le hlength
  have hsize : m.length ≤ maxFrameSize := hlength
  have hframe : ∀ t masked mask, t.read = binaryFrame ws m masked mask →
      onBinMessage ws t = some m := by
    intro t masked mask hread
    rw [onBinMessage_binaryFrame hread, if_pos hsize]
  refine ⟨fun s h auth failed hopen => ?_,
    fun s h auth t masked mask hopen hread => ?_,
    fun s h auth t masked mask hopen hread body auth' payload hbody
      hpayload => ?_⟩
  · cases failed with
    | true => exact .inr (rejected_of_failed hopen m)
    | false =>
      by_cases hm : m = []
      · rw [hm]
        exact .inr (rejected_nil hopen)
      · rw [handed_of_open hopen hm, htake]
        exact .inl rfl
  · rw [hframe t masked mask hread]
    by_cases hm : m = []
    · have hrejected := (rejected_nil hopen).1
      rw [hm, hrejected]
      simp
    · rw [handed_of_open hopen hm, htake]
      simp [hm]
  · rw [hframe t masked mask hread] at hpayload
    have hm : m ≠ [] := by
      rintro rfl
      rw [(rejected_nil hopen).1] at hbody
      cases hbody
    rw [handed_of_open hopen hm, htake] at hbody
    cases hbody
    cases hpayload
    rfl

/-- A message of type `m` whose binary part has the given length. -/
def plainMessage (length : Nat) : Wire.V1Frame where
  head := .msgType ⟨[0x6d], by decide⟩ (by decide)
  id := none
  responseToID := none
  ackID := none
  error := none
  binary := List.replicate length 0x61

theorem bytes_plainMessage (length : Nat) : (plainMessage length).bytes =
    0x01 :: 0x01 :: 0x6d :: List.replicate length 0x61 := by
  have hfirst : (plainMessage length).first = 0x01 := by
    change Wire.versionByte false false false false = 0x01
    decide
  have hhead : (plainMessage length).head.bytes = [0x01, 0x6d] := rfl
  rw [Wire.V1Frame.bytes, Wire.V1Frame.body, hfirst, hhead]
  rfl

/-- One byte less on the wire is one byte less of the binary part. -/
theorem take_plainMessage (length : Nat) :
    (plainMessage (length + 1)).bytes.take (length + 3) =
      (plainMessage length).bytes := by
  simp only [bytes_plainMessage, List.take_succ_cons, List.take_replicate]
  congr 5
  omega

theorem request_plainMessage_ne (length : Nat) :
    (plainMessage length).request ≠ (plainMessage (length + 1)).request := by
  intro hsame
  have hbinary := congrArg WebsocketResquest.binary hsame
  have hlength := congrArg List.length (Option.some.inj hbinary)
  simp only [plainMessage, List.length_replicate] at hlength
  omega

/-- A message one byte over the limit is answered with 202 and handed over
without its last byte, which decodes to another message; the frame is
refused. -/
theorem plainMessage_cut (ws : Gobwas) {length : Nat}
    (hlimit : length + 3 = maxLPBodySize) :
    longPollingSend soleServer
        ⟨soleHeaders, (plainMessage (length + 1)).bytes, false⟩ =
      ⟨.accepted, some ((plainMessage length).bytes, soleAuth)⟩ ∧
    WebsocketResquest.unmarshall (plainMessage length).bytes ≠
      WebsocketResquest.unmarshall (plainMessage (length + 1)).bytes ∧
    (∀ t masked mask,
      t.read = binaryFrame ws (plainMessage (length + 1)).bytes masked mask →
        onBinMessage ws t = none) ∧
    ¬ SameAsFrame ws (plainMessage (length + 1)).bytes := by
  have hnonempty : (plainMessage (length + 1)).bytes ≠ [] := by
    rw [bytes_plainMessage]
    exact List.cons_ne_nil _ _
  have hlong : ¬ (plainMessage (length + 1)).bytes.length ≤ maxLPBodySize := by
    rw [bytes_plainMessage, ← hlimit]
    simp only [List.length_cons, List.length_replicate]
    omega
  refine ⟨?_, ?_, fun t masked mask hread => ?_,
    fun hsame => hlong (length_le_of_sameAsFrame hsame)⟩
  · rw [handed_of_open open_sole hnonempty, ← hlimit, take_plainMessage]
  · rw [unmarshall_bytes, unmarshall_bytes]
    exact fun hsame => request_plainMessage_ne length (Except.ok.inj hsame)
  · rw [onBinMessage_binaryFrame hread]
    exact if_neg hlong

theorem overlong_cut :
    longPollingSend soleServer
        ⟨soleHeaders, (plainMessage 1048574).bytes, false⟩ =
      ⟨.accepted, some ((plainMessage 1048573).bytes, soleAuth)⟩ ∧
    WebsocketResquest.unmarshall (plainMessage 1048573).bytes ≠
      WebsocketResquest.unmarshall (plainMessage 1048574).bytes ∧
    (∀ t masked mask,
      t.read = binaryFrame rfcFrames (plainMessage 1048574).bytes masked mask →
        onBinMessage rfcFrames t = none) ∧
    ¬ SameAsFrame rfcFrames (plainMessage 1048574).bytes := by
  have hlimit : 1048573 + 3 = maxLPBodySize := by decide
  exact plainMessage_cut rfcFrames hlimit

end LongPollingSend

end Pipewave
