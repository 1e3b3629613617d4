/-
Message types above the wire: control messages are named by sentinel strings
and travel as control codes, every other message type travels as its bytes.
Requests and responses are the two records the codec carries.
-/
import Pipewave.WireRoundTrip

namespace Pipewave

open Wire

/-- A message type is a Go string, hence a byte string. -/
abbrev MessageType := Bytes

/-- The string with a zero byte followed by `hb`. -/
def messageTypeHeartbeat : MessageType := [0x00, 0x68, 0x62]

/-- The string with a zero byte followed by `ack`. -/
def messageTypeAck : MessageType := [0x00, 0x61, 0x63, 0x6B]

/-- The string `error`, an ordinary message type. -/
def messageTypeError : MessageType := [0x65, 0x72, 0x72, 0x6F, 0x72]

def controlCodeFor (mt : MessageType) : UInt8 × Bool :=
  if mt = messageTypeHeartbeat then (controlHeartbeat, true)
  else if mt = messageTypeAck then (controlAck, true)
  else (0, false)

def messageTypeFor (code : UInt8) : MessageType :=
  if code = controlHeartbeat then messageTypeHeartbeat
  else if code = controlAck then messageTypeAck
  else []

def toFrame (msgType : MessageType) (id responseToId errStr ackId : Bytes)
    (binary : Option Bytes) : Frame :=
  let f : Frame := { id, responseToID := responseToId, error := errStr,
                     ackID := ackId, binary }
  match controlCodeFor msgType with
  | (code, true) => { f with controlCode := code }
  | (_, false) => { f with msgType := msgType }

def msgTypeFromFrame (f : Frame) : MessageType :=
  if f.msgType = [] then messageTypeFor f.controlCode else f.msgType

structure WebsocketResponse where
  id : Bytes := []
  responseToId : Bytes := []
  msgType : MessageType
  error : Bytes := []
  binary : Option Bytes := none
  ackId : Bytes := []
deriving Repr, DecidableEq

/-- The encoded response, or `none` for the nil slice of a field that is too
long. -/
def WebsocketResponse.marshall (wsRes : WebsocketResponse) : Option Bytes :=
  match encode (toFrame wsRes.msgType wsRes.id wsRes.responseToId wsRes.error
      wsRes.ackId wsRes.binary) with
  | .error _ => none
  | .ok data => some data

/-- `Unmarshall` into a value that may hold anything; an error leaves it as it
is. -/
def WebsocketResponse.unmarshallInto (wsRes : WebsocketResponse)
    (data : Bytes) : WebsocketResponse × Option Stop :=
  match decode data with
  | .error stop => (wsRes, some stop)
  | .ok f => ({ wsRes with
      id := f.id, responseToId := f.responseToID,
      msgType := msgTypeFromFrame f, error := f.error, binary := f.binary,
      ackId := f.ackID }, none)

/-- What a caller goes on with. -/
def orStop {α : Type} : α × Option Stop → Except Stop α
  | (_, some stop) => .error stop
  | (value, none) => .ok value

/-- `Unmarshall` into the zero value. -/
def WebsocketResponse.unmarshall (data : Bytes) :
    Except Stop WebsocketResponse :=
  orStop (unmarshallInto { msgType := [] } data)

structure WebsocketResquest where
  id : Bytes := []
  msgType : MessageType
  binary : Option Bytes := none
deriving Repr, DecidableEq

def WebsocketResquest.marshall (wsReq : WebsocketResquest) : Option Bytes :=
  match encode (toFrame wsReq.msgType wsReq.id [] [] [] wsReq.binary) with
  | .error _ => none
  | .ok data => some data

def WebsocketResquest.unmarshallInto (wsReq : WebsocketResquest)
    (data : Bytes) : WebsocketResquest × Option Stop :=
  match decode data with
  | .error stop => (wsReq, some stop)
  | .ok f => ({ wsReq with
      id := f.id, msgType := msgTypeFromFrame f, binary := f.binary }, none)

def WebsocketResquest.unmarshall (data : Bytes) :
    Except Stop WebsocketResquest :=
  orStop (unmarshallInto { msgType := [] } data)

theorem WebsocketResponse.unmarshall_eq (data : Bytes) :
    WebsocketResponse.unmarshall data = do
      let f ← decode data
      return { id := f.id, responseToId := f.responseToID,
               msgType := msgTypeFromFrame f, error := f.error,
               binary := f.binary, ackId := f.ackID } := by
  rw [WebsocketResponse.unmarshall, unmarshallInto]
  cases decode data <;> rfl

theorem WebsocketResquest.unmarshall_eq (data : Bytes) :
    WebsocketResquest.unmarshall data = do
      let f ← decode data
      return { id := f.id, msgType := msgTypeFromFrame f,
               binary := f.binary } := by
  rw [WebsocketResquest.unmarshall, unmarshallInto]
  cases decode data <;> rfl

/-- A control frame with the given code: a zero length byte, then the code. -/
def IsControlFrame (data : Bytes) (code : UInt8) : Prop :=
  data[1]? = some 0 ∧ data[2]? = some code

instance (data : Bytes) (code : UInt8) : Decidable (IsControlFrame data code) :=
  inferInstanceAs (Decidable (_ ∧ _))

/-- The message-type bytes announced by the second byte of a frame. -/
def msgTypeBytes (data : Bytes) : Bytes :=
  (data.drop 2).take ((data[1]?.map UInt8.toNat).getD 0)

/-- The message type a head decodes to. -/
def Wire.Head.messageType : Head → MessageType
  | .control code => messageTypeFor code
  | .msgType name _ => name.1

theorem length_messageType (head : Head) :
    head.messageType.length ≤ 255 := by
  cases head with
  | control code =>
    rw [Head.messageType, messageTypeFor]
    split_ifs <;> decide
  | msgType name hne => exact name.2

theorem msgTypeFromFrame_frame (p : V1Frame) :
    msgTypeFromFrame p.frame = p.head.messageType := by
  cases hhead : p.head with
  | control code =>
    simp [msgTypeFromFrame, V1Frame.frame, hhead, Head.name, Head.code,
      Head.messageType]
  | msgType name hne =>
    simp [msgTypeFromFrame, V1Frame.frame, hhead, Head.name,
      Head.messageType, hne]

/-- The request a derivation decodes to. -/
def Wire.V1Frame.request (p : V1Frame) : WebsocketResquest where
  id := fieldValue p.id
  msgType := p.head.messageType
  binary := some p.binary

theorem unmarshall_bytes (p : V1Frame) :
    WebsocketResquest.unmarshall p.bytes = .ok p.request := by
  simp only [WebsocketResquest.unmarshall_eq, decode_bytes, ok_bind,
    msgTypeFromFrame_frame, pure_eq_ok]
  rfl

theorem request_unmarshall_eq_ok_iff {data : Bytes}
    {msg : WebsocketResquest} :
    WebsocketResquest.unmarshall data = .ok msg ↔
      ∃ p : V1Frame, p.bytes = data ∧ p.request = msg := by
  constructor
  · intro hunmarshall
    cases hdecode : decode data with
    | error stop =>
      rw [WebsocketResquest.unmarshall_eq, hdecode] at hunmarshall
      cases hunmarshall
    | ok f =>
      obtain ⟨p, rfl, rfl⟩ := decode_eq_ok_iff.mp hdecode
      rw [unmarshall_bytes] at hunmarshall
      exact ⟨p, rfl, Except.ok.inj hunmarshall⟩
  · rintro ⟨p, rfl, rfl⟩
    exact unmarshall_bytes p

theorem messageTypeFor_eq_heartbeat_iff (code : UInt8) :
    messageTypeFor code = messageTypeHeartbeat ↔ code = controlHeartbeat := by
  have hdistinct : messageTypeAck ≠ messageTypeHeartbeat := by decide
  have hcodes : controlAck ≠ controlHeartbeat := by decide
  have hnonempty : [] ≠ messageTypeHeartbeat := by decide
  by_cases hheartbeat : code = controlHeartbeat
  · simp only [messageTypeFor, hheartbeat, ↓reduceIte]
  · by_cases hack : code = controlAck
    · simp only [hack, messageTypeFor, hcodes, ↓reduceIte, hdistinct]
    · simp only [messageTypeFor, hheartbeat, hack, ↓reduceIte, hnonempty]

theorem messageTypeFor_eq_ack_iff (code : UInt8) :
    messageTypeFor code = messageTypeAck ↔ code = controlAck := by
  have hdistinct : messageTypeHeartbeat ≠ messageTypeAck := by decide
  have hcodes : controlHeartbeat ≠ controlAck := by decide
  have hnonempty : [] ≠ messageTypeAck := by decide
  by_cases hheartbeat : code = controlHeartbeat
  · simp only [messageTypeFor, hheartbeat, ↓reduceIte, hdistinct, hcodes]
  · by_cases hack : code = controlAck
    · simp only [hack, messageTypeFor, hcodes.symm, ↓reduceIte]
    · simp only [messageTypeFor, hheartbeat, hack, ↓reduceIte, hnonempty]

theorem isControlFrame_bytes_iff (p : V1Frame) {code : UInt8} :
    IsControlFrame p.bytes code ↔ p.head = .control code := by
  cases hhead : p.head with
  | control sent =>
    simp [IsControlFrame, V1Frame.bytes, V1Frame.body, hhead, Head.bytes]
  | msgType name hne =>
    have hpos := List.length_pos_iff.mpr hne
    have hle : name.1.length ≤ 255 := name.2
    have hlen : UInt8.ofNat name.1.length ≠ 0 := by
      intro hzero
      have hmod := congrArg UInt8.toNat hzero
      simp only [UInt8.toNat_ofNat', UInt8.toNat_zero] at hmod
      omega
    simp [IsControlFrame, V1Frame.bytes, V1Frame.body, hhead, Head.bytes,
      prefixed, putLen, hlen]

theorem msgTypeBytes_bytes (p : V1Frame) :
    msgTypeBytes p.bytes = p.head.name := by
  cases hhead : p.head with
  | control sent =>
    simp [msgTypeBytes, V1Frame.bytes, V1Frame.body, hhead, Head.bytes,
      Head.name]
  | msgType name hne =>
    have hle : name.1.length ≤ 255 := name.2
    have hmod : name.1.length % 256 = name.1.length := by omega
    simp [msgTypeBytes, V1Frame.bytes, V1Frame.body, hhead, Head.bytes,
      Head.name, prefixed, putLen, hmod]

/-- Two ways lead to a control message type: its code, and its sentinel sent
as an ordinary message type. -/
theorem request_msgType_eq_iff (p : V1Frame) {mt : MessageType} {code : UInt8}
    (hne : mt ≠ []) (hcode : ∀ c, messageTypeFor c = mt ↔ c = code) :
    p.request.msgType = mt ↔
      IsControlFrame p.bytes code ∨ msgTypeBytes p.bytes = mt := by
  rw [isControlFrame_bytes_iff, msgTypeBytes_bytes]
  cases hhead : p.head with
  | control sent =>
    simp [V1Frame.request, Head.messageType, hhead, Head.name, hcode,
      Ne.symm hne]
  | msgType name hname =>
    simp [V1Frame.request, Head.messageType, hhead, Head.name]

/-! ### Responses on the wire -/

/-- The message types that are written as a control code: the sentinels, and
the empty one with code zero. -/
def IsControlType (mt : MessageType) : Prop :=
  mt = [] ∨ mt = messageTypeHeartbeat ∨ mt = messageTypeAck

instance (mt : MessageType) : Decidable (IsControlType mt) :=
  inferInstanceAs (Decidable (_ ∨ _ ∨ _))

/-- The message type and the control code of the frame a message type is put
into. -/
def wireHead (mt : MessageType) : Bytes × UInt8 :=
  match controlCodeFor mt with
  | (code, true) => ([], code)
  | (_, false) => (mt, 0)

theorem toFrame_eq (mt : MessageType) (id responseToId errStr ackId : Bytes)
    (binary : Option Bytes) :
    toFrame mt id responseToId errStr ackId binary =
      { msgType := (wireHead mt).1, controlCode := (wireHead mt).2, id,
        responseToID := responseToId, ackID := ackId, error := errStr,
        binary } := by
  unfold toFrame wireHead controlCodeFor
  split_ifs <;> rfl

theorem wireHead_eq_nil_iff (mt : MessageType) :
    (wireHead mt).1 = [] ↔ IsControlType mt := by
  unfold wireHead controlCodeFor IsControlType
  split_ifs with hheartbeat hack
  · simp [hheartbeat]
  · simp [hack]
  · simp [hheartbeat, hack]

theorem wireHead_length_le (mt : MessageType) :
    (wireHead mt).1.length ≤ mt.length := by
  unfold wireHead controlCodeFor
  split_ifs <;> simp

/-- The head gives the message type back. -/
theorem messageType_wireHead (mt : MessageType) :
    (if (wireHead mt).1 = [] then messageTypeFor (wireHead mt).2
      else (wireHead mt).1) = mt := by
  by_cases hheartbeat : mt = messageTypeHeartbeat
  · subst hheartbeat
    decide
  · by_cases hack : mt = messageTypeAck
    · subst hack
      decide
    · have hhead : wireHead mt = (mt, 0) := by
        simp [wireHead, controlCodeFor, hheartbeat, hack]
      rw [hhead]
      by_cases hempty : mt = []
      · subst hempty
        decide
      · rw [if_neg hempty]

namespace WebsocketResponse

variable {res : WebsocketResponse} {data : Bytes}

/-- The frame of a response. -/
def frame (res : WebsocketResponse) : Frame :=
  toFrame res.msgType res.id res.responseToId res.error res.ackId res.binary

/-- The fields that fit their length prefixes. -/
def Fits (res : WebsocketResponse) : Prop :=
  (wireHead res.msgType).1.length ≤ 255 ∧ res.id.length ≤ 255 ∧
    res.responseToId.length ≤ 255 ∧ res.ackId.length ≤ 255 ∧
    res.error.length ≤ 65535

instance (res : WebsocketResponse) : Decidable res.Fits :=
  inferInstanceAs (Decidable (_ ∧ _))

theorem fits_iff_not_tooLong (res : WebsocketResponse) :
    res.Fits ↔ ¬ res.frame.TooLong := by
  rw [frame, toFrame_eq]
  simp only [Fits, Frame.TooLong, not_or, Nat.not_lt]

theorem marshall_eq_some_iff :
    res.marshall = some data ↔ ∃ hfit : ¬ res.frame.TooLong,
      (canonical res.frame hfit).bytes = data := by
  have hmarshall : res.marshall = match encode res.frame with
    | .error _ => none
    | .ok data => some data := rfl
  rw [hmarshall, encode_eq]
  by_cases hfit : res.frame.TooLong
  · simp [hfit]
  · simp [hfit]

theorem marshall_isSome_iff : res.marshall.isSome = true ↔ res.Fits := by
  rw [Option.isSome_iff_exists, fits_iff_not_tooLong]
  constructor
  · rintro ⟨data, hdata⟩
    obtain ⟨hfit, -⟩ := marshall_eq_some_iff.mp hdata
    exact hfit
  · intro hfit
    exact ⟨_, marshall_eq_some_iff.mpr ⟨hfit, rfl⟩⟩

/-- A client reads what was sent, up to the nil payload. -/
theorem unmarshall_marshall (hdata : res.marshall = some data) :
    WebsocketResponse.unmarshall data =
      .ok { res with binary := some (res.binary.getD []) } := by
  obtain ⟨hfit, rfl⟩ := marshall_eq_some_iff.mp hdata
  have htype := messageType_wireHead res.msgType
  simp only [WebsocketResponse.unmarshall_eq, decode_bytes, ok_bind,
    canonical_frame, pure_eq_ok, frame, toFrame_eq, Frame.normalise,
    msgTypeFromFrame]
  congr 2
  by_cases hempty : (wireHead res.msgType).1 = []
  · rw [if_pos hempty] at htype
    simp only [hempty, if_true]
    exact htype
  · rw [if_neg hempty] at htype
    simp only [hempty, if_false]
    exact htype

/-- A response is a control frame exactly for the control types. -/
theorem marshall_control_iff (hdata : res.marshall = some data) :
    (∃ code, IsControlFrame data code) ↔ IsControlType res.msgType := by
  obtain ⟨hfit, rfl⟩ := marshall_eq_some_iff.mp hdata
  have hhead : res.frame.msgType = (wireHead res.msgType).1 := by
    rw [frame, toFrame_eq]
  simp only [isControlFrame_bytes_iff, canonical, canonicalHead]
  rw [← wireHead_eq_nil_iff, ← hhead]
  split
  · next hempty =>
    exact iff_of_true ⟨_, rfl⟩ hempty
  · next hempty =>
    refine iff_of_false ?_ hempty
    rintro ⟨code, hcode⟩
    cases hcode

end WebsocketResponse

end Pipewave
