/-
Reading one websocket connection.  Each turn reads a frame and handles it;
what the socket, the limiter and the message handler do is part of the turn.
Between turns other goroutines send on the connection or close it.
-/
import Pipewave.LengthPrefix
import Pipewave.Transition

namespace Pipewave

namespace FrameLoop

open Transition

structure Header where
  fin : Bool
  rsv : Nat
  opCode : Nat
  masked : Bool
  mask : Bytes
  length : Nat
deriving Repr, DecidableEq

def opContinuation : Nat := 0
def opText : Nat := 1
def opBinary : Nat := 2
def opClose : Nat := 8
def opPing : Nat := 9
def opPong : Nat := 10

def statusNormalClosure : Nat := 1000
def statusProtocolError : Nat := 1002

def maxFrameSize : Nat := 1 * 1024 * 1024

structure Frame where
  header : Header
  payload : Bytes
deriving Repr, DecidableEq

/-- The status code in front of the payload of a close frame. -/
def statusCode (payload : Bytes) : Option Nat :=
  (getLen 2 payload).map Prod.fst

/-- What is relied on of the package `ws`.  A status code has 16 bits. -/
structure Gobwas where
  cipher : Bytes → Bytes → Bytes
  newPongFrame : Bytes → Frame
  newCloseFrame : Bytes → Frame
  newCloseFrameBody : Nat → Bytes → Bytes
  length_cipher : ∀ payload mask,
    (cipher payload mask).length = payload.length
  cipher_cipher : ∀ payload mask, cipher (cipher payload mask) mask = payload
  opCode_pong : ∀ payload, (newPongFrame payload).header.opCode = opPong
  payload_pong : ∀ payload, (newPongFrame payload).payload = payload
  opCode_close : ∀ payload, (newCloseFrame payload).header.opCode = opClose
  payload_close : ∀ payload, (newCloseFrame payload).payload = payload
  /-- The reason is cut to what fits in a control frame. -/
  length_body : ∀ code reason, (newCloseFrameBody code reason).length ≤ 125
  statusCode_body : ∀ code reason, code < 65536 →
    statusCode (newCloseFrameBody code reason) = some code

inductive ProtocolError where
  | frameTooLarge (length : Nat)
  | nonZeroRsv
  | reservedOpCode (opCode : Nat)
  | controlNotFinal
  | fragmentedText
  | fragmentedBinary
  | fragmentedMessage
  | unexpectedOpCode (opCode : Nat)
  | pong (err : String)
  | writeClose (err : String)
deriving Repr, DecidableEq

def ProtocolError.message : ProtocolError → String
  | .frameTooLarge length => "frame size " ++ toString length ++
      " exceeds maximum allowed size " ++ toString maxFrameSize
  | .nonZeroRsv => "non-zero rsv bits with no extension negotiated"
  | .reservedOpCode opCode => "use of reserved op code: " ++ toString opCode
  | .controlNotFinal => "control frame is not final"
  | .fragmentedText => "fragmented text messages are not supported"
  | .fragmentedBinary => "fragmented binary messages are not supported"
  | .fragmentedMessage => "fragmented messages are not supported"
  | .unexpectedOpCode opCode => "unexpected opcode: " ++ toString opCode
  | .pong err => "failed to send pong: " ++ err
  | .writeClose err => err

/-- A reason of our own, or the one the client gave. -/
inductive Reason where
  | text (message : String)
  | payload (bytes : Bytes)
deriving Repr, DecidableEq

structure CloseFrame where
  code : Nat
  reason : Reason
deriving Repr, DecidableEq

/-- `armed` says whether the poller may still deliver a read event;
`closeFrames` are the close frames given to the socket and `dispatched` the
headers of the frames given to `handleFrame`. -/
structure Conn where
  closed : Bool := false
  closeTx : Bool := false
  armed : Bool := true
  closeFrames : List CloseFrame := []
  dispatched : List Header := []
deriving Repr, DecidableEq

/-- What others do with a connection; `ok` is how the write ends. -/
inductive Act where
  | send (ok : Bool)
  | closeWithReason (code : Nat) (reason : String) (ok : Bool)
  | close
deriving Repr, DecidableEq

/-- `ReadHeader` fails with `io.EOF` or `net.ErrClosed`, fails otherwise, or
returns a header; `available` is what the socket then has for `ReadFull`. -/
inductive Read where
  | headerEnd
  | headerError (err : String)
  | frame (header : Header) (available : Option Bytes)
deriving Repr, DecidableEq

structure Turn where
  read : Read
  /-- How the writes of a close frame and of a pong end. -/
  closeOk : Bool
  pongOk : Bool
  writeErr : String
  /-- `ctrlFrameLimiter.Allow()`. -/
  allowed : Bool
  /-- What the message handler does with the connection. -/
  handler : List Act
deriving Repr, DecidableEq

namespace Conn

def close (c : Conn) : Conn := { c with closed := true }

/-- Nothing can be written to a closed socket. -/
def writes (c : Conn) (ok : Bool) : Bool := ok && !c.closed

/-- The second component says whether the error is nil. -/
def writeCloseOnce (c : Conn) (frame : CloseFrame) (ok : Bool) :
    Conn × Bool :=
  if c.closeTx then (c, true)
  else ({ c with closeTx := true, closeFrames := c.closeFrames ++ [frame] },
    c.writes ok)

def act (c : Conn) : Act → Conn
  | .send ok => if c.writes ok then c else c.close
  | .closeWithReason code reason ok =>
    (c.writeCloseOnce ⟨code, .text reason⟩ ok).1.close
  | .close => c.close

def handleProtocolError (c : Conn) (err : ProtocolError) (ok : Bool) :
    Conn :=
  (c.writeCloseOnce ⟨statusProtocolError, .text err.message⟩ ok).1.close

end Conn

/-- `none` is a nil error. -/
def validateFrame (h : Header) : Option ProtocolError :=
  if h.rsv ≠ 0 then some .nonZeroRsv
  else if h.opCode ∉ [opContinuation, opText, opBinary, opClose, opPing,
      opPong] then some (.reservedOpCode h.opCode)
  else if opClose ≤ h.opCode ∧ h.fin = false then some .controlNotFinal
  else none

/-- The code and the reason of a close frame, with the defaults for an empty
payload. -/
def closePayload : Bytes → CloseFrame
  | high :: low :: reason =>
    ⟨high.toNat * 256 + low.toNat, .payload reason⟩
  | _ => ⟨statusNormalClosure, .text ""⟩

def handleCloseFrame (c : Conn) (payload : Bytes) (t : Turn) :
    Conn × Option ProtocolError :=
  if payload.length = 1 then
    let (c, ok) := c.writeCloseOnce
      ⟨statusProtocolError, .text "invalid close payload"⟩ t.closeOk
    (c, if ok then none else some (.writeClose t.writeErr))
  else
    let (c, ok) := c.writeCloseOnce (closePayload payload) t.closeOk
    (c.close, if ok then none else some (.writeClose t.writeErr))

def handlePingFrame (c : Conn) (t : Turn) : Option ProtocolError :=
  if t.allowed = false then none
  else if c.writes t.pongOk then none
  else some (.pong t.writeErr)

/-- The handlers by opcode, up to the error they return. -/
def handleOpCode (c : Conn) (h : Header) (payload : Bytes) (t : Turn) :
    Conn × Option ProtocolError :=
  if h.opCode = opText then
    if h.fin = false then (c, some .fragmentedText)
    else (t.handler.foldl Conn.act c, none)
  else if h.opCode = opBinary then
    if h.fin = false then (c, some .fragmentedBinary)
    else (t.handler.foldl Conn.act c, none)
  else if h.opCode = opContinuation then (c, some .fragmentedMessage)
  else if h.opCode = opClose then handleCloseFrame c payload t
  else if h.opCode = opPing then (c, handlePingFrame c t)
  else if h.opCode = opPong then (c, none)
  else (c, some (.unexpectedOpCode h.opCode))

def handleFrame (ws : Gobwas) (c : Conn) (h : Header) (payload : Bytes)
    (t : Turn) : Conn :=
  let payload := if h.masked then ws.cipher payload h.mask else payload
  let result := handleOpCode { c with dispatched := c.dispatched ++ [h] } h
    payload t
  match result.2 with
  | none => result.1
  | some err => result.1.handleProtocolError err t.closeOk

/-- `ReadFull` gives as many bytes as asked for, or an error. -/
def readFull (length : Nat) (available : Option Bytes) : Option Bytes :=
  if length = 0 then some []
  else available.filter fun bytes => decide (bytes.length = length)

def processClientMessage (ws : Gobwas) (c : Conn) (t : Turn) : Conn :=
  match t.read with
  | .headerEnd => c.close
  -- The error is only reported.
  | .headerError _ => c
  | .frame h available =>
    if maxFrameSize < h.length then
      c.handleProtocolError (.frameTooLarge h.length) t.closeOk
    else match readFull h.length available with
      | none => c.close
      | some payload => match validateFrame h with
        | some err => c.handleProtocolError err t.closeOk
        | none => handleFrame ws c h payload t

inductive Event where
  | turn (t : Turn)
  | outside (act : Act)
deriving Repr, DecidableEq

/-- A turn ends with `resumeRead`, which arms an open connection only.  On a
closed socket `ReadHeader` returns `net.ErrClosed`. -/
def step (ws : Gobwas) (c : Conn) : Event → Option Conn
  | .turn t =>
    if c.armed = false ∨ (c.closed = true ∧ t.read ≠ .headerEnd) then none
    else
      let c := processClientMessage ws c t
      some { c with armed := !c.closed }
  | .outside act => some (c.act act)

/-! ### Violations -/

/-- The turn meets something that ends the connection. -/
def Violates (t : Turn) : Prop :=
  match t.read with
  | .headerEnd | .headerError _ => True
  | .frame h _ => maxFrameSize < h.length ∨ h.rsv ≠ 0 ∨
      h.opCode ∉ [opContinuation, opText, opBinary, opClose, opPing,
        opPong] ∨
      (opClose ≤ h.opCode ∧ h.fin = false) ∨
      h.opCode = opContinuation ∨
      ((h.opCode = opText ∨ h.opCode = opBinary) ∧ h.fin = false) ∨
      h.opCode = opClose

instance (t : Turn) : Decidable (Violates t) := by
  unfold Violates
  split <;> infer_instance

/-- A well-formed close frame with a payload of one byte. -/
def Read.shortClose : Read → Bool
  | .frame h available => decide (h.rsv = 0) && decide (h.opCode = opClose) &&
      h.fin && decide (h.length = 1) && (readFull 1 available).isSome
  | _ => false

def Read.unreported : Read → Bool
  | .headerError _ => true
  | _ => false

/-- The header can be read or its error means the end of the stream, and a
close frame of one byte finds its answer unsent and its write failing. -/
def EndsOn (c : Conn) (t : Turn) : Prop :=
  t.read.unreported = false ∧
    (t.read.shortClose = true → c.closeTx = false ∧ t.closeOk = false)

instance (c : Conn) (t : Turn) : Decidable (EndsOn c t) :=
  inferInstanceAs (Decidable (_ ∧ (_ → _)))

/-- A run comes to a violating turn. -/
def Meets (ws : Gobwas) (labels : List Event) (c : Conn) (t : Turn)
    (after : List Event) : Prop :=
  ∃ before, labels = before ++ .turn t :: after ∧
    run (step ws) {} before = some c ∧ Violates t

/-- Every violation of a run ends the connection. -/
def EveryViolationEnds (ws : Gobwas) (labels : List Event) : Prop :=
  ∀ c t after, Meets ws labels c t after → ∀ next last,
    step ws c (.turn t) = some next →
    run (step ws) next after = some last →
      next.closed = true ∧ last.dispatched = next.dispatched

/-! ### What a turn does -/

section Turn

variable {ws : Gobwas} {c : Conn} {t : Turn}

theorem closed_handleProtocolError (c : Conn) (err : ProtocolError)
    (ok : Bool) : (c.handleProtocolError err ok).closed = true := rfl

variable {available : Option Bytes} {h : Header}

theorem length_readFull {length : Nat} {payload : Bytes}
    (hread : readFull length available = some payload) :
    payload.length = length := by
  rw [readFull] at hread
  split at hread
  · next hzero =>
    cases hread
    exact hzero.symm
  · exact of_decide_eq_true (Option.filter_eq_some_iff.mp hread).2

theorem validateFrame_eq_none (hvalid : validateFrame h = none) :
    h.rsv = 0 ∧ h.opCode ∈ [opContinuation, opText, opBinary, opClose, opPing,
      opPong] ∧ (opClose ≤ h.opCode → h.fin = true) := by
  unfold validateFrame at hvalid
  split at hvalid
  · cases hvalid
  · next hrsv =>
    split at hvalid
    · cases hvalid
    · next hop =>
      split at hvalid
      · cases hvalid
      · next hfin =>
        refine ⟨Decidable.not_not.mp hrsv, Decidable.not_not.mp hop, ?_⟩
        intro hcontrol
        apply eq_true_of_ne_false
        exact fun h => hfin ⟨hcontrol, h⟩

theorem validateFrame_close (hrsv : h.rsv = 0) (hop : h.opCode = opClose)
    (hfin : h.fin = true) :
    validateFrame h = none := by
  simp [validateFrame, hrsv, hop, hfin, opContinuation, opText, opBinary,
    opClose, opPing, opPong]

/-- A close frame closes the connection, unless its payload is one byte and
the answer to it counts as written. -/
theorem closed_handleCloseFrame (hopen : c.closed = false)
    (hop : h.opCode = opClose) (payload : Bytes) :
    (handleFrame ws c h payload t).closed = true ↔
      (payload.length = 1 → c.closeTx = false ∧ t.closeOk = false) := by
  have hlength : (if h.masked then ws.cipher payload h.mask
      else payload).length = payload.length := by
    split
    · exact ws.length_cipher payload h.mask
    · rfl
  have htext : ¬ opClose = opText := by decide
  have hbinary : ¬ opClose = opBinary := by decide
  have hcontinuation : ¬ opClose = opContinuation := by decide
  simp only [handleFrame, handleOpCode, hop, htext, hbinary, hcontinuation,
    if_false, if_true, handleCloseFrame, hlength]
  by_cases hone : payload.length = 1
  · simp only [hone, if_true, Conn.writeCloseOnce, Conn.writes, hopen]
    cases hsent : c.closeTx with
    | true => simp
    | false =>
      cases hok : t.closeOk with
      | true => simp
      | false => simp [closed_handleProtocolError]
  · simp only [hone, if_false, false_imp_iff, iff_true]
    split <;> rfl

/-- A fragment closes the connection. -/
theorem closed_handleFragment (payload : Bytes)
    (hfragment : h.opCode = opContinuation ∨
      ((h.opCode = opText ∨ h.opCode = opBinary) ∧ h.fin = false)) :
    (handleFrame ws c h payload t).closed = true := by
  have hbinary : ¬ opBinary = opText := by decide
  have htext : ¬ opContinuation = opText := by decide
  have hcontinuation : ¬ opContinuation = opBinary := by decide
  rcases hfragment with hop | ⟨hop | hop, hfin⟩
  · simp [handleFrame, handleOpCode, hop, htext, hcontinuation,
      closed_handleProtocolError]
  · simp [handleFrame, handleOpCode, hop, hfin, closed_handleProtocolError]
  · simp [handleFrame, handleOpCode, hop, hfin, hbinary,
      closed_handleProtocolError]

theorem shortClose_iff :
    (Read.frame h available).shortClose = true ↔
      h.rsv = 0 ∧ h.opCode = opClose ∧ h.fin = true ∧ h.length = 1 ∧
        (readFull 1 available).isSome = true := by
  simp only [Read.shortClose, Bool.and_eq_true, decide_eq_true_eq,
    and_assoc]

/-- A violation that is not a close frame of one byte. -/
theorem closed_iff_endsOn_of_closed (hread : t.read = .frame h available)
    (hshort : ¬ (Read.frame h available).shortClose = true)
    (hclosed : (processClientMessage ws c t).closed = true) :
    (processClientMessage ws c t).closed = true ↔ EndsOn c t := by
  refine iff_of_true hclosed ⟨?_, ?_⟩
  · rw [hread]
    rfl
  · rw [hread]
    exact fun h => absurd h hshort

theorem processClientMessage_frame {h : Header} {available : Option Bytes}
    (hread : t.read = .frame h available) :
    processClientMessage ws c t =
      if maxFrameSize < h.length then
        c.handleProtocolError (.frameTooLarge h.length) t.closeOk
      else match readFull h.length available with
        | none => c.close
        | some payload => match validateFrame h with
          | some err => c.handleProtocolError err t.closeOk
          | none => handleFrame ws c h payload t := by
  rw [processClientMessage, hread]

/-- What is left of the violations behind the checks of the header. -/
theorem fragment_of_violates (hread : t.read = .frame h available)
    (hviolates : Violates t) (hlarge : ¬ maxFrameSize < h.length)
    (hvalid : validateFrame h = none) (hop : h.opCode ≠ opClose) :
    h.opCode = opContinuation ∨
      ((h.opCode = opText ∨ h.opCode = opBinary) ∧ h.fin = false) := by
  obtain ⟨hrsv, hknown, hfinal⟩ := validateFrame_eq_none hvalid
  rw [Violates, hread] at hviolates
  rcases hviolates with h1 | h2 | h3 | h4 | h5 | h6 | h7
  · exact absurd h1 hlarge
  · exact absurd hrsv h2
  · exact absurd hknown h3
  · rw [hfinal h4.1] at h4
    exact absurd h4.2.symm Bool.false_ne_true
  · exact .inl h5
  · exact .inr h6
  · exact absurd h7 hop

/-- A close frame that passes the checks of the header. -/
theorem closed_closeFrame_iff (hopen : c.closed = false) {payload : Bytes}
    (hread : t.read = .frame h available)
    (hfull : readFull h.length available = some payload)
    (hvalid : validateFrame h = none) (hop : h.opCode = opClose) :
    (handleFrame ws c h payload t).closed = true ↔ EndsOn c t := by
  obtain ⟨hrsv, -, hfinal⟩ := validateFrame_eq_none hvalid
  have hfin : h.fin = true := by
    apply hfinal
    rw [hop]
  rw [closed_handleCloseFrame hopen hop, length_readFull hfull, EndsOn, hread,
    shortClose_iff]
  constructor
  · intro hshort
    exact ⟨rfl, fun h => hshort h.2.2.2.1⟩
  · rintro ⟨-, hshort⟩ hone
    apply hshort
    refine ⟨hrsv, hop, hfin, hone, ?_⟩
    rw [← hone, hfull]
    rfl

theorem closed_processFrame_iff (hopen : c.closed = false)
    (hread : t.read = .frame h available) (hviolates : Violates t) :
    (processClientMessage ws c t).closed = true ↔ EndsOn c t := by
  have hprocess := @processClientMessage_frame ws c t _ _ hread
  by_cases hlarge : maxFrameSize < h.length
  · apply closed_iff_endsOn_of_closed hread
    · rw [shortClose_iff]
      rintro ⟨-, -, -, hone, -⟩
      rw [hone] at hlarge
      exact absurd hlarge (by decide)
    · rw [hprocess, if_pos hlarge]
      rfl
  rw [if_neg hlarge] at hprocess
  cases hfull : readFull h.length available with
  | none =>
    apply closed_iff_endsOn_of_closed hread
    · rw [shortClose_iff]
      rintro ⟨-, -, -, hone, hsome⟩
      rw [← hone, hfull] at hsome
      cases hsome
    · rw [hprocess, hfull]
      rfl
  | some payload =>
    rw [hfull] at hprocess
    cases hvalid : validateFrame h with
    | some err =>
      apply closed_iff_endsOn_of_closed hread
      · rw [shortClose_iff]
        rintro ⟨hrsv, hop, hfin, -⟩
        rw [validateFrame_close hrsv hop hfin] at hvalid
        cases hvalid
      · rw [hprocess, hvalid]
        rfl
    | none =>
      simp only [hvalid] at hprocess
      by_cases hop : h.opCode = opClose
      · rw [hprocess]
        exact closed_closeFrame_iff hopen hread hfull hvalid hop
      · apply closed_iff_endsOn_of_closed hread
        · rw [shortClose_iff]
          exact fun h => hop h.2.1
        · rw [hprocess]
          apply closed_handleFragment
          exact fragment_of_violates hread hviolates hlarge hvalid hop

/-- A violating turn closes the connection in exactly these cases. -/
theorem closed_processClientMessage_iff
    (hread : c.closed = true → t.read = .headerEnd)
    (hviolates : Violates t) :
    (processClientMessage ws c t).closed = true ↔ EndsOn c t := by
  cases hkind : t.read with
  | headerEnd =>
    refine iff_of_true ?_ ?_
    · rw [processClientMessage, hkind]
      rfl
    · rw [EndsOn, hkind]
      exact ⟨rfl, fun h => absurd h Bool.false_ne_true⟩
  | headerError err =>
    refine iff_of_false ?_ ?_
    · rw [processClientMessage, hkind]
      intro hclosed
      rw [hread hclosed] at hkind
      cases hkind
    · rw [EndsOn, hkind]
      exact fun h => absurd h.1.symm Bool.false_ne_true
  | frame h available =>
    have hopen : c.closed = false := by
      apply eq_false_of_ne_true
      intro hclosed
      rw [hread hclosed] at hkind
      cases hkind
    exact closed_processFrame_iff hopen hkind hviolates

end Turn

/-! ### Close frames -/

/-- One close frame at most has been given to the socket. -/
def OneClose (c : Conn) : Prop :=
  c.closeFrames.length = if c.closeTx then 1 else 0

section CloseFrames

variable {ws : Gobwas} {c : Conn}

theorem OneClose.writeCloseOnce (hone : OneClose c) (frame : CloseFrame)
    (ok : Bool) : OneClose (c.writeCloseOnce frame ok).1 := by
  rw [Conn.writeCloseOnce]
  split
  · exact hone
  · next hsent =>
    rw [OneClose, if_neg hsent] at hone
    rw [OneClose, List.length_append, hone]
    rfl

theorem OneClose.handleProtocolError (hone : OneClose c)
    (err : ProtocolError) (ok : Bool) :
    OneClose (c.handleProtocolError err ok) :=
  hone.writeCloseOnce _ ok

theorem OneClose.act (hone : OneClose c) (act : Act) :
    OneClose (c.act act) := by
  cases act with
  | send ok =>
    rw [Conn.act]
    split <;> exact hone
  | closeWithReason code reason ok => exact hone.writeCloseOnce _ ok
  | close => exact hone

theorem OneClose.acts (hone : OneClose c) (acts : List Act) :
    OneClose (acts.foldl Conn.act c) := by
  induction acts generalizing c with
  | nil => exact hone
  | cons act rest ih => exact ih (hone.act act)

theorem OneClose.handleCloseFrame (hone : OneClose c) (payload : Bytes)
    (t : Turn) : OneClose (handleCloseFrame c payload t).1 := by
  rw [FrameLoop.handleCloseFrame]
  split
  · exact hone.writeCloseOnce _ _
  · exact hone.writeCloseOnce _ _

theorem OneClose.handleOpCode (hone : OneClose c) (h : Header)
    (payload : Bytes) (t : Turn) :
    OneClose (handleOpCode c h payload t).1 := by
  unfold FrameLoop.handleOpCode
  split_ifs
  · exact hone
  · exact hone.acts t.handler
  · exact hone
  · exact hone.acts t.handler
  · exact hone
  · exact hone.handleCloseFrame payload t
  · exact hone
  · exact hone
  · exact hone

theorem OneClose.handleFrame (hone : OneClose c) (h : Header)
    (payload : Bytes) (t : Turn) :
    OneClose (handleFrame ws c h payload t) := by
  have hnext := OneClose.handleOpCode
    (show OneClose { c with dispatched := c.dispatched ++ [h] } from hone) h
    (if h.masked then ws.cipher payload h.mask else payload) t
  simp only [FrameLoop.handleFrame]
  split
  · exact hnext
  · exact hnext.handleProtocolError _ _

theorem OneClose.processClientMessage (hone : OneClose c) (t : Turn) :
    OneClose (processClientMessage ws c t) := by
  unfold FrameLoop.processClientMessage
  split
  · exact hone
  · exact hone
  · split
    · exact hone.handleProtocolError _ _
    · split
      · exact hone
      · split
        · exact hone.handleProtocolError _ _
        · exact hone.handleFrame _ _ _

theorem OneClose.step (hone : OneClose c) {event : Event} {next : Conn}
    (hstep : step ws c event = some next) : OneClose next := by
  cases event with
  | turn t =>
    simp only [FrameLoop.step] at hstep
    split at hstep
    · cases hstep
    · cases hstep
      exact hone.processClientMessage t
  | outside act =>
    cases hstep
    exact hone.act act

end CloseFrames

/-! ### Whole runs -/

section Runs

variable {ws : Gobwas} {c next last : Conn} {t : Turn}

theorem act_kept (c : Conn) (act : Act) :
    (c.act act).armed = c.armed ∧ (c.act act).dispatched = c.dispatched := by
  cases act with
  | send ok =>
    rw [Conn.act]
    split <;> exact ⟨rfl, rfl⟩
  | closeWithReason code reason ok =>
    simp only [Conn.act, Conn.writeCloseOnce]
    split <;> exact ⟨rfl, rfl⟩
  | close => exact ⟨rfl, rfl⟩

/-- A connection that is not armed again dispatches nothing more. -/
theorem dispatched_of_disarmed {after : List Event}
    (hdisarmed : c.armed = false)
    (hrun : run (step ws) c after = some last) :
    last.dispatched = c.dispatched := by
  have hkept := run_invariant
    (fun later => later.armed = false ∧ later.dispatched = c.dispatched)
    (by
      rintro state event next ⟨harmed, hsame⟩ hstep
      cases event with
      | turn t =>
        rw [step, if_pos (.inl harmed)] at hstep
        cases hstep
      | outside act =>
        cases hstep
        obtain ⟨harmed', hsame'⟩ := act_kept state act
        exact ⟨harmed'.trans harmed, hsame'.trans hsame⟩)
    ⟨hdisarmed, rfl⟩ hrun
  exact hkept.2

theorem turn_enabled (hstep : step ws c (.turn t) = some next) :
    (c.closed = true → t.read = .headerEnd) ∧
      next.closed = (processClientMessage ws c t).closed ∧
      next.armed = !next.closed := by
  rw [step] at hstep
  split at hstep
  · cases hstep
  · next hready =>
    cases hstep
    refine ⟨?_, rfl, rfl⟩
    intro hclosed
    apply Decidable.byContradiction
    exact fun hread => hready (.inr ⟨hclosed, hread⟩)

/-- In every run: each violation it comes to ends the connection exactly when
all of them are of the kinds in `EndsOn`, and one close frame is written at
most. -/
theorem everyViolationEnds_iff_endsOn (ws : Gobwas) (labels : List Event)
    (hrun : run (step ws) {} labels = some last) :
    (EveryViolationEnds ws labels ↔
      ∀ c t after, Meets ws labels c t after → EndsOn c t) ∧
      last.closeFrames.length ≤ 1 := by
  constructor
  · constructor
    · intro hends c t after hmeets
      obtain ⟨before, rfl, hbefore, hviolates⟩ := hmeets
      obtain ⟨passed, next, hpassed, hstep, hafter⟩ := run_middle hrun
      rw [hbefore] at hpassed
      cases hpassed
      obtain ⟨hread, hclosed, -⟩ := turn_enabled hstep
      apply (closed_processClientMessage_iff hread hviolates).mp
      rw [← hclosed]
      exact (hends c t after ⟨before, rfl, hbefore, hviolates⟩ next last hstep
        hafter).1
    · intro hall c t after hmeets next last hstep hafter
      have hends := hall c t after hmeets
      obtain ⟨before, -, -, hviolates⟩ := hmeets
      obtain ⟨hread, hclosed, harmed⟩ := turn_enabled hstep
      have hover : next.closed = true := by
        rw [hclosed]
        exact (closed_processClientMessage_iff hread hviolates).mpr hends
      rw [hover] at harmed
      exact ⟨hover, dispatched_of_disarmed harmed hafter⟩
  · have hone : OneClose last :=
      run_invariant OneClose (fun _ _ _ h hstep => h.step hstep)
        (show OneClose {} from rfl) hrun
    rw [hone]
    split <;> omega

end Runs

/-! Runs on frames as the RFC lays them out. -/

def newFrame (opCode : Nat) (fin : Bool) (payload : Bytes) : Frame :=
  ⟨⟨fin, 0, opCode, false, [], payload.length⟩, payload⟩

def xorMask (payload mask : Bytes) : Bytes :=
  payload.mapIdx fun i byte => byte ^^^ mask.getD (i % 4) 0

theorem xorMask_xorMask (payload mask : Bytes) :
    xorMask (xorMask payload mask) mask = payload := by
  apply List.ext_getElem?
  intro i
  simp only [xorMask, List.getElem?_mapIdx, Option.map_map]
  cases payload[i]? with
  | none => rfl
  | some byte =>
    simp only [Option.map_some, Function.comp_apply, UInt8.xor_assoc,
      UInt8.xor_self, UInt8.xor_zero]

def rfcFrames : Gobwas where
  cipher := xorMask
  newPongFrame := newFrame opPong true
  newCloseFrame := newFrame opClose true
  newCloseFrameBody := fun code reason => putLen 2 code ++ reason.take 123
  length_cipher := fun _ _ => List.length_mapIdx
  cipher_cipher := xorMask_xorMask
  opCode_pong := fun _ => rfl
  payload_pong := fun _ => rfl
  opCode_close := fun _ => rfl
  payload_close := fun _ => rfl
  length_body := by
    intro code reason
    rw [List.length_append, putLen_length, List.length_take]
    omega
  statusCode_body := by
    intro code reason hcode
    rw [statusCode, getLen_putLen hcode]
    rfl

/-- A turn on which every write works and the handler does nothing. -/
def plainTurn (read : Read) : Turn where
  read := read
  closeOk := true
  pongOk := true
  writeErr := ""
  allowed := true
  handler := []

def messageTurn : Turn :=
  plainTurn (.frame ⟨true, 0, opBinary, false, [], 2⟩ (some [1, 2]))

/-- A message, then a frame with a reserved bit set. -/
def reservedBitRun : List Event :=
  [.turn messageTurn, .outside (.send true),
    .turn (plainTurn (.frame ⟨true, 4, opBinary, false, [], 0⟩ none))]

theorem everyViolationEnds_iff_endsOn_reservedBitRun :
    let last := final (step rfcFrames) {} reservedBitRun
    last.closed = true ∧
      (EveryViolationEnds rfcFrames reservedBitRun ↔
        ∀ c t after, Meets rfcFrames reservedBitRun c t after → EndsOn c t) ∧
      last.closeFrames.length ≤ 1 :=
  ⟨by decide +kernel, everyViolationEnds_iff_endsOn rfcFrames reservedBitRun
    (run_eq_final (by decide +kernel))⟩

def badHeaderTurn : Turn :=
  plainTurn (.headerError "header error: the most significant bit must be 0")

def shortCloseTurn : Turn :=
  plainTurn (.frame ⟨true, 0, opClose, false, [], 1⟩ (some [3]))

/-- Behind a header that cannot be decoded and behind a close frame of one
byte the connection stays open, and the next message is handled. -/
theorem violations_keep_connection :
    let headerRun := [Event.turn badHeaderTurn, .turn messageTurn]
    let closeRun := [Event.turn shortCloseTurn, .turn messageTurn]
    Violates badHeaderTurn ∧ Violates shortCloseTurn ∧
      (final (step rfcFrames) {} headerRun).closed = false ∧
      (final (step rfcFrames) {} headerRun).dispatched.length = 1 ∧
      (final (step rfcFrames) {} closeRun).closed = false ∧
      (final (step rfcFrames) {} closeRun).dispatched.length = 2 ∧
      ¬ EveryViolationEnds rfcFrames headerRun ∧
      ¬ EveryViolationEnds rfcFrames closeRun := by
  refine ⟨by decide +kernel, by decide +kernel, by decide +kernel,
    by decide +kernel, by decide +kernel, by decide +kernel, ?_, ?_⟩
  · intro hends
    have hover := hends {} badHeaderTurn [.turn messageTurn]
      ⟨[], rfl, rfl, trivial⟩ _ _ rfl rfl
    exact absurd hover.1 (by decide)
  · intro hends
    have hover := hends {} shortCloseTurn [.turn messageTurn]
      ⟨[], rfl, rfl, by decide +kernel⟩ _ _ rfl rfl
    exact absurd hover.1 (by decide)

end FrameLoop

end Pipewave
