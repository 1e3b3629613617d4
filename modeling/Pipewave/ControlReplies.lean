/-
The control frames a connection writes in reply to one inbound frame: the pong
of a ping, the echo of a close frame and the close frame of a protocol error.
Their payload and status code partly come from the client.
-/
import Pipewave.FrameLoop

namespace Pipewave

namespace FrameLoop

def Reason.bytes : Reason → Bytes
  | .text message => message.toUTF8.data.toList
  | .payload bytes => bytes

def CloseFrame.frame (ws : Gobwas) (close : CloseFrame) : Frame :=
  ws.newCloseFrame (ws.newCloseFrameBody close.code close.reason.bytes)

def Frame.unmasked (ws : Gobwas) (f : Frame) : Bytes :=
  if f.header.masked then ws.cipher f.payload f.header.mask else f.payload

/-- A frame that has been read whole and passes the checks on its header. -/
structure Inbound extends Frame where
  read : payload.length = header.length
  fits : header.length ≤ maxFrameSize
  valid : validateFrame header = none

/-- The close frames given to the socket between two states. -/
def closeFramesSince (ws : Gobwas) (before after : Conn) : List Frame :=
  (after.closeFrames.drop before.closeFrames.length).map (CloseFrame.frame ws)

/-- The pong that `handlePingFrame` gives to the socket. -/
def pongs (ws : Gobwas) (payload : Bytes) (t : Turn) : List Frame :=
  if t.allowed = false then [] else [ws.newPongFrame payload]

/-- The control frames that `handlePingFrame`, `handleCloseFrame` and, when
the frame's handler fails, `handleProtocolError` give to the socket. -/
def responses (ws : Gobwas) (c : Conn) (f : Frame) (t : Turn) : List Frame :=
  let entered := { c with dispatched := c.dispatched ++ [f.header] }
  let result := handleOpCode entered f.header (f.unmasked ws) t
  (if f.header.opCode = opPing then pongs ws (f.unmasked ws) t
    else if f.header.opCode = opClose then closeFramesSince ws entered result.1
    else []) ++
  match result.2 with
  | none => []
  | some err =>
    closeFramesSince ws result.1 (result.1.handleProtocolError err t.closeOk)

/-- The status codes that are never sent. -/
def ForbiddenStatus (code : Nat) : Prop :=
  code ≤ 999 ∨ code = 1005 ∨ code = 1006 ∨ code = 1015

instance (code : Nat) : Decidable (ForbiddenStatus code) :=
  inferInstanceAs (Decidable (_ ∨ _))

def StatusAllowed (payload : Bytes) : Prop :=
  ∀ code, statusCode payload = some code → ¬ ForbiddenStatus code

structure Frame.Valid (f : Frame) : Prop where
  short : f.payload.length ≤ 125
  status : f.header.opCode = opClose → StatusAllowed f.payload

/-- Every reply to the frame is valid, on every connection and however its
turn goes, and so is the close frame of every protocol error. -/
def RepliesValid (ws : Gobwas) (f : Inbound) : Prop :=
  (∀ c t, ∀ reply ∈ responses ws c f.toFrame t, reply.Valid) ∧
    ∀ (c : Conn) err ok,
      ∀ reply ∈ closeFramesSince ws c (c.handleProtocolError err ok),
        reply.Valid

/-! ### The frames one by one -/

section Frames

variable (ws : Gobwas)

theorem length_unmasked (f : Frame) :
    (f.unmasked ws).length = f.payload.length := by
  unfold Frame.unmasked
  split
  · exact ws.length_cipher f.payload f.header.mask
  · rfl

theorem valid_closeFrame_iff {code : Nat} (hcode : code < 65536)
    (reason : Reason) :
    ((CloseFrame.mk code reason).frame ws).Valid ↔ ¬ ForbiddenStatus code := by
  have hpayload : ((CloseFrame.mk code reason).frame ws).payload =
      ws.newCloseFrameBody code reason.bytes :=
    ws.payload_close _
  have hstatus := ws.statusCode_body code reason.bytes hcode
  constructor
  · intro hvalid
    apply hvalid.status (ws.opCode_close _)
    rw [hpayload, hstatus]
  · intro hallowed
    constructor
    · rw [hpayload]
      exact ws.length_body code reason.bytes
    · intro _ code hsome
      rw [hpayload] at hsome
      obtain rfl := Option.some.inj (hstatus.symm.trans hsome)
      exact hallowed

theorem valid_pong_iff (payload : Bytes) :
    (ws.newPongFrame payload).Valid ↔ payload.length ≤ 125 := by
  have hpong : ¬ opPong = opClose := by decide
  constructor
  · intro hvalid
    rw [← ws.payload_pong payload]
    exact hvalid.short
  · intro hshort
    constructor
    · rw [ws.payload_pong]
      exact hshort
    · rw [ws.opCode_pong]
      exact fun hop => absurd hop hpong

theorem closeFramesSince_writeCloseOnce (c : Conn) (close : CloseFrame)
    (ok : Bool) :
    closeFramesSince ws c (c.writeCloseOnce close ok).1 =
      if c.closeTx then [] else [close.frame ws] := by
  rw [closeFramesSince, Conn.writeCloseOnce]
  split
  · rw [List.drop_length]
    rfl
  · rw [List.drop_left]
    rfl

/-- A protocol error is sent with the code 1002 and a reason cut to size. -/
theorem valid_protocolError (c : Conn) (err : ProtocolError) (ok : Bool) :
    ∀ reply ∈ closeFramesSince ws c (c.handleProtocolError err ok),
      reply.Valid := by
  intro reply hreply
  rw [show closeFramesSince ws c (c.handleProtocolError err ok) = _ from
    closeFramesSince_writeCloseOnce ws c _ ok] at hreply
  split at hreply
  · cases hreply
  · rw [List.mem_singleton.mp hreply, valid_closeFrame_iff ws (by decide)]
    decide

/-- What `handleCloseFrame` answers to a payload. -/
def closeAnswer (payload : Bytes) : CloseFrame :=
  if payload.length = 1 then
    ⟨statusProtocolError, .text "invalid close payload"⟩
  else closePayload payload

theorem closeFramesSince_handleCloseFrame (c : Conn) (payload : Bytes)
    (t : Turn) :
    closeFramesSince ws c (handleCloseFrame c payload t).1 =
      if c.closeTx then [] else [(closeAnswer payload).frame ws] := by
  rw [handleCloseFrame, closeAnswer]
  split
  · exact closeFramesSince_writeCloseOnce ws c _ t.closeOk
  · exact closeFramesSince_writeCloseOnce ws c _ t.closeOk

/-- The answer is valid exactly if the status it echoes may be sent. -/
theorem valid_closeAnswer_iff (payload : Bytes) :
    ((closeAnswer payload).frame ws).Valid ↔ StatusAllowed payload := by
  have hshort : payload.length < 2 → StatusAllowed payload := by
    intro hlength code hcode
    rw [statusCode, Option.map_eq_some_iff] at hcode
    obtain ⟨read, hread, -⟩ := hcode
    rw [(getLen_eq_some_iff.mp hread).2, List.length_append,
      putLen_length] at hlength
    omega
  cases payload with
  | nil =>
    refine iff_of_true ?_ (hshort (by decide))
    rw [closeAnswer, if_neg (by decide), closePayload,
      valid_closeFrame_iff ws (by decide)]
    · decide
    · rintro _ _ _ ⟨⟩
  | cons high rest =>
    cases rest with
    | nil =>
      refine iff_of_true ?_ (hshort (Nat.lt_succ_self 1))
      rw [closeAnswer, if_pos List.length_singleton,
        valid_closeFrame_iff ws (by decide)]
      decide
    | cons low reason =>
      have hhigh := high.toNat_lt
      have hlow := low.toNat_lt
      have hstatus : statusCode (high :: low :: reason) =
          some (high.toNat * 256 + low.toNat) := by
        simp [statusCode, getLen]
      rw [closeAnswer, if_neg (by simp), closePayload,
        valid_closeFrame_iff ws (by omega), StatusAllowed, hstatus]
      simp

end Frames

/-! ### The replies to a frame -/

section Replies

variable {ws : Gobwas} {c : Conn} {f : Frame} {t : Turn}

theorem handleOpCode_close {h : Header} (hop : h.opCode = opClose)
    (payload : Bytes) :
    handleOpCode c h payload t = handleCloseFrame c payload t := by
  simp [handleOpCode, hop, opText, opBinary, opContinuation, opClose]

/-- A reply is a pong, an answer to a close frame or that of an error. -/
theorem mem_responses {reply : Frame} (hreply : reply ∈ responses ws c f t) :
    (f.header.opCode = opPing ∧ reply = ws.newPongFrame (f.unmasked ws)) ∨
      (f.header.opCode = opClose ∧
        reply = (closeAnswer (f.unmasked ws)).frame ws) ∨
      ∃ (late : Conn) (err : ProtocolError), reply ∈
        closeFramesSince ws late (late.handleProtocolError err t.closeOk)
    := by
  simp only [responses, List.mem_append] at hreply
  obtain hanswer | herror := hreply
  · split at hanswer
    next hping =>
      rw [pongs] at hanswer
      split at hanswer
      · cases hanswer
      · exact .inl ⟨hping, List.mem_singleton.mp hanswer⟩
    next =>
      split at hanswer
      next hclose =>
        rw [handleOpCode_close hclose,
          closeFramesSince_handleCloseFrame] at hanswer
        split at hanswer
        · cases hanswer
        · exact .inr (.inl ⟨hclose, List.mem_singleton.mp hanswer⟩)
      next => cases hanswer
  · split at herror
    · cases herror
    next err _ => exact .inr (.inr ⟨_, err, herror⟩)

/-- On an open connection whose close frame is not sent, both are given to
the socket. -/
theorem reply_mem_responses (ws : Gobwas) (f : Frame) :
    (f.header.opCode = opPing →
        ws.newPongFrame (f.unmasked ws) ∈
          responses ws {} f (plainTurn .headerEnd)) ∧
      (f.header.opCode = opClose →
        (closeAnswer (f.unmasked ws)).frame ws ∈
          responses ws {} f (plainTurn .headerEnd)) := by
  constructor
  · intro hping
    rw [responses, List.mem_append, if_pos hping]
    exact .inl (List.mem_singleton_self _)
  · intro hclose
    have hping : ¬ f.header.opCode = opPing := by
      rw [hclose]
      decide
    rw [responses, List.mem_append, if_neg hping, if_pos hclose,
      handleOpCode_close hclose, closeFramesSince_handleCloseFrame]
    exact .inl (List.mem_singleton_self _)

theorem readFull_length (payload : Bytes) :
    readFull payload.length (some payload) = some payload := by
  rw [readFull]
  split
  next hempty => rw [List.eq_nil_of_length_eq_zero hempty]
  next => simp [Option.filter]

/-- The loop gives the frame to `handleFrame`. -/
theorem processClientMessage_inbound (f : Inbound)
    (hread : t.read = .frame f.header (some f.payload)) :
    processClientMessage ws c t = handleFrame ws c f.header f.payload t := by
  rw [processClientMessage_frame hread, if_neg (Nat.not_lt.mpr f.fits),
    ← f.read, readFull_length, f.valid]

theorem closeFrames_prefix_writeCloseOnce (c : Conn) (close : CloseFrame)
    (ok : Bool) :
    c.closeFrames <+: (c.writeCloseOnce close ok).1.closeFrames := by
  rw [Conn.writeCloseOnce]
  split
  · exact List.prefix_rfl
  · exact List.prefix_append _ _

theorem closeFramesSince_self (c : Conn) : closeFramesSince ws c c = [] := by
  rw [closeFramesSince, List.drop_length]
  rfl

theorem closeFramesSince_trans {first middle last : Conn}
    (hmiddle : first.closeFrames <+: middle.closeFrames)
    (hlast : middle.closeFrames <+: last.closeFrames) :
    closeFramesSince ws first last =
      closeFramesSince ws first middle ++ closeFramesSince ws middle last := by
  obtain ⟨new, hnew⟩ := hmiddle
  obtain ⟨newer, hnewer⟩ := hlast
  simp only [closeFramesSince]
  rw [← hnewer, List.drop_left, ← hnew, List.append_assoc, List.drop_left,
    List.drop_left, List.map_append]

/-- A handler other than those of the messages writes close frames only for
a close frame. -/
theorem handleOpCode_control {h : Header} (htext : h.opCode ≠ opText)
    (hbinary : h.opCode ≠ opBinary) (payload : Bytes) :
    (h.opCode = opClose ∧
        handleOpCode c h payload t = handleCloseFrame c payload t) ∨
      (h.opCode ≠ opClose ∧ (handleOpCode c h payload t).1 = c) := by
  by_cases hclose : h.opCode = opClose
  · exact .inl ⟨hclose, handleOpCode_close hclose payload⟩
  · refine .inr ⟨hclose, ?_⟩
    unfold handleOpCode
    rw [if_neg htext, if_neg hbinary, if_neg hclose]
    split_ifs <;> rfl

theorem filter_closeFramesSince (before after : Conn) :
    (closeFramesSince ws before after).filter
        (fun reply => reply.header.opCode = opClose) =
      closeFramesSince ws before after := by
  rw [List.filter_eq_self]
  intro reply hreply
  obtain ⟨close, -, rfl⟩ := List.mem_map.mp hreply
  exact decide_eq_true (ws.opCode_close _)

theorem filter_pongs (payload : Bytes) :
    (pongs ws payload t).filter
      (fun reply => reply.header.opCode = opClose) = [] := by
  rw [List.filter_eq_nil_iff, pongs]
  intro reply hreply
  split at hreply
  · cases hreply
  · rw [List.mem_singleton.mp hreply, ws.opCode_pong]
    decide

/-- The close frames among the replies of the handler itself. -/
theorem filter_handlerReplies {h : Header} (htext : h.opCode ≠ opText)
    (hbinary : h.opCode ≠ opBinary) (payload : Bytes) :
    let next := (handleOpCode c h payload t).1
    c.closeFrames <+: next.closeFrames ∧
      (if h.opCode = opPing then pongs ws payload t
        else if h.opCode = opClose then closeFramesSince ws c next
        else []).filter (fun reply => reply.header.opCode = opClose) =
      closeFramesSince ws c next := by
  intro next
  obtain ⟨hclose, hnext⟩ | ⟨hother, hnext⟩ :=
    handleOpCode_control (c := c) (t := t) htext hbinary payload
  · have hping : ¬ h.opCode = opPing := by
      rw [hclose]
      decide
    rw [if_neg hping, if_pos hclose, filter_closeFramesSince]
    refine ⟨?_, rfl⟩
    simp only [next, hnext, handleCloseFrame]
    split <;> exact closeFrames_prefix_writeCloseOnce c _ t.closeOk
  · simp only [next, hnext, if_neg hother, closeFramesSince_self]
    refine ⟨List.prefix_rfl, ?_⟩
    split
    · exact filter_pongs payload
    · rfl

/-- The close frames among the replies are those the loop records, unless the
frame is a message, whose handler may close the connection itself. -/
theorem closeFramesSince_processClientMessage (f : Inbound)
    (hread : t.read = .frame f.header (some f.payload))
    (htext : f.header.opCode ≠ opText) (hbinary : f.header.opCode ≠ opBinary) :
    closeFramesSince ws c (processClientMessage ws c t) =
      (responses ws c f.toFrame t).filter
        (fun reply => reply.header.opCode = opClose) := by
  obtain ⟨hgrows, hfilter⟩ := @filter_handlerReplies ws
    { c with dispatched := c.dispatched ++ [f.header] } t _ htext hbinary
    (f.unmasked ws)
  rw [processClientMessage_inbound f hread, responses, List.filter_append,
    hfilter, handleFrame, ← Frame.unmasked]
  generalize handleOpCode _ f.header (f.unmasked ws) t = result at hgrows ⊢
  obtain ⟨handled, stop⟩ := result
  cases stop with
  | none => exact (List.append_nil _).symm
  | some err =>
    dsimp only
    rw [filter_closeFramesSince, ← closeFramesSince_trans hgrows]
    · rfl
    · exact closeFrames_prefix_writeCloseOnce _ _ t.closeOk

end Replies

/-- The replies to a frame are valid exactly if a ping has at most 125 bytes
and a close frame has no status code that may not be sent. -/
theorem repliesValid_iff (ws : Gobwas) (f : Inbound) :
    RepliesValid ws f ↔
      (f.header.opCode = opPing → f.payload.length ≤ 125) ∧
        (f.header.opCode = opClose → StatusAllowed (f.unmasked ws)) := by
  constructor
  · rintro ⟨hvalid, -⟩
    obtain ⟨hpong, hanswer⟩ := reply_mem_responses ws f.toFrame
    refine ⟨fun hping => ?_, fun hclose => ?_⟩
    · rw [← length_unmasked ws, ← valid_pong_iff ws]
      exact hvalid _ _ _ (hpong hping)
    · rw [← valid_closeAnswer_iff ws]
      exact hvalid _ _ _ (hanswer hclose)
  · rintro ⟨hping, hclose⟩
    refine ⟨fun c t reply hreply => ?_, valid_protocolError ws⟩
    obtain ⟨hop, rfl⟩ | ⟨hop, rfl⟩ | ⟨late, err, herror⟩ :=
      mem_responses hreply
    · rw [valid_pong_iff, length_unmasked]
      exact hping hop
    · rw [valid_closeAnswer_iff]
      exact hclose hop
    · exact valid_protocolError ws late err t.closeOk reply herror

/-- A ping of 126 bytes. -/
def longPing : Inbound where
  toFrame := newFrame opPing true (List.replicate 126 0)
  read := rfl
  fits := by simp [newFrame, maxFrameSize]
  valid := by decide

/-- A close frame with the status code 1005. -/
def noStatusClose : Inbound where
  toFrame := newFrame opClose true [0x03, 0xED]
  read := rfl
  fits := by decide
  valid := by decide

/-- The pong of a long ping has 126 bytes, and 1005 is echoed. -/
theorem long_pong_and_echoed_1005 :
    (responses rfcFrames {} longPing.toFrame (plainTurn .headerEnd)).map
        (fun reply => (reply.header.opCode, reply.payload.length)) =
      [(opPong, 126)] ∧
    (responses rfcFrames {} noStatusClose.toFrame (plainTurn .headerEnd)).map
        (fun reply => (reply.header.opCode, statusCode reply.payload)) =
      [(opClose, some 1005)] ∧
    ¬ RepliesValid rfcFrames longPing ∧
    ¬ RepliesValid rfcFrames noStatusClose := by
  refine ⟨by decide +kernel, by decide +kernel, ?_, ?_⟩
  · rintro ⟨hvalid, -⟩
    have hpong := hvalid {} _ _
      ((reply_mem_responses rfcFrames longPing.toFrame).1 rfl)
    rw [valid_pong_iff, length_unmasked] at hpong
    exact absurd hpong (by decide +kernel)
  · rintro ⟨hvalid, -⟩
    have hstatus := (hvalid {} _ _
      ((reply_mem_responses rfcFrames noStatusClose.toFrame).2 rfl)).status
      rfl 1005
    exact hstatus (by decide +kernel) (by decide)

end FrameLoop

end Pipewave
