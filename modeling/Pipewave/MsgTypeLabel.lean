/-
The `msg_type` label of the client message metrics.  The handler dispatches on
the sentinels of the decoded message type, the sanitiser knows the system
messages by a single byte.
-/
import Pipewave.ClientMsgHandler
import Pipewave.GoMap

namespace Pipewave

open Wire ClientMsgHandler

namespace Metrics

/-- The string `other`. -/
def msgTypeOther : Bytes := [0x6F, 0x74, 0x68, 0x65, 0x72]

/-- The string `heartbeat`. -/
def msgTypeHeartbeat : Bytes :=
  [0x68, 0x65, 0x61, 0x72, 0x74, 0x62, 0x65, 0x61, 0x74]

/-- The string `ack`. -/
def msgTypeAck : Bytes := [0x61, 0x63, 0x6B]

def sysByteHeartbeat : UInt8 := 202
def sysByteAck : UInt8 := 203

def maxMsgTypeLen : Nat := 32

def buildAllowlist (entries : List Bytes) : GoMap Bytes Unit :=
  entries.foldl (fun set e => set.insert e ()) ∅

def isPrintableASCII (s : Bytes) : Bool :=
  s.all fun byte => !(decide (byte < 0x20) || decide (0x7E < byte))

/-- The switch over a single byte. -/
def systemLabel : Bytes → Option Bytes
  | [byte] =>
    if byte = sysByteHeartbeat then some msgTypeHeartbeat
    else if byte = sysByteAck then some msgTypeAck
    else none
  | _ => none

def sanitizeMsgType (raw : Bytes) (allowlist : GoMap Bytes Unit) : Bytes :=
  match systemLabel raw with
  | some label => label
  | none =>
    if raw = [] ∨ maxMsgTypeLen < raw.length then msgTypeOther
    else if allowlist.lookup raw = none then msgTypeOther
    else if isPrintableASCII raw = false then msgTypeOther
    else raw

/-- The attributes of the message counter. -/
structure Attributes where
  msgType : Bytes
  outcome : Outcome
deriving Repr, DecidableEq

/-- `RecordClientMessage` from the deferred call of the handler. -/
def recordClientMessage (allowlist : GoMap Bytes Unit) (handled : Handled) :
    Attributes :=
  ⟨sanitizeMsgType handled.rawMsgType allowlist, handled.outcome⟩

/-- The label of a message with the given type says which arm ran. -/
structure LabelledByArm (allowlist : GoMap Bytes Unit) (msgType : Bytes)
    (branch : Branch) (label : Bytes) : Prop where
  heartbeat : label = msgTypeHeartbeat ↔ branch = .heartbeat
  ack : label = msgTypeAck ↔ branch = .ack
  other : label ≠ msgTypeHeartbeat → label ≠ msgTypeAck →
    label = msgTypeOther ∨
      (label ∈ allowlist ∧ isPrintableASCII label = true ∧
        label.length ≤ 32 ∧ label = msgType)

/-- Every way of handling a client message is labelled by its arm. -/
def LabelsDispatched (entries : List Bytes) (clientMsg : Bytes)
    (msg : WebsocketResquest) : Prop :=
  ∀ env auth handled, handleMessage env auth clientMsg = some handled →
    LabelledByArm (buildAllowlist entries) msg.msgType handled.branch
      (recordClientMessage (buildAllowlist entries) handled).msgType

/-! ### The recorded type -/

@[simp] theorem sendResponse_rawMsgType (handled : Handled) :
    (sendResponse handled).rawMsgType = handled.rawMsgType := by
  unfold sendResponse
  split <;> rfl

theorem rawMsgType_handleAnswer (env : Env) (auth : WebsocketAuth)
    (msg : WebsocketResquest) (before : List Effect) :
    (handleAnswer env auth msg before).rawMsgType = msg.msgType := by
  unfold handleAnswer
  split
  · rfl
  · split <;> rfl

/-- Every arm records the decoded type. -/
theorem rawMsgType_dispatch (env : Env) (auth : WebsocketAuth)
    (msg : WebsocketResquest) :
    (dispatch env auth msg).rawMsgType = msg.msgType := by
  unfold dispatch
  split
  · unfold handleHeartbeatMsg
    split <;> rfl
  · split
    · unfold handleAckMsg
      split <;> rfl
    · simp only [handleUserMsg]
      split
      · rfl
      · split
        · exact rawMsgType_handleAnswer env auth msg _
        · split
          · rfl
          · exact rawMsgType_handleAnswer env auth msg _

theorem recordClientMessage_msgType (allowlist : GoMap Bytes Unit) (env : Env)
    (auth : WebsocketAuth) (msg : WebsocketResquest) :
    (recordClientMessage allowlist
      (sendResponse (dispatch env auth msg))).msgType =
      sanitizeMsgType msg.msgType allowlist := by
  rw [recordClientMessage, sendResponse_rawMsgType, rawMsgType_dispatch]

/-! ### The sanitiser -/

theorem mem_buildAllowlist {entries : List Bytes} {raw : Bytes} :
    raw ∈ buildAllowlist entries ↔ raw ∈ entries := by
  rw [buildAllowlist, GoMap.mem_foldl_insert]
  simp

/-- A type that is no system byte is its own label or `other`. -/
theorem sanitizeMsgType_of_user {raw : Bytes} {allowlist : GoMap Bytes Unit}
    (huser : systemLabel raw = none) :
    sanitizeMsgType raw allowlist = msgTypeOther ∨
      (sanitizeMsgType raw allowlist = raw ∧ raw ∈ allowlist ∧
        isPrintableASCII raw = true ∧ raw.length ≤ 32) := by
  rw [sanitizeMsgType, huser]
  dsimp only
  split
  · exact .inl rfl
  next hlength =>
    split
    · exact .inl rfl
    next hlisted =>
      split
      · exact .inl rfl
      next hprintable =>
        rw [not_or, Nat.not_lt] at hlength
        rw [AList.lookup_eq_none, not_not] at hlisted
        exact .inr ⟨rfl, hlisted, eq_true_of_ne_false hprintable, hlength.2⟩

theorem systemLabel_eq_none_iff (raw : Bytes) :
    systemLabel raw = none ↔
      raw ≠ [sysByteHeartbeat] ∧ raw ≠ [sysByteAck] := by
  unfold systemLabel
  split
  next byte =>
    rw [ne_eq, ne_eq, List.cons.injEq, List.cons.injEq, and_iff_left rfl,
      and_iff_left rfl]
    split
    next h => simp [h]
    next h =>
      split
      next h' => simp [h']
      next h' => simp [h, h']
  next hlong =>
    refine iff_of_true rfl ⟨?_, ?_⟩
    · exact hlong sysByteHeartbeat
    · exact hlong sysByteAck

section Words

variable {entries : List Bytes} (hheartbeat : msgTypeHeartbeat ∉ entries)
  (hack : msgTypeAck ∉ entries) (raw : Bytes)

include hheartbeat hack

/-- Without the two words in the list, their labels stand for the bytes. -/
theorem sanitizeMsgType_eq_word_iff :
    (sanitizeMsgType raw (buildAllowlist entries) = msgTypeHeartbeat ↔
        raw = [sysByteHeartbeat]) ∧
      (sanitizeMsgType raw (buildAllowlist entries) = msgTypeAck ↔
        raw = [sysByteAck]) := by
  by_cases huser : systemLabel raw = none
  · obtain ⟨hne, hne'⟩ := (systemLabel_eq_none_iff raw).mp huser
    obtain hother | ⟨hself, hlisted, -, -⟩ :=
      @sanitizeMsgType_of_user raw (buildAllowlist entries) huser
    · rw [hother]
      exact ⟨iff_of_false (by decide) hne, iff_of_false (by decide) hne'⟩
    · rw [hself]
      rw [mem_buildAllowlist] at hlisted
      refine ⟨iff_of_false ?_ hne, iff_of_false ?_ hne'⟩
      · rintro rfl
        exact hheartbeat hlisted
      · rintro rfl
        exact hack hlisted
  · rw [systemLabel_eq_none_iff, not_and_or, not_not, not_not] at huser
    obtain rfl | rfl := huser
    · rw [show sanitizeMsgType [sysByteHeartbeat] (buildAllowlist entries) =
        msgTypeHeartbeat from rfl]
      decide
    · rw [show sanitizeMsgType [sysByteAck] (buildAllowlist entries) =
        msgTypeAck from rfl]
      decide

theorem labelledByArm_iff {branch : Branch}
    (hbranch : branch = if raw = messageTypeHeartbeat then .heartbeat
      else if raw = messageTypeAck then .ack else .user) :
    LabelledByArm (buildAllowlist entries) raw branch
        (sanitizeMsgType raw (buildAllowlist entries)) ↔
      raw ≠ messageTypeHeartbeat ∧ raw ≠ messageTypeAck ∧
        raw ≠ [sysByteHeartbeat] ∧ raw ≠ [sysByteAck] := by
  obtain ⟨hword, hword'⟩ := sanitizeMsgType_eq_word_iff hheartbeat hack raw
  constructor
  · rintro ⟨hlabel, hlabel', -⟩
    rw [hword, hbranch] at hlabel
    rw [hword', hbranch] at hlabel'
    refine ⟨?_, ?_, ?_, ?_⟩
    · rintro rfl
      exact absurd (hlabel.mpr rfl) (by decide)
    · rintro rfl
      exact absurd (hlabel'.mpr rfl) (by decide)
    · rintro rfl
      exact absurd (hlabel.mp rfl) (by decide)
    · rintro rfl
      exact absurd (hlabel'.mp rfl) (by decide)
  · rintro ⟨hnot, hnot', hbyte, hbyte'⟩
    rw [if_neg hnot, if_neg hnot'] at hbranch
    refine ⟨?_, ?_, fun _ _ => ?_⟩
    · rw [hword, hbranch]
      exact iff_of_false hbyte (by simp)
    · rw [hword', hbranch]
      exact iff_of_false hbyte' (by simp)
    · obtain hother | ⟨hself, hlisted, hprintable, hlength⟩ :=
        sanitizeMsgType_of_user
          ((systemLabel_eq_none_iff raw).mpr ⟨hbyte, hbyte'⟩)
      · exact .inl hother
      · rw [hself]
        exact .inr ⟨hlisted, hprintable, hlength, rfl⟩

end Words

/-- A decoded message is labelled by the arm that handles it exactly if its
type is neither a sentinel nor a single system byte. -/
theorem labelsDispatched_iff {clientMsg : Bytes} {msg : WebsocketResquest}
    (hdecoded : WebsocketResquest.unmarshall clientMsg = .ok msg)
    {entries : List Bytes} (hheartbeat : msgTypeHeartbeat ∉ entries)
    (hack : msgTypeAck ∉ entries) :
    LabelsDispatched entries clientMsg msg ↔
      msg.msgType ≠ messageTypeHeartbeat ∧ msg.msgType ≠ messageTypeAck ∧
        msg.msgType ≠ [sysByteHeartbeat] ∧ msg.msgType ≠ [sysByteAck] := by
  have hhandled : ∀ env auth, handleMessage env auth clientMsg =
      some (sendResponse (dispatch env auth msg)) := by
    intro env auth
    rw [handleMessage, hdecoded]
  have hlabel := fun env auth => labelledByArm_iff hheartbeat hack msg.msgType
    (dispatch_branch env auth msg)
  constructor
  · intro hall
    have harm := hall permissive ⟨[], []⟩ _ (hhandled _ _)
    rw [recordClientMessage_msgType, sendResponse_branch] at harm
    exact (hlabel _ _).mp harm
  · intro htype env auth handled hsome
    rw [hhandled, Option.some.injEq] at hsome
    rw [← hsome, recordClientMessage_msgType, sendResponse_branch]
    exact (hlabel _ _).mpr htype

/-- The type `CHAT` with an allow-list that has it. -/
theorem labelsDispatched_chat :
    let chat : Bytes := [0x43, 0x48, 0x41, 0x54]
    WebsocketResquest.unmarshall ([0x01, 4] ++ chat) =
        .ok { msgType := chat, binary := some [] } ∧
      LabelsDispatched [chat] ([0x01, 4] ++ chat)
        { msgType := chat, binary := some [] } :=
  ⟨by decide, (labelsDispatched_iff (by decide) (by decide)
    (by decide)).mpr (by decide)⟩

/-- A heartbeat is labelled `other`, and a message of an application that uses
the byte 202 for its type is labelled `heartbeat`. -/
theorem heartbeat_labelled_other :
    (handleMessage permissive ⟨[1], [2]⟩ [0x01, 0, 0xCA]).map (fun handled =>
        (handled.branch, (recordClientMessage (buildAllowlist [])
          handled).msgType)) = some (.heartbeat, msgTypeOther) ∧
      (handleMessage permissive ⟨[1], [2]⟩ [0x01, 1, 202]).map (fun handled =>
        (handled.branch, (recordClientMessage (buildAllowlist [])
          handled).msgType)) = some (.user, msgTypeHeartbeat) := by
  decide

end Metrics

end Pipewave
