/-
The frames the server answers a client with.  Every arm of the handler sends
one response at most, it decodes, and it names the request it answers; whether
it can be told from a control frame depends on its message type.
-/
import Pipewave.ClientMsgHandler

namespace Pipewave

open Wire

namespace ClientMsgHandler

def Effect.frame : Effect → Option Bytes
  | .send data => some data
  | _ => none

/-- The frames a message makes the handler send. -/
def Handled.frames (handled : Handled) : List Bytes :=
  handled.effects.filterMap Effect.frame

def ControlFrame (data : Bytes) : Prop := ∃ code, IsControlFrame data code

structure WellFormed (clientMsg : Bytes) (handled : Handled)
    (data : Bytes) : Prop where
  decodes : ∃ res, WebsocketResponse.unmarshall data = .ok res ∧
    (handled.branch = .user → ∀ msg,
      WebsocketResquest.unmarshall clientMsg = .ok msg →
        res.responseToId = msg.id)
  /-- Only the answer to a heartbeat is a control frame. -/
  control : ControlFrame data ↔ handled.branch = .heartbeat

/-- One message of a client is answered properly. -/
structure Answers (clientMsg : Bytes) (handled : Handled) : Prop where
  once : handled.frames.length ≤ 1
  wellFormed : ∀ data ∈ handled.frames, WellFormed clientMsg handled data

/-- The message gets as far as the user's handler. -/
def Admitted (env : Env) (auth : WebsocketAuth) (msg : WebsocketResquest) :
    Prop :=
  env.allow = true ∧
    (msg.id = [] ∨ env.isDuplicate (msg.id ++ auth.instanceID) = false)

/-- An error text and the response's own ID fit the wire. -/
def Sendable (env : Env) (error : Bytes) : Prop :=
  env.newUUID.length ≤ 255 ∧ error.length ≤ 65535

/-- A request without a message type is neither refused nor failed, and the
user's handler does not answer with a sentinel. -/
structure KeepsControlApart (env : Env) (auth : WebsocketAuth)
    (msg : WebsocketResquest) : Prop where
  limited : msg.msgType = [] → env.allow = false →
    ¬ Sendable env env.rateLimitExceeded
  failed : msg.msgType = [] → Admitted env auth msg → ∀ text,
    env.handleMessage auth msg.msgType msg.binary = .error text →
      ¬ Sendable env text
  answered : Admitted env auth msg → ∀ msgType res,
    env.handleMessage auth msg.msgType msg.binary = .ok (msgType, res) →
      msgType = messageTypeHeartbeat ∨ msgType = messageTypeAck →
        ¬ Sendable env []

/-! ### One response -/

section Response

variable {clientMsg : Bytes} {handled : Handled}

/-- The handler has sent nothing before the deferred send. -/
def Handled.Silent (handled : Handled) : Prop := handled.frames = []

theorem frames_sendResponse (hsilent : handled.Silent) :
    (sendResponse handled).frames =
      (handled.response.bind WebsocketResponse.marshall).toList := by
  rw [sendResponse]
  cases hdata : handled.response.bind WebsocketResponse.marshall with
  | none => exact hsilent
  | some data =>
    rw [Handled.Silent, Handled.frames] at hsilent
    simp only [Handled.frames, List.filterMap_append, hsilent]
    rfl

theorem silent_handleHeartbeat (env : Env) (auth : WebsocketAuth) :
    (handleHeartbeat env auth).filterMap Effect.frame = [] := by
  rw [handleHeartbeat, List.filterMap_append]
  split <;> split <;> rfl

theorem silent_handleUndecodable (env : Env) (err : WireError) :
    (handleUndecodable env err).Silent := by
  unfold handleUndecodable
  split
  · simp only [Handled.Silent, Handled.frames, closeOnVersionMismatch]
    split <;> rfl
  · rfl

theorem silent_handleHeartbeatMsg (env : Env) (auth : WebsocketAuth)
    (msg : WebsocketResquest) : (handleHeartbeatMsg env auth msg).Silent := by
  unfold handleHeartbeatMsg
  split
  · exact silent_handleHeartbeat env auth
  · rfl

theorem silent_handleAckMsg (env : Env) (auth : WebsocketAuth)
    (msg : WebsocketResquest) : (handleAckMsg env auth msg).Silent := by
  unfold handleAckMsg
  split
  · simp only [Handled.Silent, Handled.frames, ackEffects]
    split
    · rfl
    · split
      · rfl
      · split <;> rfl
  · rfl

theorem silent_handleAnswer (env : Env) (auth : WebsocketAuth)
    (msg : WebsocketResquest) {before : List Effect}
    (hbefore : before.filterMap Effect.frame = []) :
    (handleAnswer env auth msg before).Silent := by
  have heffects : (before ++ [Effect.handleMessage auth msg.msgType
      msg.binary]).filterMap Effect.frame = [] := by
    rw [List.filterMap_append, hbefore]
    rfl
  unfold handleAnswer
  split
  · exact heffects
  · split <;> exact heffects

theorem silent_handleUserMsg (env : Env) (auth : WebsocketAuth)
    (msg : WebsocketResquest) : (handleUserMsg env auth msg).Silent := by
  simp only [handleUserMsg]
  split
  · rfl
  · split
    · exact silent_handleAnswer env auth msg rfl
    · split
      · rfl
      · exact silent_handleAnswer env auth msg rfl

/-- What has to be checked of a handler's response. -/
theorem answers_sendResponse_iff (hsilent : handled.Silent)
    (hcorrelated : handled.branch = .user → ∀ msg,
      WebsocketResquest.unmarshall clientMsg = .ok msg →
        ∀ res ∈ handled.response, res.responseToId = msg.id) :
    Answers clientMsg (sendResponse handled) ↔
      ∀ res ∈ handled.response, res.Fits →
        (IsControlType res.msgType ↔ handled.branch = .heartbeat) := by
  have hframes := frames_sendResponse hsilent
  constructor
  · rintro ⟨-, hwellFormed⟩ res hres hfits
    obtain ⟨data, hdata⟩ := Option.isSome_iff_exists.mp
      (WebsocketResponse.marshall_isSome_iff.mpr hfits)
    have hsent : data ∈ (sendResponse handled).frames := by
      rw [hframes, Option.mem_def.mp hres, Option.bind_some, hdata]
      exact List.mem_singleton_self data
    have hcontrol := (hwellFormed data hsent).control
    rw [sendResponse_branch] at hcontrol
    rw [← WebsocketResponse.marshall_control_iff hdata]
    exact hcontrol
  · intro hall
    constructor
    · rw [hframes]
      cases handled.response.bind WebsocketResponse.marshall <;> simp
    · intro data hsent
      rw [hframes, Option.mem_toList, Option.bind_eq_some_iff] at hsent
      obtain ⟨res, hres, hdata⟩ := hsent
      have hfits : res.Fits := by
        rw [← WebsocketResponse.marshall_isSome_iff, hdata]
        rfl
      constructor
      · refine ⟨_, WebsocketResponse.unmarshall_marshall hdata, ?_⟩
        rw [sendResponse_branch]
        intro hbranch msg hmsg
        exact hcorrelated hbranch msg hmsg res hres
      · rw [sendResponse_branch, ControlFrame,
          WebsocketResponse.marshall_control_iff hdata]
        exact hall res hres hfits

end Response

/-! ### The arms -/

section Arms

variable {env : Env} {auth : WebsocketAuth} {clientMsg : Bytes}
  {msg : WebsocketResquest}

theorem answers_handleUndecodable (env : Env) (err : WireError) :
    Answers clientMsg (sendResponse (handleUndecodable env err)) := by
  have hbranch : (handleUndecodable env err).branch = .undecodable := by
    unfold handleUndecodable
    split <;> rfl
  rw [answers_sendResponse_iff (silent_handleUndecodable env err)]
  · intro res hres _
    rw [hbranch]
    refine iff_of_false ?_ (by simp)
    unfold handleUndecodable at hres
    split at hres
    · cases hres
    · cases hres
      exact (by decide : ¬ IsControlType messageTypeError)
  · rw [hbranch]
    intro huser
    cases huser

theorem answers_handleHeartbeatMsg (env : Env) (auth : WebsocketAuth)
    (msg : WebsocketResquest) :
    Answers clientMsg (sendResponse (handleHeartbeatMsg env auth msg)) := by
  have hbranch : (handleHeartbeatMsg env auth msg).branch = .heartbeat := by
    unfold handleHeartbeatMsg
    split <;> rfl
  rw [answers_sendResponse_iff (silent_handleHeartbeatMsg env auth msg)]
  · intro res hres _
    rw [hbranch]
    refine iff_of_true ?_ rfl
    unfold handleHeartbeatMsg at hres
    split at hres
    · cases hres
      decide
    · cases hres
  · rw [hbranch]
    intro huser
    cases huser

theorem answers_handleAckMsg (env : Env) (auth : WebsocketAuth)
    (msg : WebsocketResquest) :
    Answers clientMsg (sendResponse (handleAckMsg env auth msg)) := by
  have hnone : (handleAckMsg env auth msg).response = none := by
    unfold handleAckMsg
    split <;> rfl
  rw [answers_sendResponse_iff (silent_handleAckMsg env auth msg)]
  · rw [hnone]
    intro res hres
    cases hres
  · rw [hnone]
    intro _ msg _ res hres
    cases hres

/-- The response to an ordinary request. -/
inductive UserResponse (env : Env) (auth : WebsocketAuth)
    (msg : WebsocketResquest) : Option WebsocketResponse → Prop where
  | limited (hallow : env.allow = false) : UserResponse env auth msg
      (some { id := env.newUUID, responseToId := msg.id,
              msgType := msg.msgType, error := env.rateLimitExceeded })
  | duplicate (hallow : env.allow = true) (hid : msg.id ≠ [])
      (hduplicate : env.isDuplicate (msg.id ++ auth.instanceID) = true) :
      UserResponse env auth msg none
  | failed (hadmitted : Admitted env auth msg) (text : Bytes)
      (hanswer : env.handleMessage auth msg.msgType msg.binary =
        .error text) : UserResponse env auth msg
      (some { id := env.newUUID, responseToId := msg.id,
              msgType := msg.msgType, error := text })
  | silent (hadmitted : Admitted env auth msg) (res : Option Bytes)
      (hanswer : env.handleMessage auth msg.msgType msg.binary =
        .ok ([], res)) : UserResponse env auth msg none
  | answered (hadmitted : Admitted env auth msg) (msgType : Bytes)
      (res : Option Bytes) (hne : msgType ≠ [])
      (hanswer : env.handleMessage auth msg.msgType msg.binary =
        .ok (msgType, res)) : UserResponse env auth msg
      (some { id := env.newUUID, responseToId := msg.id, msgType,
              binary := res })

theorem userResponse_handleAnswer (hadmitted : Admitted env auth msg)
    (before : List Effect) :
    UserResponse env auth msg (handleAnswer env auth msg before).response := by
  unfold handleAnswer
  cases hanswer : env.handleMessage auth msg.msgType msg.binary with
  | error text => exact .failed hadmitted text hanswer
  | ok answer =>
    obtain ⟨msgType, res⟩ := answer
    by_cases hempty : msgType = []
    · subst hempty
      exact .silent hadmitted res hanswer
    · simp only [hempty, if_false]
      exact .answered hadmitted msgType res hempty hanswer

theorem userResponse_handleUserMsg (env : Env) (auth : WebsocketAuth)
    (msg : WebsocketResquest) :
    UserResponse env auth msg (handleUserMsg env auth msg).response := by
  cases hallow : env.allow with
  | false =>
    simp only [handleUserMsg, hallow, Bool.not_false, if_true]
    exact .limited hallow
  | true =>
    simp only [handleUserMsg, hallow, Bool.not_true, Bool.false_eq_true,
      if_false]
    by_cases hid : msg.id = []
    · simp only [hid, if_true]
      exact userResponse_handleAnswer ⟨hallow, .inl hid⟩ _
    · simp only [hid, if_false]
      cases hduplicate : env.isDuplicate (msg.id ++ auth.instanceID) with
      | true => exact .duplicate hallow hid hduplicate
      | false =>
        exact userResponse_handleAnswer ⟨hallow, .inr hduplicate⟩ _

theorem UserResponse.responseToId {response : Option WebsocketResponse}
    (hresponse : UserResponse env auth msg response) :
    ∀ res ∈ response, res.responseToId = msg.id := by
  intro res hres
  cases hresponse <;> cases hres <;> rfl

theorem branch_handleUserMsg (hheartbeat : msg.msgType ≠ messageTypeHeartbeat)
    (hack : msg.msgType ≠ messageTypeAck) :
    (handleUserMsg env auth msg).branch = .user := by
  have hbranch := dispatch_branch env auth msg
  rwa [dispatch, if_neg hheartbeat, if_neg hack, if_neg hheartbeat,
    if_neg hack] at hbranch

theorem isControlType_iff_nil (hheartbeat : msg.msgType ≠ messageTypeHeartbeat)
    (hack : msg.msgType ≠ messageTypeAck) :
    IsControlType msg.msgType ↔ msg.msgType = [] := by
  rw [IsControlType]
  simp only [hheartbeat, hack, or_false]

theorem fits_iff_sendable (hid : msg.id.length ≤ 255) {msgType error : Bytes}
    {binary : Option Bytes} (htype : (wireHead msgType).1.length ≤ 255) :
    WebsocketResponse.Fits
        { id := env.newUUID, responseToId := msg.id, msgType, error,
          binary } ↔
      Sendable env error := by
  constructor
  · rintro ⟨-, huuid, -, -, herror⟩
    exact ⟨huuid, herror⟩
  · rintro ⟨huuid, herror⟩
    exact ⟨htype, huuid, hid, Nat.zero_le _, herror⟩

theorem length_wireHead_control {mt : MessageType}
    (hcontrol : IsControlType mt) : (wireHead mt).1.length ≤ 255 := by
  rw [(wireHead_eq_nil_iff mt).mpr hcontrol]
  exact Nat.zero_le _

/-! What the condition comes to in each outcome. -/

theorem keepsControlApart_limited (hallow : env.allow = false) :
    KeepsControlApart env auth msg ↔
      (msg.msgType = [] → ¬ Sendable env env.rateLimitExceeded) := by
  have hnot : ¬ Admitted env auth msg := by
    rintro ⟨hadmitted, -⟩
    rw [hallow] at hadmitted
    cases hadmitted
  constructor
  · exact fun hkeeps hempty => hkeeps.limited hempty hallow
  · intro hlimited
    exact ⟨fun hempty _ => hlimited hempty, fun _ h => absurd h hnot,
      fun h => absurd h hnot⟩

theorem keepsControlApart_duplicate (hallow : env.allow = true)
    (hid : msg.id ≠ [])
    (hduplicate : env.isDuplicate (msg.id ++ auth.instanceID) = true) :
    KeepsControlApart env auth msg := by
  have hnot : ¬ Admitted env auth msg := by
    rintro ⟨-, hempty | hfresh⟩
    · exact hid hempty
    · rw [hduplicate] at hfresh
      cases hfresh
  refine ⟨?_, fun _ h => absurd h hnot, fun h => absurd h hnot⟩
  intro _ hdenied
  rw [hallow] at hdenied
  cases hdenied

theorem keepsControlApart_admitted (hadmitted : Admitted env auth msg) :
    KeepsControlApart env auth msg ↔
      (msg.msgType = [] → ∀ text,
        env.handleMessage auth msg.msgType msg.binary = .error text →
          ¬ Sendable env text) ∧
      ∀ msgType res,
        env.handleMessage auth msg.msgType msg.binary = .ok (msgType, res) →
          msgType = messageTypeHeartbeat ∨ msgType = messageTypeAck →
            ¬ Sendable env [] := by
  constructor
  · intro hkeeps
    exact ⟨fun hempty => hkeeps.failed hempty hadmitted,
      hkeeps.answered hadmitted⟩
  · rintro ⟨hfailed, hanswered⟩
    refine ⟨?_, fun hempty _ => hfailed hempty, fun _ => hanswered⟩
    intro _ hdenied
    rw [hadmitted.1] at hdenied
    cases hdenied

/-- The response to an ordinary request is no control frame exactly when its
message type is none of the control types. -/
theorem keepsControlApart_iff {response : Option WebsocketResponse}
    (hresponse : UserResponse env auth msg response)
    (hid : msg.id.length ≤ 255) (htype : msg.msgType.length ≤ 255)
    (hheartbeat : msg.msgType ≠ messageTypeHeartbeat)
    (hack : msg.msgType ≠ messageTypeAck) :
    (∀ res ∈ response, res.Fits → ¬ IsControlType res.msgType) ↔
      KeepsControlApart env auth msg := by
  have hwire : (wireHead msg.msgType).1.length ≤ 255 :=
    Nat.le_trans (wireHead_length_le _) htype
  have hnil := isControlType_iff_nil hheartbeat hack
  cases hresponse with
  | limited hallow =>
    simp only [keepsControlApart_limited hallow, Option.mem_some_iff,
      forall_eq', fits_iff_sendable hid hwire, hnil]
    exact imp_not_comm
  | duplicate hallow hne hduplicate =>
    exact iff_of_true (fun res hres => by cases hres)
      (keepsControlApart_duplicate hallow hne hduplicate)
  | failed hadmitted text hanswer =>
    simp only [keepsControlApart_admitted hadmitted, hanswer,
      Except.error.injEq, forall_eq', reduceCtorEq, false_implies,
      implies_true, and_true, Option.mem_some_iff,
      fits_iff_sendable hid hwire, hnil]
    exact imp_not_comm
  | silent hadmitted res hanswer =>
    refine iff_of_true (fun res hres => by cases hres) ?_
    rw [keepsControlApart_admitted hadmitted, hanswer]
    constructor
    · intro _ text hfailed
      cases hfailed
    · intro msgType res' hok hsentinel
      cases hok
      exact absurd hsentinel (by decide)
  | answered hadmitted msgType res hne hanswer =>
    simp only [keepsControlApart_admitted hadmitted, hanswer,
      Option.mem_some_iff, forall_eq', reduceCtorEq, false_implies,
      implies_true, true_and, Except.ok.injEq, Prod.mk.injEq, and_imp,
      forall_apply_eq_imp_iff]
    constructor
    · intro hall hsentinel hsendable
      have hcontrol : IsControlType msgType := .inr hsentinel
      apply hall _ hcontrol
      exact (fits_iff_sendable hid
        (length_wireHead_control hcontrol)).mpr hsendable
    · intro hkeeps hfits hcontrol
      apply hkeeps (hcontrol.resolve_left hne)
      exact (fits_iff_sendable hid
        (length_wireHead_control hcontrol)).mp hfits

theorem answers_handleUserMsg_iff
    (hmsg : WebsocketResquest.unmarshall clientMsg = .ok msg)
    (hid : msg.id.length ≤ 255) (htype : msg.msgType.length ≤ 255)
    (hheartbeat : msg.msgType ≠ messageTypeHeartbeat)
    (hack : msg.msgType ≠ messageTypeAck) :
    Answers clientMsg (sendResponse (handleUserMsg env auth msg)) ↔
      KeepsControlApart env auth msg := by
  have hresponse := userResponse_handleUserMsg env auth msg
  rw [answers_sendResponse_iff (silent_handleUserMsg env auth msg),
    branch_handleUserMsg hheartbeat hack,
    ← keepsControlApart_iff hresponse hid htype hheartbeat hack]
  · simp only [reduceCtorEq, iff_false]
  · intro _ other hother
    rw [hmsg] at hother
    cases hother
    exact hresponse.responseToId

end Arms

/-- Every message of a client, in every environment: it is answered properly
exactly when an ordinary request keeps its answer apart from the control
frames. -/
theorem answers_iff_keepsControlApart (env : Env) (auth : WebsocketAuth)
    (clientMsg : Bytes) :
    (∀ handled ∈ handleMessage env auth clientMsg,
        Answers clientMsg handled) ↔
      ∀ msg, WebsocketResquest.unmarshall clientMsg = .ok msg →
        msg.msgType ≠ messageTypeHeartbeat → msg.msgType ≠ messageTypeAck →
          KeepsControlApart env auth msg := by
  cases hmsg : WebsocketResquest.unmarshall clientMsg with
  | error stop =>
    refine iff_of_true ?_ (fun msg h => by cases h)
    intro handled hhandled
    cases stop with
    | outOfRange => exact absurd hmsg (unmarshall_ne_outOfRange _)
    | err err =>
      simp only [handleMessage, hmsg] at hhandled
      cases hhandled
      exact answers_handleUndecodable env err
  | ok msg =>
    obtain ⟨p, -, hrequest⟩ := request_unmarshall_eq_ok_iff.mp hmsg
    have hid : msg.id.length ≤ 255 := by
      rw [← hrequest]
      exact fieldValue_length p.id
    have htype : msg.msgType.length ≤ 255 := by
      rw [← hrequest]
      exact length_messageType p.head
    simp only [handleMessage, hmsg, Option.mem_def, Option.some.injEq,
      forall_eq', Except.ok.injEq]
    by_cases hheartbeat : msg.msgType = messageTypeHeartbeat
    · refine iff_of_true ?_ (fun h => absurd hheartbeat h)
      rw [dispatch, if_pos hheartbeat]
      exact answers_handleHeartbeatMsg env auth msg
    · by_cases hack : msg.msgType = messageTypeAck
      · refine iff_of_true ?_ (fun _ h => absurd hack h)
        rw [dispatch, if_neg hheartbeat, if_pos hack]
        exact answers_handleAckMsg env auth msg
      · rw [dispatch, if_neg hheartbeat, if_neg hack,
          answers_handleUserMsg_iff hmsg hid htype hheartbeat hack]
        simp only [ne_eq, hheartbeat, hack, not_false_eq_true,
          forall_const]

/-- An unknown control code gets past the rate limiter to a failing handler,
and an ordinary request gets the ACK sentinel as its answer: both responses
are control frames. -/
theorem response_taken_for_control :
    let failing := { permissive with
      handleMessage := fun _ _ _ => .error [0x78] }
    let echoing := { permissive with
      handleMessage := fun _ _ _ => .ok (messageTypeAck, none) }
    let unknownCode : Bytes := [0x01, 0, 0x07]
    let ordinary : Bytes := [0x01, 1, 0x74]
    let failed : Bytes := [0x91, 0, 0, 36] ++ plainUUID ++ [0, 1, 0x78]
    let answered : Bytes := [0x11, 0, 0xCB, 36] ++ plainUUID
    ((handleMessage failing ⟨[1], [2]⟩ unknownCode).map fun handled =>
        (handled.branch, handled.frames)) =
      some (.user, [failed]) ∧
    ControlFrame failed ∧
    ((handleMessage echoing ⟨[1], [2]⟩ ordinary).map fun handled =>
        (handled.branch, handled.frames)) =
      some (.user, [answered]) ∧
    ControlFrame answered :=
  ⟨by decide, ⟨0, by decide⟩, by decide, ⟨0xCB, by decide⟩⟩

end ClientMsgHandler

end Pipewave
