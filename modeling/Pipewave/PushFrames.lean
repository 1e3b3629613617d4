/-
What a send of the admin API puts on the wire.  Every broadcast handler wraps
the caller's message into one frame and hands that frame to connections and to
the message hub, whatever became of the wrapping.
-/
import Pipewave.AdminSend
import Pipewave.MessageType

namespace Pipewave

namespace AdminSend

open SendOrSave (Effect)
open Routing (Fleet)

/-- `fn.NewUUID().String()`. -/
abbrev UUIDString := { id : Bytes // id.length = 36 }

/-- `fn.NewNanoID(18)`, which is empty when the generator fails. -/
abbrev NanoID := { id : Bytes // id.length ≤ 18 }

/-- `ack_`, then the drawn part. -/
def ackIDOf (nanoID : NanoID) : Bytes := [0x61, 0x63, 0x6B, 0x5F] ++ nanoID.1

/-- The nil slice of a response that does not fit the wire is empty. -/
def bytesOf (res : WebsocketResponse) : Bytes := res.marshall.getD []

def wrapperBytesToWebsocketResponse (id responseToId : Bytes)
    (msgType : MessageType) (data : Option Bytes) : Bytes :=
  bytesOf { id, responseToId, msgType, binary := data }

def Request.msgType : Request → Bytes
  | .session _ _ msgType _ _ => msgType
  | .user _ msgType _ _ => msgType
  | .users _ msgType _ => msgType
  | .broadcast _ msgType _ _ => msgType

/-- The frame of a handler that runs for a message; the sends with an
acknowledgement put its ID into the frame. -/
def pushFrame (request : Request) (id : UUIDString) (nanoID : NanoID) :
    Message → Bytes
  | .targeted (.sendToSessionWithAck _ _)
  | .targeted (.sendToUserWithAck _) =>
    bytesOf { id := id.1, msgType := request.msgType,
              binary := request.payload, ackId := ackIDOf nanoID }
  | .targeted (.sendToSession _ _) | .targeted (.sendToUser _)
  | .targeted (.sendToUsers _) | .broadcast _ =>
    wrapperBytesToWebsocketResponse id.1 [] request.msgType request.payload

/-- The handler of a message in a container. -/
def handler (fleet : Fleet) (node : ContainerID) (frame : Bytes) :
    Message → List Effect
  | .targeted message => (handleMsg fleet node frame message).effects
  | .broadcast message => (handleBroadcastMsg fleet node frame message).effects

/-- The sender's own `Save` for a session that no container holds. -/
def transferringAction (request : Request) (id : UUIDString) :
    Message → List Effect
  | .targeted (.sendToSession userID instanceID)
  | .targeted (.sendToSessionWithAck userID instanceID) =>
    [.save ⟨userID, instanceID⟩ (wrapperBytesToWebsocketResponse id.1 []
      request.msgType request.payload)]
  | _ => []

/-- Where a send hands a frame on. -/
inductive Site where
  | handler (fleet : Fleet) (node : ContainerID)
  | transferring

def Site.pushes (request : Request) (id : UUIDString) (nanoID : NanoID)
    (message : Message) : Site → List Effect
  | .handler fleet node => AdminSend.handler fleet node
      (pushFrame request id nanoID message) message
  | .transferring => transferringAction request id message

/-- The container has a connection or a waiting session that the message is
for.  The loop over listed instances ends at an empty one. -/
def HasReceiver (fleet : Fleet) (node : ContainerID) : Message → Prop
  | .targeted (.sendToSession userID instanceID) =>
    ((fleet.nodes node).connections.getConnection
      ⟨userID, instanceID⟩).isSome = true ∨
    (fleet.nodes node).hub.isRegistered userID instanceID = true
  | .targeted (.sendToSessionWithAck userID instanceID) =>
    ((fleet.nodes node).connections.getConnection
      ⟨userID, instanceID⟩).isSome = true
  | .targeted (.sendToUser userID) =>
    fleet.HasConn userID node ∨ ∃ instanceID,
      (fleet.nodes node).hub.isRegistered userID instanceID = true
  | .targeted (.sendToUserWithAck userID) => fleet.HasConn userID node
  | .targeted (.sendToUsers userIDs) =>
    ∃ userID ∈ userIDs, fleet.HasConn userID node
  | .broadcast (.sendToAnonymous true _) =>
    anonymousEntries (fleet.nodes node).connections ≠ []
  | .broadcast (.sendToAnonymous false instanceIDs) =>
    ∃ instanceID ∈ instanceIDs.takeWhile (· ≠ []),
      ((fleet.nodes node).connections.getConnection
        ⟨[], instanceID⟩).isSome = true
  | .broadcast .sendToAuthenticated =>
    authenticatedEntries (fleet.nodes node).connections ≠ []
  | .broadcast .sendToAll =>
    authenticatedEntries (fleet.nodes node).connections ≠ [] ∨
      anonymousEntries (fleet.nodes node).connections ≠ []

/-- The message is for a session. -/
def Message.ForSession : Message → Prop
  | .targeted (.sendToSession _ _) | .targeted (.sendToSessionWithAck _ _) =>
    True
  | _ => False

def Site.HasReceiver (message : Message) : Site → Prop
  | .handler fleet node => AdminSend.HasReceiver fleet node message
  | .transferring => message.ForSession

/-- The bytes given to `Send` or `Save`. -/
def pushed : Effect → Bytes
  | .send _ payload _ => payload
  | .save _ payload => payload

/-- A valid frame that carries the caller's message and is no control
frame. -/
structure Faithful (request : Request) (data : Bytes) : Prop where
  decodes : ∃ res, WebsocketResponse.unmarshall data = .ok res ∧
    res.msgType = request.msgType ∧
    res.binary.getD [] = request.payload.getD []
  ordinary : ¬ ∃ code, IsControlFrame data code

/-- The message type fits its length byte and is no sentinel. -/
def Request.Wrappable (request : Request) : Prop :=
  request.msgType.length ≤ 255 ∧ request.msgType ≠ messageTypeHeartbeat ∧
    request.msgType ≠ messageTypeAck

instance (request : Request) : Decidable request.Wrappable :=
  inferInstanceAs (Decidable (_ ∧ _))

/-! ### One frame -/

section Frame

variable {request : Request}

theorem unmarshall_nil :
    WebsocketResponse.unmarshall [] = .error (.err .malformed) := rfl

theorem wireHead_of_not_sentinel {mt : MessageType}
    (hheartbeat : mt ≠ messageTypeHeartbeat) (hack : mt ≠ messageTypeAck) :
    (wireHead mt).1 = mt := by
  simp [wireHead, controlCodeFor, hheartbeat, hack]

/-- The frame of a response with the caller's message. -/
theorem faithful_bytesOf_iff {res : WebsocketResponse}
    (hmsgType : res.msgType = request.msgType)
    (hbinary : res.binary = request.payload) (hid : res.id.length ≤ 255)
    (hack : res.ackId.length ≤ 255) (hresponse : res.responseToId = [])
    (herror : res.error = []) (hnonempty : request.msgType ≠ []) :
    Faithful request (bytesOf res) ↔ request.Wrappable := by
  cases hdata : res.marshall with
  | none =>
    -- The nil slice is passed on, and it does not decode.
    have hlong : ¬ res.Fits := by
      rw [← WebsocketResponse.marshall_isSome_iff, hdata]
      exact Bool.false_ne_true
    refine iff_of_false ?_ ?_
    · rintro ⟨⟨decoded, hdecoded, -⟩, -⟩
      rw [bytesOf, hdata, Option.getD_none, unmarshall_nil] at hdecoded
      cases hdecoded
    · rintro ⟨hlength, hheartbeat, hackType⟩
      apply hlong
      refine ⟨?_, hid, ?_, hack, ?_⟩
      · rw [hmsgType, wireHead_of_not_sentinel hheartbeat hackType]
        exact hlength
      · rw [hresponse]
        exact Nat.zero_le _
      · rw [herror]
        exact Nat.zero_le _
  | some data =>
    have hfits : res.Fits := by
      rw [← WebsocketResponse.marshall_isSome_iff, hdata]
      rfl
    have hcontrol := WebsocketResponse.marshall_control_iff hdata
    rw [bytesOf, hdata, Option.getD_some]
    constructor
    · rintro ⟨-, hordinary⟩
      rw [hcontrol, hmsgType] at hordinary
      have hheartbeat : request.msgType ≠ messageTypeHeartbeat :=
        fun h => hordinary (.inr (.inl h))
      have hackType : request.msgType ≠ messageTypeAck :=
        fun h => hordinary (.inr (.inr h))
      have hlength := hfits.1
      rw [hmsgType, wireHead_of_not_sentinel hheartbeat hackType] at hlength
      exact ⟨hlength, hheartbeat, hackType⟩
    · rintro ⟨-, hheartbeat, hackType⟩
      constructor
      · refine ⟨_, WebsocketResponse.unmarshall_marshall hdata, hmsgType, ?_⟩
        rw [← hbinary]
        rfl
      · rw [hcontrol, hmsgType]
        rintro (h | h | h)
        · exact hnonempty h
        · exact hheartbeat h
        · exact hackType h

theorem faithful_wrapper_iff (hnonempty : request.msgType ≠ [])
    (id : UUIDString) :
    Faithful request (wrapperBytesToWebsocketResponse id.1 [] request.msgType
      request.payload) ↔ request.Wrappable := by
  have hid : id.1.length ≤ 255 := by
    rw [id.2]
    decide
  exact faithful_bytesOf_iff rfl rfl hid (Nat.zero_le _) rfl rfl hnonempty

theorem faithful_pushFrame_iff (hnonempty : request.msgType ≠ [])
    (id : UUIDString) (nanoID : NanoID) (message : Message) :
    Faithful request (pushFrame request id nanoID message) ↔
      request.Wrappable := by
  have hid : id.1.length ≤ 255 := by
    rw [id.2]
    decide
  have hack : (ackIDOf nanoID).length ≤ 255 := by
    have hlength := nanoID.2
    rw [ackIDOf, List.length_append]
    simp only [List.length_cons, List.length_nil]
    omega
  unfold pushFrame
  split
  case h_1 | h_2 =>
    exact faithful_bytesOf_iff rfl rfl hid hack rfl rfl hnonempty
  all_goals exact faithful_wrapper_iff hnonempty id

end Frame

/-! ### The handlers pass their frame on -/

section Handlers

variable (fleet : Fleet) (node : ContainerID) (frame : Bytes)

/-- Every effect of a list carries the frame. -/
def Carries (effects : List Effect) (frame : Bytes) : Prop :=
  ∀ effect ∈ effects, pushed effect = frame

theorem carries_nil (frame : Bytes) : Carries [] frame :=
  fun _ heffect => absurd heffect List.not_mem_nil

theorem carries_singleton {effect : Effect} {frame : Bytes}
    (heffect : pushed effect = frame) : Carries [effect] frame :=
  List.forall_mem_singleton.mpr heffect

theorem carries_append {effects later : List Effect} {frame : Bytes}
    (hfirst : Carries effects frame) (hlater : Carries later frame) :
    Carries (effects ++ later) frame := by
  intro effect heffect
  rcases List.mem_append.mp heffect with h | h
  · exact hfirst effect h
  · exact hlater effect h

theorem carries_flatMap {α : Type} {items : List α} {act : α → List Effect}
    {frame : Bytes} (hact : ∀ item ∈ items, Carries (act item) frame) :
    Carries (items.flatMap act) frame := by
  intro effect heffect
  obtain ⟨item, hitem, hin⟩ := List.mem_flatMap.mp heffect
  exact hact item hitem effect hin

theorem carries_map {α : Type} {items : List α} {act : α → Effect}
    {frame : Bytes} (hact : ∀ item ∈ items, pushed (act item) = frame) :
    Carries (items.map act) frame := by
  intro effect heffect
  obtain ⟨item, hitem, rfl⟩ := List.mem_map.mp heffect
  exact hact item hitem

theorem carries_saveChain (auth : WebsocketAuth) (retryNumber : Nat)
    (now : Int) : Carries (SendOrSave.saveChain fleet.env auth frame
      retryNumber now) frame := by
  fun_induction SendOrSave.saveChain fleet.env auth frame retryNumber now with
  | case1 => exact carries_nil frame
  | case2 => exact carries_singleton rfl
  | case3 retryNumber now delay hdecision ih => exact ih

theorem carries_handOver (auth : WebsocketAuth) (conn : ConnID) :
    Carries (fleet.handOver auth frame conn) frame := by
  rw [Fleet.handOver, SendOrSave.sendOrSaveMessageHub]
  split
  · exact carries_singleton rfl
  · rw [← List.singleton_append]
    apply carries_append
    · exact carries_singleton rfl
    · exact carries_saveChain fleet frame auth 0 _

theorem handOver_ne_nil (auth : WebsocketAuth) (conn : ConnID) :
    fleet.handOver auth frame conn ≠ [] := by
  rw [Fleet.handOver, SendOrSave.sendOrSaveMessageHub]
  split
  · exact List.cons_ne_nil _ _
  · exact List.cons_ne_nil _ _

theorem flatMap_handOver_ne_nil_iff {α : Type} (items : List α)
    (auth : α → WebsocketAuth) (conn : α → ConnID) :
    (items.flatMap fun item =>
      fleet.handOver (auth item) frame (conn item)) ≠ [] ↔ items ≠ [] := by
  rw [not_iff_not, List.flatMap_eq_nil_iff]
  constructor
  · intro hnone
    rw [List.eq_nil_iff_forall_not_mem]
    intro item hitem
    exact handOver_ne_nil fleet frame _ _ (hnone item hitem)
  · intro hnil item hitem
    rw [hnil] at hitem
    exact absurd hitem List.not_mem_nil

theorem carries_userConns (userID : Bytes) :
    Carries (((fleet.nodes node).connections.getAllUserConn userID).flatMap
      fun entry => fleet.handOver ⟨userID, entry.1⟩ frame entry.2) frame :=
  carries_flatMap fun entry _ => carries_handOver fleet frame _ entry.2

theorem userConns_ne_nil_iff (userID : Bytes) :
    (((fleet.nodes node).connections.getAllUserConn userID).flatMap
      fun entry => fleet.handOver ⟨userID, entry.1⟩ frame entry.2) ≠ [] ↔
      fleet.HasConn userID node := by
  rw [← Fleet.getAllUserConn_ne_nil]
  exact flatMap_handOver_ne_nil_iff fleet frame _
    (fun entry : Bytes × ConnID => ⟨userID, entry.1⟩) (·.2)

theorem carries_handle_session (userID instanceID : Bytes) :
    Carries (fleet.handle node (.sendToSession userID instanceID frame))
      frame := by
  rw [Fleet.handle]
  split
  · exact carries_nil frame
  · split
    · exact carries_handOver fleet frame _ _
    · split
      · exact carries_singleton rfl
      · exact carries_nil frame

theorem carries_handleMsg (message : Targeted) :
    Carries (handleMsg fleet node frame message).effects frame := by
  cases message with
  | sendToSession userID instanceID =>
    rw [handleMsg]
    split
    · exact carries_nil frame
    · exact carries_handle_session fleet node frame userID instanceID
  | sendToSessionWithAck userID instanceID =>
    rw [handleMsg]
    split
    · exact carries_nil frame
    · split
      · exact carries_nil frame
      · exact carries_handOver fleet frame _ _
  | sendToUser userID =>
    simp only [handleMsg, Fleet.handle]
    split
    · exact carries_nil frame
    · apply carries_append
      · exact carries_userConns fleet node frame userID
      · exact carries_map fun instanceID _ => rfl
  | sendToUserWithAck userID => exact carries_userConns fleet node frame userID
  | sendToUsers userIDs =>
    exact carries_flatMap fun userID _ =>
      carries_userConns fleet node frame userID

theorem carries_sendToInstances (instanceIDs : List Bytes) :
    Carries (sendToInstances fleet node frame instanceIDs).effects frame := by
  induction instanceIDs with
  | nil => exact carries_nil frame
  | cons instanceID rest ih =>
    rw [sendToInstances]
    split
    · exact carries_nil frame
    · apply carries_append
      · exact carries_map fun conn _ => rfl
      · exact ih

theorem carries_handleBroadcastMsg (message : Broadcast) :
    Carries (handleBroadcastMsg fleet node frame message).effects frame := by
  cases message with
  | sendToAnonymous isSendAll instanceIDs =>
    cases isSendAll with
    | true => exact carries_map fun entry _ => rfl
    | false => exact carries_sendToInstances fleet node frame instanceIDs
  | sendToAuthenticated =>
    exact carries_flatMap fun entry _ =>
      carries_handOver fleet frame entry.1 entry.2
  | sendToAll => exact carries_map fun entry _ => rfl

theorem carries_handler (message : Message) :
    Carries (handler fleet node frame message) frame := by
  cases message with
  | targeted message => exact carries_handleMsg fleet node frame message
  | broadcast message =>
    exact carries_handleBroadcastMsg fleet node frame message

/-! ### Who is pushed to -/

theorem handleMsg_ne_nil_iff {message : Targeted}
    (hidentified : (Message.targeted message).Identified) :
    (handleMsg fleet node frame message).effects ≠ [] ↔
      HasReceiver fleet node (.targeted message) := by
  cases message with
  | sendToSession userID instanceID =>
    have hauth := userWebsocketAuth_eq_some hidentified.1 hidentified.2
    simp only [handleMsg, Fleet.handle, hauth, HasReceiver]
    cases (fleet.nodes node).connections.getConnection
        ⟨userID, instanceID⟩ with
    | none => simp
    | some conn => simp [handOver_ne_nil]
  | sendToSessionWithAck userID instanceID =>
    have hauth := userWebsocketAuth_eq_some hidentified.1 hidentified.2
    simp only [handleMsg, hauth, HasReceiver]
    cases (fleet.nodes node).connections.getConnection
        ⟨userID, instanceID⟩ with
    | none => simp
    | some conn => simp [handOver_ne_nil]
  | sendToUser userID =>
    have hsessions : (fleet.nodes node).hub.getSessions userID ≠ [] ↔
        ∃ instanceID,
          (fleet.nodes node).hub.isRegistered userID instanceID = true := by
      simp only [← Hub.mem_getSessions]
      constructor
      · exact List.exists_mem_of_ne_nil _
      · rintro ⟨instanceID, hmem⟩
        exact List.ne_nil_of_mem hmem
    rw [HasReceiver, ← hsessions, ← Fleet.getAllUserConn_ne_nil]
    simp only [handleMsg, Fleet.handle]
    split
    · next hnone => simp [hnone]
    · next hsome =>
      rw [ne_eq, List.append_eq_nil_iff, List.map_eq_nil_iff, not_and_or,
        ← ne_eq, userConns_ne_nil_iff, ← Fleet.getAllUserConn_ne_nil]
  | sendToUserWithAck userID =>
    exact userConns_ne_nil_iff fleet node frame userID
  | sendToUsers userIDs =>
    simp only [handleMsg, Fleet.handle, HasReceiver, ne_eq,
      List.flatMap_eq_nil_iff, not_forall, exists_prop]
    simp only [← userConns_ne_nil_iff fleet node frame, ne_eq,
      List.flatMap_eq_nil_iff, not_forall, exists_prop]

theorem sendToInstances_ne_nil_iff (instanceIDs : List Bytes) :
    (sendToInstances fleet node frame instanceIDs).effects ≠ [] ↔
      ∃ instanceID ∈ instanceIDs.takeWhile (· ≠ []),
        ((fleet.nodes node).connections.getConnection
          ⟨[], instanceID⟩).isSome = true := by
  induction instanceIDs with
  | nil => simp [sendToInstances]
  | cons instanceID rest ih =>
    by_cases hempty : instanceID = []
    · simp [sendToInstances, anonymousUserWebsocketAuth, hempty]
    · -- The loop goes on past an instance that is not empty.
      rw [List.takeWhile_cons_of_pos (by simpa using hempty)]
      simp only [sendToInstances, anonymousUserWebsocketAuth, hempty,
        ↓reduceIte, List.mem_cons, exists_eq_or_imp, ← ih]
      cases (fleet.nodes node).connections.getConnection
          ⟨[], instanceID⟩ with
      | none => simp
      | some conn => simp

theorem handleBroadcastMsg_ne_nil_iff (message : Broadcast) :
    (handleBroadcastMsg fleet node frame message).effects ≠ [] ↔
      HasReceiver fleet node (.broadcast message) := by
  cases message with
  | sendToAnonymous isSendAll instanceIDs =>
    cases isSendAll with
    | true => simp [handleBroadcastMsg, HasReceiver]
    | false => exact sendToInstances_ne_nil_iff fleet node frame instanceIDs
  | sendToAuthenticated =>
    exact flatMap_handOver_ne_nil_iff fleet frame _ Prod.fst Prod.snd
  | sendToAll =>
    simp only [handleBroadcastMsg, HasReceiver, ne_eq, List.map_eq_nil_iff,
      List.append_eq_nil_iff, not_and_or]

end Handlers

/-! ### Every push of a send -/

section Pushes

variable {request : Request} {message : Message}

theorem msgType_ne_nil_of_validate (hvalid : request.validate = .ok message) :
    request.msgType ≠ [] := by
  intro hempty
  cases request with
  | session | user | users | broadcast =>
    rw [Request.msgType] at hempty
    simp [Request.validate, hempty] at hvalid

theorem pushes_ne_nil_iff (hvalid : request.validate = .ok message)
    (id : UUIDString) (nanoID : NanoID) (site : Site) :
    site.pushes request id nanoID message ≠ [] ↔ site.HasReceiver message := by
  cases site with
  | handler fleet node =>
    cases message with
    | targeted message =>
      apply handleMsg_ne_nil_iff
      rw [identified_iff_namesInstances hvalid]
      exact namesInstances_of_targeted hvalid
    | broadcast message =>
      exact handleBroadcastMsg_ne_nil_iff fleet node _ message
  | transferring =>
    cases message with
    | targeted message =>
      cases message <;> simp [Site.pushes, Site.HasReceiver,
        transferringAction, Message.ForSession]
    | broadcast message =>
      simp [Site.pushes, Site.HasReceiver, transferringAction,
        Message.ForSession]

theorem faithful_pushed_iff (hvalid : request.validate = .ok message)
    (id : UUIDString) (nanoID : NanoID) (site : Site) {effect : Effect}
    (heffect : effect ∈ site.pushes request id nanoID message) :
    Faithful request (pushed effect) ↔ request.Wrappable := by
  have hnonempty := msgType_ne_nil_of_validate hvalid
  cases site with
  | handler fleet node =>
    rw [carries_handler fleet node _ message effect heffect]
    exact faithful_pushFrame_iff hnonempty id nanoID message
  | transferring =>
    have hcarries : Carries (transferringAction request id message)
        (wrapperBytesToWebsocketResponse id.1 [] request.msgType
          request.payload) := by
      unfold transferringAction
      split
      · exact carries_singleton rfl
      · exact carries_singleton rfl
      · exact carries_nil _
    rw [hcarries effect heffect]
    exact faithful_wrapper_iff hnonempty id

/-- What a handler pushes is the caller's message exactly when nobody is
pushed to or the message type fits its length byte and is no sentinel. -/
theorem pushes_faithful_iff_wrappable
    (hvalid : request.validate = .ok message) (id : UUIDString)
    (nanoID : NanoID) (site : Site) :
    (∀ effect ∈ site.pushes request id nanoID message,
      Faithful request (pushed effect)) ↔
      (site.HasReceiver message → request.Wrappable) := by
  constructor
  · intro hfaithful hreceiver
    have hpushes := (pushes_ne_nil_iff hvalid id nanoID site).mpr hreceiver
    obtain ⟨effect, heffect⟩ := List.exists_mem_of_ne_nil _ hpushes
    rw [← faithful_pushed_iff hvalid id nanoID site heffect]
    exact hfaithful effect heffect
  · intro hwrappable effect heffect
    rw [faithful_pushed_iff hvalid id nanoID site heffect]
    apply hwrappable
    rw [← pushes_ne_nil_iff hvalid id nanoID site]
    exact List.ne_nil_of_mem heffect

end Pushes

/-- Container 0 has one connection of a user. -/
def onlineFleet : Fleet where
  env := idleFleet.env
  now := 0
  nodes := fun _ => { hub := { ttl := 90 }, connections :=
    ConnectionMap.addConnection {} ⟨[0x75], [0x69]⟩ 1 }

def userSend (msgType : Bytes) : Request :=
  .user [0x75] msgType (some [1]) 0

def someUUID : UUIDString := ⟨List.replicate 36 0x30, rfl⟩

def someNanoID : NanoID := ⟨List.replicate 18 0x30, by decide⟩

/-- What the one connection of the user is sent. -/
def sentFor (msgType : Bytes) : List Effect :=
  Site.pushes (userSend msgType) someUUID someNanoID
    (.targeted (.sendToUser [0x75])) (.handler onlineFleet 0)

theorem pushes_faithful_userSend :
    (userSend [0x6D]).validate = .ok (.targeted (.sendToUser [0x75])) ∧
    (sentFor [0x6D]).length = 1 ∧
    ∀ effect ∈ sentFor [0x6D], Faithful (userSend [0x6D]) (pushed effect) :=
  ⟨rfl, by decide +kernel,
    (pushes_faithful_iff_wrappable rfl someUUID someNanoID
      (.handler onlineFleet 0)).mpr fun _ => by decide⟩

/-- A message type of 256 bytes leaves an empty byte string to be sent, and
the sentinel of the heartbeat a control frame. -/
theorem pushes_unfaithful :
    (userSend (List.replicate 256 0x6D)).validate =
      .ok (.targeted (.sendToUser [0x75])) ∧
    sentFor (List.replicate 256 0x6D) =
      [.send ⟨[0x75], [0x69]⟩ [] true] ∧
    (userSend messageTypeHeartbeat).validate =
      .ok (.targeted (.sendToUser [0x75])) ∧
    sentFor messageTypeHeartbeat ≠ [] ∧
    ∀ effect ∈ sentFor messageTypeHeartbeat,
      IsControlFrame (pushed effect) Wire.controlHeartbeat :=
  ⟨rfl, by decide +kernel, rfl, by decide +kernel, by decide +kernel⟩

end AdminSend

end Pipewave
