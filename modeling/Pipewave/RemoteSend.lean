/-
The two ways a send reaches a broadcast handler.  In the container that serves
the request the handler is called with the parameters; for another container
they are packed, published and unpacked, and the packing refuses a nil payload
by a panic.
-/
import Pipewave.PushFrames
import Pipewave.RoutingEffects

namespace Pipewave

namespace RemoteSend

open AdminSend
open Routing (Fleet)

/-! ### Parameters and messages -/

structure SendToUserParams where
  userId : Bytes
  msgType : Bytes
  payload : Option Bytes
deriving Repr, DecidableEq

structure SendToSessionParams where
  userId : Bytes
  instanceId : Bytes
  msgType : Bytes
  payload : Option Bytes
deriving Repr, DecidableEq

structure SendToUsersParams where
  userIds : List Bytes
  msgType : Bytes
  payload : Option Bytes
deriving Repr, DecidableEq

structure SendToAnonymousParams where
  isSendAll : Bool
  instanceIds : List Bytes
  msgType : Bytes
  payload : Option Bytes
deriving Repr, DecidableEq

structure SendToAuthenticatedParams where
  msgType : Bytes
  payload : Option Bytes
deriving Repr, DecidableEq

structure SendToAllParams where
  msgType : Bytes
  payload : Option Bytes
deriving Repr, DecidableEq

structure SendToSessionWithAckParams where
  userId : Bytes
  instanceId : Bytes
  msgType : Bytes
  payload : Option Bytes
  ackID : Bytes
  sourceContainerID : ContainerID
deriving Repr, DecidableEq

structure SendToUserWithAckParams where
  userId : Bytes
  msgType : Bytes
  payload : Option Bytes
  ackID : Bytes
  sourceContainerID : ContainerID
deriving Repr, DecidableEq

/-- The message types of the sends. -/
inductive MsgT where
  | sendToUser
  | sendToSession
  | sendToUsers
  | sendToSessionWithAck
  | sendToUserWithAck
  | sendToAnonymous
  | sendToAuthenticated
  | sendToAll
deriving Repr, DecidableEq

/-- The types that go to all containers. -/
def MsgT.toAll : MsgT → Bool
  | .sendToAnonymous | .sendToAuthenticated | .sendToAll => true
  | _ => false

@[reducible] def MsgT.Params : MsgT → Type
  | .sendToUser => SendToUserParams
  | .sendToSession => SendToSessionParams
  | .sendToUsers => SendToUsersParams
  | .sendToSessionWithAck => SendToSessionWithAckParams
  | .sendToUserWithAck => SendToUserWithAckParams
  | .sendToAnonymous => SendToAnonymousParams
  | .sendToAuthenticated => SendToAuthenticatedParams
  | .sendToAll => SendToAllParams

def MsgT.payload : (t : MsgT) → t.Params → Option Bytes
  | .sendToUser, p => p.payload
  | .sendToSession, p => p.payload
  | .sendToUsers, p => p.payload
  | .sendToSessionWithAck, p => p.payload
  | .sendToUserWithAck, p => p.payload
  | .sendToAnonymous, p => p.payload
  | .sendToAuthenticated, p => p.payload
  | .sendToAll, p => p.payload

/-- A handler and the parameters it is called with. -/
abbrev HandlerCall := (t : MsgT) × t.Params

/-- The codec of the parameters. -/
structure Msgpack (Packed : Type) where
  marshal : (t : MsgT) → t.Params → Packed
  unmarshal : (t : MsgT) → Packed → Option t.Params
  unmarshal_marshal : ∀ t p, unmarshal t (marshal t p) = some p

section Pubsub

variable {Packed : Type} (codec : Msgpack Packed)

/-- The check all sends make before they pack their parameters. -/
def checkedMarshal (name : String) (payload : Option Bytes)
    (packed : Packed) : Except String Packed :=
  if payload = none then .error (name ++ ".Marshal: invalid input")
  else .ok packed

def SendToUserParams.marshal (p : SendToUserParams) : Except String Packed :=
  checkedMarshal "SendToUserParams" p.payload (codec.marshal .sendToUser p)

def SendToSessionParams.marshal (p : SendToSessionParams) :
    Except String Packed :=
  checkedMarshal "SendToSessionParams" p.payload
    (codec.marshal .sendToSession p)

def SendToUsersParams.marshal (p : SendToUsersParams) :
    Except String Packed :=
  checkedMarshal "SendToUsersParams" p.payload (codec.marshal .sendToUsers p)

def SendToSessionWithAckParams.marshal (p : SendToSessionWithAckParams) :
    Except String Packed :=
  checkedMarshal "SendToSessionWithAckParams" p.payload
    (codec.marshal .sendToSessionWithAck p)

def SendToUserWithAckParams.marshal (p : SendToUserWithAckParams) :
    Except String Packed :=
  checkedMarshal "SendToUserWithAckParams" p.payload
    (codec.marshal .sendToUserWithAck p)

def SendToAnonymousParams.marshal (p : SendToAnonymousParams) :
    Except String Packed :=
  checkedMarshal "SendToAnonymousParams" p.payload
    (codec.marshal .sendToAnonymous p)

def SendToAuthenticatedParams.marshal (p : SendToAuthenticatedParams) :
    Except String Packed :=
  checkedMarshal "SendToAuthenticatedParams" p.payload
    (codec.marshal .sendToAuthenticated p)

def SendToAllParams.marshal (p : SendToAllParams) : Except String Packed :=
  checkedMarshal "SendToAllParams" p.payload (codec.marshal .sendToAll p)

def MsgT.marshal : (t : MsgT) → t.Params → Except String Packed
  | .sendToUser, p => SendToUserParams.marshal codec p
  | .sendToSession, p => SendToSessionParams.marshal codec p
  | .sendToUsers, p => SendToUsersParams.marshal codec p
  | .sendToSessionWithAck, p => SendToSessionWithAckParams.marshal codec p
  | .sendToUserWithAck, p => SendToUserWithAckParams.marshal codec p
  | .sendToAnonymous, p => SendToAnonymousParams.marshal codec p
  | .sendToAuthenticated, p => SendToAuthenticatedParams.marshal codec p
  | .sendToAll, p => SendToAllParams.marshal codec p

structure PubsubMessage (Packed : Type) where
  targetContainers : List ContainerID
  sendAllContainers : Bool
  msgType : MsgT
  payload : Packed

/-- The creator of a message; `none` is the panic of `lo.Must`. -/
def create (containerIDs : List ContainerID) (call : HandlerCall) :
    Option (PubsubMessage Packed) :=
  match call.1.marshal codec call.2 with
  | .error _ => none
  | .ok packed => some
      { targetContainers := containerIDs
        sendAllContainers := call.1.toAll
        msgType := call.1
        payload := packed }

/-- The switch of a subscription over the message types of its channel. -/
def dispatch (toAll : Bool) (message : PubsubMessage Packed) :
    List HandlerCall :=
  if message.msgType.toAll = toAll then
    match codec.unmarshal message.msgType message.payload with
    | none => []
    | some params => [⟨message.msgType, params⟩]
  else []

def handleMsg (message : PubsubMessage Packed) : List HandlerCall :=
  dispatch codec false message

def handleBroadcastMsg (message : PubsubMessage Packed) : List HandlerCall :=
  dispatch codec true message

/-- `Publish`, as the handlers that run for it in a container. -/
def publish (message : PubsubMessage Packed) (node : ContainerID) :
    List HandlerCall :=
  if message.sendAllContainers then handleBroadcastMsg codec message
  else (message.targetContainers.filter (· = node)).flatMap fun _ =>
    handleMsg codec message

/-- Every creator panics exactly when the payload is nil. -/
theorem MsgT.marshal_eq (t : MsgT) (p : t.Params) :
    ∃ name, t.marshal codec p =
      checkedMarshal name (t.payload p) (codec.marshal t p) := by
  cases t <;> exact ⟨_, rfl⟩

theorem create_eq_none_iff (containerIDs : List ContainerID)
    (call : HandlerCall) :
    create codec containerIDs call = none ↔
      call.1.payload call.2 = none := by
  obtain ⟨name, hmarshal⟩ := MsgT.marshal_eq codec call.1 call.2
  rw [create, hmarshal, checkedMarshal]
  by_cases hpayload : call.1.payload call.2 = none
  · rw [if_pos hpayload]
    exact iff_of_true rfl hpayload
  · rw [if_neg hpayload]
    exact iff_of_false (Option.some_ne_none _) hpayload

variable {call : HandlerCall} {containerIDs : List ContainerID}

theorem create_eq_some (containerIDs : List ContainerID)
    (hpayload : call.1.payload call.2 ≠ none) :
    create codec containerIDs call = some
      { targetContainers := containerIDs
        sendAllContainers := call.1.toAll
        msgType := call.1
        payload := codec.marshal call.1 call.2 } := by
  obtain ⟨name, hmarshal⟩ := MsgT.marshal_eq codec call.1 call.2
  rw [create, hmarshal, checkedMarshal, if_neg hpayload]

/-- What is published arrives as the call it was made from. -/
theorem dispatch_of_create {message : PubsubMessage Packed}
    (hcreate : create codec containerIDs call = some message) :
    message.targetContainers = containerIDs ∧
      message.sendAllContainers = call.1.toAll ∧
      dispatch codec call.1.toAll message = [call] := by
  have hpayload : call.1.payload call.2 ≠ none := by
    rw [ne_eq, ← create_eq_none_iff codec containerIDs, hcreate]
    exact Option.some_ne_none _
  rw [create_eq_some codec containerIDs hpayload] at hcreate
  cases hcreate
  refine ⟨rfl, rfl, ?_⟩
  rw [dispatch, if_pos rfl]
  simp only [codec.unmarshal_marshal]

theorem publish_broadcast {message : PubsubMessage Packed}
    (hcreate : create codec [] call = some message)
    (htoAll : call.1.toAll = true) (node : ContainerID) :
    publish codec message node = [call] := by
  obtain ⟨-, hall, hdispatch⟩ := dispatch_of_create codec hcreate
  rw [htoAll] at hall hdispatch
  rw [publish, if_pos hall]
  exact hdispatch

theorem mem_publish_targeted {run : HandlerCall}
    {message : PubsubMessage Packed}
    (hcreate : create codec containerIDs call = some message)
    (htargeted : call.1.toAll = false) (node : ContainerID) :
    run ∈ publish codec message node ↔ node ∈ containerIDs ∧ run = call := by
  obtain ⟨htargets, hall, hdispatch⟩ := dispatch_of_create codec hcreate
  rw [htargeted] at hall hdispatch
  rw [publish, hall, if_neg Bool.false_ne_true, htargets, List.mem_flatMap]
  simp only [handleMsg, hdispatch, List.mem_singleton, List.mem_filter,
    decide_eq_true_eq]
  constructor
  · rintro ⟨target, ⟨htarget, rfl⟩, hrun⟩
    exact ⟨htarget, hrun⟩
  · rintro ⟨hnode, hrun⟩
    exact ⟨node, ⟨hnode, rfl⟩, hrun⟩

end Pubsub

/-! ### Serving a send -/

/-- The handler of a message and the parameters the service builds for it. -/
def callOf (localID : ContainerID) (ackID : Bytes) (request : Request) :
    Message → HandlerCall
  | .targeted (.sendToSession userID instanceID) => ⟨.sendToSession,
      { userId := userID, instanceId := instanceID
        msgType := request.msgType, payload := request.payload }⟩
  | .targeted (.sendToSessionWithAck userID instanceID) =>
    ⟨.sendToSessionWithAck,
      { userId := userID, instanceId := instanceID
        msgType := request.msgType, payload := request.payload
        ackID, sourceContainerID := localID }⟩
  | .targeted (.sendToUser userID) => ⟨.sendToUser,
      { userId := userID
        msgType := request.msgType, payload := request.payload }⟩
  | .targeted (.sendToUserWithAck userID) => ⟨.sendToUserWithAck,
      { userId := userID
        msgType := request.msgType, payload := request.payload
        ackID, sourceContainerID := localID }⟩
  | .targeted (.sendToUsers userIDs) => ⟨.sendToUsers,
      { userIds := userIDs
        msgType := request.msgType, payload := request.payload }⟩
  | .broadcast (.sendToAnonymous isSendAll instanceIDs) =>
    ⟨.sendToAnonymous,
      { isSendAll, instanceIds := instanceIDs
        msgType := request.msgType, payload := request.payload }⟩
  | .broadcast .sendToAuthenticated => ⟨.sendToAuthenticated,
      { msgType := request.msgType, payload := request.payload }⟩
  | .broadcast .sendToAll => ⟨.sendToAll,
      { msgType := request.msgType, payload := request.payload }⟩

/-- `shouldHandleLocally` of `findUserConn`. -/
def shouldHandleLocally (fleet : Fleet) (localID : ContainerID)
    (userID : Bytes) : Bool :=
  let connections :=
    (fleet.nodes localID).connections.getAllUserConn userID
  (Routing.scanUser localID ((fleet.env.store fleet.now).getActiveConnections
    userID fleet.env.cutoff fleet.now) (connections ≠ []) []).1

/-- Whether the local action calls the handler; `none` is the panic of
`UserWebsocketAuth`. -/
def runsLocally (fleet : Fleet) (localID : ContainerID) :
    Targeted → Option Bool
  | .sendToSession userID instanceID
  | .sendToSessionWithAck userID instanceID =>
    (userWebsocketAuth userID instanceID).map fun auth =>
      ((fleet.nodes localID).connections.getConnection auth).isSome
  | .sendToUser userID => some (shouldHandleLocally fleet localID userID)
  | .sendToUserWithAck userID =>
    some (shouldHandleLocally fleet localID userID &&
      (fleet.nodes localID).connections.getAllUserConn userID ≠ [])
  | .sendToUsers userIDs => some (userIDs.any fun userID =>
    (fleet.nodes localID).connections.getAllUserConn userID ≠ [])

section Serve

variable {Packed : Type} (codec : Msgpack Packed) (ackID : Bytes)
  (send : Send)

/-- The handlers that run in each container for a send; `none` is a panic. -/
def serve (message : Message) : Option (ContainerID → List HandlerCall) :=
  let call := callOf send.localID ackID send.request message
  match message with
  | .broadcast _ => (create codec [] call).map fun published node =>
    publish codec published node
  | .targeted target =>
    match runsLocally send.fleet send.localID target with
    | none => none
    | some locally =>
      -- The handler has run here when the creator panics.
      let localRuns := fun node =>
        if locally = true ∧ node = send.localID then [call] else []
      let holders := targets send.fleet send.localID target
      if holders = [] then some localRuns
      else (create codec holders call).map fun published node =>
        localRuns node ++ publish codec published node

/-- The session is one a message is for. -/
def IsFor (auth : WebsocketAuth) : Message → Prop
  | .targeted (.sendToSession userID instanceID)
  | .targeted (.sendToSessionWithAck userID instanceID) =>
    auth = ⟨userID, instanceID⟩
  | .targeted (.sendToUser userID) | .targeted (.sendToUserWithAck userID) =>
    auth.userID = userID
  | .targeted (.sendToUsers userIDs) => auth.userID ∈ userIDs
  | .broadcast (.sendToAnonymous isSendAll instanceIDs) =>
    auth.userID = [] ∧ (isSendAll = true ∨ auth.instanceID ∈ instanceIDs)
  | .broadcast .sendToAuthenticated => auth.userID ≠ []
  | .broadcast .sendToAll => True

/-- The session is placed on a container: its row names that container and no
other one has a connection of it. -/
def PlacedOn (fleet : Fleet) (auth : WebsocketAuth) (node : ContainerID) :
    Prop :=
  (∃ row, fleet.visibleRow auth = some row ∧ row.holderID = some node) ∧
    ∀ other, other ≠ node →
      (fleet.nodes other).connections.getConnection auth = none

/-- The send is served without a panic, every handler that runs has the
parameters of a local call, and one runs in each container on which a session
of the message is placed and which has somebody to hand it to. -/
def SameEverywhere (message : Message) : Prop :=
  let call := callOf send.localID ackID send.request message
  ∃ runs, serve codec ackID send message = some runs ∧
    (∀ node, ∀ run ∈ runs node, run = call) ∧
    ∀ auth node, IsFor auth message → PlacedOn send.fleet auth node →
      HasReceiver send.fleet node message → call ∈ runs node

/-! ### Who is addressed -/

theorem payload_callOf (localID : ContainerID) (request : Request)
    (message : Message) :
    (callOf localID ackID request message).1.payload
      (callOf localID ackID request message).2 = request.payload := by
  cases message with
  | targeted message => cases message <;> rfl
  | broadcast message => cases message <;> rfl

theorem toAll_callOf_targeted (localID : ContainerID) (request : Request)
    (message : Targeted) :
    (callOf localID ackID request (.targeted message)).1.toAll = false := by
  cases message <;> rfl

theorem toAll_callOf_broadcast (localID : ContainerID) (request : Request)
    (message : Broadcast) :
    (callOf localID ackID request (.broadcast message)).1.toAll = true := by
  cases message <;> rfl

section Addressed

variable {fleet : Fleet} {localID node : ContainerID} {auth : WebsocketAuth}

variable {userID : Bytes}

theorem mem_userHolders :
    node ∈ userHolders fleet localID userID ↔
      node ≠ localID ∧ fleet.HoldsVisible userID node := by
  have hrows := fleet.exists_row_iff_holdsVisible [userID] node
  simp only [List.mem_singleton, exists_eq_left] at hrows
  rw [userHolders, Routing.mem_scanUser_snd,
    ActiveConnTable.getActiveConnections_eq, hrows]
  simp

theorem mem_usersHolders {userIDs : List Bytes} :
    node ∈ usersHolders fleet localID userIDs ↔
      node ≠ localID ∧ ∃ userID ∈ userIDs, fleet.HoldsVisible userID node := by
  rw [usersHolders, Routing.mem_scanUsers (by simp),
    fleet.exists_row_iff_holdsVisible]
  simp

theorem shouldHandleLocally_iff :
    shouldHandleLocally fleet localID userID = true ↔
      fleet.HasConn userID localID ∨ fleet.HoldsVisible userID localID := by
  have hrows := fleet.exists_row_iff_holdsVisible [userID] localID
  simp only [List.mem_singleton, exists_eq_left] at hrows
  simp only [shouldHandleLocally]
  rw [Routing.scanUser_fst, ActiveConnTable.getActiveConnections_eq, hrows,
    decide_eq_true_eq, Fleet.getAllUserConn_ne_nil]

theorem holdsVisible_of_placedOn (hplaced : PlacedOn fleet auth node) :
    fleet.HoldsVisible auth.userID node := by
  obtain ⟨⟨row, hrow, hholder⟩, -⟩ := hplaced
  exact ⟨auth, rfl, row, hrow, hholder⟩

/-- A session with a connection in another container than the one that
serves the request is looked up in the store. -/
theorem session_addressed {instanceID : Bytes} (huser : userID ≠ [])
    (hinstance : instanceID ≠ [])
    (hplaced : PlacedOn fleet ⟨userID, instanceID⟩ node) :
    (((fleet.nodes localID).connections.getConnection
        ⟨userID, instanceID⟩).isSome = true ∧ node = localID) ∨
      node ∈ sessionHolders fleet localID userID instanceID := by
  obtain ⟨⟨row, hrow, hholder⟩, hother⟩ := hplaced
  have hauth := userWebsocketAuth_eq_some huser hinstance
  cases hconn : (fleet.nodes localID).connections.getConnection
      ⟨userID, instanceID⟩ with
  | none =>
    right
    simp [sessionHolders, hauth, hconn, hrow, hholder]
  | some conn =>
    left
    refine ⟨rfl, ?_⟩
    by_contra hne
    rw [hother localID (Ne.symm hne)] at hconn
    cases hconn

/-- The handler runs in a container a session of the message is placed on,
by the local action or by a published message. -/
theorem addressed_of_placedOn {message : Targeted} {locally : Bool}
    (hidentified : (Message.targeted message).Identified)
    (hlocally : runsLocally fleet localID message = some locally)
    (hfor : IsFor auth (.targeted message))
    (hplaced : PlacedOn fleet auth node)
    (hreceiver : HasReceiver fleet node (.targeted message)) :
    (locally = true ∧ node = localID) ∨
      node ∈ targets fleet localID message := by
  have hvisible := holdsVisible_of_placedOn hplaced
  cases message with
  | sendToSession userID instanceID
  | sendToSessionWithAck userID instanceID =>
    rw [IsFor] at hfor
    subst hfor
    obtain ⟨huser, hinstance⟩ := hidentified
    rw [runsLocally, userWebsocketAuth_eq_some huser hinstance,
      Option.map_some, Option.some_inj] at hlocally
    rw [← hlocally]
    exact session_addressed huser hinstance hplaced
  | sendToUser userID =>
    rw [IsFor] at hfor
    rw [hfor] at hvisible
    rw [runsLocally, Option.some_inj] at hlocally
    by_cases hnode : node = localID
    · left
      rw [← hlocally, shouldHandleLocally_iff]
      exact ⟨.inr (hnode ▸ hvisible), hnode⟩
    · right
      exact mem_userHolders.mpr ⟨hnode, hvisible⟩
  | sendToUserWithAck userID =>
    rw [IsFor] at hfor
    rw [hfor] at hvisible
    rw [runsLocally, Option.some_inj] at hlocally
    by_cases hnode : node = localID
    · left
      rw [hnode] at hreceiver
      rw [← hlocally, Bool.and_eq_true, shouldHandleLocally_iff,
        decide_eq_true_eq, Fleet.getAllUserConn_ne_nil]
      exact ⟨⟨.inl hreceiver, hreceiver⟩, hnode⟩
    · right
      exact mem_userHolders.mpr ⟨hnode, hvisible⟩
  | sendToUsers userIDs =>
    rw [runsLocally, Option.some_inj] at hlocally
    -- A waiting session of a listed user does not make the local handler
    -- run, so this case needs a connection.
    by_cases hnode : node = localID
    · left
      obtain ⟨userID, huser, hconn⟩ := hreceiver
      rw [hnode] at hconn
      rw [← hlocally, List.any_eq_true]
      refine ⟨⟨userID, huser, ?_⟩, hnode⟩
      rw [decide_eq_true_eq, Fleet.getAllUserConn_ne_nil]
      exact hconn
    · right
      exact mem_usersHolders.mpr ⟨hnode, auth.userID, hfor, hvisible⟩

theorem runsLocally_isSome {message : Targeted}
    (hidentified : (Message.targeted message).Identified) :
    ∃ locally, runsLocally fleet localID message = some locally := by
  cases message with
  | sendToSession userID instanceID
  | sendToSessionWithAck userID instanceID =>
    rw [runsLocally,
      userWebsocketAuth_eq_some hidentified.1 hidentified.2]
    exact ⟨_, rfl⟩
  | sendToUser | sendToUserWithAck | sendToUsers => exact ⟨_, rfl⟩

end Addressed

/-! ### Local and remote -/

theorem serve_targeted {message : Targeted} {locally : Bool}
    (hlocally : runsLocally send.fleet send.localID message = some locally) :
    serve codec ackID send (.targeted message) =
      if targets send.fleet send.localID message = [] then
        some fun node => if locally = true ∧ node = send.localID then
          [callOf send.localID ackID send.request (.targeted message)] else []
      else (create codec (targets send.fleet send.localID message)
          (callOf send.localID ackID send.request (.targeted message))).map
        fun published node =>
          (if locally = true ∧ node = send.localID then
            [callOf send.localID ackID send.request (.targeted message)]
          else []) ++ publish codec published node := by
  simp only [serve, hlocally]

section Runs

variable {codec ackID send}
variable {runs : ContainerID → List HandlerCall} {run : HandlerCall}
  {node : ContainerID}

theorem mem_runs_broadcast {message : Broadcast}
    (hserve : serve codec ackID send (.broadcast message) = some runs) :
    run ∈ runs node ↔
      run = callOf send.localID ackID send.request (.broadcast message) := by
  simp only [serve, Option.map_eq_some_iff] at hserve
  obtain ⟨published, hcreate, rfl⟩ := hserve
  beta_reduce
  rw [publish_broadcast codec hcreate (toAll_callOf_broadcast ..)]
  exact List.mem_singleton

theorem mem_runs_targeted {message : Targeted} {locally : Bool}
    (hlocally : runsLocally send.fleet send.localID message = some locally)
    (hserve : serve codec ackID send (.targeted message) = some runs) :
    run ∈ runs node ↔
      ((locally = true ∧ node = send.localID) ∨
        node ∈ targets send.fleet send.localID message) ∧
      run = callOf send.localID ackID send.request (.targeted message) := by
  rw [serve_targeted codec ackID send hlocally] at hserve
  split at hserve
  · next hnone =>
    cases hserve
    simp [hnone]
  · rw [Option.map_eq_some_iff] at hserve
    obtain ⟨published, hcreate, rfl⟩ := hserve
    rw [List.mem_append, mem_publish_targeted codec hcreate
      (toAll_callOf_targeted ..), or_and_right]
    simp

theorem identified_of_targeted {message : Targeted}
    (hvalid : send.request.validate = .ok (.targeted message)) :
    (Message.targeted message).Identified :=
  (identified_iff_namesInstances hvalid).mpr
    (namesInstances_of_targeted hvalid)

/-- A send panics exactly when it has to publish a nil payload. -/
theorem serve_isSome_iff {message : Message}
    (hvalid : send.request.validate = .ok message) :
    (∃ runs, serve codec ackID send message = some runs) ↔
      (send.publishes message = true →
        send.request.payload.isSome = true) := by
  have hcreate : ∀ containerIDs, (∃ published, create codec containerIDs
      (callOf send.localID ackID send.request message) = some published) ↔
      send.request.payload.isSome = true := by
    intro containerIDs
    rw [← Option.isSome_iff_exists, Option.isSome_iff_ne_none,
      Option.isSome_iff_ne_none, ne_eq, create_eq_none_iff, payload_callOf]
  cases message with
  | broadcast message =>
    simp only [serve, Send.publishes, Option.map_eq_some_iff]
    rw [← hcreate [], forall_const]
    grind
  | targeted message =>
    obtain ⟨locally, hlocally⟩ :=
      runsLocally_isSome (identified_of_targeted hvalid)
    rw [serve_targeted codec ackID send hlocally]
    simp only [Send.publishes, Bool.not_eq_true', List.isEmpty_eq_false_iff]
    split
    · next hnone => exact iff_of_true ⟨_, rfl⟩ fun h => absurd hnone h
    · next hsome =>
      simp only [Option.map_eq_some_iff]
      rw [← hcreate (targets send.fleet send.localID message)]
      grind

/-- A send behaves the same for a local and for a remote session exactly when
its payload is not nil or nothing has to be published. -/
theorem sameEverywhere_iff_payload {message : Message}
    (hvalid : send.request.validate = .ok message) :
    SameEverywhere codec ackID send message ↔
      (send.publishes message = true →
        send.request.payload.isSome = true) := by
  rw [← serve_isSome_iff hvalid]
  constructor
  · rintro ⟨runs, hserve, -⟩
    exact ⟨runs, hserve⟩
  · rintro ⟨runs, hserve⟩
    cases message with
    | broadcast message =>
      refine ⟨runs, hserve, ?_, ?_⟩
      · intro node run hrun
        exact (mem_runs_broadcast hserve).mp hrun
      · intro auth node _ _ _
        exact (mem_runs_broadcast hserve).mpr rfl
    | targeted message =>
      have hidentified := identified_of_targeted hvalid
      obtain ⟨locally, hlocally⟩ := runsLocally_isSome hidentified
      refine ⟨runs, hserve, ?_, ?_⟩
      · intro node run hrun
        exact ((mem_runs_targeted hlocally hserve).mp hrun).2
      · intro auth node hfor hplaced hreceiver
        rw [mem_runs_targeted hlocally hserve]
        exact ⟨addressed_of_placedOn hidentified hlocally hfor hplaced
          hreceiver, rfl⟩

end Runs

end Serve

/-- The call itself stands for its packed form. -/
def plainCodec : Msgpack HandlerCall where
  marshal t p := ⟨t, p⟩
  unmarshal t call := if h : call.1 = t then some (h ▸ call.2) else none
  unmarshal_marshal t p := by simp

/-- A send to a session that is connected in container 1. -/
def sessionSend (localID : ContainerID) (payload : Option Bytes) : Send where
  fleet := Routing.connectedFleet
  localID := localID
  request := .session [1] [2] [0x6D] payload 0
  handledIn := fun _ => Routing.connectedFleet

theorem placedOn_connectedFleet :
    PlacedOn Routing.connectedFleet Cluster.alice 1 := by
  refine ⟨⟨⟨some 1, .connected, 0⟩, by decide +kernel, rfl⟩, ?_⟩
  intro other hother
  simp only [Routing.connectedFleet, Routing.oneSession, if_neg hother]
  rfl

theorem sameEverywhere_with_payload :
    (sessionSend 0 (some [7])).request.validate =
      .ok (.targeted (.sendToSession [1] [2])) ∧
    PlacedOn Routing.connectedFleet Cluster.alice 1 ∧
    SameEverywhere plainCodec [] (sessionSend 0 (some [7]))
      (.targeted (.sendToSession [1] [2])) :=
  ⟨rfl, placedOn_connectedFleet,
    (sameEverywhere_iff_payload rfl).mpr fun _ => rfl⟩

/-- Without a payload the handler runs when the session is connected in the
container that serves the request, and the send panics in any other. -/
theorem nil_payload_panics_remotely :
    let message := Message.targeted (.sendToSession [1] [2])
    PlacedOn Routing.connectedFleet Cluster.alice 1 ∧
    (∀ localID, (sessionSend localID none).request.validate = .ok message) ∧
    ((serve plainCodec [] (sessionSend 1 none) message).map fun runs =>
      runs 1) = some [⟨.sendToSession, ⟨[1], [2], [0x6D], none⟩⟩] ∧
    serve plainCodec [] (sessionSend 0 none) message = none := by
  intro message
  refine ⟨placedOn_connectedFleet, fun _ => rfl, ?_, ?_⟩
  · rfl
  · rfl

end RemoteSend

end Pipewave
