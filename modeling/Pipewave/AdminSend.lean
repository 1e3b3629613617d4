/-
The sends of the admin REST API and what becomes of the subscriptions that
carry them.  A handler runs inside `Receive`, so a panic in it ends the loop of
its subscription: the goroutine recovers outside the loop.
-/
import Pipewave.Routing
import Pipewave.SubscribeLoop

namespace Pipewave

namespace AdminSend

open SendOrSave (Effect)
open Routing (Fleet)

/-- The decoded body of a send.  A payload that is missing or null decodes to
a nil slice. -/
inductive Request where
  | session (userID instanceID msgType : Bytes) (payload : Option Bytes)
      (ackTimeoutMs : Int)
  | user (userID msgType : Bytes) (payload : Option Bytes)
      (ackTimeoutMs : Int)
  | users (userIDs : List Bytes) (msgType : Bytes) (payload : Option Bytes)
  | broadcast (target : String) (msgType : Bytes) (payload : Option Bytes)
      (instanceIDs : List Bytes)
deriving Repr, DecidableEq

def Request.payload : Request → Option Bytes
  | .session _ _ _ payload _ => payload
  | .user _ _ payload _ => payload
  | .users _ _ payload => payload
  | .broadcast _ _ payload _ => payload

/-- The messages of a container's own channel that a send can publish. -/
inductive Targeted where
  | sendToSession (userID instanceID : Bytes)
  | sendToSessionWithAck (userID instanceID : Bytes)
  | sendToUser (userID : Bytes)
  | sendToUserWithAck (userID : Bytes)
  | sendToUsers (userIDs : List Bytes)
deriving Repr, DecidableEq

/-- The messages of the channel all containers listen on. -/
inductive Broadcast where
  | sendToAnonymous (isSendAll : Bool) (instanceIDs : List Bytes)
  | sendToAuthenticated
  | sendToAll
deriving Repr, DecidableEq

inductive Message where
  | targeted (message : Targeted)
  | broadcast (message : Broadcast)
deriving Repr, DecidableEq

/-- The checks of the four handlers and the service call they end in. -/
def Request.validate : Request → Except String Message
  | .session userID instanceID msgType _ ackTimeoutMs =>
    if userID = [] ∨ instanceID = [] ∨ msgType = [] then
      .error "user_id, instance_id and msg_type are required"
    else if 0 < ackTimeoutMs then
      .ok (.targeted (.sendToSessionWithAck userID instanceID))
    else .ok (.targeted (.sendToSession userID instanceID))
  | .user userID msgType _ ackTimeoutMs =>
    if userID = [] ∨ msgType = [] then
      .error "user_id and msg_type are required"
    else if 0 < ackTimeoutMs then
      .ok (.targeted (.sendToUserWithAck userID))
    else .ok (.targeted (.sendToUser userID))
  | .users userIDs msgType _ =>
    if userIDs = [] ∨ msgType = [] then
      .error "user_ids and msg_type are required"
    else .ok (.targeted (.sendToUsers userIDs))
  | .broadcast target msgType _ instanceIDs =>
    if msgType = [] then .error "msg_type is required"
    else if target = "all" then .ok (.broadcast .sendToAll)
    else if target = "authenticated" then
      .ok (.broadcast .sendToAuthenticated)
    else if target = "anonymous" then
      .ok (.broadcast
        (.sendToAnonymous (instanceIDs.isEmpty) instanceIDs))
    else .error
      "target must be one of \"all\", \"authenticated\", \"anonymous\""

/-- Where `findSessionConn` publishes to. -/
def sessionHolders (fleet : Fleet) (localID : ContainerID)
    (userID instanceID : Bytes) : List ContainerID :=
  match userWebsocketAuth userID instanceID with
  | none => []
  | some auth =>
    match (fleet.nodes localID).connections.getConnection auth with
    | some _ => []
    | none => ((fleet.visibleRow auth).bind (·.holderID)).toList

/-- The other containers `findUserConn` publishes to. -/
def userHolders (fleet : Fleet) (localID : ContainerID) (userID : Bytes) :
    List ContainerID :=
  (Routing.scanUser localID ((fleet.env.store fleet.now).getActiveConnections
    userID fleet.env.cutoff fleet.now) false []).2

/-- The other containers `findMultiUserConn` publishes to. -/
def usersHolders (fleet : Fleet) (localID : ContainerID)
    (userIDs : List Bytes) : List ContainerID :=
  Routing.scanUsers localID
    ((fleet.env.store fleet.now).getActiveConnectionsByUserIDs userIDs
      fleet.env.cutoff fleet.now) [] []

def targets (fleet : Fleet) (localID : ContainerID) :
    Targeted → List ContainerID
  | .sendToSession userID instanceID
  | .sendToSessionWithAck userID instanceID =>
    sessionHolders fleet localID userID instanceID
  | .sendToUser userID | .sendToUserWithAck userID =>
    userHolders fleet localID userID
  | .sendToUsers userIDs => usersHolders fleet localID userIDs

/-- What a handler has done when it returns or panics. -/
structure Handled where
  effects : List Effect := []
  panicked : Bool := false

/-- The handlers of a container's own channel. -/
def handleMsg (fleet : Fleet) (node : ContainerID) (payload : Bytes) :
    Targeted → Handled
  | .sendToSession userID instanceID =>
    match userWebsocketAuth userID instanceID with
    | none => { panicked := true }
    | some _ => { effects :=
        fleet.handle node (.sendToSession userID instanceID payload) }
  | .sendToSessionWithAck userID instanceID =>
    match userWebsocketAuth userID instanceID with
    | none => { panicked := true }
    | some auth =>
      match (fleet.nodes node).connections.getConnection auth with
      | none => {}
      | some conn => { effects := fleet.handOver auth payload conn }
  | .sendToUser userID =>
    { effects := fleet.handle node (.sendToUser userID payload) }
  | .sendToUserWithAck userID =>
    { effects := ((fleet.nodes node).connections.getAllUserConn
        userID).flatMap fun entry =>
          fleet.handOver ⟨userID, entry.1⟩ payload entry.2 }
  | .sendToUsers userIDs =>
    { effects := fleet.handle node (.sendToUsers userIDs payload) }

/-- A `Send` whose failure is not looked at. -/
def sendOnly (fleet : Fleet) (payload : Bytes)
    (entry : WebsocketAuth × ConnID) : Effect :=
  .send entry.1 payload (fleet.env.sendOk entry.2)

def anonymousEntries (map : ConnectionMap) : List (WebsocketAuth × ConnID) :=
  map.anonymousConn.entries.map fun entry => (⟨[], entry.1⟩, entry.2)

def authenticatedEntries (map : ConnectionMap) :
    List (WebsocketAuth × ConnID) :=
  map.userConn.entries.flatMap fun outer =>
    outer.2.entries.map fun inner => (⟨outer.1, inner.1⟩, inner.2)

/-- The loop of `SendToAnonymous` over the listed instances. -/
def sendToInstances (fleet : Fleet) (node : ContainerID) (payload : Bytes) :
    List Bytes → Handled
  | [] => {}
  | instanceID :: rest =>
    match anonymousUserWebsocketAuth instanceID with
    | none => { panicked := true }
    | some auth =>
      let conn := (fleet.nodes node).connections.getConnection auth
      let sent := conn.toList.map fun conn =>
        sendOnly fleet payload (auth, conn)
      let later := sendToInstances fleet node payload rest
      { later with effects := sent ++ later.effects }

/-- The handlers of the channel all containers listen on. -/
def handleBroadcastMsg (fleet : Fleet) (node : ContainerID)
    (payload : Bytes) : Broadcast → Handled
  | .sendToAnonymous true _ =>
    { effects := (anonymousEntries (fleet.nodes node).connections).map
        (sendOnly fleet payload) }
  | .sendToAnonymous false instanceIDs =>
    sendToInstances fleet node payload instanceIDs
  | .sendToAuthenticated =>
    { effects := (authenticatedEntries
        (fleet.nodes node).connections).flatMap fun entry =>
          fleet.handOver entry.1 payload entry.2 }
  | .sendToAll =>
    { effects := (authenticatedEntries (fleet.nodes node).connections ++
        anonymousEntries (fleet.nodes node).connections).map
          (sendOnly fleet payload) }

/-! ### Whole sequences of sends -/

/-- A request, the containers when it is served, and the containers when each
of them handles what it published. -/
structure Send where
  fleet : Fleet
  localID : ContainerID
  request : Request
  handledIn : ContainerID → Fleet

/-- The message is published, which panics in the request's goroutine if the
payload is nil. -/
def Send.publishes (send : Send) : Message → Bool
  | .targeted message =>
    !(targets send.fleet send.localID message).isEmpty
  | .broadcast _ => true

/-- The request passes its checks and is answered without a panic. -/
def Send.Accepted (send : Send) : Prop :=
  ∃ message, send.request.validate = .ok message ∧
    (send.publishes message = true → send.request.payload.isSome = true)

/-- What a container's two subscriptions receive of a send, as the handler
that runs for it. -/
def Send.onContainer (send : Send) (node : ContainerID) : List Handled :=
  match send.request.validate with
  | .ok (.targeted message) =>
    if node ∈ targets send.fleet send.localID message then
      [handleMsg (send.handledIn node) node
        (send.request.payload.getD []) message]
    else []
  | _ => []

def Send.onBroadcast (send : Send) (node : ContainerID) : List Handled :=
  match send.request.validate with
  | .ok (.broadcast message) =>
    [handleBroadcastMsg (send.handledIn node) node
      (send.request.payload.getD []) message]
  | _ => []

/-- The loop of a subscription behind the messages it receives.  A loop that
has ended receives nothing. -/
def receiveAll (configured : Int) (loop : SubscribeLoop.State) :
    List Handled → SubscribeLoop.State
  | [] => loop
  | handled :: rest => receiveAll configured
      ((SubscribeLoop.step configured loop
        (.message handled.panicked)).getD loop) rest

/-- The two subscriptions of a container. -/
structure Subscriptions where
  container : SubscribeLoop.State := { phase := .receiving true }
  broadcast : SubscribeLoop.State := { phase := .receiving true }

def Subscriptions.after (configured : Int) (node : ContainerID)
    (sends : List Send) (subs : Subscriptions) : Subscriptions where
  container := receiveAll configured subs.container
    (sends.flatMap (·.onContainer node))
  broadcast := receiveAll configured subs.broadcast
    (sends.flatMap (·.onBroadcast node))

/-- Neither loop has ended. -/
def Subscriptions.Alive (subs : Subscriptions) : Prop :=
  subs.container.phase.live = true ∧ subs.broadcast.phase.live = true

instance (subs : Subscriptions) : Decidable subs.Alive :=
  inferInstanceAs (Decidable (_ ∧ _))

/-- An anonymous broadcast does not list the empty instance. -/
def Request.NamesInstances : Request → Prop
  | .broadcast target _ _ instanceIDs =>
    target = "anonymous" → [] ∉ instanceIDs
  | _ => True

theorem receiveAll_live {configured : Int} {loop : SubscribeLoop.State}
    (hloop : loop.phase = .receiving true) (handled : List Handled) :
    (receiveAll configured loop handled).phase.live = true ↔
      ∀ h ∈ handled, h.panicked = false := by
  induction handled generalizing loop with
  | nil => simp [receiveAll, hloop, SubscribeLoop.Phase.live]
  | cons first rest ih =>
    cases hpanics : first.panicked with
    | false =>
      have hstep : SubscribeLoop.step configured loop (.message false) =
          some loop := by
        simp [SubscribeLoop.step, hloop]
      simp only [receiveAll, hpanics, hstep, Option.getD_some, ih hloop,
        List.forall_mem_cons, true_and]
    | true =>
      have hdead : ∀ (loop : SubscribeLoop.State) (rest : List Handled),
          loop.phase = .panicked →
            receiveAll configured loop rest = loop := by
        intro loop rest hphase
        induction rest with
        | nil => rfl
        | cons head tail ihtail =>
          have hnone : SubscribeLoop.step configured loop
              (.message head.panicked) = none := by
            simp [SubscribeLoop.step, hphase]
          rw [receiveAll, hnone, Option.getD_none, ihtail]
      have hstep : SubscribeLoop.step configured loop (.message true) =
          some { loop with phase := .panicked } := by
        simp [SubscribeLoop.step, hloop]
      rw [receiveAll, hpanics, hstep, Option.getD_some, hdead _ _ rfl]
      simp [SubscribeLoop.Phase.live, hpanics]

/-- The loop over the instances panics at the first empty one. -/
theorem panicked_sendToInstances (fleet : Fleet) (node : ContainerID)
    (payload : Bytes) (instanceIDs : List Bytes) :
    (sendToInstances fleet node payload instanceIDs).panicked = true ↔
      [] ∈ instanceIDs := by
  induction instanceIDs with
  | nil => simp [sendToInstances]
  | cons instanceID rest ih =>
    by_cases hempty : instanceID = []
    · simp [sendToInstances, anonymousUserWebsocketAuth, hempty]
    · simp [sendToInstances, anonymousUserWebsocketAuth, hempty, ih,
        Ne.symm hempty]

/-- Every auth value the handler builds is built from ids that are not
empty. -/
def Message.Identified : Message → Prop
  | .targeted (.sendToSession userID instanceID)
  | .targeted (.sendToSessionWithAck userID instanceID) =>
    userID ≠ [] ∧ instanceID ≠ []
  | .broadcast (.sendToAnonymous false instanceIDs) => [] ∉ instanceIDs
  | _ => True

/-- The checks of the handlers leave out the listed instances only. -/
theorem identified_iff_namesInstances {request : Request} {message : Message}
    (hvalid : request.validate = .ok message) :
    message.Identified ↔ request.NamesInstances := by
  cases request with
  | session userID instanceID msgType payload ackTimeoutMs =>
    simp only [Request.validate] at hvalid
    split at hvalid
    · cases hvalid
    · next hnamed =>
      rw [not_or, not_or] at hnamed
      have hids : userID ≠ [] ∧ instanceID ≠ [] := ⟨hnamed.1, hnamed.2.1⟩
      split at hvalid <;>
        · cases hvalid
          exact iff_of_true hids trivial
  | user userID msgType payload ackTimeoutMs =>
    simp only [Request.validate] at hvalid
    split at hvalid
    · cases hvalid
    · split at hvalid <;>
        · cases hvalid
          exact Iff.rfl
  | users userIDs msgType payload =>
    simp only [Request.validate] at hvalid
    split at hvalid
    · cases hvalid
    · cases hvalid
      exact Iff.rfl
  | broadcast target msgType payload instanceIDs =>
    simp only [Request.validate] at hvalid
    split at hvalid
    · cases hvalid
    · split at hvalid
      · next hall =>
        cases hvalid
        refine iff_of_true trivial fun hanonymous => ?_
        rw [hall] at hanonymous
        exact absurd hanonymous (by decide)
      · split at hvalid
        · next hauthenticated =>
          cases hvalid
          refine iff_of_true trivial fun hanonymous => ?_
          rw [hauthenticated] at hanonymous
          exact absurd hanonymous (by decide)
        · split at hvalid
          · next hanonymous =>
            cases hvalid
            cases instanceIDs with
            | nil => exact iff_of_true trivial fun _ => List.not_mem_nil
            | cons first rest =>
              exact ⟨fun hnone _ => hnone, fun hnone => hnone hanonymous⟩
          · cases hvalid

theorem panicked_handleMsg (fleet : Fleet) (node : ContainerID)
    (payload : Bytes) (message : Targeted) :
    (handleMsg fleet node payload message).panicked = false ↔
      (Message.targeted message).Identified := by
  have hauth : ∀ userID instanceID : Bytes,
      userWebsocketAuth userID instanceID = none ↔
        ¬ (userID ≠ [] ∧ instanceID ≠ []) := by
    intro userID instanceID
    rw [userWebsocketAuth, ← not_or, not_not]
    split <;> simp [*]
  cases message with
  | sendToSession userID instanceID =>
    rw [Message.Identified, handleMsg, ← not_iff_not, ← hauth]
    cases userWebsocketAuth userID instanceID <;> simp
  | sendToSessionWithAck userID instanceID =>
    rw [Message.Identified, handleMsg, ← not_iff_not, ← hauth]
    cases userWebsocketAuth userID instanceID with
    | none => simp
    | some auth =>
      cases hconn : (fleet.nodes node).connections.getConnection auth <;>
        simp [hconn]
  | sendToUser userID => exact iff_of_true rfl trivial
  | sendToUserWithAck userID => exact iff_of_true rfl trivial
  | sendToUsers userIDs => exact iff_of_true rfl trivial

theorem panicked_handleBroadcastMsg (fleet : Fleet) (node : ContainerID)
    (payload : Bytes) (message : Broadcast) :
    (handleBroadcastMsg fleet node payload message).panicked = false ↔
      (Message.broadcast message).Identified := by
  cases message with
  | sendToAnonymous isSendAll instanceIDs =>
    cases isSendAll with
    | true => exact iff_of_true rfl trivial
    | false =>
      rw [Message.Identified, handleBroadcastMsg, ← not_iff_not,
        Bool.not_eq_false, panicked_sendToInstances, not_not]
  | sendToAuthenticated => exact iff_of_true rfl trivial
  | sendToAll => exact iff_of_true rfl trivial

/-- Only the broadcast handler ends in a broadcast. -/
theorem namesInstances_of_targeted {request : Request} {message : Targeted}
    (hvalid : request.validate = .ok (.targeted message)) :
    request.NamesInstances := by
  cases request with
  | session => trivial
  | user => trivial
  | users => trivial
  | broadcast target msgType payload instanceIDs =>
    simp only [Request.validate] at hvalid
    repeat' split at hvalid
    all_goals cases hvalid

/-- Nothing a request puts on a container's own channel makes its handler
panic. -/
theorem onContainer_quiet (send : Send) (node : ContainerID) :
    ∀ h ∈ send.onContainer node, h.panicked = false := by
  intro h hmem
  unfold Send.onContainer at hmem
  split at hmem
  · next message hvalid =>
    split at hmem
    · rw [List.mem_singleton.mp hmem, panicked_handleMsg,
        identified_iff_namesInstances hvalid]
      exact namesInstances_of_targeted hvalid
    · cases hmem
  · cases hmem

theorem onBroadcast_quiet_iff {send : Send} (haccepted : send.Accepted)
    (node : ContainerID) :
    (∀ h ∈ send.onBroadcast node, h.panicked = false) ↔
      send.request.NamesInstances := by
  obtain ⟨message, hvalid, -⟩ := haccepted
  cases message with
  | targeted message =>
    simp only [Send.onBroadcast, hvalid]
    exact iff_of_true (fun _ h => by cases h)
      (namesInstances_of_targeted hvalid)
  | broadcast message =>
    rw [← identified_iff_namesInstances hvalid]
    simp only [Send.onBroadcast, hvalid, List.forall_mem_singleton,
      panicked_handleBroadcastMsg]

/-- A container's subscriptions survive a sequence of accepted sends exactly
when no anonymous broadcast among them lists the empty instance. -/
theorem alive_iff_namesInstances {sends : List Send}
    (haccepted : ∀ send ∈ sends, send.Accepted) (configured : Int)
    (node : ContainerID) :
    (Subscriptions.after configured node sends {}).Alive ↔
      ∀ send ∈ sends, send.request.NamesInstances := by
  have hcontainer : ∀ h ∈ sends.flatMap (·.onContainer node),
      h.panicked = false := by
    intro h hmem
    obtain ⟨send, -, hsend⟩ := List.mem_flatMap.mp hmem
    exact onContainer_quiet send node h hsend
  rw [Subscriptions.Alive, Subscriptions.after, receiveAll_live rfl,
    receiveAll_live rfl, and_iff_right hcontainer]
  constructor
  · intro hquiet send hsend
    refine (onBroadcast_quiet_iff (haccepted send hsend) node).mp ?_
    exact fun h hmem => hquiet h (List.mem_flatMap.mpr ⟨send, hsend, hmem⟩)
  · intro hnames h hmem
    obtain ⟨send, hsend, hmem⟩ := List.mem_flatMap.mp hmem
    exact (onBroadcast_quiet_iff (haccepted send hsend) node).mpr
      (hnames send hsend) h hmem

/-- Containers without connections, rows or timers. -/
def idleFleet : Fleet where
  env := { cutoff := 0, store := fun _ => ∅, wait := fun _ => 0,
           sendOk := fun _ => true }
  now := 0
  nodes := fun _ => { hub := { ttl := 90 } }

/-- An anonymous broadcast to the given instances, served by container 0. -/
def anonymousSend (instanceIDs : List Bytes) : Send where
  fleet := idleFleet
  localID := 0
  request := .broadcast "anonymous" [0x6D] (some [1]) instanceIDs
  handledIn := fun _ => idleFleet

theorem anonymousSend_accepted (instanceIDs : List Bytes) :
    (anonymousSend instanceIDs).Accepted :=
  ⟨.broadcast (.sendToAnonymous instanceIDs.isEmpty instanceIDs), rfl,
    fun _ => rfl⟩

theorem alive_after_named_instances :
    (∀ send ∈ [anonymousSend [[1], [2]], anonymousSend []],
      send.Accepted) ∧
    (Subscriptions.after 3 7
      [anonymousSend [[1], [2]], anonymousSend []] {}).Alive := by
  have haccepted : ∀ send ∈ [anonymousSend [[1], [2]], anonymousSend []],
      send.Accepted := by
    intro send hsend
    rcases List.mem_pair.mp hsend with rfl | rfl <;>
      exact anonymousSend_accepted _
  refine ⟨haccepted, (alive_iff_namesInstances haccepted 3 7).mpr ?_⟩
  intro send hsend
  rcases List.mem_pair.mp hsend with rfl | rfl <;>
    exact fun _ => by decide

/-- One accepted broadcast whose list holds the empty string ends the
broadcast subscription of every container. -/
theorem empty_instance_kills_subscriptions :
    (anonymousSend [[]]).Accepted ∧
      ∀ node, ¬ (Subscriptions.after 3 node [anonymousSend [[]]] {}).Alive :=
  ⟨anonymousSend_accepted [[]], fun _ halive => by cases halive.2⟩

end AdminSend

end Pipewave
