/-
What a broadcast does to a whole fleet, and what a disconnect does.  Every
container handles a broadcast over its own registry; a disconnect is handled
in the containers that the store names and in the one that was asked.
-/
import Pipewave.AdminSend
import Pipewave.RoutingEffects

namespace Pipewave

namespace FleetBroadcast

open AdminSend (Broadcast anonymousEntries authenticatedEntries
  handleBroadcastMsg sendOnly sendToInstances)
open Routing (Fleet)
open SendOrSave (Effect)

/-! ### Registries -/

/-- What calls of `AddConnection` and `RemoveConnection` make of an empty
registry. -/
inductive Registry : ConnectionMap → Prop where
  | empty : Registry {}
  | add {map : ConnectionMap} (registry : Registry map)
      (auth : WebsocketAuth) (conn : ConnID) :
      Registry (map.addConnection auth conn)
  | remove {map : ConnectionMap} (registry : Registry map)
      (auth : WebsocketAuth) : Registry (map.removeConnection auth)

variable {map : ConnectionMap}

/-- The authenticated connections are not filed under the empty user. -/
theorem Registry.get_nil (hregistry : Registry map) (instanceID : Bytes) :
    map.userConn.get [] instanceID = none := by
  induction hregistry with
  | empty => exact NestedMap.get_empty _ _
  | @add map _ auth conn ih =>
    rw [ConnectionMap.addConnection]
    split
    · exact ih
    next hauth =>
      rw [NestedMap.get_set, if_neg, ih]
      rintro ⟨huser, -⟩
      exact hauth (ConnectionMap.isAnonymous_iff.mpr huser.symm)
  | @remove map _ auth ih =>
    rw [ConnectionMap.removeConnection]
    split
    · exact ih
    · rw [NestedMap.get_delete, ih, ite_self]

/-- How often a session is among the entries of a registry. -/
def occurrences (auth : WebsocketAuth)
    (entries : List (WebsocketAuth × ConnID)) : Nat :=
  entries.countP fun entry => entry.1 = auth

/-- Whether the registry has a connection of the session, as a number. -/
def registered (map : ConnectionMap) (auth : WebsocketAuth) : Nat :=
  if (map.getConnection auth).isSome = true then 1 else 0

theorem occurrences_anonymousEntries (map : ConnectionMap)
    (auth : WebsocketAuth) : occurrences auth (anonymousEntries map) =
      if auth.isAnonymous = true then registered map auth else 0 := by
  rw [occurrences, anonymousEntries, List.map_eq_flatMap,
    GoMap.countP_flatMap_entries map.anonymousConn auth.instanceID]
  · rw [registered, ConnectionMap.getConnection]
    by_cases hauth : auth.isAnonymous = true
    · have huser := ConnectionMap.isAnonymous_iff.mp hauth
      have hsame : (⟨[], auth.instanceID⟩ : WebsocketAuth) = auth :=
        ConnectionMap.eq_iff_ids.mpr ⟨huser.symm, rfl⟩
      rw [if_pos hauth, if_pos hauth]
      cases map.anonymousConn.lookup auth.instanceID with
      | none => rfl
      | some conn => simp [hsame]
    · have hne : (⟨[], auth.instanceID⟩ : WebsocketAuth) ≠ auth := by
        intro hsame
        apply hauth
        rw [← hsame]
        rfl
      rw [if_neg hauth]
      cases map.anonymousConn.lookup auth.instanceID with
      | none => rfl
      | some conn => simp [hne]
  · intro entry hentry
    rw [List.countP_singleton, if_neg]
    intro hsame
    apply hentry
    rw [← of_decide_eq_true hsame]

theorem occurrences_authenticatedEntries (hregistry : Registry map)
    (auth : WebsocketAuth) :
    occurrences auth (authenticatedEntries map) =
      if auth.isAnonymous = true then 0 else registered map auth := by
  have hcount : occurrences auth (authenticatedEntries map) =
      if (map.userConn.get auth.userID auth.instanceID).isSome = true then 1
      else 0 := by
    rw [occurrences, authenticatedEntries,
      GoMap.countP_flatMap_entries map.userConn auth.userID, NestedMap.get]
    · cases map.userConn.lookup auth.userID with
      | none => rfl
      | some inner =>
        rw [Option.map_some, Option.getD_some, Option.bind_some,
          List.map_eq_flatMap,
          GoMap.countP_flatMap_entries inner auth.instanceID]
        · cases inner.lookup auth.instanceID with
          | none => rfl
          | some conn => simp
        · intro entry hentry
          rw [List.countP_singleton, if_neg]
          intro hsame
          apply hentry
          rw [← of_decide_eq_true hsame]
    · intro entry hentry
      rw [List.countP_eq_zero]
      intro found hfound hsame
      obtain ⟨inner, -, rfl⟩ := List.mem_map.mp hfound
      apply hentry
      rw [← of_decide_eq_true hsame]
  rw [hcount, registered, ConnectionMap.getConnection]
  by_cases hauth : auth.isAnonymous = true
  · rw [if_pos hauth, ConnectionMap.isAnonymous_iff.mp hauth,
      hregistry.get_nil]
    rfl
  · rw [if_neg hauth, if_neg hauth]

/-! ### Broadcasts -/

/-- A `Send` of the payload on a connection of the session, whether it goes
well or not. -/
def sendsTo (auth : WebsocketAuth) (payload : Bytes) : Effect → Bool
  | .send other sent _ => other = auth ∧ sent = payload
  | .save _ _ => false

/-- How often a broadcast is meant for a connection of the session. -/
def copies (auth : WebsocketAuth) : Broadcast → Nat
  | .sendToAll => 1
  | .sendToAuthenticated => if auth.isAnonymous = true then 0 else 1
  | .sendToAnonymous true _ => if auth.isAnonymous = true then 1 else 0
  | .sendToAnonymous false instanceIDs =>
    if auth.isAnonymous = true then instanceIDs.count auth.instanceID else 0

/-- No listed instance is the empty one. -/
def Named : Broadcast → Prop
  | .sendToAnonymous false instanceIDs => [] ∉ instanceIDs
  | _ => True

/-- Every container that runs handles the broadcast once. -/
def broadcast (fleet : Fleet) (running : List ContainerID) (payload : Bytes)
    (message : Broadcast) : List Effect :=
  running.flatMap fun node =>
    (handleBroadcastMsg fleet node payload message).effects

section Sends

variable (fleet : Fleet) (node : ContainerID) (auth : WebsocketAuth)
  (payload : Bytes)

theorem countP_sendOnly (entries : List (WebsocketAuth × ConnID)) :
    (entries.map (sendOnly fleet payload)).countP (sendsTo auth payload) =
      occurrences auth entries := by
  rw [List.countP_map, occurrences]
  congr 1
  funext entry
  simp [sendOnly, sendsTo]

theorem countP_handOver (other : WebsocketAuth) (conn : ConnID) :
    (fleet.handOver other payload conn).countP (sendsTo auth payload) =
      if other = auth then 1 else 0 := by
  rw [Fleet.handOver]
  rcases SendOrSave.sendOrSaveMessageHub_cases fleet.env other payload conn
    fleet.now with ⟨-, heq | heq⟩ | ⟨-, heq⟩ <;>
    rw [heq] <;> simp [sendsTo, List.countP_cons]

theorem countP_handOvers (entries : List (WebsocketAuth × ConnID)) :
    (entries.flatMap fun entry =>
      fleet.handOver entry.1 payload entry.2).countP
        (sendsTo auth payload) = occurrences auth entries := by
  induction entries with
  | nil => rfl
  | cons entry rest ih =>
    rw [List.flatMap_cons, List.countP_append, ih, countP_handOver,
      occurrences, occurrences, List.countP_cons, Nat.add_comm]
    simp

/-- The send to one listed instance. -/
theorem countP_toInstance (instanceID : Bytes) :
    ((((fleet.nodes node).connections.getConnection ⟨[], instanceID⟩).toList).map
      fun conn => sendOnly fleet payload (⟨[], instanceID⟩, conn)).countP
        (sendsTo auth payload) =
      (if auth.isAnonymous = true ∧ instanceID = auth.instanceID then 1
        else 0) * registered (fleet.nodes node).connections auth := by
  by_cases hsame : (⟨[], instanceID⟩ : WebsocketAuth) = auth
  · subst hsame
    rw [if_pos ⟨rfl, rfl⟩, registered, Nat.one_mul]
    cases (fleet.nodes node).connections.getConnection ⟨[], instanceID⟩ with
    | none => rfl
    | some conn => simp [sendOnly, sendsTo]
  · rw [if_neg, Nat.zero_mul, List.countP_eq_zero]
    · intro effect heffect
      obtain ⟨conn, -, rfl⟩ := List.mem_map.mp heffect
      simp [sendOnly, sendsTo, hsame]
    · rintro ⟨hauth, hinstance⟩
      exact hsame (ConnectionMap.eq_iff_ids.mpr
        ⟨(ConnectionMap.isAnonymous_iff.mp hauth).symm, hinstance⟩)

theorem countP_sendToInstances {instanceIDs : List Bytes}
    (hnamed : [] ∉ instanceIDs) :
    (sendToInstances fleet node payload instanceIDs).effects.countP
      (sendsTo auth payload) = (if auth.isAnonymous = true then
        instanceIDs.count auth.instanceID else 0) *
          registered (fleet.nodes node).connections auth := by
  induction instanceIDs with
  | nil => simp [sendToInstances]
  | cons instanceID rest ih =>
    rw [List.mem_cons, not_or] at hnamed
    have hauth : anonymousUserWebsocketAuth instanceID =
        some ⟨[], instanceID⟩ := if_neg (Ne.symm hnamed.1)
    simp only [sendToInstances, hauth]
    rw [List.countP_append, ih hnamed.2, countP_toInstance,
      ← Nat.add_mul, List.count_cons]
    congr 1
    by_cases hanonymous : auth.isAnonymous = true
    · simp [hanonymous, Nat.add_comm]
    · simp [hanonymous]

theorem countP_handleBroadcastMsg
    (hregistry : Registry (fleet.nodes node).connections)
    {message : Broadcast} (hnamed : Named message) :
    (handleBroadcastMsg fleet node payload message).effects.countP
      (sendsTo auth payload) = copies auth message *
        registered (fleet.nodes node).connections auth := by
  match message with
  | .sendToAll =>
    simp only [handleBroadcastMsg]
    rw [countP_sendOnly, occurrences, List.countP_append]
    change occurrences auth _ + occurrences auth _ = _
    rw [occurrences_authenticatedEntries hregistry,
      occurrences_anonymousEntries, copies, Nat.one_mul]
    split
    · exact Nat.zero_add _
    · exact Nat.add_zero _
  | .sendToAuthenticated =>
    simp only [handleBroadcastMsg]
    rw [countP_handOvers, occurrences_authenticatedEntries hregistry,
      copies, ite_mul, Nat.zero_mul, Nat.one_mul]
  | .sendToAnonymous true instanceIDs =>
    simp only [handleBroadcastMsg]
    rw [countP_sendOnly, occurrences_anonymousEntries, copies, ite_mul,
      Nat.zero_mul, Nat.one_mul]
  | .sendToAnonymous false instanceIDs =>
    exact countP_sendToInstances fleet node auth payload hnamed

end Sends

/-- A broadcast is sent once on every connection it is meant for, in every
container that has one of the session, or as often as the instance is
listed. -/
theorem broadcast_sends {fleet : Fleet} {running : List ContainerID}
    (hregistries : ∀ node ∈ running,
      Registry (fleet.nodes node).connections)
    {message : Broadcast} (hnamed : Named message) (auth : WebsocketAuth)
    (payload : Bytes) :
    (broadcast fleet running payload message).countP (sendsTo auth payload) =
      copies auth message * (running.countP fun node =>
        ((fleet.nodes node).connections.getConnection auth).isSome) := by
  rw [broadcast]
  induction running with
  | nil => simp
  | cons node rest ih =>
    rw [List.flatMap_cons, List.countP_append, List.countP_cons,
      countP_handleBroadcastMsg fleet node auth payload
        (hregistries node List.mem_cons_self) hnamed,
      ih fun other hother =>
        hregistries other (List.mem_cons_of_mem node hother),
      Nat.mul_add, Nat.add_comm, registered]

/-- An anonymous client has a connection in two containers. -/
def lobby : Fleet :=
  Routing.oneSession ⟨some 1, .connected, 0⟩ fun node =>
    if node = 1 then
      (ConnectionMap.addConnection {} Cluster.alice 5).addConnection
        ⟨[], [9]⟩ 6
    else ConnectionMap.addConnection {} ⟨[], [9]⟩ 7

theorem registry_lobby (node : ContainerID) :
    Registry (lobby.nodes node).connections := by
  simp only [lobby, Routing.oneSession]
  split
  · exact .add (.add .empty _ _) _ _
  · exact .add .empty _ _

theorem broadcast_sends_lobby :
    (broadcast lobby [0, 1] [7] (.sendToAnonymous false [[9], [8], [9]])).countP
        (sendsTo ⟨[], [9]⟩ [7]) = 2 * 2 ∧
      (broadcast lobby [0, 1] [7] .sendToAll).countP
        (sendsTo Cluster.alice [7]) = 1 * 1 := by
  have hregistries : ∀ node ∈ [0, 1],
      Registry (lobby.nodes node).connections := fun node _ =>
    registry_lobby node
  have hlisted : Named (.sendToAnonymous false [[9], [8], [9]]) := by
    change [] ∉ _
    decide
  have hall : Named .sendToAll := trivial
  exact ⟨(broadcast_sends hregistries hlisted _ _).trans (by decide +kernel),
    (broadcast_sends hregistries hall _ _).trans (by decide +kernel)⟩

/-! ### Disconnecting -/

/-- A connection that is closed: where it is, and under which instance. -/
structure Closed where
  node : ContainerID
  instanceID : Bytes
  conn : ConnID
deriving Repr, DecidableEq

section Disconnect

variable (fleet : Fleet) (localID : ContainerID)

/-- The handler of `DisconnectUser` in a container. -/
def disconnectUserAt (userID : Bytes) (node : ContainerID) : List Closed :=
  ((fleet.nodes node).connections.getAllUserConn userID).map fun entry =>
    ⟨node, entry.1, entry.2⟩

/-- `DisconnectUser` asked of a container, with all messages handled. -/
def disconnectUser (userID : Bytes) : List Closed :=
  (fleet.userTargets localID userID).flatMap (disconnectUserAt fleet userID)

/-- The handler of `DisconnectSession` in a container. -/
def disconnectSessionAt (auth : WebsocketAuth) (node : ContainerID) :
    List Closed :=
  ((fleet.nodes node).connections.getConnection auth).toList.map fun conn =>
    ⟨node, auth.instanceID, conn⟩

/-- `DisconnectSession`; `none` is the panic of `UserWebsocketAuth`.  A session
without a holder is not looked for. -/
def disconnectSession (userID instanceID : Bytes) : Option (List Closed) :=
  (userWebsocketAuth userID instanceID).map fun auth =>
    match (fleet.nodes localID).connections.getConnection auth with
    | some _ => disconnectSessionAt fleet auth localID
    | none => match (fleet.visibleRow auth).bind (·.holderID) with
      | none => []
      | some holder => disconnectSessionAt fleet auth holder

variable {userID : Bytes} {node : ContainerID} {c : Closed}
  {auth : WebsocketAuth}

theorem mem_disconnectUserAt : c ∈ disconnectUserAt fleet userID node ↔
      c.node = node ∧
        fleet.conn node ⟨userID, c.instanceID⟩ = some c.conn := by
  rw [disconnectUserAt, List.mem_map]
  constructor
  · rintro ⟨⟨instanceID, conn⟩, hentry, rfl⟩
    exact ⟨rfl, NestedMap.mem_inner.mp hentry⟩
  · rintro ⟨rfl, hconn⟩
    exact ⟨(c.instanceID, c.conn), NestedMap.mem_inner.mpr hconn, rfl⟩

/-- The connections of the user in the containers that are addressed. -/
theorem mem_disconnectUser :
    c ∈ disconnectUser fleet localID userID ↔
      fleet.Addressed localID userID c.node ∧
        fleet.conn c.node ⟨userID, c.instanceID⟩ = some c.conn := by
  rw [disconnectUser, List.mem_flatMap]
  constructor
  · rintro ⟨node, hnode, hclosed⟩
    obtain ⟨rfl, hconn⟩ := (mem_disconnectUserAt fleet).mp hclosed
    exact ⟨(fleet.mem_userTargets localID userID _).mp hnode, hconn⟩
  · rintro ⟨haddressed, hconn⟩
    exact ⟨c.node, (fleet.mem_userTargets localID userID _).mpr haddressed,
      (mem_disconnectUserAt fleet).mpr ⟨rfl, hconn⟩⟩

theorem nodup_disconnectUser (userID : Bytes) :
    (disconnectUser fleet localID userID).Nodup := by
  rw [disconnectUser, List.nodup_flatMap]
  constructor
  · intro node _
    have hkeys := NestedMap.nodup_keys_inner
      (fleet.nodes node).connections.userConn userID
    apply List.Nodup.map _ (List.Nodup.of_map Prod.fst hkeys)
    rintro ⟨instanceID, conn⟩ ⟨instanceID', conn'⟩ hsame
    cases hsame
    rfl
  · apply (fleet.nodup_userTargets localID userID).imp
    intro node other hne c hc hc'
    exact hne (((mem_disconnectUserAt fleet).mp hc).1.symm.trans
      ((mem_disconnectUserAt fleet).mp hc').1)

/-- Every connection's row has been renewed in time. -/
def Fresh : Prop :=
  ∀ node auth, (fleet.conn node auth).isSome = true →
    (fleet.visibleRow auth).isSome = true

variable {fleet localID}

theorem conn_eq_getConnection (huser : auth.userID ≠ []) (node : ContainerID) :
    (fleet.nodes node).connections.getConnection auth =
      fleet.conn node auth := by
  rw [ConnectionMap.getConnection, if_neg, Fleet.conn]
  exact fun hauth => huser (ConnectionMap.isAnonymous_iff.mp hauth)

/-- A connection is where its visible row says. -/
theorem holder_of_conn (hconsistent : fleet.Consistent) (hfresh : Fresh fleet)
    (hconn : (fleet.conn node auth).isSome = true) :
    ∃ row, fleet.visibleRow auth = some row ∧ row.holderID = some node := by
  obtain ⟨row, hrow, -, hholder⟩ := hconsistent.conn node auth hconn
  obtain ⟨visible, hvisible⟩ :=
    Option.isSome_iff_exists.mp (hfresh node auth hconn)
  have hlookup := ((ActiveConnTable.getInstanceConnection_eq_some _ _).mp
    hvisible).1
  have hsame : row = visible := Option.some.inj (hrow.symm.trans hlookup)
  exact ⟨visible, hvisible, hsame ▸ hholder⟩

theorem mem_disconnectSession (hconsistent : fleet.Consistent)
    (hfresh : Fresh fleet) {instanceID : Bytes} (huser : userID ≠ [])
    (hinstance : instanceID ≠ []) :
    (∃ closed, disconnectSession fleet localID userID instanceID =
      some closed ∧ c ∈ closed) ↔ c.instanceID = instanceID ∧
        fleet.conn c.node ⟨userID, instanceID⟩ = some c.conn := by
  have hget : ∀ node, (fleet.nodes node).connections.getConnection
      ⟨userID, instanceID⟩ = fleet.conn node ⟨userID, instanceID⟩ :=
    fun node => conn_eq_getConnection huser node
  have hat : ∀ node,
      c ∈ disconnectSessionAt fleet ⟨userID, instanceID⟩ node ↔
        c.node = node ∧ c.instanceID = instanceID ∧
          fleet.conn node ⟨userID, instanceID⟩ = some c.conn := by
    intro node
    rw [disconnectSessionAt, hget, List.mem_map]
    constructor
    · rintro ⟨conn, hconn, rfl⟩
      exact ⟨rfl, rfl, Option.mem_toList.mp hconn⟩
    · rintro ⟨rfl, hid, hconn⟩
      refine ⟨c.conn, Option.mem_toList.mpr hconn, ?_⟩
      rw [← hid]
  -- the connection is where the visible row has it
  have hholder : fleet.conn c.node ⟨userID, instanceID⟩ = some c.conn →
      (fleet.visibleRow ⟨userID, instanceID⟩).bind (·.holderID) =
        some c.node := by
    intro hconn
    obtain ⟨row, hrow, hholder⟩ := holder_of_conn hconsistent hfresh
      (Option.isSome_iff_exists.mpr ⟨c.conn, hconn⟩)
    rw [hrow, Option.bind_some, hholder]
  rw [disconnectSession, userWebsocketAuth_eq_some huser hinstance]
  simp only [Option.map_some, Option.some.injEq, exists_eq_left']
  rw [hget]
  cases hlocal : fleet.conn localID ⟨userID, instanceID⟩ with
  | some conn =>
    obtain ⟨row, hrow, hrowHolder⟩ := holder_of_conn hconsistent hfresh
      (Option.isSome_iff_exists.mpr ⟨conn, hlocal⟩)
    refine (hat localID).trans ⟨?_, ?_⟩
    · rintro ⟨hnode, hid, hconn⟩
      exact ⟨hid, hnode ▸ hconn⟩
    · rintro ⟨hid, hconn⟩
      have hnode := hholder hconn
      rw [hrow, Option.bind_some, hrowHolder] at hnode
      cases hnode
      exact ⟨rfl, hid, hconn⟩
  | none =>
    cases hrow : (fleet.visibleRow ⟨userID, instanceID⟩).bind
      (·.holderID) with
    | none =>
      refine iff_of_false List.not_mem_nil ?_
      rintro ⟨-, hconn⟩
      rw [hholder hconn] at hrow
      cases hrow
    | some holder =>
      refine (hat holder).trans ⟨?_, ?_⟩
      · rintro ⟨hnode, hid, hconn⟩
        exact ⟨hid, hnode ▸ hconn⟩
      · rintro ⟨hid, hconn⟩
        have hnode := hholder hconn
        rw [hrow] at hnode
        cases hnode
        exact ⟨rfl, hid, hconn⟩

/-- While the store is up to date, disconnecting a user closes all of their
connections, wherever they are, once and no others; it is as if each of their
sessions was disconnected. -/
theorem disconnectUser_closes (hconsistent : fleet.Consistent)
    (hfresh : Fresh fleet) {userID : Bytes} (huser : userID ≠ []) :
    (disconnectUser fleet localID userID).Nodup ∧
      ∀ c : Closed, (c ∈ disconnectUser fleet localID userID ↔
          fleet.conn c.node ⟨userID, c.instanceID⟩ = some c.conn) ∧
        (c.instanceID ≠ [] → (c ∈ disconnectUser fleet localID userID ↔
          ∃ closed, disconnectSession fleet localID userID c.instanceID =
            some closed ∧ c ∈ closed)) := by
  refine ⟨nodup_disconnectUser fleet localID userID, fun c => ?_⟩
  have hmem : c ∈ disconnectUser fleet localID userID ↔
      fleet.conn c.node ⟨userID, c.instanceID⟩ = some c.conn := by
    refine (mem_disconnectUser fleet localID).trans ⟨And.right, ?_⟩
    intro hconn
    refine ⟨.inl ⟨⟨userID, c.instanceID⟩, rfl, ?_⟩, hconn⟩
    exact holder_of_conn hconsistent hfresh
      (Option.isSome_iff_exists.mpr ⟨c.conn, hconn⟩)
  refine ⟨hmem, fun hinstance => hmem.trans ?_⟩
  rw [mem_disconnectSession hconsistent hfresh huser hinstance,
    and_iff_right rfl]

end Disconnect

theorem fresh_connectedFleet : Fresh Routing.connectedFleet := by
  intro node auth hconn
  obtain ⟨row, hrow, -⟩ :=
    Routing.consistent_connectedFleet.conn node auth hconn
  have hlookup := hrow
  rcases GoMap.lookup_insert_some hlookup with ⟨-, rfl⟩ | ⟨-, hnone⟩
  · exact Option.isSome_iff_exists.mpr ⟨_,
      (ActiveConnTable.getInstanceConnection_eq_some _ _).mpr
        ⟨hrow, by decide⟩⟩
  · cases hnone

theorem disconnectUser_closes_connectedFleet :
    let closed := disconnectUser Routing.connectedFleet 0 [1]
    closed.Nodup ∧ ⟨1, [2], 5⟩ ∈ closed := by
  intro closed
  have hcloses : closed.Nodup ∧ _ :=
    disconnectUser_closes Routing.consistent_connectedFleet
      fresh_connectedFleet (List.cons_ne_nil 1 [])
  exact ⟨hcloses.1, (hcloses.2 ⟨1, [2], 5⟩).1.mpr (by decide +kernel)⟩

end FleetBroadcast

end Pipewave
