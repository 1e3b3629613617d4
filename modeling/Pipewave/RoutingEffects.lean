/-
How often a send reaches a session.  A session that the store and the
registries agree on lives in one container at most, so the three ways of
sending compare by whether they address that container and what its handler
does there.
-/
import Pipewave.Routing

namespace Pipewave

namespace Routing

open SendOrSave (Effect)

section Times

variable (auth : WebsocketAuth) (payload : Bytes)

/-- The payload is taken by the session's connection or saved for it. -/
def reaches (effect : Effect) : Bool :=
  effect = .send auth payload true ∨ effect = .save auth payload

def times (effects : List Effect) : Nat :=
  effects.countP (reaches auth payload)

/-- The payload reached the session. -/
def Reached (effects : List Effect) : Prop :=
  .send auth payload true ∈ effects ∨ .save auth payload ∈ effects

variable {auth payload}

theorem reached_iff {effects : List Effect} :
    Reached auth payload effects ↔ times auth payload effects ≠ 0 := by
  rw [times, ← Nat.pos_iff_ne_zero, List.countP_pos_iff]
  simp only [Reached, reaches, decide_eq_true_eq]
  constructor
  · rintro (hsend | hsave)
    · exact ⟨_, hsend, .inl rfl⟩
    · exact ⟨_, hsave, .inr rfl⟩
  · rintro ⟨effect, hmem, rfl | rfl⟩
    · exact .inl hmem
    · exact .inr hmem

variable {α : Type} {l : List α} {f : α → List Effect}

theorem times_flatMap_eq_zero
    (hzero : ∀ x ∈ l, times auth payload (f x) = 0) :
    times auth payload (l.flatMap f) = 0 := by
  induction l with
  | nil => rfl
  | cons x rest ih =>
    rw [List.flatMap_cons, times, List.countP_append]
    have hx := hzero x List.mem_cons_self
    have hrest := ih fun y hy => hzero y (List.mem_cons_of_mem _ hy)
    rw [times] at hx hrest
    rw [hx, hrest]

/-- Of lists at distinct places only one reaches the session. -/
theorem times_flatMap_eq_single (hnodup : l.Nodup) {x : α} (hx : x ∈ l)
    (hzero : ∀ y ∈ l, y ≠ x → times auth payload (f y) = 0) :
    times auth payload (l.flatMap f) = times auth payload (f x) := by
  induction l with
  | nil => cases hx
  | cons y rest ih =>
    obtain ⟨hnew, hnodup⟩ := List.nodup_cons.mp hnodup
    have hsplit : times auth payload ((y :: rest).flatMap f) =
        times auth payload (f y) +
          times auth payload (rest.flatMap f) := by
      rw [List.flatMap_cons, times, List.countP_append]
      rfl
    rw [hsplit]
    by_cases hsame : x = y
    · subst hsame
      have hrest : times auth payload (rest.flatMap f) = 0 :=
        times_flatMap_eq_zero fun z hz => hzero z
          (List.mem_cons_of_mem _ hz) fun h => hnew (h ▸ hz)
      rw [hrest, Nat.add_zero]
    · have hhead := hzero y List.mem_cons_self (Ne.symm hsame)
      have hrest := ih hnodup ((List.mem_cons.mp hx).resolve_left hsame)
        fun z hz => hzero z (List.mem_cons_of_mem _ hz)
      rw [hhead, hrest, Nat.zero_add]

end Times

namespace Fleet

variable (fleet : Fleet) (auth : WebsocketAuth) (payload : Bytes)

def Keeps (conn : ConnID) : Prop :=
  SendOrSave.Keeps fleet.env auth conn fleet.now

/-- How often a container's connection of the session keeps the payload. -/
def live (node : ContainerID) : Nat :=
  match fleet.conn node auth with
  | none => 0
  | some conn => times auth payload (fleet.handOver auth payload conn)

/-- How often a container's hub saves the payload for the session. -/
def buffered (node : ContainerID) : Nat :=
  if fleet.buffers node auth then 1 else 0

theorem times_handOver_of_ne {other : WebsocketAuth} (hne : other ≠ auth)
    (conn : ConnID) :
    times auth payload (fleet.handOver other payload conn) = 0 := by
  unfold handOver times
  rcases SendOrSave.sendOrSaveMessageHub_cases fleet.env other payload conn
    fleet.now with ⟨_, heq | heq⟩ | ⟨_, heq⟩ <;>
    simp [heq, reaches, hne]

theorem times_handOver (conn : ConnID) :
    (fleet.Keeps auth conn ∧
      times auth payload (fleet.handOver auth payload conn) = 1) ∨
    (¬ fleet.Keeps auth conn ∧
      times auth payload (fleet.handOver auth payload conn) = 0) := by
  unfold handOver times Keeps
  rcases SendOrSave.sendOrSaveMessageHub_cases fleet.env auth payload conn
    fleet.now with ⟨hkeeps, heq | heq⟩ | ⟨hkeeps, heq⟩
  · exact .inl ⟨hkeeps, by simp [heq, reaches]⟩
  · exact .inl ⟨hkeeps, by simp [heq, reaches]⟩
  · exact .inr ⟨hkeeps, by simp [heq, reaches]⟩

theorem live_eq_zero_or_one (node : ContainerID) :
    fleet.live auth payload node = 0 ∨ fleet.live auth payload node = 1 := by
  unfold live
  split
  · exact .inl rfl
  · next conn _ =>
    rcases fleet.times_handOver auth payload conn with ⟨_, h⟩ | ⟨_, h⟩
    · exact .inr h
    · exact .inl h

theorem live_eq_one_iff (node : ContainerID) :
    fleet.live auth payload node = 1 ↔
      ∃ conn, fleet.conn node auth = some conn ∧ fleet.Keeps auth conn := by
  unfold live
  cases hconn : fleet.conn node auth with
  | none => simp
  | some conn =>
    simp only [Option.some.injEq, exists_eq_left']
    rcases fleet.times_handOver auth payload conn with
      ⟨hkeeps, h⟩ | ⟨hkeeps, h⟩
    · exact iff_of_true h hkeeps
    · exact iff_of_false (by rw [h]; exact Nat.zero_ne_one) hkeeps

theorem buffered_eq_one_iff (node : ContainerID) :
    fleet.buffered auth node = 1 ↔ fleet.buffers node auth = true := by
  unfold buffered
  split
  · next h => exact iff_of_true rfl h
  · next h => exact iff_of_false Nat.zero_ne_one h

/-- A container hands the payload to the session's connection once when it
goes through all connections of the user, and to no other user's session. -/
theorem times_userConns (node : ContainerID) (userID : Bytes) :
    times auth payload
      (((fleet.nodes node).connections.getAllUserConn userID).flatMap
        fun entry => fleet.handOver ⟨userID, entry.1⟩ payload entry.2) =
      if auth.userID = userID then fleet.live auth payload node else 0 := by
  split
  · next huser =>
    subst huser
    have hne : ∀ entry : Bytes × ConnID, entry.1 ≠ auth.instanceID →
        times auth payload (fleet.handOver ⟨auth.userID, entry.1⟩ payload
          entry.2) = 0 := by
      intro entry hentry
      refine fleet.times_handOver_of_ne auth payload (fun heq => hentry ?_) _
      exact congrArg WebsocketAuth.instanceID heq
    unfold live
    cases hconn : fleet.conn node auth with
    | none =>
      refine times_flatMap_eq_zero fun entry hentry => hne entry ?_
      rintro hinstance
      have hget : fleet.conn node auth = some entry.2 :=
        NestedMap.mem_inner.mp (hinstance ▸ hentry)
      rw [hconn] at hget
      cases hget
    | some conn =>
      have hmem : (auth.instanceID, conn) ∈
          (fleet.nodes node).connections.getAllUserConn auth.userID :=
        NestedMap.mem_inner.mpr hconn
      refine times_flatMap_eq_single
        (List.Nodup.of_map _ (NestedMap.nodup_keys_inner _ _)) hmem
        fun entry hentry hother => hne entry fun hinstance => hother ?_
      have hget : fleet.conn node auth = some entry.2 :=
        NestedMap.mem_inner.mp (hinstance ▸ hentry)
      rw [hconn] at hget
      exact Prod.ext hinstance (Option.some.inj hget).symm
  · next huser =>
    refine times_flatMap_eq_zero fun entry _ =>
      fleet.times_handOver_of_ne auth payload (fun heq => huser ?_) _
    exact (congrArg WebsocketAuth.userID heq).symm

theorem times_tempSessions (node : ContainerID) (userID : Bytes) :
    times auth payload
      (((fleet.nodes node).hub.getSessions userID).map fun instanceID =>
        Effect.save ⟨userID, instanceID⟩ payload) =
      if auth.userID = userID then fleet.buffered auth node else 0 := by
  have hnodup : ((fleet.nodes node).hub.getSessions userID).Nodup :=
    NestedMap.nodup_keys_inner _ _
  rw [times, List.countP_map]
  split
  · next huser =>
    subst huser
    have hcount : List.countP (reaches auth payload ∘ fun instanceID =>
          Effect.save ⟨auth.userID, instanceID⟩ payload)
        ((fleet.nodes node).hub.getSessions auth.userID) =
        ((fleet.nodes node).hub.getSessions auth.userID).count
          auth.instanceID := by
      refine List.countP_congr fun instanceID _ => ?_
      simp [reaches, ConnectionMap.eq_iff_ids]
    rw [hcount, hnodup.count, buffered]
    refine if_congr ?_ rfl rfl
    rw [Hub.mem_getSessions]
    rfl
  · next huser =>
    rw [List.countP_eq_zero]
    intro instanceID _
    have hne : ¬ userID = auth.userID := fun h => huser h.symm
    simp [reaches, ConnectionMap.eq_iff_ids, hne]

/-- What the handler of `SendToUser` does for a session. -/
theorem times_handle_sendToUser (node : ContainerID) (userID : Bytes) :
    times auth payload (fleet.handle node (.sendToUser userID payload)) =
      if auth.userID = userID then
        fleet.live auth payload node + fleet.buffered auth node
      else 0 := by
  have hboth : fleet.handle node (.sendToUser userID payload) =
      (((fleet.nodes node).connections.getAllUserConn userID).flatMap
        fun entry => fleet.handOver ⟨userID, entry.1⟩ payload entry.2) ++
      ((fleet.nodes node).hub.getSessions userID).map fun instanceID =>
        .save ⟨userID, instanceID⟩ payload := by
    simp only [handle]
    split
    · next hempty => rw [hempty.1, hempty.2]; rfl
    · rfl
  have hconns := fleet.times_userConns auth payload node userID
  have htemp := fleet.times_tempSessions auth payload node userID
  rw [times] at hconns htemp
  rw [hboth, times, List.countP_append, hconns, htemp]
  split <;> rfl

/-- What the handler of `SendToUsers` does for a session. -/
theorem times_handle_sendToUsers (node : ContainerID)
    (userIDs : List Bytes) :
    times auth payload (fleet.handle node (.sendToUsers userIDs payload)) =
      userIDs.count auth.userID * fleet.live auth payload node := by
  induction userIDs with
  | nil => simp [handle, times]
  | cons userID rest ih =>
    have hsplit : fleet.handle node (.sendToUsers (userID :: rest) payload) =
        (((fleet.nodes node).connections.getAllUserConn userID).flatMap
          fun entry => fleet.handOver ⟨userID, entry.1⟩ payload entry.2) ++
        fleet.handle node (.sendToUsers rest payload) := rfl
    have hconns := fleet.times_userConns auth payload node userID
    rw [times] at hconns ih
    rw [hsplit, times, List.countP_append, hconns, ih, List.count_cons]
    by_cases huser : auth.userID = userID
    · simp only [huser, if_true, beq_self_eq_true]
      rw [Nat.add_mul, Nat.one_mul, Nat.add_comm]
    · have hne : ¬ userID = auth.userID := fun h => huser h.symm
      simp [huser, hne]

theorem getConnection_eq_conn {auth : WebsocketAuth}
    (huser : auth.userID ≠ []) (node : ContainerID) :
    (fleet.nodes node).connections.getConnection auth =
      fleet.conn node auth := by
  have hanon : auth.isAnonymous = false := decide_eq_false huser
  simp [ConnectionMap.getConnection, hanon, conn]

/-- What the handler of `SendToSession` does for its session. -/
theorem times_handle_sendToSession {auth : WebsocketAuth}
    (huser : auth.userID ≠ []) (hinstance : auth.instanceID ≠ [])
    (payload : Bytes) (node : ContainerID) :
    times auth payload (fleet.handle node
        (.sendToSession auth.userID auth.instanceID payload)) =
      if (fleet.conn node auth).isSome then fleet.live auth payload node
      else fleet.buffered auth node := by
  simp only [handle, userWebsocketAuth_eq_some huser hinstance,
    fleet.getConnection_eq_conn huser]
  cases hconn : fleet.conn node auth with
  | some conn => simp [live, hconn]
  | none =>
    simp only [Option.isSome_none, Bool.false_eq_true, if_false, buffered,
      buffers]
    by_cases hregistered : (fleet.nodes node).hub.isRegistered auth.userID
        auth.instanceID = true
    · simp [hregistered, times, reaches]
    · simp [hregistered, times]

/-- Connections and hub entries match the store: a connection belongs to a
connected row, an entry to a temporarily disconnected one, and the row's
holder is the container that has it. -/
structure Consistent : Prop where
  conn : ∀ node auth, (fleet.conn node auth).isSome = true →
    ∃ row, fleet.row auth = some row ∧ row.status = .connected ∧
      row.holderID = some node
  buffers : ∀ node auth, fleet.buffers node auth = true →
    ∃ row, fleet.row auth = some row ∧ row.status = .tempDisconnected ∧
      row.holderID = some node

variable {fleet auth}

variable {node : ContainerID}

theorem conn_isSome_of_live {payload : Bytes}
    (hlive : fleet.live auth payload node ≠ 0) :
    (fleet.conn node auth).isSome = true := by
  cases hconn : fleet.conn node auth with
  | none => exact absurd (by simp [live, hconn]) hlive
  | some conn => rfl

theorem buffers_of_buffered (hbuffered : fleet.buffered auth node ≠ 0) :
    fleet.buffers node auth = true := by
  by_contra hnot
  exact hbuffered (if_neg hnot)

/-- Only the holder of its row has anything of a session. -/
theorem Consistent.eq_zero_of_not_holder (hconsistent : fleet.Consistent)
    (payload : Bytes) (hholder : ∀ row, fleet.row auth = some row →
      row.holderID ≠ some node) :
    fleet.live auth payload node + fleet.buffered auth node = 0 := by
  rw [Nat.add_eq_zero_iff]
  constructor
  · by_contra hlive
    obtain ⟨row, hrow, _, hnode⟩ :=
      hconsistent.conn node auth (conn_isSome_of_live hlive)
    exact hholder row hrow hnode
  · by_contra hbuffered
    obtain ⟨row, hrow, _, hnode⟩ :=
      hconsistent.buffers node auth (buffers_of_buffered hbuffered)
    exact hholder row hrow hnode

/-- A session does not have a connection and a hub entry at once. -/
theorem Consistent.not_both (hconsistent : fleet.Consistent)
    (hconn : (fleet.conn node auth).isSome = true) :
    fleet.buffers node auth = false := by
  cases hbuffers : fleet.buffers node auth with
  | false => rfl
  | true =>
    obtain ⟨row, hrow, hconnected, _⟩ := hconsistent.conn node auth hconn
    obtain ⟨row', hrow', htemp, _⟩ :=
      hconsistent.buffers node auth hbuffers
    rw [hrow] at hrow'
    cases hrow'
    rw [hconnected] at htemp
    cases htemp

theorem Consistent.handle_sendToSession (hconsistent : fleet.Consistent)
    (huser : auth.userID ≠ []) (hinstance : auth.instanceID ≠ [])
    (payload : Bytes) (node : ContainerID) :
    times auth payload (fleet.handle node
        (.sendToSession auth.userID auth.instanceID payload)) =
      fleet.live auth payload node + fleet.buffered auth node := by
  rw [fleet.times_handle_sendToSession huser hinstance]
  split
  · next hconn =>
    simp [buffered, hconsistent.not_both hconn]
  · next hconn =>
    have hlive : fleet.live auth payload node = 0 := by
      by_contra hlive
      exact hconn (conn_isSome_of_live hlive)
    rw [hlive, Nat.zero_add]

section SendToUser

variable (hconsistent : fleet.Consistent) (localID : ContainerID)
  (payload : Bytes)

include hconsistent

/-- `SendToUser` reaches a session through the holder of its row alone. -/
theorem Consistent.times_sendToUser {row : ActiveConnection}
    {node : ContainerID} (hrow : fleet.row auth = some row)
    (hholder : row.holderID = some node)
    (haddressed : fleet.Addressed localID auth.userID node) :
    times auth payload (fleet.sendToUser localID auth.userID payload) =
      fleet.live auth payload node + fleet.buffered auth node := by
  have htarget := (fleet.mem_userTargets localID auth.userID node).mpr
    haddressed
  have hsingle : times auth payload
      (fleet.sendToUser localID auth.userID payload) =
      times auth payload
        (fleet.handle node (.sendToUser auth.userID payload)) := by
    refine times_flatMap_eq_single (fleet.nodup_userTargets localID _)
      htarget fun other _ hne => ?_
    rw [times_handle_sendToUser, if_pos rfl]
    refine hconsistent.eq_zero_of_not_holder payload fun row' hrow' => ?_
    rw [hrow] at hrow'
    cases hrow'
    rw [hholder]
    exact fun heq => hne (Option.some.inj heq).symm
  rw [hsingle, times_handle_sendToUser, if_pos rfl]

/-- It does not reach a session whose row's holder it does not address. -/
theorem Consistent.times_sendToUser_eq_zero
    (hunaddressed : ∀ row node, fleet.row auth = some row →
      row.holderID = some node →
        ¬ fleet.Addressed localID auth.userID node) :
    times auth payload (fleet.sendToUser localID auth.userID payload) =
      0 := by
  refine times_flatMap_eq_zero fun node hnode => ?_
  rw [times_handle_sendToUser, if_pos rfl]
  refine hconsistent.eq_zero_of_not_holder payload fun row hrow hholder => ?_
  exact hunaddressed row node hrow hholder
    ((fleet.mem_userTargets localID auth.userID node).mp hnode)

end SendToUser

theorem row_of_visibleRow {row : ActiveConnection}
    (hvisible : fleet.visibleRow auth = some row) :
    fleet.row auth = some row :=
  ((ActiveConnTable.getInstanceConnection_eq_some _ _).mp hvisible).1

/-- For a session with a visible row, sending to its user reaches it as
sending to the session does exactly when the row names a holder. -/
theorem sendToUser_agrees_iff (hconsistent : fleet.Consistent)
    (localID : ContainerID) (payload : Bytes) {row : ActiveConnection}
    (huser : auth.userID ≠ []) (hinstance : auth.instanceID ≠ [])
    (hvisible : fleet.visibleRow auth = some row) :
    ∃ effects, fleet.sendToSession localID auth.userID auth.instanceID
        payload = some effects ∧
      ((Reached auth payload
          (fleet.sendToUser localID auth.userID payload) ↔
        Reached auth payload effects) ↔ row.holderID ≠ none) := by
  have hrow := row_of_visibleRow hvisible
  have hagree : ∀ node, row.holderID = some node →
      fleet.Addressed localID auth.userID node →
      (Reached auth payload (fleet.sendToUser localID auth.userID payload) ↔
        Reached auth payload (fleet.handle node
          (.sendToSession auth.userID auth.instanceID payload))) := by
    intro node hholder haddressed
    rw [reached_iff, reached_iff,
      hconsistent.times_sendToUser localID payload hrow hholder haddressed,
      hconsistent.handle_sendToSession huser hinstance]
  simp only [sendToSession, userWebsocketAuth_eq_some huser hinstance,
    fleet.getConnection_eq_conn huser, hvisible]
  cases hconn : fleet.conn localID auth with
  | some conn =>
    have hsome : (fleet.conn localID auth).isSome = true := by
      rw [hconn]
      rfl
    obtain ⟨row', hrow', _, hholder⟩ :=
      hconsistent.conn localID auth hsome
    rw [hrow] at hrow'
    cases hrow'
    refine ⟨_, rfl, iff_of_true (hagree localID hholder ?_) ?_⟩
    · exact .inr ⟨rfl, auth.instanceID, hsome⟩
    · rw [hholder]
      exact Option.some_ne_none _
  | none =>
    cases hholder : row.holderID with
    | none =>
      refine ⟨_, rfl, iff_of_false ?_ (not_not.mpr rfl)⟩
      have hunheld : ∀ row' node, fleet.row auth = some row' →
          row'.holderID = some node →
            ¬ fleet.Addressed localID auth.userID node := by
        intro row' node hrow' hnode
        rw [hrow] at hrow'
        cases hrow'
        rw [hholder] at hnode
        cases hnode
      have hzero :=
        hconsistent.times_sendToUser_eq_zero localID payload hunheld
      intro hiff
      exact reached_iff.mp (hiff.mpr (.inr List.mem_cons_self)) hzero
    | some node =>
      refine ⟨_, rfl, iff_of_true ?_ (Option.some_ne_none _)⟩
      have hone := hagree node hholder
        (.inl ⟨auth, rfl, row, hvisible, hholder⟩)
      simpa [publish] using hone

end Fleet

/-- A container with no connection and no buffered session. -/
def emptyNode : Cluster.Node := { hub := { ttl := 10 } }

/-- One session, whose row is given, with its connection if it has one. -/
def oneSession (row : ActiveConnection)
    (connections : ContainerID → ConnectionMap) : Fleet where
  env := { cutoff := 100
           store := fun _ => AList.insert Cluster.alice row ∅
           wait := fun _ => 0
           sendOk := fun _ => true }
  now := 0
  nodes node := { emptyNode with connections := connections node }

theorem row_oneSession (row : ActiveConnection)
    (connections : ContainerID → ConnectionMap) :
    (oneSession row connections).row Cluster.alice = some row :=
  AList.lookup_insert _

theorem buffers_oneSession (row : ActiveConnection)
    (connections : ContainerID → ConnectionMap) (node : ContainerID)
    (auth : WebsocketAuth) :
    (oneSession row connections).buffers node auth = false := by
  simp [Fleet.buffers, oneSession, emptyNode, Hub.isRegistered]

/-- Connected in container 1. -/
def connectedFleet : Fleet :=
  oneSession ⟨some 1, .connected, 0⟩ fun node =>
    if node = 1 then ConnectionMap.addConnection {} Cluster.alice 5 else {}

theorem consistent_connectedFleet : connectedFleet.Consistent where
  conn := by
    intro node auth hconn
    by_cases hnode : node = 1
    · subst hnode
      have hget : (if auth.userID = [1] ∧ auth.instanceID = [2] then some 5
          else none : Option ConnID).isSome = true := by
        simpa [connectedFleet, oneSession, Fleet.conn, emptyNode,
          ConnectionMap.addConnection, Cluster.alice, NestedMap.get_set,
          WebsocketAuth.isAnonymous] using hconn
      split at hget
      · next hids =>
        have hauth : auth = Cluster.alice := ConnectionMap.eq_iff_ids.mpr hids
        subst hauth
        exact ⟨_, row_oneSession _ _, rfl, rfl⟩
      · cases hget
    · simp [connectedFleet, oneSession, Fleet.conn, emptyNode, hnode] at hconn
  buffers := by
    intro node auth hbuffers
    rw [connectedFleet, buffers_oneSession] at hbuffers
    cases hbuffers

/-- Container 0 sends to a session connected in container 1. -/
theorem sendToUser_agrees_connected :
    ∃ effects, connectedFleet.sendToSession 0 [1] [2] [7] = some effects ∧
      ((Reached Cluster.alice [7] (connectedFleet.sendToUser 0 [1] [7]) ↔
        Reached Cluster.alice [7] effects) ↔
          (some 1 : Option ContainerID) ≠ none) := by
  have hvisible : connectedFleet.visibleRow Cluster.alice =
      some ⟨some 1, .connected, 0⟩ := by decide +kernel
  exact Fleet.sendToUser_agrees_iff consistent_connectedFleet 0 [7]
    (by decide) (by decide) hvisible

/-- The session's container has shut down and cleared the holder. -/
def transferringFleet : Fleet :=
  oneSession ⟨none, .transferring, 0⟩ fun _ => {}

theorem consistent_transferringFleet : transferringFleet.Consistent where
  conn := by
    intro node auth hconn
    simp [transferringFleet, oneSession, Fleet.conn, emptyNode] at hconn
  buffers := by
    intro node auth hbuffers
    rw [transferringFleet, buffers_oneSession] at hbuffers
    cases hbuffers

/-- Sending to the session saves the payload, sending to its user drops it. -/
theorem sendToUser_skips_transferring :
    transferringFleet.Consistent ∧
    transferringFleet.visibleRow Cluster.alice =
      some ⟨none, .transferring, 0⟩ ∧
    transferringFleet.sendToSession 0 [1] [2] [7] =
      some [.save Cluster.alice [7]] ∧
    transferringFleet.sendToUser 0 [1] [7] = [] := by
  refine ⟨consistent_transferringFleet, ?_, ?_, ?_⟩ <;> decide +kernel

end Routing

end Pipewave
