/-
Sending to a list of users against sending to each of them.  The batch runs
its handler once per listed occurrence, looks at connections only, and goes to
every container that holds a row of any listed user.
-/
import Mathlib.Data.List.Dedup
import Pipewave.RoutingEffects

namespace Pipewave

namespace Routing

namespace Fleet

variable {fleet : Fleet} {auth : WebsocketAuth}

/-- The condition under which the differences do not show. -/
structure BatchMatches (fleet : Fleet) (localID : ContainerID)
    (userIDs : List Bytes) : Prop where
  /-- A user with a connection that keeps the payload is listed once. -/
  once : ∀ auth node conn, auth.userID ∈ userIDs →
    fleet.conn node auth = some conn → fleet.Keeps auth conn →
    fleet.Addressed localID auth.userID node →
      userIDs.count auth.userID = 1
  /-- No session waits in the hub of a container `SendToUser` addresses. -/
  unbuffered : ∀ auth node, auth.userID ∈ userIDs →
    fleet.buffers node auth = true →
      ¬ fleet.Addressed localID auth.userID node
  /-- No connection `SendToUser` misses is in a container that the rows of
  another listed user bring into the batch. -/
  noStray : ∀ auth node conn, auth.userID ∈ userIDs →
    fleet.conn node auth = some conn → fleet.Keeps auth conn →
    ¬ fleet.Addressed localID auth.userID node →
      ∀ userID ∈ userIDs, ¬ fleet.HoldsVisible userID node

theorem times_sendToUser_other (localID : ContainerID) (payload : Bytes)
    {userID : Bytes} (hne : auth.userID ≠ userID) :
    times auth payload (fleet.sendToUser localID userID payload) = 0 := by
  refine times_flatMap_eq_zero fun node _ => ?_
  rw [times_handle_sendToUser, if_neg hne]

variable {userIDs : List Bytes} {node localID : ContainerID} {payload : Bytes}

/-- Of the separate sends only the one to the session's user counts. -/
theorem times_each (localID : ContainerID) (payload : Bytes)
    (hlisted : auth.userID ∈ userIDs) :
    times auth payload (userIDs.dedup.flatMap fun userID =>
        fleet.sendToUser localID userID payload) =
      times auth payload (fleet.sendToUser localID auth.userID payload) :=
  times_flatMap_eq_single (List.nodup_dedup userIDs)
    (List.mem_dedup.mpr hlisted) fun _ _ hne =>
      times_sendToUser_other localID payload hne.symm

theorem times_each_unlisted (localID : ContainerID) (payload : Bytes)
    (hlisted : auth.userID ∉ userIDs) :
    times auth payload (userIDs.dedup.flatMap fun userID =>
        fleet.sendToUser localID userID payload) = 0 := by
  refine times_flatMap_eq_zero fun userID huser =>
    times_sendToUser_other localID payload ?_
  rintro rfl
  exact hlisted (List.mem_dedup.mp huser)

theorem Consistent.live_eq_zero (hconsistent : fleet.Consistent)
    (payload : Bytes) (hholder : ∀ row, fleet.row auth = some row →
      row.holderID ≠ some node) : fleet.live auth payload node = 0 :=
  (Nat.add_eq_zero_iff.mp
    (hconsistent.eq_zero_of_not_holder payload hholder)).1

section Batch

variable (hconsistent : fleet.Consistent) (localID : ContainerID)
  (userIDs : List Bytes) (payload : Bytes)

include hconsistent

theorem Consistent.times_sendToUsers {row : ActiveConnection}
    {node : ContainerID} (hrow : fleet.row auth = some row)
    (hholder : row.holderID = some node)
    (htarget : node ∈ fleet.usersTargets localID userIDs) :
    times auth payload (fleet.sendToUsers localID userIDs payload) =
      userIDs.count auth.userID * fleet.live auth payload node := by
  rw [← fleet.times_handle_sendToUsers auth payload node userIDs]
  refine times_flatMap_eq_single (fleet.nodup_usersTargets localID _)
    htarget fun other _ hne => ?_
  have hlive : fleet.live auth payload other = 0 := by
    refine hconsistent.live_eq_zero payload fun row' hrow' => ?_
    rw [hrow] at hrow'
    cases hrow'
    rw [hholder]
    exact fun heq => hne (Option.some.inj heq).symm
  rw [times_handle_sendToUsers, hlive, Nat.mul_zero]

theorem Consistent.times_sendToUsers_eq_zero
    (huntargeted : ∀ row node, fleet.row auth = some row →
      row.holderID = some node → fleet.live auth payload node ≠ 0 →
        node ∉ fleet.usersTargets localID userIDs) :
    times auth payload (fleet.sendToUsers localID userIDs payload) = 0 := by
  refine times_flatMap_eq_zero fun node hnode => ?_
  have hlive : fleet.live auth payload node = 0 := by
    by_contra hlive
    obtain ⟨row, hrow, _, hholder⟩ :=
      hconsistent.conn node auth (conn_isSome_of_live hlive)
    exact huntargeted row node hrow hholder hlive hnode
  rw [times_handle_sendToUsers, hlive, Nat.mul_zero]

end Batch

theorem hasConn_of_live (hlive : fleet.live auth payload node ≠ 0) :
    fleet.HasConn auth.userID node :=
  ⟨auth.instanceID, conn_isSome_of_live hlive⟩

/-- Where a connection of a listed user is, the batch gets to if the separate
send does. -/
theorem mem_usersTargets_of_addressed (hlisted : auth.userID ∈ userIDs)
    (hlive : fleet.live auth payload node ≠ 0)
    (haddressed : fleet.Addressed localID auth.userID node) :
    node ∈ fleet.usersTargets localID userIDs := by
  rw [mem_usersTargets]
  by_cases hnode : node = localID
  · exact .inl ⟨hnode, auth.userID, hlisted, hasConn_of_live hlive⟩
  · rcases haddressed with hholds | ⟨hlocal, _⟩
    · exact .inr ⟨hnode, auth.userID, hlisted, hholds⟩
    · exact absurd hlocal hnode

theorem mem_usersTargets_of_stray (hlive : fleet.live auth payload node ≠ 0)
    (hunaddressed : ¬ fleet.Addressed localID auth.userID node) :
    node ∈ fleet.usersTargets localID userIDs ↔
      ∃ userID ∈ userIDs, fleet.HoldsVisible userID node := by
  have hnode : node ≠ localID := fun h =>
    hunaddressed (.inr ⟨h, hasConn_of_live hlive⟩)
  rw [mem_usersTargets]
  simp [hnode]

section Exact

variable (hconsistent : fleet.Consistent) {localID : ContainerID}
  {userIDs : List Bytes} {payload : Bytes}

include hconsistent

theorem Consistent.agrees_of_batchMatches
    (hmatches : fleet.BatchMatches localID userIDs) (auth : WebsocketAuth) :
    times auth payload (fleet.sendToUsers localID userIDs payload) =
      times auth payload (userIDs.dedup.flatMap fun userID =>
        fleet.sendToUser localID userID payload) := by
  by_cases hlisted : auth.userID ∈ userIDs
  · rw [times_each localID payload hlisted]
    by_cases haddressed : ∃ row node, fleet.row auth = some row ∧
        row.holderID = some node ∧
        fleet.Addressed localID auth.userID node
    · obtain ⟨row, node, hrow, hholder, haddressed⟩ := haddressed
      have hbuffered : fleet.buffered auth node = 0 := by
        by_contra hbuffered
        exact hmatches.unbuffered auth node hlisted
          (buffers_of_buffered hbuffered) haddressed
      rw [hconsistent.times_sendToUser localID payload hrow hholder
        haddressed, hbuffered, Nat.add_zero]
      rcases fleet.live_eq_zero_or_one auth payload node with hlive | hlive
      · rw [hlive]
        refine hconsistent.times_sendToUsers_eq_zero localID userIDs payload
          fun row' node' hrow' hholder' hlive' => ?_
        rw [hrow] at hrow'
        cases hrow'
        rw [hholder] at hholder'
        cases hholder'
        exact absurd hlive hlive'
      · have hne : fleet.live auth payload node ≠ 0 := by
          rw [hlive]
          exact Nat.one_ne_zero
        obtain ⟨conn, hconn, hkeeps⟩ :=
          (fleet.live_eq_one_iff auth payload node).mp hlive
        rw [hconsistent.times_sendToUsers localID userIDs payload hrow
          hholder (mem_usersTargets_of_addressed hlisted hne haddressed),
          hmatches.once auth node conn hlisted hconn hkeeps haddressed,
          Nat.one_mul]
    · have hzero := hconsistent.times_sendToUser_eq_zero localID payload
        fun row node hrow hholder hnode =>
          haddressed ⟨row, node, hrow, hholder, hnode⟩
      rw [hzero]
      refine hconsistent.times_sendToUsers_eq_zero localID userIDs payload
        fun row node hrow hholder hlive => ?_
      have hunaddressed : ¬ fleet.Addressed localID auth.userID node :=
        fun h => haddressed ⟨row, node, hrow, hholder, h⟩
      have hone := (fleet.live_eq_zero_or_one auth payload node).resolve_left
        hlive
      obtain ⟨conn, hconn, hkeeps⟩ :=
        (fleet.live_eq_one_iff auth payload node).mp hone
      rw [mem_usersTargets_of_stray hlive hunaddressed]
      rintro ⟨userID, huser, hholds⟩
      exact hmatches.noStray auth node conn hlisted hconn hkeeps hunaddressed
        userID huser hholds
  · rw [times_each_unlisted localID payload hlisted]
    refine times_flatMap_eq_zero fun node _ => ?_
    rw [times_handle_sendToUsers, List.count_eq_zero_of_not_mem hlisted,
      Nat.zero_mul]

theorem Consistent.batchMatches_of_agrees
    (hagrees : ∀ auth,
      times auth payload (fleet.sendToUsers localID userIDs payload) =
        times auth payload (userIDs.dedup.flatMap fun userID =>
          fleet.sendToUser localID userID payload)) :
    fleet.BatchMatches localID userIDs where
  once := by
    intro auth node conn hlisted hconn hkeeps haddressed
    have hsome : (fleet.conn node auth).isSome = true :=
      Option.isSome_iff_exists.mpr ⟨conn, hconn⟩
    have hlive := (fleet.live_eq_one_iff auth payload node).mpr
      ⟨conn, hconn, hkeeps⟩
    have hne := hlive.trans_ne Nat.one_ne_zero
    obtain ⟨row, hrow, _, hholder⟩ := hconsistent.conn node auth hsome
    have heq := hagrees auth
    rw [times_each localID payload hlisted,
      hconsistent.times_sendToUser localID payload hrow hholder haddressed,
      hconsistent.times_sendToUsers localID userIDs payload hrow hholder
        (mem_usersTargets_of_addressed hlisted hne haddressed), hlive,
      buffered, hconsistent.not_both hsome] at heq
    simpa using heq
  unbuffered := by
    intro auth node hlisted hbuffers haddressed
    obtain ⟨row, hrow, _, hholder⟩ := hconsistent.buffers node auth hbuffers
    have hlive : fleet.live auth payload node = 0 := by
      by_contra hlive
      have hnot := hconsistent.not_both (conn_isSome_of_live hlive)
      rw [hbuffers] at hnot
      cases hnot
    have heq := hagrees auth
    have hbatch := hconsistent.times_sendToUsers_eq_zero localID userIDs
      payload fun row' node' hrow' hholder' hlive' => by
        rw [hrow] at hrow'
        cases hrow'
        rw [hholder] at hholder'
        cases hholder'
        exact absurd hlive hlive'
    rw [times_each localID payload hlisted,
      hconsistent.times_sendToUser localID payload hrow hholder haddressed,
      hbatch, hlive, (fleet.buffered_eq_one_iff auth node).mpr hbuffers]
      at heq
    cases heq
  noStray := by
    intro auth node conn hlisted hconn hkeeps hunaddressed userID huser hholds
    have hlive := (fleet.live_eq_one_iff auth payload node).mpr
      ⟨conn, hconn, hkeeps⟩
    have hne := hlive.trans_ne Nat.one_ne_zero
    obtain ⟨row, hrow, _, hholder⟩ := hconsistent.conn node auth
      (conn_isSome_of_live hne)
    have heq := hagrees auth
    have hsingle := hconsistent.times_sendToUser_eq_zero localID payload
      fun row' node' hrow' hholder' => by
        rw [hrow] at hrow'
        cases hrow'
        rw [hholder] at hholder'
        cases hholder'
        exact hunaddressed
    rw [times_each localID payload hlisted, hsingle,
      hconsistent.times_sendToUsers localID userIDs payload hrow hholder
        ((mem_usersTargets_of_stray hne hunaddressed).mpr
          ⟨userID, huser, hholds⟩), hlive, Nat.mul_one] at heq
    exact List.count_eq_zero.mp heq hlisted

/-- The batch reaches every session as often as the separate sends exactly
when the three differences do not show. -/
theorem sendToUsers_agrees_iff :
    (∀ auth,
      times auth payload (fleet.sendToUsers localID userIDs payload) =
        times auth payload (userIDs.dedup.flatMap fun userID =>
          fleet.sendToUser localID userID payload)) ↔
      fleet.BatchMatches localID userIDs :=
  ⟨hconsistent.batchMatches_of_agrees, hconsistent.agrees_of_batchMatches⟩

end Exact

end Fleet

theorem visibleRow_connectedFleet :
    connectedFleet.visibleRow Cluster.alice =
      some ⟨some 1, .connected, 0⟩ := by decide +kernel

theorem batchMatches_connectedFleet :
    connectedFleet.BatchMatches 0 [[1]] where
  once := by
    intro auth node conn hlisted _ _ _
    rw [List.mem_singleton.mp hlisted]
    rfl
  unbuffered := by
    intro auth node _ hbuffers
    rw [connectedFleet, buffers_oneSession] at hbuffers
    cases hbuffers
  noStray := by
    intro auth node conn hlisted hconn _ hunaddressed
    obtain ⟨row, hrow, _, hholder⟩ := consistent_connectedFleet.conn node auth
      (Option.isSome_iff_exists.mpr ⟨conn, hconn⟩)
    have hnode : node = 1 := by
      by_contra hnode
      simp [connectedFleet, oneSession, Fleet.conn, emptyNode, hnode] at hconn
    subst hnode
    exact absurd (.inl ⟨Cluster.alice, (List.mem_singleton.mp hlisted).symm,
      _, visibleRow_connectedFleet, rfl⟩) hunaddressed

/-- One user listed once, with no session in a hub. -/
theorem sendToUsers_agrees_connected :
    times Cluster.alice [7] (connectedFleet.sendToUsers 0 [[1]] [7]) =
      times Cluster.alice [7]
        (([[1]] : List Bytes).dedup.flatMap fun userID =>
          connectedFleet.sendToUser 0 userID [7]) :=
  (Fleet.sendToUsers_agrees_iff consistent_connectedFleet).mpr
    batchMatches_connectedFleet Cluster.alice

/-- The session waits in the hub of container 0. -/
def bufferedFleet : Fleet :=
  { oneSession ⟨some 0, .tempDisconnected, 0⟩ fun _ => {} with
    nodes := fun node =>
      if node = 0 then { emptyNode with hub := { emptyNode.hub with
        registry := NestedMap.set ∅ [1] [2] ⟨0, 1⟩ } }
      else emptyNode }

theorem consistent_bufferedFleet : bufferedFleet.Consistent where
  conn := by
    intro node auth hconn
    by_cases hnode : node = 0 <;>
      simp [bufferedFleet, Fleet.conn, emptyNode, hnode] at hconn
  buffers := by
    intro node auth hbuffers
    by_cases hnode : node = 0
    · subst hnode
      have hget : (if auth.userID = [1] ∧ auth.instanceID = [2] then
          some ⟨0, 1⟩ else none : Option Entry).isSome = true := by
        simpa [bufferedFleet, Fleet.buffers, Hub.isRegistered, emptyNode,
          NestedMap.get_set] using hbuffers
      split at hget
      · next hids =>
        have hauth : auth = Cluster.alice := ConnectionMap.eq_iff_ids.mpr hids
        subst hauth
        exact ⟨_, row_oneSession _ fun _ => {}, rfl, rfl⟩
      · cases hget
    · simp [bufferedFleet, Fleet.buffers, Hub.isRegistered, emptyNode,
        hnode] at hbuffers

/-- A user listed twice gets the payload twice, and a temporarily disconnected
session does not get it at all; sending to the user does it once each time. -/
theorem sendToUsers_differs :
    connectedFleet.Consistent ∧ bufferedFleet.Consistent ∧
    times Cluster.alice [7]
      (connectedFleet.sendToUsers 0 [[1], [1]] [7]) = 2 ∧
    times Cluster.alice [7]
      (([[1], [1]] : List Bytes).dedup.flatMap fun userID =>
        connectedFleet.sendToUser 0 userID [7]) = 1 ∧
    times Cluster.alice [7]
      (bufferedFleet.sendToUsers 0 [[1]] [7]) = 0 ∧
    times Cluster.alice [7]
      (([[1]] : List Bytes).dedup.flatMap fun userID =>
        bufferedFleet.sendToUser 0 userID [7]) = 1 := by
  refine ⟨consistent_connectedFleet, consistent_bufferedFleet, ?_, ?_, ?_, ?_⟩
  all_goals decide +kernel

end Routing

end Pipewave
