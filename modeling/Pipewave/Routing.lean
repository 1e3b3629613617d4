/-
Sending to a session, to a user and to a list of users.  The sender resolves
which containers to address from the store and its own registry, each of them
runs a handler, and a payload reaches a session when it is sent on its
connection or saved for it.
-/
import Pipewave.Cluster
import Pipewave.SendOrSave

namespace Pipewave

namespace Routing

open SendOrSave (Effect Surroundings)

/-- The containers at the moment of a send, in surroundings that go on. -/
structure Fleet where
  env : Surroundings
  now : Int
  nodes : ContainerID → Cluster.Node

inductive Message where
  | sendToSession (userID instanceID payload : Bytes)
  | sendToUser (userID payload : Bytes)
  | sendToUsers (userIDs : List Bytes) (payload : Bytes)
deriving Repr, DecidableEq

namespace Fleet

variable (fleet : Fleet)

/-- The connection a container has for an authenticated session. -/
def conn (node : ContainerID) (auth : WebsocketAuth) : Option ConnID :=
  (fleet.nodes node).connections.userConn.get auth.userID auth.instanceID

/-- The session waits in a container's hub. -/
def buffers (node : ContainerID) (auth : WebsocketAuth) : Bool :=
  (fleet.nodes node).hub.isRegistered auth.userID auth.instanceID

def row (auth : WebsocketAuth) : Option ActiveConnection :=
  (fleet.env.store fleet.now).lookup auth

def visibleRow (auth : WebsocketAuth) : Option ActiveConnection :=
  fleet.env.read auth fleet.now

/-- `sendOrSaveMessageHub` for one connection. -/
def handOver (auth : WebsocketAuth) (payload : Bytes) (conn : ConnID) :
    List Effect :=
  SendOrSave.sendOrSaveMessageHub fleet.env auth payload conn fleet.now

/-- The handlers of the broadcast channel. -/
def handle (node : ContainerID) : Message → List Effect
  | .sendToSession userID instanceID payload =>
    match userWebsocketAuth userID instanceID with
    | none => []
    | some auth =>
      match (fleet.nodes node).connections.getConnection auth with
      | some conn => fleet.handOver auth payload conn
      | none =>
        if (fleet.nodes node).hub.isRegistered userID instanceID then
          [.save auth payload]
        else []
  | .sendToUser userID payload =>
    let connections :=
      (fleet.nodes node).connections.getAllUserConn userID
    let tempSessions := (fleet.nodes node).hub.getSessions userID
    if connections = [] ∧ tempSessions = [] then []
    else
      (connections.flatMap fun entry =>
        fleet.handOver ⟨userID, entry.1⟩ payload entry.2) ++
      tempSessions.map fun instanceID => .save ⟨userID, instanceID⟩ payload
  | .sendToUsers userIDs payload =>
    userIDs.flatMap fun userID =>
      ((fleet.nodes node).connections.getAllUserConn userID).flatMap
        fun entry => fleet.handOver ⟨userID, entry.1⟩ payload entry.2

end Fleet

/-- The loop of `findUserConn` over the rows of a user: whether to act locally
and which other containers to address. -/
def scanUser (localID : ContainerID) :
    List ActiveConnection → Bool → List ContainerID →
      Bool × List ContainerID
  | [], locally, containerIDs => (locally, containerIDs)
  | row :: rest, locally, containerIDs =>
    match row.holderID with
    | none => scanUser localID rest locally containerIDs
    | some holder =>
      if holder = localID then scanUser localID rest true containerIDs
      else if holder ∈ containerIDs then
        scanUser localID rest locally containerIDs
      else scanUser localID rest locally (containerIDs ++ [holder])

/-- The loop of `findMultiUserConn`; the empty holder is remembered too. -/
def scanUsers (localID : ContainerID) :
    List ActiveConnection → List (Option ContainerID) → List ContainerID →
      List ContainerID
  | [], _, containerIDs => containerIDs
  | row :: rest, seen, containerIDs =>
    if row.holderID ∈ seen then scanUsers localID rest seen containerIDs
    else
      match row.holderID with
      | none => scanUsers localID rest (none :: seen) containerIDs
      | some holder =>
        if holder = localID then
          scanUsers localID rest (some holder :: seen) containerIDs
        else scanUsers localID rest (some holder :: seen)
          (containerIDs ++ [holder])

namespace Fleet

variable (fleet : Fleet) (localID : ContainerID)

/-- Run the message in every container it was published to. -/
def publish (containerIDs : List ContainerID) (message : Message) :
    List Effect :=
  containerIDs.flatMap fun node => fleet.handle node message

/-- `SendToSession`, with all published messages handled; `none` is the panic
of `UserWebsocketAuth`. -/
def sendToSession (userID instanceID payload : Bytes) :
    Option (List Effect) :=
  let message := Message.sendToSession userID instanceID payload
  match userWebsocketAuth userID instanceID with
  | none => none
  | some auth =>
    match (fleet.nodes localID).connections.getConnection auth with
    | some _ => some (fleet.handle localID message)
    | none =>
      match fleet.visibleRow auth with
      | none => some []
      | some row =>
        match row.holderID with
        | none => some [.save auth payload]
        | some holder => some (fleet.publish [holder] message)

/-- The containers `SendToUser` has its handler run in. -/
def userTargets (userID : Bytes) : List ContainerID :=
  let rows := (fleet.env.store fleet.now).getActiveConnections userID
    fleet.env.cutoff fleet.now
  let connections :=
    (fleet.nodes localID).connections.getAllUserConn userID
  let found := scanUser localID rows (connections ≠ []) []
  (if found.1 then [localID] else []) ++ found.2

def sendToUser (userID payload : Bytes) : List Effect :=
  fleet.publish (fleet.userTargets localID userID)
    (.sendToUser userID payload)

/-- The containers `SendToUsers` has its handler run in. -/
def usersTargets (userIDs : List Bytes) : List ContainerID :=
  let rows := (fleet.env.store fleet.now).getActiveConnectionsByUserIDs
    userIDs fleet.env.cutoff fleet.now
  let locally := userIDs.any fun userID =>
    (fleet.nodes localID).connections.getAllUserConn userID ≠ []
  (if locally then [localID] else []) ++ scanUsers localID rows [] []

def sendToUsers (userIDs : List Bytes) (payload : Bytes) : List Effect :=
  fleet.publish (fleet.usersTargets localID userIDs)
    (.sendToUsers userIDs payload)

end Fleet

/-! ### The containers addressed -/

theorem scanUser_fst (localID : ContainerID) (rows : List ActiveConnection)
    (locally : Bool) (containerIDs : List ContainerID) :
    (scanUser localID rows locally containerIDs).1 = true ↔
      locally = true ∨ ∃ row ∈ rows, row.holderID = some localID := by
  induction rows generalizing locally containerIDs with
  | nil => simp [scanUser]
  | cons row rest ih =>
    cases hholder : row.holderID with
    | none => simp [scanUser, hholder, ih]
    | some holder =>
      by_cases hlocal : holder = localID
      · simp [scanUser, hholder, hlocal, ih]
      · by_cases hmem : holder ∈ containerIDs <;>
          simp [scanUser, hholder, hlocal, hmem, ih]

variable {localID node : ContainerID} {rows : List ActiveConnection}
  {containerIDs : List ContainerID}

theorem mem_scanUser_snd {locally : Bool} :
    node ∈ (scanUser localID rows locally containerIDs).2 ↔
      node ∈ containerIDs ∨
        (node ≠ localID ∧ ∃ row ∈ rows, row.holderID = some node) := by
  induction rows generalizing locally containerIDs with
  | nil => simp [scanUser]
  | cons row rest ih =>
    cases hholder : row.holderID with
    | none => simp [scanUser, hholder, ih]
    | some holder =>
      simp only [scanUser, hholder, List.mem_cons, exists_eq_or_imp,
        Option.some.injEq]
      split
      · next hlocal =>
        rw [ih]
        grind
      · split
        · next hlocal hmem =>
          rw [ih]
          grind
        · next hlocal hmem =>
          rw [ih]
          grind

theorem nodup_scanUser_snd {locally : Bool} (hnodup : containerIDs.Nodup) :
    (scanUser localID rows locally containerIDs).2.Nodup := by
  induction rows generalizing locally containerIDs with
  | nil => exact hnodup
  | cons row rest ih =>
    unfold scanUser
    split
    · exact ih hnodup
    · next holder hholder =>
      split
      · exact ih hnodup
      · split
        · exact ih hnodup
        · next hmem =>
          exact ih (List.nodup_append.mpr ⟨hnodup, List.nodup_singleton _,
            fun a ha b hb hab => hmem
              (List.mem_singleton.mp hb ▸ hab ▸ ha)⟩)

theorem mem_scanUsers {seen : List (Option ContainerID)}
    (hseen : ∀ node, node ≠ localID → some node ∈ seen →
      node ∈ containerIDs) :
    node ∈ scanUsers localID rows seen containerIDs ↔
      node ∈ containerIDs ∨
        (node ≠ localID ∧ ∃ row ∈ rows, row.holderID = some node) := by
  induction rows generalizing seen containerIDs with
  | nil => simp [scanUsers]
  | cons row rest ih =>
    unfold scanUsers
    split
    · next hmem =>
      rw [ih hseen]
      grind
    · next hmem =>
      split
      · next hholder =>
        rw [ih (by grind)]
        grind
      · next holder hholder =>
        split
        · next hlocal =>
          rw [ih (by grind)]
          grind
        · next hlocal =>
          rw [ih (by grind)]
          grind

theorem nodup_scanUsers {seen : List (Option ContainerID)}
    (hnodup : containerIDs.Nodup)
    (hseen : ∀ node ∈ containerIDs, some node ∈ seen) :
    (scanUsers localID rows seen containerIDs).Nodup := by
  induction rows generalizing seen containerIDs with
  | nil => exact hnodup
  | cons row rest ih =>
    unfold scanUsers
    split
    · exact ih hnodup hseen
    · next hmem =>
      split
      · exact ih hnodup fun node h => List.mem_cons_of_mem _ (hseen node h)
      · next holder hholder =>
        split
        · exact ih hnodup fun node h =>
            List.mem_cons_of_mem _ (hseen node h)
        · refine ih ?_ ?_
          · refine List.nodup_append.mpr ⟨hnodup, List.nodup_singleton _, ?_⟩
            rintro a ha b hb rfl
            rw [hholder] at hmem
            exact hmem (List.mem_singleton.mp hb ▸ hseen a ha)
          · intro node hnode
            rcases List.mem_append.mp hnode with hold | hnew
            · exact List.mem_cons_of_mem _ (hseen node hold)
            · rw [List.mem_singleton.mp hnew]
              exact List.mem_cons_self

namespace Fleet

variable (fleet : Fleet) (localID : ContainerID)

/-- A visible row of the user names the container as its holder. -/
def HoldsVisible (userID : Bytes) (node : ContainerID) : Prop :=
  ∃ auth : WebsocketAuth, auth.userID = userID ∧
    ∃ row, fleet.visibleRow auth = some row ∧ row.holderID = some node

/-- The container has a connection of the user. -/
def HasConn (userID : Bytes) (node : ContainerID) : Prop :=
  ∃ instanceID, (fleet.conn node ⟨userID, instanceID⟩).isSome = true

/-- The container holds a visible row of the user, or is the sender and has a
connection of theirs. -/
def Addressed (userID : Bytes) (node : ContainerID) : Prop :=
  fleet.HoldsVisible userID node ∨
    (node = localID ∧ fleet.HasConn userID node)

theorem getAllUserConn_ne_nil (userID : Bytes) (node : ContainerID) :
    (fleet.nodes node).connections.getAllUserConn userID ≠ [] ↔
      fleet.HasConn userID node := by
  constructor
  · intro hne
    obtain ⟨⟨instanceID, conn⟩, hentry⟩ := List.exists_mem_of_ne_nil _ hne
    have hget := NestedMap.mem_inner.mp hentry
    exact ⟨instanceID, Option.isSome_iff_exists.mpr ⟨conn, hget⟩⟩
  · rintro ⟨instanceID, hsome⟩
    obtain ⟨conn, hget⟩ := Option.isSome_iff_exists.mp hsome
    exact List.ne_nil_of_mem (NestedMap.mem_inner.mpr hget)

theorem exists_row_iff_holdsVisible (userIDs : List Bytes)
    (node : ContainerID) :
    (∃ row ∈ (fleet.env.store fleet.now).getActiveConnectionsByUserIDs
        userIDs fleet.env.cutoff fleet.now, row.holderID = some node) ↔
      ∃ userID ∈ userIDs, fleet.HoldsVisible userID node := by
  constructor
  · rintro ⟨row, hrow, hholder⟩
    obtain ⟨auth, huser, hvisible⟩ :=
      (ActiveConnTable.mem_getActiveConnectionsByUserIDs _).mp hrow
    exact ⟨auth.userID, huser, auth, rfl, row, hvisible, hholder⟩
  · rintro ⟨userID, huser, auth, rfl, row, hvisible, hholder⟩
    exact ⟨row, (ActiveConnTable.mem_getActiveConnectionsByUserIDs _).mpr
      ⟨auth, huser, hvisible⟩, hholder⟩

theorem mem_userTargets (userID : Bytes) (node : ContainerID) :
    node ∈ fleet.userTargets localID userID ↔
      fleet.Addressed localID userID node := by
  have hrows := fleet.exists_row_iff_holdsVisible [userID] node
  have hlocal := fleet.exists_row_iff_holdsVisible [userID] localID
  simp only [List.mem_singleton, exists_eq_left] at hrows hlocal
  simp only [userTargets, ActiveConnTable.getActiveConnections_eq,
    List.mem_append, mem_scanUser_snd, hrows, List.not_mem_nil, false_or,
    Addressed]
  split
  · next hfirst =>
    rw [scanUser_fst, hlocal, decide_eq_true_eq,
      getAllUserConn_ne_nil] at hfirst
    rw [List.mem_singleton]
    by_cases hnode : node = localID
    · subst hnode
      exact iff_of_true (.inl rfl) (hfirst.symm.imp_right fun h => ⟨rfl, h⟩)
    · simp [hnode]
  · next hfirst =>
    rw [scanUser_fst, hlocal, decide_eq_true_eq,
      getAllUserConn_ne_nil, not_or] at hfirst
    by_cases hnode : node = localID
    · subst hnode
      simp [hfirst.1, hfirst.2]
    · simp [hnode]

theorem nodup_userTargets (userID : Bytes) :
    (fleet.userTargets localID userID).Nodup := by
  unfold userTargets
  refine List.nodup_append.mpr ⟨?_, nodup_scanUser_snd List.nodup_nil, ?_⟩
  · split
    · exact List.nodup_singleton _
    · exact List.nodup_nil
  · rintro a ha b hb rfl
    have hne := ((mem_scanUser_snd.mp hb).resolve_left
      List.not_mem_nil).1
    split at ha
    · exact hne (List.mem_singleton.mp ha)
    · exact List.not_mem_nil ha

/-- The batch reaches the sender for connections only and any other container
for a visible row of a listed user. -/
theorem mem_usersTargets (userIDs : List Bytes) (node : ContainerID) :
    node ∈ fleet.usersTargets localID userIDs ↔
      (node = localID ∧ ∃ userID ∈ userIDs, fleet.HasConn userID node) ∨
      (node ≠ localID ∧
        ∃ userID ∈ userIDs, fleet.HoldsVisible userID node) := by
  have hscan : node ∈ scanUsers localID
      ((fleet.env.store fleet.now).getActiveConnectionsByUserIDs userIDs
        fleet.env.cutoff fleet.now) [] [] ↔
      node ≠ localID ∧
        ∃ userID ∈ userIDs, fleet.HoldsVisible userID node := by
    rw [mem_scanUsers (by simp), fleet.exists_row_iff_holdsVisible]
    simp
  unfold usersTargets
  rw [List.mem_append, hscan]
  refine or_congr_left ?_
  have hany : (userIDs.any fun userID =>
      (fleet.nodes localID).connections.getAllUserConn userID ≠ []) = true ↔
      ∃ userID ∈ userIDs, fleet.HasConn userID localID := by
    simp only [List.any_eq_true, decide_eq_true_eq, getAllUserConn_ne_nil]
  split
  · next hlocally =>
    rw [List.mem_singleton]
    constructor
    · rintro rfl
      exact ⟨rfl, hany.mp hlocally⟩
    · exact And.left
  · next hlocally =>
    refine iff_of_false List.not_mem_nil ?_
    rintro ⟨rfl, hconn⟩
    exact hlocally (hany.mpr hconn)

theorem nodup_usersTargets (userIDs : List Bytes) :
    (fleet.usersTargets localID userIDs).Nodup := by
  unfold usersTargets
  refine List.nodup_append.mpr
    ⟨?_, nodup_scanUsers List.nodup_nil (by simp), ?_⟩
  · split
    · exact List.nodup_singleton _
    · exact List.nodup_nil
  · rintro a ha b hb rfl
    have hne := ((mem_scanUsers (by simp)).mp hb).resolve_left
      List.not_mem_nil
    split at ha
    · exact hne.1 (List.mem_singleton.mp ha)
    · exact List.not_mem_nil ha

end Fleet

end Routing

end Pipewave
