/-
What becomes of the routing entries of acknowledged sends.  A handler makes an
entry for every send it passes on, and the only thing that takes an entry back
is an ACK frame that finds no pending send in its container.
-/
import Pipewave.AckManager

namespace Pipewave

namespace Ack

open Transition

/-- The calls for an ack ID have returned and its messages are handled. -/
def Quiet (s : State) (ackID : Bytes) : Prop :=
  (∀ call ∈ s.calls, call.ackID = ackID →
      ∃ acked, call.stage = .returned acked) ∧
    (∀ request ∈ s.requests, request.ackID ≠ ackID) ∧
    ∀ notice ∈ s.resolved, notice.ackID ≠ ackID

instance (s : State) (ackID : Bytes) : Decidable (Quiet s ackID) :=
  inferInstanceAs (Decidable ((∀ call ∈ s.calls, _) ∧ (∀ _ ∈ s.requests, _) ∧
    ∀ _ ∈ s.resolved, _))

def Routes (node : ContainerID) (ackID : Bytes) (s : State) : Prop :=
  ackID ∈ (s.manager node).remoteAcks

instance (node : ContainerID) (ackID : Bytes) (s : State) :
    Decidable (Routes node ackID s) :=
  inferInstanceAs (Decidable (ackID ∈ (s.manager node).remoteAcks))

/-- No container has a routing entry for the ack ID. -/
def Clean (s : State) (ackID : Bytes) : Prop :=
  ∀ node, ¬ Routes node ackID s

/-- `RegisterRemoteAck` in a container, for a session of its own or for a
message of another one. -/
def Registers (node : ContainerID) (ackID : Bytes) (s : State) :
    Label → Prop
  | .localAction c registered => registered = true ∧
      ∃ call, s.call c = some call ∧ call.node = node ∧ call.ackID = ackID
  | .handleRequest request connected _ => connected = true ∧
      request.target = node ∧ request.ackID = ackID
  | _ => False

/-- An ACK frame gets as far as `ResolveRemoteAck` in a container. -/
def ResolvesRemote (node : ContainerID) (ackID : Bytes) : Label → Prop
  | .resolveRemote notice _ => notice = ⟨node, ackID⟩
  | _ => False

def NoShutdown : Label → Prop
  | .shutdown _ => False
  | _ => True

instance : ∀ label, Decidable (NoShutdown label)
  | .shutdown _ => .isFalse id
  | .createAck .. | .localAction .. | .publish .. | .await _ | .fail _ |
    .handleRequest .. | .clientAck .. | .resolveRemote .. | .ackResolved .. |
    .close _ | .receive _ | .timeout _ | .giveUp _ => .isTrue trivial

/-- Every container that registered the ack ID got a client's ACK frame for it
afterwards that got as far as `ResolveRemoteAck`. -/
def AnsweredEverywhere (labels : List Label) (ackID : Bytes) : Prop :=
  ∀ node, Followed step (Registers node ackID)
    (ResolvesRemote node ackID) {} labels

/-! ### One step -/

section Updates

variable {s : State} {node : ContainerID} {ackID : Bytes}

theorem routes_setManager (other : ContainerID) (m : AckManager) :
    Routes node ackID (s.setManager other m) ↔
      if node = other then ackID ∈ m.remoteAcks else Routes node ackID s := by
  rw [Routes, State.manager_setManager]
  split <;> rfl

/-- A change of a manager that leaves its entries alone. -/
theorem routes_setManager_of_eq {other : ContainerID} {m : AckManager}
    (hsame : m.remoteAcks = (s.manager other).remoteAcks) :
    Routes node ackID (s.setManager other m) ↔ Routes node ackID s := by
  rw [routes_setManager]
  split
  · next hnode =>
    subst hnode
    rw [hsame]
    rfl
  · rfl

theorem routes_resolveAck (other : ContainerID) (id : Bytes) :
    Routes node ackID (s.resolveAck other id) ↔ Routes node ackID s := by
  unfold State.resolveAck
  split
  · rfl
  · exact routes_setManager_of_eq rfl

theorem routes_registerRemoteAck (registered : Bool)
    (other : ContainerID) (id : Bytes) (source : ContainerID) :
    Routes node ackID (if registered then
        s.registerRemoteAck other id source else s) ↔
      (registered = true ∧ other = node ∧ id = ackID) ∨
        Routes node ackID s := by
  cases registered with
  | false => simp
  | true =>
    rw [if_pos rfl, State.registerRemoteAck, routes_setManager]
    split
    · next hnode =>
      subst hnode
      rw [AList.mem_insert, Routes]
      constructor
      · rintro (rfl | hold)
        · exact .inl ⟨rfl, rfl, rfl⟩
        · exact .inr hold
      · rintro (⟨-, -, rfl⟩ | hold)
        · exact .inl rfl
        · exact .inr hold
    · next hnode =>
      constructor
      · exact .inr
      · rintro (⟨-, hsame, -⟩ | hold)
        · exact absurd hsame.symm hnode
        · exact hold

end Updates

/-- What a step means for one entry. -/
def Moves (node : ContainerID) (ackID : Bytes) (s : State) (label : Label)
    (next : State) : Prop :=
  Routes node ackID next ↔ Registers node ackID s label ∨
    Routes node ackID s ∧ ¬ ResolvesRemote node ackID label

section Step

variable {s next : State} {node : ContainerID} {ackID : Bytes} {label : Label}

/-- A step that neither registers nor resolves the entry. -/
theorem Moves.of_neither (hregisters : ¬ Registers node ackID s label)
    (hresolves : ¬ ResolvesRemote node ackID label)
    (hsame : Routes node ackID next ↔ Routes node ackID s) :
    Moves node ackID s label next := by
  rw [Moves, hsame]
  simp only [hregisters, hresolves, false_or, not_false_eq_true, and_true]

theorem moves_unrouted {notice : Notice} {published : Bool}
    (hmissing : (s.manager notice.node).remoteAcks.lookup notice.ackID =
      none) :
    Moves node ackID s (.resolveRemote notice published)
      { s with looking := s.looking.erase notice } := by
  simp only [Moves, Registers, ResolvesRemote, false_or]
  constructor
  · intro hroutes
    refine ⟨hroutes, ?_⟩
    rintro rfl
    exact AList.lookup_eq_none.mp hmissing hroutes
  · exact fun h => h.1

theorem moves_routed {notice : Notice} {published : Bool}
    {resolved : List Notice} :
    Moves node ackID s (.resolveRemote notice published)
      { s.setManager notice.node { s.manager notice.node with
          remoteAcks := (s.manager notice.node).remoteAcks.erase
            notice.ackID } with
        looking := s.looking.erase notice
        resolved } := by
  obtain ⟨other, id⟩ := notice
  simp only [Moves, Registers, ResolvesRemote, false_or, Notice.mk.injEq]
  change Routes node ackID (s.setManager other _) ↔ _
  rw [routes_setManager]
  split
  · next hnode =>
    subst hnode
    rw [AList.mem_erase]
    constructor
    · exact fun h => ⟨h.2, fun hsame => h.1 hsame.2.symm⟩
    · exact fun h => ⟨fun hsame => h.2 ⟨rfl, hsame.symm⟩, h.1⟩
  · next hnode =>
    constructor
    · exact fun h => ⟨h, fun hsame => hnode hsame.1.symm⟩
    · exact fun h => h.1

/-- An entry is made by a registration and taken by a `ResolveRemoteAck`, and
nothing else but a shutdown touches it. -/
theorem moves_step (hlabel : NoShutdown label)
    (hstep : step s label = some next) :
    Moves node ackID s label next := by
  cases step_cases hstep with
  | createAck other nanoID =>
    exact .of_neither id id (routes_setManager_of_eq rfl)
  | localAction registered hcall =>
    simp only [Moves, Registers, ResolvesRemote, not_false_eq_true,
      and_true, hcall, Option.some.injEq, exists_eq_left']
    exact routes_registerRemoteAck registered _ _ _
  | handleRequest request connected requests =>
    simp only [Moves, Registers, ResolvesRemote, not_false_eq_true,
      and_true]
    exact routes_registerRemoteAck connected _ _ _
  | fail hcall => exact .of_neither id id (routes_resolveAck _ _)
  | clientAck other ackID => exact .of_neither id id (routes_resolveAck _ _)
  | unrouted published hmissing => exact moves_unrouted hmissing
  | routed published hlooked hentry => exact moves_routed
  | ackResolved again hsent =>
    apply Moves.of_neither id id
    rw [routes_resolveAck]
    split <;> exact Iff.rfl
  | cleanUp hcall htimedOut =>
    exact .of_neither id id (routes_setManager_of_eq rfl)
  | publish | await | look | close | receive | timeout | giveUp =>
    exact .of_neither id id Iff.rfl
  | shutdown other => exact hlabel.elim

end Step

/-! ### Whole runs -/

/-- In every run without a shutdown, an ack ID that everybody is done with has
left no entry behind exactly when every registration was answered by a client
through the container that made it. -/
theorem clean_iff_answeredEverywhere (labels : List Label) (s : State)
    (ackID : Bytes) (hrun : run step {} labels = some s)
    (hlabels : ∀ label ∈ labels, NoShutdown label) :
    (Quiet s ackID → Clean s ackID) ↔
      (Quiet s ackID → AnsweredEverywhere labels ackID) := by
  have hempty : ∀ node, ¬ Routes node ackID {} := by
    intro node
    exact AList.notMem_empty ackID
  have hiff : Clean s ackID ↔ AnsweredEverywhere labels ackID := by
    apply forall_congr'
    intro node
    rw [not_iff_followed (Routes node ackID) (Registers node ackID)
      (ResolvesRemote node ackID) NoShutdown
      (fun _ _ _ hlabel hstep => moves_step hlabel hstep) hlabels hrun]
    exact and_iff_right fun h => absurd h (hempty node)
  exact imp_congr_right fun _ => hiff

/-- Container 0 sends to a session of container 1, whose client acknowledges
there. -/
def answeredRun : List Label :=
  let ackID := ackPrefix ++ [1]
  [.createAck 0 [1], .publish 0 [1], .await 0,
    .handleRequest ⟨1, ackID, 0⟩ true false, .clientAck 1 ackID,
    .resolveRemote ⟨1, ackID⟩ true, .ackResolved ⟨0, ackID⟩ false, .close 0,
    .receive 0]

theorem clean_iff_answeredEverywhere_answeredRun :
    let s := final step {} answeredRun
    let ackID := ackPrefix ++ [1]
    Quiet s ackID ∧ ((Quiet s ackID → Clean s ackID) ↔
      (Quiet s ackID → AnsweredEverywhere answeredRun ackID)) :=
  ⟨by decide +kernel, clean_iff_answeredEverywhere answeredRun _ _
    (run_eq_final (by decide +kernel)) (by decide)⟩

/-- The same send, to a client that never acknowledges. -/
def unansweredRun : List Label :=
  let ackID := ackPrefix ++ [1]
  [.createAck 0 [1], .publish 0 [1], .await 0,
    .handleRequest ⟨1, ackID, 0⟩ true false, .timeout 0, .giveUp 0]

/-- A send to a session of the container itself, acknowledged at once. -/
def localRun : List Label :=
  let ackID := ackPrefix ++ [1]
  [.createAck 0 [1], .localAction 0 true, .await 0, .clientAck 0 ackID,
    .close 0, .receive 0]

/-- The wait is over, nothing is on its way, and an entry is left: in the
container that had the session after a timeout, and in the sender itself even
after an ACK. -/
theorem remoteAcks_outlive_ack :
    let ackID := ackPrefix ++ [1]
    let unanswered := final step {} unansweredRun
    let acknowledged := final step {} localRun
    run step {} unansweredRun = some unanswered ∧
      Quiet unanswered ackID ∧ Routes 1 ackID unanswered ∧
      run step {} localRun = some acknowledged ∧
      Quiet acknowledged ackID ∧ Routes 0 ackID acknowledged :=
  ⟨run_eq_final (by decide +kernel), by decide +kernel,
    by decide +kernel, run_eq_final (by decide +kernel),
    by decide +kernel, by decide +kernel⟩

end Ack

end Pipewave
