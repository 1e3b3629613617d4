/-
Acknowledged sends across containers.  A send creates an ack ID with a channel
and waits for the channel to be closed or for its timer; the container that
gets the client's ACK frame either closes the channel itself or tells the
container that sent.  Lock sections, closes, publications and deliveries are
single steps.
-/
import Mathlib.Logic.Function.Basic
import Pipewave.ActiveConn
import Pipewave.Pool
import Pipewave.Transition

namespace Pipewave

namespace Ack

open Transition

/-- One call of `SendToSessionWithAck` or `SendToUserWithAck`; its channel is
known by the same number. -/
abbrev CallID := Nat

structure AckManager where
  pending : GoMap Bytes CallID := ∅
  remoteAcks : GoMap Bytes ContainerID := ∅

/-- Where a call is: resolving its targets, in the `select`, on the path of an
error or of no target, past its timer, or back with its result. -/
inductive Stage where
  | sending
  | waiting
  | failed
  | timedOut
  | returned (acked : Bool)
deriving Repr, DecidableEq

structure Call where
  node : ContainerID
  ackID : Bytes
  stage : Stage := .sending
  found : Bool := false
  closed : Bool := false
deriving Repr, DecidableEq

/-- A published send that asks its receiver to register the ack. -/
structure Request where
  target : ContainerID
  ackID : Bytes
  source : ContainerID
deriving Repr, DecidableEq

/-- An ACK frame between `ResolveAck` and `ResolveRemoteAck`, or a published
`AckResolved`. -/
structure Notice where
  node : ContainerID
  ackID : Bytes
deriving Repr, DecidableEq

/-- `closing` are the channels taken out of a map and not closed yet; `acked`
are the ACK frames processed so far, which no step reads. -/
structure State where
  managers : ContainerID → AckManager := fun _ => {}
  calls : List Call := []
  closing : List CallID := []
  requests : List Request := []
  looking : List Notice := []
  resolved : List Notice := []
  acked : List Bytes := []

inductive Label where
  /-- `CreateAck` with the ID it draws. -/
  | createAck (node : ContainerID) (nanoID : Bytes)
  /-- The local action finds a connection and runs the handler, which
  registers the ack if it still finds one. -/
  | localAction (c : CallID) (registered : Bool)
  /-- The other containers found get a message each, or those for which
  publishing works. -/
  | publish (c : CallID) (targets : List ContainerID)
  /-- A call that found a target enters `WaitForAck`. -/
  | await (c : CallID)
  /-- `findThenAction` failed or found nothing. -/
  | fail (c : CallID)
  /-- A message of `requests` is handled; `connected` says whether the
  receiver has a connection, `again` whether the message comes once more. -/
  | handleRequest (request : Request) (connected again : Bool)
  /-- `handleMessage` gets an ACK frame past the rate limiter. -/
  | clientAck (node : ContainerID) (ackID : Bytes)
  /-- It goes on with `ResolveRemoteAck`; `published` says whether the
  publication worked. -/
  | resolveRemote (notice : Notice) (published : Bool)
  | ackResolved (notice : Notice) (again : Bool)
  | close (c : CallID)
  /-- The `select` sees the closed channel. -/
  | receive (c : CallID)
  /-- The `select` sees the timer. -/
  | timeout (c : CallID)
  /-- A call on its way to `false` returns, after its clean-up if it timed
  out. -/
  | giveUp (c : CallID)
  | shutdown (node : ContainerID)
deriving Repr, DecidableEq

namespace State

def manager (s : State) (node : ContainerID) : AckManager := s.managers node

def call (s : State) (c : CallID) : Option Call := s.calls[c]?

def setManager (s : State) (node : ContainerID) (m : AckManager) : State :=
  { s with managers := Function.update s.managers node m }

def modifyCall (s : State) (c : CallID) (change : Call → Call) : State :=
  { s with calls := s.calls.modify c change }

def setStage (s : State) (c : CallID) (stage : Stage) : State :=
  s.modifyCall c fun call => { call with stage }

/-- The lock section of `ResolveAck`. -/
def resolveAck (s : State) (node : ContainerID) (ackID : Bytes) : State :=
  match (s.manager node).pending.lookup ackID with
  | none => s
  | some c =>
    let m := s.manager node
    { s.setManager node { m with pending := m.pending.erase ackID } with
      closing := c :: s.closing }

def registerRemoteAck (s : State) (node : ContainerID) (ackID : Bytes)
    (source : ContainerID) : State :=
  let m := s.manager node
  s.setManager node { m with remoteAcks := m.remoteAcks.insert ackID source }

end State

/-- `ack_`, which every ack ID starts with. -/
def ackPrefix : Bytes := [0x61, 0x63, 0x6B, 0x5F]

def step (s : State) : Label → Option State
  | .createAck node nanoID =>
    let ackID := ackPrefix ++ nanoID
    let m := s.manager node
    some { s.setManager node
        { m with pending := m.pending.insert ackID s.calls.length } with
      calls := s.calls ++ [{ node, ackID }] }
  | .localAction c registered =>
    match s.call c with
    | none => none
    | some call =>
      if call.stage ≠ .sending then none
      else
        let s := if registered then
            s.registerRemoteAck call.node call.ackID call.node
          else s
        some (s.modifyCall c fun call => { call with found := true })
  | .publish c targets =>
    match s.call c with
    | none => none
    | some call =>
      if call.stage ≠ .sending then none
      else some { s.modifyCall c (fun call => { call with found := true })
        with requests := targets.map (⟨·, call.ackID, call.node⟩) ++
          s.requests }
  | .await c =>
    match s.call c with
    | none => none
    | some call =>
      if call.stage = .sending ∧ call.found then
        some (s.setStage c .waiting)
      else none
  | .fail c =>
    match s.call c with
    | none => none
    | some call =>
      if call.stage = .sending ∧ ¬ call.found then
        some ((s.setStage c .failed).resolveAck call.node call.ackID)
      else none
  | .handleRequest request connected again =>
    if request ∉ s.requests then none
    else
      let s := if connected then
          s.registerRemoteAck request.target request.ackID request.source
        else s
      some { s with
        requests := if again then s.requests
          else s.requests.erase request }
  | .clientAck node ackID =>
    if ackID = [] then none
    else
      let s := { s with acked := ackID :: s.acked }
      match (s.manager node).pending.lookup ackID with
      | some _ => some (s.resolveAck node ackID)
      | none => some { s with looking := ⟨node, ackID⟩ :: s.looking }
  | .resolveRemote notice published =>
    if notice ∉ s.looking then none
    else
      let m := s.manager notice.node
      let s := { s with looking := s.looking.erase notice }
      match m.remoteAcks.lookup notice.ackID with
      | none => some s
      | some source =>
        let s := s.setManager notice.node
          { m with remoteAcks := m.remoteAcks.erase notice.ackID }
        some { s with
          resolved := if published then
              ⟨source, notice.ackID⟩ :: s.resolved
            else s.resolved }
  | .ackResolved notice again =>
    if notice ∉ s.resolved then none
    else
      let s := if again then s
        else { s with resolved := s.resolved.erase notice }
      some (s.resolveAck notice.node notice.ackID)
  | .close c =>
    if c ∉ s.closing then none
    else some { s.modifyCall c (fun call => { call with closed := true })
      with closing := s.closing.erase c }
  | .receive c =>
    match s.call c with
    | none => none
    | some call =>
      if call.stage = .waiting ∧ call.closed then
        some (s.setStage c (.returned true))
      else none
  | .timeout c =>
    match s.call c with
    | none => none
    | some call =>
      if call.stage = .waiting then some (s.setStage c .timedOut)
      else none
  | .giveUp c =>
    match s.call c with
    | none => none
    | some call =>
      match call.stage with
      | .failed => some (s.setStage c (.returned false))
      | .timedOut =>
        let m := s.manager call.node
        some ((s.setManager call.node
          { m with pending := m.pending.erase call.ackID }).setStage c
          (.returned false))
      | _ => none
  | .shutdown node =>
    let closed := (s.manager node).pending.entries.map Sigma.snd
    some { s.setManager node {} with
      calls := s.calls.mapIdx fun c call =>
        if c ∈ closed then { call with closed := true } else call }

/-- A call returns `true` only for an ack ID that some ACK frame carried. -/
def Sound (s : State) : Prop :=
  ∀ call ∈ s.calls, call.stage = .returned true → call.ackID ∈ s.acked

/-- `NewNanoID` draws an ID that no earlier call got. -/
def DrawsFresh (s : State) : Label → Prop
  | .createAck _ nanoID => ∀ call ∈ s.calls, call.ackID ≠ ackPrefix ++ nanoID
  | _ => True

/-- A manager is shut down only when the ACK frame of every send still pending
in it was processed. -/
def ShutsDownQuiet (s : State) : Label → Prop
  | .shutdown node => ∀ entry ∈ (s.manager node).pending.entries,
      entry.1 ∈ s.acked
  | _ => True

instance (s : State) : Decidable (Sound s) :=
  inferInstanceAs (Decidable (∀ call ∈ s.calls, _))

instance (s : State) : ∀ label, Decidable (DrawsFresh s label)
  | .createAck .. => inferInstanceAs (Decidable (∀ call ∈ s.calls, _))
  | .localAction .. | .publish .. | .await _ | .fail _ | .handleRequest .. |
    .clientAck .. | .resolveRemote .. | .ackResolved .. | .close _ |
    .receive _ | .timeout _ | .giveUp _ | .shutdown _ => .isTrue trivial

instance (s : State) : ∀ label, Decidable (ShutsDownQuiet s label)
  | .shutdown node => inferInstanceAs
      (Decidable (∀ entry ∈ (s.manager node).pending.entries, _))
  | .createAck .. | .localAction .. | .publish .. | .await _ | .fail _ |
    .handleRequest .. | .clientAck .. | .resolveRemote .. | .ackResolved .. |
    .close _ | .receive _ | .timeout _ | .giveUp _ => .isTrue trivial

/-- The channel of a call was closed, or is about to be, for an ACK frame or on
the call's own way to `false`. -/
def Settled (s : State) (call : Call) : Prop :=
  call.ackID ∈ s.acked ∨ call.stage = .failed ∨ call.stage = .returned false

structure Inv (s : State) : Prop where
  own : ∀ node ackID c, (s.manager node).pending.lookup ackID = some c →
    ∃ call, s.call c = some call ∧ call.ackID = ackID
  unique : ∀ c c' call call', s.call c = some call → s.call c' = some call' →
    call.ackID = call'.ackID → c = c'
  closing : ∀ c ∈ s.closing, c < s.calls.length
  looking : ∀ notice ∈ s.looking, notice.ackID ∈ s.acked
  resolved : ∀ notice ∈ s.resolved, notice.ackID ∈ s.acked
  taken : ∀ c call, s.call c = some call →
    c ∈ s.closing ∨ call.closed = true → Settled s call
  returned : ∀ c call, s.call c = some call →
    call.stage = .returned true → call.ackID ∈ s.acked

theorem inv_start : Inv {} where
  own := by simp [State.manager]
  unique := by simp [State.call]
  closing := by simp
  looking := by simp
  resolved := by simp
  taken := by simp [State.call]
  returned := by simp [State.call]

theorem State.manager_setManager (s : State) (node other : ContainerID)
    (m : AckManager) :
    (s.setManager node m).manager other =
      if other = node then m else s.manager other :=
  Function.update_apply ..

section Updates

variable {s : State} (hinv : Inv s)

include hinv

variable {node : ContainerID} {c : CallID}

/-- A change of a manager that adds nothing to `pending`. -/
theorem Inv.setManager {m : AckManager}
    (hsub : ∀ ackID c, m.pending.lookup ackID = some c →
      (s.manager node).pending.lookup ackID = some c) :
    Inv (s.setManager node m) := by
  refine { hinv with own := ?_ }
  intro other ackID c hlookup
  rw [State.manager_setManager] at hlookup
  split at hlookup
  · next hnode =>
    subst hnode
    exact hinv.own other ackID c (hsub ackID c hlookup)
  · exact hinv.own other ackID c hlookup

/-- A handler registers the ack's source if it found a connection. -/
theorem Inv.registerRemoteAck (registered : Bool) (node : ContainerID)
    (ackID : Bytes) (source : ContainerID) :
    Inv (if registered then s.registerRemoteAck node ackID source
      else s) := by
  split
  · exact hinv.setManager fun _ _ hlookup => hlookup
  · exact hinv

/-- A change of one call that keeps its ID and leaves it settled if its
channel is closed. -/
theorem Inv.modifyCall {change : Call → Call}
    (hid : ∀ call, (change call).ackID = call.ackID)
    (htaken : ∀ call, s.call c = some call →
      c ∈ s.closing ∨ (change call).closed = true → Settled s (change call))
    (hreturned : ∀ call, s.call c = some call →
      (change call).stage = .returned true → call.ackID ∈ s.acked) :
    Inv (s.modifyCall c change) := by
  have hsameID : ∀ other call, (s.modifyCall c change).call other = some call →
      ∃ before, s.call other = some before ∧
        before.ackID = call.ackID := by
    intro other call hcall
    rcases getElem?_modify_cases hcall with
      ⟨_, hcall⟩ | ⟨rfl, before, hbefore, rfl⟩
    · exact ⟨call, hcall, rfl⟩
    · exact ⟨before, hbefore, (hid before).symm⟩
  refine ⟨?_, ?_, ?_, hinv.looking, hinv.resolved, ?_, ?_⟩
  · intro node ackID other hlookup
    obtain ⟨call, hcall, rfl⟩ := hinv.own node ackID other hlookup
    by_cases hsame : other = c
    · subst hsame
      refine ⟨change call, ?_, hid call⟩
      rw [State.call] at hcall
      rw [State.call, State.modifyCall, getElem?_modify_if, if_pos rfl, hcall]
      rfl
    · refine ⟨call, ?_, rfl⟩
      rw [State.call, State.modifyCall, getElem?_modify_if, if_neg hsame]
      exact hcall
  · intro first second call call' hfirst hsecond hids
    obtain ⟨before, hbefore, heq⟩ := hsameID first call hfirst
    obtain ⟨before', hbefore', heq'⟩ := hsameID second call' hsecond
    exact hinv.unique first second before before' hbefore hbefore'
      (heq.trans (hids.trans heq'.symm))
  · intro other hother
    rw [State.modifyCall, List.length_modify]
    exact hinv.closing other hother
  · intro other call hcall htook
    rcases getElem?_modify_cases hcall with
      ⟨_, hcall⟩ | ⟨rfl, before, hbefore, rfl⟩
    · exact hinv.taken other call hcall htook
    · exact htaken before hbefore htook
  · intro other call hcall hstage
    rcases getElem?_modify_cases hcall with
      ⟨_, hcall⟩ | ⟨rfl, before, hbefore, rfl⟩
    · exact hinv.returned other call hcall hstage
    · rw [hid]
      exact hreturned before hbefore hstage

/-- A call moves on without coming back with `true`. -/
theorem Inv.setStage {stage : Stage} (hstage : stage ≠ .returned true)
    (hsettled : ∀ call, s.call c = some call →
      call.stage = .failed ∨ call.stage = .returned false →
        stage = .failed ∨ stage = .returned false) :
    Inv (s.setStage c stage) := by
  refine hinv.modifyCall (fun _ => rfl) ?_ fun _ _ h => absurd h hstage
  intro call hcall htook
  rcases hinv.taken c call hcall htook with hacked | hdone
  · exact .inl hacked
  · exact .inr (hsettled call hcall hdone)

/-- A call that has not come to an end moves on. -/
theorem Inv.proceed {call : Call} {stage : Stage}
    (hcall : s.call c = some call)
    (hbusy : call.stage ≠ .failed ∧ call.stage ≠ .returned false)
    (hstage : stage ≠ .returned true) : Inv (s.setStage c stage) := by
  refine hinv.setStage hstage fun call' hcall' hdone => ?_
  cases hcall.symm.trans hcall'
  exact absurd hdone (not_or.mpr hbusy)

theorem Inv.markFound (c : CallID) :
    Inv (s.modifyCall c fun call => { call with found := true }) :=
  hinv.modifyCall (fun _ => rfl)
    (fun call hcall htook => hinv.taken c call hcall htook)
    fun call hcall hstage => hinv.returned c call hcall hstage

/-- `ResolveAck` closes the channel of a call that is settled. -/
theorem Inv.resolveAck {ackID : Bytes}
    (hsettled : ∀ c call, s.call c = some call → call.ackID = ackID →
      Settled s call) : Inv (s.resolveAck node ackID) := by
  unfold State.resolveAck
  split
  · exact hinv
  · next c hlookup =>
    obtain ⟨call, hcall, hackID⟩ := hinv.own node ackID c hlookup
    have hnext : Inv (s.setManager node
        { s.manager node with
          pending := (s.manager node).pending.erase ackID }) :=
      hinv.setManager fun _ _ h => (GoMap.lookup_erase_some h).2
    refine { hnext with closing := ?_, taken := ?_ }
    · intro other hother
      rcases List.mem_cons.mp hother with rfl | hother
      · exact (List.getElem?_eq_some_iff.mp hcall).1
      · exact hinv.closing other hother
    · intro other call' hcall' htook
      rcases htook with hclosing | hclosed
      · rcases List.mem_cons.mp hclosing with rfl | hclosing
        · cases hcall.symm.trans hcall'
          exact hsettled other call hcall hackID
        · exact hinv.taken other call' hcall' (.inl hclosing)
      · exact hinv.taken other call' hcall' (.inr hclosed)

/-- An ACK frame is recorded. -/
theorem Inv.clientAck (ackID : Bytes) :
    Inv { s with acked := ackID :: s.acked } :=
  { hinv with
    looking := fun notice h => List.mem_cons_of_mem _ (hinv.looking notice h)
    resolved := fun notice h =>
      List.mem_cons_of_mem _ (hinv.resolved notice h)
    taken := fun c call hcall htook =>
      (hinv.taken c call hcall htook).imp_left (List.mem_cons_of_mem _)
    returned := fun c call hcall hstage =>
      List.mem_cons_of_mem _ (hinv.returned c call hcall hstage) }

/-- A call is created under an ID of its own. -/
theorem Inv.createAck (node : ContainerID) {ackID : Bytes}
    (hfresh : ∀ call ∈ s.calls, call.ackID ≠ ackID) :
    Inv { s.setManager node { s.manager node with
        pending := (s.manager node).pending.insert ackID s.calls.length } with
      calls := s.calls ++ [{ node, ackID }] } := by
  have hkeep : ∀ c call, s.call c = some call →
      (s.calls ++ [({ node, ackID } : Call)])[c]? = some call := by
    intro c call hcall
    rw [List.getElem?_append_left (List.getElem?_eq_some_iff.mp hcall).1]
    exact hcall
  have hother : ∀ c call, s.call c = some call → call.ackID ≠ ackID :=
    fun c call hcall => hfresh call (List.mem_of_getElem? hcall)
  refine ⟨?_, ?_, ?_, hinv.looking, hinv.resolved, ?_, ?_⟩
  · intro other id c hlookup
    have hold : (s.manager other).pending.lookup id = some c →
        ∃ call, (s.calls ++ [({ node, ackID } : Call)])[c]? = some call ∧
          call.ackID = id := by
      intro hlookup
      obtain ⟨call, hcall, hid⟩ := hinv.own other id c hlookup
      exact ⟨call, hkeep c call hcall, hid⟩
    change ((s.setManager node _).manager other).pending.lookup id = some c
      at hlookup
    rw [State.manager_setManager] at hlookup
    split at hlookup
    · next hnode =>
      subst hnode
      by_cases hid : id = ackID
      · subst hid
        rw [AList.lookup_insert] at hlookup
        cases hlookup
        exact ⟨_, List.getElem?_concat_length, rfl⟩
      · rw [AList.lookup_insert_ne hid] at hlookup
        exact hold hlookup
    · exact hold hlookup
  · intro c c' call call' hcall hcall' hids
    rcases getElem?_concat_cases hcall with hcall | ⟨rfl, rfl⟩
    · rcases getElem?_concat_cases hcall' with hcall' | ⟨rfl, rfl⟩
      · exact hinv.unique c c' call call' hcall hcall' hids
      · exact absurd hids (hother c call hcall)
    · rcases getElem?_concat_cases hcall' with hcall' | ⟨rfl, rfl⟩
      · exact absurd hids.symm (hother c' call' hcall')
      · rfl
  · intro c hc
    have hlt := hinv.closing c hc
    rw [List.length_append]
    exact Nat.lt_add_right _ hlt
  · intro c call hcall htook
    rcases getElem?_concat_cases hcall with hcall | ⟨rfl, rfl⟩
    · exact hinv.taken c call hcall htook
    · rcases htook with hclosing | hclosed
      · exact absurd (hinv.closing _ hclosing) (Nat.lt_irrefl _)
      · cases hclosed
  · intro c call hcall hstage
    rcases getElem?_concat_cases hcall with hcall | ⟨rfl, rfl⟩
    · exact hinv.returned c call hcall hstage
    · cases hstage

/-- Closing every pending channel at once. -/
theorem Inv.shutdown (hquiet : ∀ entry ∈ (s.manager node).pending.entries,
      entry.1 ∈ s.acked) :
    Inv { s.setManager node {} with
      calls := s.calls.mapIdx fun c call =>
        if c ∈ (s.manager node).pending.entries.map Sigma.snd then
          { call with closed := true }
        else call } := by
  have hcleared : Inv (s.setManager node {}) :=
    hinv.setManager fun ackID c hlookup => by
      rw [AList.lookup_empty] at hlookup
      cases hlookup
  have hcases : ∀ c call, (s.calls.mapIdx fun c call =>
      if c ∈ (s.manager node).pending.entries.map Sigma.snd then
        { call with closed := true }
      else call)[c]? = some call →
      ∃ before, s.call c = some before ∧ before.ackID = call.ackID ∧
        before.stage = call.stage ∧ (call.closed = true →
          before.closed = true ∨ before.ackID ∈ s.acked) := by
    intro c call hcall
    rw [List.getElem?_mapIdx] at hcall
    obtain ⟨before, hbefore, rfl⟩ := Option.map_eq_some_iff.mp hcall
    refine ⟨before, hbefore, ?_⟩
    split
    · next hpending =>
      refine ⟨rfl, rfl, fun _ => .inr ?_⟩
      obtain ⟨⟨ackID, c'⟩, hentry, rfl⟩ := List.mem_map.mp hpending
      obtain ⟨owner, howner, rfl⟩ := hinv.own node ackID c'
        (AList.mem_lookup_iff.mpr hentry)
      cases howner.symm.trans hbefore
      exact hquiet _ hentry
    · exact ⟨rfl, rfl, .inl⟩
  refine ⟨?_, ?_, ?_, hcleared.looking, hcleared.resolved, ?_, ?_⟩
  · intro other ackID c hlookup
    obtain ⟨call, hcall, rfl⟩ := hcleared.own other ackID c hlookup
    refine ⟨_, (List.getElem?_mapIdx).trans (congrArg _ hcall), ?_⟩
    split <;> rfl
  · intro c c' call call' hcall hcall' hids
    obtain ⟨before, hbefore, hid, _⟩ := hcases c call hcall
    obtain ⟨before', hbefore', hid', _⟩ := hcases c' call' hcall'
    exact hinv.unique c c' before before' hbefore hbefore'
      (hid.trans (hids.trans hid'.symm))
  · intro c hc
    rw [List.length_mapIdx]
    exact hinv.closing c hc
  · intro c call hcall htook
    obtain ⟨before, hbefore, hid, hstage, hclosed⟩ := hcases c call hcall
    have hsettled : Settled s before := by
      rcases htook with hclosing | hnow
      · exact hinv.taken c before hbefore (.inl hclosing)
      · rcases hclosed hnow with hearlier | hacked
        · exact hinv.taken c before hbefore (.inr hearlier)
        · exact .inl hacked
    rw [Settled, hid, hstage] at hsettled
    exact hsettled
  · intro c call hcall hreturned
    obtain ⟨before, hbefore, hid, hstage, _⟩ := hcases c call hcall
    rw [← hid]
    exact hinv.returned c before hbefore (hstage.trans hreturned)

end Updates

variable {s : State}

theorem Inv.settled_of_acked {ackID : Bytes} (hacked : ackID ∈ s.acked) :
    ∀ c call, s.call c = some call → call.ackID = ackID → Settled s call :=
  fun _ _ _ hid => .inl (hid ▸ hacked)

/-! ### One step -/

/-- Everything one step can do. -/
inductive StepCase (s : State) : Label → State → Prop where
  | createAck (node : ContainerID) (nanoID : Bytes) :
      StepCase s (.createAck node nanoID)
        { s.setManager node { s.manager node with
            pending := (s.manager node).pending.insert (ackPrefix ++ nanoID)
              s.calls.length } with
          calls := s.calls ++ [{ node, ackID := ackPrefix ++ nanoID }] }
  | localAction {c : CallID} {call : Call} (registered : Bool)
      (known : s.call c = some call) :
      StepCase s (.localAction c registered)
        ((if registered then
            s.registerRemoteAck call.node call.ackID call.node
          else s).modifyCall c fun call => { call with found := true })
  | publish {c : CallID} {call : Call} (targets : List ContainerID)
      (known : s.call c = some call) :
      StepCase s (.publish c targets)
        { s.modifyCall c (fun call => { call with found := true }) with
          requests := targets.map (⟨·, call.ackID, call.node⟩) ++
            s.requests }
  | await {c : CallID} {call : Call} (known : s.call c = some call)
      (sending : call.stage = .sending) :
      StepCase s (.await c) (s.setStage c .waiting)
  | fail {c : CallID} {call : Call} (known : s.call c = some call) :
      StepCase s (.fail c)
        ((s.setStage c .failed).resolveAck call.node call.ackID)
  | handleRequest (request : Request) (connected : Bool)
      (requests : List Request) {again : Bool} :
      StepCase s (.handleRequest request connected again)
        { (if connected then
            s.registerRemoteAck request.target request.ackID request.source
          else s) with requests }
  | clientAck (node : ContainerID) (ackID : Bytes) :
      StepCase s (.clientAck node ackID)
        (State.resolveAck { s with acked := ackID :: s.acked } node ackID)
  | look (node : ContainerID) (ackID : Bytes) :
      StepCase s (.clientAck node ackID)
        { s with
          acked := ackID :: s.acked
          looking := ⟨node, ackID⟩ :: s.looking }
  | unrouted {notice : Notice} (published : Bool)
      (missing : (s.manager notice.node).remoteAcks.lookup notice.ackID =
        none) :
      StepCase s (.resolveRemote notice published)
        { s with looking := s.looking.erase notice }
  | routed {notice : Notice} {source : ContainerID} (published : Bool)
      (looked : notice ∈ s.looking)
      (entry : (s.manager notice.node).remoteAcks.lookup notice.ackID =
        some source) :
      StepCase s (.resolveRemote notice published)
        { s.setManager notice.node { s.manager notice.node with
            remoteAcks := (s.manager notice.node).remoteAcks.erase
              notice.ackID } with
          looking := s.looking.erase notice
          resolved := if published then ⟨source, notice.ackID⟩ :: s.resolved
            else s.resolved }
  | ackResolved {notice : Notice} (again : Bool)
      (sent : notice ∈ s.resolved) :
      StepCase s (.ackResolved notice again)
        ((if again then s
          else { s with resolved := s.resolved.erase notice }).resolveAck
            notice.node notice.ackID)
  | close {c : CallID} (taken : c ∈ s.closing) :
      StepCase s (.close c)
        { s.modifyCall c (fun call => { call with closed := true }) with
          closing := s.closing.erase c }
  | receive {c : CallID} {call : Call} (known : s.call c = some call)
      (waiting : call.stage = .waiting) (closed : call.closed = true) :
      StepCase s (.receive c) (s.setStage c (.returned true))
  | timeout {c : CallID} {call : Call} (known : s.call c = some call)
      (waiting : call.stage = .waiting) :
      StepCase s (.timeout c) (s.setStage c .timedOut)
  | giveUp {c : CallID} :
      StepCase s (.giveUp c) (s.setStage c (.returned false))
  | cleanUp {c : CallID} {call : Call} (known : s.call c = some call)
      (timedOut : call.stage = .timedOut) :
      StepCase s (.giveUp c)
        ((s.setManager call.node { s.manager call.node with
            pending := (s.manager call.node).pending.erase
              call.ackID }).setStage c (.returned false))
  | shutdown (node : ContainerID) :
      StepCase s (.shutdown node)
        { s.setManager node {} with
          calls := s.calls.mapIdx fun c call =>
            if c ∈ (s.manager node).pending.entries.map Sigma.snd then
              { call with closed := true }
            else call }

theorem step_cases {s' : State} {label : Label}
    (hstep : step s label = some s') : StepCase s label s' := by
  cases label with
  | createAck node nanoID =>
    cases hstep
    exact .createAck node nanoID
  | localAction c registered =>
    simp only [step] at hstep
    split at hstep
    · cases hstep
    · next call hcall =>
      split at hstep <;> cases hstep
      exact .localAction registered hcall
  | publish c targets =>
    simp only [step] at hstep
    split at hstep
    · cases hstep
    · next call hcall =>
      split at hstep <;> cases hstep
      exact .publish targets hcall
  | await c =>
    simp only [step] at hstep
    split at hstep
    · cases hstep
    · next call hcall =>
      split at hstep <;> cases hstep
      next hready => exact .await hcall hready.1
  | fail c =>
    simp only [step] at hstep
    split at hstep
    · cases hstep
    · next call hcall =>
      split at hstep <;> cases hstep
      exact .fail hcall
  | handleRequest request connected again =>
    simp only [step] at hstep
    split at hstep <;> cases hstep
    exact .handleRequest request connected _
  | clientAck node ackID =>
    simp only [step] at hstep
    split at hstep
    · cases hstep
    · split at hstep <;> cases hstep
      · exact .clientAck node ackID
      · exact .look node ackID
  | resolveRemote notice published =>
    simp only [step] at hstep
    split at hstep
    · cases hstep
    · next hlooked =>
      split at hstep <;> cases hstep
      · next hmissing => exact .unrouted published hmissing
      · next hentry => exact .routed published (not_not.mp hlooked) hentry
  | ackResolved notice again =>
    simp only [step] at hstep
    split at hstep <;> cases hstep
    next hsent => exact .ackResolved again (not_not.mp hsent)
  | close c =>
    simp only [step] at hstep
    split at hstep <;> cases hstep
    next htaken => exact .close (not_not.mp htaken)
  | receive c =>
    simp only [step] at hstep
    split at hstep
    · cases hstep
    · next call hcall =>
      split at hstep <;> cases hstep
      next hready => exact .receive hcall hready.1 hready.2
  | timeout c =>
    simp only [step] at hstep
    split at hstep
    · cases hstep
    · next call hcall =>
      split at hstep <;> cases hstep
      next hwaiting => exact .timeout hcall hwaiting
  | giveUp c =>
    simp only [step] at hstep
    split at hstep
    · cases hstep
    · next call hcall =>
      split at hstep <;> cases hstep
      · exact .giveUp
      · next htimedOut => exact .cleanUp hcall htimedOut
  | shutdown node =>
    cases hstep
    exact .shutdown node

section Steps

variable {s : State} (hinv : Inv s)

include hinv

variable {c : CallID}

/-- A call that found nobody resolves its own ack on its way out. -/
theorem Inv.fail {call : Call} (hcall : s.call c = some call) :
    Inv ((s.setStage c .failed).resolveAck call.node call.ackID) := by
  have hfailed : Inv (s.setStage c .failed) :=
    hinv.setStage (by decide) fun _ _ _ => .inl rfl
  apply hfailed.resolveAck
  intro other call' hcall' hid
  rcases getElem?_modify_cases hcall' with
    ⟨hne, hcall'⟩ | ⟨rfl, before, hbefore, rfl⟩
  · exact absurd (hinv.unique other c call' call hcall' hcall hid) hne
  · exact .inr (.inl rfl)

/-- `ResolveRemoteAck` takes an entry and tells the container that sent. -/
theorem Inv.routed {notice : Notice} (source : ContainerID)
    (published : Bool) (hlooked : notice ∈ s.looking) :
    Inv { s.setManager notice.node { s.manager notice.node with
        remoteAcks := (s.manager notice.node).remoteAcks.erase
          notice.ackID } with
      looking := s.looking.erase notice
      resolved := if published then ⟨source, notice.ackID⟩ :: s.resolved
        else s.resolved } := by
  have hnext : Inv (s.setManager notice.node { s.manager notice.node with
      remoteAcks := (s.manager notice.node).remoteAcks.erase
        notice.ackID }) :=
    hinv.setManager fun _ _ hlookup => hlookup
  refine { hnext with looking := ?_, resolved := ?_ }
  · intro other hother
    exact hinv.looking other (List.mem_of_mem_erase hother)
  · intro other hother
    split at hother
    · rcases List.mem_cons.mp hother with rfl | hother
      · exact hinv.looking notice hlooked
      · exact hinv.resolved other hother
    · exact hinv.resolved other hother

theorem Inv.ackResolved {notice : Notice} (again : Bool)
    (hsent : notice ∈ s.resolved) :
    Inv ((if again then s
      else { s with resolved := s.resolved.erase notice }).resolveAck
        notice.node notice.ackID) := by
  have hacked := hinv.resolved notice hsent
  split
  · exact hinv.resolveAck (Inv.settled_of_acked hacked)
  · have hnext : Inv { s with resolved := s.resolved.erase notice } :=
      { hinv with
        resolved := fun other h =>
          hinv.resolved other (List.mem_of_mem_erase h) }
    exact hnext.resolveAck (Inv.settled_of_acked hacked)

theorem Inv.close (htaken : c ∈ s.closing) :
    Inv { s.modifyCall c (fun call => { call with closed := true }) with
      closing := s.closing.erase c } := by
  have hnext : Inv (s.modifyCall c fun call =>
      { call with closed := true }) :=
    hinv.modifyCall (fun _ => rfl)
      (fun call hcall _ => hinv.taken c call hcall (.inl htaken))
      fun call hcall hstage => hinv.returned c call hcall hstage
  exact { hnext with
    closing := fun other h =>
      hnext.closing other (List.mem_of_mem_erase h)
    taken := fun other call hcall htook =>
      hnext.taken other call hcall (htook.imp_left List.mem_of_mem_erase) }

/-- A call that sees its channel closed was acknowledged. -/
theorem Inv.receive {call : Call} (hcall : s.call c = some call)
    (hwaiting : call.stage = .waiting) (hclosed : call.closed = true) :
    Inv (s.setStage c (.returned true)) := by
  have hacked : call.ackID ∈ s.acked := by
    rcases hinv.taken c call hcall (.inr hclosed) with
      hacked | hfailed | hreturned
    · exact hacked
    · rw [hwaiting] at hfailed
      cases hfailed
    · rw [hwaiting] at hreturned
      cases hreturned
  have hsame : ∀ call', s.call c = some call' → call'.ackID ∈ s.acked := by
    intro call' hcall'
    cases hcall.symm.trans hcall'
    exact hacked
  exact hinv.modifyCall (fun _ => rfl)
    (fun call' hcall' _ => .inl (hsame call' hcall'))
    fun call' hcall' _ => hsame call' hcall'

end Steps

theorem inv_step {s' : State} {label : Label} (hinv : Inv s)
    (hfresh : DrawsFresh s label) (hquiet : ShutsDownQuiet s label)
    (hstep : step s label = some s') : Inv s' := by
  cases step_cases hstep with
  | createAck node nanoID => exact hinv.createAck node hfresh
  | localAction registered hcall =>
    exact (hinv.registerRemoteAck registered _ _ _).markFound _
  | publish targets hcall => exact { hinv.markFound _ with }
  | await hcall hsending =>
    apply hinv.proceed hcall _ (by decide)
    rw [hsending]
    decide
  | fail hcall => exact hinv.fail hcall
  | handleRequest request connected requests =>
    exact { hinv.registerRemoteAck connected request.target request.ackID
      request.source with }
  | clientAck node ackID =>
    apply (hinv.clientAck ackID).resolveAck
    exact Inv.settled_of_acked List.mem_cons_self
  | look node ackID =>
    have hacked := hinv.clientAck ackID
    exact { hacked with
      looking := List.forall_mem_cons.mpr
        ⟨List.mem_cons_self, hacked.looking⟩ }
  | unrouted published hmissing =>
    exact { hinv with
      looking := fun other h =>
        hinv.looking other (List.mem_of_mem_erase h) }
  | routed published hlooked hentry => exact hinv.routed _ published hlooked
  | ackResolved again hsent => exact hinv.ackResolved again hsent
  | close htaken => exact hinv.close htaken
  | receive hcall hwaiting hclosed =>
    exact hinv.receive hcall hwaiting hclosed
  | timeout hcall hwaiting =>
    apply hinv.proceed hcall _ (by decide)
    rw [hwaiting]
    decide
  | giveUp => exact hinv.setStage (by decide) fun _ _ _ => .inr rfl
  | @cleanUp c call hcall htimedOut =>
    have hnext : Inv (s.setManager call.node { s.manager call.node with
        pending := (s.manager call.node).pending.erase call.ackID }) :=
      hinv.setManager fun _ _ h => (GoMap.lookup_erase_some h).2
    exact hnext.setStage (by decide) fun _ _ _ => .inr rfl
  | shutdown node => exact hinv.shutdown hquiet

/-- In every run in which IDs do not repeat and managers are shut down only
with all pending sends acknowledged, a send that returns `true` was
acknowledged by a client. -/
theorem sound_of_shutsDownQuiet {s : State}
    (hreach : Reach step
      (fun s label => DrawsFresh s label ∧ ShutsDownQuiet s label) {} s) :
    Sound s := by
  have hinv := Reach.invariant Inv inv_start
    (fun _ _ _ hinv hmeets hstep => inv_step hinv hmeets.1 hmeets.2 hstep)
    hreach
  intro call hcall hreturned
  obtain ⟨c, hget⟩ := List.getElem?_of_mem hcall
  exact hinv.returned c call hget hreturned

/-- Container 0 sends, the client acknowledges in container 1, and container 0
is shut down after the answer came back. -/
def acknowledgedRun : List Label :=
  let ackID := ackPrefix ++ [1]
  [.createAck 0 [1], .publish 0 [1], .await 0,
    .handleRequest ⟨1, ackID, 0⟩ true false, .clientAck 1 ackID,
    .resolveRemote ⟨1, ackID⟩ true, .ackResolved ⟨0, ackID⟩ true, .close 0,
    .shutdown 0, .receive 0]

theorem sound_acknowledgedRun :
    (final step {} acknowledgedRun).calls.map Call.stage = [.returned true] ∧
      Sound (final step {} acknowledgedRun) :=
  ⟨by decide +kernel, sound_of_shutsDownQuiet
    (reach_final (by decide +kernel) (by decide +kernel))⟩

/-- Container 0 is shut down while its send waits. -/
def shutdownRun : List Label :=
  [.createAck 0 [1], .publish 0 [1], .await 0, .shutdown 0, .receive 0]

/-- The send returns `true` although no ACK frame was ever processed. -/
theorem shutdownRun_unsound :
    ∃ s, Reach step DrawsFresh {} s ∧ s.acked = [] ∧
      s.calls.map Call.stage = [.returned true] ∧ ¬ Sound s :=
  ⟨final step {} shutdownRun,
    reach_final (by decide +kernel) (by decide +kernel),
    by decide +kernel, by decide +kernel, by decide +kernel⟩

end Ack

end Pipewave
