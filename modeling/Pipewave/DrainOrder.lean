/-
The callback of a new connection against senders that find the connection in
the manager.  The callback holds the drain lock from before it registers the
connection until the last buffered message is written; a sender takes the lock
for reading around its write.
-/
import Pipewave.ActiveConn
import Pipewave.PendingMessage
import Pipewave.Pool
import Pipewave.Transition

namespace Pipewave

namespace DrainOrder

open Transition

/-- A payload in the transport and the call that wrote it. -/
inductive Written where
  | direct (payload : Bytes)
  | sent (payload : Bytes)
deriving Repr, DecidableEq

/-- Where the callback of the new connection is. -/
inductive Stage where
  | starting
  | refused
  | stored
  | locked
  | registered
  | draining (rest : List PendingMessage)
  | returned
deriving Repr, DecidableEq

/-- The callback is between `BeginDrain` and `EndDrain`. -/
def Stage.holdsLock : Stage → Bool
  | .locked | .registered | .draining _ => true
  | _ => false

/-- The connection has been handed to the manager. -/
def Stage.afterRegister : Stage → Bool
  | .registered | .draining _ | .returned => true
  | _ => false

/-- `Consume` has not returned yet. -/
def Stage.beforeConsume : Stage → Bool
  | .draining _ | .returned => false
  | _ => true

/-- What `Consume` returned and the loop has not reached. -/
def Stage.rest : Stage → List PendingMessage
  | .draining rest => rest
  | _ => []

/-- Where a call of `Send` is: before, in and behind its write, and after the
read lock is released. -/
inductive Phase where
  | blocked
  | reading
  | unlocking
  | returned
deriving Repr, DecidableEq

structure Sender where
  payload : Bytes
  phase : Phase := .blocked
deriving Repr, DecidableEq

/-- One connection, its callback and the calls of `Send` on it.  `consumed` is
what `Consume` returned. -/
structure State where
  transport : WsCoreType
  auth : WebsocketAuth
  stage : Stage := .starting
  closed : Bool := false
  inManager : Bool := false
  senders : List Sender := []
  consumed : List PendingMessage := []
  written : List Written := []
deriving Repr, DecidableEq

/-- The first `Close` takes the connection out of the manager. -/
def State.close (state : State) : State :=
  if state.closed then state
  else { state with closed := true, inManager := false }

/-- A write that the transport accepts or refuses.  A closed socket accepts
none, and a refused frame closes the connection; the queue behind long polling
takes messages for a closed connection too. -/
def State.write (state : State) (entry : Written) (ok : Bool) :
    Option State :=
  match state.transport, ok with
  | .gobwas, true =>
    if state.closed then none
    else some { state with written := state.written ++ [entry] }
  | .gobwas, false => some state.close
  | .longPolling, true =>
    some { state with written := state.written ++ [entry] }
  | .longPolling, false => some state

/-- Set the phase of a call of `Send`. -/
def State.setPhase (state : State) (i : Nat) (sender : Sender)
    (phase : Phase) : State :=
  { state with senders := state.senders.set i { sender with phase } }

inductive Label where
  /-- The callback's upsert of the row, which may fail. -/
  | addConnection (ok : Bool)
  | beginDrain
  | register
  /-- `Consume` over whatever table it finds; an error gives no messages. -/
  | consume (table : PendingTable) (ok : Bool)
  | sendDirect (ok : Bool)
  | endDrain
  /-- A goroutine finds the connection in the manager and calls `Send`. -/
  | obtain (payload : Bytes)
  | rLock (i : Nat)
  | send (i : Nat) (ok : Bool)
  | rUnlock (i : Nat)
  | close
deriving Repr, DecidableEq

def step (state : State) : Label → Option State
  | .addConnection ok =>
    match state.stage with
    | .starting =>
      some { state with stage := if ok then .stored else .refused }
    | _ => none
  | .beginDrain =>
    -- the write lock waits for every reader
    match state.stage with
    | .stored =>
      if state.senders.any fun sender =>
          sender.phase = .reading ∨ sender.phase = .unlocking then none
      else some { state with stage := .locked }
    | _ => none
  | .register =>
    match state.stage with
    | .locked => some { state with stage := .registered, inManager := true }
    | _ => none
  | .consume table ok =>
    match state.stage with
    | .registered =>
      let rows := if ok then table.ofSession (sessionKey state.auth) else []
      some { state with stage := .draining rows, consumed := rows }
    | _ => none
  | .sendDirect ok =>
    -- a failed write is logged and the loop goes on
    match state.stage with
    | .draining (row :: rest) =>
      { state with stage := .draining rest }.write (.direct row.message) ok
    | _ => none
  | .endDrain =>
    match state.stage with
    | .draining [] => some { state with stage := .returned }
    | _ => none
  | .obtain payload =>
    if state.inManager then
      some { state with senders := state.senders ++ [{ payload }] }
    else none
  | .rLock i =>
    match state.senders[i]? with
    | some sender =>
      if sender.phase = .blocked ∧ state.stage.holdsLock = false then
        some (state.setPhase i sender .reading)
      else none
    | none => none
  | .send i ok =>
    match state.senders[i]? with
    | some sender =>
      if sender.phase = .reading then
        (state.setPhase i sender .unlocking).write (.sent sender.payload) ok
      else none
    | none => none
  | .rUnlock i =>
    match state.senders[i]? with
    | some sender =>
      if sender.phase = .unlocking then
        some (state.setPhase i sender .returned)
      else none
    | none => none
  | .close => some state.close

def start (transport : WsCoreType) (auth : WebsocketAuth) : State :=
  { transport, auth }

/-- The transport holds buffered messages and then sent ones; the buffered ones
and those still to come are among what `Consume` returned, in its order. -/
def Split (state : State) : Prop :=
  ∃ (rows : List PendingMessage) (payloads : List Bytes),
    state.written = rows.map (fun row => .direct row.message) ++
      payloads.map .sent ∧
    (rows ++ state.stage.rest).Sublist state.consumed ∧
    (payloads ≠ [] → state.stage = .returned)

structure Inv (state : State) : Prop where
  inManager : state.inManager = true → state.stage.afterRegister = true
  obtained : ∀ sender ∈ state.senders, state.stage.afterRegister = true
  reading : ∀ sender ∈ state.senders, sender.phase ≠ .blocked →
    state.stage = .returned
  unread : state.stage.beforeConsume = true → state.consumed = []
  sorted : state.consumed.Pairwise fun a b => a.sendAt ≤ b.sendAt
  split : Split state

theorem inv_start (transport : WsCoreType) (auth : WebsocketAuth) :
    Inv (start transport auth) where
  inManager := fun h => by cases h
  obtained := fun _ h => by cases h
  reading := fun _ h => by cases h
  unread := fun _ => rfl
  sorted := .nil
  split := ⟨[], [], rfl, .slnil, fun h => absurd rfl h⟩

theorem Stage.of_not_afterRegister {stage : Stage}
    (hbefore : stage.afterRegister = false) :
    stage.rest = [] ∧ stage.beforeConsume = true ∧ stage ≠ .returned := by
  cases stage with
  | starting | refused | stored | locked => exact ⟨rfl, rfl, Stage.noConfusion⟩
  | registered | draining _ | returned => cases hbefore

/-- Whoever finds a registered connection unlocked comes after the drain. -/
theorem Stage.eq_returned {stage : Stage}
    (hafter : stage.afterRegister = true) (hfree : stage.holdsLock = false) :
    stage = .returned := by
  cases stage with
  | starting | refused | stored | locked => cases hafter
  | registered | draining _ => cases hfree
  | returned => rfl

section Steps

variable {state next : State}

theorem Inv.close (hinv : Inv state) : Inv state.close := by
  unfold State.close
  split
  · exact hinv
  · exact { hinv with inManager := fun h => by cases h }

theorem write_eq {entry : Written} {ok : Bool}
    (hwrite : state.write entry ok = some next) :
    next = { state with written := state.written ++ [entry] } ∨
      next = state ∨ next = state.close := by
  unfold State.write at hwrite
  split at hwrite
  · split at hwrite
    · cases hwrite
    · cases hwrite
      exact .inl rfl
  · cases hwrite
    exact .inr (.inr rfl)
  · cases hwrite
    exact .inl rfl
  · cases hwrite
    exact .inr (.inl rfl)

/-- A write keeps the invariant if the entry, once written, does. -/
theorem Inv.write (hinv : Inv state) {entry : Written} {ok : Bool}
    (hsplit : Split { state with written := state.written ++ [entry] })
    (hwrite : state.write entry ok = some next) : Inv next := by
  rcases write_eq hwrite with rfl | rfl | rfl
  · exact { hinv with split := hsplit }
  · exact hinv
  · exact hinv.close

theorem Inv.setPhase (hinv : Inv state) {i : Nat} {sender : Sender}
    (hsender : state.senders[i]? = some sender) {phase : Phase}
    (hphase : phase ≠ .blocked → state.stage = .returned) :
    Inv (state.setPhase i sender phase) := by
  have hmem := List.mem_of_getElem? hsender
  refine { hinv with obtained := ?_, reading := ?_ }
  · intro _ _
    exact hinv.obtained sender hmem
  · intro other hother
    rcases List.mem_or_eq_of_mem_set hother with hold | rfl
    · exact hinv.reading other hold
    · exact hphase

/-- The callback moves on without a write.  Nobody has sent anything before it
returns. -/
theorem Inv.advance (hinv : Inv state) {stage : Stage} {inManager : Bool}
    (hmanager : inManager = true → stage.afterRegister = true)
    (hafter : state.stage.afterRegister = true → stage.afterRegister = true)
    (hread : stage.beforeConsume = true → state.stage.beforeConsume = true)
    (hreturned : state.stage ≠ .returned)
    (hrest : stage.rest = state.stage.rest) :
    Inv { state with stage, inManager } := by
  obtain ⟨rows, payloads, hwritten, hrows, hsent⟩ := hinv.split
  refine { hinv with
    inManager := hmanager
    obtained := fun sender hsender => hafter (hinv.obtained sender hsender)
    reading := fun sender hsender hphase =>
      absurd (hinv.reading sender hsender hphase) hreturned
    unread := fun hbefore => hinv.unread (hread hbefore)
    split := ⟨rows, payloads, hwritten, ?_, fun hne =>
      absurd (hsent hne) hreturned⟩ }
  rw [← hrest] at hrows
  exact hrows

/-- Before it registers the connection the callback may move on freely. -/
theorem Inv.prepare (hinv : Inv state) {stage : Stage}
    (hbefore : state.stage.afterRegister = false)
    (hstill : stage.afterRegister = false) :
    Inv { state with stage } := by
  obtain ⟨hrest, hread, hreturned⟩ := Stage.of_not_afterRegister hbefore
  obtain ⟨hrest', -, -⟩ := Stage.of_not_afterRegister hstill
  have hnever : state.stage.afterRegister ≠ true := by simp [hbefore]
  exact hinv.advance (fun h => absurd (hinv.inManager h) hnever)
    (fun h => absurd h hnever) (fun _ => hread) hreturned
    (hrest'.trans hrest.symm)

/-- What the loop takes off its list it may write. -/
theorem Inv.drop (hinv : Inv state) {row : PendingMessage}
    {rest : List PendingMessage} (hstage : state.stage = .draining (row :: rest)) :
    Inv { state with stage := .draining rest } ∧
      Split { state with
        stage := .draining rest
        written := state.written ++ [.direct row.message] } := by
  obtain ⟨rows, payloads, hwritten, hrows, hsent⟩ := hinv.split
  have hnone : payloads = [] := by
    by_contra hne
    exact absurd (hsent hne) (by simp [hstage])
  rw [hnone, List.map_nil, List.append_nil] at hwritten
  rw [hstage] at hrows
  constructor
  · refine { hinv with
      inManager := fun _ => rfl
      obtained := fun _ _ => rfl
      reading := fun sender hsender hphase =>
        absurd (hinv.reading sender hsender hphase) (by simp [hstage])
      unread := fun h => by cases h
      split := ⟨rows, [], ?_, ?_, fun h => absurd rfl h⟩ }
    · rw [hwritten, List.map_nil, List.append_nil]
    · exact (List.Sublist.append_left (List.sublist_cons_self row rest)
        rows).trans hrows
  · refine ⟨rows ++ [row], [], ?_, ?_, fun h => absurd rfl h⟩
    · simp [hwritten]
    · simpa [Stage.rest] using hrows

/-- A sender that holds the lock may write. -/
theorem Split.sent (hsplit : Split state) (hstage : state.stage = .returned)
    (payload : Bytes) :
    Split { state with written := state.written ++ [.sent payload] } := by
  obtain ⟨rows, payloads, hwritten, hrows, -⟩ := hsplit
  refine ⟨rows, payloads ++ [payload], ?_, hrows, fun _ => hstage⟩
  simp [hwritten]

theorem inv_consume (hinv : Inv state) (hstage : state.stage = .registered)
    {rows : List PendingMessage}
    (hsorted : rows.Pairwise fun a b => a.sendAt ≤ b.sendAt) :
    Inv { state with stage := .draining rows, consumed := rows } := by
  obtain ⟨drained, payloads, hwritten, hdrained, hsent⟩ := hinv.split
  have hnone : payloads = [] := by
    by_contra hne
    exact absurd (hsent hne) (by simp [hstage])
  -- nothing was consumed, so nothing was written
  rw [hinv.unread (by rw [hstage]; rfl), List.sublist_nil,
    List.append_eq_nil_iff] at hdrained
  rw [hnone, hdrained.1] at hwritten
  exact {
    inManager := fun _ => rfl
    obtained := fun _ _ => rfl
    reading := fun sender hsender hphase =>
      absurd (hinv.reading sender hsender hphase) (by simp [hstage])
    unread := fun h => by cases h
    sorted := hsorted
    split := ⟨[], [], hwritten, .refl _, fun h => absurd rfl h⟩ }

theorem inv_step (label : Label) (hinv : Inv state)
    (hstep : step state label = some next) : Inv next := by
  cases label with
  | addConnection ok =>
    simp only [step] at hstep
    split at hstep
    · next hstage =>
      cases hstep
      exact hinv.prepare (by rw [hstage]; rfl) (by cases ok <;> rfl)
    · cases hstep
  | beginDrain =>
    simp only [step] at hstep
    split at hstep
    · next hstage =>
      split at hstep
      · cases hstep
      · cases hstep
        exact hinv.prepare (by rw [hstage]; rfl) rfl
    · cases hstep
  | register =>
    simp only [step] at hstep
    split at hstep
    · next hstage =>
      cases hstep
      exact hinv.advance (fun _ => rfl) (fun _ => rfl)
        (fun _ => by rw [hstage]; rfl) (by simp [hstage])
        (by rw [hstage]; rfl)
    · cases hstep
  | consume table ok =>
    simp only [step] at hstep
    split at hstep
    · next hstage =>
      cases hstep
      refine inv_consume hinv hstage ?_
      split
      · exact List.pairwise_insertionSort _ _
      · exact .nil
    · cases hstep
  | sendDirect ok =>
    simp only [step] at hstep
    split at hstep
    · next hstage =>
      obtain ⟨hdropped, hsplit⟩ := hinv.drop hstage
      exact hdropped.write hsplit hstep
    · cases hstep
  | endDrain =>
    simp only [step] at hstep
    split at hstep
    · next hstage =>
      cases hstep
      exact hinv.advance (fun _ => rfl) (fun _ => rfl)
        (fun h => by cases h) (by simp [hstage]) (by rw [hstage]; rfl)
    · cases hstep
  | obtain payload =>
    simp only [step] at hstep
    split at hstep
    · next hmanager =>
      cases hstep
      refine { hinv with
        obtained := fun _ _ => hinv.inManager hmanager
        reading := ?_ }
      intro sender hsender hphase
      rcases List.mem_append.mp hsender with hold | hnew
      · exact hinv.reading sender hold hphase
      · rw [List.mem_singleton.mp hnew] at hphase
        exact absurd rfl hphase
    · cases hstep
  | rLock i =>
    simp only [step] at hstep
    split at hstep
    · next sender hsender =>
      split at hstep
      · next hfree =>
        cases hstep
        refine hinv.setPhase hsender fun _ => ?_
        have hafter := hinv.obtained sender (List.mem_of_getElem? hsender)
        exact Stage.eq_returned hafter hfree.2
      · cases hstep
    · cases hstep
  | send i ok =>
    simp only [step] at hstep
    split at hstep
    · next sender hsender =>
      split at hstep
      · next hreading =>
        have hstage := hinv.reading sender (List.mem_of_getElem? hsender)
          (by simp [hreading])
        have hset : Inv (state.setPhase i sender .unlocking) :=
          hinv.setPhase hsender fun _ => hstage
        exact hset.write (hset.split.sent hstage sender.payload) hstep
      · cases hstep
    · cases hstep
  | rUnlock i =>
    simp only [step] at hstep
    split at hstep
    · next sender hsender =>
      split at hstep
      · next hunlocking =>
        cases hstep
        exact hinv.setPhase hsender fun _ => hinv.reading sender
          (List.mem_of_getElem? hsender) (by simp [hunlocking])
      · cases hstep
    · cases hstep
  | close =>
    cases hstep
    exact hinv.close

end Steps

/-- Whatever the interleaving, the transport holds messages of `Consume`, in
the order of their stamps, and behind them the payloads of `Send`. -/
theorem pending_before_sent {transport : WsCoreType} {auth : WebsocketAuth}
    {state : State} (hreach : Reach step Unguarded
      (start transport auth) state) :
    ∃ (rows : List PendingMessage) (payloads : List Bytes),
      state.written = rows.map (fun row => .direct row.message) ++
        payloads.map .sent ∧
      rows.Sublist state.consumed ∧
      state.consumed.Pairwise fun a b => a.sendAt ≤ b.sendAt := by
  have hinv := Reach.invariant Inv (inv_start transport auth)
    (fun _ label _ hinv _ hstep => inv_step label hinv hstep) hreach
  obtain ⟨rows, payloads, hwritten, hrows, -⟩ := hinv.split
  exact ⟨rows, payloads, hwritten,
    (List.sublist_append_left _ _).trans hrows, hinv.sorted⟩

/-- A sender is blocked through the drain of three messages, the second of
which the transport refuses. -/
def blockedSender : List Label :=
  let auth : WebsocketAuth := { userID := [0x75], instanceID := [0x69] }
  let table : PendingTable :=
    [⟨sessionKey auth, 9, [0x63], 60⟩, ⟨sessionKey auth, 5, [0x61], 60⟩,
      ⟨sessionKey auth, 7, [0x62], 60⟩]
  [.addConnection true, .beginDrain, .register, .obtain [0x6E],
    .consume table true, .sendDirect true, .sendDirect false,
    .sendDirect true, .endDrain, .rLock 0, .send 0 true, .rUnlock 0]

theorem blockedSender_ordered :
    let auth : WebsocketAuth := { userID := [0x75], instanceID := [0x69] }
    let state := final step (start .longPolling auth) blockedSender
    state.written = [.direct [0x61], .direct [0x63], .sent [0x6E]] ∧
      ∃ (rows : List PendingMessage) (payloads : List Bytes),
        state.written = rows.map (fun row => .direct row.message) ++
          payloads.map .sent ∧
        rows.Sublist state.consumed ∧
        state.consumed.Pairwise fun a b => a.sendAt ≤ b.sendAt :=
  ⟨by decide +kernel, pending_before_sent
    (reach_final (by decide +kernel) (by decide +kernel))⟩

end DrainOrder

end Pipewave
