/-
The calls of `Close` on one admitted connection and the user's close hook.
Every event runs its own sequence of calls; the sequences interleave at the
writes, at the compare-and-swap in `Close`, at the teardown behind it and at
the hook.
-/
import Pipewave.ActiveConn
import Pipewave.Pool
import Pipewave.Transition

namespace Pipewave

namespace CloseHook

open Transition

/-- What is left of a handler: writes that may fail, and calls of `Close`. -/
inductive Task where
  | done
  /-- `writeCloseOnce`; the frame is written by the first call only. -/
  | writeCloseOnce (written failed : Task)
  | writeFrame (written failed : Task)
  | close (rest : Task)
deriving Repr, DecidableEq

/-- What makes a goroutine act on the connection. -/
inductive Event where
  | readHup
  /-- `ReadHeader` returns `io.EOF` or `net.ErrClosed`. -/
  | readEnd
  | payloadReadFailed
  /-- An oversized, invalid or fragmented frame. -/
  | protocolError
  | closeFrame (length : Nat)
  /-- A ping frame that is answered. -/
  | pingFrame
  /-- The server's own ping, unless the last one is overdue. -/
  | ping (overdue : Bool)
  | send
  | versionMismatch
  | idleTimer
  | duplicate
  | disconnect
  | shutdown
deriving Repr, DecidableEq

def handleProtocolError : Task :=
  .writeCloseOnce (.close .done) (.close .done)

/-- `handleFrame` around `handleCloseFrame`: an error the handler returns is a
protocol error. -/
def handleCloseFrame (length : Nat) : Task :=
  if length = 1 then .writeCloseOnce .done handleProtocolError
  else .writeCloseOnce (.close .done) (.close handleProtocolError)

/-- The calls an event makes; an event of the other transport makes none. -/
def Event.task : WsCoreType → Event → Option Task
  | _, .duplicate | _, .disconnect | _, .shutdown => some (.close .done)
  | .longPolling, .idleTimer => some (.close .done)
  | .gobwas, .readHup | .gobwas, .readEnd | .gobwas, .payloadReadFailed =>
    some (.close .done)
  | .gobwas, .protocolError => some handleProtocolError
  | .gobwas, .closeFrame length => some (handleCloseFrame length)
  | .gobwas, .pingFrame => some (.writeFrame .done handleProtocolError)
  | .gobwas, .ping true => some (.close .done)
  | .gobwas, .ping false | .gobwas, .send =>
    some (.writeFrame .done (.close .done))
  | .gobwas, .versionMismatch =>
    some (.writeCloseOnce (.close .done) (.close .done))
  | _, _ => none

/-- A goroutine, between its calls or inside a call of `Close`. -/
inductive Thread where
  | running (task : Task)
  /-- The swap was won; the teardown is next. -/
  | tearDown (rest : Task)
  /-- `removeClient` has returned; the hook is next. -/
  | hook (rest : Task)
deriving Repr, DecidableEq

def Thread.inClose : Thread → Bool
  | .running _ => false
  | _ => true

/-- One connection with a configured hook.  `hooks` counts the calls of the
hook and `completed` those of `Close` that returned. -/
structure State where
  transport : WsCoreType
  closed : Bool := false
  closeTx : Bool := false
  socketClosed : Bool := false
  threads : List Thread := []
  hooks : Nat := 0
  completed : Nat := 0
deriving Repr, DecidableEq

inductive Label where
  | event (event : Event)
  /-- A goroutine makes its next move; `ok` says how a write ends. -/
  | run (i : Nat) (ok : Bool)
deriving Repr, DecidableEq

/-- The outcome of a frame: nothing can be written to a closed socket. -/
def State.wrote (state : State) (ok : Bool) : Bool :=
  ok && !state.socketClosed

/-- The next move of goroutine `i`. -/
def runThread (state : State) (i : Nat) (ok : Bool) :
    Thread → Option State
  | .running .done => none
  | .running (.writeCloseOnce written failed) =>
    if state.closeTx then
      some { state with threads := state.threads.set i (.running written) }
    else some { state with
      closeTx := true
      threads := state.threads.set i
        (.running (if state.wrote ok then written else failed)) }
  | .running (.writeFrame written failed) => some { state with
      threads := state.threads.set i
        (.running (if state.wrote ok then written else failed)) }
  | .running (.close rest) =>
    match state.closed, state.transport with
    | false, _ => some { state with
        closed := true, threads := state.threads.set i (.tearDown rest) }
    | true, .gobwas => some { state with
        threads := state.threads.set i (.hook rest) }
    | true, .longPolling => some { state with
        threads := state.threads.set i (.running rest)
        completed := state.completed + 1 }
  | .tearDown rest =>
    match state.transport with
    | .gobwas => some { state with
        socketClosed := true
        threads := state.threads.set i (.hook rest) }
    | .longPolling => some { state with
        socketClosed := true
        threads := state.threads.set i (.running rest)
        completed := state.completed + 1 }
  | .hook rest => some { state with
      threads := state.threads.set i (.running rest)
      hooks := state.hooks + 1
      completed := state.completed + 1 }

def step (state : State) : Label → Option State
  | .event event =>
    (event.task state.transport).map fun task => { state with
      threads := state.threads ++ [.running task] }
  | .run i ok =>
    match state.threads[i]? with
    | none => none
    | some thread => runThread state i ok thread

def start (transport : WsCoreType) : State := { transport }

/-- Once a call of `Close` has returned, the hook has run exactly once. -/
def HookOnce (state : State) : Prop := 0 < state.completed → state.hooks = 1

/-- The next move of goroutine `i` is to enter `Close`. -/
def State.callsClose (state : State) (i : Nat) : Bool :=
  match state.threads[i]? with
  | some (.running (.close _)) => true
  | _ => false

/-- A goroutine calls `Close` only on a WebSocket connection, and only while no
call of `Close` has begun on it. -/
def Guard (state : State) : Label → Prop
  | .event _ => True
  | .run i _ => state.callsClose i = true →
      state.transport = .gobwas ∧ state.closed = false

instance (state : State) : ∀ label, Decidable (Guard state label)
  | .event _ => .isTrue trivial
  | .run _ _ => inferInstanceAs (Decidable (_ → _))

section Moves

variable {state next : State}

/-- The ways a goroutine can move, with what each leaves alone. -/
inductive Move (state : State) (i : Nat) : State → Prop where
  | go (task next : Task) (closeTx : Bool)
      (thread : state.threads[i]? = some (.running task)) :
      Move state i { state with
        closeTx, threads := state.threads.set i (.running next) }
  | win (rest : Task)
      (thread : state.threads[i]? = some (.running (.close rest)))
      (closed : state.closed = false) :
      Move state i { state with
        closed := true, threads := state.threads.set i (.tearDown rest) }
  | lose (rest : Task)
      (thread : state.threads[i]? = some (.running (.close rest)))
      (closed : state.closed = true) (transport : state.transport = .gobwas) :
      Move state i { state with
        threads := state.threads.set i (.hook rest) }
  | skip (rest : Task)
      (thread : state.threads[i]? = some (.running (.close rest)))
      (closed : state.closed = true)
      (transport : state.transport = .longPolling) :
      Move state i { state with
        threads := state.threads.set i (.running rest)
        completed := state.completed + 1 }
  | removed (rest : Task) (thread : state.threads[i]? = some (.tearDown rest))
      (transport : state.transport = .gobwas) :
      Move state i { state with
        socketClosed := true, threads := state.threads.set i (.hook rest) }
  | ended (rest : Task) (thread : state.threads[i]? = some (.tearDown rest))
      (transport : state.transport = .longPolling) :
      Move state i { state with
        socketClosed := true
        threads := state.threads.set i (.running rest)
        completed := state.completed + 1 }
  | called (rest : Task) (thread : state.threads[i]? = some (.hook rest)) :
      Move state i { state with
        threads := state.threads.set i (.running rest)
        hooks := state.hooks + 1
        completed := state.completed + 1 }

variable {i : Nat}

theorem move_of_step {ok : Bool} (hstep : step state (.run i ok) = some next) :
    Move state i next := by
  simp only [step] at hstep
  split at hstep
  · cases hstep
  next thread hthread =>
    cases thread with
    | running task =>
      cases task with
      | done => cases hstep
      | writeCloseOnce written failed =>
        simp only [runThread] at hstep
        split at hstep
        · cases hstep
          exact .go _ _ state.closeTx hthread
        · cases hstep
          exact .go _ _ true hthread
      | writeFrame written failed =>
        cases hstep
        exact .go _ _ state.closeTx hthread
      | close rest =>
        simp only [runThread] at hstep
        split at hstep
        next hclosed =>
          cases hstep
          exact .win rest hthread hclosed
        next hclosed htransport =>
          cases hstep
          exact .lose rest hthread hclosed htransport
        next hclosed htransport =>
          cases hstep
          exact .skip rest hthread hclosed htransport
    | tearDown rest =>
      simp only [runThread] at hstep
      split at hstep
      next htransport =>
        cases hstep
        exact .removed rest hthread htransport
      next htransport =>
        cases hstep
        exact .ended rest hthread htransport
    | hook rest =>
      cases hstep
      exact .called rest hthread

/-- The hook runs in every call of `Close` on a WebSocket connection and in
none on a long-polling one. -/
structure Accounted (state : State) : Prop where
  gobwas : state.transport = .gobwas → state.hooks = state.completed
  longPolling : state.transport = .longPolling → state.hooks = 0 ∧
    ∀ rest, Thread.hook rest ∉ state.threads

theorem accounted_start (transport : WsCoreType) :
    Accounted (start transport) where
  gobwas := fun _ => rfl
  longPolling := fun _ => ⟨rfl, fun _ => List.not_mem_nil⟩

/-- A goroutine that is not put before the hook is not found there. -/
theorem not_hook_mem_set {threads : List Thread} {thread : Thread}
    (hnone : ∀ rest, Thread.hook rest ∉ threads)
    (hthread : ∀ rest, thread ≠ .hook rest) :
    ∀ rest, Thread.hook rest ∉ threads.set i thread := by
  intro rest hmem
  rcases List.mem_or_eq_of_mem_set hmem with hold | heq
  · exact hnone rest hold
  · exact hthread rest heq.symm

theorem accounted_move (hacc : Accounted state) (hmove : Move state i next) :
    Accounted next := by
  cases hmove with
  | go task next closeTx thread =>
    refine ⟨hacc.gobwas, fun h => ⟨(hacc.longPolling h).1, ?_⟩⟩
    exact not_hook_mem_set (hacc.longPolling h).2 fun _ => by simp
  | win rest thread closed =>
    refine ⟨hacc.gobwas, fun h => ⟨(hacc.longPolling h).1, ?_⟩⟩
    exact not_hook_mem_set (hacc.longPolling h).2 fun _ => by simp
  | lose rest thread closed transport =>
    exact ⟨hacc.gobwas, fun h => by simp [transport] at h⟩
  | skip rest thread closed transport =>
    refine ⟨fun h => by simp [transport] at h, fun h =>
      ⟨(hacc.longPolling h).1, ?_⟩⟩
    exact not_hook_mem_set (hacc.longPolling h).2 fun _ => by simp
  | removed rest thread transport =>
    exact ⟨hacc.gobwas, fun h => by simp [transport] at h⟩
  | ended rest thread transport =>
    refine ⟨fun h => by simp [transport] at h, fun h =>
      ⟨(hacc.longPolling h).1, ?_⟩⟩
    exact not_hook_mem_set (hacc.longPolling h).2 fun _ => by simp
  | called rest thread =>
    refine ⟨fun h => congrArg (· + 1) (hacc.gobwas h), fun h => ?_⟩
    exact absurd (List.mem_of_getElem? thread) ((hacc.longPolling h).2 rest)

theorem accounted_step (label : Label) (hacc : Accounted state)
    (hstep : step state label = some next) : Accounted next := by
  cases label with
  | event event =>
    simp only [step, Option.map_eq_some_iff] at hstep
    obtain ⟨task, -, rfl⟩ := hstep
    refine ⟨hacc.gobwas, fun h => ⟨(hacc.longPolling h).1, ?_⟩⟩
    intro rest hmem
    rcases List.mem_append.mp hmem with hold | hnew
    · exact (hacc.longPolling h).2 rest hold
    · cases List.mem_singleton.mp hnew
  | run i ok => exact accounted_move hacc (move_of_step hstep)

/-- How the hook fares is a matter of how many calls of `Close` returned. -/
theorem hookOnce_iff (hacc : Accounted state) :
    HookOnce state ↔ state.completed = 0 ∨
      state.transport = .gobwas ∧ state.completed = 1 := by
  unfold HookOnce
  cases htransport : state.transport with
  | gobwas =>
    have hhooks := hacc.gobwas htransport
    simp only [true_and]
    omega
  | longPolling =>
    have hhooks := (hacc.longPolling htransport).1
    simp only [reduceCtorEq, false_and, or_false]
    omega

/-- At most one call of `Close` has begun, and it is where the flag says. -/
structure Inv (state : State) : Prop where
  accounted : Accounted state
  transport : state.closed = true → state.transport = .gobwas
  single : state.completed + state.threads.countP Thread.inClose =
    if state.closed then 1 else 0

theorem inv_start (transport : WsCoreType) : Inv (start transport) where
  accounted := accounted_start transport
  transport := fun h => by cases h
  single := rfl

theorem callsClose_of_getElem? {rest : Task}
    (hthread : state.threads[i]? = some (.running (.close rest))) :
    state.callsClose i = true := by
  simp [State.callsClose, hthread]

/-- While a goroutine is inside `Close` the flag is set. -/
theorem Inv.closed_of_inClose (hinv : Inv state) {thread : Thread}
    (hthread : state.threads[i]? = some thread)
    (hinside : thread.inClose = true) : state.closed = true := by
  have hpos : 0 < state.threads.countP Thread.inClose :=
    List.countP_pos_iff.mpr ⟨thread, List.mem_of_getElem? hthread, hinside⟩
  have hsingle := hinv.single
  by_contra hopen
  rw [if_neg hopen] at hsingle
  omega

theorem inv_move (hinv : Inv state) (hguard : state.callsClose i = true →
      state.transport = .gobwas ∧ state.closed = false)
    (hmove : Move state i next) : Inv next := by
  have haccounted := accounted_move hinv.accounted hmove
  have hsingle := hinv.single
  cases hmove with
  | go task next closeTx thread =>
    have hcount : (state.threads.set i (.running next)).countP
        Thread.inClose + 0 = state.threads.countP Thread.inClose + 0 :=
      countP_set_add Thread.inClose thread _
    exact ⟨haccounted, hinv.transport,
      (congrArg (state.completed + ·) hcount).trans hsingle⟩
  | win rest thread closed =>
    have hcount : (state.threads.set i (.tearDown rest)).countP
        Thread.inClose + 0 = state.threads.countP Thread.inClose + 1 :=
      countP_set_add Thread.inClose thread _
    have hgobwas := (hguard (callsClose_of_getElem? thread)).1
    rw [closed] at hsingle
    refine ⟨haccounted, fun _ => hgobwas, ?_⟩
    simp only [Bool.false_eq_true, if_false, if_true] at hsingle ⊢
    omega
  | lose rest thread closed transport =>
    have hopen := (hguard (callsClose_of_getElem? thread)).2
    rw [closed] at hopen
    cases hopen
  | skip rest thread closed transport =>
    have hopen := (hguard (callsClose_of_getElem? thread)).2
    rw [closed] at hopen
    cases hopen
  | removed rest thread transport =>
    have hcount : (state.threads.set i (.hook rest)).countP
        Thread.inClose + 1 = state.threads.countP Thread.inClose + 1 :=
      countP_set_add Thread.inClose thread _
    exact ⟨haccounted, hinv.transport, (congrArg (state.completed + ·)
      (Nat.add_right_cancel hcount)).trans hsingle⟩
  | ended rest thread transport =>
    have hgobwas := hinv.transport (hinv.closed_of_inClose thread rfl)
    rw [transport] at hgobwas
    cases hgobwas
  | called rest thread =>
    have hcount : (state.threads.set i (.running rest)).countP
        Thread.inClose + 1 = state.threads.countP Thread.inClose + 0 :=
      countP_set_add Thread.inClose thread _
    refine ⟨haccounted, hinv.transport, ?_⟩
    rw [← hsingle]
    simp only
    omega

theorem inv_step (label : Label) (hinv : Inv state)
    (hguard : Guard state label) (hstep : step state label = some next) :
    Inv next := by
  cases label with
  | event event =>
    have haccounted := accounted_step _ hinv.accounted hstep
    simp only [step, Option.map_eq_some_iff] at hstep
    obtain ⟨task, -, rfl⟩ := hstep
    refine ⟨haccounted, hinv.transport, ?_⟩
    have hsingle := hinv.single
    simpa [List.countP_append, Thread.inClose] using hsingle
  | run i ok => exact inv_move hinv hguard (move_of_step hstep)

end Moves

/-- If `Close` is only ever called once, and on a WebSocket connection, the
hook runs exactly once. -/
theorem hookOnce_of_guard {transport : WsCoreType} {state : State}
    (hreach : Reach step Guard (start transport) state) :
    HookOnce state := by
  have hinv := Reach.invariant Inv (inv_start transport)
    (fun _ label _ hinv hguard hstep => inv_step label hinv hguard hstep)
    hreach
  rw [hookOnce_iff hinv.accounted]
  have hsingle := hinv.single
  by_cases hclosed : state.closed = true
  · rw [if_pos hclosed] at hsingle
    have hgobwas := hinv.transport hclosed
    simp only [hgobwas, true_and]
    omega
  · rw [if_neg hclosed] at hsingle
    omega

/-- The peer closes, and the answering frame is written. -/
def closeHandshake : List Label :=
  [.event .send, .run 0 true, .event (.closeFrame 2), .run 1 true, .run 1 true,
    .run 1 true, .run 1 true]

theorem hookOnce_closeHandshake :
    let state := final step (start .gobwas) closeHandshake
    state.completed = 1 ∧ HookOnce state :=
  ⟨by decide +kernel, hookOnce_of_guard
    (reach_final (by decide +kernel) (by decide +kernel))⟩

/-- The peer closes and is gone before the answering frame is written. -/
def failedHandshake : List Label :=
  [.event (.closeFrame 2), .run 0 false, .run 0 true, .run 0 true, .run 0 true,
    .run 0 true, .run 0 true, .run 0 true]

/-- A long-polling client stops polling. -/
def idleClient : List Label := [.event .idleTimer, .run 0 true, .run 0 true]

/-- One close frame runs the hook twice, and a closed long-polling connection
does not run it at all. -/
theorem hook_not_once :
    (let state := final step (start .gobwas) failedHandshake
     Reach step Unguarded (start .gobwas) state ∧
       state.hooks = 2 ∧ ¬ HookOnce state) ∧
    (let state := final step (start .longPolling) idleClient
     Reach step Unguarded (start .longPolling) state ∧
       state.completed = 1 ∧ state.hooks = 0 ∧ ¬ HookOnce state) := by
  refine ⟨⟨?_, by decide +kernel, ?_⟩, ?_, by decide +kernel,
    by decide +kernel, ?_⟩
  · exact reach_final (by decide +kernel) (by decide +kernel)
  · unfold HookOnce
    decide +kernel
  · exact reach_final (by decide +kernel) (by decide +kernel)
  · unfold HookOnce
    decide +kernel

end CloseHook

end Pipewave
