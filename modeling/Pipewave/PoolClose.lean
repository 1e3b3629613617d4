/-
Closing a worker pool.  `Submit` holds the read lock around its send, `Close`
takes the write lock before it closes the queue, and the workers drain the
queue before they leave the wait group.  Every call and every worker takes one
step at a time, in any order.
-/
import Pipewave.Pool
import Pipewave.Transition

namespace Pipewave

namespace PoolClose

/-- Where a `Submit` call is. -/
inductive SubmitPhase where
  | locking
  | checking
  | sending
  | unlocking (accepted : Bool)
  | returned (accepted : Bool)
deriving Repr, DecidableEq

/-- `caller` is the task inside which the call is made, if any. -/
structure Submit where
  caller : Option Nat
  phase : SubmitPhase
deriving Repr, DecidableEq

/-- A worker waits at the empty queue when it is `parked`, and has called
`wg.Done` when it has `exited`. -/
inductive WorkerPhase where
  | receiving
  | parked
  | running (task : Nat)
  | recovering
  | leaving
  | exited
deriving Repr, DecidableEq

/-- Where `Close` is.  From `announced` on its `Lock` keeps new readers out,
from `setting` to `unlocking` it holds the lock. -/
inductive ClosePhase where
  | idle
  | locking
  | announced
  | setting
  | closingQueue
  | unlocking
  | waiting
  | returned
deriving Repr, DecidableEq

/-- A task is known by the number of its `Submit` call.  `executed` lists the
tasks in the order in which they were started, `finished` those that have
ended, and `fault` is set by a send on, or a second close of, `taskQueue`. -/
structure State where
  buffer : Nat
  queue : List Nat
  queueClosed : Bool
  closed : Bool
  dropped : Nat
  submits : List Submit
  workers : List WorkerPhase
  closing : ClosePhase
  executed : List Nat
  finished : List Nat
  fault : Bool
deriving Repr, DecidableEq

/-- The pool behind `New` and `Start`. -/
def start (workers buffer : Nat) : State where
  buffer := buffer
  queue := []
  queueClosed := false
  closed := false
  dropped := 0
  submits := []
  workers := List.replicate workers .receiving
  closing := .idle
  executed := []
  finished := []
  fault := false

def SubmitPhase.holds : SubmitPhase → Bool
  | .checking | .sending | .unlocking _ => true
  | .locking | .returned _ => false

def SubmitPhase.isReturned : SubmitPhase → Bool
  | .returned _ => true
  | _ => false

def ClosePhase.blocksReaders : ClosePhase → Bool
  | .announced | .setting | .closingQueue | .unlocking => true
  | .idle | .locking | .waiting | .returned => false

def State.setSubmit (s : State) (i : Nat) (call : Submit)
    (phase : SubmitPhase) : State :=
  { s with submits := s.submits.set i { call with phase := phase } }

def State.refuse (s : State) (i : Nat) (call : Submit) : State :=
  { s with dropped := s.dropped + 1 }.setSubmit i call (.unlocking false)

def State.setWorker (s : State) (w : Nat) (phase : WorkerPhase) : State :=
  { s with workers := s.workers.set w phase }

/-- The next step of the `i`-th `Submit`.  A send hands the task to a parked
worker, here `w`, before it uses the buffer. -/
def submitStep (s : State) (i w : Nat) (call : Submit) : Option State :=
  match call.phase with
  | .locking =>
    if s.closing.blocksReaders then none
    else some (s.setSubmit i call .checking)
  | .checking =>
    if s.closed then some (s.refuse i call)
    else some (s.setSubmit i call .sending)
  | .sending =>
    if s.queueClosed then some { s with fault := true }
    else if .parked ∈ s.workers then
      if s.workers[w]? = some .parked then
        some (({ s with executed := s.executed ++ [i] }.setWorker w
          (.running i)).setSubmit i call (.unlocking true))
      else none
    else if s.queue.length < s.buffer then
      some ({ s with queue := s.queue ++ [i] }.setSubmit i call
        (.unlocking true))
    else some (s.refuse i call)
  | .unlocking accepted => some (s.setSubmit i call (.returned accepted))
  | .returned _ => none

/-- A task is over when the calls made inside it are. -/
def State.busy (s : State) (task : Nat) : Bool :=
  s.submits.any fun call =>
    decide (call.caller = some task) && !call.phase.isReturned

/-- The next step of a worker. -/
def workerStep (s : State) (w : Nat) (panics : Bool) (phase : WorkerPhase) :
    Option State :=
  match phase with
  | .receiving =>
    match s.queue with
    | task :: rest => some ({ s with
        queue := rest, executed := s.executed ++ [task] }.setWorker w
          (.running task))
    | [] => some (s.setWorker w
        (if s.queueClosed then .leaving else .parked))
  | .parked => none
  | .running task =>
    if s.busy task then none
    else some ({ s with finished := s.finished ++ [task] }.setWorker w
      (if panics then .recovering else .receiving))
  | .recovering => some (s.setWorker w .receiving)
  | .leaving => some (s.setWorker w .exited)
  | .exited => none

/-- The receive of a parked worker returns when the queue is closed. -/
def WorkerPhase.wake : WorkerPhase → WorkerPhase
  | .parked => .leaving
  | phase => phase

/-- The next step of `Close`. -/
def closeStep (s : State) : Option State :=
  match s.closing with
  | .idle => some { s with closing := .locking }
  | .locking => some { s with closing := .announced }
  | .announced =>
    if s.submits.any fun call => call.phase.holds then none
    else some { s with closing := .setting }
  | .setting => some { s with closed := true, closing := .closingQueue }
  | .closingQueue =>
    if s.queueClosed then some { s with fault := true }
    else some { s with
      queueClosed := true
      workers := s.workers.map WorkerPhase.wake
      closing := .unlocking }
  | .unlocking => some { s with closing := .waiting }
  | .waiting =>
    if s.workers.all fun phase => decide (phase = .exited) then
      some { s with closing := .returned }
    else none
  | .returned => none

/-- A new `Submit`, or the next step of one, of a worker or of `Close`. -/
inductive Label where
  | submit (caller : Option Nat)
  | call (i w : Nat)
  | work (w : Nat) (panics : Bool)
  | close
deriving Repr, DecidableEq

def step (s : State) : Label → Option State
  | .submit caller =>
    match caller with
    | none => some { s with submits := s.submits ++ [⟨none, .locking⟩] }
    | some task =>
      if .running task ∈ s.workers then
        some { s with submits := s.submits ++ [⟨some task, .locking⟩] }
      else none
  | .call i w =>
    match s.submits[i]? with
    | none => none
    | some call => submitStep s i w call
  | .work w panics =>
    match s.workers[w]? with
    | none => none
    | some phase => workerStep s w panics phase
  | .close => closeStep s

/-! ### The invariant -/

def Submit.accepted (call : Submit) : Bool :=
  decide (call.phase = .unlocking true ∨ call.phase = .returned true)

def Submit.refused (call : Submit) : Bool :=
  decide (call.phase = .unlocking false ∨ call.phase = .returned false)

/-- One if the `i`-th call has been accepted, and zero otherwise. -/
def acceptances (submits : List Submit) (i : Nat) : Nat :=
  if submits[i]?.any Submit.accepted then 1 else 0

def ClosePhase.holdsLock : ClosePhase → Bool
  | .setting | .closingQueue | .unlocking => true
  | .idle | .locking | .announced | .waiting | .returned => false

def ClosePhase.closed : ClosePhase → Bool
  | .closingQueue | .unlocking | .waiting | .returned => true
  | .idle | .locking | .announced | .setting => false

def ClosePhase.queueClosed : ClosePhase → Bool
  | .unlocking | .waiting | .returned => true
  | .idle | .locking | .announced | .setting | .closingQueue => false

structure CallOk (closing : ClosePhase) (closed : Bool) (call : Submit) :
    Prop where
  /-- Readers and the writer exclude each other. -/
  excluded : closing.holdsLock = true → call.phase.holds = false
  sending : call.phase = .sending → closed = false

structure WorkerOk (closing : ClosePhase) (queueClosed : Bool)
    (queue : List Nat) (phase : WorkerPhase) : Prop where
  parked : phase = .parked → queueClosed = false ∧ queue = []
  gone : phase = .leaving ∨ phase = .exited →
    queueClosed = true ∧ queue = []
  drained : closing = .returned → phase = .exited

structure Inv (s : State) : Prop where
  staffed : s.workers ≠ []
  place : ∀ i, s.queue.count i + s.executed.count i = acceptances s.submits i
  ended : ∀ i, s.executed.count i =
    s.workers.countP (fun phase => decide (phase = .running i)) +
      s.finished.count i
  dropped : s.dropped = s.submits.countP Submit.refused
  calls : ∀ call ∈ s.submits, CallOk s.closing s.closed call
  workers : ∀ phase ∈ s.workers,
    WorkerOk s.closing s.queueClosed s.queue phase
  closed : s.closed = s.closing.closed
  queueClosed : s.queueClosed = s.closing.queueClosed
  noFault : s.fault = false

theorem inv_start {workers : Nat} (hworkers : 1 ≤ workers) (buffer : Nat) :
    Inv (start workers buffer) where
  staffed := by
    have hsome : workers ≠ 0 := by omega
    simp [start, hsome]
  place := fun _ => rfl
  ended := by
    intro i
    have hnone : (List.replicate workers WorkerPhase.receiving).countP
        (fun phase => decide (phase = .running i)) = 0 := by
      simp [List.countP_replicate]
    change 0 = _ + 0
    rw [Nat.add_zero]
    exact hnone.symm
  dropped := rfl
  calls := by
    intro call hcall
    cases hcall
  workers := by
    intro phase hphase
    rw [List.eq_of_mem_replicate hphase]
    exact ⟨by simp, by simp, fun h => by cases h⟩
  closed := rfl
  queueClosed := rfl
  noFault := rfl

variable {submits : List Submit}

theorem acceptances_set {i : Nat} {call : Submit}
    (hget : submits[i]? = some call) (new : Submit) (j : Nat) :
    acceptances (submits.set i new) j =
      if j = i then (if new.accepted then 1 else 0)
      else acceptances submits j := by
  by_cases hsame : j = i
  · subst hsame
    obtain ⟨hlt, -⟩ := List.getElem?_eq_some_iff.mp hget
    rw [if_pos rfl, acceptances, List.getElem?_set_self hlt, Option.any_some]
  · rw [if_neg hsame, acceptances, acceptances,
      List.getElem?_set_ne (Ne.symm hsame)]

theorem acceptances_of_get {i : Nat} {call : Submit}
    (hget : submits[i]? = some call) :
    acceptances submits i = if call.accepted then 1 else 0 := by
  rw [acceptances, hget, Option.any_some]

section Calls

variable {s : State} {i : Nat} {call new : Submit}

theorem Inv.calls_set (hinv : Inv s) (hnew : CallOk s.closing s.closed new) :
    ∀ other ∈ s.submits.set i new, CallOk s.closing s.closed other := by
  intro other hother
  rcases List.mem_or_eq_of_mem_set hother with hold | rfl
  · exact hinv.calls other hold
  · exact hnew

/-- A call moves on without being decided. -/
theorem Inv.setSubmit (hinv : Inv s) (hget : s.submits[i]? = some call)
    {phase : SubmitPhase}
    (hnew : CallOk s.closing s.closed { call with phase := phase })
    (haccepted : Submit.accepted { call with phase := phase } = call.accepted)
    (hrefused : Submit.refused { call with phase := phase } = call.refused) :
    Inv (s.setSubmit i call phase) := by
  refine { hinv with place := ?place, dropped := ?dropped, calls := ?calls }
  case place =>
    intro j
    rw [State.setSubmit, acceptances_set hget, haccepted,
      ← acceptances_of_get hget]
    split
    · next hsame =>
      rw [hsame]
      exact hinv.place i
    · exact hinv.place j
  case dropped =>
    have hcount := countP_set_add Submit.refused hget
      { call with phase := phase }
    rw [hrefused] at hcount
    rw [State.setSubmit]
    exact hinv.dropped.trans (Nat.add_right_cancel hcount).symm
  case calls => exact hinv.calls_set hnew

theorem Inv.refuse (hinv : Inv s) (hget : s.submits[i]? = some call)
    (haccepted : call.accepted = false) (hrefused : call.refused = false)
    (hlock : s.closing.holdsLock = false) : Inv (s.refuse i call) := by
  refine { hinv with place := ?place, dropped := ?dropped, calls := ?calls }
  case place =>
    intro j
    rw [State.refuse, State.setSubmit, acceptances_set hget]
    split
    · next hsame =>
      rw [hsame, hinv.place i, acceptances_of_get hget, haccepted]
      rfl
    · exact hinv.place j
  case dropped =>
    have hcount := countP_set_add Submit.refused hget
      { call with phase := .unlocking false }
    rw [hrefused, if_neg Bool.false_ne_true, Nat.add_zero] at hcount
    change s.dropped + 1 = _
    rw [hinv.dropped]
    exact hcount.symm
  case calls =>
    apply hinv.calls_set
    refine ⟨?_, fun h => by cases h⟩
    intro hholds
    rw [hlock] at hholds
    cases hholds

/-- An accepted call puts its task into the queue or into the hands of a
worker. -/
theorem Inv.place_accept (hinv : Inv s) (hget : s.submits[i]? = some call)
    (haccepted : call.accepted = false) {queue executed : List Nat}
    (hmore : ∀ j, queue.count j + executed.count j =
      s.queue.count j + s.executed.count j + if j = i then 1 else 0) (j : Nat) :
    queue.count j + executed.count j = acceptances
      (s.submits.set i { call with phase := .unlocking true }) j := by
  rw [hmore, hinv.place, acceptances_set hget]
  split
  · next hsame =>
    rw [hsame, acceptances_of_get hget, haccepted]
    rfl
  · rfl

theorem Inv.dropped_accept (hinv : Inv s) (hget : s.submits[i]? = some call)
    (hrefused : call.refused = false) :
    s.dropped = (s.submits.set i
      { call with phase := .unlocking true }).countP Submit.refused := by
  have hcount := countP_set_add Submit.refused hget
    { call with phase := .unlocking true }
  rw [hrefused] at hcount
  exact hinv.dropped.trans (Nat.add_right_cancel hcount).symm

theorem callOk_unlocking (hlock : s.closing.holdsLock = false)
    (accepted : Bool) : CallOk s.closing s.closed
      { call with phase := .unlocking accepted } := by
  refine ⟨?_, fun h => by cases h⟩
  intro hholds
  rw [hlock] at hholds
  cases hholds

theorem count_concat (l : List Nat) (i j : Nat) :
    (l ++ [i]).count j = l.count j + if j = i then 1 else 0 := by
  rw [List.count_append, List.count_singleton]
  by_cases hsame : j = i
  · simp [hsame]
  · simp [hsame, Ne.symm hsame]

theorem Inv.enqueue (hinv : Inv s) (hget : s.submits[i]? = some call)
    (hphase : call.phase = .sending) (hlock : s.closing.holdsLock = false)
    (hopen : s.queueClosed = false) (hparked : .parked ∉ s.workers) :
    Inv ({ s with queue := s.queue ++ [i] }.setSubmit i call
      (.unlocking true)) := by
  have haccepted : call.accepted = false := by simp [Submit.accepted, hphase]
  have hrefused : call.refused = false := by simp [Submit.refused, hphase]
  refine { hinv with
    place := ?place, dropped := ?dropped, calls := ?calls, workers := ?workers }
  case place =>
    apply hinv.place_accept hget haccepted
    intro j
    change (s.queue ++ [i]).count j + s.executed.count j = _
    rw [count_concat]
    omega
  case dropped => exact hinv.dropped_accept hget hrefused
  case calls => exact hinv.calls_set (callOk_unlocking hlock true)
  case workers =>
    intro phase hmem
    obtain ⟨-, hgone, hdrained⟩ := hinv.workers phase hmem
    refine ⟨?_, ?_, hdrained⟩
    · rintro rfl
      exact absurd hmem hparked
    · intro hleft
      have hclosed := (hgone hleft).1
      rw [hopen] at hclosed
      cases hclosed

end Calls

section Workers

variable {s : State} {w : Nat} {old new : WorkerPhase}

theorem Inv.workers_set (hinv : Inv s) {queue : List Nat}
    (hqueue : s.queue = [] → queue = [])
    (hnew : WorkerOk s.closing s.queueClosed queue new) :
    ∀ phase ∈ s.workers.set w new,
      WorkerOk s.closing s.queueClosed queue phase := by
  intro phase hphase
  rcases List.mem_or_eq_of_mem_set hphase with hold | rfl
  · obtain ⟨hparked, hgone, hdrained⟩ := hinv.workers phase hold
    refine ⟨?_, ?_, hdrained⟩
    · exact fun h => ⟨(hparked h).1, hqueue (hparked h).2⟩
    · exact fun h => ⟨(hgone h).1, hqueue (hgone h).2⟩
  · exact hnew

theorem Inv.not_returned (hinv : Inv s) (hget : s.workers[w]? = some old)
    (hold : old ≠ .exited) : s.closing ≠ .returned := by
  intro hreturned
  have hok := hinv.workers old (List.mem_of_getElem? hget)
  exact hold (hok.drained hreturned)

/-- A worker that is neither waiting nor on its way out asks nothing of the
queue. -/
theorem workerOk_active (hclosing : s.closing ≠ .returned)
    {queue : List Nat} (hparked : new ≠ .parked)
    (hgone : ¬ (new = .leaving ∨ new = .exited)) :
    WorkerOk s.closing s.queueClosed queue new :=
  ⟨fun h => absurd h hparked, fun h => absurd h hgone,
    fun h => absurd h hclosing⟩

/-- A worker moves on without starting or ending a task. -/
theorem Inv.setWorker (hinv : Inv s) (hget : s.workers[w]? = some old)
    (hold : ∀ task, old ≠ .running task)
    (hnot : ∀ task, new ≠ .running task)
    (hnew : WorkerOk s.closing s.queueClosed s.queue new) :
    Inv (s.setWorker w new) := by
  refine { hinv with
    staffed := by simp [State.setWorker, hinv.staffed]
    ended := ?ended, workers := ?workers }
  case ended =>
    intro j
    have hcount := countP_set_add
      (fun phase => decide (phase = .running j)) hget new
    simp only [hold j, hnot j, decide_false, Bool.false_eq_true, if_false,
      Nat.add_zero] at hcount
    rw [State.setWorker, hcount]
    exact hinv.ended j
  case workers => exact hinv.workers_set id hnew

/-- A worker starts a task. -/
theorem Inv.ended_start (hinv : Inv s) (hget : s.workers[w]? = some old)
    (hold : ∀ task, old ≠ .running task) (i j : Nat) :
    (s.executed ++ [i]).count j =
      (s.workers.set w (.running i)).countP
        (fun phase => decide (phase = .running j)) + s.finished.count j := by
  have hcount := countP_set_add
    (fun phase => decide (phase = .running j)) hget (.running i)
  simp only [hold j, decide_false, Bool.false_eq_true, if_false,
    Nat.add_zero, decide_eq_true_eq, WorkerPhase.running.injEq] at hcount
  rw [count_concat, hinv.ended j, hcount]
  by_cases hsame : j = i
  · rw [if_pos hsame, if_pos hsame.symm]
    omega
  · rw [if_neg hsame, if_neg (Ne.symm hsame)]
    omega

theorem Inv.handOver {i : Nat} {call : Submit} (hinv : Inv s)
    (hget : s.submits[i]? = some call) (hphase : call.phase = .sending)
    (hlock : s.closing.holdsLock = false)
    (hworker : s.workers[w]? = some .parked) :
    Inv (({ s with executed := s.executed ++ [i] }.setWorker w
      (.running i)).setSubmit i call (.unlocking true)) := by
  have haccepted : call.accepted = false := by simp [Submit.accepted, hphase]
  have hrefused : call.refused = false := by simp [Submit.refused, hphase]
  refine { hinv with
    staffed := by simp [State.setWorker, State.setSubmit, hinv.staffed]
    place := ?place, ended := ?ended, dropped := ?dropped, calls := ?calls
    workers := ?workers }
  case place =>
    apply hinv.place_accept hget haccepted
    intro j
    change _ + (s.executed ++ [i]).count j = _
    rw [count_concat]
    exact (Nat.add_assoc _ _ _).symm
  case ended => exact hinv.ended_start hworker (by simp) i
  case dropped => exact hinv.dropped_accept hget hrefused
  case calls => exact hinv.calls_set (callOk_unlocking hlock true)
  case workers =>
    have hclosing := hinv.not_returned hworker (by simp)
    exact hinv.workers_set id (workerOk_active hclosing (by simp) (by simp))

theorem Inv.take {task : Nat} {rest : List Nat} (hinv : Inv s)
    (hworker : s.workers[w]? = some .receiving)
    (hqueue : s.queue = task :: rest) :
    Inv ({ s with queue := rest, executed := s.executed ++ [task] }.setWorker w
      (.running task)) := by
  refine { hinv with
    staffed := by simp [State.setWorker, hinv.staffed]
    place := ?place, ended := ?ended, workers := ?workers }
  case place =>
    intro j
    rw [State.setWorker, ← hinv.place j, hqueue]
    change rest.count j + (s.executed ++ [task]).count j = _
    rw [count_concat, List.count_cons]
    by_cases hsame : j = task
    · simp only [hsame, beq_self_eq_true, if_true]
      omega
    · simp only [hsame, beq_iff_eq, Ne.symm hsame, if_false]
      omega
  case ended => exact hinv.ended_start hworker (by simp) task
  case workers =>
    have hclosing := hinv.not_returned hworker (by simp)
    have hempty : s.queue = [] → rest = [] := by simp [hqueue]
    exact hinv.workers_set hempty
      (workerOk_active hclosing (by simp) (by simp))

theorem Inv.finish {task : Nat} (hinv : Inv s)
    (hworker : s.workers[w]? = some (.running task))
    (hnot : ∀ other, new ≠ .running other) (hparked : new ≠ .parked)
    (hgone : ¬ (new = .leaving ∨ new = .exited)) :
    Inv ({ s with finished := s.finished ++ [task] }.setWorker w new) := by
  refine { hinv with
    staffed := by simp [State.setWorker, hinv.staffed]
    ended := ?ended, workers := ?workers }
  case ended =>
    intro j
    have hcount := countP_set_add
      (fun phase => decide (phase = .running j)) hworker new
    simp only [hnot j, decide_false, Bool.false_eq_true, if_false,
      Nat.add_zero, decide_eq_true_eq, WorkerPhase.running.injEq] at hcount
    have hended := hinv.ended j
    change s.executed.count j = (s.workers.set w new).countP _ +
      (s.finished ++ [task]).count j
    rw [count_concat]
    by_cases hsame : j = task
    · rw [if_pos hsame.symm] at hcount
      rw [if_pos hsame]
      omega
    · rw [if_neg (Ne.symm hsame)] at hcount
      rw [if_neg hsame]
      omega
  case workers =>
    have hclosing := hinv.not_returned hworker (by simp)
    exact hinv.workers_set id (workerOk_active hclosing hparked hgone)

end Workers


/-! ### Steps -/

section Steps

variable {s next : State}

variable {i : Nat} {call : Submit} {closing : ClosePhase} {phase : WorkerPhase}

theorem Inv.holdsLock_eq_false (hinv : Inv s)
    (hget : s.submits[i]? = some call) (hholds : call.phase.holds = true) :
    s.closing.holdsLock = false := by
  apply eq_false_of_ne_true
  intro hlock
  have hok := hinv.calls call (List.mem_of_getElem? hget)
  rw [hok.excluded hlock] at hholds
  cases hholds

theorem blocksReaders_of_holdsLock (hlock : closing.holdsLock = true) :
    closing.blocksReaders = true := by
  cases closing <;> first | rfl | cases hlock

theorem closed_of_queueClosed (hclosed : closing.queueClosed = true) :
    closing.closed = true := by
  cases closing <;> first | rfl | cases hclosed

/-- The queue is open for as long as a call is about to send. -/
theorem Inv.queue_open (hinv : Inv s) (hget : s.submits[i]? = some call)
    (hphase : call.phase = .sending) :
    s.queueClosed = false := by
  have hok := hinv.calls call (List.mem_of_getElem? hget)
  have hopen := hok.sending hphase
  apply eq_false_of_ne_true
  intro hclosed
  rw [hinv.queueClosed] at hclosed
  rw [hinv.closed, closed_of_queueClosed hclosed] at hopen
  cases hopen

theorem Inv.submitStep (hinv : Inv s) {w : Nat}
    (hget : s.submits[i]? = some call)
    (hstep : submitStep s i w call = some next) : Inv next := by
  cases hphase : call.phase with
  | locking =>
    simp only [PoolClose.submitStep, hphase] at hstep
    split at hstep
    · cases hstep
    · next hblocks =>
      cases hstep
      apply hinv.setSubmit hget
      · refine ⟨?_, fun h => by cases h⟩
        exact fun hlock => absurd (blocksReaders_of_holdsLock hlock) hblocks
      · simp [Submit.accepted, hphase]
      · simp [Submit.refused, hphase]
  | checking =>
    have hlock := hinv.holdsLock_eq_false hget (by rw [hphase]; rfl)
    simp only [PoolClose.submitStep, hphase] at hstep
    split at hstep
    · cases hstep
      apply hinv.refuse hget _ _ hlock
      · simp [Submit.accepted, hphase]
      · simp [Submit.refused, hphase]
    · next hopen =>
      cases hstep
      apply hinv.setSubmit hget
      · refine ⟨?_, fun _ => eq_false_of_ne_true hopen⟩
        intro hholds
        rw [hlock] at hholds
        cases hholds
      · simp [Submit.accepted, hphase]
      · simp [Submit.refused, hphase]
  | sending =>
    have hlock := hinv.holdsLock_eq_false hget (by rw [hphase]; rfl)
    have hopen := hinv.queue_open hget hphase
    simp only [PoolClose.submitStep, hphase] at hstep
    rw [if_neg (by simp [hopen])] at hstep
    split at hstep
    · split at hstep
      · next hworker =>
        cases hstep
        exact hinv.handOver hget hphase hlock hworker
      · cases hstep
    · next hparked =>
      split at hstep
      · cases hstep
        exact hinv.enqueue hget hphase hlock hopen hparked
      · cases hstep
        apply hinv.refuse hget _ _ hlock
        · simp [Submit.accepted, hphase]
        · simp [Submit.refused, hphase]
  | unlocking accepted =>
    simp only [PoolClose.submitStep, hphase] at hstep
    cases hstep
    apply hinv.setSubmit hget
    · exact ⟨fun _ => rfl, fun h => by cases h⟩
    · cases accepted <;> simp [Submit.accepted, hphase]
    · cases accepted <;> simp [Submit.refused, hphase]
  | returned accepted =>
    simp only [PoolClose.submitStep, hphase] at hstep
    cases hstep

theorem Inv.workerStep (hinv : Inv s) {w : Nat} {panics : Bool}
    (hget : s.workers[w]? = some phase)
    (hstep : workerStep s w panics phase = some next) : Inv next := by
  cases phase with
  | receiving =>
    have hclosing := hinv.not_returned hget (by simp)
    simp only [PoolClose.workerStep] at hstep
    split at hstep
    · next hqueue =>
      cases hstep
      exact hinv.take hget hqueue
    · next hqueue =>
      cases hstep
      apply hinv.setWorker hget (by simp)
      · split <;> simp
      · split
        · next hclosed =>
          exact ⟨by simp, fun _ => ⟨hclosed, hqueue⟩,
            fun h => absurd h hclosing⟩
        · next hopen =>
          exact ⟨fun _ => ⟨eq_false_of_ne_true hopen, hqueue⟩, by simp,
            fun h => absurd h hclosing⟩
  | parked => cases hstep
  | running task =>
    simp only [PoolClose.workerStep] at hstep
    split at hstep
    · cases hstep
    · cases hstep
      apply hinv.finish hget
      · cases panics <;> simp
      · cases panics <;> simp
      · cases panics <;> simp
  | recovering =>
    cases hstep
    apply hinv.setWorker hget (by simp) (by simp)
    have hclosing := hinv.not_returned hget (by simp)
    exact workerOk_active hclosing (by simp) (by simp)
  | leaving =>
    cases hstep
    have hok := hinv.workers _ (List.mem_of_getElem? hget)
    apply hinv.setWorker hget (by simp) (by simp)
    exact ⟨by simp, fun _ => hok.gone (.inl rfl), fun _ => rfl⟩
  | exited => cases hstep

/-- `Close` moves on and changes nothing a worker or a call looks at. -/
theorem Inv.setClosing (hinv : Inv s)
    (hclosed : closing.closed = s.closing.closed)
    (hqueueClosed : closing.queueClosed = s.closing.queueClosed)
    (hcalls : closing.holdsLock = true →
      ∀ call ∈ s.submits, call.phase.holds = false)
    (hworkers : closing = .returned → ∀ phase ∈ s.workers, phase = .exited) :
    Inv { s with closing := closing } := by
  refine { hinv with
    calls := ?calls, workers := ?workers, closed := ?closed
    queueClosed := ?queueClosed }
  case calls =>
    intro call hcall
    exact ⟨fun hlock => hcalls hlock call hcall,
      (hinv.calls call hcall).sending⟩
  case workers =>
    intro phase hphase
    obtain ⟨hparked, hgone, -⟩ := hinv.workers phase hphase
    exact ⟨hparked, hgone, fun h => hworkers h phase hphase⟩
  case closed => exact hinv.closed.trans hclosed.symm
  case queueClosed => exact hinv.queueClosed.trans hqueueClosed.symm

/-- `p.closed = true` under the write lock. -/
theorem Inv.setClosed (hinv : Inv s) (hphase : s.closing = .setting) :
    Inv { s with closed := true, closing := .closingQueue } := by
  have hexcluded : ∀ call ∈ s.submits, call.phase.holds = false := by
    intro call hcall
    apply (hinv.calls call hcall).excluded
    rw [hphase]
    rfl
  refine { hinv with
    calls := ?calls, workers := ?workers, closed := rfl
    queueClosed := ?queueClosed }
  case calls =>
    intro call hcall
    have hout := hexcluded call hcall
    refine ⟨fun _ => hout, ?_⟩
    intro hsending
    rw [hsending] at hout
    cases hout
  case workers =>
    intro phase hmem
    obtain ⟨hparked, hgone, -⟩ := hinv.workers phase hmem
    exact ⟨hparked, hgone, fun h => by cases h⟩
  case queueClosed =>
    change s.queueClosed = _
    rw [hinv.queueClosed, hphase]
    rfl

theorem wake_ne_running {j : Nat} :
    phase.wake = .running j ↔ phase = .running j := by
  cases phase <;> simp [WorkerPhase.wake]

/-- `close(taskQueue)` under the write lock. -/
theorem Inv.closeQueue (hinv : Inv s) (hphase : s.closing = .closingQueue) :
    Inv { s with
      queueClosed := true
      workers := s.workers.map WorkerPhase.wake
      closing := .unlocking } := by
  refine { hinv with
    staffed := by simp [hinv.staffed]
    ended := ?ended, calls := ?calls, workers := ?workers
    closed := ?closed, queueClosed := rfl }
  case ended =>
    intro j
    rw [hinv.ended j, List.countP_map]
    congr 2
    funext phase
    exact decide_eq_decide.mpr wake_ne_running.symm
  case calls =>
    intro call hcall
    obtain ⟨hexcluded, hsending⟩ := hinv.calls call hcall
    rw [hphase] at hexcluded
    exact ⟨hexcluded, hsending⟩
  case workers =>
    intro phase hmem
    obtain ⟨old, hold, rfl⟩ := List.mem_map.mp hmem
    have hok := hinv.workers old hold
    cases old with
    | parked =>
      exact ⟨by simp [WorkerPhase.wake],
        fun _ => ⟨rfl, (hok.parked rfl).2⟩, fun h => by cases h⟩
    | leaving =>
      exact ⟨by simp [WorkerPhase.wake],
        fun _ => ⟨rfl, (hok.gone (.inl rfl)).2⟩, fun h => by cases h⟩
    | exited =>
      exact ⟨by simp [WorkerPhase.wake],
        fun _ => ⟨rfl, (hok.gone (.inr rfl)).2⟩, fun h => by cases h⟩
    | receiving =>
      exact ⟨by simp [WorkerPhase.wake], by simp [WorkerPhase.wake],
        fun h => by cases h⟩
    | running task =>
      exact ⟨by simp [WorkerPhase.wake], by simp [WorkerPhase.wake],
        fun h => by cases h⟩
    | recovering =>
      exact ⟨by simp [WorkerPhase.wake], by simp [WorkerPhase.wake],
        fun h => by cases h⟩
  case closed =>
    change s.closed = _
    rw [hinv.closed, hphase]
    rfl

theorem Inv.open_of_closingQueue (hinv : Inv s)
    (hphase : s.closing = .closingQueue) :
    s.queueClosed = false := by
  rw [hinv.queueClosed, hphase]
  rfl

theorem Inv.closeStep (hinv : Inv s) (hstep : closeStep s = some next) :
    Inv next := by
  unfold PoolClose.closeStep at hstep
  cases hphase : s.closing with
  | idle =>
    simp only [hphase] at hstep
    cases hstep
    apply hinv.setClosing <;> simp [hphase, ClosePhase.closed,
      ClosePhase.queueClosed, ClosePhase.holdsLock]
  | locking =>
    simp only [hphase] at hstep
    cases hstep
    apply hinv.setClosing <;> simp [hphase, ClosePhase.closed,
      ClosePhase.queueClosed, ClosePhase.holdsLock]
  | announced =>
    simp only [hphase] at hstep
    split at hstep
    · cases hstep
    · next hnone =>
      cases hstep
      apply hinv.setClosing
      · rw [hphase]
        rfl
      · rw [hphase]
        rfl
      · intro _ call hcall
        apply eq_false_of_ne_true
        intro hholds
        exact hnone (List.any_eq_true.mpr ⟨call, hcall, hholds⟩)
      · exact fun h => by cases h
  | setting =>
    simp only [hphase] at hstep
    cases hstep
    exact hinv.setClosed hphase
  | closingQueue =>
    have hopen := hinv.open_of_closingQueue hphase
    simp only [hphase, hopen, Bool.false_eq_true, if_false] at hstep
    cases hstep
    exact hinv.closeQueue hphase
  | unlocking =>
    simp only [hphase] at hstep
    cases hstep
    apply hinv.setClosing <;> simp [hphase, ClosePhase.closed,
      ClosePhase.queueClosed, ClosePhase.holdsLock]
  | waiting =>
    simp only [hphase] at hstep
    split at hstep
    · next hall =>
      cases hstep
      apply hinv.setClosing
      · rw [hphase]
        rfl
      · rw [hphase]
        rfl
      · exact fun h => by cases h
      · intro _ phase hmem
        exact of_decide_eq_true (List.all_eq_true.mp hall phase hmem)
    · cases hstep
  | returned =>
    simp only [hphase] at hstep
    cases hstep

/-- A new call changes nothing until it is scheduled. -/
theorem Inv.submit (hinv : Inv s) (caller : Option Nat) :
    Inv { s with submits := s.submits ++ [⟨caller, .locking⟩] } := by
  refine { hinv with place := ?place, dropped := ?dropped, calls := ?calls }
  case place =>
    intro j
    rw [hinv.place j]
    unfold acceptances
    by_cases hlt : j < s.submits.length
    · rw [List.getElem?_append_left hlt]
    · have hge : s.submits.length ≤ j := by omega
      rw [List.getElem?_append_right hge, List.getElem?_eq_none hge,
        List.getElem?_singleton]
      by_cases hnew : j - s.submits.length = 0 <;>
        simp [hnew, Submit.accepted]
  case dropped =>
    change s.dropped = _
    rw [hinv.dropped, List.countP_append]
    rfl
  case calls =>
    intro call hcall
    rcases List.mem_append.mp hcall with hold | hnew
    · exact hinv.calls call hold
    · rw [List.mem_singleton.mp hnew]
      exact ⟨fun _ => rfl, fun h => by cases h⟩

theorem Inv.step (hinv : Inv s) {label : Label}
    (hstep : step s label = some next) : Inv next := by
  cases label with
  | submit caller =>
    simp only [PoolClose.step] at hstep
    split at hstep
    · cases hstep
      exact hinv.submit none
    · next task =>
      split at hstep
      · cases hstep
        exact hinv.submit (some task)
      · cases hstep
  | call i w =>
    simp only [PoolClose.step] at hstep
    split at hstep
    · cases hstep
    · next hget => exact hinv.submitStep hget hstep
  | work w panics =>
    simp only [PoolClose.step] at hstep
    split at hstep
    · cases hstep
    · next hget => exact hinv.workerStep hget hstep
  | close => exact hinv.closeStep hstep

end Steps


end PoolClose

end Pipewave
