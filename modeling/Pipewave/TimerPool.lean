/-
The hub's expiry timers on the worker pool that also serves the clients.  A
timer occupies its worker from the moment a worker takes it until it fires or
its session is deregistered.
-/
import Pipewave.HubPhase
import Pipewave.WorkerPool

namespace Pipewave

namespace TimerPool

open Transition

/-- The task of a registration, or any other task: a client's frame, a ping, a
message to be saved. -/
inductive Task where
  | timer (i : Nat)
  | work
deriving Repr, DecidableEq

def Task.isTimer : Task → Bool
  | .timer _ => true
  | .work => false

structure State where
  session : HubExpiry.State
  pool : WorkerPool Task

inductive Label where
  /-- A step of the hub that does not involve the pool. -/
  | session (label : HubExpiry.Label)
  | submitTimer (i : Nat) (accepted : Bool)
  | submitWork (accepted : Bool)
  /-- A free worker takes the oldest task and starts it. -/
  | take
  | workDone
  /-- A cancelled timer returns. -/
  | stop (i : Nat)
  /-- A timer that fired returns behind `onExpired`. -/
  | call (i : Nat)
deriving Repr, DecidableEq

/-- The steps of the hub that neither hand a task to the pool nor start or end
one. -/
def offPool : HubExpiry.Label → Bool
  | .submit .. | .start _ | .stop _ | .call _ => false
  | _ => true

/-- A step of the hub at which one of its tasks leaves its worker. -/
def endTask (state : State) (i : Nat) (label : HubExpiry.Label) :
    Option State := do
  let session ← HubExpiry.step state.session label
  let pool ← state.pool.finish (.timer i)
  return { session, pool }

def step (state : State) : Label → Option State
  | .session label =>
    if offPool label then
      (HubExpiry.step state.session label).map fun session =>
        { state with session }
    else none
  | .submitTimer i accepted => do
      let session ← HubExpiry.step state.session (.submit i accepted)
      let pool ← state.pool.submit (.timer i) accepted
      return { session, pool }
  | .submitWork accepted =>
    (state.pool.submit .work accepted).map fun pool => { state with pool }
  | .take => do
      let (task, pool) ← state.pool.take
      match task with
      | .work => return { state with pool }
      | .timer i =>
        let session ← HubExpiry.step state.session (.start i)
        return { session, pool }
  | .workDone =>
    (state.pool.finish .work).map fun pool => { state with pool }
  | .stop i => endTask state i (.stop i)
  | .call i => endTask state i (.call i)

def start (workers buffer : Nat) (ttl : Int) : State where
  session := { hub := { ttl } }
  pool := { workers, buffer }

/-- The workers that are inside a timer's task. -/
def State.blocked (state : State) : Nat :=
  state.pool.running.countP Task.isTimer

/-- The timers that occupy a worker or wait for one. -/
def State.timers (state : State) : Nat :=
  state.pool.tasks.countP Task.isTimer

/-- Some worker is not held by a timer, and a task that only timers are ahead
of is taken by workers that only timers keep busy. -/
structure NotExhausted (state : State) : Prop where
  blocked : state.blocked < state.pool.workers
  taken : ∀ before after, state.pool.queue = before ++ .work :: after →
    (∀ task ∈ state.pool.running, task.isTimer = true) →
    (∀ task ∈ before, task.isTimer = true) →
      ∃ next, run step state
        (List.replicate (before.length + 1) .take) = some next ∧
        .work ∈ next.pool.running

/-- A session is registered only while its timer leaves a worker free. -/
def Guard (state : State) : Label → Prop
  | .submitTimer _ accepted =>
    accepted = true → state.timers + 1 < state.pool.workers
  | _ => True

instance (state : State) : ∀ label, Decidable (Guard state label)
  | .submitTimer _ _ => inferInstanceAs (Decidable (_ → _))
  | .session _ | .submitWork _ | .take | .workDone | .stop _ | .call _ =>
    .isTrue trivial

/-- The queued timers are distinct and their registrations say so. -/
structure Linked (state : State) : Prop where
  queued : ∀ i, .timer i ∈ state.pool.queue →
    state.session.hub.phase i = some .queued
  distinct : ∀ i, state.pool.queue.count (.timer i) ≤ 1

/-- Fewer timers than workers. -/
structure Inv (state : State) : Prop where
  linked : Linked state
  fewer : state.timers < state.pool.workers

section Steps

variable {state next : State}

variable {label : HubExpiry.Label} {k : Nat}

/-- A step of the hub other than the start of a queued timer keeps every queued
timer queued. -/
theorem queued_kept {session session' : HubExpiry.State} {i : Nat}
    (hqueued : session.hub.phase i = some .queued) (hlabel : label ≠ .start i)
    (hstep : HubExpiry.step session label = some session') :
    session'.hub.phase i = some .queued := by
  rcases HubExpiry.phase_step hqueued hstep with hsame | ⟨hown, _, hmoves, -⟩
  · exact hsame
  · cases hmoves with
    | start k deadline =>
      cases hown
      exact absurd rfl hlabel

theorem Linked.session (hlinked : Linked state) {session : HubExpiry.State}
    (hlabel : ∀ i, label ≠ .start i)
    (hstep : HubExpiry.step state.session label = some session) :
    Linked { state with session } where
  queued := fun i hi => queued_kept (hlinked.queued i hi) (hlabel i) hstep
  distinct := hlinked.distinct

/-- A worker starts the oldest task. -/
theorem Linked.take (hlinked : Linked state)
    (hstep : step state .take = some next) : Linked next := by
  simp only [step, Option.bind_eq_bind, Option.bind_eq_some_iff] at hstep
  obtain ⟨⟨task, pool⟩, htake, hstep⟩ := hstep
  obtain ⟨rest, hqueue, rfl⟩ := WorkerPool.take_eq_some htake
  have hrest : ∀ i, .timer i ∈ rest →
      state.session.hub.phase i = some .queued := fun i hi =>
    hlinked.queued i (hqueue ▸ List.mem_cons_of_mem _ hi)
  have hdistinct : ∀ i, rest.count (.timer i) ≤ 1 := fun i =>
    Nat.le_trans (List.count_le_count_cons) (hqueue ▸ hlinked.distinct i)
  cases task with
  | work =>
    cases hstep
    exact ⟨hrest, hdistinct⟩
  | timer k =>
    simp only [Option.bind_eq_some_iff] at hstep
    obtain ⟨session, hstart, hnext⟩ := hstep
    cases hnext
    refine ⟨fun i hi => queued_kept (hrest i hi) ?_ hstart, hdistinct⟩
    -- the timer just started is not queued a second time
    rintro heq
    cases heq
    have htwice := hlinked.distinct k
    rw [hqueue, List.count_cons_self] at htwice
    have honce : 1 ≤ rest.count (.timer k) := List.one_le_count_iff.mpr hi
    omega

/-- A task of a registration that is not queued joins the queue. -/
theorem Linked.submitTimer (hlinked : Linked state) {accepted : Bool}
    (hstep : step state (.submitTimer k accepted) = some next) :
    Linked next := by
  simp only [step, Option.bind_eq_bind, Option.bind_eq_some_iff] at hstep
  obtain ⟨session, hsession, pool, hpool, hnext⟩ := hstep
  cases hnext
  have hkept := hlinked.session (fun i => by simp) hsession
  obtain ⟨before, after, hmoves, hbefore, hafter⟩ :=
    HubExpiry.phase_own rfl hsession
  cases hmoves with
  | reject =>
    rw [WorkerPool.submit_false hpool]
    exact hkept
  | accept =>
    rw [WorkerPool.submit_true hpool]
    have hnew : .timer k ∉ state.pool.queue := fun hmem => by
      rw [hlinked.queued k hmem] at hbefore
      cases hbefore
    constructor
    · intro i hi
      rcases List.mem_append.mp hi with hold | hadded
      · exact hkept.queued i hold
      · cases List.mem_singleton.mp hadded
        exact (hafter k).trans (if_pos rfl)
    · intro i
      simp only [List.count_append, List.count_singleton]
      split
      next hsame =>
        cases of_decide_eq_true hsame
        rw [List.count_eq_zero.mpr hnew]
      · exact hlinked.distinct i

theorem Linked.submitWork (hlinked : Linked state) {accepted : Bool}
    (hstep : step state (.submitWork accepted) = some next) : Linked next := by
  obtain ⟨pool, hpool, rfl⟩ := Option.map_eq_some_iff.mp hstep
  cases accepted with
  | false =>
    rw [WorkerPool.submit_false hpool]
    exact hlinked
  | true =>
    rw [WorkerPool.submit_true hpool]
    constructor
    · intro i hi
      rcases List.mem_append.mp hi with hold | hadded
      · exact hlinked.queued i hold
      · cases List.mem_singleton.mp hadded
    · intro i
      simpa [List.count_append] using hlinked.distinct i

theorem Linked.endTask (hlinked : Linked state)
    (hlabel : ∀ i, label ≠ .start i)
    (hstep : endTask state k label = some next) : Linked next := by
  simp only [TimerPool.endTask, Option.bind_eq_bind,
    Option.bind_eq_some_iff] at hstep
  obtain ⟨session, hsession, pool, hpool, hnext⟩ := hstep
  cases hnext
  obtain ⟨-, rfl⟩ := WorkerPool.finish_eq_some hpool
  exact ⟨(hlinked.session hlabel hsession).queued, hlinked.distinct⟩

theorem linked_step (label : Label) (hlinked : Linked state)
    (hstep : step state label = some next) : Linked next := by
  cases label with
  | session label =>
    simp only [step] at hstep
    split at hstep
    next hoff =>
      obtain ⟨session, hsession, rfl⟩ := Option.map_eq_some_iff.mp hstep
      refine hlinked.session (fun i heq => ?_) hsession
      rw [heq] at hoff
      cases hoff
    · cases hstep
  | submitTimer k accepted => exact hlinked.submitTimer hstep
  | submitWork accepted => exact hlinked.submitWork hstep
  | take => exact hlinked.take hstep
  | workDone =>
    obtain ⟨pool, hpool, rfl⟩ := Option.map_eq_some_iff.mp hstep
    obtain ⟨-, rfl⟩ := WorkerPool.finish_eq_some hpool
    exact ⟨hlinked.queued, hlinked.distinct⟩
  | stop k => exact hlinked.endTask (fun i => by simp) hstep
  | call k => exact hlinked.endTask (fun i => by simp) hstep

theorem timers_endTask (hstep : endTask state k label = some next) :
    next.pool.workers = state.pool.workers ∧
      next.timers ≤ state.timers := by
  simp only [endTask, Option.bind_eq_bind, Option.bind_eq_some_iff] at hstep
  obtain ⟨session, -, pool, hpool, hnext⟩ := hstep
  cases hnext
  refine ⟨?_, WorkerPool.countP_tasks_finish _ hpool⟩
  rw [(WorkerPool.finish_eq_some hpool).2]

/-- Only an accepted timer adds to the timers the pool knows of. -/
theorem timers_step (label : Label) (hstep : step state label = some next) :
    next.pool.workers = state.pool.workers ∧
      (next.timers ≤ state.timers ∨
        ∃ i, label = .submitTimer i true ∧
          next.timers = state.timers + 1) := by
  cases label with
  | session label =>
    simp only [step] at hstep
    split at hstep
    · obtain ⟨session, -, rfl⟩ := Option.map_eq_some_iff.mp hstep
      exact ⟨rfl, .inl (Nat.le_refl _)⟩
    · cases hstep
  | submitTimer k accepted =>
    simp only [step, Option.bind_eq_bind, Option.bind_eq_some_iff] at hstep
    obtain ⟨session, -, pool, hpool, hnext⟩ := hstep
    cases hnext
    cases accepted with
    | false =>
      rw [WorkerPool.submit_false hpool]
      exact ⟨rfl, .inl (Nat.le_refl _)⟩
    | true =>
      refine ⟨by rw [WorkerPool.submit_true hpool], .inr ⟨k, rfl, ?_⟩⟩
      exact WorkerPool.countP_tasks_submit _ hpool
  | submitWork accepted =>
    obtain ⟨pool, hpool, rfl⟩ := Option.map_eq_some_iff.mp hstep
    cases accepted with
    | false =>
      rw [WorkerPool.submit_false hpool]
      exact ⟨rfl, .inl (Nat.le_refl _)⟩
    | true =>
      refine ⟨by rw [WorkerPool.submit_true hpool], .inl ?_⟩
      exact Nat.le_of_eq (WorkerPool.countP_tasks_submit _ hpool)
  | take =>
    simp only [step, Option.bind_eq_bind, Option.bind_eq_some_iff] at hstep
    obtain ⟨⟨task, pool⟩, htake, hstep⟩ := hstep
    have hcount : pool.tasks.countP Task.isTimer ≤ state.timers :=
      Nat.le_of_eq (WorkerPool.countP_tasks_take _ htake)
    have hworkers : pool.workers = state.pool.workers := by
      obtain ⟨rest, -, rfl⟩ := WorkerPool.take_eq_some htake
      rfl
    cases task with
    | work =>
      cases hstep
      exact ⟨hworkers, .inl hcount⟩
    | timer k =>
      simp only [Option.bind_eq_some_iff] at hstep
      obtain ⟨session, -, hnext⟩ := hstep
      cases hnext
      exact ⟨hworkers, .inl hcount⟩
  | workDone =>
    obtain ⟨pool, hpool, rfl⟩ := Option.map_eq_some_iff.mp hstep
    refine ⟨?_, .inl (WorkerPool.countP_tasks_finish _ hpool)⟩
    rw [(WorkerPool.finish_eq_some hpool).2]
  | stop k => exact (timers_endTask hstep).imp_right .inl
  | call k => exact (timers_endTask hstep).imp_right .inl

theorem inv_step (label : Label) (hinv : Inv state)
    (hguard : Guard state label) (hstep : step state label = some next) :
    Inv next := by
  refine ⟨linked_step label hinv.linked hstep, ?_⟩
  obtain ⟨hworkers, hle | ⟨i, rfl, hmore⟩⟩ := timers_step label hstep
  · rw [hworkers]
    exact Nat.lt_of_le_of_lt hle hinv.fewer
  · rw [hworkers, hmore]
    exact hguard rfl

theorem exists_start {session : HubExpiry.State} {i : Nat}
    (hqueued : session.hub.phase i = some .queued) :
    ∃ session', HubExpiry.step session (.start i) = some session' := by
  obtain ⟨r, hreg, hphase⟩ := Hub.phase_eq_some.mp hqueued
  have hstart : (session.hub.start i session.now).isSome = true := by
    simp [Hub.start, Hub.moveTo, hreg, hphase]
  obtain ⟨hub, hhub⟩ := Option.isSome_iff_exists.mp hstart
  exact ⟨_, Option.map_eq_some_iff.mpr ⟨hub, hhub, rfl⟩⟩

/-- A free worker starts the oldest task, whatever it is. -/
theorem Linked.exists_take (hlinked : Linked state) {task : Task}
    {rest : List Task} (hqueue : state.pool.queue = task :: rest)
    (hfree : state.pool.running.length < state.pool.workers) :
    ∃ next, step state .take = some next ∧ next.pool = { state.pool with
      queue := rest, running := task :: state.pool.running } := by
  have htake := WorkerPool.take_of_lt hqueue hfree
  cases task with
  | work => exact ⟨_, by simp only [step, htake]; rfl, rfl⟩
  | timer k =>
    obtain ⟨session, hstart⟩ := exists_start
      (hlinked.queued k (hqueue ▸ List.mem_cons_self))
    refine ⟨{ session, pool := { state.pool with
      queue := rest, running := .timer k :: state.pool.running } }, ?_, rfl⟩
    simp [step, htake, hstart]

/-- Free workers take a task that is queued behind others. -/
theorem Linked.exists_take_all (hlinked : Linked state)
    {before after : List Task} {task : Task}
    (hqueue : state.pool.queue = before ++ task :: after)
    (hfree : state.pool.running.length + before.length <
      state.pool.workers) :
    ∃ next, run step state
      (List.replicate (before.length + 1) .take) = some next ∧
      task ∈ next.pool.running := by
  induction before generalizing state with
  | nil =>
    obtain ⟨next, hstep, hpool⟩ := hlinked.exists_take hqueue
      (Nat.lt_of_le_of_lt (Nat.le_add_right _ _) hfree)
    refine ⟨next, ?_, ?_⟩
    · simp [run, hstep]
    · rw [hpool]
      exact List.mem_cons_self
  | cons first rest ih =>
    rw [List.length_cons] at hfree
    obtain ⟨next, hstep, hpool⟩ := hlinked.exists_take hqueue (by omega)
    have hnext : next.pool.queue = rest ++ task :: after := by
      rw [hpool]
      rfl
    have hfree' : next.pool.running.length + rest.length <
        next.pool.workers := by
      rw [hpool]
      simp only [List.length_cons]
      omega
    obtain ⟨last, hrun, hmem⟩ := ih (hlinked.take hstep) hnext hfree'
    refine ⟨last, ?_, hmem⟩
    simp only [List.length_cons, List.replicate_succ, run, hstep]
    exact hrun

theorem Inv.notExhausted (hinv : Inv state) : NotExhausted state := by
  have hsplit : state.timers = state.pool.queue.countP Task.isTimer +
      state.pool.running.countP Task.isTimer := List.countP_append
  have hfewer := hinv.fewer
  refine ⟨?_, ?_⟩
  · unfold State.blocked
    omega
  · intro before after hqueue hrunning hbefore
    refine hinv.linked.exists_take_all hqueue ?_
    -- only timers count, and they are fewer than the workers
    have hall := List.countP_eq_length.mpr hrunning
    have hahead := List.countP_eq_length.mpr hbefore
    rw [hqueue, List.countP_append] at hsplit
    omega

end Steps

theorem inv_start {workers : Nat} (buffer : Nat) (ttl : Int)
    (hworkers : 1 ≤ workers) : Inv (start workers buffer ttl) where
  linked := ⟨fun _ h => (by cases h), fun _ => Nat.zero_le _⟩
  fewer := hworkers

/-- As long as every registration leaves a worker free of timers, the timers
never hold up the other tasks. -/
theorem notExhausted_of_guard {workers buffer : Nat} {ttl : Int}
    {state : State} (hworkers : 1 ≤ workers)
    (hreach : Reach step Guard (start workers buffer ttl) state) :
    NotExhausted state :=
  (Reach.invariant Inv (inv_start buffer ttl hworkers)
    (fun _ label _ hinv hguard hstep => inv_step label hinv hguard hstep)
    hreach).notExhausted

/-- A session is registered with the hub and its timer accepted by the pool. -/
def register (i : Nat) (instanceID : Bytes) : List Label :=
  [.session (.allocate [0x75] instanceID), .session (.insert i),
    .submitTimer i true]

/-- One disconnected session, and a client's frame. -/
def oneSession : List Label :=
  register 0 [0x69] ++ [.take, .submitWork true]

theorem notExhausted_oneSession :
    let state := final step (start 2 4 60) oneSession
    state.blocked = 1 ∧ NotExhausted state :=
  ⟨by decide +kernel, notExhausted_of_guard (by decide)
    (reach_final (by decide +kernel) (by decide +kernel))⟩

/-- As many disconnected sessions as workers, and a client's frame. -/
def twoSessions : List Label :=
  register 0 [0x69] ++ register 1 [0x6A] ++
    [.take, .take, .submitWork true]

/-- Both workers wait in timers and nobody is left to take the frame. -/
theorem timers_exhaust_pool :
    let state := final step (start 2 4 60) twoSessions
    Reach step Unguarded (start 2 4 60) state ∧
      state.blocked = 2 ∧ state.pool.queue = [.work] ∧
      step state .take = none ∧ ¬ NotExhausted state := by
  refine ⟨reach_final (by decide +kernel) (by decide +kernel),
    by decide +kernel, by decide +kernel, ?_, ?_⟩
  · exact Option.isNone_iff_eq_none.mp (by decide +kernel)
  · intro hnot
    exact absurd hnot.blocked (by decide +kernel)

end TimerPool

end Pipewave
