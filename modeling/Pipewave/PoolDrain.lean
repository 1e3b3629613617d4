/-
What a worker pool promises over whole runs: accepted tasks run once and are
over when `Close` returns, refused ones never run, and calls, tasks and
`Close` cannot block each other for good.
-/
import Pipewave.PoolClose

namespace Pipewave

namespace PoolClose

open Transition

/-! ### What a pool promises -/

/-- Nothing is left to do but to start new calls. -/
def Quiet (s : State) : Prop :=
  (∀ i w, step s (.call i w) = none) ∧
    (∀ w panics, step s (.work w panics) = none) ∧
    (s.closing ≠ .idle → step s .close = none)

def State.returned (s : State) (i : Nat) (accepted : Bool) : Prop :=
  ∃ call, s.submits[i]? = some call ∧ call.phase = .returned accepted

def refusals (s : State) : Nat :=
  s.submits.countP fun call => decide (call.phase = .returned false)

structure RunsOnce (s : State) : Prop where
  noFault : s.fault = false
  once : ∀ i, s.executed.count i ≤ 1
  drained : s.closing = .returned → ∀ i, s.returned i true →
    s.executed.count i = 1 ∧ s.finished.count i = 1
  refused : ∀ i, s.returned i false → s.executed.count i = 0
  /-- A refusal is counted before its call returns. -/
  dropped : s.dropped = refusals s +
    s.submits.countP fun call => decide (call.phase = .unlocking false)
  /-- Tasks that end and calls that are given their turns get everything
  done, `Close` included. -/
  settled : Quiet s → (∀ i, s.returned i true → s.executed.count i = 1 ∧
    s.finished.count i = 1) ∧ (s.closing ≠ .idle → s.closing = .returned)

/-! ### Whole runs -/

section Quiet

variable {s : State}

theorem acceptances_le_one (submits : List Submit) (i : Nat) :
    acceptances submits i ≤ 1 := by
  rw [acceptances]
  split <;> omega

theorem acceptances_of_returned {i : Nat} {accepted : Bool}
    (hreturned : s.returned i accepted) :
    acceptances s.submits i = if accepted then 1 else 0 := by
  obtain ⟨call, hget, hphase⟩ := hreturned
  rw [acceptances_of_get hget]
  cases accepted <;> simp [Submit.accepted, hphase]

/-- With every worker waiting or gone, nothing is left in the pool. -/
theorem Inv.done_of_idle (hinv : Inv s)
    (hidle : ∀ phase ∈ s.workers, phase = .parked ∨ phase = .exited) {i : Nat}
    (hreturned : s.returned i true) :
    s.executed.count i = 1 ∧ s.finished.count i = 1 := by
  obtain ⟨first, hfirst⟩ := List.exists_mem_of_ne_nil _ hinv.staffed
  have hqueue : s.queue = [] := by
    have hok := hinv.workers first hfirst
    rcases hidle first hfirst with hparked | hexited
    · exact (hok.parked hparked).2
    · exact (hok.gone (.inr hexited)).2
  have hrunning : s.workers.countP
      (fun phase => decide (phase = .running i)) = 0 := by
    apply List.countP_eq_zero.mpr
    intro phase hphase
    rcases hidle phase hphase with rfl | rfl <;> simp
  have hplace := hinv.place i
  have hended := hinv.ended i
  rw [acceptances_of_returned hreturned, hqueue] at hplace
  rw [List.count_nil, if_pos rfl] at hplace
  omega

theorem Quiet.not_holds (hquiet : Quiet s) {call : Submit}
    (hcall : call ∈ s.submits) : call.phase.holds = false := by
  obtain ⟨i, hget⟩ := List.mem_iff_getElem?.mp hcall
  have hstuck : ∀ w, submitStep s i w call = none := by
    intro w
    have hnone := hquiet.1 i w
    rwa [step, hget] at hnone
  cases hphase : call.phase with
  | locking => rfl
  | checking =>
    have hnone := hstuck 0
    simp only [submitStep, hphase] at hnone
    split at hnone <;> cases hnone
  | sending =>
    by_cases hparked : .parked ∈ s.workers
    · obtain ⟨w, hworker⟩ := List.mem_iff_getElem?.mp hparked
      have hnone := hstuck w
      simp only [submitStep, hphase, hparked, hworker, if_true] at hnone
      split at hnone <;> cases hnone
    · have hnone := hstuck 0
      simp only [submitStep, hphase, hparked, if_false] at hnone
      split at hnone
      · cases hnone
      · split at hnone <;> cases hnone
  | unlocking accepted =>
    have hnone := hstuck 0
    simp only [submitStep, hphase] at hnone
    cases hnone
  | returned accepted => rfl

/-- `Close` has not begun, waits for the workers or is over. -/
theorem Quiet.closing (hquiet : Quiet s) :
    s.closing = .idle ∨ s.closing = .waiting ∨ s.closing = .returned := by
  have hstuck : s.closing ≠ .idle → closeStep s = none := hquiet.2.2
  unfold closeStep at hstuck
  cases hphase : s.closing with
  | idle => exact .inl rfl
  | waiting => exact .inr (.inl rfl)
  | returned => exact .inr (.inr rfl)
  | locking => simp [hphase] at hstuck
  | announced =>
    have hnone : (s.submits.any fun call => call.phase.holds) = false := by
      rw [List.any_eq_false]
      intro call hcall
      rw [hquiet.not_holds hcall]
      exact Bool.false_ne_true
    simp [hphase, hnone] at hstuck
  | setting => simp [hphase] at hstuck
  | closingQueue =>
    simp only [hphase] at hstuck
    have hnone := hstuck (by simp)
    split at hnone <;> cases hnone
  | unlocking => simp [hphase] at hstuck

theorem Quiet.all_returned (hquiet : Quiet s) {call : Submit}
    (hcall : call ∈ s.submits) : call.phase.isReturned = true := by
  have hout := hquiet.not_holds hcall
  obtain ⟨i, hget⟩ := List.mem_iff_getElem?.mp hcall
  have hstuck : submitStep s i 0 call = none := by
    have hnone := hquiet.1 i 0
    rwa [step, hget] at hnone
  have hopen : s.closing.blocksReaders = false := by
    rcases hquiet.closing with h | h | h <;> rw [h] <;> rfl
  cases hphase : call.phase with
  | locking => simp [submitStep, hphase, hopen] at hstuck
  | checking =>
    rw [hphase] at hout
    cases hout
  | sending =>
    rw [hphase] at hout
    cases hout
  | unlocking accepted =>
    rw [hphase] at hout
    cases hout
  | returned accepted => rfl

theorem Quiet.idle (hquiet : Quiet s) :
    ∀ phase ∈ s.workers, phase = .parked ∨ phase = .exited := by
  intro phase hmem
  obtain ⟨w, hget⟩ := List.mem_iff_getElem?.mp hmem
  have hstuck : workerStep s w false phase = none := by
    have hnone := hquiet.2.1 w false
    rwa [step, hget] at hnone
  cases phase with
  | parked => exact .inl rfl
  | exited => exact .inr rfl
  | receiving =>
    simp only [workerStep] at hstuck
    split at hstuck <;> cases hstuck
  | running task =>
    have hbusy : s.busy task = false := by
      rw [State.busy, List.any_eq_false]
      intro call hcall
      rw [hquiet.all_returned hcall, Bool.not_true, Bool.and_false]
      exact Bool.false_ne_true
    simp [workerStep, hbusy] at hstuck
  | recovering => cases hstuck
  | leaving => cases hstuck

theorem Inv.closing_of_quiet (hinv : Inv s) (hquiet : Quiet s)
    (hbegun : s.closing ≠ .idle) : s.closing = .returned := by
  rcases hquiet.closing with hidle | hwaiting | hreturned
  · exact absurd hidle hbegun
  · have hclosed : s.queueClosed = true := by
      rw [hinv.queueClosed, hwaiting]
      rfl
    have hexited : s.workers.all
        (fun phase => decide (phase = .exited)) = true := by
      rw [List.all_eq_true]
      intro phase hmem
      rcases hquiet.idle phase hmem with rfl | rfl
      · have hparked := (hinv.workers _ hmem).parked rfl
        rw [hclosed] at hparked
        exact absurd hparked.1.symm Bool.false_ne_true
      · rfl
    have hstuck : PoolClose.closeStep s = none := hquiet.2.2 hbegun
    simp [PoolClose.closeStep, hwaiting, hexited] at hstuck
  · exact hreturned

theorem Inv.runsOnce (hinv : Inv s) : RunsOnce s where
  noFault := hinv.noFault
  once := by
    intro i
    have hplace := hinv.place i
    have hle := acceptances_le_one s.submits i
    omega
  drained := by
    intro hclosing i hreturned
    apply hinv.done_of_idle _ hreturned
    intro phase hphase
    exact .inr ((hinv.workers phase hphase).drained hclosing)
  refused := by
    intro i hreturned
    have hplace := hinv.place i
    rw [acceptances_of_returned hreturned, if_neg Bool.false_ne_true] at hplace
    omega
  dropped := by
    rw [hinv.dropped]
    apply countP_eq_add
    intro call _
    obtain ⟨caller, phase⟩ := call
    cases phase with
    | unlocking accepted => cases accepted <;> rfl
    | returned accepted => cases accepted <;> rfl
    | locking => rfl
    | checking => rfl
    | sending => rfl
  settled := by
    intro hquiet
    exact ⟨fun i hreturned => hinv.done_of_idle hquiet.idle hreturned,
      hinv.closing_of_quiet hquiet⟩

end Quiet

/-- In every state of every run of a pool with at least one worker. -/
theorem pool_runsOnce (workers buffer : Nat) (hworkers : 1 ≤ workers)
    (s : State) (hreach : Reach step Unguarded
      (start workers buffer) s) : RunsOnce s := by
  have hinv : Inv s := by
    apply hreach.invariant Inv
    · exact inv_start hworkers buffer
    · intro state label next hstate _ hstep
      exact hstate.step hstep
  exact hinv.runsOnce

/-- One worker behind a channel without a buffer: the first task is handed
over and calls `Submit` itself, which finds nobody waiting; it panics, and
`Close` has to wait for it.  The last call comes too late. -/
def nestedRun : List Label :=
  [.work 0 false, .submit none, .call 0 0, .call 0 0, .call 0 0,
    .call 0 0, .submit (some 0), .call 1 0, .close, .close, .call 1 0,
    .call 1 0, .call 1 0, .close, .close, .close, .submit none, .close,
    .call 2 0, .call 2 0, .work 0 true, .work 0 false, .work 0 false,
    .work 0 false, .call 2 0, .close]

theorem pool_runsOnce_nestedRun :
    let s := final step (start 1 0) nestedRun
    s.closing = .returned ∧ s.finished = [0] ∧ s.dropped = 2 ∧
      RunsOnce s :=
  ⟨by decide +kernel, by decide +kernel, by decide +kernel,
    pool_runsOnce 1 0 (Nat.le_refl 1) _
      (reach_final (by decide +kernel) (by decide +kernel))⟩

/-! ### Runs are finite -/

def SubmitPhase.rank : SubmitPhase → Nat
  | .locking => 9
  | .checking => 8
  | .sending => 7
  | .unlocking _ => 1
  | .returned _ => 0

def WorkerPhase.rank : WorkerPhase → Nat
  | .running _ => 4
  | .recovering => 3
  | .receiving => 2
  | .parked | .leaving => 1
  | .exited => 0

def ClosePhase.rank : ClosePhase → Nat
  | .idle => 7
  | .locking => 6
  | .announced => 5
  | .setting => 4
  | .closingQueue => 3
  | .unlocking => 2
  | .waiting => 1
  | .returned => 0

def callsRank (submits : List Submit) : Nat :=
  (submits.map fun call => call.phase.rank).sum

def workersRank (workers : List WorkerPhase) : Nat :=
  (workers.map WorkerPhase.rank).sum

/-- How many steps are left at most without new calls. -/
def rank (s : State) : Nat :=
  callsRank s.submits + 5 * s.queue.length + workersRank s.workers +
    s.closing.rank

section Rank

variable {s next : State}

theorem callsRank_set {submits : List Submit} {i : Nat} {call : Submit}
    (hget : submits[i]? = some call) (phase : SubmitPhase) :
    callsRank (submits.set i { call with phase := phase }) + call.phase.rank =
      callsRank submits + phase.rank :=
  sum_map_set_add (fun call : Submit => call.phase.rank) hget _

theorem workersRank_set {workers : List WorkerPhase} {w : Nat}
    {phase : WorkerPhase} (hget : workers[w]? = some phase)
    (new : WorkerPhase) :
    workersRank (workers.set w new) + phase.rank =
      workersRank workers + new.rank :=
  sum_map_set_add WorkerPhase.rank hget new

theorem rank_submitStep (hinv : Inv s) {i w : Nat} {call : Submit}
    (hget : s.submits[i]? = some call)
    (hstep : submitStep s i w call = some next) :
    rank next + 1 ≤ rank s := by
  have hset := callsRank_set hget
  cases hphase : call.phase with
  | locking =>
    have hrank := hset .checking
    simp only [submitStep, hphase] at hstep
    split at hstep
    · cases hstep
    · cases hstep
      simp only [hphase, SubmitPhase.rank] at hrank
      simp only [rank, State.setSubmit]
      omega
  | checking =>
    have hrefuse := hset (.unlocking false)
    have hsend := hset .sending
    simp only [hphase, SubmitPhase.rank] at hrefuse hsend
    simp only [submitStep, hphase] at hstep
    split at hstep <;> cases hstep <;>
      simp only [rank, State.refuse, State.setSubmit] <;> omega
  | sending =>
    have hopen := hinv.queue_open hget hphase
    have haccept := hset (.unlocking true)
    have hrefuse := hset (.unlocking false)
    simp only [hphase, SubmitPhase.rank] at haccept hrefuse
    simp only [submitStep, hphase] at hstep
    rw [if_neg (by simp [hopen])] at hstep
    split at hstep
    · split at hstep
      · next hworker =>
        have hrun := workersRank_set hworker (.running i)
        simp only [WorkerPhase.rank] at hrun
        cases hstep
        simp only [rank, State.setSubmit, State.setWorker]
        omega
      · cases hstep
    · split at hstep
      · cases hstep
        simp only [rank, State.setSubmit, List.length_append,
          List.length_singleton]
        omega
      · cases hstep
        simp only [rank, State.refuse, State.setSubmit]
        omega
  | unlocking accepted =>
    have hrank := hset (.returned accepted)
    simp only [hphase, SubmitPhase.rank] at hrank
    simp only [submitStep, hphase] at hstep
    cases hstep
    simp only [rank, State.setSubmit]
    omega
  | returned accepted =>
    simp only [submitStep, hphase] at hstep
    cases hstep

theorem rank_workerStep {w : Nat} {panics : Bool} {phase : WorkerPhase}
    (hget : s.workers[w]? = some phase)
    (hstep : workerStep s w panics phase = some next) :
    rank next + 1 ≤ rank s := by
  have hset := workersRank_set hget
  cases phase with
  | receiving =>
    simp only [workerStep] at hstep
    split at hstep
    · next task rest hqueue =>
      have hrank := hset (.running task)
      simp only [WorkerPhase.rank] at hrank
      cases hstep
      simp only [rank, State.setWorker, hqueue, List.length_cons]
      omega
    · have hleave := hset .leaving
      have hpark := hset .parked
      simp only [WorkerPhase.rank] at hleave hpark
      cases hstep
      simp only [rank, State.setWorker]
      split <;> omega
  | parked => cases hstep
  | running task =>
    have hrecover := hset .recovering
    have hreceive := hset .receiving
    simp only [WorkerPhase.rank] at hrecover hreceive
    simp only [workerStep] at hstep
    split at hstep
    · cases hstep
    · cases hstep
      simp only [rank, State.setWorker]
      split <;> omega
  | recovering =>
    have hrank := hset .receiving
    simp only [WorkerPhase.rank] at hrank
    cases hstep
    simp only [rank, State.setWorker]
    omega
  | leaving =>
    have hrank := hset .exited
    simp only [WorkerPhase.rank] at hrank
    cases hstep
    simp only [rank, State.setWorker]
    omega
  | exited => cases hstep

theorem workersRank_wake (workers : List WorkerPhase) :
    workersRank (workers.map WorkerPhase.wake) = workersRank workers := by
  rw [workersRank, List.map_map]
  apply congrArg List.sum
  apply List.map_congr_left
  intro phase _
  cases phase <;> rfl

theorem rank_closeStep (hinv : Inv s) (hstep : closeStep s = some next) :
    rank next + 1 ≤ rank s := by
  unfold closeStep at hstep
  cases hphase : s.closing with
  | announced =>
    simp only [hphase] at hstep
    split at hstep
    · cases hstep
    · cases hstep
      simp only [rank, hphase, ClosePhase.rank]
      omega
  | closingQueue =>
    have hopen := hinv.open_of_closingQueue hphase
    simp only [hphase, hopen, Bool.false_eq_true, if_false] at hstep
    cases hstep
    simp only [rank, hphase, ClosePhase.rank, workersRank_wake]
    omega
  | waiting =>
    simp only [hphase] at hstep
    split at hstep
    · cases hstep
      simp only [rank, hphase, ClosePhase.rank]
      omega
    · cases hstep
  | returned =>
    simp only [hphase] at hstep
    cases hstep
  | idle =>
    simp only [hphase] at hstep
    cases hstep
    simp only [rank, hphase, ClosePhase.rank]
    omega
  | locking =>
    simp only [hphase] at hstep
    cases hstep
    simp only [rank, hphase, ClosePhase.rank]
    omega
  | setting =>
    simp only [hphase] at hstep
    cases hstep
    simp only [rank, hphase, ClosePhase.rank]
    omega
  | unlocking =>
    simp only [hphase] at hstep
    cases hstep
    simp only [rank, hphase, ClosePhase.rank]
    omega

/-- A new call brings the steps it needs. -/
def Label.credit : Label → Nat
  | .submit _ => 10
  | _ => 0

theorem rank_submit (caller : Option Nat) :
    rank { s with submits := s.submits ++ [⟨caller, .locking⟩] } =
      rank s + 9 := by
  simp only [rank, callsRank, List.map_append, List.map_cons, List.map_nil,
    List.sum_append, List.sum_cons, List.sum_nil, SubmitPhase.rank]
  omega

theorem rank_step (hinv : Inv s) {label : Label}
    (hstep : step s label = some next) :
    rank next + 1 ≤ rank s + label.credit := by
  cases label with
  | submit caller =>
    simp only [step] at hstep
    split at hstep
    · cases hstep
      rw [rank_submit, Label.credit]
    · split at hstep
      · cases hstep
        rw [rank_submit, Label.credit]
      · cases hstep
  | call i w =>
    simp only [step] at hstep
    split at hstep
    · cases hstep
    · next hget => exact rank_submitStep hinv hget hstep
  | work w panics =>
    simp only [step] at hstep
    split at hstep
    · cases hstep
    · next hget => exact rank_workerStep hget hstep
  | close => exact rank_closeStep hinv hstep

end Rank

/-- Once no new call is made, a run comes to an end; with `settled` above, it
ends with every accepted task done and `Close` returned. -/
theorem length_run_le {workers buffer : Nat} (hworkers : 1 ≤ workers)
    {labels : List Label} {s : State}
    (hrun : run step (start workers buffer) labels = some s) :
    labels.length ≤ 2 * workers + 7 + (labels.map Label.credit).sum := by
  have hbound := countP_add_rank_le Inv (fun _ => true) Label.credit rank
    (fun _ _ _ hinv hstep => ⟨hinv.step hstep,
      (Nat.add_comm 1 _).trans_le (rank_step hinv hstep)⟩)
    (inv_start hworkers buffer) hrun
  rw [List.countP_true] at hbound
  have hstart : rank (start workers buffer) = 2 * workers + 7 := by
    simp [rank, start, callsRank, workersRank, WorkerPhase.rank,
      ClosePhase.rank]
    omega
  omega

end PoolClose

end Pipewave
