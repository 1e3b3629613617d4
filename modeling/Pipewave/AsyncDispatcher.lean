/-
The asynchronous callbacks.  One loop delivers what `Emit` and the retry
timers put into a bounded queue; a job is copied from the queue into the
delivery, from there into a timer, and back.
-/
import Mathlib.Data.List.Nodup
import Mathlib.Data.List.Perm.Basic
import Pipewave.LengthPrefix
import Pipewave.Transition

namespace Pipewave

namespace Webhook

namespace Async

open Transition

def asyncQueueSize : Nat := 1024

/-- In nanoseconds. -/
def defaultBackoff : List Int :=
  [1000000000, 5000000000, 30000000000, 120000000000, 600000000000]

structure AsyncJob where
  eventType : Bytes
  callbackID : Bytes
  data : Bytes
  /-- Delivery attempts already made. -/
  attempt : Nat := 0
deriving Repr, DecidableEq

structure AsyncDispatcher where
  backoff : List Int
  retryMax : Int
deriving Repr, DecidableEq

def newAsyncDispatcher (retryMax : Int) (backoff : List Int) :
    AsyncDispatcher :=
  ⟨if backoff.length = 0 then defaultBackoff else backoff, retryMax⟩

namespace AsyncDispatcher

def backoffIndex (d : AsyncDispatcher) (attempt : Nat) : Int :=
  min ((attempt : Int) - 1) ((d.backoff.length : Int) - 1)

/-- `none` is the panic of an index out of range. -/
def backoffAt (d : AsyncDispatcher) (index : Int) : Option Int :=
  if 0 ≤ index then d.backoff[index.toNat]? else none

end AsyncDispatcher

/-- What `PostWithMode` returns.  An answer whose body cannot be read comes
with its status and an error. -/
structure PostResult where
  status : Int
  failed : Bool
deriving Repr, DecidableEq

namespace PostResult

def is2xx (result : PostResult) : Bool :=
  decide (200 ≤ result.status ∧ result.status < 300)

/-- The test in `deliver`. -/
def accepted (result : PostResult) : Bool := !result.failed && result.is2xx

end PostResult

structure Post where
  callbackID : Bytes
  result : PostResult
deriving Repr, DecidableEq

/-- A pending `AfterFunc` with the index and the delay it was made with. -/
structure Retry where
  job : AsyncJob
  index : Int
  delay : Int
deriving Repr, DecidableEq

/-- How an event ends. -/
inductive Fate where
  | delivered
  | queueFull
  | maxRetries
  | retryQueueFull
  | closed
deriving Repr, DecidableEq

/-- Where the loop is; `draining` tells the inner `for` from the outer. -/
inductive Loop where
  | selecting (draining : Bool)
  | posting (draining : Bool) (job : AsyncJob)
  /-- Behind the post, with the attempt counted. -/
  | deciding (draining : Bool) (job : AsyncJob) (result : PostResult)
  | returned
  | panicked
deriving Repr, DecidableEq

/-- `emitted`, `posts` and `ends` record what happened, newest first. -/
structure State where
  queue : List AsyncJob := []
  loop : Loop := .selecting false
  timers : List Retry := []
  closed : Bool := false
  emitted : List Bytes := []
  posts : List Post := []
  ends : List (Bytes × Fate) := []
deriving Repr, DecidableEq

inductive Label where
  | emit (eventType callbackID data : Bytes)
  /-- One of the two `select`s receives a job. -/
  | take
  | seeClosed
  | finish
  | post (result : PostResult)
  /-- The rest of `deliver`. -/
  | settle
  /-- A timer's function runs; its `select` may prefer `closed`. -/
  | fire (timer : Nat) (prefersClosed : Bool)
  | shutdown
deriving Repr, DecidableEq

namespace State

def endWith (s : State) (job : AsyncJob) (fate : Fate) : State :=
  { s with ends := (job.callbackID, fate) :: s.ends }

def emit (s : State) (job : AsyncJob) : State :=
  let s := { s with emitted := job.callbackID :: s.emitted }
  if s.queue.length < asyncQueueSize then
    { s with queue := s.queue ++ [job] }
  else s.endWith job .queueFull

/-- `deliver` behind the post. -/
def settle (d : AsyncDispatcher) (s : State) (draining : Bool)
    (job : AsyncJob) (result : PostResult) : State :=
  let back := { s with loop := .selecting draining }
  if result.accepted then back.endWith job .delivered
  else if d.retryMax ≤ job.attempt then back.endWith job .maxRetries
  else
    let index := d.backoffIndex job.attempt
    match d.backoffAt index with
    | none => { s with loop := .panicked }
    | some delay => { back with timers := s.timers ++ [⟨job, index, delay⟩] }

end State

def step (d : AsyncDispatcher) (s : State) : Label → Option State
  | .emit eventType callbackID data =>
    some (s.emit { eventType, callbackID, data })
  | .take =>
    match s.loop, s.queue with
    | .selecting draining, job :: rest =>
      some { s with loop := .posting draining job, queue := rest }
    | _, _ => none
  | .seeClosed =>
    if s.loop = .selecting false ∧ s.closed = true then
      some { s with loop := .selecting true }
    else none
  | .finish =>
    if s.loop = .selecting true ∧ s.queue = [] then
      some { s with loop := .returned }
    else none
  | .post result =>
    match s.loop with
    | .posting draining job => some { s with
        loop := .deciding draining
          { job with attempt := job.attempt + 1 } result
        posts := ⟨job.callbackID, result⟩ :: s.posts }
    | _ => none
  | .settle =>
    match s.loop with
    | .deciding draining job result =>
      some (s.settle d draining job result)
    | _ => none
  | .fire timer prefersClosed =>
    match s.timers[timer]? with
    | none => none
    | some retry =>
      let fired := { s with timers := s.timers.eraseIdx timer }
      if prefersClosed = true then
        if s.closed = true then some (fired.endWith retry.job .closed)
        else none
      else if s.queue.length < asyncQueueSize then
        some { fired with queue := s.queue ++ [retry.job] }
      else if s.closed = true then none
      else some (fired.endWith retry.job .retryQueueFull)
  | .shutdown => some { s with closed := true }

/-- `NewCallbackID` draws an ID that no earlier event got. -/
def DrawsFresh (s : State) : Label → Prop
  | .emit _ callbackID _ => callbackID ∉ s.emitted
  | _ => True

instance (s : State) : ∀ label, Decidable (DrawsFresh s label)
  | .emit _ _ _ => inferInstanceAs (Decidable (¬ _))
  | .take | .seeClosed | .finish | .post _ | .settle | .fire _ _ |
    .shutdown => .isTrue trivial

/-! ### What the dispatcher promises -/

def Loop.jobs : Loop → List AsyncJob
  | .posting _ job | .deciding _ job _ => [job]
  | .selecting _ | .returned | .panicked => []

/-- The number of posts made for an event. -/
def postsOf (posts : List Post) (callbackID : Bytes) : Nat :=
  posts.countP fun post => post.callbackID = callbackID

def copies (jobs : List AsyncJob) (callbackID : Bytes) : Nat :=
  (jobs.map AsyncJob.callbackID).count callbackID

/-- The backoff that a timer was made with. -/
structure Indexed (d : AsyncDispatcher) (posts : List Post) (retry : Retry) :
    Prop where
  nonneg : 0 ≤ retry.index
  inRange : retry.index < d.backoff.length
  index : retry.index =
    min (postsOf posts retry.job.callbackID : Int) d.backoff.length - 1
  delay : d.backoff[retry.index.toNat]? = some retry.delay

structure DeliversOnce (d : AsyncDispatcher) (s : State) : Prop where
  onePlace : ∀ callbackID, copies s.queue callbackID +
    copies s.loop.jobs callbackID +
      copies (s.timers.map Retry.job) callbackID ≤ 1
  bounded : ∀ callbackID,
    (postsOf s.posts callbackID : Int) ≤ max 1 d.retryMax
  queued : ∀ job ∈ s.queue, job.attempt = postsOf s.posts job.callbackID
  waiting : ∀ retry ∈ s.timers,
    retry.job.attempt = postsOf s.posts retry.job.callbackID
  lastAccepted : s.posts.Pairwise fun later earlier =>
    later.callbackID = earlier.callbackID → earlier.result.accepted = false
  indexed : ∀ retry ∈ s.timers, Indexed d s.posts retry
  noPanic : s.loop ≠ .panicked

/-! ### What a step does -/

/-- The steps, with what each finds and where it puts the job. -/
inductive StepCase (d : AsyncDispatcher) (s : State) : Label → State → Prop
    where
  | enqueue {eventType callbackID data : Bytes} :
      StepCase d s (.emit eventType callbackID data) { s with
        emitted := callbackID :: s.emitted
        queue := s.queue ++ [{ eventType, callbackID, data }] }
  | refuse {eventType callbackID data : Bytes} :
      StepCase d s (.emit eventType callbackID data) { s with
        emitted := callbackID :: s.emitted
        ends := (callbackID, .queueFull) :: s.ends }
  | take {draining : Bool} {job : AsyncJob} {rest : List AsyncJob}
      (loop : s.loop = .selecting draining) (queue : s.queue = job :: rest) :
      StepCase d s .take { s with
        loop := .posting draining job, queue := rest }
  | idle {label : Label} {draining : Bool} {loop : Loop}
      (before : s.loop = .selecting draining)
      (after : loop = .selecting true ∨ loop = .returned) :
      StepCase d s label { s with loop }
  | post {draining : Bool} {job : AsyncJob} {result : PostResult}
      (loop : s.loop = .posting draining job) :
      StepCase d s (.post result) { s with
        loop := .deciding draining
          { job with attempt := job.attempt + 1 } result
        posts := ⟨job.callbackID, result⟩ :: s.posts }
  | done {draining : Bool} {job : AsyncJob} {result : PostResult}
      (fate : Fate) (loop : s.loop = .deciding draining job result) :
      StepCase d s .settle { s with
        loop := .selecting draining
        ends := (job.callbackID, fate) :: s.ends }
  | panic {draining : Bool} {job : AsyncJob} {result : PostResult}
      (loop : s.loop = .deciding draining job result)
      (outOfRange : d.backoffAt (d.backoffIndex job.attempt) = none) :
      StepCase d s .settle { s with loop := .panicked }
  | retry {draining : Bool} {job : AsyncJob} {result : PostResult}
      {delay : Int} (loop : s.loop = .deciding draining job result)
      (refused : result.accepted = false) (left : job.attempt < d.retryMax)
      (found : d.backoffAt (d.backoffIndex job.attempt) = some delay) :
      StepCase d s .settle { s with
        loop := .selecting draining
        timers := s.timers ++ [⟨job, d.backoffIndex job.attempt, delay⟩] }
  | drop {timer : Nat} {prefersClosed : Bool} {retry : Retry} (fate : Fate)
      (get : s.timers[timer]? = some retry) :
      StepCase d s (.fire timer prefersClosed) { s with
        timers := s.timers.eraseIdx timer
        ends := (retry.job.callbackID, fate) :: s.ends }
  | requeue {timer : Nat} {prefersClosed : Bool} {retry : Retry}
      (get : s.timers[timer]? = some retry) :
      StepCase d s (.fire timer prefersClosed) { s with
        timers := s.timers.eraseIdx timer
        queue := s.queue ++ [retry.job] }
  | shutdown : StepCase d s .shutdown { s with closed := true }

variable {d : AsyncDispatcher} {s next : State} {label : Label}

theorem step_cases (hstep : step d s label = some next) :
    StepCase d s label next := by
  cases label with
  | emit eventType callbackID data =>
    cases hstep
    simp only [State.emit, State.endWith]
    split
    · exact .enqueue
    · exact .refuse
  | take =>
    simp only [step] at hstep
    split at hstep
    next draining job rest hloop hqueue =>
      cases hstep
      exact .take hloop hqueue
    · cases hstep
  | seeClosed =>
    simp only [step, Option.ite_none_right_eq_some] at hstep
    obtain ⟨⟨hloop, -⟩, hstep⟩ := hstep
    cases hstep
    exact .idle hloop (.inl rfl)
  | finish =>
    simp only [step, Option.ite_none_right_eq_some] at hstep
    obtain ⟨⟨hloop, -⟩, hstep⟩ := hstep
    cases hstep
    exact .idle hloop (.inr rfl)
  | post result =>
    simp only [step] at hstep
    split at hstep
    next draining job hloop =>
      cases hstep
      exact .post hloop
    · cases hstep
  | settle =>
    simp only [step] at hstep
    split at hstep
    next draining job result hloop =>
      cases hstep
      simp only [State.settle, State.endWith]
      split
      · exact .done .delivered hloop
      next hrefused =>
        split
        · exact .done .maxRetries hloop
        next hleft =>
          split
          next hnone => exact .panic hloop hnone
          next delay hdelay =>
            exact .retry hloop (Bool.not_eq_true _ ▸ hrefused)
              (Int.not_le.mp hleft) hdelay
    · cases hstep
  | fire timer prefersClosed =>
    simp only [step] at hstep
    split at hstep
    · cases hstep
    next retry hget =>
      split at hstep
      · rw [Option.ite_none_right_eq_some] at hstep
        obtain ⟨-, hstep⟩ := hstep
        cases hstep
        exact .drop .closed hget
      · split at hstep
        · cases hstep
          exact .requeue hget
        · rw [Option.ite_none_left_eq_some] at hstep
          obtain ⟨-, hstep⟩ := hstep
          cases hstep
          exact .drop .retryQueueFull hget
  | shutdown =>
    cases hstep
    exact .shutdown

/-! ### Every event has one place -/

/-- The events in the queue, the delivery and the timers, and those that have
ended. -/
def places (queue : List AsyncJob) (loop : Loop) (timers : List Retry)
    (ends : List (Bytes × Fate)) : List Bytes :=
  (queue ++ loop.jobs ++ timers.map Retry.job).map AsyncJob.callbackID ++
    ends.map Prod.fst

def State.places (s : State) : List Bytes :=
  Async.places s.queue s.loop s.timers s.ends

theorem count_places (queue : List AsyncJob) (loop : Loop)
    (timers : List Retry) (ends : List (Bytes × Fate)) (callbackID : Bytes) :
    (places queue loop timers ends).count callbackID =
      copies queue callbackID + copies loop.jobs callbackID +
        copies (timers.map Retry.job) callbackID +
          (ends.map Prod.fst).count callbackID := by
  simp only [places, copies, List.map_append, List.count_append]

theorem copies_append (jobs more : List AsyncJob) (callbackID : Bytes) :
    copies (jobs ++ more) callbackID =
      copies jobs callbackID + copies more callbackID := by
  rw [copies, List.map_append, List.count_append]
  rfl

theorem copies_cons (job : AsyncJob) (jobs : List AsyncJob)
    (callbackID : Bytes) : copies (job :: jobs) callbackID =
      copies [job] callbackID + copies jobs callbackID :=
  copies_append [job] jobs callbackID

theorem copies_nil (callbackID : Bytes) : copies [] callbackID = 0 := rfl

theorem count_cons_callbackID (job : AsyncJob) (ids : List Bytes)
    (callbackID : Bytes) : (job.callbackID :: ids).count callbackID =
      copies [job] callbackID + ids.count callbackID := by
  rw [List.count_cons, copies, List.map_singleton, List.count_singleton]
  exact Nat.add_comm _ _

theorem copies_eraseIdx {timers : List Retry} {timer : Nat} {retry : Retry}
    (hget : timers[timer]? = some retry) (callbackID : Bytes) :
    copies (timers.map Retry.job) callbackID = copies [retry.job] callbackID +
      copies ((timers.eraseIdx timer).map Retry.job) callbackID := by
  obtain ⟨hlt, hitem⟩ := List.getElem?_eq_some_iff.mp hget
  have hperm := List.getElem_cons_eraseIdx_perm hlt
  rw [hitem] at hperm
  rw [← copies_cons, ← List.map_cons]
  exact ((hperm.symm.map Retry.job).map AsyncJob.callbackID).count_eq _

/-- A step moves jobs about; only `Emit` brings one in. -/
theorem count_places_step (hnoPanic : next.loop ≠ .panicked)
    (hstep : step d s label = some next) (callbackID : Bytes) :
    next.places.count callbackID + s.emitted.count callbackID =
      s.places.count callbackID + next.emitted.count callbackID := by
  simp only [State.places, count_places]
  induction step_cases hstep with
  | @enqueue eventType id data =>
    have hemitted := count_cons_callbackID ⟨eventType, id, data, 0⟩
      s.emitted callbackID
    simp only [copies_append] at hemitted ⊢
    omega
  | @refuse eventType id data =>
    have hemitted := count_cons_callbackID ⟨eventType, id, data, 0⟩
      s.emitted callbackID
    have hends := count_cons_callbackID ⟨eventType, id, data, 0⟩
      (s.ends.map Prod.fst) callbackID
    simp only [List.map_cons] at hemitted hends ⊢
    omega
  | take hloop hqueue =>
    rw [hloop, hqueue, copies_cons]
    simp only [Loop.jobs, copies_nil]
    omega
  | idle hbefore hafter =>
    rw [hbefore]
    obtain rfl | rfl := hafter
    · rfl
    · rfl
  | post hloop =>
    rw [hloop]
    rfl
  | done fate hloop =>
    rw [hloop, List.map_cons, count_cons_callbackID]
    simp only [Loop.jobs, copies_nil]
    omega
  | panic => exact absurd rfl hnoPanic
  | retry hloop =>
    rw [hloop, List.map_append, copies_append]
    simp only [Loop.jobs, copies_nil, List.map_cons, List.map_nil]
    omega
  | drop fate hget =>
    have htimers := copies_eraseIdx hget callbackID
    simp only [List.map_cons, count_cons_callbackID]
    omega
  | requeue hget =>
    have htimers := copies_eraseIdx hget callbackID
    simp only [copies_append]
    omega
  | shutdown => rfl

/-! ### The posts -/

/-- A job that waits for its next post. -/
structure Ready (d : AsyncDispatcher) (posts : List Post) (job : AsyncJob) :
    Prop where
  attempt : job.attempt = postsOf posts job.callbackID
  left : job.attempt = 0 ∨ job.attempt < d.retryMax
  refused : ∀ post ∈ posts, post.callbackID = job.callbackID →
    post.result.accepted = false

/-- A job whose last post has returned. -/
structure Answered (posts : List Post) (job : AsyncJob)
    (result : PostResult) : Prop where
  attempt : job.attempt = postsOf posts job.callbackID
  posted : 0 < job.attempt
  refused : result.accepted = false → ∀ post ∈ posts,
    post.callbackID = job.callbackID → post.result.accepted = false

/-- What holds of the loop's job. -/
def Loop.Sound (d : AsyncDispatcher) (posts : List Post) : Loop → Prop
  | .selecting _ | .returned => True
  | .posting _ job => Ready d posts job
  | .deciding _ job result => Answered posts job result
  | .panicked => False

section Posts

variable {d : AsyncDispatcher} {posts : List Post} {job : AsyncJob}

theorem postsOf_cons_self (posts : List Post) (callbackID : Bytes)
    (result : PostResult) :
    postsOf (⟨callbackID, result⟩ :: posts) callbackID =
      postsOf posts callbackID + 1 :=
  List.countP_cons_of_pos (by simp)

variable {callbackID : Bytes} {result : PostResult}

theorem postsOf_cons_ne (posts : List Post) {other : Bytes}
    (hne : callbackID ≠ other) (result : PostResult) :
    postsOf (⟨callbackID, result⟩ :: posts) other = postsOf posts other :=
  List.countP_cons_of_neg (by simpa using hne)

theorem Ready.cons_ne (hready : Ready d posts job)
    (hne : callbackID ≠ job.callbackID) (result : PostResult) :
    Ready d (⟨callbackID, result⟩ :: posts) job where
  attempt := by rw [postsOf_cons_ne posts hne, hready.attempt]
  left := hready.left
  refused := by
    intro post hmem hid
    obtain rfl | hold := List.mem_cons.mp hmem
    · exact absurd hid hne
    · exact hready.refused post hold hid

theorem Ready.answered (hready : Ready d posts job) (result : PostResult) :
    Answered (⟨job.callbackID, result⟩ :: posts)
      { job with attempt := job.attempt + 1 } result where
  attempt := by rw [postsOf_cons_self, hready.attempt]
  posted := Nat.succ_pos _
  refused := by
    intro hresult post hmem hid
    obtain rfl | hold := List.mem_cons.mp hmem
    · exact hresult
    · exact hready.refused post hold hid

/-- The post that follows is within the bound. -/
theorem Ready.bounded (hready : Ready d posts job) (result : PostResult) :
    (postsOf (⟨job.callbackID, result⟩ :: posts) job.callbackID : Int) ≤
      max 1 d.retryMax := by
  rw [postsOf_cons_self, ← hready.attempt]
  obtain hzero | hlt := hready.left
  · rw [hzero]
    exact Int.le_max_left _ _
  · exact Int.le_trans (Int.add_one_le_of_lt hlt) (Int.le_max_right _ _)

theorem Answered.ready (hanswered : Answered posts job result)
    (hrefused : result.accepted = false) (hleft : job.attempt < d.retryMax) :
    Ready d posts job :=
  ⟨hanswered.attempt, .inr hleft, hanswered.refused hrefused⟩

theorem Indexed.cons_ne {retry : Retry} (hindexed : Indexed d posts retry)
    (hne : callbackID ≠ retry.job.callbackID) (result : PostResult) :
    Indexed d (⟨callbackID, result⟩ :: posts) retry :=
  { hindexed with
    index := by rw [postsOf_cons_ne posts hne, hindexed.index] }

/-- Behind a post the index is in range. -/
theorem Answered.indexed (hanswered : Answered posts job result) {delay : Int}
    (hdelay : d.backoffAt (d.backoffIndex job.attempt) = some delay) :
    Indexed d posts ⟨job, d.backoffIndex job.attempt, delay⟩ := by
  rw [AsyncDispatcher.backoffAt, Option.ite_none_right_eq_some] at hdelay
  obtain ⟨hnonneg, hdelay⟩ := hdelay
  have hlt := (List.getElem?_eq_some_iff.mp hdelay).1
  refine ⟨hnonneg, ?_, ?_, hdelay⟩
  · simp only
    omega
  · simp only [AsyncDispatcher.backoffIndex, ← hanswered.attempt]
    omega

theorem backoffAt_ne_none (hbackoff : d.backoff ≠ []) {attempt : Nat}
    (hposted : 0 < attempt) :
    d.backoffAt (d.backoffIndex attempt) ≠ none := by
  have hlength := List.length_pos_iff.mpr hbackoff
  have hindex : 0 ≤ d.backoffIndex attempt := by
    rw [AsyncDispatcher.backoffIndex]
    omega
  rw [AsyncDispatcher.backoffAt, if_pos hindex, ne_eq,
    List.getElem?_eq_none_iff, AsyncDispatcher.backoffIndex]
  omega

end Posts

/-! ### Every run -/

structure Inv (d : AsyncDispatcher) (s : State) : Prop where
  account : ∀ callbackID,
    s.places.count callbackID = s.emitted.count callbackID
  unique : s.emitted.Nodup
  posted : ∀ post ∈ s.posts, post.callbackID ∈ s.emitted
  loop : s.loop.Sound d s.posts
  queued : ∀ job ∈ s.queue, Ready d s.posts job
  waiting : ∀ retry ∈ s.timers,
    Ready d s.posts retry.job ∧ Indexed d s.posts retry
  bounded : ∀ callbackID,
    (postsOf s.posts callbackID : Int) ≤ max 1 d.retryMax
  lastAccepted : s.posts.Pairwise fun later earlier =>
    later.callbackID = earlier.callbackID → earlier.result.accepted = false

theorem Inv.onePlace (hinv : Inv d s) (callbackID : Bytes) :
    copies s.queue callbackID +
      copies s.loop.jobs callbackID +
        copies (s.timers.map Retry.job) callbackID ≤ 1 := by
  have haccount := hinv.account callbackID
  have hunique := List.nodup_iff_count_le_one.mp hinv.unique callbackID
  rw [State.places, count_places] at haccount
  omega

theorem copies_pos {jobs : List AsyncJob} {job : AsyncJob}
    (hmem : job ∈ jobs) : 0 < copies jobs job.callbackID :=
  List.count_pos_iff.mpr (List.mem_map_of_mem hmem)

section Loop

variable {d : AsyncDispatcher} {s : State} {job : AsyncJob}

theorem copies_loop_pos (hloop : s.loop.jobs = [job]) :
    0 < copies s.loop.jobs job.callbackID := by
  rw [hloop]
  exact copies_pos List.mem_cons_self

theorem Inv.emitted_of_loop (hinv : Inv d s) (hloop : s.loop.jobs = [job]) :
    job.callbackID ∈ s.emitted := by
  have haccount := hinv.account job.callbackID
  have hself := copies_loop_pos hloop
  rw [State.places, count_places] at haccount
  apply List.count_pos_iff.mp
  omega

/-- While the loop has an event, it is neither queued nor in a timer. -/
theorem Inv.ne_of_loop (hinv : Inv d s) (hloop : s.loop.jobs = [job])
    {other : AsyncJob}
    (hmem : other ∈ s.queue ∨ other ∈ s.timers.map Retry.job) :
    job.callbackID ≠ other.callbackID := by
  intro hsame
  have hplace := hinv.onePlace job.callbackID
  have hself := copies_loop_pos hloop
  obtain hother | hother := hmem
  · have hpos := copies_pos hother
    rw [← hsame] at hpos
    omega
  · have hpos := copies_pos hother
    rw [← hsame] at hpos
    omega

end Loop

theorem inv_init (d : AsyncDispatcher) : Inv d {} where
  account := by simp [State.places, places, Loop.jobs]
  unique := List.nodup_nil
  posted := by simp
  loop := trivial
  queued := by simp
  waiting := by simp
  bounded := by
    intro callbackID
    simp only [postsOf, List.countP_nil]
    omega
  lastAccepted := .nil

theorem unposted_of_notMem {posts : List Post} {emitted : List Bytes}
    (hposted : ∀ post ∈ posts, post.callbackID ∈ emitted)
    {callbackID : Bytes} (hfresh : callbackID ∉ emitted) :
    ∀ post ∈ posts, post.callbackID ≠ callbackID := by
  rintro post hmem rfl
  exact hfresh (hposted post hmem)

theorem Inv.noPanic (hinv : Inv d s) :
    s.loop ≠ .panicked := by
  intro hloop
  have hsound := hinv.loop
  rw [hloop] at hsound
  exact hsound

theorem noPanic_step (hbackoff : d.backoff ≠ []) (hinv : Inv d s)
    (hstep : step d s label = some next) : next.loop ≠ .panicked := by
  induction step_cases hstep with
  | enqueue | refuse | drop | requeue | shutdown => exact hinv.noPanic
  | take | post | done | retry => simp
  | idle _ hafter =>
    obtain rfl | rfl := hafter
    · simp
    · simp
  | panic hloop hnone =>
    have hanswered := hinv.loop
    rw [hloop] at hanswered
    exact absurd hnone (backoffAt_ne_none hbackoff hanswered.posted)

theorem account_step (hbackoff : d.backoff ≠ []) (hinv : Inv d s)
    (hstep : step d s label = some next) (callbackID : Bytes) :
    next.places.count callbackID = next.emitted.count callbackID := by
  have hmoved := count_places_step (noPanic_step hbackoff hinv hstep) hstep
    callbackID
  have hbefore := hinv.account callbackID
  omega

theorem inv_step (hbackoff : d.backoff ≠ []) (hfresh : DrawsFresh s label)
    (hinv : Inv d s) (hstep : step d s label = some next) : Inv d next := by
  have haccount := account_step hbackoff hinv hstep
  have hloopSound := hinv.loop
  induction step_cases hstep with
  | @enqueue eventType id data =>
    refine { hinv with
      account := haccount
      unique := List.nodup_cons.mpr ⟨hfresh, hinv.unique⟩
      posted := fun post h => List.mem_cons_of_mem _ (hinv.posted post h)
      queued := fun job hmem => ?_ }
    rw [List.mem_append, List.mem_singleton] at hmem
    obtain hold | rfl := hmem
    · exact hinv.queued job hold
    · have hnone := unposted_of_notMem hinv.posted hfresh
      refine ⟨?_, .inl rfl, fun post hpost hid => ?_⟩
      · symm
        rw [postsOf, List.countP_eq_zero]
        simpa using hnone
      · exact absurd hid (hnone post hpost)
  | refuse =>
    exact { hinv with
      account := haccount
      unique := List.nodup_cons.mpr ⟨hfresh, hinv.unique⟩
      posted := fun post h => List.mem_cons_of_mem _ (hinv.posted post h) }
  | @take draining job rest hloop hqueue =>
    have hqueued := hinv.queued
    rw [hqueue] at hqueued
    exact { hinv with
      account := haccount
      loop := hqueued job List.mem_cons_self
      queued := fun other h => hqueued other (List.mem_cons_of_mem _ h) }
  | idle _ hafter =>
    refine { hinv with account := haccount, loop := ?_ }
    obtain rfl | rfl := hafter
    · trivial
    · trivial
  | @post draining job result hloop =>
    rw [hloop] at hloopSound
    have hready : Ready d s.posts job := hloopSound
    have hjobs : s.loop.jobs = [job] := by rw [hloop]; rfl
    refine {
      account := haccount
      unique := hinv.unique
      posted := fun post hmem => ?_
      loop := hready.answered result
      queued := fun other hother => ?_
      waiting := fun retry hretry => ?_
      bounded := fun callbackID => ?_
      lastAccepted := List.pairwise_cons.mpr ⟨?_, hinv.lastAccepted⟩ }
    · obtain rfl | hold := List.mem_cons.mp hmem
      · exact hinv.emitted_of_loop hjobs
      · exact hinv.posted post hold
    · have hne := hinv.ne_of_loop hjobs (.inl hother)
      exact (hinv.queued other hother).cons_ne hne result
    · have hne := hinv.ne_of_loop hjobs (.inr (List.mem_map_of_mem hretry))
      obtain ⟨hother, hindexed⟩ := hinv.waiting retry hretry
      exact ⟨hother.cons_ne hne result, hindexed.cons_ne hne result⟩
    · by_cases hsame : job.callbackID = callbackID
      · rw [← hsame]
        exact hready.bounded result
      · rw [postsOf_cons_ne _ hsame]
        exact hinv.bounded callbackID
    · intro earlier hmem hid
      exact hready.refused earlier hmem hid.symm
  | done fate hloop =>
    exact { hinv with account := haccount, loop := trivial }
  | panic hloop hnone =>
    exact absurd rfl (noPanic_step hbackoff hinv hstep)
  | retry hloop hrefused hleft hdelay =>
    rw [hloop] at hloopSound
    refine { hinv with
      account := haccount
      loop := trivial
      waiting := fun retry hmem => ?_ }
    rw [List.mem_append, List.mem_singleton] at hmem
    obtain hold | rfl := hmem
    · exact hinv.waiting retry hold
    · exact ⟨hloopSound.ready hrefused hleft, hloopSound.indexed hdelay⟩
  | drop fate hget =>
    exact { hinv with
      account := haccount
      waiting := fun retry hmem =>
        hinv.waiting retry (List.mem_of_mem_eraseIdx hmem) }
  | @requeue timer prefersClosed retry hget =>
    refine { hinv with
      account := haccount
      queued := fun job hmem => ?_
      waiting := fun other hmem =>
        hinv.waiting other (List.mem_of_mem_eraseIdx hmem) }
    rw [List.mem_append, List.mem_singleton] at hmem
    obtain hold | rfl := hmem
    · exact hinv.queued job hold
    · exact (hinv.waiting retry (List.mem_of_getElem? hget)).1
  | shutdown => exact { hinv with account := haccount }

theorem backoff_ne_nil (retryMax : Int) (backoff : List Int) :
    (newAsyncDispatcher retryMax backoff).backoff ≠ [] := by
  simp only [newAsyncDispatcher]
  split
  · simp [defaultBackoff]
  next h => exact fun hnil => h (List.length_eq_zero_iff.mpr hnil)

theorem Inv.deliversOnce (hinv : Inv d s) :
    DeliversOnce d s where
  onePlace := hinv.onePlace
  bounded := hinv.bounded
  queued := fun job hmem => (hinv.queued job hmem).attempt
  waiting := fun retry hmem => (hinv.waiting retry hmem).1.attempt
  lastAccepted := hinv.lastAccepted
  indexed := fun retry hmem => (hinv.waiting retry hmem).2
  noPanic := hinv.noPanic

/-- In every interleaving an event is in one place, is posted at most
`max 1 retryMax` times and never again after a post that `deliver` accepts,
and the backoff index is in range. -/
theorem deliversOnce_of_reach {retryMax : Int} {backoff : List Int}
    {s : State} (hreach : Reach
      (step (newAsyncDispatcher retryMax backoff)) DrawsFresh {} s) :
    DeliversOnce (newAsyncDispatcher retryMax backoff) s := by
  have hinv : Inv (newAsyncDispatcher retryMax backoff) s :=
    hreach.invariant _ (inv_init _) fun _ _ _ hinv hfresh hstep =>
      inv_step (backoff_ne_nil retryMax backoff) hfresh hinv hstep
  exact hinv.deliversOnce

/-- An event is posted, refused with the given result, and posted again. -/
def postedTwice (result : PostResult) : List Label :=
  [.emit [1] [2] [3], .take, .post result, .settle, .fire 0 false, .take,
    .post ⟨200, false⟩]

theorem deliversOnce_serverError :
    let d := newAsyncDispatcher 3 [5]
    let s := final (step d) {} (postedTwice ⟨500, false⟩)
    s.posts = [⟨[2], ⟨200, false⟩⟩, ⟨[2], ⟨500, false⟩⟩] ∧
      DeliversOnce d s :=
  ⟨by decide +kernel, deliversOnce_of_reach
    (reach_final (by decide +kernel) (by decide +kernel))⟩

/-- The body of a 200 answer cannot be read, and the event is posted once
more. -/
theorem unreadBody_posted_again :
    let s := final (step (newAsyncDispatcher 3 [5])) {}
      (postedTwice ⟨200, true⟩)
    Reach (step (newAsyncDispatcher 3 [5])) DrawsFresh {} s ∧
      ¬ s.posts.Pairwise fun later earlier =>
        later.callbackID = earlier.callbackID →
          earlier.result.is2xx = false :=
  ⟨reach_final (by decide +kernel) (by decide +kernel),
    by decide +kernel⟩

end Async

end Webhook

end Pipewave
