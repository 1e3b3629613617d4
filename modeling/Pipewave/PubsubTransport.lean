/-
The callbacks over a broker.  `Emit` puts an event into a bounded queue or
drops it, one loop publishes them in turn, and `Shutdown` has the loop drain
the queue.  Drops are counted one by one but logged at most once in five
seconds: every `Emit` that finds the queue full reads the clock, loads the
time of the last warning and swaps in its own.
-/
import Mathlib.Data.List.Infix
import Pipewave.LengthPrefix
import Pipewave.Pool
import Pipewave.TrackedQueue
import Pipewave.Transition

namespace Pipewave

namespace Callback

open Transition

def queueSize : Nat := 1024

/-- In nanoseconds. -/
def dropLogInterval : Int := 5 * 10 ^ 9

def dot : UInt8 := 0x2E

structure PubsubJob where
  subject : Bytes
  eventType : Bytes
  payload : Bytes
deriving Repr, DecidableEq

/-- Where an `Emit` is in `logDropRateLimited`.  `seen` and `done` are how many
warnings there were at its load and at its return. -/
inductive Drop where
  | dropped
  | timed (now : Int)
  | loaded (now last : Int) (seen : Nat)
  | returned (now : Int) (seen done : Nat) (logged : Bool)
deriving Repr, DecidableEq

/-- Where the loop is; `draining` tells the inner `for` from the outer. -/
inductive Loop where
  | selecting (draining : Bool)
  | delivering (draining : Bool) (job : PubsubJob)
  | returned
deriving Repr, DecidableEq

/-- `drops` is what the observer counts; `accepted`, `published`, with what
`Publish` returned, and `logs` record what happened, in order. -/
structure State where
  now : Int := 0
  queue : TrackedQueue PubsubJob Unit := {}
  loop : Loop := .selecting false
  closed : Bool := false
  lastDropLogNano : Int := 0
  accepted : List PubsubJob := []
  published : List (PubsubJob × Bool) := []
  drops : List (Bytes × Drop) := []
  logs : List (Bytes × Int) := []
deriving Repr, DecidableEq

inductive Label where
  /-- The wall clock, which may be set back, but not to before 1970. -/
  | tick (now : Int)
  /-- `none` is an error of `json.Marshal`. -/
  | emit (eventType : Bytes) (payload : Option Bytes)
  | readClock (drop : Nat)
  | load (drop : Nat)
  | compareAndSwap (drop : Nat)
  /-- One of the two `select`s receives a job. -/
  | take
  | seeClosed
  /-- The inner `select` finds the queue empty. -/
  | finish
  | publish (ok : Bool)
  | shutdown
deriving Repr, DecidableEq

def Label.isEmit : Label → Bool
  | .emit _ _ => true
  | _ => false

/-- The steps of the loop. -/
def Label.isLoop : Label → Bool
  | .take | .seeClosed | .finish | .publish _ => true
  | _ => false

namespace State

variable (s : State)

/-- The `select` of `Emit`. -/
def enqueue (job : PubsubJob) : State :=
  if s.queue.waiting.length < queueSize then
    { s with queue := s.queue.push job, accepted := s.accepted ++ [job] }
  else { s with drops := s.drops ++ [(job.eventType, .dropped)] }

def setDrop (i : Nat) (eventType : Bytes) (drop : Drop) : State :=
  { s with drops := s.drops.set i (eventType, drop) }

/-- The load, and the comparison behind it. -/
def load (i : Nat) (eventType : Bytes) (now : Int) : State :=
  s.setDrop i eventType
    (if now - s.lastDropLogNano < dropLogInterval then
      .returned now s.logs.length s.logs.length false
    else .loaded now s.lastDropLogNano s.logs.length)

def compareAndSwap (i : Nat) (eventType : Bytes) (now last : Int)
    (seen : Nat) : State :=
  if s.lastDropLogNano = last then
    { s.setDrop i eventType (.returned now seen (s.logs.length + 1) true) with
      lastDropLogNano := now
      logs := s.logs ++ [(eventType, now)] }
  else s.setDrop i eventType (.returned now seen s.logs.length false)

end State

def step (subjectPrefix : Bytes) (s : State) : Label → Option State
  | .tick now => if 0 ≤ now ∧ now < 2 ^ 63 then some { s with now } else none
  | .emit eventType payload => some (match payload with
      | none => s
      | some payload => s.enqueue
          ⟨subjectPrefix ++ [dot] ++ eventType, eventType, payload⟩)
  | .readClock i => match s.drops[i]? with
      | some (eventType, .dropped) =>
        some (s.setDrop i eventType (.timed s.now))
      | _ => none
  | .load i => match s.drops[i]? with
      | some (eventType, .timed now) => some (s.load i eventType now)
      | _ => none
  | .compareAndSwap i => match s.drops[i]? with
      | some (eventType, .loaded now last seen) =>
        some (s.compareAndSwap i eventType now last seen)
      | _ => none
  | .take => match s.loop, s.queue.waiting with
      | .selecting draining, job :: _ => some { s with
          queue := s.queue.take 1 ()
          loop := .delivering draining job }
      | _, _ => none
  | .seeClosed => match s.loop with
      | .selecting false => if s.closed = true then
          some { s with loop := .selecting true } else none
      | _ => none
  | .finish => match s.loop with
      | .selecting true => if s.queue.waiting = [] then
          some { s with loop := .returned } else none
      | _ => none
  | .publish ok => match s.loop with
      | .delivering draining job => some { s with
          loop := .selecting draining
          published := s.published ++ [(job, ok)] }
      | _ => none
  | .shutdown => some { s with closed := true }

/-! ### The queue and its loop -/

/-- What the queue and the loop are about. -/
structure Lane where
  queue : TrackedQueue PubsubJob Unit
  loop : Loop
  accepted : List PubsubJob
  published : List (PubsubJob × Bool)

def State.lane (s : State) : Lane :=
  ⟨s.queue, s.loop, s.accepted, s.published⟩

inductive LaneCase (l : Lane) (closed : Bool) : Label → Lane → Prop where
  | other (label : Label) (hlabel : label.isLoop = false) :
      LaneCase l closed label l
  | accepts (eventType : Bytes) (payload : Option Bytes) (job : PubsubJob)
      (hroom : l.queue.waiting.length < queueSize) :
      LaneCase l closed (.emit eventType payload) { l with
        queue := l.queue.push job
        accepted := l.accepted ++ [job] }
  | takes (draining : Bool) (job : PubsubJob) (rest : List PubsubJob)
      (hloop : l.loop = .selecting draining)
      (hwaiting : l.queue.waiting = job :: rest) :
      LaneCase l closed .take { l with
        queue := l.queue.take 1 ()
        loop := .delivering draining job }
  | closes (hloop : l.loop = .selecting false) (hclosed : closed = true) :
      LaneCase l closed .seeClosed { l with loop := .selecting true }
  | finishes (hloop : l.loop = .selecting true)
      (hwaiting : l.queue.waiting = []) :
      LaneCase l closed .finish { l with loop := .returned }
  | publishes (draining : Bool) (job : PubsubJob) (ok : Bool)
      (hloop : l.loop = .delivering draining job) :
      LaneCase l closed (.publish ok) { l with
        loop := .selecting draining
        published := l.published ++ [(job, ok)] }

section Lane

variable {subjectPrefix : Bytes} {s s' : State} {label : Label}

@[simp] theorem lane_compareAndSwap (i : Nat) (eventType : Bytes)
    (now last : Int) (seen : Nat) :
    (s.compareAndSwap i eventType now last seen).lane = s.lane := by
  rw [State.compareAndSwap]
  split <;> rfl

theorem lane_cases (hstep : step subjectPrefix s label = some s') :
    LaneCase s.lane s.closed label s'.lane := by
  match label with
  | .tick now =>
    obtain ⟨-, ⟨⟩⟩ := Option.ite_none_right_eq_some.mp hstep
    exact .other _ rfl
  | .emit eventType payload =>
    cases hstep
    cases payload with
    | none => exact .other _ rfl
    | some payload =>
      simp only [State.enqueue]
      split
      next hroom => exact .accepts eventType (some payload) _ hroom
      · exact .other _ rfl
  | .readClock i =>
    simp only [step] at hstep
    split at hstep
    · cases hstep
      exact .other _ rfl
    · cases hstep
  | .load i =>
    simp only [step] at hstep
    split at hstep
    · cases hstep
      exact .other _ rfl
    · cases hstep
  | .compareAndSwap i =>
    simp only [step] at hstep
    split at hstep
    · cases hstep
      rw [lane_compareAndSwap]
      exact .other _ rfl
    · cases hstep
  | .take =>
    simp only [step] at hstep
    split at hstep
    next draining job rest hloop hwaiting =>
      cases hstep
      exact .takes draining job rest hloop hwaiting
    · cases hstep
  | .seeClosed =>
    simp only [step] at hstep
    split at hstep
    next hloop =>
      split at hstep
      next hclosed =>
        cases hstep
        exact .closes hloop hclosed
      · cases hstep
    · cases hstep
  | .finish =>
    simp only [step] at hstep
    split at hstep
    next hloop =>
      split at hstep
      next hwaiting =>
        cases hstep
        exact .finishes hloop hwaiting
      · cases hstep
    · cases hstep
  | .publish ok =>
    simp only [step] at hstep
    split at hstep
    next draining job hloop =>
      cases hstep
      exact .publishes draining job ok hloop
    · cases hstep
  | .shutdown =>
    cases hstep
    exact .other _ rfl

end Lane

/-- What the loop has taken and not published yet. -/
def Loop.inHand : Loop → List PubsubJob
  | .delivering _ job => [job]
  | .selecting _ | .returned => []

/-- The events that were accepted are published in their order, each once;
those not published yet are in the loop's hand or wait. -/
structure InOrder (s : State) : Prop where
  order : s.accepted =
    s.published.map Prod.fst ++ s.loop.inHand ++ s.queue.waiting
  bounded : s.queue.waiting.length ≤ queueSize

structure Lane.Inv (l : Lane) : Prop where
  history : l.queue.history = l.accepted
  gone : l.queue.gone.map Prod.fst =
    l.published.map Prod.fst ++ l.loop.inHand
  bounded : l.queue.waiting.length ≤ queueSize

variable {l l' : Lane} {closed : Bool} {label : Label} {s : State}
  {logs : List (Bytes × Int)}

theorem Lane.Inv.step (hinv : l.Inv) (hcase : LaneCase l closed label l') :
    l'.Inv := by
  obtain ⟨hhistory, hgone, hbounded⟩ := hinv
  cases hcase with
  | other => exact ⟨hhistory, hgone, hbounded⟩
  | accepts eventType payload job hroom =>
    refine ⟨?_, hgone, ?_⟩
    · rw [TrackedQueue.history_push, hhistory]
    · rw [TrackedQueue.push_waiting, List.length_append]
      exact hroom
  | takes draining job rest hloop hwaiting =>
    refine ⟨?_, ?_, ?_⟩
    · rw [TrackedQueue.history_take, hhistory]
    · rw [hloop] at hgone
      simp [TrackedQueue.take, hwaiting, hgone, Loop.inHand]
    · rw [TrackedQueue.take_waiting, List.length_drop]
      exact (Nat.sub_le _ _).trans hbounded
  | closes hloop =>
    rw [hloop] at hgone
    exact ⟨hhistory, hgone, hbounded⟩
  | finishes hloop =>
    rw [hloop] at hgone
    exact ⟨hhistory, hgone, hbounded⟩
  | publishes draining job ok hloop =>
    refine ⟨hhistory, ?_, hbounded⟩
    rw [hgone, hloop]
    simp [Loop.inHand]

theorem Lane.Inv.order (hinv : l.Inv) : l.accepted =
    l.published.map Prod.fst ++ l.loop.inHand ++ l.queue.waiting := by
  rw [← hinv.history, TrackedQueue.history, hinv.gone]

theorem laneInv_of_reach {subjectPrefix : Bytes}
    (hreach : Reach (step subjectPrefix) Unguarded {} s) : s.lane.Inv :=
  hreach.invariant (fun s => s.lane.Inv) ⟨rfl, rfl, Nat.zero_le _⟩
    fun _ _ _ hinv _ hstep => hinv.step (lane_cases hstep)

theorem published_in_order {subjectPrefix : Bytes} {s : State}
    (hreach : Reach (step subjectPrefix) Unguarded {} s) : InOrder s :=
  have hinv := laneInv_of_reach hreach
  ⟨hinv.order, hinv.bounded⟩

/-! A queue that is full, and what comes after it. -/

def plainJob : PubsubJob := ⟨[0x70, dot, 0x65], [0x65], [0x31]⟩

def emitPlain : Label := .emit [0x65] (some [0x31])

def filled (n : Nat) : State where
  queue := ⟨List.replicate n plainJob, []⟩
  accepted := List.replicate n plainJob

theorem step_filled {n : Nat} (hroom : n < queueSize) :
    step [0x70] (filled n) emitPlain = some (filled (n + 1)) := by
  have hlength : (filled n).queue.waiting.length < queueSize := by
    rw [filled, List.length_replicate]
    exact hroom
  simp only [step, emitPlain, State.enqueue, if_pos hlength]
  simp only [filled, List.replicate_succ', TrackedQueue.push]
  rfl

theorem reach_filled {n : Nat} (hroom : n ≤ queueSize) :
    Reach (step [0x70]) Unguarded {} (filled n) := by
  induction n with
  | zero => exact .refl
  | succ n ih =>
    exact .tail (ih (Nat.le_of_succ_le hroom)) trivial (step_filled hroom)

def full : State := filled queueSize

theorem reach_full :
    Reach (step [0x70]) Unguarded {} full :=
  reach_filled (Nat.le_refl _)

/-- One event is in the loop's hand, another one took its place, and a third
one is dropped. -/
def overflown : State :=
  final (step [0x70]) full [.take, emitPlain, emitPlain]

theorem published_in_order_overflown :
    InOrder overflown ∧ overflown.drops = [([0x65], .dropped)] := by
  have hreach : Reach (step [0x70]) Unguarded full
      overflown := reach_final (by decide +kernel) (by decide +kernel)
  exact ⟨published_in_order (reach_full.trans hreach), by decide +kernel⟩

/-! ### Shutdown -/

/-- What the loop may still do: two steps a job, and those that end it. -/
def Lane.rank (l : Lane) : Nat :=
  2 * l.queue.waiting.length + match l.loop with
    | .selecting false => 2
    | .selecting true => 1
    | .delivering false _ => 3
    | .delivering true _ => 2
    | .returned => 0

def Label.credit (label : Label) : Nat := if label.isEmit = true then 2 else 0

theorem sum_credit (labels : List Label) :
    (labels.map Label.credit).sum = 2 * labels.countP Label.isEmit := by
  induction labels with
  | nil => rfl
  | cons label rest ih =>
    rw [List.map_cons, List.sum_cons, ih, List.countP_cons, Label.credit]
    split <;> omega

theorem rank_le (l : Lane) :
    l.rank ≤ 2 * l.queue.waiting.length + 3 := by
  rw [Lane.rank]
  split <;> omega

theorem rank_step (hcase : LaneCase l closed label l') :
    (if label.isLoop then 1 else 0) + l'.rank ≤ l.rank + label.credit := by
  cases hcase with
  | other label hlabel =>
    rw [if_neg (by rw [hlabel]; exact Bool.false_ne_true), Nat.zero_add]
    exact Nat.le_add_right _ _
  | accepts eventType payload job hroom =>
    simp only [Lane.rank, Label.isLoop, Label.credit, Label.isEmit,
      TrackedQueue.push_waiting, List.length_append, List.length_singleton]
    simp only [Bool.false_eq_true, if_false, if_true]
    omega
  | takes draining job rest hloop hwaiting =>
    simp only [Lane.rank, Label.isLoop, hloop, hwaiting,
      TrackedQueue.take_waiting, List.drop_succ_cons, List.drop_zero,
      List.length_cons, if_true]
    cases draining <;> simp only <;> omega
  | closes hloop =>
    simp only [Lane.rank, Label.isLoop, hloop, if_true]
    omega
  | finishes hloop =>
    simp only [Lane.rank, Label.isLoop, hloop, if_true]
    omega
  | publishes draining job ok hloop =>
    simp only [Lane.rank, Label.isLoop, hloop, if_true]
    cases draining <;> simp only <;> omega

/-- Once `Shutdown` has closed the transport the loop can go on until it
returns. -/
theorem loop_goes_on (subjectPrefix : Bytes) (hclosed : s.closed = true)
    (hloop : s.loop ≠ .returned) :
    ∃ label : Label, label.isLoop = true ∧
      (step subjectPrefix s label).isSome = true := by
  cases hphase : s.loop with
  | returned => exact absurd hphase hloop
  | delivering draining job =>
    refine ⟨.publish true, rfl, ?_⟩
    simp [step, hphase]
  | selecting draining =>
    cases draining with
    | false =>
      refine ⟨.seeClosed, rfl, ?_⟩
      simp [step, hphase, hclosed]
    | true =>
      cases hwaiting : s.queue.waiting with
      | nil =>
        refine ⟨.finish, rfl, ?_⟩
        simp [step, hphase, hwaiting]
      | cons job rest =>
        refine ⟨.take, rfl, ?_⟩
        simp [step, hphase, hwaiting]

/-- What was accepted early is published once the loop has returned. -/
def Lane.Completes (early : List PubsubJob) (l : Lane) : Prop :=
  (l.loop ≠ .returned ∧ early <+: l.accepted) ∨
    (l.loop = .returned ∧ early <+: l.published.map Prod.fst)

theorem Lane.Completes.step {early : List PubsubJob} (hinv : l.Inv)
    (hcompletes : l.Completes early) (hcase : LaneCase l closed label l') :
    l'.Completes early := by
  have hloop : ∀ loop, l.loop = loop → loop ≠ .returned →
      early <+: l.accepted := by
    rintro _ rfl hne
    rcases hcompletes with ⟨-, hearly⟩ | ⟨hreturned, -⟩
    · exact hearly
    · exact absurd hreturned hne
  cases hcase with
  | other => exact hcompletes
  | accepts eventType payload job hroom =>
    rcases hcompletes with ⟨hne, hearly⟩ | hreturned
    · exact .inl ⟨hne, hearly.trans (List.prefix_append _ _)⟩
    · exact .inr hreturned
  | takes draining job rest hselecting =>
    exact .inl ⟨by simp, hloop _ hselecting (by simp)⟩
  | closes hselecting =>
    exact .inl ⟨by simp, hloop _ hselecting (by simp)⟩
  | finishes hselecting hwaiting =>
    have horder := hinv.order
    rw [hselecting, hwaiting, Loop.inHand, List.append_nil,
      List.append_nil] at horder
    refine .inr ⟨rfl, ?_⟩
    rw [← horder]
    exact hloop _ hselecting (by simp)
  | publishes draining job ok hdelivering =>
    exact .inl ⟨by simp, hloop _ hdelivering (by simp)⟩

/-- Behind its return the loop publishes nothing. -/
theorem silent_step {published : List (PubsubJob × Bool)}
    (hsilent : l.loop = .returned ∧ l.published = published)
    (hcase : LaneCase l closed label l') :
    l'.loop = .returned ∧ l'.published = published := by
  obtain ⟨hreturned, hpublished⟩ := hsilent
  have hnot : ∀ loop, l.loop = loop → loop = .returned := by
    rintro _ rfl
    exact hreturned
  cases hcase with
  | other => exact ⟨hreturned, hpublished⟩
  | accepts => exact ⟨hreturned, hpublished⟩
  | takes draining job rest hloop => cases hnot _ hloop
  | closes hloop => cases hnot _ hloop
  | finishes hloop => cases hnot _ hloop
  | publishes draining job ok hloop => cases hnot _ hloop

/-- A run of the transport: the loop takes a bounded number of steps for what
waits and what is emitted, it can go on after `Shutdown` until it returns, by
then everything accepted before has been published, and nothing is published
behind it. -/
structure Drains (subjectPrefix : Bytes) (s : State) (labels : List Label)
    (s' : State) : Prop where
  steps : labels.countP Label.isLoop ≤
    2 * s.queue.waiting.length + 3 + 2 * labels.countP Label.isEmit
  goesOn : s'.closed = true → s'.loop ≠ .returned →
    ∃ label : Label, label.isLoop = true ∧
      (step subjectPrefix s' label).isSome = true
  complete : s.loop ≠ .returned → s'.loop = .returned →
    s.accepted <+: s'.published.map Prod.fst
  silent : s.loop = .returned → s'.published = s.published

theorem shutdown_drains {subjectPrefix : Bytes} {s s' : State}
    {labels : List Label}
    (hreach : Reach (step subjectPrefix) Unguarded {} s)
    (hrun : run (step subjectPrefix) s labels = some s') :
    Drains subjectPrefix s labels s' := by
  constructor
  case steps =>
    have hcount := countP_add_rank_le (fun _ => True) Label.isLoop
      Label.credit (fun s : State => s.lane.rank)
      (fun _ _ _ _ hstep => ⟨trivial, rank_step (lane_cases hstep)⟩) trivial
      hrun
    rw [sum_credit] at hcount
    have hrank := rank_le s.lane
    have hwaiting : s.lane.queue = s.queue := rfl
    rw [hwaiting] at hrank
    omega
  case goesOn => exact loop_goes_on subjectPrefix
  case complete =>
    intro hrunning hreturned
    have hcompletes := run_invariant
      (fun s' : State => s'.lane.Inv ∧ s'.lane.Completes s.accepted)
      (fun _ _ _ hinv hstep => ⟨hinv.1.step (lane_cases hstep),
        hinv.2.step hinv.1 (lane_cases hstep)⟩)
      ⟨laneInv_of_reach hreach, .inl ⟨hrunning, List.prefix_rfl⟩⟩ hrun
    rcases hcompletes.2 with ⟨hne, -⟩ | ⟨-, hearly⟩
    · exact absurd hreturned hne
    · exact hearly
  case silent =>
    intro hreturned
    exact (run_invariant
      (fun s' : State => s'.lane.loop = .returned ∧
        s'.lane.published = s.published)
      (fun _ _ _ hinv hstep => silent_step hinv (lane_cases hstep))
      ⟨hreturned, rfl⟩ hrun).2

/-- Three events are accepted, one of them while the loop drains. -/
def started : State :=
  final (step [0x70]) {} [emitPlain, emitPlain, .shutdown]

def drained : List Label :=
  [.take, .publish true, .seeClosed, emitPlain, .take, .publish false, .take,
    .publish true, .finish, emitPlain]

theorem shutdown_drains_drained :
    let s' := final (step [0x70]) started drained
    Drains [0x70] started drained s' ∧ s'.published =
      [(plainJob, true), (plainJob, false), (plainJob, true)] := by
  refine ⟨shutdown_drains ?_ (run_eq_final (by decide +kernel)),
    by decide +kernel⟩
  exact reach_final (by decide +kernel) (by decide +kernel)

/-! ### The warnings -/

/-- What the warnings are about. -/
structure Limiter where
  last : Int
  drops : List (Bytes × Drop)
  logs : List (Bytes × Int)

def State.limiter (s : State) : Limiter :=
  ⟨s.lastDropLogNano, s.drops, s.logs⟩

inductive LimiterCase (l : Limiter) : Limiter → Prop where
  | other : LimiterCase l l
  | drops (eventType : Bytes) :
      LimiterCase l { l with drops := l.drops ++ [(eventType, .dropped)] }
  | readsClock (i : Nat) (eventType : Bytes) (now : Int) :
      LimiterCase l { l with
        drops := l.drops.set i (eventType, .timed now) }
  | skips (i : Nat) (eventType : Bytes) (now : Int)
      (hsoon : now < l.last + dropLogInterval) :
      LimiterCase l { l with
        drops := l.drops.set i (eventType,
          .returned now l.logs.length l.logs.length false) }
  | loads (i : Nat) (eventType : Bytes) (now : Int)
      (hlate : l.last + dropLogInterval ≤ now) :
      LimiterCase l { l with
        drops := l.drops.set i (eventType,
          .loaded now l.last l.logs.length) }
  | swaps (i : Nat) (eventType : Bytes) (now : Int) (seen : Nat)
      (hget : l.drops[i]? = some (eventType, .loaded now l.last seen)) :
      LimiterCase l ⟨now,
        l.drops.set i (eventType, .returned now seen (l.logs.length + 1) true),
        l.logs ++ [(eventType, now)]⟩
  | loses (i : Nat) (eventType : Bytes) (now last : Int) (seen : Nat)
      (hget : l.drops[i]? = some (eventType, .loaded now last seen))
      (hother : l.last ≠ last) :
      LimiterCase l { l with
        drops := l.drops.set i (eventType,
          .returned now seen l.logs.length false) }

theorem limiter_cases {subjectPrefix : Bytes} {s' : State}
    (hstep : step subjectPrefix s label = some s') :
    LimiterCase s.limiter s'.limiter := by
  match label with
  | .tick now =>
    obtain ⟨-, ⟨⟩⟩ := Option.ite_none_right_eq_some.mp hstep
    exact .other
  | .shutdown =>
    cases hstep
    exact .other
  | .emit eventType payload =>
    cases hstep
    cases payload with
    | none => exact .other
    | some payload =>
      simp only [State.enqueue]
      split
      · exact .other
      · exact .drops eventType
  | .readClock i =>
    simp only [step] at hstep
    split at hstep
    next eventType hget =>
      cases hstep
      exact .readsClock i eventType s.now
    · cases hstep
  | .load i =>
    simp only [step] at hstep
    split at hstep
    next eventType now hget =>
      cases hstep
      rw [State.load]
      split
      next hsoon =>
        exact .skips i eventType now (Int.lt_add_of_sub_left_lt hsoon)
      next hlate =>
        exact .loads i eventType now
          (Int.add_le_of_le_sub_left (Int.not_lt.mp hlate))
    · cases hstep
  | .compareAndSwap i =>
    simp only [step] at hstep
    split at hstep
    next eventType now last seen hget =>
      cases hstep
      rw [State.compareAndSwap]
      split
      next hlast =>
        rw [← hlast] at hget
        exact .swaps i eventType now seen hget
      next hother => exact .loses i eventType now last seen hget hother
    · cases hstep
  | .take =>
    simp only [step] at hstep
    split at hstep
    · cases hstep
      exact .other
    · cases hstep
  | .seeClosed | .finish =>
    simp only [step] at hstep
    split at hstep
    · split at hstep
      · cases hstep
        exact .other
      · cases hstep
    · cases hstep
  | .publish ok =>
    simp only [step] at hstep
    split at hstep
    · cases hstep
      exact .other
    · cases hstep

/-- An `Emit` that dropped an event and has returned wrote the next warning
behind those it had seen, or one of these was less than five seconds old, or
somebody else wrote one while it was about to. -/
def Covered (logs : List (Bytes × Int)) (eventType : Bytes) (now : Int)
    (seen done : Nat) : Bool → Prop
  | true => logs[seen]? = some (eventType, now)
  | false => now < dropLogInterval ∨
      (∃ log ∈ logs.take seen, now < log.2 + dropLogInterval) ∨
      (seen < done ∧ done ≤ logs.length)

/-- How far an `Emit` has come, with respect to the warnings. -/
def Fits (last : Int) (logs : List (Bytes × Int)) : Bytes × Drop → Prop
  | (_, .dropped) | (_, .timed _) => True
  | (_, .loaded now loaded seen) => loaded + dropLogInterval ≤ now ∧
      (seen = logs.length ∧ loaded = last ∨
        seen < logs.length ∧ loaded < last)
  | (eventType, .returned now seen done logged) =>
    Covered logs eventType now seen done logged

structure Limiter.Inv (l : Limiter) : Prop where
  spaced : l.logs.Pairwise fun a b => a.2 + dropLogInterval ≤ b.2
  below : ∀ log ∈ l.logs, log.2 ≤ l.last
  last : l.last = 0 ∨ ∃ log ∈ l.logs, log.2 = l.last
  fits : ∀ drop ∈ l.drops, Fits l.last l.logs drop

theorem Covered.mono {eventType : Bytes} {now : Int} {seen done : Nat}
    {logged : Bool} (hcovered : Covered logs eventType now seen done logged)
    (more : List (Bytes × Int)) :
    Covered (logs ++ more) eventType now seen done logged := by
  cases logged with
  | true =>
    have hlt := (List.getElem?_eq_some_iff.mp hcovered).1
    exact (List.getElem?_append_left hlt).trans hcovered
  | false =>
    rcases hcovered with hfirst | ⟨log, hlog, hsoon⟩ | ⟨hseen, hdone⟩
    · exact .inl hfirst
    · refine .inr (.inl ⟨log, ?_, hsoon⟩)
      rw [List.take_append]
      exact List.mem_append_left _ hlog
    · refine .inr (.inr ⟨hseen, ?_⟩)
      rw [List.length_append]
      exact hdone.trans (Nat.le_add_right _ _)

theorem Limiter.Inv.set {l : Limiter} (hinv : l.Inv) (i : Nat)
    {drop : Bytes × Drop} (hfits : Fits l.last l.logs drop) :
    Limiter.Inv { l with drops := l.drops.set i drop } := by
  refine { hinv with fits := ?_ }
  intro other hother
  rcases List.mem_or_eq_of_mem_set hother with hold | rfl
  · exact hinv.fits other hold
  · exact hfits

/-- A warning more, later than the last one. -/
theorem Fits.log {last now : Int} {drop : Bytes × Drop}
    (hfits : Fits last logs drop) (hlate : last < now) (eventType : Bytes) :
    Fits now (logs ++ [(eventType, now)]) drop := by
  match drop with
  | (_, .dropped) | (_, .timed _) => trivial
  | (_, .loaded now' loaded seen) =>
    obtain ⟨hgap, hseen⟩ := hfits
    refine ⟨hgap, .inr ?_⟩
    rw [List.length_append, List.length_singleton]
    omega
  | (_, .returned now' seen done logged) => exact Covered.mono hfits _

theorem Limiter.Inv.step {l l' : Limiter} (hinv : l.Inv)
    (hcase : LimiterCase l l') : l'.Inv := by
  cases hcase with
  | other => exact hinv
  | drops eventType =>
    refine { hinv with fits := ?_ }
    intro drop hdrop
    rcases List.mem_append.mp hdrop with hold | hlast
    · exact hinv.fits drop hold
    · rw [List.mem_singleton.mp hlast]
      trivial
  | readsClock i eventType now => exact hinv.set i trivial
  | skips i eventType now hsoon =>
    apply hinv.set i
    rcases hinv.last with hzero | ⟨log, hlog, hlast⟩
    · left
      omega
    · refine .inr (.inl ⟨log, ?_, ?_⟩)
      · rw [List.take_length]
        exact hlog
      · rw [hlast]
        exact hsoon
  | loads i eventType now hlate =>
    exact hinv.set i ⟨hlate, .inl ⟨rfl, rfl⟩⟩
  | swaps i eventType now seen hget =>
    obtain ⟨hgap, hseen⟩ := hinv.fits _ (List.mem_of_getElem? hget)
    have hlate : l.last < now := by
      rw [dropLogInterval] at hgap
      omega
    -- nothing was logged since the load, or `last` would have changed
    have hnone : seen = l.logs.length := by omega
    have hlogged : Limiter.Inv
        ⟨now, l.drops, l.logs ++ [(eventType, now)]⟩ := by
      refine ⟨?_, ?_, .inr ⟨_, List.mem_concat_self, rfl⟩, ?_⟩
      · rw [List.pairwise_append]
        refine ⟨hinv.spaced, List.pairwise_singleton _ _, ?_⟩
        intro log hlog other hother
        rw [List.mem_singleton.mp hother]
        have hbelow := hinv.below log hlog
        omega
      · intro log hlog
        rcases List.mem_append.mp hlog with hold | hlast
        · exact (Int.le_of_lt hlate).trans' (hinv.below log hold)
        · rw [List.mem_singleton.mp hlast]
      · exact fun drop hdrop => (hinv.fits drop hdrop).log hlate eventType
    apply hlogged.set i
    rw [hnone]
    exact List.getElem?_concat_length
  | loses i eventType now last seen hget hother =>
    obtain ⟨-, hseen⟩ := hinv.fits _ (List.mem_of_getElem? hget)
    apply hinv.set i
    rcases hseen with ⟨-, hsame⟩ | ⟨hseen, -⟩
    · exact absurd hsame.symm hother
    · exact .inr (.inr ⟨hseen, Nat.le_refl _⟩)

/-- However the calls of `Emit` interleave, the times of the warnings are five
seconds apart, and no dropped event goes without one for longer. -/
theorem drop_logs_spaced {subjectPrefix : Bytes} {s : State}
    (hreach : Reach (step subjectPrefix) Unguarded {} s) :
    (s.logs.Pairwise fun a b => a.2 + dropLogInterval ≤ b.2) ∧
      ∀ eventType now seen done logged,
        (eventType, Drop.returned now seen done logged) ∈ s.drops →
          Covered s.logs eventType now seen done logged := by
  have hinv : s.limiter.Inv := hreach.invariant (fun s => s.limiter.Inv)
    ⟨.nil, by simp [State.limiter], .inl rfl, by simp [State.limiter]⟩
    fun _ _ _ hinv _ hstep => hinv.step (limiter_cases hstep)
  exact ⟨hinv.spaced, fun _ _ _ _ _ hdrop => hinv.fits _ hdrop⟩

/-- Two events are dropped at once, and a third one soon after them. -/
def racing : List Label :=
  [emitPlain, emitPlain, .tick (7 * 10 ^ 9), .readClock 0, .readClock 1,
    .load 0, .load 1, .compareAndSwap 1, .compareAndSwap 0, emitPlain,
    .tick (8 * 10 ^ 9), .readClock 2, .load 2]

theorem drop_logs_spaced_racing :
    let s := final (step [0x70]) full racing
    ((s.logs.Pairwise fun a b => a.2 + dropLogInterval ≤ b.2) ∧
      ∀ eventType now seen done logged,
        (eventType, Drop.returned now seen done logged) ∈ s.drops →
          Covered s.logs eventType now seen done logged) ∧
      s.logs = [([0x65], 7 * 10 ^ 9)] ∧
      s.drops = [([0x65], .returned (7 * 10 ^ 9) 0 1 false),
        ([0x65], .returned (7 * 10 ^ 9) 0 1 true),
        ([0x65], .returned (8 * 10 ^ 9) 1 1 false)] := by
  refine ⟨drop_logs_spaced (reach_full.trans ?_), by decide +kernel,
    by decide +kernel⟩
  exact reach_final (by decide +kernel) (by decide +kernel)

end Callback

end Pipewave
