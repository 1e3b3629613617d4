/-
Reading from one connection with a one-shot descriptor.  Each arming lets the
poller call back once; the callback hands the read to a worker, and the worker
or a fallback goroutine re-arms the descriptor under the connection's lock
unless a close got there first.
-/
import Pipewave.Pool
import Pipewave.Transition

namespace Pipewave

namespace OneShotRead

open Transition

/-- A callback of the poller and what becomes of it: a task of the pool, or
the goroutine that stands in for a rejected one. -/
inductive Reader where
  | callback (hangUp : Bool)
  | queued
  | running
  /-- In `resumeRead`, before its lock. -/
  | resumeRead
  | locked
  /-- Past the check, about to call `Resume`. -/
  | resuming
  | leaving
  | done
deriving Repr, DecidableEq

/-- A call of `removeClient`.  The last three know whether there was a
descriptor to take. -/
inductive Closer where
  | calling
  | swapped
  | locked
  | cleared (desc : Bool)
  | unlocked (desc : Bool)
  | done
deriving Repr, DecidableEq

inductive Owner where
  | reader (i : Nat)
  | closer (j : Nat)
deriving Repr, DecidableEq

/-- `desc` tells whether the connection still has its descriptor, `descMu` who
holds the lock; `clearedResumes` counts calls of `Resume` without a descriptor
and is not read. -/
structure State where
  startCalled : Bool := false
  started : Bool := false
  armed : Bool := false
  closed : Bool := false
  desc : Bool := true
  descMu : Option Owner := none
  readers : List Reader := []
  closers : List Closer := []
  clearedResumes : Nat := 0
deriving Repr, DecidableEq

inductive Label where
  /-- `poller.Start`, which arms the descriptor. -/
  | start (ok : Bool)
  | fire (hangUp : Bool)
  /-- The callback of a hang-up gets to the compare-and-swap of its `Close`. -/
  | hangUp (i : Nat)
  | submit (i : Nat) (accepted : Bool)
  | work (i : Nat)
  /-- The message handler returns, with an error or without. -/
  | finish (i : Nat)
  /-- It panics, and the worker recovers. -/
  | panic (i : Nat)
  | lock (i : Nat)
  | check (i : Nat)
  | resume (i : Nat) (ok : Bool)
  | unlock (i : Nat)
  /-- Someone calls `Close`. -/
  | close
  | closeSwap (j : Nat)
  | closeLock (j : Nat)
  | closeClear (j : Nat)
  | closeUnlock (j : Nat)
  /-- `poller.Stop` and the close of the descriptor. -/
  | closeStop (j : Nat)
deriving Repr, DecidableEq

def State.setReader (s : State) (i : Nat) (r : Reader) : State :=
  { s with readers := s.readers.set i r }

def State.setCloser (s : State) (j : Nat) (c : Closer) : State :=
  { s with closers := s.closers.set j c }

def step (s : State) : Label → Option State
  | .start ok =>
    if s.startCalled then none
    else some { s with startCalled := true, started := ok, armed := ok }
  | .fire hangUp =>
    if s.armed then some { s with
      armed := false, readers := s.readers ++ [.callback hangUp] }
    else none
  | .hangUp i =>
    if s.readers[i]? = some (.callback true) then
      let s := s.setReader i .done
      if s.closed then some s
      else some { s with
        closed := true, closers := s.closers ++ [.swapped] }
    else none
  | .submit i accepted =>
    if s.readers[i]? = some (.callback false) then
      some (s.setReader i (if accepted then .queued else .resumeRead))
    else none
  | .work i =>
    if s.readers[i]? = some .queued then some (s.setReader i .running)
    else none
  | .finish i =>
    if s.readers[i]? = some .running then some (s.setReader i .resumeRead)
    else none
  | .panic i =>
    if s.readers[i]? = some .running then some (s.setReader i .done)
    else none
  | .lock i =>
    if s.readers[i]? = some .resumeRead ∧ s.descMu = none then
      some { s.setReader i .locked with descMu := some (.reader i) }
    else none
  | .check i =>
    if s.readers[i]? = some .locked then
      some (s.setReader i
        (if s.closed ∨ s.desc = false then .leaving else .resuming))
    else none
  | .resume i ok =>
    if s.readers[i]? = some .resuming then
      some { s.setReader i .leaving with
        armed := s.armed || ok
        clearedResumes := s.clearedResumes + if s.desc then 0 else 1 }
    else none
  | .unlock i =>
    if s.readers[i]? = some .leaving then
      some { s.setReader i .done with descMu := none }
    else none
  | .close => some { s with closers := s.closers ++ [.calling] }
  | .closeSwap j =>
    if s.closers[j]? = some .calling then
      if s.closed then some (s.setCloser j .done)
      else some { s.setCloser j .swapped with closed := true }
    else none
  | .closeLock j =>
    if s.closers[j]? = some .swapped ∧ s.descMu = none then
      some { s.setCloser j .locked with descMu := some (.closer j) }
    else none
  | .closeClear j =>
    if s.closers[j]? = some .locked then
      some { s.setCloser j (.cleared s.desc) with desc := false }
    else none
  | .closeUnlock j =>
    match s.closers[j]? with
    | some (.cleared desc) =>
      some { s.setCloser j (.unlocked desc) with descMu := none }
    | _ => none
  | .closeStop j =>
    match s.closers[j]? with
    | some (.unlocked desc) =>
      some { s.setCloser j .done with armed := s.armed && !desc }
    | _ => none

/-- The reader has not given its turn back yet: it is before its `Submit` or
its `Close`, queued, running, or before its call of `Resume`. -/
def Reader.pending : Reader → Bool
  | .leaving | .done => false
  | _ => true

/-- How many of the descriptor and the readers have the turn to read. -/
def State.turns (s : State) : Nat :=
  (if s.armed then 1 else 0) + s.readers.countP Reader.pending

/-- At most one has the turn, no two workers read at a time, and `Resume` was
not called without a descriptor. -/
structure OneAtATime (s : State) : Prop where
  turns : s.turns ≤ 1
  running : s.readers.countP (fun r => r = .running) ≤ 1
  resumes : s.clearedResumes = 0

/-- A connection that was started and is not closed is armed or has a reader
whose turn it is. -/
def Attended (s : State) : Prop :=
  s.started = true → s.closed = false → 0 < s.turns

instance (s : State) : Decidable (Attended s) :=
  inferInstanceAs (Decidable (_ → _ → _))

def Reader.holdsLock : Reader → Bool
  | .locked | .resuming | .leaving => true
  | _ => false

def Closer.holdsLock : Closer → Bool
  | .locked | .cleared _ => true
  | _ => false

/-- Everything one step can do. -/
inductive StepCase (s : State) : Label → State → Prop where
  | start {ok : Bool} (first : s.startCalled = false) :
      StepCase s (.start ok)
        { s with startCalled := true, started := ok, armed := ok }
  | fire {hangUp : Bool} (armed : s.armed = true) :
      StepCase s (.fire hangUp) { s with
        armed := false, readers := s.readers ++ [.callback hangUp] }
  | hungUp {i : Nat} (reader : s.readers[i]? = some (.callback true))
      (closed : s.closed = true) :
      StepCase s (.hangUp i) (s.setReader i .done)
  | hangsUp {i : Nat} (reader : s.readers[i]? = some (.callback true)) :
      StepCase s (.hangUp i) { s.setReader i .done with
        closed := true, closers := s.closers ++ [.swapped] }
  /-- The reader keeps the turn outside the lock. -/
  | moves {label : Label} {i : Nat} {r r' : Reader}
      (reader : s.readers[i]? = some r)
      (keeps : r.pending = true ∧ r'.pending = true)
      (free : r'.holdsLock = false) : StepCase s label (s.setReader i r')
  | panics {i : Nat} (reader : s.readers[i]? = some .running) :
      StepCase s (.panic i) (s.setReader i .done)
  | locks {i : Nat} (reader : s.readers[i]? = some .resumeRead)
      (free : s.descMu = none) :
      StepCase s (.lock i)
        { s.setReader i .locked with descMu := some (.reader i) }
  | givesUp {i : Nat} (reader : s.readers[i]? = some .locked)
      (closed : s.closed = true ∨ s.desc = false) :
      StepCase s (.check i) (s.setReader i .leaving)
  | goesOn {i : Nat} (reader : s.readers[i]? = some .locked)
      (isOpen : s.closed = false) (desc : s.desc = true) :
      StepCase s (.check i) (s.setReader i .resuming)
  | resumes {i : Nat} {ok : Bool} (reader : s.readers[i]? = some .resuming) :
      StepCase s (.resume i ok) { s.setReader i .leaving with
        armed := s.armed || ok
        clearedResumes := s.clearedResumes + if s.desc then 0 else 1 }
  | unlocks {i : Nat} (reader : s.readers[i]? = some .leaving) :
      StepCase s (.unlock i) { s.setReader i .done with descMu := none }
  | close : StepCase s .close { s with closers := s.closers ++ [.calling] }
  | late {j : Nat} (closer : s.closers[j]? = some .calling)
      (closed : s.closed = true) :
      StepCase s (.closeSwap j) (s.setCloser j .done)
  | swaps {j : Nat} (closer : s.closers[j]? = some .calling) :
      StepCase s (.closeSwap j) { s.setCloser j .swapped with closed := true }
  | closeLocks {j : Nat} (closer : s.closers[j]? = some .swapped)
      (free : s.descMu = none) :
      StepCase s (.closeLock j)
        { s.setCloser j .locked with descMu := some (.closer j) }
  | clears {j : Nat} (closer : s.closers[j]? = some .locked) :
      StepCase s (.closeClear j)
        { s.setCloser j (.cleared s.desc) with desc := false }
  | closeUnlocks {j : Nat} {desc : Bool}
      (closer : s.closers[j]? = some (.cleared desc)) :
      StepCase s (.closeUnlock j)
        { s.setCloser j (.unlocked desc) with descMu := none }
  | stops {j : Nat} {desc : Bool}
      (closer : s.closers[j]? = some (.unlocked desc)) :
      StepCase s (.closeStop j)
        { s.setCloser j .done with armed := s.armed && !desc }

variable {s s' : State} {label : Label}

theorem step_cases (hstep : step s label = some s') : StepCase s label s' := by
  cases label with
  | start ok =>
    simp only [step] at hstep
    split at hstep <;> cases hstep
    next hcalled => exact .start (Bool.eq_false_iff.mpr hcalled)
  | fire hangUp =>
    simp only [step] at hstep
    split at hstep <;> cases hstep
    next harmed => exact .fire harmed
  | hangUp i =>
    simp only [step] at hstep
    split at hstep
    · next hget =>
        split at hstep <;> cases hstep
        · next hclosed => exact .hungUp hget hclosed
        · exact .hangsUp hget
    · cases hstep
  | submit i accepted =>
    simp only [step] at hstep
    split at hstep <;> cases hstep
    next hget =>
      refine .moves hget ⟨rfl, ?_⟩ ?_
      · cases accepted <;> rfl
      · cases accepted <;> rfl
  | work i =>
    simp only [step] at hstep
    split at hstep <;> cases hstep
    next hget => exact .moves hget ⟨rfl, rfl⟩ rfl
  | finish i =>
    simp only [step] at hstep
    split at hstep <;> cases hstep
    next hget => exact .moves hget ⟨rfl, rfl⟩ rfl
  | panic i =>
    simp only [step] at hstep
    split at hstep <;> cases hstep
    next hget => exact .panics hget
  | lock i =>
    simp only [step] at hstep
    split at hstep <;> cases hstep
    next hguard => exact .locks hguard.1 hguard.2
  | check i =>
    simp only [step] at hstep
    split at hstep <;> cases hstep
    next hget =>
      split
      · next hclosed => exact .givesUp hget hclosed
      · next hopen =>
          rw [not_or] at hopen
          exact .goesOn hget (Bool.eq_false_iff.mpr hopen.1)
            (eq_true_of_ne_false hopen.2)
  | resume i ok =>
    simp only [step] at hstep
    split at hstep <;> cases hstep
    next hget => exact .resumes hget
  | unlock i =>
    simp only [step] at hstep
    split at hstep <;> cases hstep
    next hget => exact .unlocks hget
  | close =>
    cases hstep
    exact .close
  | closeSwap j =>
    simp only [step] at hstep
    split at hstep
    · next hget =>
        split at hstep <;> cases hstep
        · next hclosed => exact .late hget hclosed
        · exact .swaps hget
    · cases hstep
  | closeLock j =>
    simp only [step] at hstep
    split at hstep <;> cases hstep
    next hguard => exact .closeLocks hguard.1 hguard.2
  | closeClear j =>
    simp only [step] at hstep
    split at hstep <;> cases hstep
    next hget => exact .clears hget
  | closeUnlock j =>
    simp only [step] at hstep
    split at hstep <;> cases hstep
    next desc hget => exact .closeUnlocks hget
  | closeStop j =>
    simp only [step] at hstep
    split at hstep <;> cases hstep
    next desc hget => exact .stops hget

structure Inv (s : State) : Prop where
  turns : s.turns ≤ 1
  unstarted : s.started = false → s.armed = false ∧ s.readers = []
  called : s.started = true → s.startCalled = true
  readerLock : ∀ i r, s.readers[i]? = some r → Reader.holdsLock r = true →
    s.descMu = some (.reader i)
  closerLock : ∀ j c, s.closers[j]? = some c → Closer.holdsLock c = true →
    s.descMu = some (.closer j)
  resuming : .resuming ∈ s.readers → s.desc = true
  cleared : s.desc = false → s.closed = true
  swapped : ∀ c ∈ s.closers, c ≠ .calling → s.closed = true
  resumes : s.clearedResumes = 0

theorem inv_start : Inv {} where
  turns := by decide
  unstarted := fun _ => ⟨rfl, rfl⟩
  called := fun h => by cases h
  readerLock := by simp
  closerLock := by simp
  resuming := by simp
  cleared := fun h => by cases h
  swapped := by simp
  resumes := rfl

section Updates

variable {s : State} (hinv : Inv s)

include hinv

variable {i j : Nat} {r : Reader}

/-- A reader whose turn it is leaves none for the descriptor. -/
theorem Inv.turn_of_pending (hget : s.readers[i]? = some r)
    (hpending : r.pending = true) :
    s.armed = false ∧ s.readers.countP Reader.pending = 1 := by
  have hpos : 0 < s.readers.countP Reader.pending :=
    List.countP_pos_iff.mpr ⟨r, List.mem_of_getElem? hget, hpending⟩
  have hturns := hinv.turns
  unfold State.turns at hturns
  cases harmed : s.armed with
  | true =>
    rw [harmed, if_pos rfl] at hturns
    omega
  | false =>
    rw [harmed, if_neg Bool.false_ne_true] at hturns
    exact ⟨rfl, by omega⟩

theorem Inv.started_of_reader (hget : s.readers[i]? = some r) :
    s.started = true := by
  by_contra hstarted
  rw [(hinv.unstarted (Bool.eq_false_iff.mpr hstarted)).2] at hget
  cases hget

/-- A reader moves on without taking the turn; if it holds the lock then, the
lock is its own. -/
theorem Inv.setReader {r' : Reader} (hget : s.readers[i]? = some r)
    (hpending : r'.pending = true → r.pending = true)
    (hlock : r'.holdsLock = true → s.descMu = some (.reader i))
    (hresuming : r' = .resuming → s.desc = true) :
    Inv (s.setReader i r') where
  turns := by
    have hturns := hinv.turns
    have hcount := countP_set_add Reader.pending hget r'
    unfold State.turns at hturns ⊢
    unfold State.setReader
    dsimp only
    by_cases hp : r'.pending = true
    · rw [if_pos hp, if_pos (hpending hp)] at hcount
      omega
    · rw [if_neg hp] at hcount
      omega
  unstarted := by
    intro hstarted
    change s.started = false at hstarted
    rw [hinv.started_of_reader hget] at hstarted
    cases hstarted
  called := hinv.called
  readerLock := by
    intro k r'' hget' hholds
    rcases getElem?_set_cases hget' with hold | ⟨rfl, rfl⟩
    · exact hinv.readerLock k r'' hold hholds
    · exact hlock hholds
  closerLock := hinv.closerLock
  resuming := by
    intro hmem
    rcases List.mem_or_eq_of_mem_set hmem with hold | heq
    · exact hinv.resuming hold
    · exact hresuming heq.symm
  cleared := hinv.cleared
  swapped := hinv.swapped
  resumes := hinv.resumes

/-- A reader moves on outside the lock. -/
theorem Inv.moveReader {r' : Reader} (hget : s.readers[i]? = some r)
    (hpending : r'.pending = true → r.pending = true)
    (hfree : r'.holdsLock = false) : Inv (s.setReader i r') := by
  refine hinv.setReader hget hpending (fun hholds => ?_) fun hresuming => ?_
  · rw [hfree] at hholds
    cases hholds
  · rw [hresuming] at hfree
    cases hfree

theorem Inv.closed_of_closer {c : Closer} (hget : s.closers[j]? = some c)
    (hne : c ≠ .calling) :
    s.closed = true :=
  hinv.swapped c (List.mem_of_getElem? hget) hne

/-- A closer moves on; if it holds the lock then, the lock is its own. -/
theorem Inv.setCloser {c' : Closer}
    (hlock : c'.holdsLock = true → s.descMu = some (.closer j))
    (hclosed : c' ≠ .calling → s.closed = true) : Inv (s.setCloser j c') where
  turns := hinv.turns
  unstarted := hinv.unstarted
  called := hinv.called
  readerLock := hinv.readerLock
  closerLock := by
    intro k c'' hget' hholds
    rcases getElem?_set_cases hget' with hold | ⟨rfl, rfl⟩
    · exact hinv.closerLock k c'' hold hholds
    · exact hlock hholds
  resuming := hinv.resuming
  cleared := hinv.cleared
  swapped := by
    intro c'' hmem hne
    rcases List.mem_or_eq_of_mem_set hmem with hold | rfl
    · exact hinv.swapped c'' hold hne
    · exact hclosed hne
  resumes := hinv.resumes

/-- The closed flag is set. -/
theorem Inv.setClosed : Inv { s with closed := true } :=
  { hinv with
    cleared := fun _ => rfl
    swapped := fun _ _ _ => rfl }

/-- A call of `removeClient` is added. -/
theorem Inv.addCloser {c : Closer} (hlock : c.holdsLock = false)
    (hclosed : c ≠ .calling → s.closed = true) :
    Inv { s with closers := s.closers ++ [c] } :=
  { hinv with
    closerLock := by
      intro k c' hget hholds
      rcases getElem?_concat_cases hget with hold | ⟨_, rfl⟩
      · exact hinv.closerLock k c' hold hholds
      · rw [hlock] at hholds
        cases hholds
    swapped := by
      intro c' hmem hne
      rcases List.mem_append.mp hmem with hold | hnew
      · exact hinv.swapped c' hold hne
      · rw [List.mem_singleton.mp hnew] at hne
        exact hclosed hne }

/-- The descriptor is disarmed. -/
theorem Inv.disarm : Inv { s with armed := false } :=
  { hinv with
    turns := by
      have hturns := hinv.turns
      unfold State.turns at hturns ⊢
      dsimp only
      rw [if_neg Bool.false_ne_true]
      omega
    unstarted := fun h => ⟨rfl, (hinv.unstarted h).2⟩ }

/-- The lock passes to another owner, or to nobody, from one who is the only
one left to hold it. -/
theorem Inv.passLock {owner : Option Owner}
    (hreaders : ∀ (i : Nat) (r : Reader), s.readers[i]? = some r →
      r.holdsLock = true → owner = some (.reader i))
    (hclosers : ∀ (j : Nat) (c : Closer), s.closers[j]? = some c →
      c.holdsLock = true → owner = some (.closer j)) :
    Inv { s with descMu := owner } :=
  { hinv with readerLock := hreaders, closerLock := hclosers }

/-- A free lock is taken. -/
theorem Inv.takeLock (hfree : s.descMu = none) (owner : Owner) :
    Inv { s with descMu := some owner } := by
  refine hinv.passLock (fun i r hget hholds => ?_) fun j c hget hholds => ?_
  · have howner := hinv.readerLock i r hget hholds
    rw [hfree] at howner
    cases howner
  · have howner := hinv.closerLock j c hget hholds
    rw [hfree] at howner
    cases howner

/-- The lock is released by the reader that holds it. -/
theorem Inv.unlockReader (hget : s.readers[i]? = some .leaving) :
    Inv { s.setReader i .done with descMu := none } := by
  have howner := hinv.readerLock i .leaving hget rfl
  have hdone : Inv (s.setReader i .done) :=
    hinv.moveReader hget (fun h => by cases h) rfl
  refine hdone.passLock (fun k r hget' hholds => ?_) fun k c hget' hholds => ?_
  · rcases getElem?_set_cases hget' with hold | ⟨rfl, rfl⟩
    · have howner' := hinv.readerLock k r hold hholds
      rw [howner] at howner'
      cases howner'
      rw [State.setReader, List.getElem?_set_self
        (List.getElem?_eq_some_iff.mp hget).1] at hget'
      cases hget'
      cases hholds
    · cases hholds
  · have howner' := hinv.closerLock k c hget' hholds
    rw [howner] at howner'
    cases howner'

theorem Inv.unlockCloser {desc : Bool}
    (hget : s.closers[j]? = some (.cleared desc)) :
    Inv { s.setCloser j (.unlocked desc) with descMu := none } := by
  have howner := hinv.closerLock j _ hget rfl
  have hclosed := hinv.closed_of_closer hget (fun h => by cases h)
  have hnext : Inv (s.setCloser j (.unlocked desc)) :=
    hinv.setCloser (fun h => by cases h) fun _ => hclosed
  refine hnext.passLock (fun k r hget' hholds => ?_) fun k c hget' hholds => ?_
  · have howner' := hinv.readerLock k r hget' hholds
    rw [howner] at howner'
    cases howner'
  · rcases getElem?_set_cases hget' with hold | ⟨rfl, rfl⟩
    · have howner' := hinv.closerLock k c hold hholds
      rw [howner] at howner'
      cases howner'
      rw [State.setCloser, List.getElem?_set_self
        (List.getElem?_eq_some_iff.mp hget).1] at hget'
      cases hget'
      cases hholds
    · cases hholds

/-- `Resume` is called, which may arm the descriptor. -/
theorem Inv.resume (hget : s.readers[i]? = some .resuming) (ok : Bool) :
    Inv { s.setReader i .leaving with
      armed := s.armed || ok
      clearedResumes := s.clearedResumes + if s.desc then 0 else 1 } := by
  obtain ⟨harmed, hcount⟩ := hinv.turn_of_pending hget rfl
  have hdesc := hinv.resuming (List.mem_of_getElem? hget)
  have hnext : Inv (s.setReader i .leaving) :=
    hinv.setReader hget (fun h => by cases h)
      (fun _ => hinv.readerLock i _ hget rfl) fun h => by cases h
  have hset := countP_set_add Reader.pending hget .leaving
  have hstarted := hinv.started_of_reader hget
  refine { hnext with turns := ?_, unstarted := ?_, resumes := ?_ }
  · unfold State.turns State.setReader
    dsimp only
    rw [harmed, Bool.false_or]
    have hzero : (s.readers.set i .leaving).countP Reader.pending = 0 := by
      rw [hcount] at hset
      simpa [Reader.pending] using hset
    rw [hzero]
    split <;> omega
  · intro h
    change s.started = false at h
    rw [hstarted] at h
    cases h
  · dsimp only
    rw [hdesc, hinv.resumes]
    rfl

/-- The poller calls back, which disarms the descriptor. -/
theorem Inv.fire (hangUp : Bool) (harmed : s.armed = true) :
    Inv { s with
      armed := false, readers := s.readers ++ [.callback hangUp] } := by
  have hnone : s.readers.countP Reader.pending = 0 := by
    have hturns := hinv.turns
    unfold State.turns at hturns
    rw [if_pos harmed] at hturns
    omega
  refine { hinv with
    turns := ?_, unstarted := ?_, readerLock := ?_, resuming := ?_ }
  · simp [State.turns, List.countP_append, hnone, Reader.pending]
  · intro hstarted
    rw [(hinv.unstarted hstarted).1] at harmed
    cases harmed
  · intro k r hget hholds
    rcases getElem?_concat_cases hget with hold | ⟨_, rfl⟩
    · exact hinv.readerLock k r hold hholds
    · cases hholds
  · intro hmem
    rcases List.mem_append.mp hmem with hold | hnew
    · exact hinv.resuming hold
    · cases List.mem_singleton.mp hnew

/-- The descriptor is cleared under the lock, so nobody is about to resume
it. -/
theorem Inv.clear (hget : s.closers[j]? = some .locked) :
    Inv { s.setCloser j (.cleared s.desc) with desc := false } := by
  have howner := hinv.closerLock j _ hget rfl
  have hclosed := hinv.closed_of_closer hget (fun h => by cases h)
  have hnext : Inv (s.setCloser j (.cleared s.desc)) :=
    hinv.setCloser (fun _ => howner) fun _ => hclosed
  refine { hnext with resuming := ?_, cleared := fun _ => hclosed }
  intro hmem
  obtain ⟨i, hi⟩ := List.getElem?_of_mem hmem
  have howner' := hinv.readerLock i _ hi rfl
  rw [howner] at howner'
  cases howner'

/-- `poller.Start` arms the descriptor for the first time. -/
theorem Inv.begin (ok : Bool) (hcalled : s.startCalled = false) :
    Inv { s with startCalled := true, started := ok, armed := ok } := by
  have hstarted : s.started = false := by
    by_contra hstarted
    rw [hinv.called (eq_true_of_ne_false hstarted)] at hcalled
    cases hcalled
  have hempty := (hinv.unstarted hstarted).2
  refine { hinv with turns := ?_, unstarted := ?_, called := fun _ => rfl }
  · unfold State.turns
    dsimp only
    rw [hempty, List.countP_nil]
    split <;> omega
  · intro hok
    exact ⟨hok, hempty⟩

end Updates

theorem inv_step (hinv : Inv s) (hstep : step s label = some s') : Inv s' := by
  cases step_cases hstep with
  | @start ok first => exact hinv.begin ok first
  | @fire hangUp armed => exact hinv.fire hangUp armed
  | hungUp reader closed =>
    exact hinv.moveReader reader (fun h => by cases h) rfl
  | @hangsUp i reader =>
    have hnext : Inv (s.setReader i .done) :=
      hinv.moveReader reader (fun h => by cases h) rfl
    exact hnext.setClosed.addCloser rfl fun _ => rfl
  | moves reader keeps free =>
    exact hinv.moveReader reader (fun _ => keeps.1) free
  | panics reader => exact hinv.moveReader reader (fun h => by cases h) rfl
  | @locks i reader free =>
    exact (hinv.takeLock free (.reader i)).setReader reader (fun _ => rfl)
      (fun _ => rfl) fun h => by cases h
  | @givesUp i reader closed =>
    have howner := hinv.readerLock i _ reader rfl
    exact hinv.setReader reader (fun _ => rfl) (fun _ => howner)
      fun h => by cases h
  | @goesOn i reader isOpen desc =>
    have howner := hinv.readerLock i _ reader rfl
    exact hinv.setReader reader (fun _ => rfl) (fun _ => howner)
      fun _ => desc
  | @resumes i ok reader => exact hinv.resume reader ok
  | unlocks reader => exact hinv.unlockReader reader
  | close => exact hinv.addCloser rfl fun hne => absurd rfl hne
  | late closer closed =>
    exact hinv.setCloser (fun h => by cases h) fun _ => closed
  | swaps closer =>
    exact hinv.setClosed.setCloser (fun h => by cases h) fun _ => rfl
  | @closeLocks j closer free =>
    have hclosed := hinv.closed_of_closer closer (fun h => by cases h)
    exact (hinv.takeLock free (.closer j)).setCloser (fun _ => rfl)
      fun _ => hclosed
  | clears closer => exact hinv.clear closer
  | closeUnlocks closer => exact hinv.unlockCloser closer
  | @stops j desc closer =>
    have hclosed := hinv.closed_of_closer closer (fun h => by cases h)
    have hnext : Inv (s.setCloser j .done) :=
      hinv.setCloser (fun h => by cases h) fun _ => hclosed
    cases desc with
    | true =>
      rw [Bool.not_true, Bool.and_false]
      exact hnext.disarm
    | false =>
      rw [Bool.not_false, Bool.and_true]
      exact hnext

/-- However callbacks, tasks, panics and closes are interleaved, one at most
has the turn to read and `Resume` is not called on a cleared descriptor. -/
theorem oneAtATime_of_reach {s : State} (hreach : Reach step Unguarded {} s) :
    OneAtATime s := by
  have hinv := Reach.invariant Inv inv_start
    (fun _ _ _ hinv _ hstep => inv_step hinv hstep) hreach
  have hrunning : s.readers.countP (fun r => r = .running) ≤
      s.readers.countP Reader.pending := by
    refine List.countP_mono_left fun r _ hr => ?_
    rw [of_decide_eq_true hr]
    rfl
  have hturns := hinv.turns
  refine ⟨hturns, Nat.le_trans hrunning ?_, hinv.resumes⟩
  unfold State.turns at hturns
  omega

/-- One message is read and the next one rejected by the pool; the connection
is closed while the fallback is about to resume. -/
def closedInResume : List Label :=
  [.start true, .fire false, .submit 0 true, .work 0, .finish 0, .lock 0,
    .check 0, .resume 0 true, .unlock 0, .fire false, .submit 1 false,
    .lock 1, .check 1, .close, .closeSwap 0, .resume 1 true, .unlock 1,
    .closeLock 0, .closeClear 0, .closeUnlock 0, .closeStop 0]

theorem oneAtATime_closedInResume :
    (run step {} closedInResume).isSome = true ∧
      OneAtATime (final step {} closedInResume) :=
  ⟨by decide +kernel, oneAtATime_of_reach
    (reach_final (by decide +kernel) (by decide +kernel))⟩

/-- The steps with a `Resume` that succeeds. -/
def stepOk (s : State) : Label → Option State
  | .resume _ false => none
  | label => step s label

theorem step_of_stepOk (hstep : stepOk s label = some s') :
    step s label = some s' := by
  unfold stepOk at hstep
  split at hstep
  · cases hstep
  · exact hstep

/-- The message handler panics only with the connection already closed. -/
def PanicsClosed (s : State) : Label → Prop
  | .panic _ => s.closed = true
  | _ => True

instance (s : State) : ∀ label, Decidable (PanicsClosed s label)
  | .panic _ => inferInstanceAs (Decidable (s.closed = true))
  | .start _ | .fire _ | .hangUp _ | .submit _ _ | .work _ | .finish _
  | .lock _ | .check _ | .resume _ _ | .unlock _ | .close | .closeSwap _
  | .closeLock _ | .closeClear _ | .closeUnlock _ | .closeStop _ =>
    .isTrue trivial

theorem attended_of_closed (hclosed : s.closed = true) :
    Attended s := by
  intro _ hopen
  rw [hclosed] at hopen
  cases hopen

theorem attended_of_armed (harmed : s.armed = true) :
    Attended s := by
  intro _ _
  unfold State.turns
  rw [if_pos harmed]
  omega

/-- The reader that has just moved on keeps the turn. -/
theorem attended_of_set {i : Nat} {r : Reader} (r' : Reader)
    (hget : s.readers[i]? = some r) (hpending : r'.pending = true)
    (hset : s'.readers = s.readers.set i r') : Attended s' := by
  have hmem : r' ∈ s'.readers := by
    rw [hset]
    exact List.mem_set (List.getElem?_eq_some_iff.mp hget).1 r'
  have hpos : 0 < s'.readers.countP Reader.pending :=
    List.countP_pos_iff.mpr ⟨r', hmem, hpending⟩
  intro _ _
  unfold State.turns
  omega

/-- A task that panics gives the turn to nobody. -/
theorem attended_panic_iff {i : Nat} (hinv : Inv s)
    (hget : s.readers[i]? = some .running) :
    Attended (s.setReader i .done) ↔ s.closed = true := by
  obtain ⟨harmed, hcount⟩ := hinv.turn_of_pending hget rfl
  have hset := countP_set_add Reader.pending hget .done
  rw [hcount] at hset
  have hzero : (s.setReader i .done).turns = 0 := by
    unfold State.turns State.setReader
    dsimp only
    rw [harmed, if_neg Bool.false_ne_true]
    simpa [Reader.pending] using hset
  have hstarted := hinv.started_of_reader hget
  constructor
  · intro hattended
    by_contra hopen
    have hpos := hattended hstarted (Bool.eq_false_iff.mpr hopen)
    omega
  · exact fun hclosed => attended_of_closed hclosed

theorem attended_step (hinv : Inv s) (hattended : Attended s)
    (hguard : PanicsClosed s label) (hstep : stepOk s label = some s') :
    Attended s' := by
  cases step_cases (step_of_stepOk hstep) with
  | start first => exact fun hstarted => attended_of_armed hstarted hstarted
  | fire armed =>
    intro _ _
    simp [State.turns, Reader.pending]
  | hungUp reader closed => exact attended_of_closed closed
  | hangsUp reader => exact attended_of_closed rfl
  | moves reader keeps free =>
    exact attended_of_set _ reader keeps.2 rfl
  | panics reader => exact (attended_panic_iff hinv reader).mpr hguard
  | locks reader free => exact attended_of_set .locked reader rfl rfl
  | givesUp reader closed =>
    exact attended_of_closed (closed.elim id hinv.cleared)
  | goesOn reader isOpen desc => exact attended_of_set .resuming reader rfl rfl
  | @resumes i ok reader =>
    cases ok with
    | true => exact attended_of_armed (Bool.or_true _)
    | false => cases hstep
  | unlocks reader =>
    have hset := countP_set_add Reader.pending reader .done
    intro hstarted hopen
    have hpos := hattended hstarted hopen
    unfold State.turns at hpos ⊢
    unfold State.setReader
    dsimp only
    simp only [Reader.pending, Bool.false_eq_true, if_false] at hset
    omega
  | swaps closer => exact attended_of_closed rfl
  | stops closer =>
    exact attended_of_closed
      (hinv.closed_of_closer closer (fun h => by cases h))
  | _ => exact hattended

theorem panicsClosed_of_attended (hinv : Inv s)
    (hstep : stepOk s label = some s') (hattended : Attended s') :
    PanicsClosed s label := by
  cases label with
  | panic i =>
    simp only [stepOk, step] at hstep
    split at hstep <;> cases hstep
    rename_i hget
    exact (attended_panic_iff hinv hget).mp hattended
  | _ => trivial

/-- Along every run, an open connection has the descriptor armed or a reader
on its way exactly when the message handler does not panic on it while it is
open. -/
theorem attended_iff_panicsClosed {labels : List Label} {s : State}
    (hrun : run stepOk {} labels = some s) :
    (∀ k passed, run stepOk {} (labels.take k) = some passed →
        Attended passed) ↔
      Meets stepOk PanicsClosed {} labels := by
  refine along_iff_meets Inv Attended
    (fun _ _ _ hinv hstep => inv_step hinv (step_of_stepOk hstep)) ?_
    inv_start (by decide) hrun
  intro s label s' hinv hattended hstep
  exact ⟨panicsClosed_of_attended hinv hstep,
    fun hguard => attended_step hinv hattended hguard hstep⟩

/-- A message is read, a read is rejected, and the handler panics on a third
one after a close. -/
def latePanicRun : List Label :=
  [.start true, .fire false, .submit 0 true, .work 0, .finish 0, .lock 0,
    .check 0, .resume 0 true, .unlock 0, .fire false, .submit 1 false,
    .lock 1, .check 1, .resume 1 true, .unlock 1, .fire false,
    .submit 2 true, .work 2, .close, .closeSwap 0, .panic 2]

theorem attended_latePanicRun :
    (run stepOk {} latePanicRun).isSome = true ∧
      ∀ k passed, run stepOk {} (latePanicRun.take k) =
        some passed → Attended passed :=
  ⟨by decide +kernel, (attended_iff_panicsClosed
    (run_eq_final (by decide +kernel))).mpr (by decide +kernel)⟩

/-- The handler panics on the first message of an open connection. -/
def panicRun : List Label :=
  [.start true, .fire false, .submit 0 true, .work 0, .panic 0]

/-- The worker survives, and nothing is left that would read the connection
again. -/
theorem panicRun_unattended :
    ∃ s, Reach stepOk Unguarded {} s ∧
      s.started = true ∧ s.closed = false ∧ s.armed = false ∧
      s.readers = [.done] ∧ s.closers = [] ∧ ¬ Attended s :=
  ⟨final stepOk {} panicRun,
    reach_final (by decide +kernel) (by decide +kernel),
    by decide +kernel, by decide +kernel, by decide +kernel,
    by decide +kernel, by decide +kernel, by decide +kernel⟩

end OneShotRead

end Pipewave
