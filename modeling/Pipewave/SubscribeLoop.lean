/-
The goroutine behind a Valkey subscription.  It calls `Receive` again and
again, counts the calls that came back, sleeps a doubling backoff between
them, and gives up when the count reaches the configured number of retries.
-/
import Pipewave.GoTime
import Pipewave.Transition

namespace Pipewave

namespace SubscribeLoop

open Transition
open GoTime (wrap64)

def defaultMaxSubscribeRetries : Nat := 3

/-- `MaxSubscribeRetries` with its default. -/
def maxRetries (configured : Int) : Nat :=
  if configured ≤ 0 then defaultMaxSubscribeRetries else configured.toNat

/-- Nanoseconds, as in `time.Duration`. -/
def base : Int := 500000000
def maxBackoff : Int := 5000000000

/-- The backoff before its jitter: the shift and the product are `int64`. -/
def nominal (attempt : Nat) : Int :=
  min (wrap64 (base * wrap64 (2 ^ (attempt - 1)))) maxBackoff

/-- `rand.Int63n`, which panics unless its bound is positive. -/
def int63n (draw : Nat) (bound : Int) : Option Int :=
  if bound ≤ 0 then none else some (draw % bound)

/-- `none` is the panic of `Int63n`. -/
def subscribeRetryBackoff (attempt draw : Nat) : Option Int :=
  let d := nominal attempt
  (int63n draw (d.tdiv 2 + 1)).map fun jitter => d.tdiv 2 + jitter

/-- What a call of `Receive` did before it returned: it failed at once, or the
subscription stood and was dropped. -/
inductive Outcome where
  | failed
  | dropped
deriving Repr, DecidableEq

inductive Phase where
  /-- At the condition of the loop. -/
  | looping
  | receiving (subscribed : Bool)
  | sleeping
  /-- The callback was called. -/
  | gaveUp
  /-- The subscription was cancelled. -/
  | stopped
  /-- A panic went up to the goroutine's only `recover`. -/
  | panicked
deriving Repr, DecidableEq

/-- `returned` lists the calls of `Receive` that came back before a cancel,
`slept` the backoffs; no step reads either. -/
structure State where
  attempt : Nat := 0
  phase : Phase := .looping
  cancelled : Bool := false
  returned : List Outcome := []
  slept : List Int := []
deriving Repr, DecidableEq

inductive Label where
  | enter
  /-- The server confirms the subscription. -/
  | subscribe
  /-- `Receive` calls the handler with a message. -/
  | message (panics : Bool)
  /-- `Receive` returns; `draw` decides the jitter. -/
  | receiveErr (draw : Nat)
  | wake
  /-- The sleep is cut short by the cancelled context. -/
  | interrupt
  /-- Someone calls `unsubscribe`. -/
  | cancel
deriving Repr, DecidableEq

def outcome : Bool → Outcome
  | true => .dropped
  | false => .failed

/-- The part of the loop behind the check of the context. -/
def retry (configured : Int) (s : State) (subscribed : Bool) (draw : Nat) :
    State :=
  let s := { s with
    attempt := s.attempt + 1
    returned := s.returned ++ [outcome subscribed] }
  if maxRetries configured ≤ s.attempt then { s with phase := .gaveUp }
  else
    match subscribeRetryBackoff s.attempt draw with
    | none => { s with phase := .panicked }
    | some d => { s with phase := .sleeping, slept := s.slept ++ [d] }

def step (configured : Int) (s : State) : Label → Option State
  | .enter =>
    if s.phase ≠ .looping then none
    else if s.cancelled then some { s with phase := .stopped }
    else some { s with phase := .receiving false }
  | .subscribe =>
    if s.phase = .receiving false then
      some { s with phase := .receiving true }
    else none
  | .message panics =>
    if s.phase ≠ .receiving true then none
    else if panics then some { s with phase := .panicked }
    else some s
  | .receiveErr draw =>
    match s.phase with
    | .receiving subscribed =>
      if s.cancelled then some { s with phase := .stopped }
      else some (retry configured s subscribed draw)
    | _ => none
  | .wake =>
    if s.phase = .sleeping then some { s with phase := .looping } else none
  | .interrupt =>
    if s.phase = .sleeping ∧ s.cancelled then
      some { s with phase := .stopped }
    else none
  | .cancel => some { s with cancelled := true }

/-! ### The backoff -/

theorem nominal_range {attempt : Nat} (hpos : 0 < attempt)
    (hle : attempt ≤ 35) :
    2 ≤ nominal attempt ∧ nominal attempt ≤ maxBackoff := by
  have hall : ∀ a < 36, 0 < a → 2 ≤ nominal a ∧ nominal a ≤ maxBackoff := by
    decide +kernel
  exact hall attempt (Nat.lt_succ_of_le hle) hpos

theorem subscribeRetryBackoff_range {attempt draw : Nat} {d : Int}
    (hpos : 0 < attempt) (hle : attempt ≤ 35)
    (hbackoff : subscribeRetryBackoff attempt draw = some d) :
    0 < d ∧ d ≤ maxBackoff := by
  obtain ⟨htwo, hcap⟩ := nominal_range hpos hle
  simp only [subscribeRetryBackoff, Option.map_eq_some_iff] at hbackoff
  obtain ⟨jitter, hjitter, rfl⟩ := hbackoff
  have hhalf : (nominal attempt).tdiv 2 = nominal attempt / 2 :=
    Int.tdiv_eq_ediv_of_nonneg (by omega)
  have hbound : 0 < nominal attempt / 2 + 1 := by omega
  rw [int63n, hhalf, if_neg (by omega)] at hjitter
  cases hjitter
  have hlow := Int.emod_nonneg (draw : Int) (Int.ne_of_gt hbound)
  have hhigh := Int.emod_lt_of_pos (draw : Int) hbound
  rw [hhalf]
  omega

/-- The product overflows at the 36th attempt and its half is negative. -/
theorem subscribeRetryBackoff_overflow (draw : Nat) :
    subscribeRetryBackoff 36 draw = none := by
  have hneg : (nominal 36).tdiv 2 + 1 ≤ 0 := by decide
  simp only [subscribeRetryBackoff, int63n, if_pos hneg, Option.map_none]

/-! ### The counter -/

/-- The loop is still in a state from which it can call `Receive` again. -/
def Phase.live : Phase → Bool
  | .looping | .receiving _ | .sleeping => true
  | _ => false

/-- The counter is the number of calls that came back, and both the cap and
the overflow of the backoff end the loop. -/
structure Inv (configured : Int) (s : State) : Prop where
  count : s.returned.length = s.attempt
  below : s.phase ≠ .gaveUp → s.attempt < maxRetries configured
  atCap : s.phase = .gaveUp → s.attempt = maxRetries configured
  live : s.phase.live = true → s.attempt ≤ 35
  bounded : s.attempt ≤ 36
  slept : ∀ d ∈ s.slept, 0 < d ∧ d ≤ maxBackoff

theorem maxRetries_pos (configured : Int) : 0 < maxRetries configured := by
  unfold maxRetries
  split
  · decide
  · omega

theorem inv_start (configured : Int) : Inv configured {} where
  count := rfl
  below := fun _ => maxRetries_pos configured
  atCap := fun h => by cases h
  live := fun _ => Nat.zero_le _
  bounded := Nat.zero_le _
  slept := fun _ h => by cases h

variable {configured : Int} {s : State}

/-- A change of phase that counts nothing. -/
theorem Inv.moveTo (hinv : Inv configured s) {phase : Phase}
    (hcap : s.phase ≠ .gaveUp) (hnew : phase ≠ .gaveUp)
    (hlive : phase.live = true → s.phase.live = true) :
    Inv configured { s with phase } where
  count := hinv.count
  below := fun _ => hinv.below hcap
  atCap := fun h => absurd h hnew
  live := fun h => hinv.live (hlive h)
  bounded := hinv.bounded
  slept := hinv.slept

theorem Inv.retry (hinv : Inv configured s) {subscribed : Bool}
    (hphase : s.phase = .receiving subscribed) (draw : Nat) :
    Inv configured (retry configured s subscribed draw) := by
  have hlive : s.attempt ≤ 35 := hinv.live (by rw [hphase]; rfl)
  have hbelow : s.attempt < maxRetries configured :=
    hinv.below (by rw [hphase]; exact Phase.noConfusion)
  have hbounded : s.attempt + 1 ≤ 36 := Nat.succ_le_succ hlive
  have hcount : (s.returned ++ [outcome subscribed]).length =
      s.attempt + 1 := by
    rw [List.length_append, hinv.count, List.length_singleton]
  unfold SubscribeLoop.retry
  by_cases hcap : maxRetries configured ≤ s.attempt + 1
  · simp only [hcap, ↓reduceIte]
    exact {
      count := hcount
      below := fun h => absurd rfl h
      atCap := fun _ => Nat.le_antisymm hbelow hcap
      live := fun h => by cases h
      bounded := hbounded
      slept := hinv.slept }
  · simp only [hcap, ↓reduceIte]
    have hroom : s.attempt + 1 < maxRetries configured :=
      Nat.lt_of_not_ge hcap
    cases hbackoff : subscribeRetryBackoff (s.attempt + 1) draw with
    | none =>
      exact {
        count := hcount
        below := fun _ => hroom
        atCap := fun h => by cases h
        live := fun h => by cases h
        bounded := hbounded
        slept := hinv.slept }
    | some d =>
      -- the 36th backoff does not exist, so the loop sleeps at most 35
      have hle : s.attempt + 1 ≤ 35 := by
        rcases Nat.lt_or_ge s.attempt 35 with hlt | hge
        · exact hlt
        · rw [show s.attempt + 1 = 36 by omega,
            subscribeRetryBackoff_overflow] at hbackoff
          cases hbackoff
      have hrange := subscribeRetryBackoff_range (Nat.succ_pos _) hle
        hbackoff
      exact {
        count := hcount
        below := fun _ => hroom
        atCap := fun h => by cases h
        live := fun _ => hle
        bounded := hbounded
        slept := fun d' hd' => by
          rcases List.mem_append.mp hd' with hold | hnew
          · exact hinv.slept d' hold
          · rw [List.mem_singleton.mp hnew]
            exact hrange }

theorem inv_step {next : State} {label : Label} (hinv : Inv configured s)
    (hstep : step configured s label = some next) :
    Inv configured next := by
  cases label with
  | enter =>
    simp only [step, ne_eq, ite_not] at hstep
    split at hstep
    · next hphase =>
      have hcap : s.phase ≠ .gaveUp := by rw [hphase]; exact Phase.noConfusion
      split at hstep
      · cases hstep
        exact hinv.moveTo hcap Phase.noConfusion fun h => by cases h
      · cases hstep
        exact hinv.moveTo hcap Phase.noConfusion fun _ => by rw [hphase]; rfl
    · cases hstep
  | subscribe =>
    simp only [step] at hstep
    split at hstep
    · next hphase =>
      cases hstep
      exact hinv.moveTo (by rw [hphase]; exact Phase.noConfusion)
        Phase.noConfusion fun _ => by rw [hphase]; rfl
    · cases hstep
  | message panics =>
    simp only [step, ne_eq, ite_not] at hstep
    split at hstep
    · next hphase =>
      split at hstep
      · cases hstep
        exact hinv.moveTo (by rw [hphase]; exact Phase.noConfusion)
          Phase.noConfusion fun h => by cases h
      · cases hstep
        exact hinv
    · cases hstep
  | receiveErr draw =>
    simp only [step] at hstep
    split at hstep
    · next subscribed hphase =>
      split at hstep
      · cases hstep
        exact hinv.moveTo (by rw [hphase]; exact Phase.noConfusion)
          Phase.noConfusion fun h => by cases h
      · cases hstep
        exact hinv.retry hphase draw
    · cases hstep
  | wake =>
    simp only [step] at hstep
    split at hstep
    · next hphase =>
      cases hstep
      exact hinv.moveTo (by rw [hphase]; exact Phase.noConfusion)
        Phase.noConfusion fun _ => by rw [hphase]; rfl
    · cases hstep
  | interrupt =>
    simp only [step] at hstep
    split at hstep
    · next hphase =>
      cases hstep
      exact hinv.moveTo (by rw [hphase.1]; exact Phase.noConfusion)
        Phase.noConfusion fun h => by cases h
    · cases hstep
  | cancel =>
    cases hstep
    exact { hinv with }

theorem inv_of_reach (hreach : Reach (step configured) Unguarded {} s) :
    Inv configured s :=
  Reach.invariant (Inv configured) (inv_start configured)
    (fun _ _ _ hinv _ => inv_step hinv) hreach

/-! ### When giving up is right -/

/-- The loop called its callback only after the configured number of failures
in a row, and every backoff it slept is in range. -/
structure Sound (configured : Int) (s : State) : Prop where
  consecutive : s.phase = .gaveUp → ∃ before, s.returned =
    before ++ List.replicate (maxRetries configured) .failed
  backoff : ∀ d ∈ s.slept, 0 < d ∧ d ≤ maxBackoff

/-- Too few calls of `Receive` came back to reach the cap, or none of them had
subscribed.  Above 36 retries the cap is never reached: the backoff panics
first. -/
def NoDropCounted (configured : Int) (returned : List Outcome) : Prop :=
  36 < maxRetries configured ∨ returned.length < maxRetries configured ∨
    .dropped ∉ returned

theorem eq_replicate_failed {returned : List Outcome}
    (hnone : .dropped ∉ returned) :
    returned = List.replicate returned.length .failed := by
  refine List.eq_replicate_of_mem fun o ho => ?_
  cases o with
  | failed => rfl
  | dropped => exact absurd ho hnone

/-- The counter is never reset, so giving up is right exactly when no
subscription that stood was counted. -/
theorem sound_iff_noDropCounted {configured : Int} {s : State}
    (hreach : Reach (step configured) Unguarded {} s) :
    Sound configured s ↔ NoDropCounted configured s.returned := by
  have hinv := inv_of_reach hreach
  constructor
  · intro hsound
    by_cases hgave : s.phase = .gaveUp
    · obtain ⟨before, hbefore⟩ := hsound.consecutive hgave
      have hlength := congrArg List.length hbefore
      rw [hinv.count, hinv.atCap hgave, List.length_append,
        List.length_replicate] at hlength
      have hnil : before = [] := List.eq_nil_of_length_eq_zero (by omega)
      refine .inr (.inr ?_)
      rw [hbefore, hnil, List.nil_append]
      exact fun hmem => by cases List.eq_of_mem_replicate hmem
    · refine .inr (.inl ?_)
      rw [hinv.count]
      exact hinv.below hgave
  · intro hcond
    refine ⟨fun hgave => ⟨[], ?_⟩, hinv.slept⟩
    have hcap := hinv.atCap hgave
    have hbounded := hinv.bounded
    rcases hcond with hover | hfew | hnone
    · omega
    · rw [hinv.count] at hfew
      omega
    · rw [List.nil_append, ← hcap, ← hinv.count]
      exact eq_replicate_failed hnone

/-- A server that cannot be reached three times. -/
def downRun : List Label :=
  [.enter, .receiveErr 7, .wake, .enter, .receiveErr 0, .wake, .enter,
    .receiveErr 0]

theorem sound_downRun :
    (final (step 3) {} downRun).phase = .gaveUp ∧
      Sound 3 (final (step 3) {} downRun) := by
  have hreach : Reach (step 3) Unguarded {} (final (step 3) {} downRun) :=
    reach_final (by decide +kernel) (by decide +kernel)
  refine ⟨by decide +kernel, (sound_iff_noDropCounted hreach).mpr ?_⟩
  exact .inr (.inr (by decide +kernel))

/-- Three subscriptions that each stood and delivered before they dropped. -/
def dropRun : List Label :=
  [.enter, .subscribe, .message false, .receiveErr 0, .wake,
    .enter, .subscribe, .message false, .receiveErr 0, .wake,
    .enter, .subscribe, .message false, .receiveErr 0]

/-- The loop gives up although no attempt to subscribe ever failed. -/
theorem dropRun_gives_up :
    ∃ s, Reach (step 3) Unguarded {} s ∧
      s.phase = .gaveUp ∧ s.returned = [.dropped, .dropped, .dropped] ∧
      ¬ Sound 3 s := by
  have hreach : Reach (step 3) Unguarded {} (final (step 3) {} dropRun) :=
    reach_final (by decide +kernel) (by decide +kernel)
  refine ⟨_, hreach, by decide +kernel, by decide +kernel, fun hsound => ?_⟩
  obtain ⟨before, hbefore⟩ := hsound.consecutive (by decide +kernel)
  have hmem : Outcome.failed ∈ (final (step 3) {} dropRun).returned := by
    rw [hbefore]
    exact List.mem_append_right _ (by decide)
  exact absurd hmem (by decide +kernel)

end SubscribeLoop

end Pipewave
