/-
A synchronous callback with its retries.  The loop asks the breaker before
every post, records every outcome with it, and stops at the first answer that
is not worth a retry.
-/
import Pipewave.CircuitBreaker
import Pipewave.LengthPrefix

namespace Pipewave

namespace Webhook

/-- What `Post` returns. -/
inductive Attempt where
  | transport (err : Bytes)
  | answered (status : Int) (body : Bytes)
deriving Repr, DecidableEq

/-- Everything `Call` meets, by the number of the attempt: what the posts
return, the clock at the two breaker calls, and whether the `select` in front
of the attempt sees `ctx.Done`. -/
structure Surroundings where
  callbackID : Bytes
  attempts : Nat → Attempt
  allowAt : Nat → Int
  recordAt : Nat → Int
  ctxDone : Nat → Bool
  /-- `out` is not nil. -/
  hasOut : Bool
  decodes : Bytes → Bool

inductive CallErr where
  | circuitOpen
  | callError (status : Int) (body : Bytes)
  | transport (err : Bytes)
  | decode (body : Bytes)
deriving Repr, DecidableEq

structure Post where
  callbackID : Bytes
  attempt : Attempt
deriving Repr, DecidableEq

/-- `result` is `none` for a nil error. -/
structure Outcome where
  result : Option CallErr
  breaker : CircuitBreaker
  posts : List Post

/-- The loop of `Call` with the number of attempts left. -/
def callLoop (w : Surroundings) :
    Nat → Nat → Option CallErr → CircuitBreaker → List Post → Outcome
  | 0, _, lastErr, b, posts => ⟨lastErr, b, posts⟩
  | left + 1, attempt, lastErr, b, posts =>
    if 0 < attempt ∧ w.ctxDone attempt = true then ⟨lastErr, b, posts⟩
    else if b.allow (w.allowAt attempt) = false then
      ⟨some .circuitOpen, b, posts⟩
    else
      let posts := posts ++ [⟨w.callbackID, w.attempts attempt⟩]
      let now := w.recordAt attempt
      match w.attempts attempt with
      | .transport err =>
        callLoop w left (attempt + 1) (some (.transport err))
          (b.record false now) posts
      | .answered status body =>
        if status < 200 ∨ 300 ≤ status then
          let b := b.record (decide (status < 500)) now
          if status < 500 then ⟨some (.callError status body), b, posts⟩
          else callLoop w left (attempt + 1)
            (some (.callError status body)) b posts
        else
          let b := b.record true now
          if w.hasOut = true ∧ body ≠ [] ∧ w.decodes body = false then
            ⟨some (.decode body), b, posts⟩
          else ⟨none, b, posts⟩

/-- `NewSyncCaller` raises the number of attempts to one. -/
def attemptsOf (retryMax : Int) : Nat := (max 1 retryMax).toNat

def call (w : Surroundings) (retryMax : Int) (b : CircuitBreaker) : Outcome :=
  callLoop w (attemptsOf retryMax) 0 none b []

/-! ### The contract -/

/-- A transport error or a status of 500 and above. -/
def Attempt.retryable : Attempt → Bool
  | .transport _ => true
  | .answered status _ => decide (500 ≤ status)

/-- A 2xx answer whose body decodes, is empty or is not looked at. -/
def Surroundings.Accepts (w : Surroundings) : Attempt → Prop
  | .transport _ => False
  | .answered status body => (200 ≤ status ∧ status < 300) ∧
      (w.hasOut = false ∨ body = [] ∨ w.decodes body = true)

/-- The breaker behind the first `n` posts: one `Record` each, in which every
status below 500 counts as a success. -/
def Surroundings.breakerAt (w : Surroundings) (b : CircuitBreaker) :
    Nat → CircuitBreaker
  | 0 => b
  | n + 1 => (w.breakerAt b n).record (!(w.attempts n).retryable)
      (w.recordAt n)

/-- The loop comes to the check in front of attempt `n` and the breaker says
no. -/
structure Refused (w : Surroundings) (retryMax : Int) (b : CircuitBreaker)
    (n : Nat) : Prop where
  left : n < attemptsOf retryMax
  retry : ∀ k, n = k + 1 → (w.attempts k).retryable = true ∧
    w.ctxDone n = false
  refused : (w.breakerAt b n).allow (w.allowAt n) = false

structure FollowsContract (w : Surroundings) (retryMax : Int)
    (b : CircuitBreaker) (o : Outcome) : Prop where
  atMost : (o.posts.length : Int) ≤ max 1 retryMax
  posts : o.posts = (List.range o.posts.length).map fun k =>
    ⟨w.callbackID, w.attempts k⟩
  allowed : ∀ k < o.posts.length,
    (w.breakerAt b k).allow (w.allowAt k) = true
  retried : ∀ k, k + 1 < o.posts.length → (w.attempts k).retryable = true
  /-- The first attempt is posted if the breaker allows it, and so is the one
  behind a posted failure that is worth a retry. -/
  posted : ∀ n < attemptsOf retryMax,
    (∀ k, n = k + 1 → k < o.posts.length ∧
      (w.attempts k).retryable = true ∧ w.ctxDone n = false) →
    (w.breakerAt b n).allow (w.allowAt n) = true → n < o.posts.length
  accepted : o.result = none ↔
    ∃ k, o.posts.length = k + 1 ∧ w.Accepts (w.attempts k)
  callError : ∀ k status body, o.posts.length = k + 1 →
    w.attempts k = .answered status body →
    ¬ (200 ≤ status ∧ status < 300) →
    ¬ Refused w retryMax b o.posts.length →
      o.result = some (.callError status body)
  circuitOpen : o.result = some .circuitOpen ↔
    Refused w retryMax b o.posts.length
  breaker : o.breaker = w.breakerAt b o.posts.length
  failures : o.breaker.failures = o.posts.foldl (fun failures post =>
    if post.attempt.retryable then failures + 1 else 0) b.failures

section Loop

variable {w : Surroundings} {b : CircuitBreaker}

/-- All attempts before the `n`-th were posted and asked for a retry. -/
structure Reaches (w : Surroundings) (b : CircuitBreaker) (n : Nat) :
    Prop where
  allowed : ∀ k < n, (w.breakerAt b k).allow (w.allowAt k) = true
  retried : ∀ k < n, (w.attempts k).retryable = true

/-- The error an attempt leaves in `lastErr` or returns. -/
def Surroundings.errorOf (w : Surroundings) : Attempt → Option CallErr
  | .transport err => some (.transport err)
  | .answered status body =>
    if status < 200 ∨ 300 ≤ status then some (.callError status body)
    else if w.hasOut = true ∧ body ≠ [] ∧ w.decodes body = false then
      some (.decode body)
    else none

def Surroundings.lastErr (w : Surroundings) : Nat → Option CallErr
  | 0 => none
  | n + 1 => w.errorOf (w.attempts n)

/-- How the loop ends: the number of posts and the result. -/
inductive Stops (w : Surroundings) (b : CircuitBreaker) (total : Nat) :
    Nat → Option CallErr → Prop where
  | exhausted (reaches : Reaches w b total) :
      Stops w b total total (w.lastErr total)
  | cancelled {n : Nat} (reaches : Reaches w b n) (left : n < total)
      (again : 0 < n) (done : w.ctxDone n = true) :
      Stops w b total n (w.lastErr n)
  | refused {n : Nat} (reaches : Reaches w b n) (left : n < total)
      (waited : 0 < n → w.ctxDone n = false)
      (refused : (w.breakerAt b n).allow (w.allowAt n) = false) :
      Stops w b total n (some .circuitOpen)
  | answered {n : Nat} (reaches : Reaches w b n) (left : n < total)
      (allowed : (w.breakerAt b n).allow (w.allowAt n) = true)
      (final : (w.attempts n).retryable = false) :
      Stops w b total (n + 1) (w.errorOf (w.attempts n))

theorem Reaches.succ {n : Nat} (hreaches : Reaches w b n)
    (hallowed : (w.breakerAt b n).allow (w.allowAt n) = true)
    (hretry : (w.attempts n).retryable = true) : Reaches w b (n + 1) where
  allowed := by
    intro k hk
    rcases Nat.lt_succ_iff_lt_or_eq.mp hk with hlt | rfl
    · exact hreaches.allowed k hlt
    · exact hallowed
  retried := by
    intro k hk
    rcases Nat.lt_succ_iff_lt_or_eq.mp hk with hlt | rfl
    · exact hreaches.retried k hlt
    · exact hretry

def postsUpTo (w : Surroundings) (n : Nat) : List Post :=
  (List.range n).map fun k => ⟨w.callbackID, w.attempts k⟩

theorem postsUpTo_succ (w : Surroundings) (n : Nat) :
    postsUpTo w (n + 1) =
      postsUpTo w n ++ [⟨w.callbackID, w.attempts n⟩] := by
  simp only [postsUpTo, List.range_succ, List.map_append, List.map_cons,
    List.map_nil]

/-- One turn of the loop that posts: it goes on exactly after an attempt worth
a retry. -/
theorem callLoop_post {left n : Nat} {lastErr : Option CallErr}
    (hwait : ¬ (0 < n ∧ w.ctxDone n = true))
    (hallowed : (w.breakerAt b n).allow (w.allowAt n) = true) :
    callLoop w (left + 1) n lastErr (w.breakerAt b n) (postsUpTo w n) =
      if (w.attempts n).retryable then
        callLoop w left (n + 1) (w.lastErr (n + 1)) (w.breakerAt b (n + 1))
          (postsUpTo w (n + 1))
      else ⟨w.errorOf (w.attempts n), w.breakerAt b (n + 1),
        postsUpTo w (n + 1)⟩ := by
  rw [callLoop, if_neg hwait, hallowed, if_neg Bool.true_eq_false_eq_False,
    postsUpTo_succ, Surroundings.lastErr, Surroundings.breakerAt]
  cases hattempt : w.attempts n with
  | transport err => rfl
  | answered status body =>
    by_cases hother : status < 200 ∨ 300 ≤ status
    · by_cases hclient : status < 500
      · have hfinal : ¬ 500 ≤ status := by omega
        simp only [Attempt.retryable, hother, hclient, hfinal, if_true,
          decide_true, decide_false, Bool.not_false, Bool.false_eq_true,
          if_false, Surroundings.errorOf]
      · have hserver : 500 ≤ status := by omega
        simp only [Attempt.retryable, hother, hclient, hserver, if_true,
          decide_true, decide_false, Bool.not_true, if_false,
          Surroundings.errorOf]
    · have hfinal : ¬ 500 ≤ status := by omega
      simp only [Attempt.retryable, hother, hfinal, decide_false,
        Bool.not_false, Bool.false_eq_true, if_false, Surroundings.errorOf]
      split <;> rfl

theorem stops_callLoop (total left n : Nat) (htotal : n + left = total)
    (hreaches : Reaches w b n) :
    ∃ m, Stops w b total m (callLoop w left n (w.lastErr n)
        (w.breakerAt b n) (postsUpTo w n)).result ∧
      (callLoop w left n (w.lastErr n) (w.breakerAt b n)
        (postsUpTo w n)).breaker = w.breakerAt b m ∧
      (callLoop w left n (w.lastErr n) (w.breakerAt b n)
        (postsUpTo w n)).posts = postsUpTo w m := by
  induction left generalizing n with
  | zero =>
    rw [Nat.add_zero] at htotal
    subst htotal
    exact ⟨n, .exhausted hreaches, rfl, rfl⟩
  | succ left ih =>
    have hlt : n < total := by omega
    by_cases hdone : 0 < n ∧ w.ctxDone n = true
    · rw [callLoop, if_pos hdone]
      exact ⟨n, .cancelled hreaches hlt hdone.1 hdone.2, rfl, rfl⟩
    · cases hallow : (w.breakerAt b n).allow (w.allowAt n) with
      | false =>
        have hwaited : 0 < n → w.ctxDone n = false := by
          intro hpos
          apply eq_false_of_ne_true
          exact fun hctx => hdone ⟨hpos, hctx⟩
        rw [callLoop, if_neg hdone, if_pos hallow]
        exact ⟨n, .refused hreaches hlt hwaited hallow, rfl, rfl⟩
      | true =>
        rw [callLoop_post hdone hallow]
        cases hretry : (w.attempts n).retryable with
        | true =>
          rw [if_pos rfl]
          apply ih (n + 1) (by omega)
          exact hreaches.succ hallow hretry
        | false =>
          rw [if_neg Bool.false_ne_true]
          exact ⟨n + 1, .answered hreaches hlt hallow hretry, rfl, rfl⟩

theorem length_postsUpTo (w : Surroundings) (n : Nat) :
    (postsUpTo w n).length = n := by
  rw [postsUpTo, List.length_map, List.length_range]

/-! ### What a stop says -/

variable {total n : Nat} {result : Option CallErr}

theorem errorOf_eq_none_iff (a : Attempt) :
    w.errorOf a = none ↔ w.Accepts a := by
  cases a with
  | transport err =>
    exact ⟨fun h => absurd h (Option.some_ne_none _), False.elim⟩
  | answered status body =>
    rw [Surroundings.errorOf, Surroundings.Accepts]
    by_cases hother : status < 200 ∨ 300 ≤ status
    · rw [if_pos hother]
      constructor
      · exact fun h => absurd h (Option.some_ne_none _)
      · rintro ⟨hstatus, -⟩
        omega
    · have hstatus : 200 ≤ status ∧ status < 300 := by omega
      rw [if_neg hother, and_iff_right hstatus]
      cases w.hasOut <;> cases w.decodes body <;> by_cases hbody : body = []
        <;> simp [hbody]

theorem errorOf_ne_circuitOpen (a : Attempt) :
    w.errorOf a ≠ some .circuitOpen := by
  cases a with
  | transport err => simp [Surroundings.errorOf]
  | answered status body =>
    rw [Surroundings.errorOf]
    split
    · simp
    · split <;> simp

theorem errorOf_answered {status : Int} {body : Bytes}
    (hother : ¬ (200 ≤ status ∧ status < 300)) :
    w.errorOf (.answered status body) = some (.callError status body) := by
  have hrange : status < 200 ∨ 300 ≤ status := by omega
  rw [Surroundings.errorOf, if_pos hrange]

theorem not_accepts_of_retryable {a : Attempt} (hretry : a.retryable = true) :
    ¬ w.Accepts a := by
  cases a with
  | transport err => exact id
  | answered status body =>
    rintro ⟨⟨-, hlt⟩, -⟩
    have hserver : 500 ≤ status := of_decide_eq_true hretry
    omega

theorem Stops.le_total (hstops : Stops w b total n result) : n ≤ total := by
  cases hstops with
  | exhausted => exact Nat.le_refl _
  | cancelled _ hleft => exact Nat.le_of_lt hleft
  | refused _ hleft => exact Nat.le_of_lt hleft
  | answered _ hleft => exact hleft

theorem Stops.allowed (hstops : Stops w b total n result) (k : Nat)
    (hk : k < n) : (w.breakerAt b k).allow (w.allowAt k) = true := by
  cases hstops with
  | exhausted hreaches => exact hreaches.allowed k hk
  | cancelled hreaches => exact hreaches.allowed k hk
  | refused hreaches => exact hreaches.allowed k hk
  | answered hreaches _ hallowed =>
    rcases Nat.lt_succ_iff_lt_or_eq.mp hk with hlt | rfl
    · exact hreaches.allowed k hlt
    · exact hallowed

theorem Stops.retried (hstops : Stops w b total n result) (k : Nat)
    (hk : k + 1 < n) : (w.attempts k).retryable = true := by
  cases hstops with
  | exhausted hreaches => exact hreaches.retried k (Nat.lt_of_succ_lt hk)
  | cancelled hreaches => exact hreaches.retried k (Nat.lt_of_succ_lt hk)
  | refused hreaches => exact hreaches.retried k (Nat.lt_of_succ_lt hk)
  | answered hreaches => exact hreaches.retried k (Nat.lt_of_succ_lt_succ hk)

theorem Stops.posted (hstops : Stops w b total n result) {m : Nat}
    (hm : m < total)
    (hbehind : ∀ k, m = k + 1 → k < n ∧ (w.attempts k).retryable = true ∧
      w.ctxDone m = false)
    (hallowed : (w.breakerAt b m).allow (w.allowAt m) = true) : m < n := by
  -- otherwise attempt `m` is the one the loop stopped at
  by_contra hnot
  have hstopped : m = n := by
    cases m with
    | zero => omega
    | succ k =>
      have hk := (hbehind k rfl).1
      omega
  subst hstopped
  cases hstops with
  | exhausted => exact Nat.lt_irrefl _ hm
  | cancelled _ _ hagain hdone =>
    obtain ⟨k, rfl⟩ := Nat.exists_eq_succ_of_ne_zero (Nat.ne_of_gt hagain)
    rw [(hbehind k rfl).2.2] at hdone
    exact Bool.false_ne_true hdone
  | refused _ _ _ hrefused =>
    rw [hallowed] at hrefused
    exact Bool.false_ne_true hrefused.symm
  | answered _ _ _ hfinal =>
    rw [(hbehind _ rfl).2.1] at hfinal
    exact Bool.false_ne_true hfinal.symm

/-- The result is the error of the last post, unless the breaker refused. -/
theorem Stops.result_eq (hstops : Stops w b total n result)
    (htotal : 0 < total) :
    result = some .circuitOpen ∨ ∃ k, n = k + 1 ∧
      result = w.errorOf (w.attempts k) := by
  cases hstops with
  | exhausted =>
    obtain ⟨k, rfl⟩ := Nat.exists_eq_succ_of_ne_zero (Nat.ne_of_gt htotal)
    exact .inr ⟨k, rfl, rfl⟩
  | cancelled _ _ hagain =>
    obtain ⟨k, rfl⟩ := Nat.exists_eq_succ_of_ne_zero (Nat.ne_of_gt hagain)
    exact .inr ⟨k, rfl, rfl⟩
  | refused => exact .inl rfl
  | answered => exact .inr ⟨_, rfl, rfl⟩

end Loop

section Contract

variable {w : Surroundings} {b : CircuitBreaker} {retryMax : Int} {n : Nat}
  {result : Option CallErr}

theorem attemptsOf_pos (retryMax : Int) : 0 < attemptsOf retryMax := by
  have hone : 1 ≤ max 1 retryMax := Int.le_max_left 1 retryMax
  rw [attemptsOf]
  omega

theorem Stops.circuitOpen_iff
    (hstops : Stops w b (attemptsOf retryMax) n result) :
    result = some .circuitOpen ↔ Refused w retryMax b n := by
  cases hstops with
  | exhausted =>
    constructor
    · intro hopen
      rcases hn : attemptsOf retryMax with _ | k
      · exact absurd hn (Nat.ne_of_gt (attemptsOf_pos retryMax))
      · rw [hn] at hopen
        exact absurd hopen (errorOf_ne_circuitOpen _)
    · intro hrefused
      exact absurd hrefused.left (Nat.lt_irrefl _)
  | cancelled _ _ hagain hdone =>
    obtain ⟨k, rfl⟩ := Nat.exists_eq_succ_of_ne_zero (Nat.ne_of_gt hagain)
    constructor
    · intro hopen
      exact absurd hopen (errorOf_ne_circuitOpen _)
    · intro hrefused
      rw [(hrefused.retry k rfl).2] at hdone
      exact absurd hdone Bool.false_ne_true
  | refused hreaches hleft hwaited hrefused =>
    refine iff_of_true rfl ⟨hleft, ?_, hrefused⟩
    rintro k rfl
    exact ⟨hreaches.retried k (Nat.lt_succ_self k),
      hwaited (Nat.succ_pos k)⟩
  | answered _ _ _ hfinal =>
    constructor
    · intro hopen
      exact absurd hopen (errorOf_ne_circuitOpen _)
    · intro hrefused
      rw [(hrefused.retry _ rfl).1] at hfinal
      exact absurd hfinal.symm Bool.false_ne_true

theorem Stops.accepted_iff
    (hstops : Stops w b (attemptsOf retryMax) n result) :
    result = none ↔ ∃ k, n = k + 1 ∧ w.Accepts (w.attempts k) := by
  rcases hstops.result_eq (attemptsOf_pos retryMax) with hopen | hlast
  · have hrefused := hstops.circuitOpen_iff.mp hopen
    subst hopen
    constructor
    · exact fun h => absurd h (Option.some_ne_none _)
    · rintro ⟨k, rfl, haccepts⟩
      have hretry := (hrefused.retry k rfl).1
      exact absurd haccepts (not_accepts_of_retryable hretry)
  · obtain ⟨k, rfl, rfl⟩ := hlast
    rw [errorOf_eq_none_iff]
    constructor
    · exact fun haccepts => ⟨k, rfl, haccepts⟩
    · rintro ⟨j, hj, haccepts⟩
      rw [Nat.succ.inj hj]
      exact haccepts

theorem Stops.callError (hstops : Stops w b (attemptsOf retryMax) n result)
    {k : Nat} {status : Int} {body : Bytes} (hn : n = k + 1)
    (hattempt : w.attempts k = .answered status body)
    (hother : ¬ (200 ≤ status ∧ status < 300))
    (hrefused : ¬ Refused w retryMax b n) :
    result = some (.callError status body) := by
  rcases hstops.result_eq (attemptsOf_pos retryMax) with hopen | hlast
  · exact absurd (hstops.circuitOpen_iff.mp hopen) hrefused
  · obtain ⟨j, hj, rfl⟩ := hlast
    have hkj : k = j := Nat.succ.inj (hn.symm.trans hj)
    rw [← hkj, hattempt, errorOf_answered hother]

/-- One `Record` per post moves the failure count. -/
theorem failures_breakerAt (w : Surroundings) (b : CircuitBreaker) (n : Nat) :
    (w.breakerAt b n).failures = (postsUpTo w n).foldl (fun failures post =>
      if post.attempt.retryable then failures + 1 else 0) b.failures := by
  induction n with
  | zero => rfl
  | succ n ih =>
    rw [postsUpTo_succ, List.foldl_append, ← ih, Surroundings.breakerAt]
    cases hretry : (w.attempts n).retryable with
    | true => simp [CircuitBreaker.record, hretry]; split <;> rfl
    | false => simp [CircuitBreaker.record, hretry]

/-- For every number of retries, every breaker and whatever the posts, the
clock and the context do. -/
theorem call_followsContract (w : Surroundings) (retryMax : Int)
    (b : CircuitBreaker) :
    FollowsContract w retryMax b (call w retryMax b) := by
  have hstart : Reaches w b 0 :=
    ⟨fun k hk => absurd hk (Nat.not_lt_zero k),
      fun k hk => absurd hk (Nat.not_lt_zero k)⟩
  obtain ⟨n, hstops, hbreaker, hposts⟩ :=
    stops_callLoop (attemptsOf retryMax) (attemptsOf retryMax) 0
      (Nat.zero_add _) hstart
  change Stops w b _ n (call w retryMax b).result at hstops
  change (call w retryMax b).breaker = _ at hbreaker
  change (call w retryMax b).posts = _ at hposts
  have hlength : (call w retryMax b).posts.length = n := by
    rw [hposts, length_postsUpTo]
  constructor
  case atMost =>
    have hone : 1 ≤ max 1 retryMax := Int.le_max_left 1 retryMax
    have hle : n ≤ (max 1 retryMax).toNat := hstops.le_total
    rw [hlength]
    omega
  case posts => rw [hlength]; exact hposts
  case allowed => rw [hlength]; exact hstops.allowed
  case retried => rw [hlength]; exact hstops.retried
  case posted =>
    rw [hlength]
    intro m hm hbehind hallowed
    exact hstops.posted hm hbehind hallowed
  case accepted => rw [hlength]; exact hstops.accepted_iff
  case callError =>
    rw [hlength]
    intro k status body hn hattempt hother hrefused
    exact hstops.callError hn hattempt hother hrefused
  case circuitOpen => rw [hlength]; exact hstops.circuitOpen_iff
  case breaker => rw [hlength]; exact hbreaker
  case failures => rw [hbreaker, hposts]; exact failures_breakerAt w b n

/-- The receiver is not reached, then fails, then answers; the breaker would
open at the third failure. -/
def thirdTime : Surroundings where
  callbackID := [1]
  attempts
    | 0 => .transport [0]
    | 1 => .answered 503 []
    | _ => .answered 200 [2]
  allowAt n := n
  recordAt n := n
  ctxDone _ := false
  hasOut := true
  decodes _ := true

theorem call_followsContract_thirdTime :
    let b : CircuitBreaker := { threshold := 3, cooldown := 30 }
    let o := call thirdTime 5 b
    o.posts.length = 3 ∧ o.result = none ∧ o.breaker.failures = 0 ∧
      FollowsContract thirdTime 5 b o :=
  ⟨by decide, by decide, by decide, call_followsContract _ _ _⟩

end Contract

end Webhook

end Pipewave
