/-
The health of the backend behind the callbacks.  A goroutine pings it, another
one watches how long the breaker has been open, and both report to one
monitor, which runs its callback on the first report of ill health.  The
callback may end the process, as may a signal or a listener that fails; the
exit code tells which it was.
-/
import Mathlib.Data.List.Infix
import Pipewave.CircuitBreaker
import Pipewave.Transition

namespace Pipewave

open Transition

def Webhook.HealthMonitor.setHealthy (m : Webhook.HealthMonitor) :
    Webhook.HealthMonitor :=
  { m with healthy := true }

namespace BackendHealth

open Webhook

inductive UnhealthyAction where
  | shutdown
  | logOnly
deriving Repr, DecidableEq

/-- The settings of the callbacks that `main` reads for this. -/
structure Config where
  pingEnabled : Bool
  failThreshold : Int
  breakerOpenShutdown : Int
  threshold : Int
  cooldown : Int
  unhealthyAction : UnhealthyAction
deriving Repr, DecidableEq

/-- The threshold of `NewPinger`. -/
def Config.pingThreshold (cfg : Config) : Int :=
  if cfg.failThreshold < 1 then 1 else cfg.failThreshold

/-- What `Post` returns to `Ping`. -/
inductive PostResult where
  | failed
  | status (code : Int)
deriving Repr, DecidableEq

/-- `Ping` returns nil. -/
def pingOk : PostResult → Bool
  | .failed => false
  | .status code => decide (200 ≤ code) && decide (code < 300)

/-- The process exits by itself, or a signal kills it. -/
inductive Ending where
  | exit (code : Int)
  | killed
deriving Repr, DecidableEq

/-- `pinging` and `watching` tell whether the goroutines run, `ran` counts the
calls of `onUnhealthy`.  The last five fields are histories: the outcomes of
the pings, the newest first, what the breaker recorded, whether a look at the
breaker found it open for too long, whether a signal came, and whether a
listener failed. -/
structure State where
  now : Int := 0
  breaker : CircuitBreaker
  monitor : HealthMonitor := {}
  streak : Int := 0
  pinging : Bool
  watching : Bool
  canceled : Bool := false
  unhealthyDueToBackend : Bool := false
  ran : Nat := 0
  ending : Option Ending := none
  pings : List Bool := []
  records : List Event := []
  overdue : Bool := false
  signaled : Bool := false
  listenerFailed : Bool := false
deriving Repr, DecidableEq

/-- The server once its goroutines are started. -/
def Config.start (cfg : Config) : State where
  breaker := { threshold := cfg.threshold, cooldown := cfg.cooldown }
  pinging := cfg.pingEnabled
  watching := decide (0 < cfg.breakerOpenShutdown)

/-- Both loops may still take a tick after the context is canceled. -/
inductive Label where
  | advance (elapsed : Nat)
  | record (success : Bool)
  | ping (result : PostResult)
  | watch
  | stopPinging
  | stopWatching
  | onUnhealthy
  | signal
  /-- `ListenAndServe` of one of the two listeners returns an error. -/
  | listenerFails
  | exit
deriving Repr, DecidableEq

/-- By the record of outcomes the breaker is open, and the last failure is as
long ago as it may be. -/
def OpenFor (cfg : Config) (records : List Event) (now : Int) : Prop :=
  cfg.threshold ≤ (streak records).length ∧
    ∃ last ∈ (streak records).getLast?,
      cfg.breakerOpenShutdown ≤ GoTime.sub now last

instance (cfg : Config) (records : List Event) (now : Int) :
    Decidable (OpenFor cfg records now) :=
  inferInstanceAs (Decidable (_ ∧ _))

/-- One turn of the loop of `Run`. -/
def pinged (cfg : Config) (s : State) (ok : Bool) : State :=
  if ok then { s with
    streak := 0, monitor := s.monitor.setHealthy, pings := true :: s.pings }
  else { s with
    streak := s.streak + 1
    monitor := if cfg.pingThreshold ≤ s.streak + 1 then
        s.monitor.setUnhealthy
      else s.monitor
    pings := false :: s.pings }

/-- The callback that `main` gives to the monitor.  With the action shutdown
it calls `stopSignals`, after which signals are no longer caught. -/
def notify (cfg : Config) (s : State) : State :=
  match cfg.unhealthyAction with
  | .shutdown => { s with
      ran := s.ran + 1, unhealthyDueToBackend := true, canceled := true }
  | .logOnly => { s with ran := s.ran + 1 }

def act (cfg : Config) (s : State) : Label → Option State
  | .advance elapsed => some { s with now := s.now + elapsed }
  | .record success => some { s with
      breaker := s.breaker.record success s.now
      records := s.records ++ [⟨success, s.now⟩] }
  | .ping result =>
    if s.pinging then some (pinged cfg s (pingOk result)) else none
  | .watch =>
    if s.watching then some { s with
      monitor := watchBreakerOpen s.breaker cfg.breakerOpenShutdown s.now
        s.monitor
      overdue := s.overdue || decide (OpenFor cfg s.records s.now) }
    else none
  | .stopPinging =>
    if s.canceled then some { s with pinging := false } else none
  | .stopWatching =>
    if s.canceled then some { s with watching := false } else none
  | .onUnhealthy =>
    if s.ran < s.monitor.notified then some (notify cfg s) else none
  | .signal =>
    if s.unhealthyDueToBackend then
      some { s with signaled := true, ending := some .killed }
    else some { s with signaled := true, canceled := true }
  | .listenerFails =>
    some { s with listenerFailed := true, ending := some (.exit 1) }
  | .exit =>
    if s.canceled then some { s with
      ending := some (.exit (if s.unhealthyDueToBackend then 1 else 0)) }
    else none

/-- Nothing happens after the process has ended. -/
def step (cfg : Config) (s : State) (label : Label) : Option State :=
  if s.ending.isSome then none else act cfg s label

/-- There is a reason to take the backend for ill: the threshold of failed
pings in a row, or a breaker that stayed open. -/
def Caused (cfg : Config) (s : State) : Prop :=
  List.replicate cfg.pingThreshold.toNat false <:+: s.pings ∨
    s.overdue = true

instance (cfg : Config) (s : State) : Decidable (Caused cfg s) :=
  inferInstanceAs (Decidable (_ ∨ _))

/-- The callback runs at most once, after a reason for it came up.  The
process exits with code 1 for that reason or for a failed listener, with code 0
after a signal only, and a signal kills it only while it shuts down for that
reason. -/
structure Reports (cfg : Config) (s : State) : Prop where
  once : s.ran ≤ 1
  fired : s.monitor.fired = true ↔ Caused cfg s
  healthy : s.monitor.healthy = false → Caused cfg s
  ran : 0 < s.ran → Caused cfg s
  exit : ∀ code, s.ending = some (.exit code) →
    (code = 1 ∧ (s.listenerFailed = true ∨
      cfg.unhealthyAction = .shutdown ∧ Caused cfg s)) ∨
      (code = 0 ∧ s.signaled = true)
  killed : s.ending = some .killed →
    s.signaled = true ∧ cfg.unhealthyAction = .shutdown ∧ Caused cfg s

/-! ### Failures in a row -/

/-- The failed pings since the last good one. -/
def failing (pings : List Bool) : Nat := (pings.takeWhile fun ok => !ok).length

theorem replicate_prefix_iff (n : Nat) (pings : List Bool) :
    List.replicate n false <+: pings ↔ n ≤ failing pings := by
  induction pings generalizing n with
  | nil =>
    cases n with
    | zero => simp [failing]
    | succ n => simp [failing, List.replicate_succ]
  | cons ok rest ih =>
    cases n with
    | zero => simp [failing]
    | succ n =>
      rw [List.replicate_succ, List.cons_prefix_cons, ih]
      cases ok with
      | true => simp [failing]
      | false => simp [failing]

theorem failing_false (pings : List Bool) :
    failing (false :: pings) = failing pings + 1 := by
  simp [failing]

theorem failing_true (pings : List Bool) : failing (true :: pings) = 0 := by
  simp [failing]

theorem one_le_pingThreshold (cfg : Config) : 1 ≤ cfg.pingThreshold := by
  unfold Config.pingThreshold
  split <;> omega

/-! ### Runs -/

structure Inv (cfg : Config) (s : State) : Prop where
  breaker : s.breaker = breakerAfter cfg.threshold cfg.cooldown s.records
  streak : s.streak = failing s.pings
  fired : s.monitor.fired = true ↔ Caused cfg s
  notified : s.monitor.notified = if s.monitor.fired then 1 else 0
  healthy : s.monitor.healthy = false → s.monitor.fired = true
  ran : s.ran ≤ s.monitor.notified
  due : s.unhealthyDueToBackend = true →
    cfg.unhealthyAction = .shutdown ∧ 0 < s.ran
  canceled : s.canceled = true →
    s.signaled = true ∨ s.unhealthyDueToBackend = true
  exit : ∀ code, s.ending = some (.exit code) →
    (code = 1 ∧ (s.listenerFailed = true ∨ s.unhealthyDueToBackend = true)) ∨
      (code = 0 ∧ s.signaled = true)
  killed : s.ending = some .killed →
    s.signaled = true ∧ s.unhealthyDueToBackend = true

/-- What the monitor has been told so far, apart from the rest of the
state. -/
structure Told (caused : Prop) (ran : Nat) (m : HealthMonitor) : Prop where
  fired : m.fired = true ↔ caused
  notified : m.notified = if m.fired then 1 else 0
  healthy : m.healthy = false → m.fired = true
  ran : ran ≤ m.notified

section Monitor

variable {caused caused' : Prop} {ran : Nat} {m : HealthMonitor}

theorem Told.congr (htold : Told caused ran m) (hsame : caused' ↔ caused) :
    Told caused' ran m :=
  ⟨htold.fired.trans hsame.symm, htold.notified, htold.healthy, htold.ran⟩

theorem Told.setHealthy (htold : Told caused ran m) :
    Told caused ran m.setHealthy :=
  ⟨htold.fired, htold.notified, fun hfalse => Bool.noConfusion hfalse,
    htold.ran⟩

theorem Told.setUnhealthy (htold : Told caused ran m) (hcaused : caused') :
    Told caused' ran m.setUnhealthy := by
  have hnotified : m.setUnhealthy.notified = 1 := by
    have hbefore := htold.notified
    simp only [HealthMonitor.setUnhealthy]
    split
    next hfired => rwa [if_pos hfired] at hbefore
    next hfired => rw [hbefore, if_neg hfired]
  refine ⟨iff_of_true rfl hcaused, hnotified, fun _ => rfl, ?_⟩
  have hle := htold.ran
  rw [hnotified]
  rw [htold.notified] at hle
  split at hle <;> omega

end Monitor

section Steps

variable {cfg : Config} {s next : State}

theorem Inv.told (hinv : Inv cfg s) : Told (Caused cfg s) s.ran s.monitor :=
  ⟨hinv.fired, hinv.notified, hinv.healthy, hinv.ran⟩

theorem inv_start (cfg : Config) : Inv cfg cfg.start where
  breaker := rfl
  streak := rfl
  fired := by
    refine iff_of_false Bool.false_ne_true ?_
    rintro (hpings | hoverdue)
    · have hlength := hpings.length_le
      have hpos := one_le_pingThreshold cfg
      rw [List.length_replicate] at hlength
      change cfg.pingThreshold.toNat ≤ 0 at hlength
      omega
    · cases hoverdue
  notified := rfl
  healthy hfalse := by cases hfalse
  ran := Nat.le_refl 0
  due hdue := by cases hdue
  canceled hcanceled := by cases hcanceled
  exit code hcode := by cases hcode
  killed hkilled := by cases hkilled

/-- One more ping. -/
theorem told_pinged (hinv : Inv cfg s) (ok : Bool) :
    Told (Caused cfg (pinged cfg s ok)) s.ran (pinged cfg s ok).monitor := by
  have hpos := one_le_pingThreshold cfg
  cases ok with
  | true =>
    have hinfix : List.replicate cfg.pingThreshold.toNat false <:+:
        true :: s.pings ↔
          List.replicate cfg.pingThreshold.toNat false <:+: s.pings := by
      rw [List.infix_cons_iff, replicate_prefix_iff, failing_true]
      exact or_iff_right (by omega)
    exact hinv.told.setHealthy.congr (or_congr hinfix Iff.rfl)
  | false =>
    have hsame : Caused cfg (pinged cfg s false) ↔
        cfg.pingThreshold ≤ s.streak + 1 ∨ Caused cfg s := by
      unfold Caused
      simp only [pinged, Bool.false_eq_true, if_false]
      rw [List.infix_cons_iff, replicate_prefix_iff, failing_false,
        hinv.streak, or_assoc]
      apply or_congr_left
      omega
    by_cases hreached : cfg.pingThreshold ≤ s.streak + 1
    · have hmonitor : (pinged cfg s false).monitor =
          s.monitor.setUnhealthy := if_pos hreached
      rw [hmonitor]
      exact hinv.told.setUnhealthy (hsame.mpr (.inl hreached))
    · have hmonitor : (pinged cfg s false).monitor = s.monitor :=
        if_neg hreached
      rw [hmonitor]
      exact hinv.told.congr (hsame.trans (or_iff_right hreached))

/-- One more look at the breaker. -/
theorem watch_eq (hpos : 1 ≤ cfg.threshold) (hinv : Inv cfg s) :
    watchBreakerOpen s.breaker cfg.breakerOpenShutdown s.now s.monitor =
      if OpenFor cfg s.records s.now then s.monitor.setUnhealthy
      else s.monitor := by
  have hsince := openSince_breakerAfter hpos cfg.cooldown s.records
  rw [← hinv.breaker] at hsince
  by_cases hopen : cfg.threshold ≤ (streak s.records).length
  · have hne : streak s.records ≠ [] := by
      intro hnil
      rw [hnil] at hopen
      change cfg.threshold ≤ 0 at hopen
      omega
    have hlast := List.getLast?_eq_some_getLast hne
    have hlong : OpenFor cfg s.records s.now ↔
        cfg.breakerOpenShutdown ≤
          GoTime.sub s.now ((streak s.records).getLast hne) := by
      simp [OpenFor, hopen, hlast]
    rw [if_pos hopen, hlast] at hsince
    simp only [watchBreakerOpen, hsince, hlong]
  · rw [if_neg hopen] at hsince
    have hnot : ¬ OpenFor cfg s.records s.now := fun hlong => hopen hlong.1
    rw [if_neg hnot]
    simp only [watchBreakerOpen, hsince]

theorem told_watch (hpos : 1 ≤ cfg.threshold) (hinv : Inv cfg s) :
    Told (List.replicate cfg.pingThreshold.toNat false <:+: s.pings ∨
        (s.overdue || decide (OpenFor cfg s.records s.now)) = true) s.ran
      (watchBreakerOpen s.breaker cfg.breakerOpenShutdown s.now
        s.monitor) := by
  rw [watch_eq hpos hinv]
  split
  next hopen =>
    apply hinv.told.setUnhealthy
    rw [decide_eq_true hopen, Bool.or_true]
    exact .inr rfl
  next hclosed =>
    rw [decide_eq_false hclosed, Bool.or_false]
    exact hinv.told

/-- The other parts of the state after a step that leaves them alone. -/
theorem Inv.of_told (hinv : Inv cfg s)
    (htold : Told (Caused cfg next) next.ran next.monitor)
    (hbreaker : next.breaker =
      breakerAfter cfg.threshold cfg.cooldown next.records)
    (hstreak : next.streak = failing next.pings)
    (hran : next.ran = s.ran)
    (hdue : next.unhealthyDueToBackend = s.unhealthyDueToBackend)
    (hcanceled : next.canceled = s.canceled)
    (hending : next.ending = s.ending)
    (hsignaled : next.signaled = s.signaled)
    (hlistener : next.listenerFailed = s.listenerFailed) :
    Inv cfg next where
  breaker := hbreaker
  streak := hstreak
  fired := htold.fired
  notified := htold.notified
  healthy := htold.healthy
  ran := htold.ran
  due := by
    rw [hdue, hran]
    exact hinv.due
  canceled := by
    rw [hcanceled, hsignaled, hdue]
    exact hinv.canceled
  exit := by
    rw [hending, hdue, hsignaled, hlistener]
    exact hinv.exit
  killed := by
    rw [hending, hdue, hsignaled]
    exact hinv.killed

theorem Inv.step (hpos : 1 ≤ cfg.threshold) (hinv : Inv cfg s)
    {label : Label} (hstep : step cfg s label = some next) : Inv cfg next := by
  unfold BackendHealth.step at hstep
  split at hstep
  · cases hstep
  next hended =>
  have hrunning : ∀ ending, s.ending ≠ some ending := by
    intro ending hsome
    rw [hsome] at hended
    exact hended rfl
  cases label with
  | advance elapsed =>
    cases hstep
    exact hinv.of_told hinv.told hinv.breaker hinv.streak rfl rfl
      rfl rfl rfl rfl
  | record success =>
    cases hstep
    refine hinv.of_told hinv.told ?_ hinv.streak rfl rfl rfl rfl rfl rfl
    rw [hinv.breaker, breakerAfter_append]
  | ping result =>
    simp only [act] at hstep
    split at hstep
    · cases hstep
      have htold := told_pinged hinv (pingOk result)
      cases hok : pingOk result with
      | true =>
        rw [hok] at htold
        exact hinv.of_told htold hinv.breaker
          (congrArg Int.ofNat (failing_true s.pings).symm) rfl rfl rfl
          rfl rfl rfl
      | false =>
        rw [hok] at htold
        refine hinv.of_told htold hinv.breaker ?_ rfl rfl rfl rfl
          rfl rfl
        change s.streak + 1 = failing (false :: s.pings)
        rw [failing_false, hinv.streak]
        rfl
    · cases hstep
  | watch =>
    simp only [act] at hstep
    split at hstep
    · cases hstep
      exact hinv.of_told (told_watch hpos hinv) hinv.breaker
        hinv.streak rfl rfl rfl rfl rfl rfl
    · cases hstep
  | stopPinging =>
    simp only [act] at hstep
    split at hstep
    · cases hstep
      exact hinv.of_told hinv.told hinv.breaker hinv.streak rfl rfl
        rfl rfl rfl rfl
    · cases hstep
  | stopWatching =>
    simp only [act] at hstep
    split at hstep
    · cases hstep
      exact hinv.of_told hinv.told hinv.breaker hinv.streak rfl rfl
        rfl rfl rfl rfl
    · cases hstep
  | onUnhealthy =>
    simp only [act] at hstep
    split at hstep
    next hleft =>
      cases hstep
      unfold notify
      split
      next haction =>
        exact { hinv with
          ran := hleft
          due := fun _ => ⟨haction, Nat.succ_pos _⟩
          canceled := fun _ => .inr rfl
          exit := fun _ hcode => absurd hcode (hrunning _)
          killed := fun hkilled => absurd hkilled (hrunning _) }
      next haction =>
        exact { hinv with
          ran := hleft
          due := fun hdue => ⟨(hinv.due hdue).1, Nat.succ_pos _⟩ }
    next => cases hstep
  | signal =>
    simp only [act] at hstep
    split at hstep
    next hdue =>
      cases hstep
      exact { hinv with
        canceled := fun _ => .inl rfl
        exit := fun _ hcode => by cases hcode
        killed := fun _ => ⟨rfl, hdue⟩ }
    next =>
      cases hstep
      exact { hinv with
        canceled := fun _ => .inl rfl
        exit := fun _ hcode => absurd hcode (hrunning _)
        killed := fun hkilled => absurd hkilled (hrunning _) }
  | listenerFails =>
    cases hstep
    exact { hinv with
      exit := fun code hcode => by
        cases hcode
        exact .inl ⟨rfl, .inl rfl⟩
      killed := fun hkilled => by cases hkilled }
  | exit =>
    simp only [act] at hstep
    split at hstep
    next hcanceled =>
      cases hstep
      refine { hinv with exit := ?_, killed := fun hkilled => ?_ }
      · intro code hcode
        cases hcode
        cases hdue : s.unhealthyDueToBackend with
        | true => exact .inl ⟨rfl, .inr rfl⟩
        | false =>
          refine .inr ⟨rfl, (hinv.canceled hcanceled).resolve_right ?_⟩
          rw [hdue]
          exact Bool.false_ne_true
      · cases hkilled
    next => cases hstep

end Steps

/-- However the pings, the looks at the breaker, the outcomes it records, the
signals and a failing listener are interleaved. -/
theorem reports_of_reach {cfg : Config} (hpos : 1 ≤ cfg.threshold)
    {s : State}
    (hreach : Reach (step cfg) Unguarded cfg.start s) :
    Reports cfg s := by
  have hinv : Inv cfg s := Reach.invariant (Inv cfg)
    (inv_start cfg) (fun _ _ _ hinv _ hstep => hinv.step hpos hstep) hreach
  have hnotified : s.monitor.notified ≤ 1 := by
    rw [hinv.notified]
    split <;> omega
  have hran : 0 < s.ran → Caused cfg s := by
    intro hran
    apply hinv.fired.mp
    by_contra hnot
    have hle := hinv.ran
    rw [hinv.notified, if_neg hnot] at hle
    omega
  have hdue : s.unhealthyDueToBackend = true →
      cfg.unhealthyAction = .shutdown ∧ Caused cfg s :=
    fun hdue => (hinv.due hdue).imp_right hran
  refine ⟨Nat.le_trans hinv.ran hnotified, hinv.fired, ?_, hran, ?_, ?_⟩
  · exact fun hfalse => hinv.fired.mp (hinv.healthy hfalse)
  · intro code hcode
    exact (hinv.exit code hcode).imp_left (.imp_right (.imp_right hdue))
  · intro hkilled
    exact (hinv.killed hkilled).imp_right hdue

/-- Two pings in a row fail and then one succeeds. -/
theorem reports_flappingBackend :
    let cfg : Config := {
      pingEnabled := true, failThreshold := 2, breakerOpenShutdown := 0
      threshold := 5, cooldown := 10, unhealthyAction := .shutdown }
    let s := final (step cfg) cfg.start
      [.ping .failed, .ping (.status 503), .ping (.status 204), .onUnhealthy,
        .exit]
    s.monitor.healthy = true ∧ s.ending = some (.exit 1) ∧
      Reports cfg s :=
  ⟨by decide +kernel, by decide +kernel, reports_of_reach (by decide)
    (reach_final (by decide +kernel) (by decide +kernel))⟩

end BackendHealth

end Pipewave
