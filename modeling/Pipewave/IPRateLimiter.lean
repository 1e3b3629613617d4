/-
The throttle per client IP in front of `/issue-tmp-token`.  Entries that were
not seen for a while are deleted whenever a call leaves a multiple of 256
entries; the next call of such an IP gets a limiter that is full.
-/
import Pipewave.GoMap
import Pipewave.LengthPrefix
import Pipewave.Mealy
import Pipewave.RateLimiter
import Pipewave.TokenBucket

namespace Pipewave

namespace IPRateLimiter

open TokenBucket (Params Bucket levelAt)

/-- In nanoseconds, as all times and durations. -/
def second : Int := 1000000000

def ipLimiterEntryTTL : Int := 10 * 60 * second

structure IPLimiterEntry where
  limiter : Bucket
  lastSeen : Int
deriving Repr, DecidableEq

abbrev Limiters := GoMap Bytes IPLimiterEntry

/-- The fields that do not change. -/
structure Limits where
  rateVal : Int
  burst : Int
deriving Repr, DecidableEq

def newIPRateLimiter (r burst : Int) : Limits := ⟨r, burst⟩

/-- A bucket counts in billionths of a token, of which `rateVal` arrive every
nanosecond. -/
def Limits.params (l : Limits) : Params :=
  ⟨l.rateVal, l.burst * second, second⟩

/-- The entry of the IP, made if there is none, and seen now. -/
def Limits.entry (l : Limits) (limiters : Limiters) (now : Int)
    (ip : Bytes) : IPLimiterEntry :=
  match limiters.lookup ip with
  | some entry => { entry with lastSeen := now }
  | none => ⟨TokenBucket.full l.params now, now⟩

def expired (now : Int) (entry : IPLimiterEntry) : Bool :=
  decide (ipLimiterEntryTTL < now - entry.lastSeen)

def cleanup (now : Int) (limiters : Limiters) : Limiters :=
  if limiters.keys.length % 256 = 0 then
    limiters.deleteWhere fun _ => expired now
  else limiters

/-- `Allow` with a given cleanup.  The entry at hand has just been seen, so
the limiter is updated in the map. -/
def Limits.allowWith (l : Limits) (clean : Limiters → Limiters)
    (limiters : Limiters) (now : Int) (ip : Bytes) : Limiters × Bool :=
  let entry := l.entry limiters now ip
  let limiters := clean (limiters.insert ip entry)
  let taken := TokenBucket.take l.params entry.limiter now
  (limiters.insert ip { entry with limiter := taken.1 }, taken.2)

def Limits.allow (l : Limits) (limiters : Limiters) (now : Int)
    (ip : Bytes) : Limiters × Bool :=
  l.allowWith (cleanup now) limiters now ip

/-- As `Allow` would be if entries were never evicted. -/
def Limits.allowKept (l : Limits) (limiters : Limiters) (now : Int)
    (ip : Bytes) : Limiters × Bool :=
  l.allowWith id limiters now ip

/-! ### Sequences of calls -/

/-- A call, and the time since the one before it. -/
structure Call where
  elapsed : Nat
  ip : Bytes
deriving Repr, DecidableEq

structure State where
  now : Int
  limiters : Limiters := ∅
deriving DecidableEq

def serve (allow : Limiters → Int → Bytes → Limiters × Bool) :
    Mealy.Machine State Call Bool :=
  fun s call =>
    let now := s.now + call.elapsed
    let result := allow s.limiters now call.ip
    (⟨now, result.1⟩, result.2)

/-- Evicting entries is not seen from outside. -/
def Limits.SameAnswers (l : Limits) : Prop :=
  ∀ start calls, Mealy.outputs (serve l.allow) { now := start } calls =
    Mealy.outputs (serve l.allowKept) { now := start } calls

/-! ### What an IP may still use -/

/-- The level of the IP's bucket; without an entry it is a full one. -/
def Limits.credit (l : Limits) (limiters : Limiters) (now : Int)
    (ip : Bytes) : Int :=
  match limiters.lookup ip with
  | some entry => levelAt l.params entry.limiter now
  | none => l.params.capacity

/-- What a call takes off the credit. -/
def charge (credit : Int) : Int := if second ≤ credit then second else 0

section Credit

variable {l : Limits} {limiters : Limiters} {now : Int} {ip other : Bytes}

theorem credit_insert_self (entry : IPLimiterEntry) :
    l.credit (limiters.insert ip entry) now ip =
      levelAt l.params entry.limiter now := by
  rw [Limits.credit, AList.lookup_insert]

theorem credit_insert_ne (hne : other ≠ ip) (entry : IPLimiterEntry) :
    l.credit (limiters.insert ip entry) now other =
      l.credit limiters now other := by
  rw [Limits.credit, AList.lookup_insert_ne hne, Limits.credit]

theorem credit_entry : levelAt l.params (l.entry limiters now ip).limiter now =
    l.credit limiters now ip := by
  rw [Limits.entry, Limits.credit]
  split
  · rfl
  · exact TokenBucket.levelAt_full _ _

theorem lastSeen_entry : (l.entry limiters now ip).lastSeen = now := by
  rw [Limits.entry]
  split <;> rfl

/-- Finding or making the entry changes nobody's credit. -/
theorem credit_seen (other : Bytes) :
    l.credit (limiters.insert ip (l.entry limiters now ip)) now other =
      l.credit limiters now other := by
  by_cases hsame : other = ip
  · rw [hsame, credit_insert_self, credit_entry]
  · exact credit_insert_ne hsame _

/-- The answer, by the caller's credit. -/
theorem snd_allowWith (clean : Limiters → Limiters) :
    (l.allowWith clean limiters now ip).2 =
      decide (second ≤ l.credit limiters now ip) := by
  rw [Limits.allowWith, TokenBucket.snd_take, credit_entry]
  rfl

/-- The caller is charged, whatever the cleanup does. -/
theorem credit_allowWith_self (clean : Limiters → Limiters) :
    l.credit (l.allowWith clean limiters now ip).1 now ip =
      l.credit limiters now ip - charge (l.credit limiters now ip) := by
  have hcost : 0 ≤ l.params.cost := (by decide : 0 ≤ second)
  rw [Limits.allowWith, credit_insert_self,
    TokenBucket.levelAt_take hcost, credit_entry]
  rfl

/-- For everybody else, a call does what its cleanup does. -/
theorem credit_allowWith_ne (clean : Limiters → Limiters)
    (hne : other ≠ ip) :
    l.credit (l.allowWith clean limiters now ip).1 now other =
      l.credit (clean (limiters.insert ip (l.entry limiters now ip))) now
        other := by
  rw [Limits.allowWith, credit_insert_ne hne]

/-- Credit fills up with time. -/
theorem credit_add (hrate : 0 ≤ l.rateVal) (elapsed : Nat) :
    l.credit limiters (now + elapsed) ip =
      min l.params.capacity
        (l.credit limiters now ip + l.rateVal * elapsed) := by
  rw [Limits.credit, Limits.credit]
  split
  · exact TokenBucket.levelAt_add hrate _ _ _
  · have hfilled : 0 ≤ l.rateVal * elapsed :=
      Int.mul_nonneg hrate (Int.natCast_nonneg _)
    omega

end Credit

/-! ### Long lifetimes -/

/-- A limiter was used when its entry was last seen. -/
structure Sound (now : Int) (entry : IPLimiterEntry) : Prop where
  updated : entry.limiter.updated = entry.lastSeen
  seen : entry.lastSeen ≤ now
  nonneg : 0 ≤ entry.limiter.level

def AllSound (limiters : Limiters) (now : Int) : Prop :=
  ∀ ip entry, limiters.lookup ip = some entry → Sound now entry

section Lifetimes

variable {l : Limits} {limiters : Limiters} {now : Int} {ip other : Bytes}

theorem AllSound.later (hsound : AllSound limiters now) (elapsed : Nat) :
    AllSound limiters (now + elapsed) := by
  intro ip entry hlookup
  obtain ⟨hupdated, hseen, hnonneg⟩ := hsound ip entry hlookup
  exact ⟨hupdated, by omega, hnonneg⟩

/-- A cleanup only deletes, and only what has expired. -/
theorem lookup_cleanup (now : Int) (limiters : Limiters) (ip : Bytes) :
    (cleanup now limiters).lookup ip = limiters.lookup ip ∨
      ((cleanup now limiters).lookup ip = none ∧
        ∃ entry, limiters.lookup ip = some entry ∧
          expired now entry = true) := by
  rw [cleanup]
  split
  · rw [GoMap.lookup_deleteWhere]
    cases hlookup : limiters.lookup ip with
    | none => exact .inl rfl
    | some entry =>
      cases hexpired : expired now entry with
      | false =>
        rw [Option.filter_some, hexpired]
        exact .inl rfl
      | true =>
        rw [Option.filter_some, hexpired]
        exact .inr ⟨rfl, entry, rfl, hexpired⟩
  · exact .inl rfl

/-- If buckets fill up within the lifetime of an entry, an expired entry is
worth as much as none. -/
theorem credit_cleanup (hrate : 0 ≤ l.rateVal)
    (hfull : l.params.capacity ≤ l.rateVal * (ipLimiterEntryTTL + 1))
    (hsound : ∀ entry, limiters.lookup ip = some entry → Sound now entry) :
    l.credit (cleanup now limiters) now ip = l.credit limiters now ip := by
  obtain hsame | ⟨hnone, entry, hlookup, hexpired⟩ :=
    lookup_cleanup now limiters ip
  · rw [Limits.credit, hsame, Limits.credit]
  · have hentry := hsound entry hlookup
    have hidle : ipLimiterEntryTTL + 1 ≤ now - entry.limiter.updated := by
      rw [hentry.updated]
      exact Int.add_one_le_of_lt (of_decide_eq_true hexpired)
    simp only [Limits.credit, hnone, hlookup]
    exact (TokenBucket.levelAt_of_idle hrate hentry.nonneg hidle hfull).symm

theorem allSound_allow (hrate : 0 ≤ l.rateVal) (hburst : 0 ≤ l.burst)
    (hsound : AllSound limiters now) :
    AllSound (l.allow limiters now ip).1 now := by
  intro other entry hlookup
  obtain ⟨rfl, rfl⟩ | ⟨hne, hlookup⟩ := GoMap.lookup_insert_some hlookup
  · refine ⟨?_, Int.le_of_eq lastSeen_entry, ?_⟩
    · rw [TokenBucket.updated_take, lastSeen_entry]
    have hcapacity : 0 ≤ l.params.capacity :=
      Int.mul_nonneg hburst (by decide)
    rw [Limits.entry]
    split
    next old hold =>
      have hentry := hsound other old hold
      exact TokenBucket.level_take_nonneg hrate hcapacity hentry.nonneg
        (hentry.updated ▸ hentry.seen)
    · exact TokenBucket.level_take_nonneg hrate hcapacity hcapacity
        (Int.le_refl _)
  · obtain hsame | ⟨hnone, -⟩ := lookup_cleanup now
      (limiters.insert ip (l.entry limiters now ip)) other
    · rw [hsame, AList.lookup_insert_ne hne] at hlookup
      exact hsound other entry hlookup
    · rw [hnone] at hlookup
      cases hlookup

/-- The two limiters are at the same time and give every IP the same
credit. -/
structure Agree (l : Limits) (s t : State) : Prop where
  now : s.now = t.now
  credit : ∀ ip, l.credit s.limiters s.now ip = l.credit t.limiters t.now ip
  sound : AllSound s.limiters s.now

theorem Agree.later (hrate : 0 ≤ l.rateVal) {s t : State}
    (hagree : Agree l s t) (elapsed : Nat) (ip : Bytes) :
    l.credit s.limiters (s.now + elapsed) ip =
      l.credit t.limiters (t.now + elapsed) ip := by
  rw [credit_add hrate, credit_add hrate, hagree.credit]

theorem Agree.serve (hrate : 0 ≤ l.rateVal) (hburst : 0 ≤ l.burst)
    (hfull : l.params.capacity ≤ l.rateVal * (ipLimiterEntryTTL + 1))
    {s t : State} (hagree : Agree l s t) (call : Call) :
    Agree l (serve l.allow s call).1 (serve l.allowKept t call).1 := by
  have hsound := hagree.sound.later call.elapsed
  have hlater := hagree.later hrate call.elapsed
  refine ⟨congrArg (· + (call.elapsed : Int)) hagree.now, fun ip => ?_,
    allSound_allow hrate hburst hsound⟩
  simp only [IPRateLimiter.serve, Limits.allow, Limits.allowKept]
  by_cases hsame : ip = call.ip
  · rw [hsame, credit_allowWith_self, credit_allowWith_self, hlater]
  · rw [credit_allowWith_ne _ hsame, credit_allowWith_ne _ hsame,
      credit_cleanup hrate hfull, credit_seen, id_eq, credit_seen, hlater]
    intro entry hlookup
    rw [AList.lookup_insert_ne hsame] at hlookup
    exact hsound ip entry hlookup

theorem sameAnswers_of_full (hrate : 0 ≤ l.rateVal) (hburst : 0 ≤ l.burst)
    (hfull : l.params.capacity ≤ l.rateVal * (ipLimiterEntryTTL + 1)) :
    l.SameAnswers := by
  intro start calls
  refine Mealy.outputs_eq (Agree l)
    (fun s t call hagree => hagree.serve hrate hburst hfull call)
    (fun s t call hagree => ?_) ⟨rfl, fun _ => rfl, ?_⟩ calls
  · simp only [IPRateLimiter.serve, Limits.allow, Limits.allowKept,
      snd_allowWith, hagree.later hrate]
  · intro ip entry hlookup
    cases hlookup

end Lifetimes

/-! ### Short lifetimes -/

/-- What the two ways of serving a call have in common. -/
structure Charges (l : Limits)
    (allow : Limiters → Int → Bytes → Limiters × Bool) : Prop where
  answer : ∀ limiters now ip, (allow limiters now ip).2 =
    decide (second ≤ l.credit limiters now ip)
  charged : ∀ limiters now ip, l.credit (allow limiters now ip).1 now ip =
    l.credit limiters now ip - charge (l.credit limiters now ip)

theorem charges_allow (l : Limits) : Charges l l.allow :=
  ⟨fun _ _ _ => snd_allowWith _, fun _ _ _ => credit_allowWith_self _⟩

theorem charges_allowKept (l : Limits) : Charges l l.allowKept :=
  ⟨fun _ _ _ => snd_allowWith _, fun _ _ _ => credit_allowWith_self _⟩

/-- Calls of one IP at one instant. -/
def atOnce (ip : Bytes) (n : Nat) : List Call := List.replicate n ⟨0, ip⟩

section AtOnce

variable {l : Limits} {allow : Limiters → Int → Bytes → Limiters × Bool}
  {ip : Bytes}

theorem serve_zero (s : State) (ip : Bytes) : serve allow s ⟨0, ip⟩ =
    (⟨s.now, (allow s.limiters s.now ip).1⟩,
      (allow s.limiters s.now ip).2) := by
  simp only [serve, Int.natCast_zero, Int.add_zero]

theorem succ_mul_second (n : Nat) :
    ((n + 1 : Nat) : Int) * second = n * second + second := by
  rw [Int.natCast_succ, Int.add_mul, Int.one_mul]

theorem atOnce_succ (ip : Bytes) (n : Nat) :
    atOnce ip (n + 1) = ⟨0, ip⟩ :: atOnce ip n := rfl

theorem now_after {calls : List Call} (hnow : ∀ call ∈ calls,
    call.elapsed = 0) (s : State) :
    (Mealy.after (serve allow) s calls).now = s.now := by
  induction calls generalizing s with
  | nil => rfl
  | cons call rest ih =>
    rw [Mealy.after, ih fun other h => hnow other (List.mem_cons_of_mem _ h)]
    simp only [serve, hnow call List.mem_cons_self, Int.natCast_zero,
      Int.add_zero]

/-- A granted call costs one token. -/
theorem Charges.granted (hcharges : Charges l allow) {limiters : Limiters}
    {now : Int} (hle : second ≤ l.credit limiters now ip) :
    (allow limiters now ip).2 = true ∧
      l.credit (allow limiters now ip).1 now ip =
        l.credit limiters now ip - second := by
  rw [hcharges.answer, hcharges.charged, charge, if_pos hle]
  exact ⟨decide_eq_true hle, rfl⟩

/-- As many calls are allowed at once as the credit covers. -/
theorem atOnce_of_le (hcharges : Charges l allow) {n : Nat} {s : State}
    (hle : n * second ≤ l.credit s.limiters s.now ip) :
    Mealy.outputs (serve allow) s (atOnce ip n) = List.replicate n true ∧
      l.credit (Mealy.after (serve allow) s (atOnce ip n)).limiters s.now ip =
        l.credit s.limiters s.now ip - n * second := by
  induction n generalizing s with
  | zero =>
    refine ⟨rfl, ?_⟩
    simp [Mealy.after, atOnce]
  | succ n ih =>
    have hrest : 0 ≤ (n : Int) * second :=
      Int.mul_nonneg (Int.natCast_nonneg _) (by decide)
    rw [succ_mul_second] at hle
    have hfirst : second ≤ l.credit s.limiters s.now ip := by omega
    obtain ⟨hanswer, hcredit⟩ := hcharges.granted hfirst
    have hnext := @ih ⟨s.now, (allow s.limiters s.now ip).1⟩ (by
      simp only [hcredit]
      omega)
    rw [atOnce_succ, Mealy.outputs, Mealy.after, serve_zero, hanswer,
      hnext.1, hnext.2, hcredit, succ_mul_second]
    exact ⟨rfl, by omega⟩

/-- If so many calls are allowed at once, the credit covers them. -/
theorem le_of_atOnce (hcharges : Charges l allow) {n : Nat} {s : State}
    (hnonneg : 0 ≤ l.credit s.limiters s.now ip)
    (hall : Mealy.outputs (serve allow) s (atOnce ip n) =
      List.replicate n true) :
    n * second ≤ l.credit s.limiters s.now ip := by
  induction n generalizing s with
  | zero => simpa using hnonneg
  | succ n ih =>
    rw [atOnce_succ, Mealy.outputs, serve_zero, List.replicate_succ,
      List.cons.injEq] at hall
    obtain ⟨hanswer, hall⟩ := hall
    have hle : second ≤ l.credit s.limiters s.now ip := by
      simp only [hcharges.answer] at hanswer
      exact of_decide_eq_true hanswer
    have hcredit := (hcharges.granted hle).2
    have hrest := ih (by simp only [hcredit]; omega) hall
    simp only [hcredit] at hrest
    rw [succ_mul_second]
    omega

end AtOnce

/-! A crowd of 255 other IPs makes room by deleting the first one. -/

def firstIP : Bytes := [0]
def lastIP : Bytes := [255]

def crowdIPs : List Bytes :=
  (List.range 254).map fun i => [UInt8.ofNat (i + 1)]

/-- The first IP uses up its burst, as many others call as the map takes
without a cleanup, and the last one comes when all of these have expired. -/
def crowded (burst : Nat) : List Call :=
  atOnce firstIP burst ++ crowdIPs.map (fun ip => ⟨0, ip⟩) ++
    [⟨(ipLimiterEntryTTL + 1).toNat, lastIP⟩]

theorem natCast_ttl : (((ipLimiterEntryTTL + 1).toNat : Nat) : Int) =
    ipLimiterEntryTTL + 1 := by decide

theorem nodup_crowdIPs : crowdIPs.Nodup := by
  refine List.Nodup.map_on (fun i hi j hj hsame => ?_) List.nodup_range
  rw [List.mem_range] at hi hj
  have hbyte := congrArg UInt8.toNat (List.cons.inj hsame).1
  rw [UInt8.toNat_ofNat', UInt8.toNat_ofNat'] at hbyte
  omega

section Crowd

variable {l : Limits} {limiters : Limiters} {now : Int} {ip other : Bytes}

/-- The number of entries at the cleanup of a call. -/
def Limits.crowd (l : Limits) (limiters : Limiters) (now : Int)
    (ip : Bytes) : Nat :=
  (limiters.insert ip (l.entry limiters now ip)).keys.length

theorem lookup_allow_self (l : Limits) (limiters : Limiters) (now : Int)
    (ip : Bytes) :
    ∃ entry, (l.allow limiters now ip).1.lookup ip = some entry ∧
      entry.lastSeen = now :=
  ⟨_, AList.lookup_insert _, lastSeen_entry⟩

/-- A call without a cleanup adds its IP and nothing else. -/
theorem allow_of_uncleaned (hcrowd : l.crowd limiters now ip % 256 ≠ 0) :
    (l.allow limiters now ip).1.keys.length = l.crowd limiters now ip ∧
      (∀ other, other ∈ (l.allow limiters now ip).1 →
        other = ip ∨ other ∈ limiters) ∧
      ∀ other, other ≠ ip →
        (l.allow limiters now ip).1.lookup other = limiters.lookup other := by
  have hkept : cleanup now (limiters.insert ip (l.entry limiters now ip)) =
      limiters.insert ip (l.entry limiters now ip) := if_neg hcrowd
  rw [Limits.allow, Limits.allowWith, hkept]
  refine ⟨?_, fun other hother => ?_, fun other hne => ?_⟩
  · rw [GoMap.length_keys_insert, if_pos]
    · rfl
    · exact (AList.mem_insert _).mpr (.inl rfl)
  · rw [AList.mem_insert, AList.mem_insert] at hother
    tauto
  · rw [AList.lookup_insert_ne hne, AList.lookup_insert_ne hne]

/-- The call that fills the map deletes what has expired. -/
theorem lookup_allow_expired (hcrowd : l.crowd limiters now ip % 256 = 0)
    (hne : other ≠ ip) {entry : IPLimiterEntry}
    (hlookup : limiters.lookup other = some entry)
    (hexpired : ipLimiterEntryTTL < now - entry.lastSeen) :
    (l.allow limiters now ip).1.lookup other = none := by
  have hcleaned :
      cleanup now (limiters.insert ip (l.entry limiters now ip)) =
        GoMap.deleteWhere (fun _ => expired now)
          (limiters.insert ip (l.entry limiters now ip)) := if_pos hcrowd
  rw [Limits.allow, Limits.allowWith, AList.lookup_insert_ne hne, hcleaned,
    GoMap.lookup_deleteWhere, AList.lookup_insert_ne hne, hlookup,
    Option.filter_some, expired, decide_eq_true hexpired]
  rfl

/-- The map holds the first IP and the given others, the first one since
`start`. -/
structure Filled (start : Int) (others : List Bytes) (s : State) : Prop where
  now : s.now = start
  size : s.limiters.keys.length = others.length + 1
  ips : ∀ ip ∈ s.limiters, ip = firstIP ∨ ip ∈ others
  first : ∃ entry, s.limiters.lookup firstIP = some entry ∧
    entry.lastSeen = start

variable {start : Int} {others : List Bytes} {s : State}

theorem filled_first : Filled start []
    (serve l.allow { now := start } ⟨0, firstIP⟩).1 := by
  have hcrowd : l.crowd ∅ start firstIP = 1 := by
    rw [Limits.crowd, GoMap.length_keys_insert]
    rfl
  have huncleaned : l.crowd ∅ start firstIP % 256 ≠ 0 := by
    rw [hcrowd]
    decide
  obtain ⟨hsize, hips, -⟩ := allow_of_uncleaned huncleaned
  rw [serve_zero]
  refine ⟨rfl, hsize.trans hcrowd, fun ip hmem => ?_,
    lookup_allow_self _ _ _ _⟩
  obtain hfirst | hnone := hips ip hmem
  · exact .inl hfirst
  · exact absurd hnone (AList.notMem_empty ip)

theorem Filled.again (hfilled : Filled start others s)
    (hfew : others.length < 255) :
    Filled start others (serve l.allow s ⟨0, firstIP⟩).1 := by
  obtain ⟨entry, hfirst, -⟩ := hfilled.first
  have hmem : firstIP ∈ s.limiters := by
    rw [← AList.lookup_isSome, hfirst]
    rfl
  have hcrowd : l.crowd s.limiters s.now firstIP = others.length + 1 := by
    rw [Limits.crowd, GoMap.length_keys_insert, if_pos hmem, hfilled.size]
  have huncleaned : l.crowd s.limiters s.now firstIP % 256 ≠ 0 := by omega
  obtain ⟨hsize, hips, -⟩ := allow_of_uncleaned huncleaned
  rw [serve_zero]
  refine ⟨hfilled.now, hsize.trans hcrowd, fun ip hip => ?_, ?_⟩
  · obtain rfl | hold := hips ip hip
    · exact .inl rfl
    · exact hfilled.ips ip hold
  · obtain ⟨entry, hlookup, hseen⟩ :=
      lookup_allow_self l s.limiters s.now firstIP
    exact ⟨entry, hlookup, hseen.trans hfilled.now⟩

theorem Filled.notMem (hfilled : Filled start others s) (hne : ip ≠ firstIP)
    (hnew : ip ∉ others) : ip ∉ s.limiters := by
  intro hmem
  obtain hfirst | hold := hfilled.ips ip hmem
  · exact hne hfirst
  · exact hnew hold

theorem Filled.add (hfilled : Filled start others s)
    (hfew : others.length < 254) (hne : ip ≠ firstIP) (hnew : ip ∉ others) :
    Filled start (ip :: others) (serve l.allow s ⟨0, ip⟩).1 := by
  have hmem := hfilled.notMem hne hnew
  have hcrowd : l.crowd s.limiters s.now ip = others.length + 2 := by
    rw [Limits.crowd, GoMap.length_keys_insert, if_neg hmem, hfilled.size]
  have huncleaned : l.crowd s.limiters s.now ip % 256 ≠ 0 := by omega
  obtain ⟨hsize, hips, hothers⟩ := allow_of_uncleaned huncleaned
  rw [serve_zero]
  refine ⟨hfilled.now, hsize.trans hcrowd, fun other hother => ?_, ?_⟩
  · obtain rfl | hold := hips other hother
    · exact .inr List.mem_cons_self
    · exact (hfilled.ips other hold).imp_right (List.mem_cons_of_mem _)
  · obtain ⟨entry, hlookup, hseen⟩ := hfilled.first
    exact ⟨entry, by rw [hothers firstIP hne.symm, hlookup], hseen⟩

theorem filled_atOnce (n : Nat) : Filled start [] (Mealy.after
    (serve l.allow) { now := start } (atOnce firstIP (n + 1))) := by
  have hagain : ∀ n s, Filled start [] s →
      Filled start [] (Mealy.after (serve l.allow) s (atOnce firstIP n)) := by
    intro n
    induction n with
    | zero => exact fun s hfilled => hfilled
    | succ n ih =>
      intro s hfilled
      exact ih _ (hfilled.again (by decide))
  exact hagain n _ filled_first

theorem Filled.addAll {ips : List Bytes} (hfilled : Filled start others s)
    (hfew : ips.length + others.length ≤ 254) (hnodup : ips.Nodup)
    (hfirst : firstIP ∉ ips) (hnew : ∀ ip ∈ ips, ip ∉ others) :
    Filled start (ips.reverse ++ others)
      (Mealy.after (serve l.allow) s (ips.map fun ip => ⟨0, ip⟩)) := by
  induction ips generalizing s others with
  | nil => exact hfilled
  | cons ip rest ih =>
    obtain ⟨hip, hrest⟩ := List.nodup_cons.mp hnodup
    rw [List.mem_cons, not_or] at hfirst
    rw [List.length_cons] at hfew
    have hadded := hfilled.add (l := l) (by omega) (Ne.symm hfirst.1)
      (hnew ip List.mem_cons_self)
    rw [List.map_cons, Mealy.after, List.reverse_cons, List.append_assoc,
      List.singleton_append]
    refine ih hadded ?_ hrest hfirst.2 fun other hother => ?_
    · rw [List.length_cons]
      omega
    · rw [List.mem_cons, not_or]
      refine ⟨?_, hnew other (List.mem_cons_of_mem _ hother)⟩
      rintro rfl
      exact hip hother

/-- The 256th entry comes when the first one has expired. -/
theorem Filled.evicted (hfilled : Filled start others s)
    (hfull : others.length = 254) (hne : ip ≠ firstIP) (hnew : ip ∉ others) :
    (serve l.allow s ⟨(ipLimiterEntryTTL + 1).toNat,
      ip⟩).1.limiters.lookup firstIP = none := by
  obtain ⟨entry, hlookup, hseen⟩ := hfilled.first
  have hmem := hfilled.notMem hne hnew
  refine lookup_allow_expired ?_ hne.symm hlookup ?_
  · rw [Limits.crowd, GoMap.length_keys_insert, if_neg hmem, hfilled.size,
      hfull]
  · simp only [natCast_ttl, hfilled.now, hseen]
    omega

/-- In the end the first IP has no entry. -/
theorem lookup_crowded (l : Limits) (start : Int) (n : Nat) :
    (Mealy.after (serve l.allow) { now := start }
      (crowded (n + 1))).limiters.lookup firstIP = none := by
  have hfilled : Filled start (crowdIPs.reverse ++ [])
      (Mealy.after (serve l.allow) (Mealy.after (serve l.allow)
        { now := start } (atOnce firstIP (n + 1)))
          (crowdIPs.map fun ip => ⟨0, ip⟩)) :=
    (filled_atOnce n).addAll (by decide +kernel) nodup_crowdIPs
      (by decide +kernel) (by simp)
  rw [crowded, Mealy.after_append, Mealy.after_append]
  exact hfilled.evicted (by decide +kernel) (by decide) (by decide +kernel)

end Crowd

section Kept

variable {l : Limits} {s : State}

/-- Without a cleanup nobody's credit changes by another IP's call. -/
theorem credit_allowKept_ne {limiters : Limiters} {now : Int}
    {ip other : Bytes} (hne : other ≠ ip) :
    l.credit (l.allowKept limiters now ip).1 now other =
      l.credit limiters now other := by
  rw [Limits.allowKept, credit_allowWith_ne _ hne, id_eq, credit_seen]

theorem credit_others {ips : List Bytes} {ip : Bytes} (hne : ip ∉ ips) :
    l.credit (Mealy.after (serve l.allowKept) s
      (ips.map fun ip => ⟨0, ip⟩)).limiters s.now ip =
        l.credit s.limiters s.now ip := by
  induction ips generalizing s with
  | nil => rfl
  | cons other rest ih =>
    rw [List.mem_cons, not_or] at hne
    rw [List.map_cons, Mealy.after, serve_zero]
    exact (ih hne.2).trans (credit_allowKept_ne hne.1)

theorem drained_atOnce (start : Int) {n : Nat} (hburst : l.burst = n) :
    let s := Mealy.after (serve l.allowKept) { now := start }
      (atOnce firstIP n)
    s.now = start ∧ l.credit s.limiters s.now firstIP = 0 := by
  have hcapacity : n * second = l.credit ∅ start firstIP := by
    rw [← hburst]
    rfl
  have hnow : (Mealy.after (serve l.allowKept) { now := start }
      (atOnce firstIP n)).now = start := by
    apply now_after
    intro call hcall
    rw [List.eq_of_mem_replicate hcall]
  have hdrained := (atOnce_of_le (charges_allowKept l) (s := ⟨start, ∅⟩)
    (Int.le_of_eq hcapacity)).2
  simp only [hnow, hdrained]
  exact ⟨trivial, by omega⟩

theorem credit_wait (hrate : 0 ≤ l.rateVal)
    (hshort : l.rateVal * (ipLimiterEntryTTL + 1) < l.params.capacity)
    (hdrained : l.credit s.limiters s.now firstIP = 0) :
    let t := (serve l.allowKept s
      ⟨(ipLimiterEntryTTL + 1).toNat, lastIP⟩).1
    l.credit t.limiters t.now firstIP =
      l.rateVal * (ipLimiterEntryTTL + 1) := by
  have hne : firstIP ≠ lastIP := by decide
  simp only [serve, credit_allowKept_ne hne]
  rw [credit_add hrate, hdrained, natCast_ttl]
  omega

/-- In the end the first IP has what came in since it used up its burst. -/
theorem credit_crowded (hrate : 0 ≤ l.rateVal) (start : Int) {n : Nat}
    (hburst : l.burst = n)
    (hshort : l.rateVal * (ipLimiterEntryTTL + 1) < l.params.capacity) :
    let s := Mealy.after (serve l.allowKept) { now := start } (crowded n)
    l.credit s.limiters s.now firstIP =
      l.rateVal * (ipLimiterEntryTTL + 1) := by
  simp only [crowded, Mealy.after_append]
  apply credit_wait hrate hshort
  rw [now_after (by simp), credit_others (by decide +kernel)]
  exact (drained_atOnce start hburst).2

end Kept

/-- Without its entry the first IP has its whole burst at once. -/
theorem burst_again (l : Limits) (start : Int) {n : Nat}
    (hburst : l.burst = (n + 1 : Nat)) :
    Mealy.outputs (serve l.allow)
        (Mealy.after (serve l.allow) { now := start } (crowded (n + 1)))
        (atOnce firstIP (n + 1)) = List.replicate (n + 1) true := by
  refine (atOnce_of_le (charges_allow l) (Int.le_of_eq ?_)).1
  rw [Limits.credit, lookup_crowded, ← hburst]
  rfl

/-- If buckets do not fill up within the lifetime of an entry, an IP that is
evicted gets more than it should. -/
theorem crowded_differs {l : Limits} (hrate : 0 ≤ l.rateVal) {n : Nat}
    (hburst : l.burst = (n + 1 : Nat))
    (hshort : l.rateVal * (ipLimiterEntryTTL + 1) < l.params.capacity)
    (start : Int) :
    Mealy.outputs (serve l.allow) { now := start }
        (crowded (n + 1) ++ atOnce firstIP (n + 1)) ≠
      Mealy.outputs (serve l.allowKept) { now := start }
        (crowded (n + 1) ++ atOnce firstIP (n + 1)) := by
  intro hsame
  rw [Mealy.outputs_append, Mealy.outputs_append] at hsame
  have htail := (List.append_inj hsame (by
    rw [Mealy.length_outputs, Mealy.length_outputs])).2
  rw [burst_again l start hburst] at htail
  have hcredit := credit_crowded hrate start hburst hshort
  have hfilled : 0 ≤ l.rateVal * (ipLimiterEntryTTL + 1) :=
    Int.mul_nonneg hrate (by decide)
  have hle := le_of_atOnce (charges_allowKept l) (by
    simp only at hcredit
    omega) htail.symm
  simp only at hcredit
  have hcapacity : l.params.capacity = (n + 1 : Nat) * second := by
    rw [← hburst]
    rfl
  omega

/-! ### The accepted configurations -/

theorem checkPair_eq_ok {name : String} {rate burst : Int}
    (hok : RateLimiter.checkPair name rate burst = .ok ()) :
    0 < rate ∧ rate ≤ burst := by
  rw [RateLimiter.checkPair] at hok
  split at hok
  · cases hok
  next hrate =>
    split at hok
    · cases hok
    next hburst => exact ⟨Int.not_le.mp hrate, Int.not_lt.mp hburst⟩

theorem issueToken_of_validate {cfg : RateLimiter.RateLimiterT}
    (hvalid : cfg.validate = .ok ()) : 0 < cfg.issueTokenIPRate ∧
      cfg.issueTokenIPRate ≤ cfg.issueTokenIPBurst := by
  simp only [RateLimiter.RateLimiterT.validate, bind, Except.bind] at hvalid
  split at hvalid
  · cases hvalid
  · split at hvalid
    · cases hvalid
    · split at hvalid
      · cases hvalid
      · exact checkPair_eq_ok hvalid

/-- For an accepted configuration, evicting entries is not seen from outside
exactly if a bucket fills up from empty within the lifetime of an entry. -/
theorem sameAnswers_iff {cfg : RateLimiter.RateLimiterT}
    (hvalid : cfg.validate = .ok ()) :
    (newIPRateLimiter cfg.issueTokenIPRate
        cfg.issueTokenIPBurst).SameAnswers ↔
      cfg.issueTokenIPBurst * second ≤
        cfg.issueTokenIPRate * (ipLimiterEntryTTL + 1) := by
  obtain ⟨hrate, hburst⟩ := issueToken_of_validate hvalid
  constructor
  · intro hsame
    by_contra hshort
    obtain ⟨n, hn⟩ : ∃ n : Nat, cfg.issueTokenIPBurst = (n + 1 : Nat) :=
      ⟨(cfg.issueTokenIPBurst - 1).toNat, by omega⟩
    exact crowded_differs (l := ⟨_, _⟩) (Int.le_of_lt hrate) hn
      (Int.not_le.mp hshort) 0 (hsame 0 _)
  · intro hfull
    exact sameAnswers_of_full (Int.le_of_lt hrate) (by
      simp only [newIPRateLimiter]
      omega) hfull

theorem sameAnswers_defaults : (newIPRateLimiter 5 20).SameAnswers :=
  (sameAnswers_iff (rfl : RateLimiter.defaultConfig.validate = .ok ())).mpr
    (by decide)

/-- One token a second with a burst of 601. -/
def largeBurst : RateLimiter.RateLimiterT :=
  { RateLimiter.defaultConfig with
    issueTokenIPRate := 1, issueTokenIPBurst := 601 }

/-- Ten minutes and a nanosecond after its burst the first IP is allowed 601
calls again, one more than came in since. -/
theorem evicted_bursts_again :
    largeBurst.validate = .ok () ∧
      let l := newIPRateLimiter 1 601
      let calls := crowded 601 ++ atOnce firstIP 601
      Mealy.outputs (serve l.allow)
          (Mealy.after (serve l.allow) { now := 0 } (crowded 601))
          (atOnce firstIP 601) = List.replicate 601 true ∧
        Mealy.outputs (serve l.allow) { now := 0 } calls ≠
          Mealy.outputs (serve l.allowKept) { now := 0 } calls :=
  ⟨rfl, burst_again _ 0 rfl, crowded_differs (by decide) rfl (by decide) 0⟩

end IPRateLimiter

end Pipewave
