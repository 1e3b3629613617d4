/-
The periodic cleanup of the deduplicator and of the heartbeat throttle.  The
two differ in their lifetime and in which answer means that the key was seen;
reading the clock, `Load`, `Store`, a visit of `Range` and `Delete` are steps
of their own.
-/
import Pipewave.History
import Pipewave.SessionThrottle
import Pipewave.Transition

namespace Pipewave

namespace ExpirySweep

open Transition
open SessionThrottle (Table)

/-- What `isDuplicate` and `shouldUpdate` return for a key that was, or was
not, let through within the lifetime. -/
def returns : Table → Bool → Bool
  | .deduplicator, seen => seen
  | .hbThrottle, seen => !seen

/-- A call has read the clock, or it has found its key free and is about to
store it. -/
inductive Stage where
  | started (now : Int)
  | free (now : Int)
deriving Repr, DecidableEq

/-- The reading of a call that has not loaded its key yet. -/
def Stage.unloaded : Stage → Option Int
  | .started now => some now
  | .free _ => none

/-- A run of `clearExpiredEntries`, with the key that it is about to
delete. -/
structure Cleaner where
  now : Int
  condemned : Option Bytes := none
deriving Repr, DecidableEq

structure Answer where
  key : Bytes
  /-- The call's reading of the clock. -/
  time : Int
  returned : Bool
deriving Repr, DecidableEq

/-- The calls under way, by key, and the answers so far, newest first. -/
structure State where
  now : Int
  entries : GoMap Bytes Int := ∅
  calls : GoMap Bytes Stage := ∅
  cleaners : List Cleaner := []
  log : List Answer := []

inductive Label where
  | advance (elapsed : Nat)
  /-- A call reads the clock. -/
  | call (key : Bytes)
  | load (key : Bytes)
  | store (key : Bytes)
  /-- A cleanup starts. -/
  | clear
  | visit (cleaner : Nat) (key : Bytes)
  | delete (cleaner : Nat)
deriving Repr, DecidableEq

def isFresh (ttl now : Int) (loaded : Option Int) : Bool :=
  loaded.any fun seenAt => decide (now - seenAt < ttl)

/-- A call for a key starts when no other one for it is under way. -/
def step (table : Table) (s : State) : Label → Option State
  | .advance elapsed => some { s with now := s.now + elapsed }
  | .call key =>
    match s.calls.lookup key with
    | some _ => none
    | none => some { s with calls := s.calls.insert key (.started s.now) }
  | .load key =>
    match s.calls.lookup key with
    | some (.started now) =>
      if isFresh table.ttl now (s.entries.lookup key) = true then
        some { s with
          calls := s.calls.erase key
          log := ⟨key, now, returns table true⟩ :: s.log }
      else some { s with calls := s.calls.insert key (.free now) }
    | _ => none
  | .store key =>
    match s.calls.lookup key with
    | some (.free now) => some { s with
        entries := s.entries.insert key now
        calls := s.calls.erase key
        log := ⟨key, now, returns table false⟩ :: s.log }
    | _ => none
  | .clear => some { s with cleaners := s.cleaners ++ [{ now := s.now }] }
  | .visit cleaner key =>
    match s.cleaners[cleaner]?, s.entries.lookup key with
    | some ⟨now, none⟩, some seenAt =>
      if table.ttl ≤ now - seenAt then some { s with
        cleaners := s.cleaners.set cleaner ⟨now, some key⟩ }
      else some s
    | _, _ => none
  | .delete cleaner =>
    match s.cleaners[cleaner]? with
    | some ⟨now, some key⟩ => some { s with
        entries := s.entries.erase key
        cleaners := s.cleaners.set cleaner ⟨now, none⟩ }
    | _ => none

/-! ### What a cleanup must not change -/

def Answer.accepted (table : Table) (answer : Answer) : Bool :=
  answer.returned == returns table false

def lastAccepted (table : Table) (key : Bytes) (log : List Answer) :
    Option Int :=
  (log.find? fun answer => answer.key = key ∧ answer.accepted table).map
    Answer.time

/-- The key was let through within the lifetime before the reading. -/
def SeenWithin (table : Table) (key : Bytes) (now : Int)
    (log : List Answer) : Prop :=
  ∃ last ∈ lastAccepted table key log, now - last < table.ttl

instance (table : Table) (key : Bytes) (now : Int) (log : List Answer) :
    Decidable (SeenWithin table key now log) :=
  inferInstanceAs (Decidable (∃ last ∈ _, _))

/-- Every answer is the one that the last accepted call asks for. -/
def ExactAnswers (table : Table) (log : List Answer) : Prop :=
  History.Always (fun answer earlier =>
    answer.returned = returns table true ↔
      SeenWithin table answer.key answer.time earlier) log

instance (table : Table) (log : List Answer) :
    Decidable (ExactAnswers table log) :=
  History.decidableAlways _ log

/-- What stands under the key at a `Delete` has expired by then, and also for
a call of the key that has read the clock and not loaded yet. -/
def DeletesExpired (table : Table) (s : State) : Label → Prop
  | .delete cleaner => ∀ run ∈ s.cleaners[cleaner]?, ∀ key ∈ run.condemned,
      ∀ seenAt ∈ s.entries.lookup key, table.ttl ≤ s.now - seenAt ∧
        ∀ now ∈ (s.calls.lookup key).bind Stage.unloaded,
          table.ttl ≤ now - seenAt
  | _ => True

instance (table : Table) (s : State) :
    ∀ label, Decidable (DeletesExpired table s label)
  | .delete cleaner => inferInstanceAs
      (Decidable (∀ run ∈ s.cleaners[cleaner]?, ∀ key ∈ run.condemned,
        ∀ seenAt ∈ s.entries.lookup key, table.ttl ≤ s.now - seenAt ∧
          ∀ now ∈ (s.calls.lookup key).bind Stage.unloaded,
            table.ttl ≤ now - seenAt))
  | .advance _ | .call _ | .load _ | .store _ | .clear | .visit _ _ =>
    .isTrue trivial

theorem accepted_returns (table : Table) (key : Bytes) (time : Int)
    (seen : Bool) :
    (Answer.mk key time (returns table seen)).accepted table = !seen := by
  cases table <;> cases seen <;> rfl

section LastAccepted

variable {table : Table} {key : Bytes} {time : Int} {log : List Answer}

theorem lastAccepted_cons_seen (other : Bytes) :
    lastAccepted table other (⟨key, time, returns table true⟩ :: log) =
      lastAccepted table other log := by
  rw [lastAccepted, List.find?_cons_of_neg]
  · rfl
  · rw [accepted_returns]
    simp

theorem lastAccepted_cons_self :
    lastAccepted table key (⟨key, time, returns table false⟩ :: log) =
      some time := by
  rw [lastAccepted, List.find?_cons_of_pos]
  · rfl
  · rw [accepted_returns]
    simp

theorem lastAccepted_cons_ne {other : Bytes} (hne : key ≠ other)
    (returned : Bool) :
    lastAccepted table other (⟨key, time, returned⟩ :: log) =
      lastAccepted table other log := by
  rw [lastAccepted, List.find?_cons_of_neg]
  · rfl
  · simp [hne]

end LastAccepted

/-- An entry is the last accepted call of its key.  A key without an entry has
expired for every call that may still load it, and a call about to store its
key was right to let it through. -/
structure Tracks (table : Table) (s : State) : Prop where
  stored : ∀ key seenAt, s.entries.lookup key = some seenAt →
    lastAccepted table key s.log = some seenAt
  expired : ∀ key last, lastAccepted table key s.log = some last →
    s.entries.lookup key = none → table.ttl ≤ s.now - last
  unloaded : ∀ key last, lastAccepted table key s.log = some last →
    s.entries.lookup key = none → ∀ now,
      s.calls.lookup key = some (.started now) → table.ttl ≤ now - last
  free : ∀ key now, s.calls.lookup key = some (.free now) →
    ¬ SeenWithin table key now s.log
  exact : ExactAnswers table s.log

section Steps

variable {table : Table} {s : State}

variable {key : Bytes} {now : Int}

/-- What a call that has not loaded yet finds is right. -/
theorem Tracks.isFresh_iff (htracks : Tracks table s)
    (hcall : s.calls.lookup key = some (.started now)) :
    isFresh table.ttl now (s.entries.lookup key) = true ↔
      SeenWithin table key now s.log := by
  cases hentry : s.entries.lookup key with
  | some seenAt =>
    rw [SeenWithin, htracks.stored key seenAt hentry]
    simp [isFresh]
  | none =>
    refine iff_of_false (by simp [isFresh]) ?_
    rintro ⟨last, hlast, hlt⟩
    have hexpired := htracks.unloaded key last hlast hentry now hcall
    omega

theorem Tracks.advance (htracks : Tracks table s) (elapsed : Nat) :
    Tracks table { s with now := s.now + elapsed } := by
  refine { htracks with expired := fun key last hlast hnone => ?_ }
  have hexpired := htracks.expired key last hlast hnone
  simp only
  omega

theorem Tracks.call (htracks : Tracks table s) (key : Bytes) :
    Tracks table { s with
      calls := s.calls.insert key (.started s.now) } := by
  refine { htracks with
    unloaded := fun other last hlast hnone now hcall => ?_
    free := fun other now hcall => ?_ }
  · obtain ⟨rfl, hstage⟩ | ⟨-, hold⟩ := GoMap.lookup_insert_some hcall
    · cases hstage
      exact htracks.expired other last hlast hnone
    · exact htracks.unloaded other last hlast hnone now hold
  · obtain ⟨-, hstage⟩ | ⟨-, hold⟩ := GoMap.lookup_insert_some hcall
    · cases hstage
    · exact htracks.free other now hold

theorem Tracks.load_seen (htracks : Tracks table s)
    (hcall : s.calls.lookup key = some (.started now))
    (hfresh : isFresh table.ttl now (s.entries.lookup key) = true) :
    Tracks table { s with
      calls := s.calls.erase key
      log := ⟨key, now, returns table true⟩ :: s.log } where
  stored := by
    simp only [lastAccepted_cons_seen]
    exact htracks.stored
  expired := by
    simp only [lastAccepted_cons_seen]
    exact htracks.expired
  unloaded := by
    simp only [lastAccepted_cons_seen]
    intro other last hlast hnone t hother
    exact htracks.unloaded other last hlast hnone t
      (GoMap.lookup_erase_some hother).2
  free := by
    simp only [SeenWithin, lastAccepted_cons_seen]
    intro other t hother
    exact htracks.free other t (GoMap.lookup_erase_some hother).2
  exact := ⟨iff_of_true rfl ((htracks.isFresh_iff hcall).mp hfresh),
    htracks.exact⟩

theorem Tracks.load_free (htracks : Tracks table s)
    (hcall : s.calls.lookup key = some (.started now))
    (hfresh : ¬ isFresh table.ttl now (s.entries.lookup key) = true) :
    Tracks table { s with calls := s.calls.insert key (.free now) } := by
  refine { htracks with
    unloaded := fun other last hlast hnone t hother => ?_
    free := fun other t hother => ?_ }
  · obtain ⟨-, hstage⟩ | ⟨-, hold⟩ := GoMap.lookup_insert_some hother
    · cases hstage
    · exact htracks.unloaded other last hlast hnone t hold
  · obtain ⟨rfl, hstage⟩ | ⟨-, hold⟩ := GoMap.lookup_insert_some hother
    · cases hstage
      exact fun hseen => hfresh ((htracks.isFresh_iff hcall).mpr hseen)
    · exact htracks.free other t hold

theorem Tracks.store (htracks : Tracks table s)
    (hcall : s.calls.lookup key = some (.free now)) :
    Tracks table { s with
      entries := s.entries.insert key now
      calls := s.calls.erase key
      log := ⟨key, now, returns table false⟩ :: s.log } where
  stored := by
    intro other seenAt hentry
    by_cases hsame : key = other
    · subst hsame
      rw [AList.lookup_insert] at hentry
      rw [lastAccepted_cons_self, hentry]
    · rw [AList.lookup_insert_ne (Ne.symm hsame)] at hentry
      rw [lastAccepted_cons_ne hsame]
      exact htracks.stored other seenAt hentry
  expired := by
    intro other last hlast hnone
    have hsame : key ≠ other := by
      rintro rfl
      simp at hnone
    rw [lastAccepted_cons_ne hsame] at hlast
    rw [AList.lookup_insert_ne (Ne.symm hsame)] at hnone
    exact htracks.expired other last hlast hnone
  unloaded := by
    intro other last hlast hnone t hother
    obtain ⟨hne, hother⟩ := GoMap.lookup_erase_some hother
    rw [lastAccepted_cons_ne (Ne.symm hne)] at hlast
    rw [AList.lookup_insert_ne hne] at hnone
    exact htracks.unloaded other last hlast hnone t hother
  free := by
    intro other t hother
    obtain ⟨hne, hother⟩ := GoMap.lookup_erase_some hother
    rw [SeenWithin, lastAccepted_cons_ne (Ne.symm hne)]
    exact htracks.free other t hother
  exact := by
    refine ⟨iff_of_false ?_ (htracks.free key now hcall), htracks.exact⟩
    cases table <;> simp [returns]

/-- A key whose entry is deleted has expired for every call that may still
load it. -/
theorem Tracks.delete (htracks : Tracks table s) {cleaner : Nat}
    {run : Cleaner} (hrun : s.cleaners[cleaner]? = some run)
    (hcondemned : run.condemned = some key)
    (hguard : DeletesExpired table s (.delete cleaner))
    (cleaners : List Cleaner) :
    Tracks table { s with entries := s.entries.erase key, cleaners } := by
  have hlost : ∀ other last, lastAccepted table other s.log = some last →
      (s.entries.erase key).lookup other = none →
      s.entries.lookup other = none ∨
        (other = key ∧ s.entries.lookup key = some last) := by
    intro other last hlast hnone
    cases hentry : s.entries.lookup other with
    | none => exact .inl rfl
    | some seenAt =>
      have hsame : other = key := by
        by_contra hne
        rw [AList.lookup_erase_ne hne, hentry] at hnone
        cases hnone
      have hstored := htracks.stored other seenAt hentry
      rw [hlast] at hstored
      cases hstored
      exact .inr ⟨hsame, hsame ▸ hentry⟩
  refine { htracks with
    stored := fun other seenAt hentry => ?_
    expired := fun other last hlast hnone => ?_
    unloaded := fun other last hlast hnone now hcall => ?_ }
  · exact htracks.stored other seenAt (GoMap.lookup_erase_some hentry).2
  · obtain hold | ⟨rfl, hentry⟩ := hlost other last hlast hnone
    · exact htracks.expired other last hlast hold
    · exact (hguard run hrun other hcondemned last hentry).1
  · obtain hold | ⟨rfl, hentry⟩ := hlost other last hlast hnone
    · exact htracks.unloaded other last hlast hold now hcall
    · apply (hguard run hrun other hcondemned last hentry).2
      rw [hcall]
      rfl

theorem tracks_step {next : State} {label : Label}
    (hguard : DeletesExpired table s label) (htracks : Tracks table s)
    (hstep : step table s label = some next) : Tracks table next := by
  cases label with
  | advance elapsed =>
    cases hstep
    exact htracks.advance elapsed
  | call key =>
    simp only [step] at hstep
    split at hstep
    · cases hstep
    · cases hstep
      exact htracks.call key
  | load key =>
    simp only [step] at hstep
    split at hstep
    next now hcall =>
      split at hstep
      next hfresh =>
        cases hstep
        exact htracks.load_seen hcall hfresh
      next hfresh =>
        cases hstep
        exact htracks.load_free hcall hfresh
    · cases hstep
  | store key =>
    simp only [step] at hstep
    split at hstep
    next now hcall =>
      cases hstep
      exact htracks.store hcall
    · cases hstep
  | clear =>
    cases hstep
    exact { htracks with }
  | visit cleaner key =>
    simp only [step] at hstep
    split at hstep
    · split at hstep
      · cases hstep
        exact { htracks with }
      · cases hstep
        exact htracks
    · cases hstep
  | delete cleaner =>
    simp only [step] at hstep
    split at hstep
    next now key hrun =>
      cases hstep
      exact htracks.delete hrun rfl hguard _
    · cases hstep

end Steps

theorem tracks_start (table : Table) (now : Int) : Tracks table { now } where
  stored := by simp
  expired := by simp [lastAccepted]
  unloaded := by simp
  free := by simp
  exact := trivial

/-- As long as the cleanup deletes nothing but what has expired for every call
that may still load it, the answers are as if it never ran. -/
theorem exactAnswers_of_deletesExpired {table : Table} {start : Int}
    {s : State} (hreach : Reach (step table)
      (DeletesExpired table) { now := start } s) :
    ExactAnswers table s.log := by
  have htracks : Tracks table s := hreach.invariant (Tracks table)
    (tracks_start table start)
    fun _ _ _ htracks hguard hstep => tracks_step hguard htracks hstep
  exact htracks.exact

/-- A call that runs alone. -/
def calls (key : Bytes) : List Label := [.call key, .load key, .store key]

/-- A key is let through, swept after its lifetime, and let through again; a
second cleanup finds it fresh, and the next call is turned away. -/
def sweptInTime (table : Table) : List Label :=
  calls [7] ++ [.advance table.ttl.toNat, .clear, .visit 0 [7], .delete 0] ++
    calls [7] ++ [.clear, .visit 1 [7], .advance 1, .call [7], .load [7]]

theorem exactAnswers_sweptInTime :
    let s := final (step .deduplicator) { now := 0 }
      (sweptInTime .deduplicator)
    s.log.map Answer.returned = [true, false, false] ∧
      ExactAnswers .deduplicator s.log :=
  ⟨by decide +kernel, exactAnswers_of_deletesExpired
    (reach_final (by decide +kernel) (by decide +kernel))⟩

/-- The key is let through again between the visit and the deletion. -/
def sweptLate (table : Table) : List Label :=
  calls [7] ++ [.advance table.ttl.toNat, .clear, .visit 0 [7]] ++
    calls [7] ++ [.delete 0, .advance 1] ++ calls [7]

/-- One nanosecond after a call that was let through the next one is, too. -/
theorem sweptLate_forgets :
    let dedup := final (step .deduplicator) { now := 0 }
      (sweptLate .deduplicator)
    let throttle := final (step .hbThrottle) { now := 0 }
      (sweptLate .hbThrottle)
    (Reach (step .deduplicator) Unguarded { now := 0 } dedup ∧
      dedup.log = [⟨[7], 120000000001, false⟩, ⟨[7], 120000000000, false⟩,
        ⟨[7], 0, false⟩] ∧
      ¬ ExactAnswers .deduplicator dedup.log) ∧
    (Reach (step .hbThrottle) Unguarded { now := 0 } throttle ∧
      throttle.log = [⟨[7], 10000000001, true⟩, ⟨[7], 10000000000, true⟩,
        ⟨[7], 0, true⟩] ∧
      ¬ ExactAnswers .hbThrottle throttle.log) :=
  ⟨⟨reach_final (by decide +kernel) (by decide +kernel),
      by decide +kernel, by decide +kernel⟩,
    ⟨reach_final (by decide +kernel) (by decide +kernel),
      by decide +kernel, by decide +kernel⟩⟩

end ExpirySweep

end Pipewave
