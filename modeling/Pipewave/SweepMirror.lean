/-
The two models of the deduplicator and the heartbeat throttle.  Where nothing
comes between the steps of a check or of a deletion, each of the maps that all
sessions share keeps and answers what the machine of its cleanup does.
-/
import Pipewave.ExpirySweep

namespace Pipewave

namespace ExpirySweep

open SessionThrottle (Call Slot Table View serve)
open Transition

/-- What is done with the shared maps at once: a check, the start of a sweep,
or its look at a key with the deletion. -/
inductive Use where
  | advance (elapsed : Nat)
  | check (call : Call)
  | sweep (table : Table)
  | visit (slot : Slot)

def Use.labels : Use → List SessionThrottle.Label
  | .advance elapsed => [.advance elapsed]
  | .check call => [.load call, .store call]
  | .sweep table => [.sweepStart table]
  | .visit slot => [.sweepLook slot, .sweepDelete slot]

/-- What one of the maps answers. -/
def Use.answer (table : Table) (t : SessionThrottle.State) :
    Use → List Answer
  | .check call =>
    match call.slot with
    | none => []
    | some slot =>
      if slot.1 = table then [⟨slot.2, t.now,
        returns table ((serve t (.load call)).2 = some .stopped)⟩]
      else []
  | _ => []

/-- The answers to a list of uses, newest first. -/
def answers (table : Table) : SessionThrottle.State → List Use → List Answer
  | _, [] => []
  | t, use :: rest =>
    answers table (Mealy.after serve t use.labels) rest ++
      use.answer table t

/-- One of the maps between two uses. -/
structure Mirrors (table : Table) (t : SessionThrottle.State) (s : State) :
    Prop where
  now : s.now = t.now
  entries : ∀ key, s.entries.lookup key = t.entries.lookup (table, key)
  storing : ∀ (call : Call) key, call.slot = some (table, key) →
    t.storing.lookup call = none
  idle : s.calls = ∅
  condemned : ∀ key, t.condemned.lookup (table, key) = none
  sweep : ∃ cleaner : Nat,
    s.cleaners[cleaner]? = some ⟨t.sweepNow table, none⟩

/-- Some steps of the machine do what a use of the shared maps does. -/
def Follows (table : Table) (s : State) (t : SessionThrottle.State)
    (answer : List Answer) : Prop :=
  ∃ next, Reach (step table) Unguarded s next ∧ Mirrors table t next ∧
    next.log = answer ++ s.log

variable {table : Table} {t t' : SessionThrottle.State} {s : State}
  {call : Call} {key : Bytes}

theorem slot_ne_slot {key' : Bytes} (hne : key' ≠ key) :
    (table, key') ≠ (table, key) :=
  fun heq => hne (congrArg Prod.snd heq)

section Checks

variable (hidle : s.calls = ∅)

include hidle

theorem step_call (key : Bytes) : step table s (.call key) = some { s with
    calls := s.calls.insert key (.started s.now) } := by
  simp only [step, hidle, AList.lookup_empty]

theorem erase_insert_calls (key : Bytes) (stage : Stage) :
    (s.calls.insert key stage).erase key = s.calls := by
  rw [hidle]
  exact AList.ext (List.kerase_cons_eq rfl)

/-- The machine's check of a key that is fresh, uninterrupted. -/
theorem reach_stopped
    (hfresh : isFresh table.ttl s.now (s.entries.lookup key) = true) :
    Reach (step table) Unguarded s
      { s with log := ⟨key, s.now, returns table true⟩ :: s.log } := by
  have hstop : step table { s with
      calls := s.calls.insert key (.started s.now) } (.load key) =
        some { s with log := ⟨key, s.now, returns table true⟩ :: s.log } := by
    simp only [step, AList.lookup_insert, hfresh, if_true,
      erase_insert_calls hidle]
  exact .tail (.tail .refl trivial (step_call hidle key)) trivial hstop

/-- The machine's check of a key that is not, uninterrupted. -/
theorem reach_stored
    (hfresh : ¬ isFresh table.ttl s.now (s.entries.lookup key) = true) :
    Reach (step table) Unguarded s { s with
      entries := s.entries.insert key s.now
      log := ⟨key, s.now, returns table false⟩ :: s.log } := by
  have hfree : step table { s with
      calls := s.calls.insert key (.started s.now) } (.load key) =
        some { s with calls := s.calls.insert key (.free s.now) } := by
    simp only [step, AList.lookup_insert, hfresh, AList.insert_insert]
    rfl
  have hstore : step table { s with
      calls := s.calls.insert key (.free s.now) } (.store key) =
        some { s with
          entries := s.entries.insert key s.now
          log := ⟨key, s.now, returns table false⟩ :: s.log } := by
    simp only [step, AList.lookup_insert, erase_insert_calls hidle]
  exact .tail (.tail (.tail .refl trivial (step_call hidle key)) trivial
    hfree) trivial hstore

end Checks

section Uses

variable (hmirrors : Mirrors table t s)

include hmirrors

/-- A use that changes nothing of the map. -/
theorem Mirrors.follows_view
    (hview : View (fun slot => slot.1 = table) t t') :
    Follows table s t' [] := by
  refine ⟨s, .refl, ?_, rfl⟩
  obtain ⟨cleaner, hrun⟩ := hmirrors.sweep
  exact {
    now := hmirrors.now.trans hview.now
    entries := fun key => (hmirrors.entries key).trans (hview.entries _ rfl)
    storing := fun call key hslot =>
      (hview.storing call _ hslot rfl).symm.trans
        (hmirrors.storing call key hslot)
    idle := hmirrors.idle
    condemned := fun key =>
      (hview.condemned _ rfl).symm.trans (hmirrors.condemned key)
    sweep := ⟨cleaner, hview.sweepNow ▸ hrun⟩ }

/-- The check finds what the machine's own would. -/
theorem Mirrors.load_eq (hslot : call.slot = some (table, key)) :
    SessionThrottle.load t call (table, key) =
      if isFresh table.ttl s.now (s.entries.lookup key) = true then
        (t, some .stopped)
      else ({ t with storing := t.storing.insert call t.now }, none) := by
  rw [SessionThrottle.load, hmirrors.storing call key hslot,
    hmirrors.entries, hmirrors.now]
  cases t.entries.lookup (table, key) with
  | none => rfl
  | some seenAt => simp [isFresh]

/-- A check that is free has stored its time in both. -/
theorem Mirrors.stored (call : Call) (key : Bytes) (log : List Answer) :
    Mirrors table { t with
        entries := t.entries.insert (table, key) t.now
        storing := (t.storing.insert call t.now).erase call }
      { s with entries := s.entries.insert key s.now, log } := by
  refine { hmirrors with entries := ?_, storing := ?_ }
  · intro key'
    by_cases hsame : key' = key
    · rw [hsame, AList.lookup_insert, AList.lookup_insert, hmirrors.now]
    · rw [AList.lookup_insert_ne hsame,
        AList.lookup_insert_ne (slot_ne_slot hsame), hmirrors.entries]
  · intro other key' hother
    by_cases hsame : other = call
    · rw [hsame, AList.lookup_erase]
    · rw [AList.lookup_erase_ne hsame, AList.lookup_insert_ne hsame]
      exact hmirrors.storing other key' hother

theorem Mirrors.follows_check (hslot : call.slot = some (table, key)) :
    Follows table s (Mealy.after serve t (Use.check call).labels)
      ((Use.check call).answer table t) := by
  have hquiet := hmirrors.storing call key hslot
  have hload := hmirrors.load_eq hslot
  by_cases hfresh : isFresh table.ttl s.now (s.entries.lookup key) = true
  · rw [if_pos hfresh] at hload
    refine ⟨_, reach_stopped hmirrors.idle hfresh, ?_, ?_⟩
    · have hafter : Mealy.after serve t (Use.check call).labels = t := by
        simp [Mealy.after, Use.labels, serve, hslot, hload,
          SessionThrottle.store, hquiet]
      rw [hafter]
      exact { hmirrors with }
    · simp [Use.answer, hslot, serve, hload, hmirrors.now]
  · rw [if_neg hfresh] at hload
    refine ⟨_, reach_stored hmirrors.idle hfresh, ?_, ?_⟩
    · have hafter : Mealy.after serve t (Use.check call).labels = { t with
          entries := t.entries.insert (table, key) t.now
          storing := (t.storing.insert call t.now).erase call } := by
        simp [Mealy.after, Use.labels, serve, hslot, hload,
          SessionThrottle.store]
      rw [hafter]
      exact hmirrors.stored call key _
    · simp [Use.answer, hslot, serve, hload, hmirrors.now]

theorem Mirrors.follows_visit :
    Follows table s
      (Mealy.after serve t (Use.visit (table, key)).labels) [] := by
  obtain ⟨cleaner, hrun⟩ := hmirrors.sweep
  have hentry := hmirrors.entries key
  simp only [Use.labels, Mealy.after, serve]
  by_cases hold : ∃ seenAt ∈ t.entries.lookup (table, key),
      table.ttl ≤ t.sweepNow table - seenAt
  · obtain ⟨seenAt, hlookup, hold⟩ := hold
    rw [hlookup] at hentry
    have hvisit : step table s (.visit cleaner key) = some { s with
        cleaners := s.cleaners.set cleaner
          ⟨t.sweepNow table, some key⟩ } := by
      simp only [step, hrun, hentry, if_pos hold]
    have hlt := (List.getElem?_eq_some_iff.mp hrun).1
    have hdelete : step table { s with
        cleaners := s.cleaners.set cleaner ⟨t.sweepNow table, some key⟩ }
          (.delete cleaner) = some { s with
        entries := s.entries.erase key
        cleaners := s.cleaners.set cleaner ⟨t.sweepNow table, none⟩ } := by
      simp only [step, List.getElem?_set_self hlt, List.set_set]
    refine ⟨_, .tail (.tail .refl trivial hvisit) trivial hdelete, ?_, rfl⟩
    have hafter : SessionThrottle.sweepDelete
        (SessionThrottle.sweepLook t (table, key)) (table, key) = { t with
          entries := t.entries.erase (table, key)
          condemned :=
            (t.condemned.insert (table, key) ()).erase (table, key) } := by
      rw [SessionThrottle.sweepLook, hlookup]
      simp [hold, SessionThrottle.sweepDelete]
    rw [hafter]
    refine { hmirrors with entries := ?_, condemned := ?_, sweep := ?_ }
    · intro key'
      by_cases hsame : key' = key
      · rw [hsame, AList.lookup_erase, AList.lookup_erase]
      · rw [AList.lookup_erase_ne hsame,
          AList.lookup_erase_ne (slot_ne_slot hsame), hmirrors.entries]
    · intro key'
      by_cases hsame : key' = key
      · rw [hsame, AList.lookup_erase]
      · rw [AList.lookup_erase_ne (slot_ne_slot hsame),
          AList.lookup_insert_ne (slot_ne_slot hsame), hmirrors.condemned]
    · exact ⟨cleaner, List.getElem?_set_self hlt⟩
  · have hkept : SessionThrottle.sweepLook t (table, key) = t := by
      rw [SessionThrottle.sweepLook]
      split
      · rfl
      next seenAt hlookup =>
        exact if_neg fun h => hold ⟨seenAt, hlookup, h⟩
    rw [hkept, SessionThrottle.sweepDelete, hmirrors.condemned]
    exact hmirrors.follows_view (View.refl _ t)

theorem Mirrors.follows_sweep :
    Follows table s { t with
      sweepNow := Function.update t.sweepNow table t.now } [] := by
  refine ⟨_, .tail .refl trivial (show step table s .clear = _ from rfl),
    { hmirrors with sweep := ⟨s.cleaners.length, ?_⟩ }, rfl⟩
  simp only [Function.update_self, ← hmirrors.now]
  exact List.getElem?_concat_length

theorem Mirrors.follows_use (use : Use) :
    Follows table s (Mealy.after serve t use.labels)
      (use.answer table t) := by
  cases use with
  | advance elapsed =>
    exact ⟨_, .tail .refl trivial
      (show step table s (.advance elapsed) = _ from rfl),
      { hmirrors with now := congrArg (· + (elapsed : Int)) hmirrors.now },
      rfl⟩
  | check call =>
    cases hslot : call.slot with
    | none =>
      simp only [Use.labels, Mealy.after, serve, Use.answer, hslot]
      exact hmirrors.follows_view (View.refl _ t)
    | some slot =>
      by_cases htable : slot.1 = table
      · obtain ⟨_, key⟩ := slot
        subst htable
        exact hmirrors.follows_check hslot
      · simp only [Use.labels, Mealy.after, serve, Use.answer, hslot,
          if_neg htable]
        exact hmirrors.follows_view
          ((SessionThrottle.view_load hslot htable).trans
            (SessionThrottle.view_store hslot htable))
  | sweep started =>
    by_cases htable : started = table
    · subst htable
      exact hmirrors.follows_sweep
    · refine ⟨s, .refl, { hmirrors with sweep := ?_ }, rfl⟩
      simp only [Use.labels, Mealy.after, serve,
        Function.update_of_ne (Ne.symm htable)]
      exact hmirrors.sweep
  | visit slot =>
    by_cases htable : slot.1 = table
    · obtain ⟨_, key⟩ := slot
      subst htable
      exact hmirrors.follows_visit
    · exact hmirrors.follows_view
        ((SessionThrottle.view_sweepLook htable).trans
          (SessionThrottle.view_sweepDelete htable))

end Uses

/-- A run of the shared maps in which no use is interrupted is, for each of
them, a run of its machine with the same answers. -/
theorem Mirrors.follows_uses (hmirrors : Mirrors table t s)
    (uses : List Use) :
    Follows table s (Mealy.after serve t (uses.flatMap Use.labels))
      (answers table t uses) := by
  induction uses generalizing t s with
  | nil => exact hmirrors.follows_view (View.refl _ t)
  | cons use rest ih =>
    obtain ⟨middle, hfirst, hmiddle, hlog⟩ := hmirrors.follows_use use
    obtain ⟨next, hlater, hnext, hlog'⟩ := ih hmiddle
    rw [List.flatMap_cons, Mealy.after_append]
    refine ⟨next, hfirst.trans hlater, hnext, ?_⟩
    rw [hlog', hlog, answers, List.append_assoc]

/-- From the first use on, with a sweep that starts before it. -/
theorem mirrors_of_uses (table : Table) (uses : List Use) :
    Follows table { now := 0 }
      (Mealy.after serve {} (uses.flatMap Use.labels))
      (answers table {} uses) := by
  have hclear : step table { now := 0 } .clear =
      some { now := 0, cleaners := [{ now := 0 }] } := rfl
  have hstart : Mirrors table {} { now := 0, cleaners := [{ now := 0 }] } :=
    { now := rfl
      entries := fun _ => rfl
      storing := fun _ _ _ => rfl
      idle := rfl
      condemned := fun _ => rfl
      sweep := ⟨0, rfl⟩ }
  obtain ⟨next, hreach, hnext⟩ := hstart.follows_uses uses
  exact ⟨next, hreach.head trivial hclear, hnext⟩

end ExpirySweep

end Pipewave
