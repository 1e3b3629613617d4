/-
The table of buffered messages and the two hub operations on it.  A message is
stamped before it is committed and a drain deletes by the largest stamp it
read, so stamps and commits may disagree about what came first.
-/
import Mathlib.Data.List.Sort
import Pipewave.Auth
import Pipewave.Transition

namespace Pipewave

open Transition

/-- A row of `pending_messages`; the first two columns are its key. -/
structure PendingMessage where
  sessionKey : Bytes
  sendAt : Int
  message : Bytes
  expiresAt : Int
deriving Repr, DecidableEq

/-- The user, a colon and the instance. -/
def sessionKey (auth : WebsocketAuth) : Bytes :=
  auth.userID ++ [0x3A] ++ auth.instanceID

abbrev PendingTable := List PendingMessage

namespace PendingTable

/-- `Create`: a second row under the same key is dropped silently. -/
def create (table : PendingTable) (row : PendingMessage) : PendingTable :=
  if table.any fun old =>
      old.sessionKey = row.sessionKey ∧ old.sendAt = row.sendAt then table
  else row :: table

/-- The rows of a session in ascending `send_at` order. -/
def ofSession (table : PendingTable) (key : Bytes) : List PendingMessage :=
  (table.filter fun row => row.sessionKey = key).insertionSort
    fun a b => a.sendAt ≤ b.sendAt

/-- The `send_at` of the last row read, zero if there is none. -/
def maxSendAt (rows : List PendingMessage) : Int :=
  (rows.getLast?.map PendingMessage.sendAt).getD 0

def deleteUpTo (table : PendingTable) (key : Bytes) (maxSendAt : Int) :
    PendingTable :=
  table.filter fun row => ¬ (row.sessionKey = key ∧ row.sendAt ≤ maxSendAt)

def deleteAll (table : PendingTable) (key : Bytes) : PendingTable :=
  table.filter fun row => row.sessionKey ≠ key

variable {table : PendingTable} {row : PendingMessage}

@[simp] theorem mem_ofSession {key : Bytes} :
    row ∈ table.ofSession key ↔ row ∈ table ∧ row.sessionKey = key := by
  simp [ofSession]

@[simp] theorem mem_deleteUpTo {key : Bytes} {bound : Int} :
    row ∈ table.deleteUpTo key bound ↔
      row ∈ table ∧ ¬ (row.sessionKey = key ∧ row.sendAt ≤ bound) := by
  rw [deleteUpTo, List.mem_filter, decide_eq_true_eq]

theorem mem_create {table : PendingTable} {row new : PendingMessage}
    (hfresh : ∀ old ∈ table, old.sendAt ≠ new.sendAt) :
    row ∈ table.create new ↔ row = new ∨ row ∈ table := by
  have hnone : ¬ (table.any fun old =>
      old.sessionKey = new.sessionKey ∧ old.sendAt = new.sendAt) := by
    simp only [List.any_eq_true, decide_eq_true_eq, not_exists, not_and]
    exact fun old hold _ => hfresh old hold
  rw [create, if_neg hnone, List.mem_cons]

end PendingTable

namespace Buffer

/-- A `Consume` between its read and its delete. -/
structure Draining where
  key : Bytes
  maxSendAt : Int
deriving Repr, DecidableEq

/-- The table with the calls in progress.  `stamps`, `committed` and
`returned` are histories that no step reads back except for fresh stamps. -/
structure State where
  table : PendingTable := []
  saving : List PendingMessage := []
  draining : List Draining := []
  stamps : List Int := []
  committed : List PendingMessage := []
  returned : List PendingMessage := []
deriving Repr, DecidableEq

inductive Label where
  /-- A `Save` reads its container's clock. -/
  | stamp (auth : WebsocketAuth) (sendAt : Int) (message : Bytes)
      (expiresAt : Int)
  /-- The `Create` of a stamped message commits or fails. -/
  | create (row : PendingMessage) (ok : Bool)
  /-- A `Consume` runs `GetAll`, which may fail. -/
  | getAll (auth : WebsocketAuth) (ok : Bool)
  /-- A `Consume` that read something runs `DeleteUpTo`, which may fail. -/
  | deleteUpTo (drain : Draining) (ok : Bool)
deriving Repr, DecidableEq

def step (state : State) : Label → Option State
  | .stamp auth sendAt message expiresAt =>
    if sendAt ∈ state.stamps then none
    else some { state with
      saving := { sessionKey := sessionKey auth, sendAt, message,
                  expiresAt } :: state.saving
      stamps := sendAt :: state.stamps }
  | .create row ok =>
    if row ∉ state.saving then none
    else if ok then some { state with
      table := state.table.create row
      saving := state.saving.erase row
      committed := row :: state.committed }
    else some { state with saving := state.saving.erase row }
  | .getAll auth ok =>
    let rows := state.table.ofSession (sessionKey auth)
    if !ok then some state
    else if rows = [] then some state
    else some { state with
      draining := { key := sessionKey auth,
                    maxSendAt := PendingTable.maxSendAt rows } ::
                  state.draining
      returned := rows ++ state.returned }
  | .deleteUpTo drain ok =>
    if drain ∉ state.draining then none
    else if ok then some { state with
      table := state.table.deleteUpTo drain.key drain.maxSendAt
      draining := state.draining.erase drain }
    else some { state with draining := state.draining.erase drain }

/-- Every committed message is still stored or was handed to some drain. -/
def Kept (state : State) : Prop :=
  ∀ row ∈ state.committed, row ∈ state.table ∨ row ∈ state.returned

instance (state : State) : Decidable (Kept state) :=
  inferInstanceAs (Decidable (∀ row ∈ state.committed, _))

/-- A message that commits while its session is drained carries a stamp above
everything that drain has read. -/
def CommitsAbove (state : State) : Label → Prop
  | .create row true => ∀ drain ∈ state.draining,
      drain.key = row.sessionKey → drain.maxSendAt < row.sendAt
  | _ => True

instance (state : State) : ∀ label, Decidable (CommitsAbove state label)
  | .create _ true =>
    inferInstanceAs (Decidable (∀ drain ∈ state.draining, _))
  | .create _ false => .isTrue trivial
  | .stamp .. => .isTrue trivial
  | .getAll .. => .isTrue trivial
  | .deleteUpTo .. => .isTrue trivial

/-- What a drain is about to delete has been returned. -/
def DeletesReturned (state : State) : Prop :=
  ∀ drain ∈ state.draining, ∀ row ∈ state.table,
    row.sessionKey = drain.key → row.sendAt ≤ drain.maxSendAt →
      row ∈ state.returned

/-- Stamps in flight are distinct from each other and from those stored. -/
structure Stamped (state : State) : Prop where
  nodup : (state.saving.map PendingMessage.sendAt).Nodup
  saving : ∀ row ∈ state.saving, row.sendAt ∈ state.stamps
  table : ∀ row ∈ state.table, row.sendAt ∈ state.stamps
  apart : ∀ row ∈ state.table, ∀ save ∈ state.saving,
    row.sendAt ≠ save.sendAt

structure Inv (state : State) : Prop where
  stamped : Stamped state
  kept : Kept state
  deletes : DeletesReturned state

variable {state next : State} {label : Label} {row : PendingMessage}

/-- Everything one step can do: a call made or failed, a stamp, a commit, a
read, or a delete. -/
theorem step_cases (hstep : step state label = some next) :
    (∃ auth sendAt message expiresAt, sendAt ∉ state.stamps ∧
      next = { state with
        saving := ⟨sessionKey auth, sendAt, message, expiresAt⟩ ::
          state.saving
        stamps := sendAt :: state.stamps }) ∨
    (∃ row, row ∈ state.saving ∧ label = .create row true ∧
      next = { state with
        table := state.table.create row
        saving := state.saving.erase row
        committed := row :: state.committed }) ∨
    (∃ row, next = { state with saving := state.saving.erase row }) ∨
    next = state ∨
    (∃ auth, next = { state with
        draining := ⟨sessionKey auth, PendingTable.maxSendAt
          (state.table.ofSession (sessionKey auth))⟩ :: state.draining
        returned := state.table.ofSession (sessionKey auth) ++
          state.returned }) ∨
    (∃ drain, drain ∈ state.draining ∧ next = { state with
        table := state.table.deleteUpTo drain.key drain.maxSendAt
        draining := state.draining.erase drain }) ∨
    (∃ drain, next =
      { state with draining := state.draining.erase drain }) := by
  cases label with
  | stamp auth sendAt message expiresAt =>
    simp only [step] at hstep
    split at hstep
    · cases hstep
    · next hfresh =>
      exact .inl ⟨auth, sendAt, message, expiresAt, hfresh,
        (Option.some.inj hstep).symm⟩
  | create row ok =>
    simp only [step] at hstep
    split at hstep
    · cases hstep
    · next hsaving =>
      cases ok with
      | true =>
        exact .inr (.inl ⟨row, not_not.mp hsaving, rfl,
          (Option.some.inj hstep).symm⟩)
      | false =>
        exact .inr (.inr (.inl ⟨row, (Option.some.inj hstep).symm⟩))
  | getAll auth ok =>
    simp only [step] at hstep
    split at hstep
    · exact .inr (.inr (.inr (.inl (Option.some.inj hstep).symm)))
    · split at hstep
      · exact .inr (.inr (.inr (.inl (Option.some.inj hstep).symm)))
      · exact .inr (.inr (.inr (.inr (.inl
          ⟨auth, (Option.some.inj hstep).symm⟩))))
  | deleteUpTo drain ok =>
    simp only [step] at hstep
    split at hstep
    · cases hstep
    · next hdraining =>
      cases ok with
      | true =>
        exact .inr (.inr (.inr (.inr (.inr (.inl ⟨drain,
          not_not.mp hdraining, (Option.some.inj hstep).symm⟩)))))
      | false =>
        exact .inr (.inr (.inr (.inr (.inr (.inr ⟨drain,
          (Option.some.inj hstep).symm⟩)))))

theorem Stamped.table_fresh (hstamped : Stamped state)
    (hsaving : row ∈ state.saving) :
    ∀ old ∈ state.table, old.sendAt ≠ row.sendAt :=
  fun old hold => hstamped.apart old hold row hsaving

theorem Stamped.erase_apart (hstamped : Stamped state)
    (hsaving : row ∈ state.saving) :
    ∀ save ∈ state.saving.erase row, row.sendAt ≠ save.sendAt := by
  intro save hsave heq
  have hperm := (List.perm_cons_erase hsaving).map PendingMessage.sendAt
  have hnodup := hperm.nodup_iff.mp hstamped.nodup
  rw [List.map_cons, List.nodup_cons] at hnodup
  exact hnodup.1 (heq ▸ List.mem_map_of_mem hsave)

theorem stamped_step (hstamped : Stamped state)
    (hstep : step state label = some next) :
    Stamped next := by
  have herase : ∀ row : PendingMessage,
      ((state.saving.erase row).map PendingMessage.sendAt).Nodup :=
    fun row => hstamped.nodup.sublist (List.erase_sublist.map _)
  have hsub : ∀ {row save : PendingMessage}, save ∈ state.saving.erase row →
      save ∈ state.saving := fun h => List.mem_of_mem_erase h
  rcases step_cases hstep with
    ⟨auth, sendAt, message, expiresAt, hfresh, rfl⟩ |
    ⟨row, hsaving, rfl, rfl⟩ | ⟨row, rfl⟩ | rfl | ⟨auth, rfl⟩ |
    ⟨drain, hdraining, rfl⟩ | ⟨drain, rfl⟩
  · constructor
    · simp only [List.map_cons, List.nodup_cons]
      refine ⟨?_, hstamped.nodup⟩
      intro hmem
      obtain ⟨save, hsave, rfl⟩ := List.mem_map.mp hmem
      exact hfresh (hstamped.saving save hsave)
    · intro save hsave
      rcases List.mem_cons.mp hsave with rfl | hsave
      · exact List.mem_cons_self
      · exact List.mem_cons_of_mem _ (hstamped.saving save hsave)
    · exact fun row hrow => List.mem_cons_of_mem _ (hstamped.table row hrow)
    · intro row hrow save hsave
      rcases List.mem_cons.mp hsave with rfl | hsave
      · intro heq
        change row.sendAt = sendAt at heq
        exact hfresh (heq ▸ hstamped.table row hrow)
      · exact hstamped.apart row hrow save hsave
  · have hmem := fun r => @PendingTable.mem_create state.table r row
      (hstamped.table_fresh hsaving)
    refine ⟨herase row, fun save h => hstamped.saving save (hsub h), ?_, ?_⟩
    · intro stored hstored
      rcases (hmem stored).mp hstored with rfl | hold
      · exact hstamped.saving stored hsaving
      · exact hstamped.table stored hold
    · intro stored hstored save hsave
      rcases (hmem stored).mp hstored with rfl | hold
      · exact hstamped.erase_apart hsaving save hsave
      · exact hstamped.apart stored hold save (hsub hsave)
  · exact ⟨herase row, fun save h => hstamped.saving save (hsub h),
      hstamped.table,
      fun stored hstored save h => hstamped.apart stored hstored save (hsub h)⟩
  · exact hstamped
  · exact ⟨hstamped.nodup, hstamped.saving, hstamped.table, hstamped.apart⟩
  · refine ⟨hstamped.nodup, hstamped.saving, ?_, ?_⟩
    · exact fun row hrow =>
        hstamped.table row (PendingTable.mem_deleteUpTo.mp hrow).1
    · exact fun row hrow =>
        hstamped.apart row (PendingTable.mem_deleteUpTo.mp hrow).1
  · exact ⟨hstamped.nodup, hstamped.saving, hstamped.table, hstamped.apart⟩

theorem deletesReturned_step (hstamped : Stamped state)
    (hdeletes : DeletesReturned state) (habove : CommitsAbove state label)
    (hstep : step state label = some next) : DeletesReturned next := by
  rcases step_cases hstep with
    ⟨auth, sendAt, message, expiresAt, hfresh, rfl⟩ |
    ⟨row, hsaving, rfl, rfl⟩ | ⟨row, rfl⟩ | rfl | ⟨auth, rfl⟩ |
    ⟨drain, hdraining, rfl⟩ | ⟨drain, rfl⟩
  · exact hdeletes
  · intro drain hdrain stored hstored hkey hle
    rcases (PendingTable.mem_create
      (hstamped.table_fresh hsaving)).mp hstored with rfl | hold
    · exact absurd (habove drain hdrain hkey.symm) (not_lt.mpr hle)
    · exact hdeletes drain hdrain stored hold hkey hle
  · exact hdeletes
  · exact hdeletes
  · intro drain hdrain stored hstored hkey hle
    rcases List.mem_cons.mp hdrain with rfl | hdrain
    · exact List.mem_append_left _
        (PendingTable.mem_ofSession.mpr ⟨hstored, hkey⟩)
    · exact List.mem_append_right _
        (hdeletes drain hdrain stored hstored hkey hle)
  · intro other hother stored hstored
    exact hdeletes other (List.mem_of_mem_erase hother) stored
      (PendingTable.mem_deleteUpTo.mp hstored).1
  · exact fun other hother =>
      hdeletes other (List.mem_of_mem_erase hother)

theorem kept_step (hstamped : Stamped state) (hkept : Kept state)
    (hdeletes : DeletesReturned state) (hstep : step state label = some next) :
    Kept next := by
  rcases step_cases hstep with
    ⟨auth, sendAt, message, expiresAt, hfresh, rfl⟩ |
    ⟨row, hsaving, rfl, rfl⟩ | ⟨row, rfl⟩ | rfl | ⟨auth, rfl⟩ |
    ⟨drain, hdraining, rfl⟩ | ⟨drain, rfl⟩
  · exact hkept
  · have hmem := fun r => @PendingTable.mem_create state.table r row
      (hstamped.table_fresh hsaving)
    intro stored hstored
    rcases List.mem_cons.mp hstored with rfl | hold
    · exact .inl ((hmem stored).mpr (.inl rfl))
    · rcases hkept stored hold with htable | hreturned
      · exact .inl ((hmem stored).mpr (.inr htable))
      · exact .inr hreturned
  · exact hkept
  · exact hkept
  · intro stored hstored
    rcases hkept stored hstored with htable | hreturned
    · exact .inl htable
    · exact .inr (List.mem_append_right _ hreturned)
  · intro stored hstored
    rcases hkept stored hstored with htable | hreturned
    · by_cases hdeleted : stored.sessionKey = drain.key ∧
          stored.sendAt ≤ drain.maxSendAt
      · exact .inr (hdeletes drain hdraining stored htable hdeleted.1
          hdeleted.2)
      · exact .inl (PendingTable.mem_deleteUpTo.mpr ⟨htable, hdeleted⟩)
    · exact .inr hreturned
  · exact hkept

theorem inv_step (hinv : Inv state) (habove : CommitsAbove state label)
    (hstep : step state label = some next) : Inv next where
  stamped := stamped_step hinv.stamped hstep
  kept := kept_step hinv.stamped hinv.kept hinv.deletes hstep
  deletes := deletesReturned_step hinv.stamped hinv.deletes habove hstep

theorem inv_start : Inv {} where
  stamped := by constructor <;> simp
  kept := by simp [Kept]
  deletes := by simp [DeletesReturned]

/-- In every run whose commits land above the drains in progress, no committed
message is lost. -/
theorem committed_kept_of_commitsAbove {state : State}
    (hreach : Reach step CommitsAbove {} state) : Kept state :=
  (Reach.invariant Inv inv_start (fun _ _ _ => inv_step) hreach).kept

/-- A message stamped 12 commits while a drain that has read up to stamp 10
is in progress. -/
def drainedRun : List Label :=
  let first : PendingMessage := ⟨sessionKey ⟨[1], [2]⟩, 10, [7], 100⟩
  let second : PendingMessage := ⟨sessionKey ⟨[1], [2]⟩, 12, [8], 100⟩
  [.stamp ⟨[1], [2]⟩ 10 [7] 100, .create first true, .getAll ⟨[1], [2]⟩ true,
    .stamp ⟨[1], [2]⟩ 12 [8] 100, .create second true,
    .deleteUpTo ⟨first.sessionKey, 10⟩ true]

theorem committed_kept_drainedRun :
    ∃ state, run step {} drainedRun = some state ∧
      state.table.map PendingMessage.sendAt = [12] ∧ Kept state :=
  ⟨_, rfl, by decide, committed_kept_of_commitsAbove
    (reach_of_run drainedRun rfl (by decide))⟩

/-- A message stamped 5 on a slow container commits after a drain has read up
to stamp 10 and before that drain deletes. -/
def lateCommitRun : List Label :=
  let early : PendingMessage := ⟨sessionKey ⟨[1], [2]⟩, 5, [8], 100⟩
  let late : PendingMessage := ⟨sessionKey ⟨[1], [2]⟩, 10, [7], 100⟩
  [.stamp ⟨[1], [2]⟩ 5 [8] 100, .stamp ⟨[1], [2]⟩ 10 [7] 100,
    .create late true, .getAll ⟨[1], [2]⟩ true, .create early true,
    .deleteUpTo ⟨late.sessionKey, 10⟩ true]

/-- The late commit is deleted although no drain has read it. -/
theorem lateCommit_lost :
    ∃ state, Reach step Unguarded {} state ∧ ¬ Kept state :=
  ⟨_, reach_of_run lateCommitRun rfl (by decide), by decide⟩

end Buffer

end Pipewave
