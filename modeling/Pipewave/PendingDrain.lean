/-
The DynamoDB store of buffered messages under concurrent calls.  A query or a
scan is answered page by page and a page may come from a replica that is
behind; a delete first collects the keys of what it selects and then deletes
them in batches by key alone.
-/
import Pipewave.BatchWrite
import Pipewave.PendingBackends
import Pipewave.Transition

namespace Pipewave

namespace PendingDrain

open Transition
open PendingBackends (rowKey putItem)

/-- The primary key of a row. -/
abbrev Key := Bytes × Int

/-- What `DeleteUpTo`, `DeleteAll` and `CleanUpExpiredPendingMessages` ask
for. -/
inductive Filter where
  | upTo (key : Bytes) (maxSendAt : Int)
  | all (key : Bytes)
  | expired (before : Int)
deriving Repr, DecidableEq

namespace Filter

def Selects : Filter → PendingMessage → Prop
  | .upTo key maxSendAt, row => row.sessionKey = key ∧ row.sendAt ≤ maxSendAt
  | .all key, row => row.sessionKey = key
  | .expired before, row => row.expiresAt < before

instance : ∀ filter row, Decidable (Selects filter row)
  | .upTo _ _, _ => inferInstanceAs (Decidable (_ ∧ _))
  | .all key, row => inferInstanceAs (Decidable (row.sessionKey = key))
  | .expired before, row =>
    inferInstanceAs (Decidable (row.expiresAt < before))

/-- What the error calls the rows that are left. -/
def noun : Filter → String
  | .expired _ => " expired pending messages"
  | _ => " pending messages"

end Filter

abbrev Deletion := BatchWrite.Program Key (Option String)

/-- The text of the error, if there is one. -/
def deleteResult (filter : Filter) (written : List Key × Option String) :
    Option String :=
  match written.2 with
  | some err => some err
  | none =>
    if 0 < written.1.length then
      some ("failed to delete " ++ toString written.1.length ++ filter.noun)
    else none

def deleteKeys (lo : BatchWrite.Chunking Key) (filter : Filter)
    (keys : List Key) : Deletion :=
  if keys = [] then .done none
  else (BatchWrite.recursiveBatchWriteItem lo keys 2).bind fun written =>
    .done (deleteResult filter written)

/-- A call in progress.  `Consume` reads with `GetAll` and goes on with
`DeleteUpTo`. -/
inductive Thread where
  /-- `GetAll` behind the pages that end with `cursor`. -/
  | reading (key : Bytes) (cursor : Option Int) (rows : List PendingMessage)
  /-- The query or the scan in front of a delete. -/
  | selecting (filter : Filter) (keys : List Key)
  | deleting (filter : Filter) (keys : List Key) (rest : Deletion)
  /-- A `Consume` that read nothing, or whose read failed. -/
  | finished

/-- `committed`, `returned` and `cleared` are histories: the rows that were
created, those that `Consume` got to return, and the sessions on which
`DeleteAll` was called. -/
structure State where
  now : Int := 0
  table : PendingTable := []
  threads : List Thread := []
  committed : List PendingMessage := []
  returned : List PendingMessage := []
  cleared : List Bytes := []

/-- One atomic step.  The `view` of a page is the part of the table it was
read from, as the replica has it; a page of `GetAll` goes up to the sort key
`last`, the last one to the end. -/
inductive Label where
  | advance (elapsed : Nat)
  | create (auth : WebsocketAuth) (call : PendingBackends.Create)
  | consume (auth : WebsocketAuth)
  | deleteAll (auth : WebsocketAuth)
  | cleanUp
  | readPage (i : Nat) (view : PendingTable) (last : Option Int)
  | readFails (i : Nat)
  | selectPage (i : Nat) (view : PendingTable) (more : Bool)
  | selectFails (i : Nat) (err : String)
  | batchWriteItem (i : Nat) (processed unprocessed : List Key)
  /-- A call that fails may have been executed in part. -/
  | batchWriteItemFails (i : Nat) (executed : List Key)

/-- The rows of a session in the view behind `cursor` and up to `last`. -/
def page (view : PendingTable) (key : Bytes) (cursor last : Option Int) :
    List PendingMessage :=
  (view.ofSession key).filter fun row =>
    (∀ c ∈ cursor, c < row.sendAt) ∧ ∀ c ∈ last, row.sendAt ≤ c

def select (filter : Filter) (view : PendingTable) : List Key :=
  (view.filter fun row => filter.Selects row).map rowKey

namespace State

variable (s : State)

def setThread (i : Nat) (thread : Thread) : State :=
  { s with threads := s.threads.set i thread }

def spawn (thread : Thread) : State :=
  { s with threads := s.threads ++ [thread] }

def delete (keys : List Key) : State :=
  { s with table := s.table.filter fun row => rowKey row ∉ keys }

/-- `Consume` has read everything. -/
def consumed (i : Nat) (key : Bytes) (rows : List PendingMessage) : State :=
  if rows = [] then s.setThread i .finished
  else
    { s.setThread i
        (.selecting (.upTo key (PendingTable.maxSendAt rows)) []) with
      returned := rows ++ s.returned }

end State

def step (lo : BatchWrite.Chunking Key) (s : State) : Label → Option State
  | .advance elapsed => some { s with now := s.now + elapsed }
  | .create auth call => some { s with
      table := putItem s.table (call.row auth)
      committed := call.row auth :: s.committed }
  | .consume auth => some (s.spawn (.reading (sessionKey auth) none []))
  | .deleteAll auth => some
      { s.spawn (.selecting (.all (sessionKey auth)) []) with
        cleared := sessionKey auth :: s.cleared }
  | .cleanUp => some (s.spawn (.selecting (.expired s.now) []))
  | .readPage i view last =>
    match s.threads[i]? with
    | some (.reading key cursor rows) =>
      if view ⊆ s.committed then
        let rows := rows ++ page view key cursor last
        match last with
        | some upTo => some (s.setThread i (.reading key upTo rows))
        | none => some (s.consumed i key rows)
      else none
    | _ => none
  | .readFails i =>
    match s.threads[i]? with
    | some (.reading _ _ _) => some (s.setThread i .finished)
    | _ => none
  | .selectPage i view more =>
    match s.threads[i]? with
    | some (.selecting filter keys) =>
      if view ⊆ s.committed then
        let keys := keys ++ select filter view
        some (s.setThread i
          (if more then .selecting filter keys
            else .deleting filter keys (deleteKeys lo filter keys)))
      else none
    | _ => none
  | .selectFails i err =>
    match s.threads[i]? with
    | some (.selecting filter _) =>
      some (s.setThread i (.deleting filter [] (.done (some err))))
    | _ => none
  | .batchWriteItem i processed unprocessed =>
    match s.threads[i]? with
    | some (.deleting filter keys (.call request next)) =>
      if accounted : (processed ++ unprocessed).Perm request then
        some ((s.delete processed).setThread i
          (.deleting filter keys
            (next (.wrote processed unprocessed accounted))))
      else none
    | _ => none
  | .batchWriteItemFails i executed =>
    match s.threads[i]? with
    | some (.deleting filter keys (.call request next)) =>
      if executed ⊆ request then
        some ((s.delete executed).setThread i
          (.deleting filter keys (next .failed)))
      else none
    | _ => none

/-- No primary key is used twice. -/
def NewKey (s : State) : Label → Prop
  | .create auth call => rowKey (call.row auth) ∉ s.committed.map rowKey
  | _ => True

instance (s : State) : ∀ label, Decidable (NewKey s label)
  | .create auth call => inferInstanceAs
      (Decidable (rowKey (call.row auth) ∉ s.committed.map rowKey))
  | .advance _ | .consume _ | .deleteAll _ | .cleanUp | .readPage ..
  | .readFails _ | .selectPage .. | .selectFails .. | .batchWriteItem ..
  | .batchWriteItemFails .. => .isTrue trivial

/-! ### Steps -/

section Steps

variable {lo : BatchWrite.Chunking Key} {s next : State} {label : Label}

/-- The steps by label. -/
inductive StepCase (lo : BatchWrite.Chunking Key) (s : State) :
    Label → State → Prop where
  | advance (elapsed : Nat) : StepCase lo s (.advance elapsed)
      { s with now := s.now + elapsed }
  | create (auth : WebsocketAuth) (call : PendingBackends.Create) :
      StepCase lo s (.create auth call) { s with
        table := putItem s.table (call.row auth)
        committed := call.row auth :: s.committed }
  | consume (auth : WebsocketAuth) : StepCase lo s (.consume auth)
      (s.spawn (.reading (sessionKey auth) none []))
  | deleteAll (auth : WebsocketAuth) : StepCase lo s (.deleteAll auth)
      { s.spawn (.selecting (.all (sessionKey auth)) []) with
        cleared := sessionKey auth :: s.cleared }
  | cleanUp : StepCase lo s .cleanUp
      (s.spawn (.selecting (.expired s.now) []))
  | readMore {i : Nat} {key : Bytes} {cursor : Option Int}
      {rows : List PendingMessage} (view : PendingTable) (upTo : Int)
      (thread : .reading key cursor rows ∈ s.threads) :
      StepCase lo s (.readPage i view (some upTo))
        (s.setThread i (.reading key (some upTo)
          (rows ++ page view key cursor (some upTo))))
  | readLast {i : Nat} {key : Bytes} {cursor : Option Int}
      {rows : List PendingMessage} (view : PendingTable)
      (thread : .reading key cursor rows ∈ s.threads) :
      StepCase lo s (.readPage i view none)
        (s.consumed i key (rows ++ page view key cursor none))
  | readFails (i : Nat) :
      StepCase lo s (.readFails i) (s.setThread i .finished)
  | selectPage {i : Nat} {filter : Filter} {keys : List Key}
      {view : PendingTable} (more : Bool) (committed : view ⊆ s.committed)
      (thread : .selecting filter keys ∈ s.threads) :
      StepCase lo s (.selectPage i view more)
        (s.setThread i
          (if more then .selecting filter (keys ++ select filter view)
            else .deleting filter (keys ++ select filter view)
              (deleteKeys lo filter (keys ++ select filter view))))
  | selectFails {i : Nat} {filter : Filter} {keys : List Key} (err : String)
      (thread : .selecting filter keys ∈ s.threads) :
      StepCase lo s (.selectFails i err)
        (s.setThread i (.deleting filter [] (.done (some err))))
  | batchWriteItem {i : Nat} {filter : Filter}
      {keys processed unprocessed request : List Key}
      {next : BatchWrite.Answer request → Deletion}
      (accounted : (processed ++ unprocessed).Perm request)
      (thread : .deleting filter keys (.call request next) ∈ s.threads) :
      StepCase lo s (.batchWriteItem i processed unprocessed)
        ((s.delete processed).setThread i
          (.deleting filter keys
            (next (.wrote processed unprocessed accounted))))
  | batchWriteItemFails {i : Nat} {filter : Filter}
      {keys executed request : List Key}
      {next : BatchWrite.Answer request → Deletion}
      (requested : executed ⊆ request)
      (thread : .deleting filter keys (.call request next) ∈ s.threads) :
      StepCase lo s (.batchWriteItemFails i executed)
        ((s.delete executed).setThread i
          (.deleting filter keys (next .failed)))

theorem stepCase_of_step (hstep : step lo s label = some next) :
    StepCase lo s label next := by
  cases label with
  | advance elapsed =>
    cases hstep
    exact .advance elapsed
  | create auth call =>
    cases hstep
    exact .create auth call
  | consume auth =>
    cases hstep
    exact .consume auth
  | deleteAll auth =>
    cases hstep
    exact .deleteAll auth
  | cleanUp =>
    cases hstep
    exact .cleanUp
  | readPage i view last =>
    simp only [step] at hstep
    split at hstep
    next key cursor rows hthread =>
      split at hstep
      next =>
        cases last with
        | some upTo =>
          cases hstep
          exact .readMore view upTo (List.mem_of_getElem? hthread)
        | none =>
          cases hstep
          exact .readLast view (List.mem_of_getElem? hthread)
      next => cases hstep
    next => cases hstep
  | readFails i =>
    simp only [step] at hstep
    split at hstep
    · cases hstep
      exact .readFails i
    · cases hstep
  | selectPage i view more =>
    simp only [step] at hstep
    split at hstep
    next filter keys hthread =>
      split at hstep
      next hcommitted =>
        cases hstep
        exact .selectPage more hcommitted (List.mem_of_getElem? hthread)
      next => cases hstep
    next => cases hstep
  | selectFails i err =>
    simp only [step] at hstep
    split at hstep
    next filter keys hthread =>
      cases hstep
      exact .selectFails err (List.mem_of_getElem? hthread)
    next => cases hstep
  | batchWriteItem i processed unprocessed =>
    simp only [step] at hstep
    split at hstep
    next filter keys request rest hthread =>
      split at hstep
      next accounted =>
        cases hstep
        exact .batchWriteItem accounted (List.mem_of_getElem? hthread)
      next => cases hstep
    next => cases hstep
  | batchWriteItemFails i executed =>
    simp only [step] at hstep
    split at hstep
    next filter keys request rest hthread =>
      split at hstep
      next hrequested =>
        cases hstep
        exact .batchWriteItemFails hrequested (List.mem_of_getElem? hthread)
      next => cases hstep
    next => cases hstep

/-- The row is among the keys of a batch that some delete waits for. -/
def InBatch (s : State) (row : PendingMessage) : Prop :=
  ∃ filter keys request rest,
    Thread.deleting filter keys (.call request rest) ∈ s.threads ∧
      rowKey row ∈ request

/-- What a step keeps.  The only row it can add is the one it creates, and
the rows it can remove are those of a batch or of the same key. -/
structure Frame (s : State) (label : Label) (next : State) : Prop where
  now : s.now ≤ next.now
  returned : s.returned ⊆ next.returned
  cleared : s.cleared ⊆ next.cleared
  committed : next.committed = s.committed ∨
    ∃ auth call, label = .create auth call ∧
      next.committed = call.row auth :: s.committed
  added : ∀ row ∈ next.table, row ∈ s.table ∨
    ∃ auth call, label = .create auth call ∧ row = call.row auth
  removed : ∀ row ∈ s.table, row ∈ next.table ∨ InBatch s row ∨
    ∃ auth call, label = .create auth call ∧
      rowKey row = rowKey (call.row auth)

theorem Frame.of_table (hnow : s.now ≤ next.now)
    (hreturned : s.returned ⊆ next.returned)
    (hcleared : s.cleared ⊆ next.cleared)
    (hcommitted : next.committed = s.committed)
    (htable : next.table = s.table) : Frame s label next where
  now := hnow
  returned := hreturned
  cleared := hcleared
  committed := .inl hcommitted
  added _ hrow := .inl (htable ▸ hrow)
  removed _ hrow := .inl (htable ▸ hrow)

theorem Frame.of_threads (label : Label) (threads : List Thread) :
    Frame s label { s with threads := threads } :=
  .of_table (Int.le_refl _) (List.Subset.refl _) (List.Subset.refl _) rfl rfl

theorem frame_create (auth : WebsocketAuth) (call : PendingBackends.Create) :
    Frame s (.create auth call) { s with
      table := putItem s.table (call.row auth)
      committed := call.row auth :: s.committed } where
  now := Int.le_refl _
  returned := List.Subset.refl _
  cleared := List.Subset.refl _
  committed := .inr ⟨auth, call, rfl, rfl⟩
  added row hrow := by
    obtain rfl | hold := List.mem_cons.mp hrow
    · exact .inr ⟨auth, call, rfl, rfl⟩
    · exact .inl (List.mem_filter.mp hold).1
  removed row hrow := by
    by_cases hkey : rowKey row = rowKey (call.row auth)
    · exact .inr (.inr ⟨auth, call, rfl, hkey⟩)
    · refine .inl (List.mem_cons_of_mem _ ?_)
      exact List.mem_filter.mpr ⟨hrow, decide_eq_true hkey⟩

theorem frame_batch (i : Nat) (thread : Thread) {keys : List Key}
    (hbatch : ∀ row, rowKey row ∈ keys → InBatch s row) :
    Frame s label ((s.delete keys).setThread i thread) where
  now := Int.le_refl _
  returned := List.Subset.refl _
  cleared := List.Subset.refl _
  committed := .inl rfl
  added row hrow := .inl (List.mem_filter.mp hrow).1
  removed row hrow := by
    by_cases hkey : rowKey row ∈ keys
    · exact .inr (.inl (hbatch row hkey))
    · exact .inl (List.mem_filter.mpr ⟨hrow, decide_eq_true hkey⟩)

theorem frame_of_stepCase (hcase : StepCase lo s label next) :
    Frame s label next := by
  cases hcase with
  | advance elapsed =>
    exact .of_table
      (Int.le_add_of_nonneg_right (Int.natCast_nonneg elapsed))
      (List.Subset.refl _) (List.Subset.refl _) rfl rfl
  | create auth call => exact frame_create auth call
  | consume auth => exact .of_threads _ _
  | deleteAll auth =>
    exact .of_table (Int.le_refl _) (List.Subset.refl _)
      (List.subset_cons_self _ _) rfl rfl
  | cleanUp => exact .of_threads _ _
  | readMore view upTo _ => exact .of_threads _ _
  | readLast view _ =>
    unfold State.consumed
    split
    · exact .of_threads _ _
    · exact .of_table (Int.le_refl _) (List.subset_append_right _ _)
        (List.Subset.refl _) rfl rfl
  | readFails i => exact .of_threads _ _
  | selectPage more _ _ => exact .of_threads _ _
  | selectFails err _ => exact .of_threads _ _
  | @batchWriteItem i filter keys processed _ request rest haccounted
      hthread =>
      apply frame_batch
      intro row hkey
      exact ⟨filter, keys, request, rest, hthread,
        haccounted.subset (List.mem_append_left _ hkey)⟩
  | @batchWriteItemFails i filter keys _ request rest hrequested hthread =>
    apply frame_batch
    intro row hkey
    exact ⟨filter, keys, request, rest, hthread, hrequested hkey⟩

theorem Frame.committed_subset (hframe : Frame s label next) :
    s.committed ⊆ next.committed := by
  obtain hsame | ⟨auth, call, -, hcons⟩ := hframe.committed
  · rw [hsame]
    exact List.Subset.refl _
  · rw [hcons]
    exact List.subset_cons_self _ _

end Steps

/-! ### The keys of a delete -/

/-- The state warrants the call with this filter. -/
def Filter.Grounded (s : State) : Filter → Prop
  | .upTo _ _ => True
  | .all key => key ∈ s.cleared
  | .expired before => before ≤ s.now

/-- The key of a row that was selected. -/
def Named (s : State) (filter : Filter) (key : Key) : Prop :=
  ∃ row ∈ s.committed, rowKey row = key ∧ filter.Selects row

/-- No row with the key is stored. -/
def Gone (s : State) (key : Key) : Prop := key ∉ s.table.map rowKey

/-- A delete of `keys` that goes on with `rest`.  If it ends without error,
everything is gone that is not deleted on the way. -/
structure Deletes (s : State) (filter : Filter) (keys : List Key)
    (rest : Deletion) : Prop where
  named : ∀ key ∈ keys, Named s filter key
  requests : rest.Always fun request => ∀ key ∈ request, key ∈ keys
  complete : rest.All fun log result => result = none → ∀ key ∈ keys,
    key ∈ BatchWrite.processed log ∨ Gone s key

def Thread.Within (s : State) : Thread → Prop
  | .selecting filter keys =>
    filter.Grounded s ∧ ∀ key ∈ keys, Named s filter key
  | .deleting filter keys rest =>
    filter.Grounded s ∧ Deletes s filter keys rest
  | _ => True

structure Inv (s : State) : Prop where
  nodup : (s.committed.map rowKey).Nodup
  table : s.table ⊆ s.committed
  threads : ∀ thread ∈ s.threads, thread.Within s

section Keys

variable {lo : BatchWrite.Chunking Key} {s next : State} {label : Label}

variable {filter : Filter} {key : Key} {row : PendingMessage} {keys : List Key}

theorem Named.mem_keys (hnamed : Named s filter key) :
    key ∈ s.committed.map rowKey := by
  obtain ⟨row, hrow, rfl, -⟩ := hnamed
  exact List.mem_map_of_mem hrow

theorem Named.mono (hcommitted : s.committed ⊆ next.committed)
    (hnamed : Named s filter key) : Named next filter key := by
  obtain ⟨row, hrow, hkey⟩ := hnamed
  exact ⟨row, hcommitted hrow, hkey⟩

/-- As keys are not used twice, the row under a selected key is the one that
was selected. -/
theorem Inv.selects (hinv : Inv s) (hrow : row ∈ s.table)
    (hnamed : Named s filter (rowKey row)) :
    filter.Selects row := by
  obtain ⟨found, hfound, hkey, hselects⟩ := hnamed
  have hsame := List.inj_on_of_nodup_map hinv.nodup hfound
    (hinv.table hrow) hkey
  exact hsame ▸ hselects

/-- A key that was used does not come back. -/
theorem Gone.frame (hframe : Frame s label next) (hnew : NewKey s label)
    (hkey : key ∈ s.committed.map rowKey) (hgone : Gone s key) :
    Gone next key := by
  intro hmem
  obtain ⟨row, hrow, rfl⟩ := List.mem_map.mp hmem
  obtain hold | ⟨auth, call, rfl, rfl⟩ := hframe.added row hrow
  · exact hgone (List.mem_map_of_mem hold)
  · exact hnew hkey

theorem Filter.Grounded.frame (hframe : Frame s label next)
    (hgrounded : filter.Grounded s) :
    filter.Grounded next := by
  cases filter with
  | upTo key maxSendAt => trivial
  | all key => exact hframe.cleared hgrounded
  | expired before => exact Int.le_trans hgrounded hframe.now

theorem Thread.Within.frame {thread : Thread} (hframe : Frame s label next)
    (hnew : NewKey s label) (hwithin : thread.Within s) :
    thread.Within next := by
  cases thread with
  | reading key cursor rows => trivial
  | finished => trivial
  | selecting filter keys =>
    obtain ⟨hgrounded, hnamed⟩ := hwithin
    exact ⟨hgrounded.frame hframe,
      fun key hkey => (hnamed key hkey).mono hframe.committed_subset⟩
  | deleting filter keys rest =>
    obtain ⟨hgrounded, hnamed, hrequests, hcomplete⟩ := hwithin
    refine ⟨hgrounded.frame hframe,
      fun key hkey => (hnamed key hkey).mono hframe.committed_subset,
      hrequests, hcomplete.mono ?_⟩
    intro log result hpost hnone key hkey
    obtain hprocessed | hgone := hpost hnone key hkey
    · exact .inl hprocessed
    · exact .inr (hgone.frame hframe hnew (hnamed key hkey).mem_keys)

theorem named_of_mem_select {view : PendingTable} (hview : view ⊆ s.committed)
    (hkey : key ∈ select filter view) : Named s filter key := by
  obtain ⟨row, hrow, rfl⟩ := List.mem_map.mp hkey
  obtain ⟨hmem, hselects⟩ := List.mem_filter.mp hrow
  exact ⟨row, hview hmem, rfl, of_decide_eq_true hselects⟩

theorem eq_of_deleteResult {written : List Key × Option String}
    (hresult : deleteResult filter written = none) : written = ([], none) := by
  obtain ⟨left, err⟩ := written
  unfold deleteResult at hresult
  split at hresult
  · cases hresult
  next hnone =>
    split at hresult
    · cases hresult
    next hlength =>
      have hleft : left = [] :=
        List.length_eq_zero_iff.mp (Nat.eq_zero_of_not_pos hlength)
      rw [hleft]
      exact congrArg (Prod.mk []) hnone

theorem deletes_deleteKeys (hnamed : ∀ key ∈ keys, Named s filter key) :
    Deletes s filter keys (deleteKeys lo filter keys) := by
  unfold deleteKeys
  split
  next hnil =>
    subst hnil
    exact ⟨hnamed, trivial, fun _ key hkey => absurd hkey List.not_mem_nil⟩
  next =>
    have hall := BatchWrite.all_recursiveBatchWriteItem lo keys 2
    refine ⟨hnamed, ?_, ?_⟩
    · apply Calls.All.always
      apply hall.bind
      intro log written haccounted
      rw [Calls.All, List.append_nil]
      intro exchange hmem key hkey
      exact haccounted.mem_of_mem_request hmem hkey
    · apply hall.bind
      intro log written haccounted
      rw [Calls.All, List.append_nil]
      intro hnone key hkey
      have hperm := haccounted.complete (eq_of_deleteResult hnone)
      exact .inl (hperm.mem_iff.mpr hkey)

/-- One more batch. -/
theorem Deletes.batch {request : List Key}
    {rest : BatchWrite.Answer request → Deletion}
    (hdeletes : Deletes s filter keys (.call request rest))
    (answer : BatchWrite.Answer request)
    (hgone : ∀ key ∈ answer.processed, Gone s key) :
    Deletes s filter keys (rest answer) := by
  refine ⟨hdeletes.named, hdeletes.requests.2 answer,
    (hdeletes.complete answer).mono ?_⟩
  intro log result hpost hnone key hkey
  obtain hprocessed | hkeyGone := hpost hnone key hkey
  · obtain hfirst | hlater := List.mem_append.mp hprocessed
    · exact .inr (hgone key hfirst)
    · exact .inl hlater
  · exact .inr hkeyGone

theorem gone_of_mem_delete (hkey : key ∈ keys) :
    Gone (s.delete keys) key := by
  intro hmem
  obtain ⟨row, hrow, rfl⟩ := List.mem_map.mp hmem
  exact of_decide_eq_true (List.mem_filter.mp hrow).2 hkey

/-- The thread a step adds or sets is as it should be if the others are. -/
theorem within_of_stepCase (hcase : StepCase lo s label next)
    (hold : ∀ thread ∈ s.threads, thread.Within next) :
    ∀ thread ∈ next.threads, thread.Within next := by
  have hset : ∀ i new, new.Within next →
      ∀ thread ∈ s.threads.set i new, thread.Within next := by
    intro i new hnew thread hthread
    obtain hmem | rfl := List.mem_or_eq_of_mem_set hthread
    · exact hold thread hmem
    · exact hnew
  have hspawn : ∀ new, new.Within next →
      ∀ thread ∈ s.threads ++ [new], thread.Within next := by
    intro new hnew thread hthread
    obtain hmem | hlast := List.mem_append.mp hthread
    · exact hold thread hmem
    · exact List.mem_singleton.mp hlast ▸ hnew
  have hnothing : ∀ filter, ∀ key ∈ ([] : List Key),
      Named next filter key := fun _ _ hmem => absurd hmem List.not_mem_nil
  cases hcase with
  | advance elapsed => exact hold
  | create auth call => exact hold
  | consume auth => exact hspawn _ trivial
  | deleteAll auth => exact hspawn _ ⟨List.mem_cons_self, hnothing _⟩
  | cleanUp => exact hspawn _ ⟨Int.le_refl _, hnothing _⟩
  | readMore view upTo _ => exact hset _ _ trivial
  | readLast view _ =>
    unfold State.consumed at hset hnothing ⊢
    split
    · next hnil =>
      rw [if_pos hnil] at hset
      exact hset _ _ trivial
    · next hnil =>
      rw [if_neg hnil] at hset hnothing
      exact hset _ _ ⟨trivial, hnothing _⟩
  | readFails i => exact hset _ _ trivial
  | @selectPage i filter keys view more hview hthread =>
    obtain ⟨hgrounded, hnamed⟩ := hold _ hthread
    have hall : ∀ key ∈ keys ++ select filter view,
        Named s filter key := by
      intro key hkey
      obtain hmem | hmem := List.mem_append.mp hkey
      · exact hnamed key hmem
      · exact named_of_mem_select hview hmem
    apply hset
    split
    · exact ⟨hgrounded, hall⟩
    · exact ⟨hgrounded, deletes_deleteKeys hall⟩
  | selectFails err hthread =>
    obtain ⟨hgrounded, -⟩ := hold _ hthread
    refine hset _ _ ⟨hgrounded, hnothing _, trivial, ?_⟩
    intro hnone
    cases hnone
  | batchWriteItem haccounted hthread =>
    obtain ⟨hgrounded, hdeletes⟩ := hold _ hthread
    refine hset _ _ ⟨hgrounded, hdeletes.batch (.wrote _ _ haccounted) ?_⟩
    exact fun key hkey => gone_of_mem_delete hkey
  | batchWriteItemFails _ hthread =>
    obtain ⟨hgrounded, hdeletes⟩ := hold _ hthread
    refine hset _ _ ⟨hgrounded, hdeletes.batch .failed ?_⟩
    exact fun key hkey => absurd hkey List.not_mem_nil

theorem Inv.step (hinv : Inv s) (hnew : NewKey s label)
    (hstep : step lo s label = some next) : Inv next := by
  have hcase := stepCase_of_step hstep
  have hframe := frame_of_stepCase hcase
  refine ⟨?_, ?_, ?_⟩
  · obtain hsame | ⟨auth, call, rfl, hcons⟩ := hframe.committed
    · rw [hsame]
      exact hinv.nodup
    · rw [hcons]
      exact List.nodup_cons.mpr ⟨hnew, hinv.nodup⟩
  · intro row hrow
    obtain hold | ⟨auth, call, rfl, rfl⟩ := hframe.added row hrow
    · exact hframe.committed_subset (hinv.table hold)
    · cases hcase
      exact List.mem_cons_self
  · apply within_of_stepCase hcase
    exact fun thread hthread => (hinv.threads thread hthread).frame hframe hnew

theorem inv_start : Inv {} where
  nodup := List.nodup_nil
  table := List.nil_subset _
  threads _ hthread := absurd hthread List.not_mem_nil

theorem inv_of_reach (hreach : Reach (step lo) NewKey {} s) : Inv s :=
  Reach.invariant Inv inv_start
    (fun _ _ _ hinv hnew hstep => hinv.step hnew hstep) hreach

/-- A row is still there or was asked for by the delete in whose batch it
was. -/
theorem Inv.removed (hinv : Inv s) (hnew : NewKey s label)
    (hstep : PendingDrain.step lo s label = some next) (hrow : row ∈ s.table) :
    row ∈ next.table ∨ ∃ filter keys request rest,
      Thread.deleting filter keys (.call request rest) ∈ s.threads ∧
        filter.Selects row ∧ filter.Grounded s := by
  have hframe := frame_of_stepCase (stepCase_of_step hstep)
  obtain hkept | hbatch | ⟨auth, call, rfl, hkey⟩ := hframe.removed row hrow
  · exact .inl hkept
  · obtain ⟨filter, keys, request, rest, hthread, hkey⟩ := hbatch
    obtain ⟨hgrounded, hdeletes⟩ := hinv.threads _ hthread
    have hnamed := hdeletes.named _ (hdeletes.requests.1 _ hkey)
    exact .inr ⟨filter, keys, request, rest, hthread,
      hinv.selects hrow hnamed, hgrounded⟩
  · refine absurd ?_ hnew
    exact hkey ▸ List.mem_map_of_mem (hinv.table hrow)

/-- A message is buffered, a drain reads it and selects it for deletion. -/
def drainRun : List Label :=
  let auth : WebsocketAuth := { userID := [0x75], instanceID := [0x69] }
  let call : PendingBackends.Create :=
    { sendAt := 10, message := [0x61], expiresAt := 100 }
  [.create auth call, .consume auth, .readPage 0 [call.row auth] none,
    .selectPage 0 [call.row auth] false]

/-- The batch that deletes it. -/
def drainBatch : Label :=
  .batchWriteItem 0 [([0x75, 0x3A, 0x69], 10)] []

/-- A delete that returned no error has deleted every key its pages told it,
and none of them is stored again. -/
theorem gone_of_succeeded (hreach : Reach (step lo) NewKey {} s)
    {filter : Filter} {keys : List Key}
    (hthread : .deleting filter keys (.done none) ∈ s.threads) :
    ∀ row ∈ s.table, rowKey row ∉ keys := by
  intro row hrow hkey
  obtain ⟨-, hdeletes⟩ := (inv_of_reach hreach).threads _ hthread
  obtain hprocessed | hgone := hdeletes.complete rfl (rowKey row) hkey
  · cases hprocessed
  · exact hgone (List.mem_map_of_mem hrow)

/-- Another message commits behind the read; the drain leaves it. -/
theorem gone_of_succeeded_drained :
    let s := final (step BatchWrite.fullParts) {} (drainRun ++
      [.create { userID := [0x75], instanceID := [0x69] } ⟨11, [0x62], 100⟩,
        drainBatch])
    s.table.length = 1 ∧
      ∀ row ∈ s.table, rowKey row ∉ [([0x75, 0x3A, 0x69], (10 : Int))] :=
  ⟨by decide +kernel, gone_of_succeeded
    (reach_final (by decide +kernel) (by decide +kernel))
    (List.mem_of_getElem? (i := 0) rfl)⟩

end Keys

end PendingDrain

end Pipewave
