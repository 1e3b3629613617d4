/-
The cleanup of expired connections in DynamoDB, interleaved with the calls of
other containers.  A cleanup first scans for the keys of expired items, page
by page, and then deletes them in batches by key alone.
-/
import Pipewave.BatchWrite
import Pipewave.ConnBackends
import Pipewave.Transition

namespace Pipewave

namespace ConnBackends

/-- `DELETE FROM active_connections WHERE ttl < NOW()`. -/
def Postgres.cleanUpExpiredConnections (table : Postgres.Table) (now : Int) :
    Postgres.Table :=
  table.deleteWhere fun _ row => row.ttl < now

/-- One statement deletes exactly the rows that are expired when it runs. -/
theorem Postgres.lookup_cleanUp (table : Postgres.Table) (now : Int)
    (session : Session) :
    (cleanUpExpiredConnections table now).lookup session =
      (table.lookup session).filter fun row => !decide (row.ttl < now) :=
  GoMap.lookup_deleteWhere _ table session

end ConnBackends

namespace ConnCleanup

open ConnBackends
open Transition

/-- The filter expression of the scan. -/
def Expired (ttl : Dynamo.AttributeValue) (now : Int) : Prop :=
  (Dynamo.AttributeValue.n now).greaterThan ttl = true

instance (ttl : Dynamo.AttributeValue) (now : Int) :
    Decidable (Expired ttl now) :=
  inferInstanceAs (Decidable (_ = true))

abbrev Deletion := BatchWrite.Program Session (Option String)

/-- The text of the error, if there is one. -/
def cleanUpResult (written : List Session × Option String) : Option String :=
  match written.2 with
  | some err => some err
  | none =>
    if 0 < written.1.length then
      some ("failed to delete " ++ toString written.1.length ++
        " expired active connections")
    else none

def deleteKeys (lo : BatchWrite.Chunking Session) (keys : List Session) :
    Deletion :=
  if keys = [] then .done none
  else (BatchWrite.recursiveBatchWriteItem lo keys 2).bind fun written =>
    .done (cleanUpResult written)

/-- A call of `CleanUpExpiredConnections` that reads its clock as `before`. -/
inductive Thread where
  | scanning (before : Int) (keys : List Session)
  | deleting (rest : Deletion)

/-- A row deleted by a cleanup. -/
structure Deleted where
  time : Int
  ttl : Dynamo.AttributeValue
deriving DecidableEq

/-- `renewed` has the time of the last `AddConnection` or `UpdateHeartBeat`
that set the TTL of a session, and `deleted` what the cleanups deleted. -/
structure State where
  now : Int
  table : Dynamo.Table
  threads : List Thread := []
  renewed : GoMap Session Int := ∅
  deleted : List Deleted := []

/-- One atomic step.  A page of the scan is the part of a segment of the table
that passes the filter. -/
inductive Label where
  | advance (elapsed : Nat)
  | request (call : Call)
  | start
  | scanPage (i : Nat) (segment : List Session) (more : Bool)
  | scanFails (i : Nat) (err : String)
  | batchWriteItem (i : Nat) (processed unprocessed : List Session)
  | batchWriteItemFails (i : Nat)

namespace State

variable (s : State)

def setThread (i : Nat) (thread : Thread) : State :=
  { s with threads := s.threads.set i thread }

def page (before : Int) (segment : List Session) : List Session :=
  segment.filter fun session =>
    (s.table.lookup session).any fun item => Expired item.ttl before

/-- The session whose TTL the call sets. -/
def renewedBy : Call → Option Session
  | .addConnection session _ _ => some session
  | .updateHeartBeat session =>
    if (s.table.lookup session).isSome then some session else none
  | _ => none

def rowsOf (keys : List Session) : List Deleted :=
  keys.filterMap fun session =>
    (s.table.lookup session).map fun item => ⟨s.now, item.ttl⟩

def delete (keys : List Session) : State :=
  { s with
    table := keys.foldl (fun table session => table.erase session) s.table
    deleted := s.deleted ++ s.rowsOf keys }

end State

section Steps

variable (lo : BatchWrite.Chunking Session) (service : Dynamo.Service)
  (cutoff : Int)

def serve (s : State) (call : Call) : State :=
  { s with
    table := (Dynamo.serve service cutoff s.table ⟨s.now, call⟩).1
    renewed := match s.renewedBy call with
      | none => s.renewed
      | some session => s.renewed.insert session s.now }

def step (s : State) : Label → Option State
  | .advance elapsed => some { s with now := s.now + elapsed }
  | .request call => some (serve service cutoff s call)
  | .start => some { s with threads := s.threads ++ [.scanning s.now []] }
  | .scanPage i segment more =>
    match s.threads[i]? with
    | some (.scanning before keys) =>
      let keys := keys ++ s.page before segment
      some (s.setThread i
        (if more then .scanning before keys
          else .deleting (deleteKeys lo keys)))
    | _ => none
  | .scanFails i err =>
    match s.threads[i]? with
    | some (.scanning _ _) =>
      some (s.setThread i (.deleting (.done (some err))))
    | _ => none
  | .batchWriteItem i processed unprocessed =>
    match s.threads[i]? with
    | some (.deleting (.call request next)) =>
      if accounted : (processed ++ unprocessed).Perm request then
        some ((s.delete processed).setThread i
          (.deleting (next (.wrote processed unprocessed accounted))))
      else none
    | _ => none
  | .batchWriteItemFails i =>
    match s.threads[i]? with
    | some (.deleting (.call _ next)) =>
      some (s.setThread i (.deleting (next .failed)))
    | _ => none

end Steps

/-- Every row a cleanup deleted was expired at the time. -/
def DeletesExpired (s : State) : Prop :=
  ∀ row ∈ s.deleted, Expired row.ttl row.time

/-- No session with a row in the batch was renewed in the last 61 seconds. -/
def NotRenewed (s : State) : Label → Prop
  | .batchWriteItem _ processed _ => ∀ session ∈ processed,
      (s.table.lookup session).isSome = true →
        ∀ r ∈ s.renewed.lookup session, ttlOf r < s.now
  | _ => True

instance (s : State) (label : Label) : Decidable (NotRenewed s label) := by
  unfold NotRenewed
  split <;> infer_instance

/-! ### What a step does to the table -/

section Table

variable {table : Dynamo.Table} {session other : Session}

theorem Expired.mono {ttl : Dynamo.AttributeValue} {now later : Int}
    (hexpired : Expired ttl now) (hle : now ≤ later) : Expired ttl later := by
  cases ttl with
  | n number =>
    simp only [Expired, Dynamo.AttributeValue.greaterThan,
      decide_eq_true_eq] at hexpired ⊢
    omega
  | s text => cases hexpired

variable {change : Dynamo.Item → Dynamo.Item} {item : Dynamo.Item}

theorem lookup_update_some
    (hlookup : (Dynamo.update table session change).lookup other = some item) :
    ∃ before, table.lookup other = some before ∧
      ((other = session ∧ item = change before) ∨
        (other ≠ session ∧ item = before)) := by
  unfold Dynamo.update at hlookup
  split at hlookup
  next hnone =>
    refine ⟨item, hlookup, .inr ⟨?_, rfl⟩⟩
    rintro rfl
    rw [hlookup] at hnone
    cases hnone
  next before hsome =>
    obtain ⟨rfl, rfl⟩ | ⟨hother, hbefore⟩ := GoMap.lookup_insert_some hlookup
    · exact ⟨before, hsome, .inl ⟨rfl, rfl⟩⟩
    · exact ⟨item, hbefore, .inr ⟨hother, rfl⟩⟩

theorem lookup_create_some {holder : Bytes} {connectionType : WsCoreType}
    {now : Int}
    (hlookup : (Dynamo.create table session holder connectionType now).lookup
      other = some item) :
    (other = session ∧ item.ttl = .n (ttlOf now)) ∨
      (other ≠ session ∧ table.lookup other = some item) := by
  unfold Dynamo.create at hlookup
  split at hlookup
  all_goals
    obtain ⟨rfl, rfl⟩ | ⟨hother, hbefore⟩ := GoMap.lookup_insert_some hlookup
    · exact .inl ⟨rfl, rfl⟩
    · exact .inr ⟨hother, hbefore⟩

/-- A change that leaves the TTL alone. -/
theorem ttl_of_lookup_update
    (hlookup : (Dynamo.update table session change).lookup other = some item)
    (hkeeps : ∀ before, (change before).ttl = before.ttl) :
    ∃ before, table.lookup other = some before ∧ item.ttl = before.ttl := by
  obtain ⟨before, hbefore, ⟨-, rfl⟩ | ⟨-, rfl⟩⟩ := lookup_update_some hlookup
  · exact ⟨before, hbefore, hkeeps before⟩
  · exact ⟨item, hbefore, rfl⟩

end Table

/-! ### Steps -/

section Frames

variable {lo : BatchWrite.Chunking Session} {service : Dynamo.Service}
  {cutoff : Int} {s next : State} {label : Label}

/-- The steps by label. -/
inductive StepCase (lo : BatchWrite.Chunking Session)
    (service : Dynamo.Service) (cutoff : Int) (s : State) :
    Label → State → Prop where
  | advance (elapsed : Nat) : StepCase lo service cutoff s (.advance elapsed)
      { s with now := s.now + elapsed }
  | request (call : Call) :
      StepCase lo service cutoff s (.request call)
        (serve service cutoff s call)
  | start : StepCase lo service cutoff s .start
      { s with threads := s.threads ++ [.scanning s.now []] }
  | scanPage {i : Nat} {before : Int} {keys : List Session}
      (segment : List Session) (more : Bool)
      (thread : .scanning before keys ∈ s.threads) :
      StepCase lo service cutoff s (.scanPage i segment more)
        (s.setThread i
          (if more then .scanning before (keys ++ s.page before segment)
            else .deleting (deleteKeys lo (keys ++ s.page before segment))))
  | scanFails (i : Nat) (err : String) :
      StepCase lo service cutoff s (.scanFails i err)
        (s.setThread i (.deleting (.done (some err))))
  | batchWriteItem {i : Nat} {processed unprocessed request : List Session}
      {next : BatchWrite.Answer request → Deletion}
      (accounted : (processed ++ unprocessed).Perm request)
      (thread : .deleting (.call request next) ∈ s.threads) :
      StepCase lo service cutoff s (.batchWriteItem i processed unprocessed)
        ((s.delete processed).setThread i
          (.deleting (next (.wrote processed unprocessed accounted))))
  | batchWriteItemFails {i : Nat} {request : List Session}
      {next : BatchWrite.Answer request → Deletion}
      (thread : .deleting (.call request next) ∈ s.threads) :
      StepCase lo service cutoff s (.batchWriteItemFails i)
        (s.setThread i (.deleting (next .failed)))

theorem stepCase_of_step (hstep : step lo service cutoff s label = some next) :
    StepCase lo service cutoff s label next := by
  cases label with
  | advance elapsed =>
    cases hstep
    exact .advance elapsed
  | request call =>
    cases hstep
    exact .request call
  | start =>
    cases hstep
    exact .start
  | scanPage i segment more =>
    simp only [step] at hstep
    split at hstep
    next before keys hthread =>
      cases hstep
      exact .scanPage segment more (List.mem_of_getElem? hthread)
    next => cases hstep
  | scanFails i err =>
    simp only [step] at hstep
    split at hstep
    · cases hstep
      exact .scanFails i err
    · cases hstep
  | batchWriteItem i processed unprocessed =>
    simp only [step] at hstep
    split at hstep
    next request rest hthread =>
      split at hstep
      next accounted =>
        cases hstep
        exact .batchWriteItem accounted (List.mem_of_getElem? hthread)
      next => cases hstep
    next => cases hstep
  | batchWriteItemFails i =>
    simp only [step] at hstep
    split at hstep
    next request rest hthread =>
      cases hstep
      exact .batchWriteItemFails (List.mem_of_getElem? hthread)
    next => cases hstep

/-- What a step keeps: an item is renewed by it or has the TTL it had. -/
structure Frame (s next : State) : Prop where
  now : s.now ≤ next.now
  deleted : s.deleted <+: next.deleted
  item : ∀ session item, next.table.lookup session = some item →
    (∃ r, next.renewed.lookup session = some r ∧
        item.ttl = .n (ttlOf r)) ∨
      (next.renewed.lookup session = s.renewed.lookup session ∧
        ∃ before, s.table.lookup session = some before ∧
          item.ttl = before.ttl)

theorem Frame.of_table (hnow : s.now ≤ next.now)
    (hdeleted : s.deleted <+: next.deleted)
    (hrenewed : next.renewed = s.renewed)
    (htable : ∀ session item, next.table.lookup session = some item →
      s.table.lookup session = some item) : Frame s next where
  now := hnow
  deleted := hdeleted
  item session item hlookup :=
    .inr ⟨by rw [hrenewed], item, htable session item hlookup, rfl⟩

theorem frame_serve (call : Call) : Frame s (serve service cutoff s call) where
  now := Int.le_refl s.now
  deleted := List.prefix_rfl
  item := by
    intro other item hlookup
    cases call with
    | addConnection session holder connectionType =>
      obtain ⟨rfl, httl⟩ | ⟨hother, hbefore⟩ := lookup_create_some hlookup
      · exact .inl ⟨s.now, AList.lookup_insert _, httl⟩
      · exact .inr ⟨AList.lookup_insert_ne hother, item, hbefore, rfl⟩
    | updateHeartBeat session =>
      obtain ⟨before, hbefore, ⟨rfl, rfl⟩ | ⟨hother, rfl⟩⟩ :=
        lookup_update_some hlookup
      · refine .inl ⟨s.now, ?_, rfl⟩
        simp [serve, State.renewedBy, hbefore]
      · refine .inr ⟨?_, item, hbefore, rfl⟩
        simp only [serve, State.renewedBy]
        split
        · rfl
        next found hfound =>
          split at hfound
          · cases hfound
            exact AList.lookup_insert_ne hother
          · cases hfound
    | updateStatus session status =>
      exact .inr ⟨rfl, ttl_of_lookup_update hlookup fun _ => rfl⟩
    | updateStatusTransferring session =>
      exact .inr ⟨rfl, ttl_of_lookup_update hlookup fun _ => rfl⟩
    | removeConnection session =>
      exact .inr ⟨rfl, item, (GoMap.lookup_erase_some hlookup).2, rfl⟩
    | getInstanceConnection session => exact .inr ⟨rfl, item, hlookup, rfl⟩
    | getActiveConnections userID => exact .inr ⟨rfl, item, hlookup, rfl⟩
    | countActiveConnections userID => exact .inr ⟨rfl, item, hlookup, rfl⟩

theorem frame_of_stepCase (hcase : StepCase lo service cutoff s label next) :
    Frame s next := by
  have hself : ∀ session item, s.table.lookup session = some item →
      s.table.lookup session = some item := fun _ _ hlookup => hlookup
  cases hcase with
  | advance elapsed =>
    exact .of_table (Int.le_add_of_nonneg_right (Int.natCast_nonneg elapsed))
      List.prefix_rfl rfl hself
  | request call => exact frame_serve call
  | start => exact .of_table (Int.le_refl _) List.prefix_rfl rfl hself
  | scanPage segment more _ =>
    exact .of_table (Int.le_refl _) List.prefix_rfl rfl hself
  | scanFails i err =>
    exact .of_table (Int.le_refl _) List.prefix_rfl rfl hself
  | batchWriteItem _ _ =>
    exact .of_table (Int.le_refl _) (List.prefix_append _ _) rfl
      fun _ _ => GoMap.lookup_foldl_erase_some
  | batchWriteItemFails _ =>
    exact .of_table (Int.le_refl _) List.prefix_rfl rfl hself

end Frames

/-! ### Selected keys -/

/-- The row of the session, unless it was renewed, is expired. -/
def Selected (s : State) (session : Session) : Prop :=
  ∀ item, s.table.lookup session = some item →
    s.renewed.lookup session = none → Expired item.ttl s.now

/-- The keys a thread has read or may still delete were selected. -/
def Thread.Within (s : State) : Thread → Prop
  | .scanning before keys =>
    before ≤ s.now ∧ ∀ session ∈ keys, Selected s session
  | .deleting rest =>
    rest.Always fun request => ∀ session ∈ request, Selected s session

structure Inv (s : State) : Prop where
  renewed : ∀ session item r, s.table.lookup session = some item →
    s.renewed.lookup session = some r → item.ttl = .n (ttlOf r)
  threads : ∀ thread ∈ s.threads, thread.Within s

section Selection

variable {lo : BatchWrite.Chunking Session} {service : Dynamo.Service}
  {cutoff : Int} {s next : State} {label : Label}

variable {session : Session}

theorem Selected.frame (hframe : Frame s next)
    (hselected : Selected s session) : Selected next session := by
  intro item hitem hnone
  obtain ⟨r, hsome, -⟩ | ⟨hsame, before, hbefore, httl⟩ :=
    hframe.item session item hitem
  · rw [hnone] at hsome
    cases hsome
  · rw [hsame] at hnone
    rw [httl]
    exact (hselected before hbefore hnone).mono hframe.now

theorem Thread.Within.frame {thread : Thread} (hframe : Frame s next)
    (hwithin : thread.Within s) : thread.Within next := by
  cases thread with
  | scanning before keys =>
    obtain ⟨hbefore, hkeys⟩ := hwithin
    exact ⟨Int.le_trans hbefore hframe.now,
      fun session hsession => (hkeys session hsession).frame hframe⟩
  | deleting rest =>
    apply Calls.Always.mono _ hwithin
    exact fun request hrequest session hsession =>
      (hrequest session hsession).frame hframe

theorem selected_of_mem_page {before : Int} (hbefore : before ≤ s.now)
    {segment : List Session} (hmem : session ∈ s.page before segment) :
    Selected s session := by
  intro item hitem _
  obtain ⟨-, hexpired⟩ := List.mem_filter.mp hmem
  rw [hitem, Option.any_some] at hexpired
  exact (of_decide_eq_true hexpired).mono hbefore

/-- The batches ask for nothing but the keys of the scan. -/
theorem always_deleteKeys {keys : List Session}
    (hkeys : ∀ session ∈ keys, Selected s session) :
    (deleteKeys lo keys).Always fun request =>
      ∀ session ∈ request, Selected s session := by
  unfold deleteKeys
  split
  · trivial
  · apply Calls.All.always
    apply (BatchWrite.all_recursiveBatchWriteItem lo keys 2).bind
    intro log written haccounted
    rw [Calls.All, List.append_nil]
    intro exchange hmem session hsession
    exact hkeys session (haccounted.mem_of_mem_request hmem hsession)

theorem within_of_stepCase (hinv : Inv s)
    (hcase : StepCase lo service cutoff s label next) :
    ∀ thread ∈ next.threads, thread.Within s := by
  have hset : ∀ i new, new.Within s →
      ∀ thread ∈ s.threads.set i new, thread.Within s := by
    intro i new hnew thread hthread
    obtain hold | rfl := List.mem_or_eq_of_mem_set hthread
    · exact hinv.threads thread hold
    · exact hnew
  cases hcase with
  | advance elapsed => exact hinv.threads
  | request call => exact hinv.threads
  | start =>
    intro thread hthread
    obtain hold | hnew := List.mem_append.mp hthread
    · exact hinv.threads thread hold
    · rw [List.mem_singleton.mp hnew]
      exact ⟨Int.le_refl s.now, fun _ hmem => absurd hmem List.not_mem_nil⟩
  | @scanPage i before keys segment more hthread =>
    obtain ⟨hbefore, hkeys⟩ := hinv.threads _ hthread
    have hall : ∀ session ∈ keys ++ s.page before segment,
        Selected s session := by
      intro session hmem
      obtain hold | hnew := List.mem_append.mp hmem
      · exact hkeys session hold
      · exact selected_of_mem_page hbefore hnew
    apply hset
    split
    · exact ⟨hbefore, hall⟩
    · exact always_deleteKeys hall
  | scanFails i err => exact hset i _ trivial
  | batchWriteItem _ hthread =>
    exact hset _ _ ((hinv.threads _ hthread).2 _)
  | batchWriteItemFails hthread =>
    exact hset _ _ ((hinv.threads _ hthread).2 _)

theorem Inv.step (hinv : Inv s)
    (hstep : step lo service cutoff s label = some next) : Inv next := by
  have hcase := stepCase_of_step hstep
  have hframe := frame_of_stepCase hcase
  constructor
  · intro session item r hitem hrenewed
    obtain ⟨r', hsome, httl⟩ | ⟨hsame, before, hbefore, httl⟩ :=
      hframe.item session item hitem
    · rw [hrenewed] at hsome
      cases hsome
      exact httl
    · rw [httl]
      exact hinv.renewed session before r hbefore (hsame ▸ hrenewed)
  · intro thread hthread
    exact (within_of_stepCase hinv hcase thread hthread).frame hframe

/-- A row in a batch is expired exactly if its session was not renewed in the
last 61 seconds. -/
theorem expired_iff_of_selected (hinv : Inv s) (hselected : Selected s session)
    {item : Dynamo.Item} (hitem : s.table.lookup session = some item) :
    Expired item.ttl s.now ↔
      ∀ r ∈ s.renewed.lookup session, ttlOf r < s.now := by
  cases hrenewed : s.renewed.lookup session with
  | none => exact iff_of_true (hselected item hitem hrenewed) (by simp)
  | some r =>
    rw [hinv.renewed session item r hitem hrenewed]
    simp [Expired, Dynamo.AttributeValue.greaterThan]

theorem deletesExpired_delete (keys : List Session) :
    DeletesExpired (s.delete keys) ↔ DeletesExpired s ∧
      ∀ session ∈ keys, ∀ item, s.table.lookup session = some item →
        Expired item.ttl s.now := by
  simp only [DeletesExpired, State.delete, State.rowsOf, List.mem_append,
    List.mem_filterMap, Option.map_eq_some_iff, or_imp, forall_and]
  refine and_congr_right fun _ => ?_
  constructor
  · intro hrows session hsession item hitem
    exact hrows ⟨s.now, item.ttl⟩ ⟨session, hsession, item, hitem, rfl⟩
  · rintro hrows row ⟨session, hsession, item, hitem, rfl⟩
    exact hrows session hsession item hitem

theorem deletesExpired_iff_notRenewed (hinv : Inv s)
    (hexpired : DeletesExpired s)
    (hstep : step lo service cutoff s label = some next) :
    DeletesExpired next ↔ NotRenewed s label := by
  cases stepCase_of_step hstep with
  | @batchWriteItem i processed unprocessed request _ haccounted hthread =>
    have hselected : ∀ session ∈ processed, Selected s session := by
      intro session hmem
      apply (hinv.threads _ hthread).1 session
      exact haccounted.subset (List.mem_append_left _ hmem)
    refine (deletesExpired_delete processed).trans ?_
    rw [and_iff_right hexpired]
    refine forall₂_congr fun session hsession => ?_
    rw [Option.isSome_iff_exists, forall_exists_index]
    exact forall₂_congr fun item hitem =>
      expired_iff_of_selected hinv (hselected session hsession) hitem
  | _ => exact iff_of_true hexpired trivial

end Selection

/-- In every run from any table: the cleanups delete expired rows only, exactly
if no batch deletes the row of a session renewed in the last 61 seconds. -/
theorem deletesExpired_iff_meets (lo : BatchWrite.Chunking Session)
    (service : Dynamo.Service) (cutoff : Int) (table : Dynamo.Table)
    (now : Int) {labels : List Label} {last : State}
    (hrun : run (step lo service cutoff) { now, table } labels = some last) :
    DeletesExpired last ↔
      Meets (step lo service cutoff) NotRenewed { now, table } labels := by
  have hstart : Inv { now, table } := by
    refine ⟨fun session item r _ hrenewed => ?_, fun thread hthread => ?_⟩
    · cases hrenewed
    · cases hthread
  rw [← along_iff_final DeletesExpired ?_ hrun]
  · exact along_iff_meets Inv DeletesExpired
      (fun _ _ _ hinv hstep => hinv.step hstep)
      (fun _ _ _ hinv hexpired hstep =>
        deletesExpired_iff_notRenewed hinv hexpired hstep)
      hstart (fun row hrow => absurd hrow List.not_mem_nil) hrun
  · intro state label next hstep hexpired row hrow
    have hframe := frame_of_stepCase (stepCase_of_step hstep)
    exact hexpired row (hframe.deleted.subset hrow)

/-- A connection that is never heard of again: its row is found expired after
61 seconds and a millisecond, and the next step is `between`. -/
def cleanupRun (between : List Label) : List Label :=
  [.request (.addConnection sessionUI [0x70] .gobwas), .advance 61001, .start,
    .scanPage 0 [sessionUI] false] ++ between ++
  [.batchWriteItem 0 [sessionUI] []]

theorem deletesExpired_cleanupRun :
    let last := final
      (step BatchWrite.fullParts (wholeQuery fun _ => []) 0)
      ⟨0, ∅, [], ∅, []⟩ (cleanupRun [.advance 5])
    last.deleted = [⟨61006, .n 61000⟩] ∧ DeletesExpired last :=
  ⟨by decide +kernel, (deletesExpired_iff_meets BatchWrite.fullParts
    (wholeQuery fun _ => []) 0 ∅ 0
    (run_eq_final (by decide +kernel))).mpr (by decide +kernel)⟩

/-- The session sends a heartbeat between the scan and the batch.  Its row,
which is good for another 61 seconds, is deleted. -/
theorem cleanup_deletes_renewed :
    let last := final
      (step BatchWrite.fullParts (wholeQuery fun _ => []) 0)
      ⟨0, ∅, [], ∅, []⟩ (cleanupRun [.request (.updateHeartBeat sessionUI)])
    last.now = 61001 ∧ last.renewed.lookup sessionUI = some 61001 ∧
      last.deleted = [⟨61001, .n 122001⟩] ∧
      last.table.lookup sessionUI = none ∧ ¬ DeletesExpired last := by
  refine ⟨by decide +kernel, by decide +kernel, by decide +kernel,
    by decide +kernel, ?_⟩
  intro hexpired
  have hrow := hexpired ⟨61001, .n 122001⟩ (by decide +kernel)
  exact absurd hrow (by decide)

end ConnCleanup

end Pipewave
