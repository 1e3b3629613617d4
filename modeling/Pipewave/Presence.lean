/-
Who is online, by the rows of PostgreSQL.  A user is online while some session
of theirs was added or sent a heartbeat after the cutoff and was not removed or
cleaned up since; the answer for many users is the answers for each of them.
-/
import Pipewave.ConnCleanup

namespace Pipewave

namespace Presence

open ConnBackends

/-- The rows `WHERE user_id = $1 AND last_heartbeat > $2`. -/
def recentOf (table : Postgres.Table) (userID : Bytes) (cutoff now : Int) :
    List (Sigma fun _ : Session => Postgres.Row) :=
  table.entries.filter fun entry =>
    entry.1.userID.1 = userID ∧ entry.2.Recent cutoff now

def countActiveConnections (table : Postgres.Table) (userID : Bytes)
    (cutoff now : Int) : Nat :=
  (recentOf table userID cutoff now).length

def checkOnline (table : Postgres.Table) (userID : Bytes)
    (cutoff now : Int) : Bool :=
  decide (0 < countActiveConnections table userID cutoff now)

structure SessionInfo where
  userID : Bytes
  instanceID : NonEmptyID
  holderID : Bytes
  connectionType : WsCoreType
  status : WsStatus
  connectedAt : Int
deriving DecidableEq

def getUserSessions (table : Postgres.Table) (userID : Bytes)
    (cutoff now : Int) : List SessionInfo :=
  (recentOf table userID cutoff now).map fun entry =>
    let conn := entry.2.entity entry.1
    { userID
      instanceID := conn.instanceID
      holderID := conn.holderID
      connectionType := conn.connectionType
      status := conn.status
      connectedAt := conn.connectedAt }

/-- The answer to the grouped count: a row for every listed user who has a
recent connection, in any order. -/
structure IsGrouping (table : Postgres.Table) (userIDs : List Bytes)
    (cutoff now : Int) (rows : List (Bytes × Nat)) : Prop where
  nodup : (rows.map Prod.fst).Nodup
  mem_iff : ∀ userID count, (userID, count) ∈ rows ↔
    userID ∈ userIDs ∧ 0 < count ∧
      count = countActiveConnections table userID cutoff now

/-- `CountActiveConnectionsBatch` of the PostgreSQL repository. -/
def countActiveConnectionsBatch (userIDs : List Bytes)
    (rows : List (Bytes × Nat)) : GoMap Bytes Nat :=
  let result := rows.foldl (fun result row => result.insert row.1 row.2) ∅
  userIDs.foldl
    (fun result uid => if uid ∈ result then result else result.insert uid 0)
    result

/-- `CountActiveConnectionsBatch` of the DynamoDB repository, by the count of
one user. -/
def countEach (count : Bytes → Nat) (userIDs : List Bytes) :
    GoMap Bytes Nat :=
  userIDs.foldl (fun result uid => result.insert uid (count uid)) ∅

def checkOnlineMultiple (counts : GoMap Bytes Nat) : GoMap Bytes Bool :=
  counts.entries.foldl
    (fun result entry => result.insert entry.1 (decide (0 < entry.2))) ∅

/-! ### Many users -/

section Batch

theorem lookup_fillZeros (userIDs : List Bytes) (result : GoMap Bytes Nat)
    (userID : Bytes) :
    (userIDs.foldl (fun result uid =>
        if uid ∈ result then result else result.insert uid 0) result).lookup
        userID =
      if userID ∈ userIDs then some ((result.lookup userID).getD 0)
      else result.lookup userID := by
  induction userIDs generalizing result with
  | nil => simp
  | cons uid rest ih =>
    rw [List.foldl_cons, ih]
    by_cases hsame : uid = userID
    · subst hsame
      by_cases hmem : uid ∈ result
      · obtain ⟨count, hcount⟩ := Option.isSome_iff_exists.mp
          (AList.lookup_isSome.mpr hmem)
        simp [hmem, hcount]
      · simp [hmem, AList.lookup_eq_none.mpr hmem]
    · have hlookup : (if uid ∈ result then result
          else result.insert uid 0).lookup userID =
            result.lookup userID := by
        split
        · rfl
        · exact AList.lookup_insert_ne (Ne.symm hsame)
      rw [hlookup]
      simp [Ne.symm hsame]

theorem lookup_checkOnlineMultiple (counts : GoMap Bytes Nat)
    (userID : Bytes) : (checkOnlineMultiple counts).lookup userID =
      (counts.lookup userID).map fun count => decide (0 < count) := by
  unfold checkOnlineMultiple
  cases hcount : counts.lookup userID with
  | none =>
    have hnot : ∀ entry ∈ counts.entries, entry.1 = userID →
        decide (0 < entry.2) = false := by
      rintro ⟨uid, count⟩ hentry rfl
      rw [AList.mem_lookup_iff.mpr hentry] at hcount
      cases hcount
    rw [GoMap.lookup_foldl_insert hnot, if_neg]
    · rfl
    · intro hmem
      exact AList.lookup_eq_none.mp hcount hmem
  | some count =>
    have hentry := AList.mem_lookup_iff.mp hcount
    have hsame : ∀ entry ∈ counts.entries, entry.1 = userID →
        decide (0 < entry.2) = decide (0 < count) := by
      rintro ⟨uid, other⟩ hother rfl
      rw [AList.mem_lookup_iff.mpr hother] at hcount
      cases hcount
      rfl
    rw [GoMap.lookup_foldl_insert hsame, if_pos]
    · rfl
    · exact List.mem_map_of_mem hentry

variable {table : Postgres.Table} {userIDs : List Bytes} {cutoff now : Int}

/-- The rows that were read end early if the answer breaks off, which the
loop over them does not notice. -/
theorem lookup_countActiveConnectionsBatch {rows read : List (Bytes × Nat)}
    (hrows : IsGrouping table userIDs cutoff now rows)
    (hread : read.Sublist rows) (userID : Bytes) :
    (countActiveConnectionsBatch userIDs read).lookup userID =
      if userID ∈ userIDs then
        some (if userID ∈ read.map Prod.fst then
          countActiveConnections table userID cutoff now else 0)
      else none := by
  have hcounts : ∀ row ∈ read, row.1 = userID →
      row.2 = countActiveConnections table userID cutoff now := by
    rintro ⟨uid, count⟩ hrow rfl
    exact ((hrows.mem_iff uid count).mp (hread.subset hrow)).2.2
  rw [countActiveConnectionsBatch, lookup_fillZeros,
    GoMap.lookup_foldl_insert hcounts]
  by_cases hlisted : userID ∈ userIDs
  · rw [if_pos hlisted, if_pos hlisted]
    by_cases hmem : userID ∈ read.map Prod.fst
    · rw [if_pos hmem, if_pos hmem]
      rfl
    · rw [if_neg hmem, if_neg hmem]
      rfl
  · rw [if_neg hlisted, if_neg hlisted, if_neg]
    · rfl
    · intro hmem
      obtain ⟨⟨uid, count⟩, hrow, rfl⟩ := List.mem_map.mp hmem
      exact hlisted ((hrows.mem_iff uid count).mp (hread.subset hrow)).1

theorem IsGrouping.mem_users_iff {rows : List (Bytes × Nat)}
    (hrows : IsGrouping table userIDs cutoff now rows) {userID : Bytes}
    (hlisted : userID ∈ userIDs) : userID ∈ rows.map Prod.fst ↔
      0 < countActiveConnections table userID cutoff now := by
  constructor
  · intro hmem
    obtain ⟨⟨uid, count⟩, hrow, rfl⟩ := List.mem_map.mp hmem
    obtain ⟨-, hpos, rfl⟩ := (hrows.mem_iff uid count).mp hrow
    exact hpos
  · intro hpos
    exact List.mem_map_of_mem
      ((hrows.mem_iff userID _).mpr ⟨hlisted, hpos, rfl⟩)

theorem lookup_countEach (count : Bytes → Nat) (userIDs : List Bytes)
    (userID : Bytes) : (countEach count userIDs).lookup userID =
      if userID ∈ userIDs then some (count userID) else none := by
  have hcount : ∀ uid ∈ userIDs, uid = userID → count uid = count userID :=
    fun uid _ heq => congrArg count heq
  rw [countEach, GoMap.lookup_foldl_insert hcount, List.map_id']
  by_cases hlisted : userID ∈ userIDs
  · rw [if_pos hlisted, if_pos hlisted]
  · rw [if_neg hlisted, if_neg hlisted]
    rfl

/-- The batch has exactly the listed users, each with the answer they get
alone, whatever the order of the rows and of the list.  If the answer of
PostgreSQL breaks off, users whose row was not read count as offline, and
nobody who is offline counts as online. -/
theorem checkOnlineMultiple_agrees {rows read : List (Bytes × Nat)}
    (hrows : IsGrouping table userIDs cutoff now rows)
    (hread : read.Sublist rows) (count : Bytes → Nat) (userID : Bytes) :
    (checkOnlineMultiple (countActiveConnectionsBatch userIDs rows)).lookup
        userID =
      (if userID ∈ userIDs then some (checkOnline table userID cutoff now)
        else none) ∧
    (checkOnlineMultiple (countActiveConnectionsBatch userIDs read)).lookup
        userID =
      (if userID ∈ userIDs then some (decide (userID ∈ read.map Prod.fst))
        else none) ∧
    (userID ∈ read.map Prod.fst → checkOnline table userID cutoff now) ∧
    (checkOnlineMultiple (countEach count userIDs)).lookup userID =
      if userID ∈ userIDs then some (decide (0 < count userID))
      else none := by
  have hbatch : ∀ {part : List (Bytes × Nat)}, part.Sublist rows →
      (checkOnlineMultiple (countActiveConnectionsBatch userIDs part)).lookup
          userID =
        if userID ∈ userIDs then some (decide (userID ∈ part.map Prod.fst))
        else none := by
    intro part hpart
    rw [lookup_checkOnlineMultiple,
      lookup_countActiveConnectionsBatch hrows hpart]
    split
    next hlisted =>
      have hpos : userID ∈ part.map Prod.fst →
          0 < countActiveConnections table userID cutoff now := fun hmem =>
        (hrows.mem_users_iff hlisted).mp ((hpart.map _).subset hmem)
      by_cases hmem : userID ∈ part.map Prod.fst
      · simp [hmem, hpos hmem]
      · simp [hmem]
    next => rfl
  refine ⟨?_, hbatch hread, ?_, ?_⟩
  · rw [hbatch (List.Sublist.refl rows)]
    split
    next hlisted =>
      rw [checkOnline, decide_eq_decide.mpr (hrows.mem_users_iff hlisted)]
    next => rfl
  · intro hmem
    obtain ⟨⟨uid, found⟩, hrow, rfl⟩ := List.mem_map.mp hmem
    obtain ⟨-, hpos, rfl⟩ :=
      (hrows.mem_iff uid found).mp (hread.subset hrow)
    exact decide_eq_true hpos
  · rw [lookup_checkOnlineMultiple, lookup_countEach]
    split <;> rfl

/-- User `u` has just connected. -/
def connectedU : Postgres.Table :=
  Postgres.addConnection ∅ sessionUI [0x70] .gobwas 1700000000000

/-- Asked for `v` and `u`, the answer breaks off before the row of `u`. -/
theorem checkOnlineMultiple_agrees_connectedU :
    IsGrouping connectedU [[0x76], [0x75]] 60000000000 1700000001000
      [([0x75], 1)] ∧
    checkOnline connectedU [0x75] 60000000000 1700000001000 = true ∧
    (checkOnlineMultiple (countActiveConnectionsBatch [[0x76], [0x75]]
      [([0x75], 1)])).lookup [0x75] = some true ∧
    (checkOnlineMultiple (countActiveConnectionsBatch [[0x76], [0x75]]
      [])).lookup [0x75] = some false := by
  have hrows : IsGrouping connectedU [[0x76], [0x75]] 60000000000
      1700000001000 [([0x75], 1)] := by
    refine ⟨by decide, fun userID count => ?_⟩
    constructor
    · intro hmem
      cases List.mem_singleton.mp hmem
      exact ⟨by decide, by decide, by decide +kernel⟩
    · rintro ⟨hlisted, hpos, hcount⟩
      rcases List.mem_pair.mp hlisted with rfl | rfl
      · have hzero : countActiveConnections connectedU [0x76] 60000000000
            1700000001000 = 0 := by decide +kernel
        omega
      · have hone : countActiveConnections connectedU [0x75] 60000000000
            1700000001000 = 1 := by decide +kernel
        rw [hcount, hone]
        exact List.mem_singleton.mpr rfl
  obtain ⟨hall, hnone, -⟩ := checkOnlineMultiple_agrees hrows
    (List.nil_sublist _) (fun _ => 0) [0x75]
  have honline : checkOnline connectedU [0x75] 60000000000 1700000001000 =
      true := by decide +kernel
  refine ⟨hrows, honline, ?_, ?_⟩
  · rw [hall, if_pos (by decide), honline]
  · rw [hnone, if_pos (by decide)]
    rfl

end Batch

/-! ### Whole runs -/

/-- A call of the store, or its cleanup. -/
inductive Act where
  | call (request : Request)
  | cleanUp (now : Int)

def perform (cutoff : Int) (table : Postgres.Table) : Act → Postgres.Table
  | .call request => (Postgres.serve cutoff table request).1
  | .cleanUp now => Postgres.cleanUpExpiredConnections table now

/-- When a session was last seen, by what was done last about it. -/
def seen (session : Session) (last : Option Int) : Act → Option Int
  | .cleanUp now => last.filter fun time => !decide (ttlOf time < now)
  | .call request =>
    match request.call with
    | .addConnection other _ _ =>
      if other = session then some request.now else last
    | .updateHeartBeat other =>
      if other = session then last.map fun _ => request.now else last
    | .removeConnection other => if other = session then none else last
    | _ => last

def lastSeen (session : Session) (acts : List Act) : Option Int :=
  acts.foldl (seen session) none

/-- The row of a session has the time at which it was last seen. -/
def Tracks (table : Postgres.Table) (session : Session)
    (last : Option Int) : Prop :=
  (table.lookup session).map (fun row => (row.lastHeartbeat, row.ttl)) =
    last.map fun time => (time, ttlOf time)

section Runs

variable {table : Postgres.Table} {session : Session} {last : Option Int}

theorem Tracks.insert_other (htracks : Tracks table session last)
    {other : Session} (hother : ¬ other = session) (row : Postgres.Row) :
    Tracks (table.insert other row) session last := by
  rw [Tracks, AList.lookup_insert_ne (Ne.symm hother)]
  exact htracks

theorem tracks_insert {time : Int} {row : Postgres.Row}
    (htime : row.lastHeartbeat = time) (httl : row.ttl = ttlOf time) :
    Tracks (table.insert session row) session (some time) := by
  rw [Tracks, AList.lookup_insert, Option.map_some, Option.map_some, htime,
    httl]

theorem Tracks.addConnection (htracks : Tracks table session last)
    (other : Session) (holder : Bytes) (connectionType : WsCoreType)
    (now : Int) :
    Tracks (Postgres.addConnection table other holder connectionType now)
      session (if other = session then some now else last) := by
  unfold Postgres.addConnection
  by_cases hsame : other = session
  · subst hsame
    rw [if_pos rfl]
    split
    · exact tracks_insert rfl rfl
    · exact tracks_insert rfl rfl
  · rw [if_neg hsame]
    split
    · exact htracks.insert_other hsame _
    · exact htracks.insert_other hsame _

/-- A change of other columns. -/
theorem Tracks.update (htracks : Tracks table session last)
    (other : Session) {change : Postgres.Row → Postgres.Row}
    (hchange : ∀ row, (change row).lastHeartbeat = row.lastHeartbeat ∧
      (change row).ttl = row.ttl) :
    Tracks (Postgres.update table other change) session last := by
  unfold Postgres.update
  split
  · exact htracks
  next row hrow =>
    by_cases hsame : other = session
    · subst hsame
      unfold Tracks at htracks ⊢
      rw [AList.lookup_insert, ← htracks, hrow, Option.map_some,
        Option.map_some, (hchange row).1, (hchange row).2]
    · exact htracks.insert_other hsame _

theorem Tracks.updateHeartBeat (htracks : Tracks table session last)
    (other : Session) (now : Int) :
    Tracks (Postgres.update table other fun row =>
        { row with lastHeartbeat := now, ttl := ttlOf now })
      session (if other = session then last.map fun _ => now else last) := by
  unfold Postgres.update
  by_cases hsame : other = session
  · subst hsame
    rw [if_pos rfl]
    cases last with
    | none =>
      have hnone : table.lookup other = none := by
        simpa [Tracks] using htracks
      rw [hnone]
      exact htracks
    | some time =>
      obtain ⟨row, hrow, -⟩ := Option.map_eq_some_iff.mp htracks
      rw [hrow]
      exact tracks_insert rfl rfl
  · rw [if_neg hsame]
    split
    · exact htracks
    · exact htracks.insert_other hsame _

theorem Tracks.removeConnection (htracks : Tracks table session last)
    (other : Session) :
    Tracks (table.erase other) session
      (if other = session then none else last) := by
  by_cases hsame : other = session
  · subst hsame
    rw [if_pos rfl, Tracks, AList.lookup_erase]
    rfl
  · rw [if_neg hsame, Tracks, AList.lookup_erase_ne (Ne.symm hsame)]
    exact htracks

theorem Tracks.cleanUp (htracks : Tracks table session last) (now : Int) :
    Tracks (Postgres.cleanUpExpiredConnections table now) session
      (last.filter fun time => !decide (ttlOf time < now)) := by
  unfold Tracks at htracks ⊢
  rw [Postgres.lookup_cleanUp]
  cases hrow : table.lookup session with
  | none =>
    rw [hrow] at htracks
    cases last with
    | none => rfl
    | some time => cases htracks
  | some row =>
    rw [hrow] at htracks
    cases last with
    | none => cases htracks
    | some time =>
      obtain ⟨htime, httl⟩ := Prod.mk.inj (Option.some.inj htracks)
      simp only [Option.filter, httl]
      split
      · rw [Option.map_some, Option.map_some, htime, httl]
      · rfl

theorem tracks_perform (cutoff : Int) (htracks : Tracks table session last)
    (act : Act) :
    Tracks (perform cutoff table act) session (seen session last act) := by
  cases act with
  | cleanUp now => exact htracks.cleanUp now
  | call request =>
    obtain ⟨now, call⟩ := request
    cases call with
    | addConnection other holder connectionType =>
      exact htracks.addConnection other holder connectionType now
    | updateHeartBeat other => exact htracks.updateHeartBeat other now
    | updateStatus other status =>
      exact htracks.update other fun _ => ⟨rfl, rfl⟩
    | updateStatusTransferring other =>
      exact htracks.update other fun _ => ⟨rfl, rfl⟩
    | removeConnection other => exact htracks.removeConnection other
    | getInstanceConnection other => exact htracks
    | getActiveConnections userID => exact htracks
    | countActiveConnections userID => exact htracks

theorem tracks_foldl (cutoff : Int) (acts : List Act)
    (htracks : Tracks table session last) :
    Tracks (acts.foldl (perform cutoff) table) session
      (acts.foldl (seen session) last) := by
  induction acts generalizing table last with
  | nil => exact htracks
  | cons act rest ih => exact ih (tracks_perform cutoff htracks act)

theorem mem_recentOf {userID : Bytes} {cutoff now : Int} {row : Postgres.Row} :
    (⟨session, row⟩ : Sigma fun _ : Session => Postgres.Row) ∈
        recentOf table userID cutoff now ↔
      table.lookup session = some row ∧ session.userID.1 = userID ∧
        row.Recent cutoff now := by
  rw [recentOf, List.mem_filter, decide_eq_true_eq, ← AList.mem_lookup_iff,
    Option.mem_def]

end Runs

/-- After any calls and cleanups a user is online exactly if some session of
theirs was last seen after the cutoff, and these sessions are the ones that
are listed. -/
theorem online_iff_seen (cutoff : Int) (acts : List Act) (userID : Bytes)
    (now : Int) :
    let table := acts.foldl (perform cutoff) ∅
    (checkOnline table userID cutoff now = true ↔
      ∃ session time, session.userID.1 = userID ∧
        lastSeen session acts = some time ∧
        cutoffTime cutoff now < time * 1000000) ∧
    ∀ instanceID, (∃ info ∈ getUserSessions table userID cutoff now,
        info.instanceID = instanceID) ↔
      ∃ session time, session.userID.1 = userID ∧
        session.instanceID = instanceID ∧
        lastSeen session acts = some time ∧
        cutoffTime cutoff now < time * 1000000 := by
  intro table
  have hmem : ∀ session, (∃ row, (⟨session, row⟩ :
      Sigma fun _ : Session => Postgres.Row) ∈
        recentOf table userID cutoff now) ↔
      ∃ time, session.userID.1 = userID ∧
        lastSeen session acts = some time ∧
        cutoffTime cutoff now < time * 1000000 := by
    intro session
    have htracks : Tracks table session (lastSeen session acts) :=
      tracks_foldl cutoff acts rfl
    constructor
    · rintro ⟨row, hrow⟩
      obtain ⟨hlookup, huser, hrecent⟩ := mem_recentOf.mp hrow
      rw [Tracks, hlookup] at htracks
      obtain ⟨time, htime, heq⟩ := Option.map_eq_some_iff.mp htracks.symm
      obtain ⟨rfl, -⟩ := Prod.mk.inj heq
      exact ⟨_, huser, htime, hrecent⟩
    · rintro ⟨time, huser, htime, hrecent⟩
      rw [Tracks, htime] at htracks
      obtain ⟨row, hlookup, heq⟩ := Option.map_eq_some_iff.mp htracks
      obtain ⟨rfl, -⟩ := Prod.mk.inj heq
      exact ⟨row, mem_recentOf.mpr ⟨hlookup, huser, hrecent⟩⟩
  constructor
  · rw [checkOnline, decide_eq_true_eq, countActiveConnections,
      List.length_pos_iff_exists_mem]
    constructor
    · rintro ⟨⟨session, row⟩, hrow⟩
      exact ⟨session, (hmem session).mp ⟨row, hrow⟩⟩
    · rintro ⟨session, hseen⟩
      obtain ⟨row, hrow⟩ := (hmem session).mpr hseen
      exact ⟨_, hrow⟩
  · intro instanceID
    constructor
    · rintro ⟨info, hinfo, rfl⟩
      obtain ⟨⟨session, row⟩, hrow, rfl⟩ := List.mem_map.mp hinfo
      obtain ⟨time, huser, hseen⟩ := (hmem session).mp ⟨row, hrow⟩
      exact ⟨session, time, huser, rfl, hseen⟩
    · rintro ⟨session, time, huser, rfl, hseen⟩
      obtain ⟨row, hrow⟩ := (hmem session).mpr ⟨time, huser, hseen⟩
      exact ⟨_, List.mem_map_of_mem hrow, rfl⟩

end Presence

end Pipewave
