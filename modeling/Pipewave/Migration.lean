/-
Schema migrations.  Any number of `RunMigration` calls share one
`schema_version` row.  PostgreSQL is taken at its word: what a transaction
writes is seen by others when it commits, `SELECT ... FOR UPDATE` waits for
the row lock, and `INSERT ... ON CONFLICT DO NOTHING` waits for an uncommitted
insert of the same key.
-/
import Mathlib.Data.List.Sort
import Pipewave.Pool
import Pipewave.Transition

namespace Pipewave

namespace Postgres

open Transition

structure Migration where
  version : Int
  name : String
  sql : String
deriving Repr, DecidableEq

/-- The loop of `All`: `none` is a file that cannot be read or has no
version, and a version that was seen before is an error too. -/
def load : List (Option Migration) → List Migration → Option (List Migration)
  | [], loaded => some loaded
  | none :: _, _ => none
  | some m :: rest, loaded =>
    if loaded.any (fun seen => seen.version == m.version) then none
    else load rest (loaded ++ [m])

def all (files : List (Option Migration)) : Option (List Migration) :=
  (load files []).map (List.insertionSort fun a b => a.version ≤ b.version)

def latestVersion (migrations : List Migration) : Int :=
  match migrations.getLast? with
  | none => 0
  | some m => m.version

def selectPostgresMigrations (migrations : List Migration)
    (currentVersion latestVersion : Int) : List Migration :=
  migrations.filter fun m =>
    decide (currentVersion < m.version) && decide (m.version ≤ latestVersion)

/-! ### The calls -/

/-- The statement a call sends next.  With nothing left to run it commits. -/
inductive Phase where
  | ensureSchemaVersionTable
  | beginTx
  | bootstrapSchemaVersion
  | getSchemaVersionForUpdate
  | advance (currentVersion : Int)
  | runPostgresMigrations (rest : List Migration)
  | rollback
  | returned (ok : Bool)
deriving Repr, DecidableEq

/-- `write` and `ran` are what the open transaction has done. -/
structure Call where
  migrations : List Migration
  phase : Phase
  write : Option Int
  ran : List Migration
deriving Repr, DecidableEq

/-- A committed transaction. -/
structure Commit where
  call : Nat
  version : Option Int
  ran : List Migration
deriving Repr, DecidableEq

/-- `row` is the committed row and `lock` the call that holds it or has
inserted it without committing yet. -/
structure Database where
  row : Option Int
  lock : Option Nat
  history : List Commit
deriving Repr, DecidableEq

def Database.release (db : Database) (c : Nat) : Database :=
  if db.lock = some c then { db with lock := none } else db

def Database.commit (db : Database) (c : Nat) (call : Call) : Database where
  row := call.write.or db.row
  lock := (db.release c).lock
  history := db.history ++ [⟨c, call.write, call.ran⟩]

/-- The next statement of a call; `ok` is false when it fails.  `none` is a
statement that waits for a lock. -/
def statement (c : Nat) (ok : Bool) (db : Database) (call : Call) :
    Option (Database × Call) :=
  let latest := latestVersion call.migrations
  match call.phase with
  | .ensureSchemaVersionTable =>
    some (db, { call with
      phase := if ok then .beginTx else .returned false })
  | .beginTx =>
    some (db, { call with
      phase := if ok then .bootstrapSchemaVersion else .returned false })
  | .bootstrapSchemaVersion =>
    if ok = false then some (db, { call with phase := .rollback })
    else match db.row, db.lock with
    | some _, _ =>
      some (db, { call with phase := .getSchemaVersionForUpdate })
    | none, some _ => none
    | none, none => some ({ db with lock := some c }, { call with
        write := some latest
        phase := .runPostgresMigrations call.migrations })
  | .getSchemaVersionForUpdate =>
    if ok = false then some (db, { call with phase := .rollback })
    else match db.row, db.lock with
    | none, _ => some (db, { call with phase := .rollback })
    | some _, some _ => none
    | some current, none => some ({ db with lock := some c }, { call with
        phase := if latest < current then .rollback
          else if current = latest then .runPostgresMigrations []
          else .advance current })
  -- The row is locked by this call, so the update never waits.
  | .advance current =>
    if ok = true ∧ db.row = some current then
      some (db, { call with
        write := some latest
        phase := .runPostgresMigrations
          (selectPostgresMigrations call.migrations current latest) })
    else some (db, { call with phase := .rollback })
  | .runPostgresMigrations (m :: rest) =>
    if ok then some (db, { call with
      ran := call.ran ++ [m], phase := .runPostgresMigrations rest })
    else some (db, { call with phase := .rollback })
  | .runPostgresMigrations [] =>
    if ok then some (db.commit c call, { call with phase := .returned true })
    else some (db, { call with phase := .rollback })
  | .rollback => some (db.release c, { call with phase := .returned false })
  | .returned _ => none

structure State where
  db : Database
  calls : List Call
deriving Repr, DecidableEq

inductive Label where
  | runMigration
  | statement (c : Nat) (ok : Bool)
deriving Repr, DecidableEq

def newCall (files : List (Option Migration)) : Call :=
  match all files with
  | none => ⟨[], .returned false, none, []⟩
  | some migrations => ⟨migrations, .ensureSchemaVersionTable, none, []⟩

def step (files : List (Option Migration)) (s : State) :
    Label → Option State
  | .runMigration => some { s with calls := s.calls ++ [newCall files] }
  | .statement c ok =>
    match s.calls[c]? with
    | none => none
    | some call => (statement c ok s.db call).map fun next =>
      ⟨next.1, s.calls.set c next.2⟩

def initial (row : Option Int) : State := ⟨⟨row, none, []⟩, []⟩

/-! ### What the transactions add up to -/

/-- A missing row is below every version. -/
def Above (row : Option Int) (version : Int) : Prop :=
  ∀ v, row = some v → v < version

instance (row : Option Int) (version : Int) :
    Decidable (Above row version) :=
  match row with
  | none => .isTrue fun _ h => absurd h (Option.some_ne_none _).symm
  | some v => decidable_of_iff (v < version)
      ⟨fun h _ hv => Option.some.inj hv ▸ h, fun h => h v rfl⟩

def applied (db : Database) : List Migration := db.history.flatMap Commit.ran

/-- The larger of the version at the start and the latest one. -/
def targetVersion (row : Option Int) (latest : Int) : Int :=
  match row with
  | none => latest
  | some v => max v latest

structure ExactlyOnce (files : List (Option Migration)) (row : Option Int)
    (s : State) : Prop where
  /-- Without a committed transaction nothing has changed. -/
  untouched : s.db.history = [] → s.db.row = row ∧ applied s.db = []
  ascending : (applied s.db).Pairwise fun a b => a.version < b.version
  complete : s.db.history ≠ [] → ∀ m, m ∈ applied s.db ↔
    some m ∈ files ∧ Above row m.version
  version : s.db.history ≠ [] → ∃ migrations, all files = some migrations ∧
    s.db.row = some (targetVersion row (latestVersion migrations))
  /-- Row and schema come from the committed transactions alone, and those
  from the calls that returned nil. -/
  stored : s.db.row =
    s.db.history.foldl (fun stored t => t.version.or stored) row
  committed : ∀ c, (∃ t ∈ s.db.history, t.call = c) ↔
    ∃ call, s.calls[c]? = some call ∧ call.phase = .returned true

/-! ### The list of migrations -/

variable {loaded migrations : List Migration} {c : Nat} {db next : Database}
  {row : Option Int} {s : State}

theorem mem_load {files : List (Option Migration)}
    (hload : load files loaded = some migrations) (m : Migration) :
    m ∈ migrations ↔ m ∈ loaded ∨ some m ∈ files := by
  induction files generalizing loaded with
  | nil =>
    cases hload
    simp
  | cons file rest ih =>
    cases file with
    | none => cases hload
    | some first =>
      rw [load] at hload
      split at hload
      · cases hload
      · rw [ih hload]
        simp [or_assoc]

theorem nodup_load {files : List (Option Migration)}
    (hload : load files loaded = some migrations)
    (hnodup : loaded.Pairwise fun a b => a.version ≠ b.version) :
    migrations.Pairwise fun a b => a.version ≠ b.version := by
  induction files generalizing loaded with
  | nil =>
    cases hload
    exact hnodup
  | cons file rest ih =>
    cases file with
    | none => cases hload
    | some first =>
      rw [load] at hload
      split at hload
      · cases hload
      · next hfresh =>
        apply ih hload
        rw [List.pairwise_append]
        refine ⟨hnodup, List.pairwise_singleton _ _, ?_⟩
        intro seen hseen m hm
        rw [List.mem_singleton] at hm
        subst hm
        intro hsame
        apply hfresh
        rw [List.any_eq_true]
        exact ⟨seen, hseen, beq_iff_eq.mpr hsame⟩

section All

variable {files : List (Option Migration)} {migrations : List Migration}

theorem mem_all (hall : all files = some migrations) (m : Migration) :
    m ∈ migrations ↔ some m ∈ files := by
  obtain ⟨loaded, hload, rfl⟩ := Option.map_eq_some_iff.mp hall
  rw [List.mem_insertionSort, mem_load hload]
  simp

theorem ascending_all (hall : all files = some migrations) :
    migrations.Pairwise fun a b => a.version < b.version := by
  obtain ⟨loaded, hload, rfl⟩ := Option.map_eq_some_iff.mp hall
  have : IsTrans Migration fun a b => a.version ≤ b.version :=
    ⟨fun _ _ _ => Int.le_trans⟩
  have : Std.Total fun a b : Migration => a.version ≤ b.version :=
    ⟨fun a b => Int.le_total a.version b.version⟩
  have hsorted := List.pairwise_insertionSort
    (fun a b : Migration => a.version ≤ b.version) loaded
  have hdistinct : (loaded.insertionSort fun a b =>
      a.version ≤ b.version).Pairwise fun a b => a.version ≠ b.version :=
    (List.perm_insertionSort _ loaded).symm.pairwise
      (nodup_load hload .nil) fun h => Ne.symm h
  apply (hsorted.and hdistinct).imp
  rintro a b ⟨hle, hne⟩
  omega

theorem le_latestVersion
    (hascending : migrations.Pairwise fun a b => a.version < b.version)
    {m : Migration} (hm : m ∈ migrations) :
    m.version ≤ latestVersion migrations := by
  rcases List.eq_nil_or_concat migrations with rfl | ⟨front, last, rfl⟩
  · cases hm
  · rw [List.concat_eq_append] at hm hascending ⊢
    rw [latestVersion, List.getLast?_concat]
    rw [List.pairwise_append] at hascending
    rcases List.mem_append.mp hm with hfront | hlast
    · have hlt := hascending.2.2 m hfront last (List.mem_singleton_self last)
      exact Int.le_of_lt hlt
    · rw [List.mem_singleton] at hlast
      exact Int.le_of_eq (congrArg Migration.version hlast)

/-- The migrations a database at `row` still needs. -/
def due (row : Option Int) (migrations : List Migration) : List Migration :=
  migrations.filter fun m => Above row m.version

theorem due_none (migrations : List Migration) :
    due none migrations = migrations := by
  apply List.filter_eq_self.mpr
  intro m _
  apply decide_eq_true
  intro v hv
  cases hv

theorem due_of_latest_le
    (hascending : migrations.Pairwise fun a b => a.version < b.version)
    {v : Int} (hle : latestVersion migrations ≤ v) :
    due (some v) migrations = [] := by
  apply List.filter_eq_nil_iff.mpr
  intro m hm habove
  have hlt := of_decide_eq_true habove v rfl
  have hlast := le_latestVersion hascending hm
  omega

/-- The upper bound of the selection never cuts anything off. -/
theorem selectPostgresMigrations_eq_due
    (hascending : migrations.Pairwise fun a b => a.version < b.version)
    (v : Int) :
    selectPostgresMigrations migrations v (latestVersion migrations) =
      due (some v) migrations := by
  apply List.filter_congr
  intro m hm
  have hlast := le_latestVersion hascending hm
  have habove : Above (some v) m.version ↔ v < m.version := by
    constructor
    · exact fun h => h v rfl
    · intro h w hw
      cases hw
      exact h
  rw [decide_eq_true hlast, Bool.and_true]
  exact decide_eq_decide.mpr habove.symm

end All

/-! ### One statement -/

/-- What a call knows of the database by where it is.  A call that holds the
lock knows the row. -/
def Knows (files : List (Option Migration)) (db : Database) (c : Nat)
    (call : Call) : Prop :=
  match call.phase with
  | .ensureSchemaVersionTable | .beginTx | .bootstrapSchemaVersion =>
    all files = some call.migrations ∧ call.write = none ∧ call.ran = []
  | .getSchemaVersionForUpdate =>
    all files = some call.migrations ∧ call.write = none ∧ call.ran = [] ∧
      db.row ≠ none
  | .advance current =>
    all files = some call.migrations ∧ call.write = none ∧ call.ran = [] ∧
      db.lock = some c ∧ db.row = some current ∧
      current < latestVersion call.migrations
  | .runPostgresMigrations rest =>
    all files = some call.migrations ∧ db.lock = some c ∧
      call.ran ++ rest = due db.row call.migrations ∧
      (call.write.or db.row = some (latestVersion call.migrations)) ∧
      (call.write ≠ none → Above db.row (latestVersion call.migrations))
  | .rollback => True
  | .returned ok => ok = true → ∃ t ∈ db.history, t.call = c

/-- What one call does to the database for the others. -/
structure Frame (c : Nat) (db next : Database) : Prop where
  locked : ∀ d, d ≠ c → db.lock = some d →
    next.lock = some d ∧ next.row = db.row
  row : db.row ≠ none → next.row ≠ none
  history : db.history <+: next.history

theorem Frame.refl (c : Nat) (db : Database) : Frame c db db :=
  ⟨fun _ _ h => ⟨h, rfl⟩, id, List.prefix_refl _⟩

theorem Frame.lock (hfree : db.lock = none) :
    Frame c db { db with lock := some c } := by
  refine ⟨?_, id, List.prefix_refl _⟩
  intro d _ hlock
  rw [hfree] at hlock
  cases hlock

theorem Frame.release (c : Nat) (db : Database) :
    Frame c db (db.release c) := by
  rw [Database.release]
  split
  · next hown =>
    refine ⟨?_, id, List.prefix_refl _⟩
    intro d hother hlock
    rw [hown] at hlock
    exact absurd (Option.some.inj hlock).symm hother
  · exact .refl c db

theorem Frame.commit (hown : db.lock = some c) (call : Call) :
    Frame c db (db.commit c call) := by
  refine ⟨?_, ?_, List.prefix_append _ _⟩
  · intro d hother hlock
    rw [hown] at hlock
    exact absurd (Option.some.inj hlock).symm hother
  · intro hrow
    rw [Database.commit]
    cases call.write <;> simp [hrow]

theorem Knows.frame {files : List (Option Migration)} {d : Nat} {call : Call}
    (hframe : Frame c db next) (hother : d ≠ c)
    (hknows : Knows files db d call) : Knows files next d call := by
  unfold Knows at hknows ⊢
  cases hphase : call.phase with
  | ensureSchemaVersionTable => rwa [hphase] at hknows
  | beginTx => rwa [hphase] at hknows
  | bootstrapSchemaVersion => rwa [hphase] at hknows
  | getSchemaVersionForUpdate =>
    simp only [hphase] at hknows
    obtain ⟨hall, hwrite, hran, hrow⟩ := hknows
    exact ⟨hall, hwrite, hran, hframe.row hrow⟩
  | advance current =>
    simp only [hphase] at hknows
    obtain ⟨hall, hwrite, hran, hlock, hrow, hlt⟩ := hknows
    obtain ⟨hlock', hsame⟩ := hframe.locked d hother hlock
    exact ⟨hall, hwrite, hran, hlock', hsame.trans hrow, hlt⟩
  | runPostgresMigrations rest =>
    simp only [hphase] at hknows
    obtain ⟨hall, hlock, hrest⟩ := hknows
    obtain ⟨hlock', hsame⟩ := hframe.locked d hother hlock
    refine ⟨hall, hlock', ?_⟩
    rw [hsame]
    exact hrest
  | rollback => trivial
  | returned ok =>
    simp only [hphase] at hknows
    intro hok
    obtain ⟨t, ht, hcall⟩ := hknows hok
    exact ⟨t, hframe.history.subset ht, hcall⟩

/-- Row and history agree, and the first commit that changes anything brings
everything. -/
structure Whole (files : List (Option Migration)) (row : Option Int)
    (db : Database) : Prop where
  stored : db.row = db.history.foldl (fun stored t => t.version.or stored) row
  complete : db.history ≠ [] → ∃ migrations, all files = some migrations ∧
    applied db = due row migrations ∧
    db.row = some (targetVersion row (latestVersion migrations))

theorem Whole.of_eq {files : List (Option Migration)}
    (hwhole : Whole files row db) (hrow : next.row = db.row)
    (hhistory : next.history = db.history) :
    Whole files row next := by
  obtain ⟨hstored, hcomplete⟩ := hwhole
  constructor
  · rw [hrow, hhistory]
    exact hstored
  · rw [hrow, hhistory, applied, hhistory]
    exact hcomplete

section Statement

variable {files : List (Option Migration)} {row : Option Int} {c : Nat}
  {db next : Database} {call after : Call} {ok : Bool}

theorem targetVersion_eq_latest {latest : Int}
    (habove : Above row latest ∨ row = some latest) :
    targetVersion row latest = latest := by
  cases row with
  | none => rfl
  | some v =>
    rcases habove with habove | hsame
    · have hlt := habove v rfl
      rw [targetVersion]
      omega
    · cases hsame
      exact Int.max_self latest

theorem le_targetVersion (row : Option Int) (latest : Int) :
    latest ≤ targetVersion row latest := by
  cases row with
  | none => exact Int.le_refl latest
  | some v => exact Int.le_max_right v latest

/-- A commit of a finished call: the first one brings what was missing, and
every later one changes nothing. -/
theorem Whole.commit (hwhole : Whole files row db)
    (hknows : Knows files db c call)
    (hphase : call.phase = .runPostgresMigrations []) :
    Whole files row (db.commit c call) := by
  simp only [Knows, hphase, List.append_nil] at hknows
  obtain ⟨hall, -, hran, hversion, habove⟩ := hknows
  have hascending := ascending_all hall
  have hcommit : (db.commit c call).history =
    db.history ++ [⟨c, call.write, call.ran⟩] := rfl
  have hrow : (db.commit c call).row = call.write.or db.row := rfl
  have happlied : applied (db.commit c call) = applied db ++ call.ran := by
    simp [applied, hcommit]
  constructor
  · rw [hrow, hcommit, List.foldl_append, ← hwhole.stored]
    rfl
  · intro _
    refine ⟨call.migrations, hall, ?_⟩
    rw [happlied, hrow, hversion, hran]
    by_cases hempty : db.history = []
    · have hstart : db.row = row := by rw [hwhole.stored, hempty]; rfl
      have hnone : applied db = [] := by rw [applied, hempty]; rfl
      rw [hnone, List.nil_append, hstart]
      refine ⟨rfl, congrArg some (targetVersion_eq_latest ?_).symm⟩
      rw [hstart] at habove hversion
      cases hwrite : call.write with
      | none => exact .inr (by rwa [hwrite] at hversion)
      | some v => exact .inl (habove (by simp [hwrite]))
    · obtain ⟨migrations, hall', hdue, htarget⟩ := hwhole.complete hempty
      rw [hall] at hall'
      cases hall'
      have hle := le_targetVersion row (latestVersion call.migrations)
      rw [htarget, due_of_latest_le hascending hle, List.append_nil]
      refine ⟨hdue, ?_⟩
      cases hwrite : call.write with
      | none =>
        rw [hwrite, Option.none_or, htarget] at hversion
        exact hversion.symm
      | some v =>
        have hlt := habove (by simp [hwrite]) _ htarget
        omega

/-- What one statement of a call gives. -/
structure Sound (files : List (Option Migration)) (row : Option Int) (c : Nat)
    (db : Database) (call : Call) (next : Database) (after : Call) :
    Prop where
  open_ : ∀ ok, call.phase ≠ .returned ok
  frame : Frame c db next
  knows : Knows files next c after
  whole : Whole files row next
  committed : (next.history = db.history ∧ after.phase ≠ .returned true) ∨
    (after.phase = .returned true ∧
      ∃ t, t.call = c ∧ next.history = db.history ++ [t])

/-- A statement that touches the lock at most. -/
theorem Sound.quiet (hwhole : Whole files row db)
    (hopen : ∀ ok, call.phase ≠ .returned ok) (hframe : Frame c db next)
    (hrow : next.row = db.row) (hhistory : next.history = db.history)
    (hknows : Knows files next c after)
    (hphase : after.phase ≠ .returned true) :
    Sound files row c db call next after :=
  ⟨hopen, hframe, hknows, hwhole.of_eq hrow hhistory,
    .inl ⟨hhistory, hphase⟩⟩

theorem Sound.fail (hwhole : Whole files row db)
    (hopen : ∀ ok, call.phase ≠ .returned ok) :
    Sound files row c db call db { call with phase := .rollback } :=
  .quiet hwhole hopen (.refl c db) rfl rfl trivial (by simp)

theorem sound_bootstrapSchemaVersion (hwhole : Whole files row db)
    (hknows : Knows files db c call)
    (hphase : call.phase = .bootstrapSchemaVersion)
    (hstatement : statement c ok db call = some (next, after)) :
    Sound files row c db call next after := by
  have hopen : ∀ ok, call.phase ≠ .returned ok := by simp [hphase]
  simp only [Knows, hphase] at hknows
  obtain ⟨hall, hwrite, hran⟩ := hknows
  simp only [statement, hphase] at hstatement
  split at hstatement
  · cases hstatement
    exact .fail hwhole hopen
  · split at hstatement
    · next hrow =>
      cases hstatement
      apply Sound.quiet hwhole hopen (.refl c db) rfl rfl
      · exact ⟨hall, hwrite, hran, by simp [hrow]⟩
      · simp
    · cases hstatement
    · next hrow hlock =>
      cases hstatement
      apply Sound.quiet hwhole hopen (.lock hlock) rfl rfl
      · refine ⟨hall, rfl, ?_, rfl, ?_⟩
        · rw [hran, hrow, due_none, List.nil_append]
        · rintro - v hv
          rw [hrow] at hv
          cases hv
      · simp

theorem sound_getSchemaVersionForUpdate (hwhole : Whole files row db)
    (hknows : Knows files db c call)
    (hphase : call.phase = .getSchemaVersionForUpdate)
    (hstatement : statement c ok db call = some (next, after)) :
    Sound files row c db call next after := by
  have hopen : ∀ ok, call.phase ≠ .returned ok := by simp [hphase]
  simp only [Knows, hphase] at hknows
  obtain ⟨hall, hwrite, hran, -⟩ := hknows
  have hascending := ascending_all hall
  simp only [statement, hphase] at hstatement
  split at hstatement
  · cases hstatement
    exact .fail hwhole hopen
  · split at hstatement
    · cases hstatement
      exact .fail hwhole hopen
    · cases hstatement
    · next current hrow hlock =>
      cases hstatement
      apply Sound.quiet hwhole hopen (.lock hlock) rfl rfl
      · unfold Knows
        split_ifs with hnewer hlatest
        · trivial
        · refine ⟨hall, rfl, ?_, ?_, fun h => absurd hwrite h⟩
          · rw [hran, hrow, hlatest,
              due_of_latest_le hascending (Int.le_refl _), List.append_nil]
          · rw [hwrite, hrow, hlatest, Option.none_or]
        · have hlt : current < latestVersion call.migrations := by omega
          exact ⟨hall, hwrite, hran, rfl, hrow, hlt⟩
      · dsimp only
        split_ifs <;> simp

theorem sound_advance {current : Int} (hwhole : Whole files row db)
    (hknows : Knows files db c call)
    (hphase : call.phase = .advance current)
    (hstatement : statement c ok db call = some (next, after)) :
    Sound files row c db call next after := by
  have hopen : ∀ ok, call.phase ≠ .returned ok := by simp [hphase]
  simp only [Knows, hphase] at hknows
  obtain ⟨hall, -, hran, hlock, hrow, hlt⟩ := hknows
  simp only [statement, hphase] at hstatement
  split at hstatement
  · cases hstatement
    apply Sound.quiet hwhole hopen (.refl c db) rfl rfl
    · refine ⟨hall, hlock, ?_, rfl, ?_⟩
      · rw [hran, hrow, List.nil_append]
        exact selectPostgresMigrations_eq_due (ascending_all hall) current
      · rintro - v hv
        rw [hrow] at hv
        cases hv
        exact hlt
    · simp
  · cases hstatement
    exact .fail hwhole hopen

theorem sound_runPostgresMigrations {rest : List Migration}
    (hwhole : Whole files row db) (hknows : Knows files db c call)
    (hphase : call.phase = .runPostgresMigrations rest)
    (hstatement : statement c ok db call = some (next, after)) :
    Sound files row c db call next after := by
  have hopen : ∀ ok, call.phase ≠ .returned ok := by simp [hphase]
  cases rest with
  | nil =>
    have hlock : db.lock = some c := by
      simp only [Knows, hphase] at hknows
      exact hknows.2.1
    simp only [statement, hphase] at hstatement
    split at hstatement
    · cases hstatement
      refine ⟨hopen, .commit hlock call, ?_, hwhole.commit hknows hphase,
        .inr ⟨rfl, _, rfl, rfl⟩⟩
      intro _
      exact ⟨_, List.mem_append_right _ (List.mem_singleton_self _), rfl⟩
    · cases hstatement
      exact .fail hwhole hopen
  | cons m rest =>
    simp only [Knows, hphase] at hknows
    obtain ⟨hall, hlock, hrest, hversion⟩ := hknows
    simp only [statement, hphase] at hstatement
    split at hstatement
    · cases hstatement
      apply Sound.quiet hwhole hopen (.refl c db) rfl rfl
      · refine ⟨hall, hlock, ?_, hversion⟩
        rw [List.append_assoc, List.singleton_append]
        exact hrest
      · simp
    · cases hstatement
      exact .fail hwhole hopen

theorem sound_statement (hwhole : Whole files row db)
    (hknows : Knows files db c call)
    (hstatement : statement c ok db call = some (next, after)) :
    Sound files row c db call next after := by
  cases hphase : call.phase with
  | ensureSchemaVersionTable | beginTx =>
    simp only [Knows, hphase] at hknows
    simp only [statement, hphase] at hstatement
    cases hstatement
    apply Sound.quiet hwhole (by simp [hphase]) (.refl c db) rfl rfl
    · cases ok
      · exact fun h => absurd h Bool.false_ne_true
      · exact hknows
    · cases ok <;> simp
  | bootstrapSchemaVersion =>
    exact sound_bootstrapSchemaVersion hwhole hknows hphase hstatement
  | getSchemaVersionForUpdate =>
    exact sound_getSchemaVersionForUpdate hwhole hknows hphase hstatement
  | advance current => exact sound_advance hwhole hknows hphase hstatement
  | runPostgresMigrations rest =>
    exact sound_runPostgresMigrations hwhole hknows hphase hstatement
  | rollback =>
    simp only [statement, hphase] at hstatement
    cases hstatement
    have hdb : (db.release c).row = db.row ∧
        (db.release c).history = db.history := by
      rw [Database.release]
      split <;> exact ⟨rfl, rfl⟩
    apply Sound.quiet hwhole (by simp [hphase]) (.release c db) hdb.1 hdb.2
    · exact fun h => absurd h Bool.false_ne_true
    · simp
  | returned ok =>
    simp only [statement, hphase] at hstatement
    cases hstatement

end Statement

/-! ### Whole runs -/

structure Inv (files : List (Option Migration)) (row : Option Int)
    (s : State) : Prop where
  whole : Whole files row s.db
  knows : ∀ c call, s.calls[c]? = some call → Knows files s.db c call
  committed : ∀ t ∈ s.db.history, ∃ call, s.calls[t.call]? = some call ∧
    call.phase = .returned true

theorem knows_newCall (files : List (Option Migration)) (db : Database)
    (c : Nat) : Knows files db c (newCall files) := by
  rw [newCall]
  cases hall : all files with
  | none => exact fun h => absurd h Bool.false_ne_true
  | some migrations => exact ⟨hall, rfl, rfl⟩

theorem inv_initial (files : List (Option Migration)) (row : Option Int) :
    Inv files row (initial row) where
  whole := ⟨rfl, fun h => absurd rfl h⟩
  knows := by
    intro c call hcall
    cases hcall
  committed := by
    intro t ht
    cases ht

theorem Inv.runMigration {files : List (Option Migration)}
    (hinv : Inv files row s) :
    Inv files row { s with calls := s.calls ++ [newCall files] } where
  whole := hinv.whole
  knows := by
    intro c call hcall
    rcases getElem?_concat_cases hcall with hold | ⟨-, rfl⟩
    · exact hinv.knows c call hold
    · exact knows_newCall files s.db c
  committed := by
    intro t ht
    obtain ⟨call, hcall, hphase⟩ := hinv.committed t ht
    obtain ⟨hlt, -⟩ := List.getElem?_eq_some_iff.mp hcall
    exact ⟨call, (List.getElem?_append_left hlt).trans hcall, hphase⟩

theorem Inv.statement {files : List (Option Migration)} {call after : Call}
    (hinv : Inv files row s) (hcall : s.calls[c]? = some call)
    (hsound : Sound files row c s.db call next after) :
    Inv files row ⟨next, s.calls.set c after⟩ where
  whole := hsound.whole
  knows := by
    intro d other hother
    by_cases hsame : d = c
    · subst hsame
      obtain ⟨hlt, -⟩ := List.getElem?_eq_some_iff.mp hcall
      rw [List.getElem?_set_self hlt] at hother
      cases hother
      exact hsound.knows
    · rw [List.getElem?_set_ne (Ne.symm hsame)] at hother
      exact (hinv.knows d other hother).frame hsound.frame hsame
  committed := by
    obtain ⟨hlt, -⟩ := List.getElem?_eq_some_iff.mp hcall
    have hold : ∀ t ∈ s.db.history, ∃ call,
        (s.calls.set c after)[t.call]? = some call ∧
          call.phase = .returned true := by
      intro t ht
      obtain ⟨other, hother, hphase⟩ := hinv.committed t ht
      have hne : c ≠ t.call := by
        intro hsame
        rw [← hsame, hcall] at hother
        cases hother
        exact hsound.open_ true hphase
      exact ⟨other, (List.getElem?_set_ne hne).trans hother, hphase⟩
    intro t ht
    rcases hsound.committed with ⟨hsame, -⟩ | ⟨hphase, new, hnew, hmore⟩
    · rw [hsame] at ht
      exact hold t ht
    · rw [hmore] at ht
      rcases List.mem_append.mp ht with hin | hin
      · exact hold t hin
      · rw [List.mem_singleton] at hin
        subst hin
        rw [hnew]
        exact ⟨after, List.getElem?_set_self hlt, hphase⟩

theorem Inv.step {files : List (Option Migration)} {next : State}
    {label : Label} (hinv : Inv files row s)
    (hstep : step files s label = some next) : Inv files row next := by
  cases label with
  | runMigration =>
    cases hstep
    exact hinv.runMigration
  | statement c ok =>
    simp only [Postgres.step] at hstep
    split at hstep
    · cases hstep
    · next call hcall =>
      obtain ⟨⟨db, after⟩, hstatement, rfl⟩ :=
        Option.map_eq_some_iff.mp hstep
      have hknows := hinv.knows c call hcall
      exact hinv.statement hcall
        (sound_statement hinv.whole hknows hstatement)

theorem mem_due {m : Migration} :
    m ∈ due row migrations ↔ m ∈ migrations ∧ Above row m.version := by
  rw [due, List.mem_filter, decide_eq_true_iff]

theorem Inv.exactlyOnce {files : List (Option Migration)}
    (hinv : Inv files row s) : ExactlyOnce files row s := by
  have hempty : s.db.history = [] → s.db.row = row ∧ applied s.db = [] := by
    intro hnone
    rw [hinv.whole.stored, applied, hnone]
    exact ⟨rfl, rfl⟩
  constructor
  case untouched => exact hempty
  case ascending =>
    by_cases hnone : s.db.history = []
    · rw [(hempty hnone).2]
      exact .nil
    · obtain ⟨migrations, hall, happlied, -⟩ := hinv.whole.complete hnone
      rw [happlied]
      exact (ascending_all hall).filter _
  case complete =>
    intro hsome m
    obtain ⟨migrations, hall, happlied, -⟩ := hinv.whole.complete hsome
    rw [happlied, mem_due, mem_all hall]
  case version =>
    intro hsome
    obtain ⟨migrations, hall, -, hversion⟩ := hinv.whole.complete hsome
    exact ⟨migrations, hall, hversion⟩
  case stored => exact hinv.whole.stored
  case committed =>
    intro c
    constructor
    · rintro ⟨t, ht, rfl⟩
      exact hinv.committed t ht
    · rintro ⟨call, hcall, hphase⟩
      have hknows := hinv.knows c call hcall
      rw [Knows, hphase] at hknows
      exact hknows rfl

/-- Whatever the files, the row at the start and the interleaving of the
calls, failures and roll-backs included. -/
theorem runMigration_exactlyOnce (files : List (Option Migration))
    (row : Option Int) (s : State)
    (hreach : Reach (step files) Unguarded
      (initial row) s) : ExactlyOnce files row s := by
  have hinv : Inv files row s := by
    apply hreach.invariant (Inv files row)
    · exact inv_initial files row
    · intro state label next hstate _ hstep
      exact hstate.step hstep
  exact hinv.exactlyOnce

def raceFiles : List (Option Migration) :=
  [some ⟨2, "002_index.sql", "b"⟩, some ⟨1, "001_init.sql", "a"⟩]

/-- Three calls race on an empty database.  The first inserts the row and
fails in the second migration, the second then runs both, and the third finds
nothing left to do. -/
def race : List Label :=
  [.runMigration, .runMigration, .statement 0 true, .statement 1 true,
    .statement 0 true, .statement 1 true, .statement 0 true,
    .statement 0 true, .runMigration, .statement 0 false, .statement 0 true,
    .statement 1 true, .statement 2 true, .statement 1 true,
    .statement 2 true, .statement 1 true, .statement 1 true,
    .statement 2 true, .statement 2 true, .statement 2 true]

theorem runMigration_exactlyOnce_race :
    let s := final (step raceFiles) (initial none) race
    (applied s.db).map Migration.version = [1, 2] ∧ s.db.row = some 2 ∧
      s.calls.map Call.phase =
        [.returned false, .returned true, .returned true] ∧
      ExactlyOnce raceFiles none s :=
  ⟨by decide +kernel, by decide +kernel, by decide +kernel,
    runMigration_exactlyOnce raceFiles none _
      (reach_final (by decide +kernel) (by decide +kernel))⟩

end Postgres

end Pipewave
