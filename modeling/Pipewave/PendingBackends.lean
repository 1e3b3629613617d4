/-
The two stores of buffered messages side by side.  PostgreSQL ignores an
insert whose primary key is taken, DynamoDB's `PutItem` replaces the item; the
primary key is the session and the stamp.  DynamoDB hands out a query in pages,
which are any way of cutting the answer.
-/
import Pipewave.KeyedTable
import Pipewave.PendingMessage

namespace Pipewave

namespace PendingBackends

/-- A call of `Create` for some session, stamped in Unix nanoseconds. -/
structure Create where
  sendAt : Int
  message : Bytes
  expiresAt : Int
deriving Repr, DecidableEq

def Create.row (auth : WebsocketAuth) (call : Create) : PendingMessage where
  sessionKey := sessionKey auth
  sendAt := call.sendAt
  message := call.message
  expiresAt := call.expiresAt

/-- The primary key of both tables. -/
def rowKey (row : PendingMessage) : Bytes × Int := (row.sessionKey, row.sendAt)

/-- `Create` of the DynamoDB repository. -/
def putItem (table : PendingTable) (row : PendingMessage) : PendingTable :=
  KeyedTable.put rowKey table row

/-- The table behind successful calls of `Create` for one session. -/
def postgres (auth : WebsocketAuth) (calls : List Create) : PendingTable :=
  (calls.map (Create.row auth)).foldl PendingTable.create []

def dynamo (auth : WebsocketAuth) (calls : List Create) : PendingTable :=
  (calls.map (Create.row auth)).foldl putItem []

/-- The messages read so far and the stamp of the last one. -/
abbrev Answer := List Bytes × Int

/-- The body of the loop both versions of `GetAll` run. -/
def addRow (answer : Answer) (row : PendingMessage) : Answer :=
  (answer.1 ++ [row.message], row.sendAt)

/-- `GetAll` of the PostgreSQL repository. -/
def getAll (table : PendingTable) (auth : WebsocketAuth) : Answer :=
  (table.ofSession (sessionKey auth)).foldl addRow ([], 0)

/-- `GetAll` of the DynamoDB repository over the pages of its query. -/
def getAllPages (pages : List (List PendingMessage)) : Answer :=
  pages.foldl (fun answer page => page.foldl addRow answer) ([], 0)

/-- The pages hold the session's items in the order of the sort key. -/
def IsPaging (table : PendingTable) (auth : WebsocketAuth)
    (pages : List (List PendingMessage)) : Prop :=
  pages.flatten = table.ofSession (sessionKey auth)

/-- Every created message is there once, in the order of the stamps. -/
def Complete (created : List PendingMessage) (messages : List Bytes) : Prop :=
  ∃ rows : List PendingMessage, rows.Perm created ∧
    rows.Pairwise (fun a b => a.sendAt ≤ b.sendAt) ∧
    messages = rows.map PendingMessage.message

/-- Both stores keep everything, and they agree. -/
structure KeepsAll (auth : WebsocketAuth) (calls : List Create) : Prop where
  inPostgres : Complete (calls.map (Create.row auth))
    (getAll (postgres auth calls) auth).1
  inDynamo : ∀ pages, IsPaging (dynamo auth calls) auth pages →
    Complete (calls.map (Create.row auth)) (getAllPages pages).1
  sameList : ∀ pages, IsPaging (dynamo auth calls) auth pages →
    (calls.map Create.sendAt).Nodup →
      getAll (postgres auth calls) auth = getAllPages pages
  sameMessages : ∀ pages, IsPaging (dynamo auth calls) auth pages →
    (getAll (postgres auth calls) auth).1.Perm (getAllPages pages).1

theorem foldl_addRow (rows : List PendingMessage) (answer : Answer) :
    (rows.foldl addRow answer).1 =
      answer.1 ++ rows.map PendingMessage.message := by
  induction rows generalizing answer with
  | nil => simp
  | cons row rest ih => simp [ih, addRow]

theorem getAll_fst (table : PendingTable) (auth : WebsocketAuth) :
    (getAll table auth).1 =
      (table.ofSession (sessionKey auth)).map PendingMessage.message := by
  rw [getAll, foldl_addRow, List.nil_append]

/-- The loop over the pages does not see where they were cut. -/
theorem getAllPages_eq_getAll {table : PendingTable} {auth : WebsocketAuth}
    {pages : List (List PendingMessage)} (hpages : IsPaging table auth pages) :
    getAllPages pages = getAll table auth := by
  rw [getAll, ← hpages, getAllPages, List.foldl_flatten]

theorem create_eq_insertNew :
    PendingTable.create = KeyedTable.insertNew rowKey := by
  funext table row
  simp only [PendingTable.create, KeyedTable.insertNew, rowKey,
    Prod.mk.injEq]

theorem insert_create : KeyedTable.Insert rowKey PendingTable.create := by
  rw [create_eq_insertNew]
  exact KeyedTable.insert_insertNew rowKey

theorem insert_putItem : KeyedTable.Insert rowKey putItem :=
  KeyedTable.insert_put rowKey

theorem nodup_keys_iff (auth : WebsocketAuth) (calls : List Create) :
    ((calls.map (Create.row auth)).map rowKey).Nodup ↔
      (calls.map Create.sendAt).Nodup := by
  have hkeys : (calls.map (Create.row auth)).map rowKey =
      (calls.map Create.sendAt).map fun sendAt =>
        (sessionKey auth, sendAt) := by
    simp [rowKey, Create.row, Function.comp_def]
  rw [hkeys]
  exact List.nodup_map_iff fun a b h => (Prod.mk.inj h).2

section Store

variable {create : PendingTable → PendingMessage → PendingTable}

/-- Every row that was kept is one of the session's. -/
theorem ofSession_perm (hinsert : KeyedTable.Insert rowKey create)
    (auth : WebsocketAuth) (calls : List Create) :
    (((calls.map (Create.row auth)).foldl create []).ofSession
      (sessionKey auth)).Perm
      ((calls.map (Create.row auth)).foldl create []) := by
  have hown : ∀ row ∈ (calls.map (Create.row auth)).foldl create [],
      row.sessionKey = sessionKey auth := by
    intro row hrow
    rcases hinsert.foldl_keys _ (List.mem_map_of_mem hrow) with hkey | hkey
    · obtain ⟨made, hmade, heq⟩ := List.mem_map.mp hkey
      obtain ⟨call, -, rfl⟩ := List.mem_map.mp hmade
      exact (Prod.mk.inj heq).1.symm
    · cases hkey
  refine (List.perm_insertionSort _ _).trans ?_
  rw [List.filter_eq_self.mpr fun row hrow => decide_eq_true (hown row hrow)]

variable {auth : WebsocketAuth} {calls : List Create}

/-- A store that returns everything was given distinct stamps. -/
theorem nodup_of_complete (hinsert : KeyedTable.Insert rowKey create)
    (hcomplete : Complete (calls.map (Create.row auth))
      (getAll ((calls.map (Create.row auth)).foldl create []) auth).1) :
    (calls.map Create.sendAt).Nodup := by
  obtain ⟨rows, hperm, -, hmessages⟩ := hcomplete
  rw [← nodup_keys_iff auth]
  apply hinsert.nodup_of_length
  have hlength := congrArg List.length hmessages
  rw [getAll_fst, List.length_map, List.length_map] at hlength
  rw [← (ofSession_perm hinsert auth calls).length_eq, hlength,
    hperm.length_eq]

/-- Under distinct stamps every call leaves its row. -/
theorem foldl_eq_reverse (hinsert : KeyedTable.Insert rowKey create)
    (auth : WebsocketAuth) (hdistinct : (calls.map Create.sendAt).Nodup) :
    (calls.map (Create.row auth)).foldl create [] =
      (calls.map (Create.row auth)).reverse := by
  rw [hinsert.foldl_fresh ((nodup_keys_iff auth calls).mpr hdistinct)
    (fun _ _ => List.not_mem_nil), List.append_nil]

theorem complete_of_nodup (hinsert : KeyedTable.Insert rowKey create)
    (hdistinct : (calls.map Create.sendAt).Nodup) :
    Complete (calls.map (Create.row auth))
      (getAll ((calls.map (Create.row auth)).foldl create []) auth).1 := by
  refine ⟨_, ?_, List.pairwise_insertionSort _ _, getAll_fst _ _⟩
  refine (ofSession_perm hinsert auth calls).trans ?_
  rw [foldl_eq_reverse hinsert auth hdistinct]
  exact List.reverse_perm _

end Store

theorem postgres_eq_dynamo (auth : WebsocketAuth) {calls : List Create}
    (hdistinct : (calls.map Create.sendAt).Nodup) :
    postgres auth calls = dynamo auth calls := by
  rw [postgres, dynamo, foldl_eq_reverse insert_create auth hdistinct,
    foldl_eq_reverse insert_putItem auth hdistinct]

/-- The stores keep and return everything exactly when no two calls for the
session carry the same stamp. -/
theorem keepsAll_iff_nodup (auth : WebsocketAuth) (calls : List Create) :
    KeepsAll auth calls ↔ (calls.map Create.sendAt).Nodup := by
  constructor
  · intro hkeeps
    exact nodup_of_complete insert_create hkeeps.inPostgres
  · intro hdistinct
    have hsame : ∀ pages, IsPaging (dynamo auth calls) auth pages →
        getAll (postgres auth calls) auth = getAllPages pages := by
      intro pages hpages
      rw [getAllPages_eq_getAll hpages, postgres_eq_dynamo auth hdistinct]
    refine ⟨complete_of_nodup insert_create hdistinct, ?_,
      fun pages hpages _ => hsame pages hpages, ?_⟩
    · intro pages hpages
      rw [getAllPages_eq_getAll hpages]
      exact complete_of_nodup insert_putItem hdistinct
    · intro pages hpages
      rw [hsame pages hpages]

/-- Two messages that are buffered within one tick of the clock. -/
def sameTick : List Create :=
  [{ sendAt := 7, message := [0x61], expiresAt := 20 },
    { sendAt := 7, message := [0x62], expiresAt := 20 }]

/-- PostgreSQL keeps the first of them and DynamoDB the second. -/
theorem sameTick_loses_a_message :
    let auth : WebsocketAuth := { userID := [0x75], instanceID := [0x69] }
    getAll (postgres auth sameTick) auth = ([[0x61]], 7) ∧
      getAll (dynamo auth sameTick) auth = ([[0x62]], 7) ∧
      ¬ KeepsAll auth sameTick := by
  refine ⟨by decide +kernel, by decide +kernel, ?_⟩
  intro hkeeps
  have hnodup := nodup_of_complete insert_create hkeeps.inPostgres
  exact absurd hnodup (by decide)

end PendingBackends

end Pipewave
