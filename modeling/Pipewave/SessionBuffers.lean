/-
The two buffers a session's messages wait in: its rows of `pending_messages`
and its long-polling queue.  Both are found by a name built from the session,
and whether two sessions can reach each other's messages is decided by those
names alone.
-/
import Mathlib.Data.List.Sort
import Mathlib.Logic.Function.Basic
import Pipewave.PendingMessage
import Pipewave.Separator

namespace Pipewave

open Transition

def colon : UInt8 := 0x3A

/-- `anon`, the user part of an anonymous session's channel. -/
def anonSegment : Bytes := [0x61, 0x6E, 0x6F, 0x6E]

/-- `lp:anon:<instance>` for an anonymous session, `lp:<user>:<instance>` for
any other. -/
def lpChannelName (auth : WebsocketAuth) : Bytes :=
  if auth.isAnonymous then
    [0x6C, 0x70, 0x3A] ++ anonSegment ++ [0x3A] ++ auth.instanceID
  else [0x6C, 0x70, 0x3A] ++ auth.userID ++ [0x3A] ++ auth.instanceID

theorem sessionKey_eq_joined (auth : WebsocketAuth) :
    sessionKey auth = joined colon auth.userID auth.instanceID := by
  simp [sessionKey, joined, colon]

theorem lpChannelName_eq_joined (auth : WebsocketAuth) :
    lpChannelName auth = [0x6C, 0x70, 0x3A] ++ joined colon
      (if auth.isAnonymous then anonSegment else auth.userID)
      auth.instanceID := by
  unfold lpChannelName
  split <;> simp [joined, colon]

variable {auth first second : WebsocketAuth}

theorem isAnonymous_eq_false (huser : auth.userID ≠ []) :
    auth.isAnonymous = false :=
  decide_eq_false huser

theorem isAnonymous_eq_true (instanceID : Bytes) :
    WebsocketAuth.isAnonymous ⟨[], instanceID⟩ = true := rfl

/-- Between authenticated sessions both names collide together. -/
theorem lpChannelName_eq_iff (hfirst : first.userID ≠ [])
    (hsecond : second.userID ≠ []) :
    lpChannelName first = lpChannelName second ↔
      sessionKey first = sessionKey second := by
  simp only [lpChannelName_eq_joined, sessionKey_eq_joined,
    isAnonymous_eq_false hfirst, isAnonymous_eq_false hsecond,
    Bool.false_eq_true, if_false, List.append_cancel_left_eq]

/-- The user of `second` starts with that of `first` and a colon, and the
instance of `first` repeats what follows before its own end. -/
def Straddles (first second : WebsocketAuth) : Prop :=
  SplitsBefore colon first.userID first.instanceID second.userID
    second.instanceID

theorem sessionKey_eq_iff (hne : first ≠ second) :
    sessionKey first = sessionKey second ↔
      Straddles first second ∨ Straddles second first := by
  have hids : ¬ (first.userID = second.userID ∧
      first.instanceID = second.instanceID) := by
    rintro ⟨huser, hinstance⟩
    apply hne
    cases first
    cases second
    exact congrArg₂ WebsocketAuth.mk huser hinstance
  rw [sessionKey_eq_joined, sessionKey_eq_joined, joined_eq_iff]
  exact or_iff_right hids

/-- The user is `anon`, or starts with `anon:`. -/
def AnonUser (userID : Bytes) : Prop :=
  userID = anonSegment ∨ ∃ rest, userID = joined colon anonSegment rest

/-- Some anonymous session shares a user's channel exactly when that user is
`anon` or starts with `anon:`. -/
theorem exists_anonymous_channel_iff (huser : auth.userID ≠ []) :
    (∃ anon : WebsocketAuth, anon.isAnonymous = true ∧
      lpChannelName anon = lpChannelName auth) ↔ AnonUser auth.userID := by
  have hfree : colon ∉ anonSegment := by decide
  rw [AnonUser, ← @exists_joined_eq_iff _ _ _ _ auth.instanceID hfree]
  constructor
  · rintro ⟨anon, hanon, heq⟩
    simp only [lpChannelName_eq_joined, hanon, isAnonymous_eq_false huser,
      if_true, Bool.false_eq_true, if_false,
      List.append_cancel_left_eq] at heq
    exact ⟨anon.instanceID, heq⟩
  · rintro ⟨instanceID, heq⟩
    refine ⟨⟨[], instanceID⟩, isAnonymous_eq_true instanceID, ?_⟩
    simp only [lpChannelName_eq_joined, isAnonymous_eq_true,
      isAnonymous_eq_false huser, if_true, Bool.false_eq_true, if_false, heq]

namespace SessionBuffers

/-- A stored item and the session it was stored for; no operation reads the
owner back. -/
structure Owned (α : Type) where
  owner : WebsocketAuth
  item : α
deriving Repr, DecidableEq

abbrev Rows := List (Owned PendingMessage)

namespace Rows

/-- The table as the repository sees it. -/
def table (rows : Rows) : PendingTable := rows.map Owned.item

def create (rows : Rows) (new : Owned PendingMessage) : Rows :=
  if rows.any fun old => old.item.sessionKey = new.item.sessionKey ∧
      old.item.sendAt = new.item.sendAt then rows
  else new :: rows

def ofSession (rows : Rows) (key : Bytes) : Rows :=
  (rows.filter fun row => row.item.sessionKey = key).insertionSort
    fun a b => a.item.sendAt ≤ b.item.sendAt

def upTo (key : Bytes) (maxSendAt : Int) (row : Owned PendingMessage) :
    Bool :=
  row.item.sessionKey = key ∧ row.item.sendAt ≤ maxSendAt

def all (key : Bytes) (row : Owned PendingMessage) : Bool :=
  row.item.sessionKey = key

theorem table_create (rows : Rows) (new : Owned PendingMessage) :
    (rows.create new).table = rows.table.create new.item := by
  unfold create PendingTable.create table
  simp only [List.any_map, Function.comp_def]
  split <;> rfl

theorem table_ofSession (rows : Rows) (key : Bytes) :
    (rows.ofSession key).table = rows.table.ofSession key := by
  unfold ofSession PendingTable.ofSession table
  rw [List.filter_map]
  exact List.map_insertionSort _ _ _ _ fun _ _ _ _ => Iff.rfl

theorem table_deleteUpTo (rows : Rows) (key : Bytes) (maxSendAt : Int) :
    table (rows.filter fun row => ¬ upTo key maxSendAt row) =
      rows.table.deleteUpTo key maxSendAt := by
  unfold table PendingTable.deleteUpTo upTo
  rw [List.filter_map]
  simp [Function.comp_def]

theorem table_deleteAll (rows : Rows) (key : Bytes) :
    table (rows.filter fun row => ¬ all key row) =
      rows.table.deleteAll key := by
  unfold table PendingTable.deleteAll all
  rw [List.filter_map]
  simp [Function.comp_def]

end Rows

/-- Something an operation of `session` returned or deleted. -/
structure Touch where
  session : WebsocketAuth
  owner : WebsocketAuth
  payload : Bytes
deriving Repr, DecidableEq

/-- How far `drainOrWait` is once its first `FetchMany` came back empty. -/
inductive PollStage where
  | waiting
  | drainingMore
deriving Repr, DecidableEq

structure Poll where
  session : WebsocketAuth
  stage : PollStage
deriving Repr, DecidableEq

/-- Both buffers, the polls in progress and what was touched so far.  A channel
that does not exist is an empty queue. -/
structure State where
  rows : Rows := []
  queues : Bytes → List (Owned Bytes) := fun _ => []
  polls : List Poll := []
  polled : List WebsocketAuth := []
  returned : List Touch := []
  deleted : List Touch := []

inductive Label where
  | save (auth : WebsocketAuth) (sendAt : Int) (message : Bytes)
      (expiresAt : Int)
  /-- `Send` or `SendDirect` of a long-polling connection. -/
  | publish (auth : WebsocketAuth) (payload : Bytes)
  | getAll (auth : WebsocketAuth)
  | deleteUpTo (auth : WebsocketAuth) (maxSendAt : Int)
  | deleteAll (auth : WebsocketAuth)
  /-- A poll starts with `FetchMany`. -/
  | poll (auth : WebsocketAuth)
  /-- `BlockFetchOne` of a waiting poll returns. -/
  | wake (auth : WebsocketAuth)
  /-- `BlockFetchOne` times out or fails. -/
  | giveUp (auth : WebsocketAuth)
  /-- The second `FetchMany` of a poll. -/
  | drainMore (auth : WebsocketAuth)
  /-- The time to live that polls and the close set on a channel is over; the
  clock itself is left open. -/
  | expire (auth : WebsocketAuth)
deriving Repr, DecidableEq

def lpQueueSize : Nat := 64

def touchRow (session : WebsocketAuth) (row : Owned PendingMessage) : Touch :=
  ⟨session, row.owner, row.item.message⟩

def touchQueued (session : WebsocketAuth) (queued : Owned Bytes) : Touch :=
  ⟨session, queued.owner, queued.item⟩

/-- Delete the rows that meet `gone` for a session. -/
def State.delete (state : State) (auth : WebsocketAuth)
    (gone : Owned PendingMessage → Bool) : State :=
  { state with
    rows := state.rows.filter fun row => ¬ gone row
    deleted := (state.rows.filter gone).map (touchRow auth) ++
      state.deleted }

/-- Pop the front of a session's channel. -/
def State.fetchMany (state : State) (auth : WebsocketAuth) (maxItem : Nat) :
    State :=
  let queue := state.queues (lpChannelName auth)
  let taken := (queue.take maxItem).map (touchQueued auth)
  { state with
    queues := Function.update state.queues (lpChannelName auth)
      (queue.drop maxItem)
    returned := taken ++ state.returned
    deleted := taken ++ state.deleted }

def step (state : State) : Label → Option State
  | .save auth sendAt message expiresAt => some { state with
      rows := state.rows.create
        ⟨auth, ⟨sessionKey auth, sendAt, message, expiresAt⟩⟩ }
  | .publish auth payload => some { state with
      queues := Function.update state.queues (lpChannelName auth)
        (state.queues (lpChannelName auth) ++ [⟨auth, payload⟩]) }
  | .getAll auth => some { state with
      returned := (state.rows.ofSession (sessionKey auth)).map
        (touchRow auth) ++ state.returned }
  | .deleteUpTo auth maxSendAt =>
    some (state.delete auth (Rows.upTo (sessionKey auth) maxSendAt))
  | .deleteAll auth => some (state.delete auth (Rows.all (sessionKey auth)))
  | .poll auth =>
    let state := { state with polled := auth :: state.polled }
    if state.queues (lpChannelName auth) = [] then some { state with
      polls := ⟨auth, .waiting⟩ :: state.polls }
    else some (state.fetchMany auth lpQueueSize)
  | .wake auth =>
    if ⟨auth, .waiting⟩ ∉ state.polls ∨
        state.queues (lpChannelName auth) = [] then none
    else some { state.fetchMany auth 1 with
      polls := ⟨auth, .drainingMore⟩ ::
        state.polls.erase ⟨auth, .waiting⟩ }
  | .giveUp auth =>
    if ⟨auth, .waiting⟩ ∉ state.polls then none
    else some { state with polls := state.polls.erase ⟨auth, .waiting⟩ }
  | .drainMore auth =>
    if ⟨auth, .drainingMore⟩ ∉ state.polls then none
    else some { state.fetchMany auth (lpQueueSize - 1) with
      polls := state.polls.erase ⟨auth, .drainingMore⟩ }
  | .expire auth =>
    if auth ∉ state.polled then none
    else some { state with
      queues := Function.update state.queues (lpChannelName auth) []
      deleted := (state.queues (lpChannelName auth)).map
        (touchQueued auth) ++ state.deleted }

/-- What a label does to the table of the repository. -/
def Label.onTable (table : PendingTable) : Label → PendingTable
  | .save auth sendAt message expiresAt =>
    table.create ⟨sessionKey auth, sendAt, message, expiresAt⟩
  | .deleteUpTo auth maxSendAt => table.deleteUpTo (sessionKey auth) maxSendAt
  | .deleteAll auth => table.deleteAll (sessionKey auth)
  | _ => table

variable {state : State}

/-- Forgetting the owners, the steps are the repository's operations. -/
theorem table_step {next : State} {label : Label}
    (hstep : step state label = some next) :
    next.rows.table = label.onTable state.rows.table := by
  cases label with
  | save auth sendAt message expiresAt =>
    cases hstep
    exact Rows.table_create _ _
  | deleteUpTo auth maxSendAt =>
    cases hstep
    exact Rows.table_deleteUpTo _ _ _
  | deleteAll auth =>
    cases hstep
    exact Rows.table_deleteAll _ _
  | publish auth payload | getAll auth =>
    cases hstep
    rfl
  | poll auth | wake auth | giveUp auth | drainMore auth | expire auth =>
    simp only [step] at hstep
    split at hstep <;> cases hstep <;> rfl

/-- `GetAll` returns the messages of the repository's own query. -/
theorem getAll_payloads (state : State) (auth : WebsocketAuth) :
    ((state.rows.ofSession (sessionKey auth)).map (touchRow auth)).map
        Touch.payload =
      (state.rows.table.ofSession (sessionKey auth)).map
        PendingMessage.message := by
  rw [← Rows.table_ofSession, Rows.table, List.map_map, List.map_map]
  rfl

/-- A touch stays within one name: that of the rows or that of the queue. -/
def Touch.Named (touch : Touch) : Prop :=
  sessionKey touch.session = sessionKey touch.owner ∨
    lpChannelName touch.session = lpChannelName touch.owner

/-- Everything is stored under its owner's name and was touched under it. -/
structure Filed (state : State) : Prop where
  rows : ∀ row ∈ state.rows, row.item.sessionKey = sessionKey row.owner
  queues : ∀ channel, ∀ queued ∈ state.queues channel,
    channel = lpChannelName queued.owner
  returned : ∀ touch ∈ state.returned, touch.Named
  deleted : ∀ touch ∈ state.deleted, touch.Named

theorem filed_start : Filed {} where
  rows := by simp
  queues := by simp
  returned := by simp
  deleted := by simp

theorem Rows.mem_create {rows : Rows} {row new : Owned PendingMessage}
    (hmem : row ∈ rows.create new) : row = new ∨ row ∈ rows := by
  unfold create at hmem
  split at hmem
  · exact .inr hmem
  · exact List.mem_cons.mp hmem

@[simp] theorem Rows.mem_ofSession {rows : Rows} {key : Bytes}
    {row : Owned PendingMessage} :
    row ∈ rows.ofSession key ↔ row ∈ rows ∧ row.item.sessionKey = key := by
  simp [ofSession]

section Steps

variable {state : State} (hfiled : Filed state) (auth : WebsocketAuth)

include hfiled

/-- Rows found under a session's key are touched within that key. -/
theorem Filed.touchRows {rows : Rows}
    (hrows : ∀ row ∈ rows, row ∈ state.rows ∧
      row.item.sessionKey = sessionKey auth) :
    ∀ touch ∈ rows.map (touchRow auth), touch.Named := by
  intro touch htouch
  obtain ⟨row, hrow, rfl⟩ := List.mem_map.mp htouch
  obtain ⟨hstored, hkey⟩ := hrows row hrow
  exact .inl (hkey.symm.trans (hfiled.rows row hstored))

/-- So are messages found in a session's channel. -/
theorem Filed.touchQueue {queue : List (Owned Bytes)}
    (hqueue : queue ⊆ state.queues (lpChannelName auth)) :
    ∀ touch ∈ queue.map (touchQueued auth), touch.Named := by
  intro touch htouch
  obtain ⟨queued, hqueued, rfl⟩ := List.mem_map.mp htouch
  exact .inr (hfiled.queues _ queued (hqueue hqueued))

/-- Writing a channel keeps the queues filed if what it holds is filed. -/
theorem Filed.update {queue : List (Owned Bytes)}
    (hqueue : ∀ queued ∈ queue,
      lpChannelName auth = lpChannelName queued.owner) (channel : Bytes) :
    ∀ queued ∈ Function.update state.queues (lpChannelName auth) queue
      channel, channel = lpChannelName queued.owner := by
  intro queued hqueued
  by_cases hsame : channel = lpChannelName auth
  · subst hsame
    rw [Function.update_self] at hqueued
    exact hqueue queued hqueued
  · rw [Function.update_of_ne hsame] at hqueued
    exact hfiled.queues channel queued hqueued

theorem Filed.save {new : Owned PendingMessage}
    (hnew : new.item.sessionKey = sessionKey new.owner) :
    Filed { state with rows := state.rows.create new } where
  rows := by
    intro row hrow
    rcases Rows.mem_create hrow with rfl | hold
    · exact hnew
    · exact hfiled.rows row hold
  queues := hfiled.queues
  returned := hfiled.returned
  deleted := hfiled.deleted

theorem Filed.delete {gone : Owned PendingMessage → Bool}
    (hgone : ∀ row, gone row → row.item.sessionKey = sessionKey auth) :
    Filed (state.delete auth gone) where
  rows := fun row hrow => hfiled.rows row (List.mem_of_mem_filter hrow)
  queues := hfiled.queues
  returned := hfiled.returned
  deleted := by
    have hgone' : ∀ row ∈ state.rows.filter gone, row ∈ state.rows ∧
        row.item.sessionKey = sessionKey auth := fun row hrow =>
      ⟨(List.mem_filter.mp hrow).1, hgone row (List.mem_filter.mp hrow).2⟩
    have hnamed := hfiled.touchRows auth hgone'
    exact List.forall_mem_append.mpr ⟨hnamed, hfiled.deleted⟩

theorem Filed.fetchMany (maxItem : Nat) :
    Filed (state.fetchMany auth maxItem) := by
  have hnamed := hfiled.touchQueue auth
    (List.take_subset maxItem (state.queues (lpChannelName auth)))
  exact {
    rows := hfiled.rows
    queues := hfiled.update auth fun queued hqueued =>
      hfiled.queues _ queued (List.mem_of_mem_drop hqueued)
    returned := List.forall_mem_append.mpr ⟨hnamed, hfiled.returned⟩
    deleted := List.forall_mem_append.mpr ⟨hnamed, hfiled.deleted⟩ }

theorem Filed.expire :
    Filed { state with
      queues := Function.update state.queues (lpChannelName auth) []
      deleted := (state.queues (lpChannelName auth)).map
        (touchQueued auth) ++ state.deleted } where
  rows := hfiled.rows
  queues := hfiled.update auth (by simp)
  returned := hfiled.returned
  deleted := List.forall_mem_append.mpr
    ⟨hfiled.touchQueue auth (List.Subset.refl _), hfiled.deleted⟩

theorem Filed.publish (payload : Bytes) :
    Filed { state with
      queues := Function.update state.queues (lpChannelName auth)
        (state.queues (lpChannelName auth) ++ [⟨auth, payload⟩]) } where
  rows := hfiled.rows
  queues := by
    refine hfiled.update auth fun queued hqueued => ?_
    rcases List.mem_append.mp hqueued with hold | hnew
    · exact hfiled.queues _ queued hold
    · rw [List.mem_singleton.mp hnew]
  returned := hfiled.returned
  deleted := hfiled.deleted

theorem Filed.getAll :
    Filed { state with
      returned := (state.rows.ofSession (sessionKey auth)).map
        (touchRow auth) ++ state.returned } where
  rows := hfiled.rows
  queues := hfiled.queues
  returned := List.forall_mem_append.mpr
    ⟨hfiled.touchRows auth fun _ hrow => Rows.mem_ofSession.mp hrow,
      hfiled.returned⟩
  deleted := hfiled.deleted

end Steps

theorem filed_step {next : State} {label : Label} (hfiled : Filed state)
    (hstep : step state label = some next) :
    Filed next := by
  cases label with
  | save auth sendAt message expiresAt =>
    cases hstep
    exact hfiled.save rfl
  | publish auth payload =>
    cases hstep
    exact hfiled.publish auth payload
  | getAll auth =>
    cases hstep
    exact hfiled.getAll auth
  | deleteUpTo auth maxSendAt =>
    cases hstep
    exact hfiled.delete auth fun row hgone => (of_decide_eq_true hgone).1
  | deleteAll auth =>
    cases hstep
    exact hfiled.delete auth fun row hgone => of_decide_eq_true hgone
  | poll auth =>
    have hpolled : Filed { state with polled := auth :: state.polled } :=
      ⟨hfiled.rows, hfiled.queues, hfiled.returned, hfiled.deleted⟩
    simp only [step] at hstep
    split at hstep
    · cases hstep
      exact ⟨hfiled.rows, hfiled.queues, hfiled.returned, hfiled.deleted⟩
    · cases hstep
      exact hpolled.fetchMany auth lpQueueSize
  | wake auth =>
    simp only [step] at hstep
    split at hstep
    · cases hstep
    · cases hstep
      have hnext := hfiled.fetchMany auth 1
      exact ⟨hnext.rows, hnext.queues, hnext.returned, hnext.deleted⟩
  | giveUp auth =>
    simp only [step] at hstep
    split at hstep
    · cases hstep
    · cases hstep
      exact ⟨hfiled.rows, hfiled.queues, hfiled.returned, hfiled.deleted⟩
  | drainMore auth =>
    simp only [step] at hstep
    split at hstep
    · cases hstep
    · cases hstep
      have hnext := hfiled.fetchMany auth (lpQueueSize - 1)
      exact ⟨hnext.rows, hnext.queues, hnext.returned, hnext.deleted⟩
  | expire auth =>
    simp only [step] at hstep
    split at hstep
    · cases hstep
    · cases hstep
      exact hfiled.expire auth

theorem filed_reach (hreach : Reach step Unguarded {} state) :
    Filed state :=
  Reach.invariant Filed filed_start
    (fun _ _ _ hfiled _ hstep => filed_step hfiled hstep) hreach

/-- The operation of one of the two sessions touched a message of the other. -/
def Touch.Crosses (touch : Touch) (first second : WebsocketAuth) : Prop :=
  (touch.session = first ∧ touch.owner = second) ∨
    (touch.session = second ∧ touch.owner = first)

instance (touch : Touch) (first second : WebsocketAuth) :
    Decidable (touch.Crosses first second) :=
  inferInstanceAs (Decidable (_ ∨ _))

/-- What isolation of two sessions' buffers asks for: names apart, also from
every anonymous channel, and in no run a touch across. -/
structure Isolated (first second : WebsocketAuth) : Prop where
  key : sessionKey first ≠ sessionKey second
  channel : lpChannelName first ≠ lpChannelName second
  anonymous : ∀ anon : WebsocketAuth, anon.isAnonymous = true →
    lpChannelName anon ≠ lpChannelName first ∧
      lpChannelName anon ≠ lpChannelName second
  runs : ∀ state, Reach step Unguarded {} state →
    ∀ touch ∈ state.returned ++ state.deleted, ¬ touch.Crosses first second

/-- Distinct names keep two sessions apart in every run. -/
theorem not_crosses_of_names {first second : WebsocketAuth}
    (hkey : sessionKey first ≠ sessionKey second)
    (hchannel : lpChannelName first ≠ lpChannelName second)
    (hreach : Reach step Unguarded {} state) :
    ∀ touch ∈ state.returned ++ state.deleted,
      ¬ touch.Crosses first second := by
  have hfiled := filed_reach hreach
  intro touch htouch hcrosses
  have hnamed : touch.Named := by
    rcases List.mem_append.mp htouch with hreturned | hdeleted
    · exact hfiled.returned touch hreturned
    · exact hfiled.deleted touch hdeleted
  rcases hcrosses with ⟨rfl, rfl⟩ | ⟨rfl, rfl⟩
  · exact hnamed.elim hkey hchannel
  · exact hnamed.elim (fun h => hkey h.symm) (fun h => hchannel h.symm)

/-- Two authenticated sessions are isolated exactly when neither user
continues the other one across the colon into its instance and neither user
reads as the anonymous segment. -/
theorem isolated_iff {first second : WebsocketAuth}
    (hfirst : first.userID ≠ []) (hsecond : second.userID ≠ [])
    (hne : first ≠ second) :
    Isolated first second ↔
      ¬ Straddles first second ∧ ¬ Straddles second first ∧
        ¬ AnonUser first.userID ∧ ¬ AnonUser second.userID := by
  constructor
  · intro hisolated
    have hstraddle := mt (sessionKey_eq_iff hne).mpr hisolated.key
    rw [not_or] at hstraddle
    refine ⟨hstraddle.1, hstraddle.2, ?_, ?_⟩
    · intro hanon
      obtain ⟨anon, hanon, heq⟩ :=
        (exists_anonymous_channel_iff hfirst).mpr hanon
      exact (hisolated.anonymous anon hanon).1 heq
    · intro hanon
      obtain ⟨anon, hanon, heq⟩ :=
        (exists_anonymous_channel_iff hsecond).mpr hanon
      exact (hisolated.anonymous anon hanon).2 heq
  · rintro ⟨hbefore, hafter, hanonFirst, hanonSecond⟩
    have hkey : sessionKey first ≠ sessionKey second :=
      mt (sessionKey_eq_iff hne).mp (not_or.mpr ⟨hbefore, hafter⟩)
    have hchannel : lpChannelName first ≠ lpChannelName second :=
      mt (lpChannelName_eq_iff hfirst hsecond).mp hkey
    refine ⟨hkey, hchannel, ?_, ?_⟩
    · intro anon hanon
      constructor
      · exact fun heq => hanonFirst
          ((exists_anonymous_channel_iff hfirst).mp ⟨anon, hanon, heq⟩)
      · exact fun heq => hanonSecond
          ((exists_anonymous_channel_iff hsecond).mp ⟨anon, hanon, heq⟩)
    · exact fun state hreach => not_crosses_of_names hkey hchannel hreach

/-- Users `a` and `b` with the same instance. -/
theorem isolated_plain_users : Isolated ⟨[0x61], [0x78]⟩ ⟨[0x62], [0x78]⟩ := by
  refine (isolated_iff (by decide) (by decide) (by decide)).mpr ⟨?_, ?_, ?_, ?_⟩
  · rintro ⟨middle, huser, _⟩
    cases huser
  · rintro ⟨middle, huser, _⟩
    cases huser
  · rintro (huser | ⟨rest, huser⟩) <;> cases huser
  · rintro (huser | ⟨rest, huser⟩) <;> cases huser

/-- A message saved for user `a:b` with instance `c` is returned to and deleted
by the `Consume` of user `a` with instance `b:c`; one published for the first
is handed to a poll of the second. -/
def colonRun : List Label :=
  let reader : WebsocketAuth := ⟨[0x61], [0x62, 0x3A, 0x63]⟩
  let owner : WebsocketAuth := ⟨[0x61, 0x3A, 0x62], [0x63]⟩
  [.save owner 10 [7] 100, .getAll reader, .deleteUpTo reader 10,
    .publish owner [8], .poll reader]

theorem colonRun_crosses :
    let reader : WebsocketAuth := ⟨[0x61], [0x62, 0x3A, 0x63]⟩
    let owner : WebsocketAuth := ⟨[0x61, 0x3A, 0x62], [0x63]⟩
    ∃ state, Reach step Unguarded {} state ∧
      state.rows = [] ∧ ⟨reader, owner, [7]⟩ ∈ state.returned ∧
      ⟨reader, owner, [7]⟩ ∈ state.deleted ∧
      ⟨reader, owner, [8]⟩ ∈ state.returned ∧ reader ≠ owner ∧
      ¬ Isolated reader owner :=
  ⟨_, reach_of_run colonRun rfl (by decide), by decide, by decide,
    by decide, by decide, by decide, fun h => h.key (by decide)⟩

end SessionBuffers

end Pipewave
