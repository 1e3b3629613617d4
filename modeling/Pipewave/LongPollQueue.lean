/-
The queues behind the long polling connections.  A connection publishes to a
Valkey list that is named after its session, and every poll of the session
takes from it: at once, or blocking for a first message and then for more.
Each command is one step of the server; a client that gets no reply does not
know whether its command was executed.  Times are in milliseconds.
-/
import Mathlib.Logic.Function.Basic
import Pipewave.Auth
import Pipewave.Separator
import Pipewave.TrackedQueue
import Pipewave.Transition

namespace Pipewave

namespace LongPollQueue

open Transition

def lpQueueSize : Nat := 64

/-- In seconds, as the two calls of `SetChannelTTL` give them. -/
def lpChannelTTL : Int := 600
def closeTTL : Int := 60

def colon : UInt8 := 0x3A

/-- `lp:`. -/
def lp : Bytes := [0x6C, 0x70, 0x3A]

/-- `anon`. -/
def anon : Bytes := [0x61, 0x6E, 0x6F, 0x6E]

def lpChannelName (auth : WebsocketAuth) : Bytes :=
  if auth.isAnonymous = true then lp ++ joined colon anon auth.instanceID
  else lp ++ joined colon auth.userID auth.instanceID

/-- A published payload.  `auth` is whose connection published it; the list
does not hold it and no step reads it. -/
structure Item where
  auth : WebsocketAuth
  payload : Bytes
deriving Repr, DecidableEq

/-- Who took a message off a list: a poll that got it, a command that was
executed for a client which got no reply, or the list's expiry. -/
inductive Taker where
  | poll (p : Nat)
  | lost
  | expired
deriving Repr, DecidableEq

/-- A list key.  One without messages does not exist and has no expiry. -/
structure Cell where
  queue : TrackedQueue Item Taker := {}
  expireAt : Option Int := none
deriving Repr, DecidableEq

namespace Cell

variable (cell : Cell)

def push (item : Item) : Cell := { cell with queue := cell.queue.push item }

/-- The key goes with the last message. -/
def pop (n : Nat) (taker : Taker) : Cell :=
  { cell with
    queue := cell.queue.take n taker
    expireAt := if cell.queue.waiting.drop n = [] then none
      else cell.expireAt }

def Due (now : Int) : Prop := ∃ at_ ∈ cell.expireAt, at_ ≤ now

instance (now : Int) : Decidable (cell.Due now) :=
  inferInstanceAs (Decidable (∃ at_ ∈ cell.expireAt, at_ ≤ now))

/-- What a command finds. -/
def live (now : Int) : Cell :=
  if cell.Due now then cell.pop cell.queue.waiting.length .expired else cell

/-- `EXPIRE`, which does nothing to a key that does not exist. -/
def expire (now seconds : Int) : Cell :=
  if cell.queue.waiting = [] then cell
  else { cell with expireAt := some (now + seconds * 1000) }

end Cell

/-- Where a poll is in `drainOrWait` and behind it; nil is `none`. -/
inductive Phase where
  | fetching
  | blocking
  | draining (msg : Item)
  | returned (msgs : Option (List Item))
  /-- Behind its `SetChannelTTL`. -/
  | answered (msgs : Option (List Item))
deriving Repr, DecidableEq

/-- What the poll has taken for its client. -/
def Phase.msgs : Phase → List Item
  | .fetching | .blocking => []
  | .draining msg => [msg]
  | .returned msgs | .answered msgs => msgs.getD []

/-- `drainOrWait` has returned. -/
def Phase.isDone : Phase → Bool
  | .fetching | .blocking | .draining _ => false
  | .returned _ | .answered _ => true

structure Poll where
  auth : WebsocketAuth
  phase : Phase := .fetching
deriving Repr, DecidableEq

def Poll.channel (poll : Poll) : Bytes := lpChannelName poll.auth

/-- What came back for a command, and whether the server executed one that
failed for the client. -/
inductive Reply where
  | ok
  | failed (executed : Bool)
deriving Repr, DecidableEq

def Reply.executed : Reply → Bool
  | .ok => true
  | .failed executed => executed

/-- `log` has the messages pushed so far. -/
structure State where
  now : Int := 0
  cell : Bytes → Cell := fun _ => {}
  polls : List Poll := []
  log : List Item := []

inductive Label where
  | tick (now : Int)
  /-- `Send` or `SendDirect`. -/
  | publish (auth : WebsocketAuth) (payload : Bytes) (reply : Reply)
  | poll (auth : WebsocketAuth)
  /-- The first `FetchMany`. -/
  | fetchMany (p : Nat) (reply : Reply)
  | blockFetchOne (p : Nat) (reply : Reply)
  /-- The second `FetchMany`. -/
  | fetchMore (p : Nat) (reply : Reply)
  /-- `SetChannelTTL` of a poll, and that of `Close`. -/
  | refresh (p : Nat) (reply : Reply)
  | close (auth : WebsocketAuth) (reply : Reply)
deriving Repr, DecidableEq

namespace State

variable (s : State)

def setCell (channel : Bytes) (cell : Cell) : State :=
  { s with cell := Function.update s.cell channel cell }

def setPhase (p : Nat) (poll : Poll) (phase : Phase) : State :=
  { s with polls := s.polls.set p { poll with phase } }

def liveCell (channel : Bytes) : Cell := (s.cell channel).live s.now

/-- `LPOP` or `BLPOP` for a poll: what the client gets, and the state behind
it. -/
def pop (channel : Bytes) (n p : Nat) : Reply → List Item × State
  | .ok => ((s.liveCell channel).queue.waiting.take n,
      s.setCell channel ((s.liveCell channel).pop n (.poll p)))
  | .failed true =>
    ([], s.setCell channel ((s.liveCell channel).pop n .lost))
  | .failed false => ([], s)

def setChannelTTL (channel : Bytes) (seconds : Int) (reply : Reply) : State :=
  if reply.executed = true then
    s.setCell channel ((s.liveCell channel).expire s.now seconds)
  else s

end State

def step (s : State) : Label → Option State
  | .tick now => if s.now ≤ now then some { s with now } else none
  | .publish auth payload reply =>
    let channel := lpChannelName auth
    some (if reply.executed = true then
      { s.setCell channel ((s.liveCell channel).push ⟨auth, payload⟩) with
        log := s.log ++ [⟨auth, payload⟩] }
    else s)
  | .poll auth => some { s with polls := s.polls ++ [{ auth }] }
  | .fetchMany p reply =>
    match s.polls[p]? with
    | some ⟨auth, .fetching⟩ =>
      let read := s.pop (lpChannelName auth) lpQueueSize p reply
      some (read.2.setPhase p { auth }
        (if read.1 = [] then .blocking else .returned (some read.1)))
    | _ => none
  | .blockFetchOne p reply =>
    match s.polls[p]? with
    | some ⟨auth, .blocking⟩ =>
      let read := s.pop (lpChannelName auth) 1 p reply
      some (read.2.setPhase p { auth } (match read.1 with
        | [] => .returned none
        | msg :: _ => .draining msg))
    | _ => none
  | .fetchMore p reply =>
    match s.polls[p]? with
    | some ⟨auth, .draining msg⟩ =>
      let read := s.pop (lpChannelName auth) (lpQueueSize - 1) p reply
      some (read.2.setPhase p { auth }
        (.returned (some (msg :: read.1))))
    | _ => none
  | .refresh p reply =>
    match s.polls[p]? with
    | some ⟨auth, .returned msgs⟩ =>
      some ((s.setChannelTTL (lpChannelName auth) lpChannelTTL
        reply).setPhase p { auth } (.answered msgs))
    | _ => none
  | .close auth reply =>
    some (s.setChannelTTL (lpChannelName auth) closeTTL reply)

/-! ### What the polls of a channel get -/

/-- What a poll holds of a channel. -/
def heldFrom (polls : List Poll) (channel : Bytes) (p : Nat) : List Item :=
  match polls[p]? with
  | none => []
  | some poll => if poll.channel = channel then poll.phase.msgs else []

/-- The messages published on a channel, in order. -/
def State.published (s : State) (channel : Bytes) : List Item :=
  s.log.filter fun item => lpChannelName item.auth = channel

/-- What polls have got of a queue. -/
def delivered (queue : TrackedQueue Item Taker) : List Item :=
  (queue.gone.filter fun entry =>
    entry.2 ≠ .lost ∧ entry.2 ≠ .expired).map Prod.fst

/-- The answers to a channel's polls, one after the other. -/
def State.answers (s : State) (channel : Bytes) : List Item :=
  s.polls.flatMap fun poll =>
    if poll.channel = channel then poll.phase.msgs else []

section Commands

variable (cell : Cell)

theorem delivered_take (queue : TrackedQueue Item Taker) (n : Nat)
    (taker : Taker) : delivered (queue.take n taker) = delivered queue ++
      if taker ≠ .lost ∧ taker ≠ .expired then queue.waiting.take n
      else [] := by
  rw [delivered, delivered, TrackedQueue.take, List.filter_append,
    List.map_append, List.filter_map]
  split
  next htaker =>
    congr 1
    rw [List.filter_eq_self.mpr, List.map_map]
    · exact List.map_id _
    · intro entry _
      exact decide_eq_true htaker
  next htaker =>
    congr 1
    rw [List.filter_eq_nil_iff.mpr]
    · rfl
    · intro entry _
      exact fun h => htaker (of_decide_eq_true h)

theorem delivered_sublist (queue : TrackedQueue Item Taker) :
    (delivered queue).Sublist queue.history :=
  (List.filter_sublist.map Prod.fst).trans (List.sublist_append_left _ _)

namespace Cell

@[simp] theorem push_queue (item : Item) :
    (cell.push item).queue = cell.queue.push item := rfl

@[simp] theorem pop_queue (n : Nat) (taker : Taker) :
    (cell.pop n taker).queue = cell.queue.take n taker := rfl

@[simp] theorem expire_queue (now seconds : Int) :
    (cell.expire now seconds).queue = cell.queue := by
  rw [expire]
  split <;> rfl

@[simp] theorem live_history (now : Int) :
    (cell.live now).queue.history = cell.queue.history := by
  rw [live]
  split
  · exact TrackedQueue.history_take _ _ _
  · rfl

@[simp] theorem live_takenBy (now : Int) (p : Nat) :
    (cell.live now).queue.takenBy (.poll p) =
      cell.queue.takenBy (.poll p) := by
  rw [live]
  split
  · exact TrackedQueue.takenBy_take_of_ne _ (by simp) _
  · rfl

@[simp] theorem live_delivered (now : Int) :
    delivered (cell.live now).queue = delivered cell.queue := by
  rw [live]
  split
  · rw [pop_queue, delivered_take, if_neg (by simp), List.append_nil]
  · rfl

end Cell

variable (s : State) (channel : Bytes) (n p : Nat) (reply : Reply)

@[simp] theorem State.setCell_cell (cell : Cell) (other : Bytes) :
    (s.setCell channel cell).cell other =
      if other = channel then cell else s.cell other :=
  Function.update_apply _ _ _ _

/-- What a command of a poll does to the lists: the messages it returns, and
those lost with its reply, leave one list in order. -/
structure Pops (s : State) (channel : Bytes) (n p : Nat)
    (read : List Item × State) : Prop where
  polls : read.2.polls = s.polls
  log : read.2.log = s.log
  now : read.2.now = s.now
  length : read.1.length ≤ n
  history : ∀ c, (read.2.cell c).queue.history = (s.cell c).queue.history
  takenBy : ∀ c q, (read.2.cell c).queue.takenBy (.poll q) =
    (s.cell c).queue.takenBy (.poll q) ++
      if c = channel ∧ q = p then read.1 else []
  delivered : ∀ c, delivered (read.2.cell c).queue =
    delivered (s.cell c).queue ++ if c = channel then read.1 else []

theorem State.pops : Pops s channel n p (s.pop channel n p reply) := by
  match reply with
  | .failed false =>
    constructor <;> simp [State.pop]
  | .failed true =>
    refine ⟨rfl, rfl, rfl, Nat.zero_le n, ?_, ?_, ?_⟩
    · intro c
      by_cases hc : c = channel <;> simp [State.pop, hc, State.liveCell]
    · intro c q
      by_cases hc : c = channel
      · simp [State.pop, hc, State.liveCell,
          TrackedQueue.takenBy_take_of_ne]
      · simp [State.pop, hc]
    · intro c
      by_cases hc : c = channel
      · simp [State.pop, hc, State.liveCell, delivered_take]
      · simp [State.pop, hc]
  | .ok =>
    refine ⟨rfl, rfl, rfl, List.length_take_le _ _, ?_, ?_, ?_⟩
    · intro c
      by_cases hc : c = channel <;> simp [State.pop, hc, State.liveCell]
    · intro c q
      by_cases hc : c = channel
      · by_cases hq : q = p
        · simp [State.pop, hc, hq, State.liveCell]
        · have hne : Taker.poll p ≠ .poll q := by
            simpa using Ne.symm hq
          simp [State.pop, hc, hq, State.liveCell,
            TrackedQueue.takenBy_take_of_ne _ hne]
      · simp [State.pop, hc]
    · intro c
      by_cases hc : c = channel
      · simp [State.pop, hc, State.liveCell, delivered_take]
      · simp [State.pop, hc]

end Commands

/-- Neither the messages nor who has got them change. -/
structure SameMessages (s next : State) : Prop where
  polls : next.polls = s.polls
  log : next.log = s.log
  history : ∀ c, (next.cell c).queue.history = (s.cell c).queue.history
  takenBy : ∀ c q, (next.cell c).queue.takenBy (.poll q) =
    (s.cell c).queue.takenBy (.poll q)
  delivered : ∀ c, delivered (next.cell c).queue =
    delivered (s.cell c).queue

theorem SameMessages.refl (s : State) : SameMessages s s :=
  ⟨rfl, rfl, fun _ => rfl, fun _ _ => rfl, fun _ => rfl⟩

theorem State.setChannelTTL_same (s : State) (channel : Bytes) (seconds : Int)
    (reply : Reply) :
    SameMessages s (s.setChannelTTL channel seconds reply) := by
  rw [State.setChannelTTL]
  split
  · refine ⟨rfl, rfl, ?_, ?_, ?_⟩
    · intro c
      by_cases hc : c = channel <;> simp [hc, State.liveCell]
    · intro c q
      by_cases hc : c = channel <;> simp [hc, State.liveCell]
    · intro c
      by_cases hc : c = channel <;> simp [hc, State.liveCell]
  · exact .refl s

/-! ### Steps -/

/-- Behind `drainOrWait` a list of messages is not empty and fits a
response. -/
def Phase.Fits : Phase → Prop
  | .fetching | .blocking | .draining _ => True
  | .returned msgs | .answered msgs =>
    ∀ list ∈ msgs, list ≠ [] ∧ list.length ≤ lpQueueSize

/-- The three fetches differ in the number of messages they ask for and in
what the poll does next. -/
inductive StepCase (s : State) : Label → State → Prop where
  | quiet (label : Label) (next : State) (hsame : SameMessages s next) :
      StepCase s label next
  | pushed (auth : WebsocketAuth) (payload : Bytes) (reply : Reply) :
      StepCase s (.publish auth payload reply)
        { s.setCell (lpChannelName auth)
            ((s.liveCell (lpChannelName auth)).push ⟨auth, payload⟩) with
          log := s.log ++ [⟨auth, payload⟩] }
  | poll (auth : WebsocketAuth) :
      StepCase s (.poll auth) { s with polls := s.polls ++ [{ auth }] }
  | took (label : Label) (p n : Nat) (poll : Poll) (phase : Phase)
      (read : List Item × State) (hpoll : s.polls[p]? = some poll)
      (hopen : poll.phase.isDone = false)
      (hpops : Pops s poll.channel n p read)
      (hmsgs : phase.msgs = poll.phase.msgs ++ read.1) (hfits : phase.Fits) :
      StepCase s label (read.2.setPhase p poll phase)
  | answered (label : Label) (p : Nat) (auth : WebsocketAuth)
      (msgs : Option (List Item)) (next : State)
      (hpoll : s.polls[p]? = some ⟨auth, .returned msgs⟩)
      (hsame : SameMessages s next) :
      StepCase s label (next.setPhase p { auth } (.answered msgs))

theorem step_cases {s next : State} {label : Label}
    (hstep : step s label = some next) : StepCase s label next := by
  cases label with
  | tick now =>
    simp only [step, Option.ite_none_right_eq_some, Option.some.injEq]
      at hstep
    obtain ⟨-, rfl⟩ := hstep
    exact .quiet _ _ ⟨rfl, rfl, fun _ => rfl, fun _ _ => rfl, fun _ => rfl⟩
  | publish auth payload reply =>
    simp only [step, Option.some.injEq] at hstep
    subst hstep
    split
    · exact .pushed auth payload reply
    · exact .quiet _ _ (.refl s)
  | poll auth =>
    cases hstep
    exact .poll auth
  | fetchMany p reply =>
    simp only [step] at hstep
    split at hstep
    next auth hpoll =>
      cases hstep
      have hpops := s.pops (lpChannelName auth) lpQueueSize p reply
      refine .took _ p lpQueueSize ⟨auth, .fetching⟩ _ _ hpoll rfl hpops
        ?_ ?_
      · split
        next hnone => exact hnone.symm
        next => rfl
      · split
        next => trivial
        next hsome =>
          rintro list ⟨⟩
          exact ⟨hsome, hpops.length⟩
    next => cases hstep
  | blockFetchOne p reply =>
    simp only [step] at hstep
    split at hstep
    next auth hpoll =>
      cases hstep
      have hpops := s.pops (lpChannelName auth) 1 p reply
      have hlength := hpops.length
      refine .took _ p 1 ⟨auth, .blocking⟩ _ _ hpoll rfl hpops ?_ ?_
      · split
        next hnone => exact hnone.symm
        next msg rest hsome =>
          rw [hsome, List.length_cons] at hlength
          obtain rfl := List.length_eq_zero_iff.mp (by omega :
            rest.length = 0)
          exact hsome.symm
      · split
        next => rintro list ⟨⟩
        next => trivial
    next => cases hstep
  | fetchMore p reply =>
    simp only [step] at hstep
    split at hstep
    next auth msg hpoll =>
      cases hstep
      have hpops := s.pops (lpChannelName auth) (lpQueueSize - 1) p reply
      have hlength := hpops.length
      refine .took _ p (lpQueueSize - 1) ⟨auth, .draining msg⟩ _ _ hpoll rfl
        hpops rfl ?_
      rintro list ⟨⟩
      refine ⟨List.cons_ne_nil _ _, ?_⟩
      rw [List.length_cons]
      simp only [lpQueueSize] at hlength ⊢
      omega
    next => cases hstep
  | refresh p reply =>
    simp only [step] at hstep
    split at hstep
    next auth msgs hpoll =>
      cases hstep
      exact .answered _ p auth msgs _ hpoll (s.setChannelTTL_same _ _ _)
    next => cases hstep
  | close auth reply =>
    cases hstep
    exact .quiet _ _ (s.setChannelTTL_same _ _ _)

/-! ### Every message goes one way -/

section Held

variable {polls : List Poll} {p : Nat} {poll : Poll}

theorem heldFrom_of_getElem? (hpoll : polls[p]? = some poll) (c : Bytes) :
    heldFrom polls c p = if poll.channel = c then poll.phase.msgs else [] := by
  rw [heldFrom, hpoll]

theorem heldFrom_set (hpoll : polls[p]? = some poll) (phase : Phase)
    (c : Bytes) (q : Nat) :
    heldFrom (polls.set p { poll with phase }) c q =
      if q = p then if poll.channel = c then phase.msgs else []
      else heldFrom polls c q := by
  obtain ⟨hp, -⟩ := List.getElem?_eq_some_iff.mp hpoll
  by_cases hsame : q = p
  · rw [if_pos hsame, hsame]
    exact heldFrom_of_getElem? (List.getElem?_set_self hp) c
  · rw [if_neg hsame, heldFrom, List.getElem?_set_ne (Ne.symm hsame)]
    rfl

/-- A new poll holds nothing yet. -/
theorem heldFrom_append (polls : List Poll) (auth : WebsocketAuth) (c : Bytes)
    (q : Nat) : heldFrom (polls ++ [⟨auth, .fetching⟩]) c q =
      heldFrom polls c q := by
  rw [heldFrom, heldFrom]
  rcases Nat.lt_trichotomy q polls.length with hlt | heq | hgt
  · rw [List.getElem?_append_left hlt]
  · rw [heq, List.getElem?_concat_length,
      List.getElem?_eq_none (Nat.le_refl _)]
    exact ite_self _
  · rw [List.getElem?_eq_none (Nat.le_of_lt hgt), List.getElem?_eq_none]
    rw [List.length_append]
    exact hgt

end Held

structure Inv (s : State) : Prop where
  history : ∀ c, (s.cell c).queue.history = s.published c
  held : ∀ c p, (s.cell c).queue.takenBy (.poll p) = heldFrom s.polls c p
  fits : ∀ poll ∈ s.polls, poll.phase.Fits

theorem inv_init : Inv {} where
  history := fun _ => rfl
  held := fun _ _ => rfl
  fits := fun _ hmem => by cases hmem

theorem inv_step {s next : State} {label : Label} (hinv : Inv s)
    (hstep : step s label = some next) : Inv next := by
  cases step_cases hstep with
  | quiet _ _ hsame =>
    refine ⟨fun c => ?_, fun c p => ?_, fun poll hmem => ?_⟩
    · rw [hsame.history, hinv.history, State.published, State.published,
        hsame.log]
    · rw [hsame.takenBy, hinv.held, hsame.polls]
    · exact hinv.fits poll (hsame.polls ▸ hmem)
  | pushed auth payload reply =>
    refine ⟨fun c => ?_, fun c p => ?_, hinv.fits⟩
    · have hold := hinv.history c
      by_cases hc : c = lpChannelName auth
      · subst hc
        simpa [State.published, State.liveCell] using hold
      · simpa [State.published, hc, Ne.symm hc] using hold
    · refine Eq.trans ?_ (hinv.held c p)
      by_cases hc : c = lpChannelName auth
      · subst hc
        simp [State.liveCell]
      · simp [hc]
  | poll auth =>
    refine ⟨hinv.history, fun c p => ?_, fun poll hmem => ?_⟩
    · rw [heldFrom_append]
      exact hinv.held c p
    · rcases List.mem_append.mp hmem with hold | hnew
      · exact hinv.fits poll hold
      · obtain rfl := List.mem_singleton.mp hnew
        trivial
  | took _ p n poll phase read hpoll hopen hpops hmsgs hfits =>
    refine ⟨fun c => ?_, fun c q => ?_, fun other hmem => ?_⟩
    · have hsame := hpops.history c
      rw [hinv.history] at hsame
      rw [State.published, State.setPhase, hpops.log]
      exact hsame
    · refine (hpops.takenBy c q).trans ?_
      rw [hinv.held, State.setPhase, hpops.polls, heldFrom_set hpoll]
      by_cases hq : q = p
      · subst hq
        rw [if_pos rfl, heldFrom_of_getElem? hpoll]
        by_cases hc : poll.channel = c
        · simp [hc, hmsgs]
        · simp [hc, Ne.symm hc]
      · simp [hq]
    · rcases List.mem_or_eq_of_mem_set hmem with hold | rfl
      · exact hinv.fits other (hpops.polls ▸ hold)
      · exact hfits
  | answered _ p auth msgs next hpoll hsame =>
    refine ⟨fun c => ?_, fun c q => ?_, fun other hmem => ?_⟩
    · have hkept := hsame.history c
      rw [hinv.history] at hkept
      rw [State.published, State.setPhase, hsame.log]
      exact hkept
    · refine (hsame.takenBy c q).trans ?_
      have hset := heldFrom_set hpoll (.answered msgs) c q
      rw [hinv.held, State.setPhase, hsame.polls, hset]
      by_cases hq : q = p
      · rw [if_pos hq, hq, heldFrom_of_getElem? hpoll]
        rfl
      · rw [if_neg hq]
    · rcases List.mem_or_eq_of_mem_set hmem with hold | rfl
      · exact hinv.fits other (hsame.polls ▸ hold)
      · exact hinv.fits ⟨auth, .returned msgs⟩ (List.mem_of_getElem? hpoll)

theorem inv_of_reach {allowed : State → Label → Prop} {s : State}
    (hreach : Reach step allowed {} s) : Inv s :=
  hreach.invariant _ inv_init fun _ _ _ hinv _ hstep => inv_step hinv hstep

/-- Messages leave a channel in the order they were published in, each to one
poll at most, and a poll has no others. -/
structure SharesChannels (s : State) : Prop where
  order : ∀ channel, s.published channel =
    (s.cell channel).queue.gone.map Prod.fst ++
      (s.cell channel).queue.waiting
  share : ∀ p poll, s.polls[p]? = some poll → poll.phase.msgs =
    (s.cell poll.channel).queue.takenBy (.poll p)
  elsewhere : ∀ p poll channel, s.polls[p]? = some poll →
    channel ≠ poll.channel →
      (s.cell channel).queue.takenBy (.poll p) = []
  fits : ∀ poll ∈ s.polls, ∀ msgs, poll.phase = .returned (some msgs) →
    msgs ≠ [] ∧ msgs.length ≤ lpQueueSize

/-- However polls, sends, lost replies and expiries interleave. -/
theorem sharesChannels_of_reach {s : State}
    (hreach : Reach step Unguarded {} s) :
    SharesChannels s := by
  have hinv := inv_of_reach hreach
  refine ⟨fun channel => (hinv.history channel).symm, ?_, ?_, ?_⟩
  · intro p poll hpoll
    rw [hinv.held, heldFrom_of_getElem? hpoll, if_pos rfl]
  · intro p poll channel hpoll hne
    rw [hinv.held, heldFrom_of_getElem? hpoll, if_neg (Ne.symm hne)]
  · intro poll hmem msgs hphase
    have hfits := hinv.fits poll hmem
    rw [hphase] at hfits
    exact hfits msgs rfl

/-- Two polls of one session, a third one that waits, and a fetch whose reply
is lost. -/
def sharedPolls : List Label :=
  let auth : WebsocketAuth := ⟨[0x75], [0x31]⟩
  [.publish auth [1] .ok, .poll auth, .poll auth, .fetchMany 0 .ok,
    .fetchMany 1 .ok, .publish auth [2] .ok, .publish auth [3] .ok,
    .blockFetchOne 1 .ok, .publish auth [4] .ok, .fetchMore 1 .ok,
    .publish auth [5] .ok, .poll auth, .fetchMany 2 (.failed true),
    .blockFetchOne 2 .ok]

theorem sharesChannels_sharedPolls :
    let s := final step {} sharedPolls
    s.polls.map (fun poll => poll.phase.msgs.map Item.payload) =
        [[[1]], [[2], [3], [4]], []] ∧ SharesChannels s :=
  ⟨by decide +kernel, sharesChannels_of_reach
    (reach_final (by decide +kernel) (by decide +kernel))⟩

end LongPollQueue

end Pipewave
