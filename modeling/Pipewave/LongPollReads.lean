/-
What a long polling client reads.  One that polls one at a time reads the
messages in the order of their sends; no client reads the messages of another
session; and a message sent on an empty channel waits there without an expiry.
-/
import Pipewave.LongPollQueue
import Pipewave.Pool

namespace Pipewave

namespace LongPollQueue

open Transition

/-! ### One poll at a time -/

/-- The client polls a channel again only when it has its answer. -/
def OneAtATime (s : State) : Label → Prop
  | .poll auth => ∀ poll ∈ s.polls, poll.channel = lpChannelName auth →
      poll.phase.isDone = true
  | _ => True

instance (s : State) : ∀ label, Decidable (OneAtATime s label)
  | .poll auth => inferInstanceAs (Decidable (∀ poll ∈ s.polls,
      poll.channel = lpChannelName auth → poll.phase.isDone = true))
  | .tick _ | .publish _ _ _ | .fetchMany _ _ | .blockFetchOne _ _
  | .fetchMore _ _ | .refresh _ _ | .close _ _ => .isTrue trivial

/-- Only the last poll of a channel may still be on its way. -/
def OnlyLastOpen (polls : List Poll) : Prop :=
  ∀ (i j : Nat) (earlier later : Poll), i < j → polls[i]? = some earlier →
    polls[j]? = some later → later.channel = earlier.channel →
      earlier.phase.isDone = true

structure Sequential (s : State) : Prop where
  done : OnlyLastOpen s.polls
  answers : ∀ c, delivered (s.cell c).queue = s.answers c

variable {p : Nat} {auth other : WebsocketAuth} {cell : Cell}

theorem flatMap_set_last {α β : Type} {l : List α} {x y : α} {f : α → List β}
    {extra : List β} (hx : l[p]? = some x) (hy : f y = f x ++ extra)
    (hlast : ∀ j z, p < j → l[j]? = some z → f z = []) :
    (l.set p y).flatMap f = l.flatMap f ++ extra := by
  induction l generalizing p with
  | nil => cases hx
  | cons head rest ih =>
    cases p with
    | zero =>
      cases hx
      have hrest : rest.flatMap f = [] := by
        apply List.flatMap_eq_nil_iff.mpr
        intro z hz
        obtain ⟨j, hj⟩ := List.getElem?_of_mem hz
        exact hlast (j + 1) z (Nat.succ_pos j) hj
      rw [List.set_cons_zero, List.flatMap_cons, List.flatMap_cons, hrest,
        hy, List.append_nil, List.append_nil]
    | succ p =>
      rw [List.set_cons_succ, List.flatMap_cons, List.flatMap_cons,
        ih hx fun j z hj hz => hlast (j + 1) z (Nat.succ_lt_succ hj) hz,
        List.append_assoc]

theorem flatMap_set_same {α β : Type} {l : List α} {x y : α} {f : α → List β}
    (hx : l[p]? = some x) (hy : f y = f x) :
    (l.set p y).flatMap f = l.flatMap f := by
  induction l generalizing p with
  | nil => rfl
  | cons head rest ih =>
    cases p with
    | zero =>
      cases hx
      rw [List.set_cons_zero, List.flatMap_cons, List.flatMap_cons, hy]
    | succ p =>
      rw [List.set_cons_succ, List.flatMap_cons, List.flatMap_cons, ih hx]

theorem OnlyLastOpen.set {polls : List Poll} (hdone : OnlyLastOpen polls)
    {poll : Poll} (hpoll : polls[p]? = some poll) (phase : Phase)
    (hkept : poll.phase.isDone = true → phase.isDone = true) :
    OnlyLastOpen (polls.set p { poll with phase }) := by
  intro i j earlier later hij hi hj hchannel
  obtain ⟨old, hold, hlater⟩ : ∃ old, polls[j]? = some old ∧
      old.channel = later.channel := by
    rcases getElem?_set_cases hj with hj | ⟨rfl, rfl⟩
    · exact ⟨later, hj, rfl⟩
    · exact ⟨poll, hpoll, rfl⟩
  have hsame := hlater.trans hchannel
  rcases getElem?_set_cases hi with hi | ⟨rfl, rfl⟩
  · exact hdone i j earlier old hij hi hold hsame
  · exact hkept (hdone i j poll old hij hpoll hold hsame)

theorem sequential_step {s next : State} {label : Label} (hs : Sequential s)
    (honly : OneAtATime s label) (hstep : step s label = some next) :
    Sequential next := by
  cases step_cases hstep with
  | quiet _ _ hsame =>
    refine ⟨?_, fun c => ?_⟩
    · rw [hsame.polls]
      exact hs.done
    · rw [hsame.delivered, hs.answers, State.answers, State.answers,
        hsame.polls]
  | pushed auth payload reply =>
    refine ⟨hs.done, fun c => Eq.trans ?_ (hs.answers c)⟩
    by_cases hc : c = lpChannelName auth
    · subst hc
      refine Eq.trans ?_ (Cell.live_delivered _ s.now)
      simp [State.liveCell, delivered]
    · simp [hc]
  | poll auth =>
    refine ⟨?_, fun c => ?_⟩
    · intro i j earlier later hij hi hj hchannel
      obtain ⟨hlength, -⟩ := List.getElem?_eq_some_iff.mp hj
      rw [List.length_append, List.length_singleton] at hlength
      rw [List.getElem?_append_left (by omega)] at hi
      rcases getElem?_concat_cases hj with hold | ⟨-, rfl⟩
      · exact hs.done i j earlier later hij hi hold hchannel
      · exact honly earlier (List.mem_of_getElem? hi) hchannel.symm
    · refine (hs.answers c).trans ?_
      simp [State.answers, Phase.msgs]
  | took _ p n poll phase read hpoll hopen hpops hmsgs hfits =>
    have hlast : ∀ j later, p < j → s.polls[j]? = some later →
        later.channel ≠ poll.channel := by
      intro j later hj hlater hchannel
      have hdone := hs.done p j poll later hj hpoll hlater hchannel
      rw [hopen] at hdone
      cases hdone
    refine ⟨?_, fun c => (hpops.delivered c).trans ?_⟩
    · rw [State.setPhase, hpops.polls]
      refine hs.done.set hpoll phase fun hdone => ?_
      rw [hopen] at hdone
      cases hdone
    · rw [hs.answers, State.answers, State.answers, State.setPhase,
        hpops.polls]
      by_cases hc : c = poll.channel
      · subst hc
        rw [if_pos rfl]
        symm
        apply flatMap_set_last hpoll
        · rw [if_pos rfl]
          exact (if_pos rfl).trans hmsgs
        · intro j later hj hlater
          exact if_neg (hlast j later hj hlater)
      · rw [if_neg hc, List.append_nil]
        symm
        apply flatMap_set_same hpoll
        rw [if_neg (Ne.symm hc)]
        exact if_neg (Ne.symm hc)
  | answered _ p auth msgs next hpoll hsame =>
    refine ⟨?_, fun c => (hsame.delivered c).trans ?_⟩
    · rw [State.setPhase, hsame.polls]
      exact hs.done.set hpoll (.answered msgs) fun _ => rfl
    · rw [hs.answers, State.answers, State.answers, State.setPhase,
        hsame.polls]
      symm
      apply flatMap_set_same hpoll
      rfl

/-- A client that polls one at a time reads the messages in the order of their
sends, and all of them unless a reply was lost or the channel expired. -/
theorem polls_read_in_order {s : State}
    (hreach : Reach step OneAtATime {} s) (channel : Bytes) :
    (s.answers channel).Sublist (s.published channel) ∧
      ((∀ entry ∈ (s.cell channel).queue.gone,
          entry.2 ≠ .lost ∧ entry.2 ≠ .expired) →
        s.published channel =
          s.answers channel ++ (s.cell channel).queue.waiting) := by
  have hinv := inv_of_reach hreach
  have hs : Sequential s := hreach.invariant _
    ⟨by simp [OnlyLastOpen], fun _ => rfl⟩
    fun _ _ _ hs honly hstep => sequential_step hs honly hstep
  rw [← hinv.history, ← hs.answers]
  refine ⟨delivered_sublist _, fun hkept => ?_⟩
  rw [delivered, List.filter_eq_self.mpr]
  · rfl
  · intro entry hentry
    exact decide_eq_true (hkept entry hentry)

/-- The second poll waits for its first message and takes another with it. -/
def polledTwice : List Label :=
  let auth : WebsocketAuth := ⟨[0x75], [0x31]⟩
  [.publish auth [1] .ok, .poll auth, .fetchMany 0 .ok, .refresh 0 .ok,
    .poll auth, .fetchMany 1 .ok, .publish auth [2] .ok,
    .publish auth [3] .ok, .blockFetchOne 1 .ok, .fetchMore 1 .ok,
    .publish auth [4] .ok]

theorem polls_read_in_order_polledTwice :
    let s := final step {} polledTwice
    let channel := lpChannelName ⟨[0x75], [0x31]⟩
    (s.answers channel).map Item.payload = [[1], [2], [3]] ∧
      s.published channel =
        s.answers channel ++ (s.cell channel).queue.waiting :=
  ⟨by decide +kernel, (polls_read_in_order
    (reach_final (by decide +kernel) (by decide +kernel)) _).2
      (by decide +kernel)⟩

/-! ### Whose messages a poll gets -/

/-- Neither a separator nor the name of the anonymous sessions. -/
def Plain (auth : WebsocketAuth) : Prop :=
  colon ∉ auth.userID ∧ auth.userID ≠ anon

/-- The part of a channel's name in front of the instance. -/
def channelUser (auth : WebsocketAuth) : Bytes :=
  if auth.isAnonymous = true then anon else auth.userID

theorem lpChannelName_eq (auth : WebsocketAuth) : lpChannelName auth =
    lp ++ joined colon (channelUser auth) auth.instanceID := by
  rw [lpChannelName, channelUser]
  split <;> rfl

theorem Plain.colon_notMem_channelUser (hplain : Plain auth) :
    colon ∉ channelUser auth := by
  rw [channelUser]
  split
  · decide
  · exact hplain.1

theorem Plain.userID_eq (hplain : Plain auth) (hother : Plain other)
    (hsame : channelUser auth = channelUser other) :
    auth.userID = other.userID := by
  rw [channelUser, channelUser] at hsame
  simp only [WebsocketAuth.isAnonymous, decide_eq_true_eq] at hsame
  split at hsame <;> split at hsame
  next hauth hother => rw [hauth, hother]
  next => exact absurd hsame.symm hother.2
  next => exact absurd hsame hplain.2
  next => exact hsame

/-- Plain sessions have channels of their own. -/
theorem Plain.lpChannelName_inj (hplain : Plain auth) (hother : Plain other)
    (hsame : lpChannelName auth = lpChannelName other) : auth = other := by
  rw [lpChannelName_eq, lpChannelName_eq] at hsame
  have hcut := congrArg (cut colon) (List.append_cancel_left hsame)
  rw [cut_joined hplain.colon_notMem_channelUser,
    cut_joined hother.colon_notMem_channelUser, Option.some.injEq,
    Prod.mk.injEq] at hcut
  obtain ⟨huser, hinstance⟩ := hcut
  have huserID := hplain.userID_eq hother huser
  cases auth
  cases other
  cases huserID
  cases hinstance
  rfl

/-- No interleaving hands a poll a message of another session. -/
theorem poll_gets_own_messages {s : State}
    (hreach : Reach step Unguarded {} s) {p : Nat}
    {poll : Poll} (hpoll : s.polls[p]? = some poll) (hplain : Plain poll.auth)
    {item : Item} (hitem : item ∈ poll.phase.msgs)
    (hsender : Plain item.auth) : item.auth = poll.auth := by
  have hinv := inv_of_reach hreach
  have hheld := hinv.held poll.channel p
  rw [heldFrom_of_getElem? hpoll, if_pos rfl] at hheld
  rw [← hheld] at hitem
  have hpublished := (TrackedQueue.takenBy_sublist _ _).subset hitem
  rw [hinv.history] at hpublished
  have hchannel := of_decide_eq_true (List.mem_filter.mp hpublished).2
  exact hsender.lpChannelName_inj hplain hchannel

theorem poll_gets_own_messages_sharedPolls :
    let s := final step {} sharedPolls
    let poll : Poll := ⟨⟨[0x75], [0x31]⟩, .returned (some
      [⟨⟨[0x75], [0x31]⟩, [2]⟩, ⟨⟨[0x75], [0x31]⟩, [3]⟩,
        ⟨⟨[0x75], [0x31]⟩, [4]⟩])⟩
    s.polls[1]? = some poll ∧ ∀ item ∈ poll.phase.msgs, Plain item.auth →
      item.auth = poll.auth := by
  intro s poll
  have hpoll : s.polls[1]? = some poll := by decide +kernel
  refine ⟨hpoll, fun item hitem hsender => ?_⟩
  exact poll_gets_own_messages
    (reach_final (by decide +kernel) (by decide +kernel))
    hpoll ⟨by decide, by decide⟩ hitem hsender

/-! ### Lists without an expiry -/

/-- A command on the channel that is not a send is executed. -/
def Serves (channel : Bytes) (s : State) : Label → Prop
  | .fetchMany p reply | .blockFetchOne p reply | .fetchMore p reply
  | .refresh p reply => reply.executed = true ∧
      ∃ poll ∈ s.polls[p]?, poll.channel = channel
  | .close auth reply =>
    reply.executed = true ∧ lpChannelName auth = channel
  | .tick _ | .publish _ _ _ | .poll _ => False

instance (channel : Bytes) (s : State) :
    ∀ label, Decidable (Serves channel s label)
  | .fetchMany _ _ | .blockFetchOne _ _ | .fetchMore _ _ | .refresh _ _
  | .close _ _ => inferInstanceAs (Decidable (_ ∧ _))
  | .tick _ | .publish _ _ _ | .poll _ => .isFalse id

/-- What a step can make of a list. -/
inductive Cell.Change (now : Int) (served : Prop) (cell : Cell) :
    Cell → Prop where
  | same : cell.Change now served cell
  | push (item : Item) : cell.Change now served ((cell.live now).push item)
  | pop (hserved : served) (n : Nat) (taker : Taker) :
      cell.Change now served ((cell.live now).pop n taker)
  | expire (hserved : served) (seconds : Int) :
      cell.Change now served ((cell.live now).expire now seconds)

section Changes

variable {s next : State} {label : Label} {channel : Bytes}

theorem State.pop_change {served : Prop} (other : Bytes) {reply : Reply}
    (hserved : reply.executed = true → channel = other → served)
    (n p : Nat) :
    (s.cell other).Change s.now served
      ((s.pop channel n p reply).2.cell other) := by
  have hexecuted : ∀ taker, reply.executed = true →
      (s.cell other).Change s.now served
        ((s.setCell channel ((s.liveCell channel).pop n taker)).cell
          other) := by
    intro taker hexecuted
    rw [State.setCell_cell]
    split
    next hsame =>
      subst hsame
      exact .pop (hserved hexecuted rfl) n taker
    next => exact .same
  cases reply with
  | ok => exact hexecuted _ rfl
  | failed executed =>
    cases executed with
    | false => exact .same
    | true => exact hexecuted _ rfl

theorem State.setChannelTTL_change {served : Prop} (other : Bytes)
    {reply : Reply}
    (hserved : reply.executed = true → channel = other → served)
    (seconds : Int) :
    (s.cell other).Change s.now served
      ((s.setChannelTTL channel seconds reply).cell other) := by
  rw [State.setChannelTTL]
  split
  next hexecuted =>
    rw [State.setCell_cell]
    split
    next hsame =>
      subst hsame
      exact .expire (hserved hexecuted rfl) seconds
    next => exact .same
  next => exact .same

theorem step_change (hstep : step s label = some next) (other : Bytes) :
    (s.cell other).Change s.now (Serves other s label) (next.cell other) := by
  cases label with
  | tick now =>
    simp only [step, Option.ite_none_right_eq_some, Option.some.injEq]
      at hstep
    obtain ⟨-, rfl⟩ := hstep
    exact .same
  | publish auth payload reply =>
    simp only [step, Option.some.injEq] at hstep
    subst hstep
    split
    · by_cases hsame : other = lpChannelName auth
      · subst hsame
        simp only [State.setCell_cell, if_true]
        exact .push _
      · simp only [State.setCell_cell, if_neg hsame]
        exact .same
    · exact .same
  | poll auth =>
    cases hstep
    exact .same
  | fetchMany p reply =>
    simp only [step] at hstep
    split at hstep
    next auth hpoll =>
      cases hstep
      exact State.pop_change other (fun hdone h => ⟨hdone, _, hpoll, h⟩) _ _
    next => cases hstep
  | blockFetchOne p reply =>
    simp only [step] at hstep
    split at hstep
    next auth hpoll =>
      cases hstep
      exact State.pop_change other (fun hdone h => ⟨hdone, _, hpoll, h⟩) _ _
    next => cases hstep
  | fetchMore p reply =>
    simp only [step] at hstep
    split at hstep
    next auth msg hpoll =>
      cases hstep
      exact State.pop_change other (fun hdone h => ⟨hdone, _, hpoll, h⟩) _ _
    next => cases hstep
  | refresh p reply =>
    simp only [step] at hstep
    split at hstep
    next auth msgs hpoll =>
      cases hstep
      exact State.setChannelTTL_change other
        (fun hdone h => ⟨hdone, _, hpoll, h⟩) _
    next => cases hstep
  | close auth reply =>
    cases hstep
    exact State.setChannelTTL_change other And.intro _

end Changes

/-- Only lists with messages expire. -/
def Cell.Sound (cell : Cell) : Prop :=
  cell.queue.waiting = [] → cell.expireAt = none

theorem Cell.Sound.pop (n : Nat) (taker : Taker) :
    (cell.pop n taker).Sound := by
  intro hempty
  exact if_pos hempty

theorem Cell.Sound.live (hsound : cell.Sound) (now : Int) :
    (cell.live now).Sound := by
  rw [Cell.live]
  split
  · exact .pop _ _
  · exact hsound

theorem Cell.Sound.change {next : Cell} {now : Int} {served : Prop}
    (hsound : cell.Sound) (hchange : cell.Change now served next) :
    next.Sound := by
  cases hchange with
  | same => exact hsound
  | push item =>
    intro hempty
    exact absurd hempty (List.append_ne_nil_of_right_ne_nil _
      (List.cons_ne_nil _ _))
  | pop _ n taker => exact .pop n taker
  | expire _ seconds =>
    rw [Cell.expire]
    split
    next => exact hsound.live now
    next hsome => exact fun hempty => absurd hempty hsome

theorem Cell.live_of_unexpiring (hnone : cell.expireAt = none) (now : Int) :
    cell.live now = cell := by
  rw [Cell.live, if_neg]
  rintro ⟨at_, hat, -⟩
  rw [hnone] at hat
  cases hat

/-- The message is first in a list that does not expire. -/
def Cell.Keeps (item : Item) (cell : Cell) : Prop :=
  cell.queue.waiting.head? = some item ∧ cell.expireAt = none

theorem Cell.Keeps.change {item : Item} {next : Cell} {now : Int}
    {served : Prop} (hkeeps : cell.Keeps item)
    (hchange : cell.Change now served next) (hother : ¬ served) :
    next.Keeps item := by
  cases hchange with
  | same => exact hkeeps
  | push entry =>
    rw [Cell.live_of_unexpiring hkeeps.2]
    refine ⟨?_, hkeeps.2⟩
    rw [push_queue, TrackedQueue.push_waiting, List.head?_append,
      hkeeps.1]
    rfl
  | pop hserved => exact absurd hserved hother
  | expire hserved => exact absurd hserved hother

/-- A send on a channel that is empty, or whose list has expired, makes a list
without an expiry.  Until a command of a poll or of a close is executed,
however late that is, nothing removes it. -/
theorem published_stays {s next last : State} {auth : WebsocketAuth}
    {payload : Bytes} {reply : Reply}
    (hreach : Reach step Unguarded {} s)
    (hempty : (s.liveCell (lpChannelName auth)).queue.waiting = [])
    (hsent : reply.executed = true)
    (hsend : step s (.publish auth payload reply) = some next)
    (hlater : Reach step (fun s label =>
      ¬ Serves (lpChannelName auth) s label) next last) :
    (last.cell (lpChannelName auth)).Keeps ⟨auth, payload⟩ := by
  have hsound : (s.cell (lpChannelName auth)).Sound :=
    hreach.invariant (fun s => (s.cell (lpChannelName auth)).Sound)
      (fun _ => rfl) fun _ _ _ hsound _ hstep =>
        hsound.change (step_change hstep _)
  have hnone : (s.liveCell (lpChannelName auth)).expireAt = none :=
    hsound.live s.now hempty
  apply hlater.invariant fun last =>
    (last.cell (lpChannelName auth)).Keeps ⟨auth, payload⟩
  · cases hsend
    constructor <;> simp [hsent, hempty, Cell.push, hnone]
  · intro state label after hkeeps hother hstep
    exact hkeeps.change (step_change hstep _) hother

/-- A message is left over when the connection closes, and its list expires a
minute later. -/
def expiredAfterClose : List Label :=
  let auth : WebsocketAuth := ⟨[0x75], [0x31]⟩
  [.poll auth, .fetchMany 0 .ok, .blockFetchOne 0 .ok, .refresh 0 .ok,
    .publish auth [1] .ok, .close auth .ok, .tick 61000]

/-- After that a send succeeds, a second `Close` does not reach the server,
and a year passes. -/
theorem published_stays_expiredAfterClose :
    let auth : WebsocketAuth := ⟨[0x75], [0x31]⟩
    let closed := final step {} expiredAfterClose
    let sent := final step closed [.publish auth [2] .ok]
    let last := final step sent
      [.close auth (.failed false), .tick 31536000000]
    (closed.cell (lpChannelName auth)).queue.waiting = [⟨auth, [1]⟩] ∧
      last.now = 31536000000 ∧
      (last.cell (lpChannelName auth)).Keeps ⟨auth, [2]⟩ := by
  intro auth closed sent last
  have hclosed : Reach step Unguarded {} closed :=
    reach_final (by decide +kernel) (by decide +kernel)
  have hlast : Reach step (fun s label =>
      ¬ Serves (lpChannelName auth) s label) sent last :=
    reach_final (by decide +kernel) (by decide +kernel)
  exact ⟨by decide +kernel, by decide +kernel, published_stays hclosed
    (by decide +kernel) rfl (step_eq_final (by decide +kernel))
    hlast⟩

end LongPollQueue

end Pipewave
