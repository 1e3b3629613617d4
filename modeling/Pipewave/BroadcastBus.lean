/-
The messages between containers.  Every container subscribes to a channel of
its own and to one that all of them share; a call of `Publish` publishes on
the channels of its targets one after another and stops at the first error.
The names of the channels are made so that the channel of a container can be
the shared one; no handler runs by mistake all the same.
-/
import Mathlib.Data.List.Count
import Pipewave.ChannelBus
import Pipewave.LengthPrefix
import Pipewave.Pool
import Pipewave.Transition

namespace Pipewave

namespace BroadcastBus

open Transition

inductive MsgType where
  | sendToUser
  | sendToSession
  | disconnectSession
  | disconnectUser
  | sendToUsers
  | sendToSessionWithAck
  | sendToUserWithAck
  | ackResolved
  | resumeSession
  | sendToAnonymous
  | sendToAuthenticated
  | sendToAll
deriving Repr, DecidableEq

/-- The types that go to all containers. -/
def MsgType.all : MsgType → Bool
  | .sendToAnonymous | .sendToAuthenticated | .sendToAll => true
  | _ => false

/-- `wb`. -/
def channelPrefix : Bytes := [0x77, 0x62]

/-- `wbbc`. -/
def broadcastChannel : Bytes := [0x77, 0x62, 0x62, 0x63]

def channelName (containerID : Bytes) : Bytes := channelPrefix ++ containerID

/-- The two subscriptions of a container. -/
inductive Kind where
  | container
  | broadcast
deriving Repr, DecidableEq

/-- The channels of `startSubscriber`. -/
def channelOf : Bytes × Kind → Bytes
  | (containerID, .container) => channelName containerID
  | (_, .broadcast) => channelName broadcastChannel

variable {Packed Params : Type}

structure PubsubMessage (Packed : Type) where
  targetContainers : List Bytes
  sendAllContainers : Bool
  msgType : MsgType
  payload : Packed

/-- The creators; those of the shared channel take no targets. -/
def create (msgType : MsgType) (containerIDs : List Bytes)
    (payload : Packed) : PubsubMessage Packed where
  targetContainers := if msgType.all then [] else containerIDs
  sendAllContainers := msgType.all
  msgType := msgType
  payload := payload

namespace PubsubMessage

/-- The channels `Publish` goes through. -/
def channels (message : PubsubMessage Packed) : List Bytes :=
  if message.sendAllContainers then [channelName broadcastChannel]
  else message.targetContainers.map channelName

/-- How often the message is addressed to a container. -/
def copies (message : PubsubMessage Packed) (containerID : Bytes) : Nat :=
  if message.sendAllContainers then 1
  else message.targetContainers.count containerID

end PubsubMessage

/-- The handler call of `handleMsg` or `handleBroadcastMsg`, if the type is
one of its cases and the payload can be unpacked. -/
def handle (unmarshal : MsgType → Packed → Option Params) (kind : Kind)
    (message : PubsubMessage Packed) : Option (MsgType × Params) :=
  if message.msgType.all = decide (kind = .broadcast) then
    (unmarshal message.msgType message.payload).map (Prod.mk message.msgType)
  else none

/-- A message on its way, with the call that published it. -/
structure Envelope (Packed : Type) where
  call : Nat
  message : PubsubMessage Packed

/-- A call of `Publish` and the channels in front of it. -/
structure Call (Packed : Type) where
  message : PubsubMessage Packed
  rest : List Bytes

structure State (Packed : Type) where
  bus : ChannelBus (Bytes × Kind) Bytes (Envelope Packed) := {}
  calls : List (Call Packed) := []

/-- A publish that is executed may get no reply; a subscription that drops may
be subscribed again. -/
inductive Label (Packed : Type) where
  | subscribe (subscriber : Bytes × Kind)
  | drop (subscriber : Bytes × Kind)
  | start (msgType : MsgType) (containerIDs : List Bytes) (payload : Packed)
  | publish (i : Nat) (replied : Bool)
  | publishFails (i : Nat)
  | deliver (subscriber : Bytes × Kind)

def step (s : State Packed) : Label Packed → Option (State Packed)
  | .subscribe subscriber =>
    if (s.bus.feeds subscriber).up then none
    else some { s with bus := s.bus.subscribe subscriber }
  | .drop subscriber => some { s with bus := s.bus.drop subscriber }
  | .start msgType containerIDs payload =>
    let message := create msgType containerIDs payload
    some { s with calls := s.calls ++ [⟨message, message.channels⟩] }
  | .publish i replied =>
    match s.calls[i]? with
    | some ⟨message, channel :: rest⟩ => some {
        bus := s.bus.publish channelOf channel ⟨i, message⟩
        calls := s.calls.set i ⟨message, if replied then rest else []⟩ }
    | _ => none
  | .publishFails i =>
    match s.calls[i]? with
    | some ⟨message, _ :: _⟩ =>
      some { s with calls := s.calls.set i ⟨message, []⟩ }
    | _ => none
  | .deliver subscriber =>
    (s.bus.deliver subscriber).map fun bus => { s with bus }

/-- The handler calls of a subscription, each with the call of `Publish` it
comes from. -/
def handled (unmarshal : MsgType → Packed → Option Params) (s : State Packed)
    (subscriber : Bytes × Kind) : List (Nat × MsgType × Params) :=
  (s.bus.feeds subscriber).received.filterMap fun envelope =>
    (handle unmarshal subscriber.2 envelope.message).map
      (Prod.mk envelope.call)

/-- The handlers of a subscription run in the order of the publishes, with the
parameters that were published, only where a message is addressed to and no
more often than it is; and while it is up the subscription misses nothing. -/
structure AsPublished (unmarshal : MsgType → Packed → Option Params)
    (s : State Packed) (subscriber : Bytes × Kind) : Prop where
  inOrder : ((handled unmarshal s subscriber).map Prod.fst).Sublist
    (s.bus.log.map fun entry => entry.2.call)
  addressed : ∀ (i : Nat) (msgType : MsgType) (params : Params),
    (i, msgType, params) ∈ handled unmarshal s subscriber →
      ∃ call, s.calls[i]? = some call ∧ call.message.msgType = msgType ∧
        unmarshal msgType call.message.payload = some params ∧
        (msgType.all = true ∨
          subscriber.1 ∈ call.message.targetContainers)
  atMost : ∀ (i : Nat) (call : Call Packed), s.calls[i]? = some call →
    (handled unmarshal s subscriber).countP (fun entry => entry.1 = i) ≤
      call.message.copies subscriber.1
  steady : (s.bus.feeds subscriber).up = true →
    (s.bus.feeds subscriber).received.drop (s.bus.feeds subscriber).base ++
        (s.bus.feeds subscriber).queue =
      ChannelBus.on (s.bus.log.drop (s.bus.feeds subscriber).since)
        (channelOf subscriber)

/-! ### Calls and the log -/

theorem channelName_injective : Function.Injective channelName :=
  List.append_right_injective channelPrefix

/-- The channels on which a call has published. -/
def executed (s : State Packed) (i : Nat) : List Bytes :=
  (s.bus.log.filter fun entry => entry.2.call = i).map Prod.fst

structure Inv (s : State Packed) : Prop where
  sound : ChannelBus.Sound channelOf s.bus
  created : ∀ call ∈ s.calls,
    call.message.sendAllContainers = call.message.msgType.all
  published : ∀ (i : Nat) (call : Call Packed), s.calls[i]? = some call →
    (executed s i ++ call.rest) <+: call.message.channels
  logged : ∀ entry ∈ s.bus.log, ∃ call,
    s.calls[entry.2.call]? = some call ∧ call.message = entry.2.message

section Steps

variable {s next : State Packed}

theorem inv_start : Inv ({} : State Packed) where
  sound := ChannelBus.sound_empty
  created _ hcall := absurd hcall List.not_mem_nil
  published i call hcall := by
    rw [List.getElem?_nil] at hcall
    cases hcall
  logged _ hentry := absurd hentry List.not_mem_nil

/-- A step of a subscriber leaves the log alone. -/
theorem Inv.setBus (hinv : Inv s)
    {bus : ChannelBus (Bytes × Kind) Bytes (Envelope Packed)}
    (hsound : ChannelBus.Sound channelOf bus) (hlog : bus.log = s.bus.log) :
    Inv { s with bus } := by
  have hexecuted : ∀ i, executed { s with bus } i = executed s i := by
    intro i
    rw [executed, executed, hlog]
  refine ⟨hsound, hinv.created, ?_, ?_⟩
  · intro i call hcall
    rw [hexecuted]
    exact hinv.published i call hcall
  · intro entry hentry
    rw [hlog] at hentry
    exact hinv.logged entry hentry

variable {i : Nat} {rest : List Bytes}

/-- A call that has not begun has published nothing. -/
theorem Inv.executed_eq_nil (hinv : Inv s) (hnone : s.calls[i]? = none) :
    executed s i = [] := by
  rw [executed, List.map_eq_nil_iff, List.filter_eq_nil_iff]
  intro entry hentry hcall
  obtain ⟨call, hsome, -⟩ := hinv.logged entry hentry
  rw [of_decide_eq_true hcall, hnone] at hsome
  cases hsome

theorem Inv.start (hinv : Inv s) (msgType : MsgType)
    (containerIDs : List Bytes) (payload : Packed) :
    Inv { s with calls := s.calls ++
      [⟨create msgType containerIDs payload,
        (create msgType containerIDs payload).channels⟩] } where
  sound := hinv.sound
  created call hcall := by
    obtain hold | hnew := List.mem_append.mp hcall
    · exact hinv.created call hold
    · rw [List.mem_singleton.mp hnew]
      rfl
  published i call hcall := by
    obtain hold | ⟨rfl, rfl⟩ := getElem?_concat_cases hcall
    · exact hinv.published i call hold
    · have hnone : s.calls[s.calls.length]? = none :=
        List.getElem?_eq_none (Nat.le_refl _)
      have hexecuted := hinv.executed_eq_nil hnone
      rw [executed] at hexecuted ⊢
      rw [hexecuted]
      exact List.prefix_rfl
  logged entry hentry := by
    obtain ⟨call, hcall, hmessage⟩ := hinv.logged entry hentry
    refine ⟨call, ?_, hmessage⟩
    have hlt := (List.getElem?_eq_some_iff.mp hcall).1
    exact (List.getElem?_append_left hlt).trans hcall

/-- What a call has in front of it may shrink. -/
theorem published_set {j : Nat} {message : PubsubMessage Packed}
    {rest' : List Bytes} (hcall : s.calls[i]? = some ⟨message, rest⟩)
    {call : Call Packed}
    (hset : (s.calls.set i ⟨message, rest'⟩)[j]? = some call) :
    ∃ old, s.calls[j]? = some old ∧ old.message = call.message ∧
      (i ≠ j ∧ old.rest = call.rest ∨
        i = j ∧ old.rest = rest ∧ call.rest = rest') := by
  by_cases hsame : i = j
  · subst hsame
    have hlt := (List.getElem?_eq_some_iff.mp hcall).1
    rw [List.getElem?_set_self hlt] at hset
    cases hset
    exact ⟨⟨message, rest⟩, hcall, rfl, .inr ⟨rfl, rfl, rfl⟩⟩
  · rw [List.getElem?_set_ne hsame] at hset
    exact ⟨call, hset, rfl, .inl ⟨hsame, rfl⟩⟩

theorem created_set (hinv : Inv s) {message : PubsubMessage Packed}
    (hcall : s.calls[i]? = some ⟨message, rest⟩) (rest' : List Bytes) :
    ∀ call ∈ s.calls.set i ⟨message, rest'⟩,
      call.message.sendAllContainers = call.message.msgType.all := by
  intro call hmem
  obtain hold | rfl := List.mem_or_eq_of_mem_set hmem
  · exact hinv.created call hold
  · exact hinv.created ⟨message, rest⟩ (List.mem_of_getElem? hcall)

theorem logged_set {entry : Bytes × Envelope Packed}
    {message : PubsubMessage Packed}
    (hcall : s.calls[i]? = some ⟨message, rest⟩) (rest' : List Bytes)
    (hlogged : ∃ call, s.calls[entry.2.call]? = some call ∧
      call.message = entry.2.message) :
    ∃ call, (s.calls.set i ⟨message, rest'⟩)[entry.2.call]? = some call ∧
      call.message = entry.2.message := by
  obtain ⟨call, hsome, hmessage⟩ := hlogged
  by_cases hsame : i = entry.2.call
  · subst hsame
    have hlt := (List.getElem?_eq_some_iff.mp hcall).1
    rw [hcall] at hsome
    cases hsome
    exact ⟨⟨message, rest'⟩, List.getElem?_set_self hlt, hmessage⟩
  · exact ⟨call, (List.getElem?_set_ne hsame).trans hsome, hmessage⟩

theorem Inv.fails (hinv : Inv s) {message : PubsubMessage Packed}
    (hcall : s.calls[i]? = some ⟨message, rest⟩) :
    Inv { s with calls := s.calls.set i ⟨message, []⟩ } where
  sound := hinv.sound
  created := created_set hinv hcall []
  published j call hset := by
    obtain ⟨old, hold, hmessage, ⟨-, hrest⟩ | ⟨-, -, hrest⟩⟩ :=
      published_set hcall hset
    · have hpublished := hinv.published j old hold
      rwa [hmessage, hrest] at hpublished
    · have hpublished := hinv.published j old hold
      rw [hmessage] at hpublished
      rw [hrest, List.append_nil]
      exact (List.prefix_append _ _).trans hpublished
  logged entry hentry := logged_set hcall [] (hinv.logged entry hentry)

theorem executed_publish (s : State Packed) (i j : Nat)
    (message : PubsubMessage Packed) (channel : Bytes)
    (calls : List (Call Packed)) :
    executed ⟨s.bus.publish channelOf channel ⟨i, message⟩, calls⟩ j =
      executed s j ++ if i = j then [channel] else [] := by
  simp only [executed, ChannelBus.publish, List.filter_append,
    List.map_append]
  congr 1
  by_cases hsame : i = j
  · simp [hsame]
  · simp [hsame]

theorem Inv.publish (hinv : Inv s) {message : PubsubMessage Packed}
    {channel : Bytes} (hcall : s.calls[i]? = some ⟨message, channel :: rest⟩)
    (replied : Bool) :
    Inv ⟨s.bus.publish channelOf channel ⟨i, message⟩,
      s.calls.set i ⟨message, if replied then rest else []⟩⟩ where
  sound := hinv.sound.publish channel ⟨i, message⟩
  created := created_set hinv hcall _
  published j call hset := by
    obtain ⟨old, hold, hmessage, ⟨hne, hrest⟩ | ⟨rfl, hfront, hrest⟩⟩ :=
      published_set hcall hset
    · have hpublished := hinv.published j old hold
      rw [executed_publish, if_neg hne, List.append_nil]
      rwa [hmessage, hrest] at hpublished
    · have hpublished := hinv.published i old hold
      rw [hmessage, hfront] at hpublished
      rw [executed_publish, if_pos rfl, hrest, List.append_assoc]
      refine List.IsPrefix.trans ?_ hpublished
      apply (List.prefix_append_right_inj _).mpr
      cases replied with
      | true => exact List.prefix_rfl
      | false => exact List.prefix_append [channel] rest
  logged entry hentry := by
    apply logged_set hcall
    obtain hold | hnew := List.mem_append.mp hentry
    · exact hinv.logged entry hold
    · rw [List.mem_singleton.mp hnew]
      exact ⟨_, hcall, rfl⟩

theorem Inv.step {label : Label Packed} (hinv : Inv s)
    (hstep : step s label = some next) : Inv next := by
  cases label with
  | subscribe subscriber =>
    simp only [BroadcastBus.step] at hstep
    split at hstep
    · cases hstep
    · cases hstep
      exact hinv.setBus (hinv.sound.subscribe subscriber) rfl
  | drop subscriber =>
    cases hstep
    exact hinv.setBus (hinv.sound.drop subscriber) rfl
  | start msgType containerIDs payload =>
    cases hstep
    exact hinv.start msgType containerIDs payload
  | publish i replied =>
    simp only [BroadcastBus.step] at hstep
    split at hstep
    next message channel rest hcall =>
      cases hstep
      exact hinv.publish hcall replied
    next => cases hstep
  | publishFails i =>
    simp only [BroadcastBus.step] at hstep
    split at hstep
    next message channel rest hcall =>
      cases hstep
      exact hinv.fails hcall
    next => cases hstep
  | deliver subscriber =>
    simp only [BroadcastBus.step, Option.map_eq_some_iff] at hstep
    obtain ⟨bus, hbus, rfl⟩ := hstep
    exact hinv.setBus (hinv.sound.deliver hbus)
      (ChannelBus.log_deliver hbus)

theorem inv_of_reach (hreach : Reach step Unguarded {} s) : Inv s :=
  Reach.invariant Inv inv_start
    (fun _ _ _ hinv _ hstep => hinv.step hstep) hreach

end Steps

/-! ### What the handlers see -/

section Handlers

variable {s : State Packed} {unmarshal : MsgType → Packed → Option Params}
  {subscriber : Bytes × Kind}

theorem map_fst_handled : (handled unmarshal s subscriber).map Prod.fst =
    ((s.bus.feeds subscriber).received.filter fun envelope =>
      (handle unmarshal subscriber.2 envelope.message).isSome).map
        Envelope.call := by
  rw [handled]
  induction (s.bus.feeds subscriber).received with
  | nil => rfl
  | cons envelope rest ih =>
    cases hhandle : handle unmarshal subscriber.2 envelope.message with
    | none => simp [hhandle, ih]
    | some call => simp [hhandle, ih]

/-- A received message was published on the subscriber's channel. -/
theorem Inv.mem_log (hinv : Inv s) {envelope : Envelope Packed}
    (hmem : envelope ∈ (s.bus.feeds subscriber).received) :
    (channelOf subscriber, envelope) ∈ s.bus.log := by
  have hon := (hinv.sound subscriber).inOrder.subset
    (List.mem_append_left _ hmem)
  obtain ⟨⟨channel, found⟩, hentry, rfl⟩ := List.mem_map.mp hon
  obtain ⟨hlog, hchannel⟩ := List.mem_filter.mp hentry
  exact of_decide_eq_true hchannel ▸ hlog

variable {i : Nat}

/-- How often a call published on a channel. -/
theorem Inv.count_on_le (hinv : Inv s) {call : Call Packed}
    (hcall : s.calls[i]? = some call) (channel : Bytes) :
    (ChannelBus.on s.bus.log channel).countP
        (fun envelope => envelope.call = i) ≤
      call.message.channels.count channel := by
  have hsame : (ChannelBus.on s.bus.log channel).countP
      (fun envelope => envelope.call = i) = (executed s i).count channel := by
    rw [ChannelBus.on, executed, List.count, List.countP_map, List.countP_map,
      List.countP_filter, List.countP_filter]
    apply List.countP_congr
    intro entry _
    simp [and_comm]
  rw [hsame]
  have hpublished := hinv.published i call hcall
  exact ((List.prefix_append _ _).trans hpublished).sublist.count_le channel

/-- A handler call comes from a call of `Publish` to its channel. -/
theorem Inv.of_mem_handled (hinv : Inv s) {msgType : MsgType} {params : Params}
    (hmem : (i, msgType, params) ∈ handled unmarshal s subscriber) :
    ∃ call, s.calls[i]? = some call ∧
      handle unmarshal subscriber.2 call.message = some (msgType, params) ∧
        channelOf subscriber ∈ call.message.channels := by
  obtain ⟨envelope, hreceived, hhandled⟩ := List.mem_filterMap.mp hmem
  obtain ⟨found, hhandle, heq⟩ := Option.map_eq_some_iff.mp hhandled
  cases heq
  have hlog := hinv.mem_log hreceived
  obtain ⟨call, hcall, hmessage⟩ := hinv.logged _ hlog
  refine ⟨call, hcall, by rw [hmessage, hhandle], ?_⟩
  have hexecuted : channelOf subscriber ∈ executed s envelope.call := by
    refine List.mem_map.mpr ⟨_, List.mem_filter.mpr ⟨hlog, ?_⟩, rfl⟩
    exact decide_eq_true rfl
  have hpublished := hinv.published _ call hcall
  exact hpublished.subset (List.mem_append_left _ hexecuted)

theorem handle_eq_some {kind : Kind} {message : PubsubMessage Packed}
    {msgType : MsgType} {params : Params}
    (hhandle : handle unmarshal kind message = some (msgType, params)) :
    message.msgType = msgType ∧
      unmarshal msgType message.payload = some params ∧
        msgType.all = decide (kind = .broadcast) := by
  unfold handle at hhandle
  split at hhandle
  next hkind =>
    obtain ⟨found, hunmarshal, heq⟩ := Option.map_eq_some_iff.mp hhandle
    cases heq
    exact ⟨rfl, hunmarshal, hkind⟩
  next => cases hhandle

/-- A message handled for its own container is addressed to it: no other name
gives the same channel, and the shared channel carries none of its type. -/
theorem mem_targets_of_channel {message : PubsubMessage Packed}
    {containerID : Bytes} (hnot : message.sendAllContainers = false)
    (hchannel : channelOf (containerID, .container) ∈ message.channels) :
    containerID ∈ message.targetContainers := by
  rw [PubsubMessage.channels, hnot] at hchannel
  obtain ⟨target, htarget, hname⟩ := List.mem_map.mp hchannel
  exact channelName_injective hname ▸ htarget

theorem count_channels_le {message : PubsubMessage Packed}
    (hcreated : message.sendAllContainers = message.msgType.all)
    (hkind : message.msgType.all = decide (subscriber.2 = .broadcast)) :
    message.channels.count (channelOf subscriber) ≤
      message.copies subscriber.1 := by
  obtain ⟨containerID, kind⟩ := subscriber
  cases kind with
  | container =>
    have hnot : message.sendAllContainers = false := hcreated.trans hkind
    rw [PubsubMessage.channels, PubsubMessage.copies, hnot]
    exact Nat.le_of_eq
      (List.count_map_of_injective _ _ channelName_injective _)
  | broadcast =>
    have hall : message.sendAllContainers = true := hcreated.trans hkind
    rw [PubsubMessage.channels, PubsubMessage.copies, hall]
    exact List.count_le_length

theorem Inv.atMost (hinv : Inv s) {call : Call Packed}
    (hcall : s.calls[i]? = some call) :
    (handled unmarshal s subscriber).countP (fun entry => entry.1 = i) ≤
      call.message.copies subscriber.1 := by
  by_cases hkind : call.message.msgType.all =
      decide (subscriber.2 = .broadcast)
  · have hcreated := hinv.created call (List.mem_of_getElem? hcall)
    calc (handled unmarshal s subscriber).countP (fun entry => entry.1 = i)
        = ((handled unmarshal s subscriber).map Prod.fst).countP
            (fun j => j = i) := by
          rw [List.countP_map]
          rfl
      _ ≤ ((s.bus.feeds subscriber).received.map Envelope.call).countP
            (fun j => j = i) := by
          rw [map_fst_handled]
          exact (List.filter_sublist.map _).countP_le
      _ = (s.bus.feeds subscriber).received.countP
            (fun envelope => envelope.call = i) := by
          rw [List.countP_map]
          rfl
      _ ≤ (ChannelBus.on s.bus.log (channelOf subscriber)).countP
            (fun envelope => envelope.call = i) := by
          apply List.Sublist.countP_le
          exact (List.sublist_append_left _ _).trans
            (hinv.sound subscriber).inOrder
      _ ≤ call.message.channels.count (channelOf subscriber) :=
          hinv.count_on_le hcall _
      _ ≤ call.message.copies subscriber.1 :=
          count_channels_le hcreated hkind
  · have hzero : (handled unmarshal s subscriber).countP
        (fun entry => entry.1 = i) = 0 := by
      rw [List.countP_eq_zero]
      rintro ⟨j, msgType, params⟩ hmem hj
      obtain rfl : j = i := of_decide_eq_true hj
      obtain ⟨found, hfound, hhandle, -⟩ := hinv.of_mem_handled hmem
      rw [hcall] at hfound
      cases hfound
      obtain ⟨htype, -, hall⟩ := handle_eq_some hhandle
      exact hkind (htype ▸ hall)
    rw [hzero]
    exact Nat.zero_le _

/-- Whatever is published, lost and subscribed again, in whatever order, and
whatever the containers are called. -/
theorem asPublished_of_reach (hreach : Reach step Unguarded {} s)
    (unmarshal : MsgType → Packed → Option Params)
    (subscriber : Bytes × Kind) : AsPublished unmarshal s subscriber := by
  have hinv := inv_of_reach hreach
  have hfollows := hinv.sound subscriber
  refine ⟨?_, ?_, fun i call => hinv.atMost, hfollows.steady⟩
  · rw [map_fst_handled]
    have hlog : (ChannelBus.on s.bus.log (channelOf subscriber)).Sublist
        (s.bus.log.map Prod.snd) := List.filter_sublist.map Prod.snd
    have hreceived := ((List.sublist_append_left _ _).trans
      hfollows.inOrder).trans hlog
    have hcalls := hreceived.map Envelope.call
    rw [List.map_map] at hcalls
    exact (List.filter_sublist.map Envelope.call).trans hcalls
  · intro i msgType params hmem
    obtain ⟨call, hcall, hhandle, hchannel⟩ := hinv.of_mem_handled hmem
    obtain ⟨rfl, hunmarshal, hkind⟩ := handle_eq_some hhandle
    refine ⟨call, hcall, rfl, hunmarshal, ?_⟩
    have hcreated := hinv.created call (List.mem_of_getElem? hcall)
    cases hall : call.message.msgType.all with
    | true => exact .inl rfl
    | false =>
      right
      obtain ⟨containerID, kind⟩ := subscriber
      cases kind with
      | container =>
        exact mem_targets_of_channel (hcreated.trans hall) hchannel
      | broadcast =>
        rw [hall] at hkind
        cases hkind

/-- A container with the name `wbbc` has the shared channel for its own: what
is sent to it arrives at `a` as well, and what is sent to all arrives at it
twice. -/
def sharedNameRun : List (Label Nat) :=
  let a : Bytes := [0x61]
  [.subscribe (a, .container), .subscribe (a, .broadcast),
    .subscribe (broadcastChannel, .container),
    .subscribe (broadcastChannel, .broadcast),
    .start .sendToUser [broadcastChannel, a] 5, .start .sendToAll [] 6,
    .publish 0 true, .publish 1 true, .publish 0 true,
    .deliver (a, .broadcast), .deliver (a, .broadcast),
    .deliver (a, .container), .deliver (broadcastChannel, .container),
    .deliver (broadcastChannel, .container)]

theorem asPublished_sharedNameRun :
    let s := final step {} sharedNameRun
    let unmarshal : MsgType → Nat → Option Nat := fun _ packed => some packed
    handled unmarshal s ([0x61], .broadcast) = [(1, .sendToAll, 6)] ∧
      handled unmarshal s ([0x61], .container) = [(0, .sendToUser, 5)] ∧
      handled unmarshal s (broadcastChannel, .container) =
        [(0, .sendToUser, 5)] ∧
      AsPublished unmarshal s ([0x61], .broadcast) :=
  ⟨by decide +kernel, by decide +kernel, by decide +kernel,
    asPublished_of_reach
      (reach_final (by decide +kernel) (by decide +kernel)) _ _⟩

end Handlers

end BroadcastBus

end Pipewave
