/-
Publish and subscribe over named channels.  The server executes the publishes
one after another; each goes to the subscribers of its channel that are there
at that moment, and waits in their feeds until they take it.  A subscriber
that goes away loses what it has not taken.
-/
import Mathlib.Data.List.Basic
import Mathlib.Logic.Function.Basic

namespace Pipewave

universe u v w

/-- What a subscriber gets.  `since` and `base` are the lengths of the
server's log and of `received` when the subscriber last came up. -/
structure Feed (α : Type w) where
  up : Bool := false
  queue : List α := []
  received : List α := []
  since : Nat := 0
  base : Nat := 0

/-- `log` has every publish the server executed, in order. -/
structure ChannelBus (σ : Type u) (κ : Type v) (α : Type w) where
  feeds : σ → Feed α := fun _ => {}
  log : List (κ × α) := []

namespace ChannelBus

variable {σ : Type u} {κ : Type v} {α : Type w} [DecidableEq κ]
  (channel : σ → κ)

/-- What was published on a channel. -/
def on (log : List (κ × α)) (name : κ) : List α :=
  (log.filter fun entry => entry.1 = name).map Prod.snd

def publish (bus : ChannelBus σ κ α) (name : κ) (message : α) :
    ChannelBus σ κ α where
  feeds := fun subscriber =>
    let feed := bus.feeds subscriber
    if feed.up ∧ channel subscriber = name then
      { feed with queue := feed.queue ++ [message] }
    else feed
  log := bus.log ++ [(name, message)]

section Local

variable [DecidableEq σ] (bus : ChannelBus σ κ α) (subscriber : σ)

def setFeed (feed : Feed α) : ChannelBus σ κ α :=
  { bus with feeds := Function.update bus.feeds subscriber feed }

def subscribe : ChannelBus σ κ α :=
  let feed := bus.feeds subscriber
  bus.setFeed subscriber { feed with
    up := true, queue := [], since := bus.log.length
    base := feed.received.length }

def drop : ChannelBus σ κ α :=
  bus.setFeed subscriber
    { bus.feeds subscriber with up := false, queue := [] }

/-- The subscriber takes the next message, if there is one. -/
def deliver : Option (ChannelBus σ κ α) :=
  let feed := bus.feeds subscriber
  match feed.queue with
  | [] => none
  | message :: rest => some (bus.setFeed subscriber { feed with
      queue := rest, received := feed.received ++ [message] })

end Local

/-- What a feed has to do with the log: it gets messages of its channel in the
order of the publishes, and all of them while it is up. -/
structure Feed.Follows (log : List (κ × α)) (name : κ) (feed : Feed α) :
    Prop where
  inOrder : (feed.received ++ feed.queue).Sublist (on log name)
  since : feed.since ≤ log.length
  base : feed.base ≤ feed.received.length
  steady : feed.up = true →
    feed.received.drop feed.base ++ feed.queue = on (log.drop feed.since) name

def Sound (bus : ChannelBus σ κ α) : Prop :=
  ∀ subscriber,
    Feed.Follows bus.log (channel subscriber) (bus.feeds subscriber)

section Rules

variable {channel} {bus : ChannelBus σ κ α}

theorem on_append (log log' : List (κ × α)) (name : κ) :
    on (log ++ log') name = on log name ++ on log' name := by
  rw [on, List.filter_append, List.map_append, on, on]

theorem on_singleton_self (name : κ) (message : α) :
    on [(name, message)] name = [message] := by
  simp [on]

theorem on_singleton_ne {name other : κ} (hne : other ≠ name) (message : α) :
    on [(other, message)] name = [] := by
  simp [on, hne]

theorem sound_empty : Sound channel ({} : ChannelBus σ κ α) := fun _ =>
  ⟨List.Sublist.refl [], Nat.le_refl 0, Nat.le_refl 0, fun _ => rfl⟩

/-- A publish on the feed's own channel while it is up. -/
theorem Feed.Follows.push {log : List (κ × α)} {name : κ} {feed : Feed α}
    (hfollows : Feed.Follows log name feed) (message : α) :
    Feed.Follows (log ++ [(name, message)]) name
      { feed with queue := feed.queue ++ [message] } where
  inOrder := by
    rw [on_append, on_singleton_self, ← List.append_assoc]
    exact hfollows.inOrder.append (List.Sublist.refl [message])
  since := by
    rw [List.length_append]
    exact Nat.le_add_right_of_le hfollows.since
  base := hfollows.base
  steady hup := by
    rw [← List.append_assoc, hfollows.steady hup,
      List.drop_append_of_le_length hfollows.since, on_append,
      on_singleton_self]

/-- A publish that the feed does not get. -/
theorem Feed.Follows.pass {log : List (κ × α)} {name other : κ}
    {feed : Feed α} (hfollows : Feed.Follows log name feed)
    (hother : ¬ (feed.up ∧ name = other)) (message : α) :
    Feed.Follows (log ++ [(other, message)]) name feed where
  inOrder := by
    rw [on_append]
    exact hfollows.inOrder.trans (List.sublist_append_left _ _)
  since := by
    rw [List.length_append]
    exact Nat.le_add_right_of_le hfollows.since
  base := hfollows.base
  steady hup := by
    have hne : other ≠ name := fun heq => hother ⟨hup, heq.symm⟩
    rw [hfollows.steady hup, List.drop_append_of_le_length hfollows.since,
      on_append, on_singleton_ne hne, List.append_nil]

theorem Sound.publish (hsound : Sound channel bus) (name : κ) (message : α) :
    Sound channel (bus.publish channel name message) := by
  intro subscriber
  simp only [ChannelBus.publish]
  split
  next hits =>
    rw [← hits.2]
    exact (hsound subscriber).push message
  next hother => exact (hsound subscriber).pass hother message

variable [DecidableEq σ]

theorem Sound.setFeed (hsound : Sound channel bus) {subscriber : σ}
    {feed : Feed α}
    (hfollows : Feed.Follows bus.log (channel subscriber) feed) :
    Sound channel (bus.setFeed subscriber feed) := by
  intro other
  by_cases hsame : other = subscriber
  · subst hsame
    simp only [ChannelBus.setFeed, Function.update_self]
    exact hfollows
  · simp only [ChannelBus.setFeed, Function.update_of_ne hsame]
    exact hsound other

theorem Sound.subscribe (hsound : Sound channel bus) (subscriber : σ) :
    Sound channel (bus.subscribe subscriber) := by
  apply hsound.setFeed
  refine ⟨?_, Nat.le_refl _, Nat.le_refl _, fun _ => ?_⟩
  · rw [List.append_nil]
    exact (List.sublist_append_left _ _).trans (hsound subscriber).inOrder
  · rw [List.drop_length, List.drop_length]
    rfl

theorem Sound.drop (hsound : Sound channel bus) (subscriber : σ) :
    Sound channel (bus.drop subscriber) := by
  obtain ⟨hinOrder, hsince, hbase, -⟩ := hsound subscriber
  apply hsound.setFeed
  refine ⟨?_, hsince, hbase, fun hup => Bool.noConfusion hup⟩
  rw [List.append_nil]
  exact (List.sublist_append_left _ _).trans hinOrder

omit [DecidableEq κ] in
theorem log_deliver {subscriber : σ} {next : ChannelBus σ κ α}
    (hnext : bus.deliver subscriber = some next) : next.log = bus.log := by
  simp only [ChannelBus.deliver] at hnext
  split at hnext
  · cases hnext
  · cases hnext
    rfl

theorem Sound.deliver (hsound : Sound channel bus) {subscriber : σ}
    {next : ChannelBus σ κ α} (hnext : bus.deliver subscriber = some next) :
    Sound channel next := by
  obtain ⟨hinOrder, hsince, hbase, hsteady⟩ := hsound subscriber
  simp only [ChannelBus.deliver] at hnext
  split at hnext
  next => cases hnext
  next message rest hqueue =>
    cases hnext
    rw [hqueue] at hinOrder hsteady
    apply hsound.setFeed
    refine ⟨?_, hsince, ?_, ?_⟩
    · rw [List.append_assoc]
      exact hinOrder
    · rw [List.length_append]
      exact Nat.le_add_right_of_le hbase
    · intro hup
      rw [List.drop_append_of_le_length hbase, List.append_assoc]
      exact hsteady hup

end Rules

end ChannelBus

end Pipewave
