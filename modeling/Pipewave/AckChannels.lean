/-
The ack channels of one container.  `ResolveAck` takes a channel out of the
map in its lock section and closes it outside, `Shutdown` closes inside, and a
timeout only deletes; every lock section and every such close is one step.
-/
import Pipewave.AckManager

namespace Pipewave

namespace AckChannels

open Transition
open Ack (ackPrefix)

/-- A channel is known by the number of those made before it. -/
abbrev ChanID := Nat

/-- `closes` counts the closes; a second one panics. -/
structure Chan where
  ackID : Bytes
  closes : Nat := 0
deriving Repr, DecidableEq

/-- Where `ResolveAck` is: before its lock section, behind it with a channel
to close, or back. -/
inductive Stage where
  | started
  | taken (c : ChanID)
  | returned (found : Bool)
deriving Repr, DecidableEq

/-- The flags say what had happened to the ack ID when the call started: a
`WaitForAck` for it had returned false, some `Shutdown` had returned, and a
`Shutdown` behind its creation had; no step reads them. -/
structure Resolve where
  ackID : Bytes
  stage : Stage := .started
  afterTimeout : Bool
  afterShutdown : Bool
  outdated : Bool
deriving Repr, DecidableEq

/-- Where `WaitForAck` is: in the `select`, past its timer, or back. -/
inductive Waiting where
  | selecting
  | timedOut
  | returned (acked : Bool)
deriving Repr, DecidableEq

structure Wait where
  chan : ChanID
  waiting : Waiting := .selecting
deriving Repr, DecidableEq

/-- The last lists are what happened to the ack IDs so far: resolved in a lock
section, cleaned up after a timeout, pending in a `Shutdown`, and created
before one. -/
structure State where
  pending : GoMap Bytes ChanID := ∅
  chans : List Chan := []
  resolves : List Resolve := []
  waits : List Wait := []
  isShutDown : Bool := false
  resolved : List Bytes := []
  timedOut : List Bytes := []
  shutDown : List Bytes := []
  outdated : List Bytes := []
deriving DecidableEq

inductive Label where
  | createAck (nanoID : Bytes)
  /-- A call of `ResolveAck` starts. -/
  | resolveAck (ackID : Bytes)
  | resolveLock (r : Nat)
  | resolveClose (r : Nat)
  /-- A call of `WaitForAck` with what `CreateAck` returned. -/
  | waitForAck (c : ChanID)
  | receive (w : Nat)
  | timeout (w : Nat)
  /-- The timed out call deletes the ack ID and returns. -/
  | cleanUp (w : Nat)
  | shutdown
deriving Repr, DecidableEq

namespace State

def created (s : State) : List Bytes := s.chans.map Chan.ackID

def setResolve (s : State) (r : Nat) (resolve : Resolve) : State :=
  { s with resolves := s.resolves.set r resolve }

def setWait (s : State) (w : Nat) (wait : Wait) : State :=
  { s with waits := s.waits.set w wait }

end State

def step (s : State) : Label → Option State
  | .createAck nanoID =>
    let ackID := ackPrefix ++ nanoID
    some { s with
      pending := s.pending.insert ackID s.chans.length
      chans := s.chans ++ [{ ackID }] }
  | .resolveAck ackID =>
    some { s with
      resolves := s.resolves ++ [{
        ackID
        afterTimeout := s.timedOut.contains ackID
        afterShutdown := s.isShutDown
        outdated := s.outdated.contains ackID }] }
  | .resolveLock r =>
    match s.resolves[r]? with
    | none => none
    | some resolve =>
      if resolve.stage ≠ .started then none
      else match s.pending.lookup resolve.ackID with
        | none => some (s.setResolve r
            { resolve with stage := .returned false })
        | some c => some { s.setResolve r
            { resolve with stage := .taken c } with
          pending := s.pending.erase resolve.ackID
          resolved := resolve.ackID :: s.resolved }
  | .resolveClose r =>
    match s.resolves[r]? with
    | none => none
    | some resolve =>
      match resolve.stage with
      | .taken c =>
        match s.chans[c]? with
        | none => none
        | some chan => some { s.setResolve r
            { resolve with stage := .returned true } with
          chans := s.chans.set c
            { chan with closes := chan.closes + 1 } }
      | _ => none
  | .waitForAck c =>
    if c < s.chans.length then
      some { s with waits := s.waits ++ [{ chan := c }] }
    else none
  | .receive w =>
    match s.waits[w]? with
    | none => none
    | some wait =>
      if wait.waiting = .selecting ∧
          ∃ chan ∈ s.chans[wait.chan]?, chan.closes ≠ 0 then
        some (s.setWait w { wait with waiting := .returned true })
      else none
  | .timeout w =>
    match s.waits[w]? with
    | none => none
    | some wait =>
      if wait.waiting ≠ .selecting then none
      else some (s.setWait w { wait with waiting := .timedOut })
  | .cleanUp w =>
    match s.waits[w]? with
    | none => none
    | some wait =>
      if wait.waiting ≠ .timedOut then none
      else match s.chans[wait.chan]? with
        | none => none
        | some chan => some { s.setWait w
            { wait with waiting := .returned false } with
          pending := s.pending.erase chan.ackID
          timedOut := chan.ackID :: s.timedOut }
  | .shutdown =>
    let closed := s.pending.entries.map Sigma.snd
    some { s with
      pending := ∅
      chans := s.chans.mapIdx fun c chan =>
        { chan with closes := chan.closes + closed.count c }
      isShutDown := true
      shutDown := s.pending.keys ++ s.shutDown
      outdated := s.created }

/-- `NewNanoID` draws an ID that no earlier call got. -/
def DrawsFresh (s : State) : Label → Prop
  | .createAck nanoID => ackPrefix ++ nanoID ∉ s.created
  | _ => True

instance (s : State) : ∀ label, Decidable (DrawsFresh s label)
  | .createAck _ => inferInstanceAs (Decidable (¬ _))
  | .resolveAck _ | .resolveLock _ | .resolveClose _ | .waitForAck _ |
    .receive _ | .timeout _ | .cleanUp _ | .shutdown => .isTrue trivial

/-- The call has taken its channel out of the map. -/
def Stage.won : Stage → Bool
  | .taken _ | .returned true => true
  | .started | .returned false => false

structure ResolvesOnce (s : State) : Prop where
  closedOnce : ∀ chan ∈ s.chans, chan.closes ≤ 1
  oneWinner : ∀ ackID, s.resolves.countP (fun resolve =>
    resolve.ackID = ackID ∧ resolve.stage = .returned true) ≤ 1
  late : ∀ resolve ∈ s.resolves,
    resolve.afterTimeout = true ∨ resolve.outdated = true →
      resolve.stage = .started ∨ resolve.stage = .returned false
  pending : ∀ ackID, s.pending.lookup ackID ≠ none ↔
    ackID ∈ s.created ∧ ackID ∉ s.resolved ∧ ackID ∉ s.timedOut ∧
      ackID ∉ s.shutDown

/-! ### What a step does -/

/-- The steps, with what each finds and changes. -/
inductive StepCase (s : State) : Label → State → Prop where
  | create (nanoID : Bytes) : StepCase s (.createAck nanoID) { s with
      pending := s.pending.insert (ackPrefix ++ nanoID) s.chans.length
      chans := s.chans ++ [{ ackID := ackPrefix ++ nanoID }] }
  | start (ackID : Bytes) : StepCase s (.resolveAck ackID) { s with
      resolves := s.resolves ++ [{
        ackID
        afterTimeout := s.timedOut.contains ackID
        afterShutdown := s.isShutDown
        outdated := s.outdated.contains ackID }] }
  | missing {r : Nat} {resolve : Resolve} (get : s.resolves[r]? = some resolve)
      (started : resolve.stage = .started)
      (lookup : s.pending.lookup resolve.ackID = none) :
      StepCase s (.resolveLock r) { s with
        resolves := s.resolves.set r
          { resolve with stage := .returned false } }
  | take {r : Nat} {resolve : Resolve} {c : ChanID}
      (get : s.resolves[r]? = some resolve)
      (started : resolve.stage = .started)
      (lookup : s.pending.lookup resolve.ackID = some c) :
      StepCase s (.resolveLock r) { s with
        resolves := s.resolves.set r { resolve with stage := .taken c }
        pending := s.pending.erase resolve.ackID
        resolved := resolve.ackID :: s.resolved }
  | close {r : Nat} {resolve : Resolve} {c : ChanID} {chan : Chan}
      (get : s.resolves[r]? = some resolve)
      (taken : resolve.stage = .taken c) (chanAt : s.chans[c]? = some chan) :
      StepCase s (.resolveClose r) { s with
        resolves := s.resolves.set r
          { resolve with stage := .returned true }
        chans := s.chans.set c { chan with closes := chan.closes + 1 } }
  | wait {label : Label} (waits : List Wait) :
      StepCase s label { s with waits }
  | cleanUp {w : Nat} (waits : List Wait) {chan : Chan}
      (mem : chan ∈ s.chans) :
      StepCase s (.cleanUp w) { s with
        waits
        pending := s.pending.erase chan.ackID
        timedOut := chan.ackID :: s.timedOut }
  | shutdown : StepCase s .shutdown { s with
      pending := ∅
      chans := s.chans.mapIdx fun c chan => { chan with
        closes := chan.closes +
          (s.pending.entries.map Sigma.snd).count c }
      isShutDown := true
      shutDown := s.pending.keys ++ s.shutDown
      outdated := s.created }

variable {s next : State} {label : Label}

theorem step_cases (hstep : step s label = some next) :
    StepCase s label next := by
  cases label with
  | createAck nanoID =>
    cases hstep
    exact .create nanoID
  | resolveAck ackID =>
    cases hstep
    exact .start ackID
  | resolveLock r =>
    simp only [step] at hstep
    split at hstep
    · cases hstep
    next resolve hget =>
      rw [Option.ite_none_left_eq_some, not_not] at hstep
      obtain ⟨hstarted, hstep⟩ := hstep
      split at hstep
      next hlookup =>
        cases hstep
        exact .missing hget hstarted hlookup
      next c hlookup =>
        cases hstep
        exact .take hget hstarted hlookup
  | resolveClose r =>
    simp only [step] at hstep
    split at hstep
    · cases hstep
    next resolve hget =>
      split at hstep
      next c htaken =>
        split at hstep
        · cases hstep
        next chan hchan =>
          cases hstep
          exact .close hget htaken hchan
      · cases hstep
  | waitForAck c =>
    simp only [step, Option.ite_none_right_eq_some] at hstep
    obtain ⟨-, hstep⟩ := hstep
    cases hstep
    exact .wait _
  | receive w =>
    simp only [step] at hstep
    split at hstep
    · cases hstep
    · rw [Option.ite_none_right_eq_some] at hstep
      obtain ⟨-, hstep⟩ := hstep
      cases hstep
      exact .wait _
  | timeout w =>
    simp only [step] at hstep
    split at hstep
    · cases hstep
    · rw [Option.ite_none_left_eq_some] at hstep
      obtain ⟨-, hstep⟩ := hstep
      cases hstep
      exact .wait _
  | cleanUp w =>
    simp only [step] at hstep
    split at hstep
    · cases hstep
    · rw [Option.ite_none_left_eq_some] at hstep
      obtain ⟨-, hstep⟩ := hstep
      split at hstep
      · cases hstep
      next chan hchan =>
        cases hstep
        exact .cleanUp _ (List.mem_of_getElem? hchan)
  | shutdown =>
    cases hstep
    exact .shutdown

/-! ### The right to close -/

/-- The callers that hold a channel between their lock section and the
close. -/
def holders (resolves : List Resolve) (c : ChanID) : Nat :=
  resolves.countP fun resolve => resolve.stage = .taken c

/-- One if the map still holds the channel. -/
def owed (pending : GoMap Bytes ChanID) (ackID : Bytes) (c : ChanID) : Nat :=
  if pending.lookup ackID = some c then 1 else 0

/-- The right to close a channel is in the map, with one caller, used up or
gone. -/
structure Rights (pending : GoMap Bytes ChanID) (chans : List Chan)
    (resolves : List Resolve) : Prop where
  unique : (chans.map Chan.ackID).Nodup
  own : ∀ ackID c, pending.lookup ackID = some c →
    (chans.map Chan.ackID)[c]? = some ackID
  taken : ∀ resolve ∈ resolves, ∀ c, resolve.stage = .taken c →
    c < chans.length
  right : ∀ c chan, chans[c]? = some chan →
    chan.closes + holders resolves c + owed pending chan.ackID c ≤ 1

/-! Closing does not change which channel has which ack ID. -/

theorem ackIDs_set {chans : List Chan} {c : ChanID} {chan : Chan}
    (hchan : chans[c]? = some chan) (closes : Nat) :
    (chans.set c { chan with closes }).map Chan.ackID =
      chans.map Chan.ackID := by
  obtain ⟨hlt, hitem⟩ := List.getElem?_eq_some_iff.mp hchan
  have hmap : c < (chans.map Chan.ackID).length := by
    rwa [List.length_map]
  have hself := List.set_getElem_self hmap
  rw [List.getElem_map, hitem] at hself
  rwa [List.map_set]

theorem ackIDs_mapIdx (chans : List Chan) (closes : Nat → Nat) :
    (chans.mapIdx fun c chan => { chan with
      closes := chan.closes + closes c }).map Chan.ackID =
        chans.map Chan.ackID := by
  apply List.ext_getElem?
  intro c
  rw [List.getElem?_map, List.getElem?_mapIdx, List.getElem?_map,
    Option.map_map]
  rfl

section Rights

variable {pending pending' : GoMap Bytes ChanID} {chans chans' : List Chan}
  {resolves resolves' : List Resolve} {r : Nat} {resolve : Resolve}
  {stage : Stage}

/-- What has to be checked of a step that creates nothing. -/
theorem Rights.update (hrights : Rights pending chans resolves)
    (hids : chans'.map Chan.ackID = chans.map Chan.ackID)
    (hless : ∀ ackID c, pending'.lookup ackID = some c →
      pending.lookup ackID = some c)
    (htaken : ∀ resolve ∈ resolves', ∀ c, resolve.stage = .taken c →
      c < chans.length)
    (hright : ∀ c chan, chans'[c]? = some chan →
      chan.closes + holders resolves' c + owed pending' chan.ackID c ≤ 1) :
    Rights pending' chans' resolves' := by
  have hlength : chans'.length = chans.length := by
    rw [← List.length_map Chan.ackID, hids, List.length_map]
  refine ⟨hids ▸ hrights.unique, fun ackID c hlookup => ?_,
    hlength ▸ htaken, hright⟩
  rw [hids]
  exact hrights.own ackID c (hless ackID c hlookup)

/-- A map that has lost entries owes no more. -/
theorem Rights.erase (hrights : Rights pending chans resolves)
    (ackID : Bytes) : Rights (pending.erase ackID) chans resolves := by
  have hless : ∀ other c, (pending.erase ackID).lookup other = some c →
      pending.lookup other = some c :=
    fun _ _ h => (GoMap.lookup_erase_some h).2
  refine hrights.update rfl hless hrights.taken fun c chan hchan => ?_
  have hright := hrights.right c chan hchan
  have howed : owed (pending.erase ackID) chan.ackID c ≤
      owed pending chan.ackID c := by
    unfold owed
    split
    next h => rw [if_pos (hless _ _ h)]
    · exact Nat.zero_le _
  omega

theorem holders_set (hget : resolves[r]? = some resolve) (stage : Stage)
    (c : ChanID) :
    holders (resolves.set r { resolve with stage }) c +
        (if resolve.stage = .taken c then 1 else 0) =
      holders resolves c + if stage = .taken c then 1 else 0 := by
  have hcount := countP_set_add
    (fun resolve : Resolve => decide (resolve.stage = .taken c)) hget
    { resolve with stage }
  simpa only [holders, decide_eq_true_eq] using hcount

/-- A call before its lock section holds nothing. -/
theorem holders_concat (hstarted : resolve.stage = .started) (c : ChanID) :
    holders (resolves ++ [resolve]) c = holders resolves c := by
  rw [holders, List.countP_append, List.countP_singleton, hstarted]
  rfl

/-- Nobody holds a channel that has not been made. -/
theorem holders_eq_zero {made : Nat}
    (htaken : ∀ resolve ∈ resolves, ∀ c, resolve.stage = .taken c →
      c < made) : holders resolves made = 0 := by
  rw [holders, List.countP_eq_zero]
  intro resolve hmem hstage
  exact Nat.lt_irrefl _ (htaken resolve hmem _ (of_decide_eq_true hstage))

theorem Rights.set_taken (hrights : Rights pending chans resolves)
    (hstage : ∀ c, stage = .taken c → c < chans.length) :
    ∀ other ∈ resolves.set r { resolve with stage }, ∀ c,
      other.stage = .taken c → c < chans.length := by
  intro other hmem c hc
  obtain hold | rfl := List.mem_or_eq_of_mem_set hmem
  · exact hrights.taken other hold c hc
  · exact hstage c hc

/-- A new ack ID gets a channel that nobody has closed or holds. -/
theorem Rights.create (hrights : Rights pending chans resolves)
    {ackID : Bytes} (hfresh : ackID ∉ chans.map Chan.ackID) :
    Rights (pending.insert ackID chans.length)
      (chans ++ [{ ackID := ackID }]) resolves := by
  refine ⟨?_, fun other c hlookup => ?_, fun resolve hmem c htaken => ?_,
    fun c chan hchan => ?_⟩
  · rw [List.map_append, List.nodup_append]
    refine ⟨hrights.unique, by simp, fun old hold new hnew => ?_⟩
    rw [List.map_singleton, List.mem_singleton] at hnew
    intro hsame
    rw [hsame, hnew] at hold
    exact hfresh hold
  · obtain ⟨rfl, rfl⟩ | ⟨-, hold⟩ := GoMap.lookup_insert_some hlookup
    · simp
    · have hid := hrights.own other c hold
      have hlt := (List.getElem?_eq_some_iff.mp hid).1
      rwa [List.map_append, List.getElem?_append_left hlt]
  · rw [List.length_append]
    exact Nat.lt_add_right _ (hrights.taken resolve hmem c htaken)
  · obtain hold | ⟨rfl, rfl⟩ := getElem?_concat_cases hchan
    · have hne : chan.ackID ≠ ackID := by
        rintro rfl
        exact hfresh (List.mem_map_of_mem (List.mem_of_getElem? hold))
      have hright := hrights.right c chan hold
      rwa [owed, AList.lookup_insert_ne hne]
    · rw [holders_eq_zero hrights.taken]
      apply Nat.le_of_eq
      rw [owed, AList.lookup_insert, if_pos rfl]

/-- A call that starts or comes back holds nothing. -/
theorem Rights.start (hrights : Rights pending chans resolves)
    (hstarted : resolve.stage = .started) :
    Rights pending chans (resolves ++ [resolve]) := by
  refine hrights.update rfl (fun _ _ h => h) (fun other hmem c hc => ?_)
    fun c chan hchan => ?_
  · rw [List.mem_append, List.mem_singleton] at hmem
    obtain hold | rfl := hmem
    · exact hrights.taken other hold c hc
    · rw [hstarted] at hc
      cases hc
  · rw [holders_concat hstarted]
    exact hrights.right c chan hchan

theorem Rights.missing (hrights : Rights pending chans resolves)
    (hget : resolves[r]? = some resolve)
    (hstarted : resolve.stage = .started) :
    Rights pending chans
      (resolves.set r { resolve with stage := .returned false }) := by
  refine hrights.update rfl (fun _ _ h => h) (hrights.set_taken (by simp))
    fun c chan hchan => ?_
  have hholders := holders_set hget (.returned false) c
  have hright := hrights.right c chan hchan
  rw [hstarted] at hholders
  simp only [reduceCtorEq, if_false] at hholders
  omega

/-- The caller takes the right over from the map. -/
theorem Rights.take (hrights : Rights pending chans resolves)
    (hget : resolves[r]? = some resolve) (hstarted : resolve.stage = .started)
    {c : ChanID} (hlookup : pending.lookup resolve.ackID = some c) :
    Rights (pending.erase resolve.ackID) chans
      (resolves.set r { resolve with stage := .taken c }) := by
  have hid := hrights.own _ _ hlookup
  rw [List.getElem?_map, Option.map_eq_some_iff] at hid
  obtain ⟨chan, hchan, hid⟩ := hid
  have herased := hrights.erase resolve.ackID
  refine herased.update rfl (fun _ _ h => h) (hrights.set_taken fun d hd => ?_)
    fun d other hother => ?_
  · cases hd
    exact (List.getElem?_eq_some_iff.mp hchan).1
  have hholders := holders_set hget (.taken c) d
  rw [hstarted] at hholders
  by_cases hsame : c = d
  · subst hsame
    rw [hchan] at hother
    cases hother
    have hright := hrights.right c chan hchan
    rw [owed, hid, if_pos hlookup] at hright
    rw [owed, hid, AList.lookup_erase]
    simp only [reduceCtorEq, if_false, if_true] at hholders ⊢
    omega
  · have hright := herased.right d other hother
    simp only [reduceCtorEq, Stage.taken.injEq, hsame, if_false] at hholders
    omega

/-- The close uses the caller's right up. -/
theorem Rights.close (hrights : Rights pending chans resolves)
    (hget : resolves[r]? = some resolve) {c : ChanID}
    (htaken : resolve.stage = .taken c) {chan : Chan}
    (hchan : chans[c]? = some chan) :
    Rights pending (chans.set c { chan with closes := chan.closes + 1 })
      (resolves.set r { resolve with stage := .returned true }) := by
  refine hrights.update (ackIDs_set hchan _) (fun _ _ h => h)
    (hrights.set_taken (by simp)) fun d other hother => ?_
  have hholders := holders_set hget (.returned true) d
  rw [htaken] at hholders
  by_cases hsame : c = d
  · subst hsame
    rw [List.getElem?_set_self (List.getElem?_eq_some_iff.mp hchan).1]
      at hother
    cases hother
    have hright := hrights.right c chan hchan
    simp only [if_true, reduceCtorEq, if_false] at hholders
    simp only
    omega
  · rw [List.getElem?_set_ne hsame] at hother
    have hright := hrights.right d other hother
    simp only [Stage.taken.injEq, hsame, reduceCtorEq, if_false] at hholders
    omega

/-- `Shutdown` uses up every right that is still in the map. -/
theorem Rights.shutdown (hrights : Rights pending chans resolves) :
    Rights ∅ (chans.mapIdx fun c chan => { chan with
      closes := chan.closes + (pending.entries.map Sigma.snd).count c })
      resolves := by
  refine hrights.update (ackIDs_mapIdx _ _) (by simp) hrights.taken
    fun c chan hchan => ?_
  rw [List.getElem?_mapIdx, Option.map_eq_some_iff] at hchan
  obtain ⟨old, hold, rfl⟩ := hchan
  have hright := hrights.right c old hold
  have hcount : (pending.entries.map Sigma.snd).count c =
      owed pending old.ackID c := by
    apply GoMap.count_values
    intro ackID hlookup
    have hid := hrights.own ackID c hlookup
    rw [List.getElem?_map, hold] at hid
    exact (Option.some.inj hid).symm
  rw [owed, AList.lookup_empty, if_neg (by simp)]
  simp only [hcount]
  omega

end Rights

theorem rights_step (hfresh : DrawsFresh s label)
    (hrights : Rights s.pending s.chans s.resolves)
    (hstep : step s label = some next) :
    Rights next.pending next.chans next.resolves := by
  induction step_cases hstep with
  | create nanoID => exact hrights.create hfresh
  | start ackID => exact hrights.start rfl
  | missing hget hstarted _ => exact hrights.missing hget hstarted
  | take hget hstarted hlookup => exact hrights.take hget hstarted hlookup
  | close hget htaken hchan => exact hrights.close hget htaken hchan
  | wait _ => exact hrights
  | cleanUp _ _ => exact hrights.erase _
  | shutdown => exact hrights.shutdown

/-! ### The ledger of the ack IDs -/

namespace State

/-- The ack IDs that have left the map. -/
def gone (s : State) : List Bytes := s.resolved ++ s.timedOut ++ s.shutDown

end State

structure Ledger (pending : GoMap Bytes ChanID) (created gone : List Bytes) :
    Prop where
  held : ∀ ackID, ackID ∈ pending ↔ ackID ∈ created ∧ ackID ∉ gone
  listed : gone ⊆ created

section Ledger

variable {pending : GoMap Bytes ChanID} {created gone gone' : List Bytes}
  {ackID : Bytes}

theorem Ledger.create (hledger : Ledger pending created gone) (c : ChanID)
    (hfresh : ackID ∉ created) :
    Ledger (pending.insert ackID c) (created ++ [ackID]) gone := by
  refine ⟨fun other => ?_, fun other hgone => ?_⟩
  · rw [AList.mem_insert, hledger.held, List.mem_append, List.mem_singleton]
    by_cases hsame : other = ackID
    · subst hsame
      have hnot : other ∉ gone := fun h => hfresh (hledger.listed h)
      simp [hnot]
    · simp [hsame]
  · exact List.mem_append_left _ (hledger.listed hgone)

theorem Ledger.erase (hledger : Ledger pending created gone)
    (hcreated : ackID ∈ created)
    (hgone : ∀ other, other ∈ gone' ↔ other = ackID ∨ other ∈ gone) :
    Ledger (pending.erase ackID) created gone' := by
  refine ⟨fun other => ?_, fun other hother => ?_⟩
  · rw [AList.mem_erase, hledger.held, hgone]
    tauto
  · obtain rfl | hold := (hgone other).mp hother
    · exact hcreated
    · exact hledger.listed hold

theorem Ledger.shutdown (hledger : Ledger pending created gone)
    (hgone : ∀ other, other ∈ gone' ↔ other ∈ pending ∨ other ∈ gone) :
    Ledger ∅ created gone' := by
  refine ⟨fun other => ?_, fun other hother => ?_⟩
  · rw [hgone, hledger.held]
    have hnone : other ∉ (∅ : GoMap Bytes ChanID) := AList.notMem_empty other
    tauto
  · obtain hold | hold := (hgone other).mp hother
    · exact ((hledger.held other).mp hold).1
    · exact hledger.listed hold

end Ledger

/-! ### The callers -/

/-- The calls for an ack ID that took its channel. -/
def winners (resolves : List Resolve) (ackID : Bytes) : Nat :=
  resolves.countP fun resolve => resolve.ackID = ackID ∧ resolve.stage.won

/-- An ack ID in the map has no winner yet, and a late call never is one. -/
structure Callers (pending : GoMap Bytes ChanID) (gone : List Bytes)
    (resolves : List Resolve) : Prop where
  winner : ∀ ackID,
    winners resolves ackID + (if ackID ∈ pending then 1 else 0) ≤ 1
  won : ∀ resolve ∈ resolves, resolve.stage.won = true → resolve.ackID ∈ gone
  late : ∀ resolve ∈ resolves,
    resolve.afterTimeout = true ∨ resolve.outdated = true →
      resolve.ackID ∈ gone ∧ resolve.stage.won = false

section Callers

variable {pending pending' : GoMap Bytes ChanID} {gone gone' : List Bytes}
  {resolves : List Resolve} {r : Nat} {resolve : Resolve} {stage : Stage}

theorem Callers.mono (hcallers : Callers pending gone resolves)
    (hless : ∀ ackID ∈ pending', ackID ∈ pending) (hmore : gone ⊆ gone') :
    Callers pending' gone' resolves := by
  refine ⟨fun ackID => ?_, fun resolve hmem hwon => ?_,
    fun resolve hmem hlate => ?_⟩
  · have hwinner := hcallers.winner ackID
    split
    next hmem => rwa [if_pos (hless ackID hmem)] at hwinner
    · omega
  · exact hmore (hcallers.won resolve hmem hwon)
  · obtain ⟨hgone, hwon⟩ := hcallers.late resolve hmem hlate
    exact ⟨hmore hgone, hwon⟩

theorem Callers.create (hcallers : Callers pending gone resolves)
    {ackID : Bytes} (c : ChanID) (hfresh : ackID ∉ gone) :
    Callers (pending.insert ackID c) gone resolves := by
  refine { hcallers with winner := fun other => ?_ }
  by_cases hsame : other = ackID
  · have hnone : winners resolves other = 0 := by
      rw [winners, List.countP_eq_zero]
      intro resolve hmem hwon
      obtain ⟨hid, hwon⟩ := of_decide_eq_true hwon
      apply hfresh
      rw [← hsame, ← hid]
      exact hcallers.won resolve hmem hwon
    rw [hnone]
    split <;> omega
  · have hwinner := hcallers.winner other
    simpa only [AList.mem_insert, hsame, false_or] using hwinner

theorem Callers.start (hcallers : Callers pending gone resolves)
    (hstarted : resolve.stage = .started)
    (hlate : resolve.afterTimeout = true ∨ resolve.outdated = true →
      resolve.ackID ∈ gone) :
    Callers pending gone (resolves ++ [resolve]) := by
  have hnot : resolve.stage.won = false := by rw [hstarted]; rfl
  refine ⟨fun ackID => ?_, fun other hmem hwon => ?_,
    fun other hmem hflag => ?_⟩
  · have hsame : winners (resolves ++ [resolve]) ackID =
        winners resolves ackID := by
      rw [winners, List.countP_append, List.countP_singleton, hnot]
      simp [winners]
    rw [hsame]
    exact hcallers.winner ackID
  · rw [List.mem_append, List.mem_singleton] at hmem
    obtain hold | rfl := hmem
    · exact hcallers.won other hold hwon
    · rw [hnot] at hwon
      cases hwon
  · rw [List.mem_append, List.mem_singleton] at hmem
    obtain hold | rfl := hmem
    · exact hcallers.late other hold hflag
    · exact ⟨hlate hflag, hnot⟩

theorem winners_set (hget : resolves[r]? = some resolve) (stage : Stage)
    (ackID : Bytes) :
    winners (resolves.set r { resolve with stage }) ackID +
        (if resolve.ackID = ackID ∧ resolve.stage.won = true then 1 else 0) =
      winners resolves ackID +
        if resolve.ackID = ackID ∧ stage.won = true then 1 else 0 := by
  have hcount := countP_set_add (fun resolve : Resolve =>
    decide (resolve.ackID = ackID ∧ resolve.stage.won = true)) hget
    { resolve with stage }
  simpa only [winners, decide_eq_true_eq] using hcount

/-- A call that neither wins nor was a winner, or stays one. -/
theorem Callers.restage (hcallers : Callers pending gone resolves)
    (hget : resolves[r]? = some resolve)
    (hsame : stage.won = resolve.stage.won) :
    Callers pending gone (resolves.set r { resolve with stage }) := by
  have hold := List.mem_of_getElem? hget
  refine ⟨fun ackID => ?_, fun other hmem hwon => ?_,
    fun other hmem hflag => ?_⟩
  · have hwinners := winners_set hget stage ackID
    have hwinner := hcallers.winner ackID
    rw [hsame] at hwinners
    omega
  · obtain hother | rfl := List.mem_or_eq_of_mem_set hmem
    · exact hcallers.won other hother hwon
    · exact hcallers.won resolve hold (hsame ▸ hwon)
  · obtain hother | rfl := List.mem_or_eq_of_mem_set hmem
    · exact hcallers.late other hother hflag
    · obtain ⟨hgone, hwon⟩ := hcallers.late resolve hold hflag
      exact ⟨hgone, hsame.trans hwon⟩

/-- The winner's ack ID was in the map, so the call is not late. -/
theorem Callers.take (hcallers : Callers pending gone resolves)
    (hget : resolves[r]? = some resolve) (hstarted : resolve.stage = .started)
    (hpending : resolve.ackID ∈ pending) (hgone : resolve.ackID ∉ gone)
    {c : ChanID} (hmore : ∀ ackID,
      ackID ∈ gone' ↔ ackID = resolve.ackID ∨ ackID ∈ gone) :
    Callers (pending.erase resolve.ackID) gone'
      (resolves.set r { resolve with stage := .taken c }) := by
  refine ⟨fun ackID => ?_, fun other hmem hwon => ?_,
    fun other hmem hflag => ?_⟩
  · have hwinners := winners_set hget (.taken c) ackID
    have hwinner := hcallers.winner ackID
    rw [hstarted] at hwinners
    by_cases hsame : resolve.ackID = ackID
    · subst hsame
      rw [if_pos hpending] at hwinner
      rw [if_neg (by simp [Stage.won]), if_pos ⟨rfl, rfl⟩] at hwinners
      rw [if_neg (by simp [AList.mem_erase])]
      omega
    · have hne : ¬ ackID = resolve.ackID := fun h => hsame h.symm
      simp only [hsame, false_and, if_false] at hwinners
      simp only [AList.mem_erase, ne_eq, hne, not_false_eq_true, true_and]
      omega
  · obtain hother | rfl := List.mem_or_eq_of_mem_set hmem
    · exact (hmore _).mpr (.inr (hcallers.won other hother hwon))
    · exact (hmore _).mpr (.inl rfl)
  · obtain hother | rfl := List.mem_or_eq_of_mem_set hmem
    · obtain ⟨hold, hwon⟩ := hcallers.late other hother hflag
      exact ⟨(hmore _).mpr (.inr hold), hwon⟩
    · exact absurd (hcallers.late resolve (List.mem_of_getElem? hget) hflag).1
        hgone

end Callers

/-! ### Every run -/

structure Inv (s : State) : Prop where
  rights : Rights s.pending s.chans s.resolves
  ledger : Ledger s.pending s.created s.gone
  callers : Callers s.pending s.gone s.resolves
  outdated : s.outdated ⊆ s.gone

theorem inv_init : Inv {} where
  rights := ⟨by simp, by simp, by simp, by simp⟩
  ledger := ⟨by simp [State.created], by simp [State.gone]⟩
  callers := ⟨by simp [winners], by simp, by simp⟩
  outdated := by simp

theorem inv_step (hfresh : DrawsFresh s label) (hinv : Inv s)
    (hstep : step s label = some next) : Inv next := by
  have hrights := rights_step hfresh hinv.rights hstep
  have hledger := hinv.ledger
  have hcallers := hinv.callers
  induction step_cases hstep with
  | create nanoID =>
    refine { hinv with rights := hrights, ledger := ?_, callers := ?_ }
    · rw [State.created, List.map_append]
      exact hledger.create _ hfresh
    · exact hcallers.create _ fun h => hfresh (hledger.listed h)
  | start ackID =>
    refine { hinv with rights := hrights, callers := hcallers.start rfl ?_ }
    intro hflag
    simp only [List.contains_iff_mem] at hflag
    obtain htimedOut | houtdated := hflag
    · simp [State.gone, htimedOut]
    · exact hinv.outdated houtdated
  | missing hget hstarted _ =>
    refine { hinv with rights := hrights, callers := ?_ }
    exact hcallers.restage hget (by rw [hstarted]; rfl)
  | @take r resolve c hget hstarted hlookup =>
    have hpending : resolve.ackID ∈ s.pending := by
      rw [← AList.lookup_isSome, hlookup]
      rfl
    obtain ⟨hcreated, hgone⟩ := (hledger.held _).mp hpending
    have hmore : ∀ ackID, ackID ∈ resolve.ackID :: s.resolved ++
        s.timedOut ++ s.shutDown ↔ ackID = resolve.ackID ∨
          ackID ∈ s.gone := by
      intro ackID
      simp [State.gone]
    exact {
      rights := hrights
      ledger := hledger.erase hcreated hmore
      callers := hcallers.take hget hstarted hpending hgone hmore
      outdated := fun _ h => (hmore _).mpr (.inr (hinv.outdated h)) }
  | close hget htaken hchan =>
    refine { hinv with rights := hrights, ledger := ?_, callers := ?_ }
    · rw [State.created, ackIDs_set hchan]
      exact hledger
    · exact hcallers.restage hget (by rw [htaken]; rfl)
  | wait _ => exact { hinv with rights := hrights }
  | @cleanUp w waits chan hmem =>
    have hmore : ∀ ackID, ackID ∈ s.resolved ++
        chan.ackID :: s.timedOut ++ s.shutDown ↔ ackID = chan.ackID ∨
          ackID ∈ s.gone := by
      intro ackID
      simp only [State.gone, List.mem_append, List.mem_cons]
      tauto
    refine {
      rights := hrights
      ledger := hledger.erase (List.mem_map_of_mem hmem) hmore
      callers := hcallers.mono (fun ackID hpending => ?_) fun _ h => ?_
      outdated := fun _ h => (hmore _).mpr (.inr (hinv.outdated h)) }
    · exact (AList.mem_erase.mp hpending).2
    · exact (hmore _).mpr (.inr h)
  | shutdown =>
    have hmore : ∀ ackID, ackID ∈ s.resolved ++ s.timedOut ++
        (s.pending.keys ++ s.shutDown) ↔ ackID ∈ s.pending ∨
          ackID ∈ s.gone := by
      intro ackID
      simp only [State.gone, List.mem_append, AList.mem_keys]
      tauto
    refine {
      rights := hrights
      ledger := ?_
      callers := hcallers.mono (by simp) fun _ h => (hmore _).mpr (.inr h)
      outdated := fun ackID hcreated => ?_ }
    · simp only [State.created, ackIDs_mapIdx]
      exact hledger.shutdown hmore
    · rw [State.gone, hmore, hledger.held]
      exact (em (ackID ∈ s.gone)).symm.imp_left fun h => ⟨hcreated, h⟩

theorem inv_of_reach (hreach : Reach step DrawsFresh {} s) : Inv s :=
  hreach.invariant Inv inv_init
    fun _ _ _ hinv hfresh hstep => inv_step hfresh hinv hstep

theorem Inv.resolvesOnce (hinv : Inv s) : ResolvesOnce s where
  closedOnce := by
    intro chan hmem
    obtain ⟨c, hchan⟩ := List.getElem?_of_mem hmem
    have hright := hinv.rights.right c chan hchan
    omega
  oneWinner := by
    intro ackID
    have hwinner := hinv.callers.winner ackID
    have hle : s.resolves.countP (fun resolve =>
        resolve.ackID = ackID ∧ resolve.stage = .returned true) ≤
          winners s.resolves ackID := by
      apply List.countP_mono_left
      intro resolve _ hboth
      simp only [decide_eq_true_eq] at hboth ⊢
      exact ⟨hboth.1, by rw [hboth.2]; rfl⟩
    omega
  late := by
    intro resolve hmem hflag
    have hwon := (hinv.callers.late resolve hmem hflag).2
    cases hstage : resolve.stage with
    | started => exact .inl rfl
    | taken c =>
      rw [hstage] at hwon
      cases hwon
    | returned found =>
      rw [hstage] at hwon
      cases found with
      | false => exact .inr rfl
      | true => cases hwon
  pending := by
    intro ackID
    have hheld := hinv.ledger.held ackID
    rw [ne_eq, AList.lookup_eq_none, not_not, hheld]
    simp only [State.gone, List.mem_append, not_or, and_assoc]

/-- In every interleaving no channel is closed twice, at most one call per
ack ID returns true, a call that starts after a timeout of the ack ID or after
a `Shutdown` behind its creation returns false, and the map holds what is
left. -/
theorem resolvesOnce_of_reach {s : State}
    (hreach : Reach step DrawsFresh {} s) : ResolvesOnce s :=
  (inv_of_reach hreach).resolvesOnce

/-- Two callers and a `Shutdown` after one of them took the channel; the
timeout of the same ack ID comes last. -/
def contended : List Label :=
  [.createAck [7], .waitForAck 0, .resolveAck (ackPrefix ++ [7]),
    .resolveAck (ackPrefix ++ [7]), .resolveLock 0, .shutdown, .resolveLock 1,
    .timeout 0, .resolveClose 0, .cleanUp 0, .resolveAck (ackPrefix ++ [7]),
    .resolveLock 2]

theorem resolvesOnce_contended :
    let s := final step {} contended
    s.resolves.map Resolve.stage =
        [.returned true, .returned false, .returned false] ∧
      ResolvesOnce s :=
  ⟨by decide +kernel, resolvesOnce_of_reach
    (reach_final (by decide +kernel) (by decide +kernel))⟩

/-- An ack is created and resolved on a container that has shut down. -/
def createdAfterShutdown : List Label :=
  [.shutdown, .createAck [7], .resolveAck (ackPrefix ++ [7]), .resolveLock 0,
    .resolveClose 0]

theorem createdAfterShutdown_resolves :
    let s := final step {} createdAfterShutdown
    Reach step DrawsFresh {} s ∧
      ∃ resolve ∈ s.resolves, resolve.afterShutdown = true ∧
        resolve.stage = .returned true :=
  ⟨reach_final (by decide +kernel) (by decide +kernel),
    by decide +kernel⟩

end AckChannels

end Pipewave
