/-
The two models of the ack manager.  Whatever the channels of a container go
through, the model of all containers has a run with the same map, the same
closed channels and the same closes to come.
-/
import Pipewave.AckChannels

namespace Pipewave

namespace AckChannels

open Transition
open Ack (ackPrefix)

/-- What a container knows of the channel of a call. -/
def sent (call : Ack.Call) : ContainerID × Bytes × Bool :=
  (call.node, call.ackID, call.closed)

/-- A container's channels as the calls of the model of all containers, in
which a call waits for its ack only once it gives it up. -/
structure Mirrors (node : ContainerID) (s : State) (a : Ack.State) :
    Prop where
  calls : a.calls.map sent =
    s.chans.map fun chan => (node, chan.ackID, decide (chan.closes ≠ 0))
  pending : (a.manager node).pending = s.pending
  named : ∀ ackID c, s.pending.lookup ackID = some c → ackID ≠ []
  closing : ∀ c, a.closing.count c = holders s.resolves c
  sending : ∀ call ∈ a.calls,
    call.stage = .sending ∨ s.pending.lookup call.ackID = none

/-- Some steps of all containers do what a step of the channels does. -/
def Follows (node : ContainerID) (a : Ack.State) (s : State) : Prop :=
  ∃ next, Reach Ack.step Ack.DrawsFresh a next ∧ Mirrors node s next

variable {node : ContainerID} {s next : State} {a a' : Ack.State} {c : ChanID}
  {chan : Chan} {resolve : Resolve} {r : Nat}

theorem Follows.of_step (label : Ack.Label)
    (hfresh : Ack.DrawsFresh a label) (hstep : Ack.step a label = some a')
    (hnext : Mirrors node s a') : Follows node a s :=
  ⟨a', .tail .refl hfresh hstep, hnext⟩

theorem pending_setManager (a : Ack.State) (node : ContainerID)
    (manager : Ack.AckManager) :
    ((a.setManager node manager).manager node).pending = manager.pending :=
  congrArg Ack.AckManager.pending
    ((a.manager_setManager node node manager).trans (if_pos rfl))

/-- A call that has not begun to wait finds a target, waits and gives up. -/
theorem reach_giveUp {call : Ack.Call} (hcall : a.calls[c]? = some call)
    (hsending : call.stage = .sending) :
    Reach Ack.step Ack.DrawsFresh a
      { a.setManager call.node { a.manager call.node with
          pending := (a.manager call.node).pending.erase call.ackID } with
        calls := a.calls.modify c fun call => { call with
          found := true
          stage := .returned false } } := by
  let moved (stage : Ack.Stage) : Ack.State := a.modifyCall c fun call =>
    { call with found := true, stage }
  have hat : ∀ stage, (moved stage).call c =
      some { call with found := true, stage } := by
    intro stage
    simp [moved, Ack.State.call, Ack.State.modifyCall, hcall]
  have hmoved : ∀ change stage, (a.modifyCall c change).setStage c stage =
      a.modifyCall c fun call => { change call with stage } := fun _ _ =>
    congrArg (fun calls => { a with calls }) (List.modify_modify_eq ..)
  have hfound : Ack.step a (.localAction c false) =
      some (a.modifyCall c fun call => { call with found := true }) := by
    simp [Ack.step, Ack.State.call, hcall, hsending]
  have hawait : Ack.step (a.modifyCall c fun call =>
      { call with found := true }) (.await c) = some (moved .waiting) := by
    simp only [Ack.step, Ack.State.call, hmoved]
    simp [Ack.State.modifyCall, hcall, hsending, moved]
  have htimeout : Ack.step (moved .waiting) (.timeout c) =
      some (moved .timedOut) := by
    simp only [Ack.step, hat, if_true]
    exact congrArg some (hmoved _ _)
  have hgiveUp : Ack.step (moved .timedOut) (.giveUp c) = some
      { a.setManager call.node { a.manager call.node with
          pending := (a.manager call.node).pending.erase call.ackID } with
        calls := (moved (.returned false)).calls } := by
    simp only [Ack.step, hat]
    exact congrArg (fun moved : Ack.State => some { a.setManager _ _ with
      calls := moved.calls }) (hmoved _ (.returned false))
  exact .tail (.tail (.tail (.tail .refl (by trivial) hfound) (by trivial)
    hawait) (by trivial) htimeout) (by trivial) hgiveUp

section Steps

variable (hmirrors : Mirrors node s a)

include hmirrors

theorem Mirrors.follows : Follows node a s :=
  ⟨a, .refl, hmirrors⟩

theorem Mirrors.length : a.calls.length = s.chans.length := by
  have hlength := congrArg List.length hmirrors.calls
  rwa [List.length_map, List.length_map] at hlength

theorem Mirrors.call_of_chan (hchan : s.chans[c]? = some chan) :
    ∃ call, a.calls[c]? = some call ∧ call.node = node ∧
      call.ackID = chan.ackID ∧ call.closed = decide (chan.closes ≠ 0) := by
  have hcall := congrArg (·[c]?) hmirrors.calls
  simp only [List.getElem?_map, hchan, Option.map_some] at hcall
  obtain ⟨call, hcall, hsame⟩ := Option.map_eq_some_iff.mp hcall
  simp only [sent, Prod.mk.injEq] at hsame
  exact ⟨call, hcall, hsame⟩

theorem Mirrors.callIDs :
    a.calls.map Ack.Call.ackID = s.chans.map Chan.ackID := by
  have hids := congrArg (List.map fun call => call.2.1) hmirrors.calls
  rwa [List.map_map, List.map_map] at hids

theorem Mirrors.create {nanoID : Bytes}
    (hfresh : ackPrefix ++ nanoID ∉ s.created) :
    Follows node a { s with
      pending := s.pending.insert (ackPrefix ++ nanoID) s.chans.length
      chans := s.chans ++ [{ ackID := ackPrefix ++ nanoID }] } := by
  have hnew : ∀ call ∈ a.calls, call.ackID ≠ ackPrefix ++ nanoID := by
    intro call hcall hid
    apply hfresh
    rw [State.created, ← hmirrors.callIDs, ← hid]
    exact List.mem_map_of_mem hcall
  refine .of_step (.createAck node nanoID) hnew rfl { hmirrors with
    calls := ?_
    pending := ?_
    named := ?_
    sending := ?_ }
  · rw [List.map_append, List.map_append, hmirrors.calls]
    rfl
  · rw [← hmirrors.pending, ← hmirrors.length]
    exact pending_setManager a node _
  · intro ackID c hlookup
    obtain ⟨rfl, -⟩ | ⟨-, hold⟩ := GoMap.lookup_insert_some hlookup
    · exact List.cons_ne_nil _ _
    · exact hmirrors.named ackID c hold
  · intro call hcall
    rcases List.mem_append.mp hcall with hold | hlast
    · refine (hmirrors.sending call hold).imp_right fun hnone => ?_
      rw [AList.lookup_insert_ne (hnew call hold)]
      exact hnone
    · rw [List.mem_singleton.mp hlast]
      exact .inl rfl

/-- An ack ID has left both maps. -/
theorem Mirrors.erase (ackID : Bytes) (calls : List Ack.Call)
    (hcalls : calls.map sent = a.calls.map sent)
    (hsending : ∀ call ∈ calls, call ∈ a.calls ∨ call.ackID = ackID) :
    Mirrors node { s with pending := s.pending.erase ackID }
      { a.setManager node { a.manager node with
          pending := (a.manager node).pending.erase ackID } with
        calls } := by
  have hless : ∀ id, s.pending.lookup id = none →
      (s.pending.erase ackID).lookup id = none := by
    intro id hnone
    cases hlookup : (s.pending.erase ackID).lookup id with
    | none => rfl
    | some c =>
      rw [(GoMap.lookup_erase_some hlookup).2] at hnone
      cases hnone
  refine { hmirrors with
    calls := hcalls.trans hmirrors.calls
    pending := ?_
    named := ?_
    sending := ?_ }
  · rw [← hmirrors.pending]
    exact pending_setManager a node _
  · intro id c hlookup
    exact hmirrors.named id c (GoMap.lookup_erase_some hlookup).2
  · intro call hcall
    rcases hsending call hcall with hold | rfl
    · exact (hmirrors.sending call hold).imp_right (hless _)
    · exact .inr (AList.lookup_erase _ _)

/-- The lock section of `ResolveAck` is that for an ACK frame. -/
theorem Mirrors.take (hget : s.resolves[r]? = some resolve)
    (hstarted : resolve.stage = .started)
    (hlookup : s.pending.lookup resolve.ackID = some c) :
    Follows node a { s with
      resolves := s.resolves.set r { resolve with stage := .taken c }
      pending := s.pending.erase resolve.ackID
      resolved := resolve.ackID :: s.resolved } := by
  have hstep : Ack.step a (.clientAck node resolve.ackID) =
      some { a.setManager node { a.manager node with
          pending := (a.manager node).pending.erase resolve.ackID } with
        acked := resolve.ackID :: a.acked
        closing := c :: a.closing } := by
    have hfound := hmirrors.pending ▸ hlookup
    simp only [Ack.step, if_neg (hmirrors.named _ _ hlookup),
      Ack.State.resolveAck, Ack.State.manager] at hfound ⊢
    simp only [hfound]
    rfl
  have herased := hmirrors.erase resolve.ackID a.calls rfl fun _ => .inl
  refine .of_step (.clientAck node _) trivial hstep
    { herased with closing := ?_ }
  intro c'
  have hholders := holders_set hget (.taken c) c'
  rw [hstarted] at hholders
  rw [List.count_cons, hmirrors.closing]
  simpa using hholders.symm

theorem Mirrors.close (hget : s.resolves[r]? = some resolve)
    (htaken : resolve.stage = .taken c) (hchan : s.chans[c]? = some chan) :
    Follows node a { s with
      resolves := s.resolves.set r { resolve with stage := .returned true }
      chans := s.chans.set c { chan with closes := chan.closes + 1 } } := by
  have hholders : ∀ c', holders (s.resolves.set r
      { resolve with stage := .returned true }) c' +
        (if c = c' then 1 else 0) = holders s.resolves c' := by
    intro c'
    have hset := holders_set hget (.returned true) c'
    rw [htaken] at hset
    simpa using hset
  have hclosing : c ∈ a.closing := by
    rw [← List.count_pos_iff, hmirrors.closing, ← hholders, if_pos rfl]
    exact Nat.succ_pos _
  have hstep : Ack.step a (.close c) = some
      { a.modifyCall c (fun call => { call with closed := true }) with
        closing := a.closing.erase c } := if_neg (not_not_intro hclosing)
  refine .of_step (.close c) trivial hstep { hmirrors with
    calls := ?_
    closing := ?_
    sending := ?_ }
  · refine List.ext_getElem? fun c' => ?_
    have hsame := congrArg (·[c']?) hmirrors.calls
    simp only [Ack.State.modifyCall, List.getElem?_map, getElem?_modify_if]
      at hsame ⊢
    by_cases hc : c' = c
    · subst hc
      obtain ⟨call, hcall, rfl, hid, -⟩ := hmirrors.call_of_chan hchan
      rw [List.getElem?_set_self (List.getElem?_eq_some_iff.mp hchan).1,
        if_pos rfl, hcall]
      simp [sent, hid]
    · rw [if_neg hc, List.getElem?_set_ne (Ne.symm hc)]
      exact hsame
  · intro c'
    rw [List.count_erase, hmirrors.closing, ← hholders]
    simp only [beq_iff_eq]
    exact Nat.add_sub_cancel _ _
  · intro call hcall
    obtain ⟨c', hget'⟩ := List.getElem?_of_mem hcall
    rcases getElem?_modify_cases hget' with
      ⟨-, hold⟩ | ⟨-, before, hbefore, rfl⟩
    · exact hmirrors.sending call (List.mem_of_getElem? hold)
    · exact hmirrors.sending before (List.mem_of_getElem? hbefore)

theorem Mirrors.shutdown :
    Follows node a { s with
      pending := ∅
      chans := s.chans.mapIdx fun c chan => { chan with
        closes := chan.closes +
          (s.pending.entries.map Sigma.snd).count c }
      isShutDown := true
      shutDown := s.pending.keys ++ s.shutDown
      outdated := s.created } := by
  refine .of_step (.shutdown node) trivial rfl { hmirrors with
    calls := ?_
    pending := ?_
    named := ?_
    sending := ?_ }
  · rw [hmirrors.pending]
    refine List.ext_getElem? fun c => ?_
    have hsame := congrArg (·[c]?) hmirrors.calls
    simp only [List.getElem?_map, List.getElem?_mapIdx] at hsame ⊢
    cases hchan : s.chans[c]? with
    | none =>
      rw [hchan, Option.map_none, Option.map_eq_none_iff] at hsame
      rw [hsame]
      rfl
    | some chan =>
      obtain ⟨call, hcall, rfl, hid, hclosed⟩ := hmirrors.call_of_chan hchan
      rw [hcall]
      by_cases hmem : c ∈ s.pending.entries.map Sigma.snd
      · simp [sent, hmem, hid, List.count_eq_zero]
      · simp [sent, hmem, hid, hclosed, List.count_eq_zero]
  · exact pending_setManager a node _
  · intro ackID c hlookup
    cases hlookup
  · exact fun _ _ => .inr rfl

/-- A `WaitForAck` that timed out is the whole wait of its call, if the call
still has it before it. -/
theorem Mirrors.cleanUp (hmem : chan ∈ s.chans) (waits : List Wait) :
    Follows node a { s with
      waits
      pending := s.pending.erase chan.ackID
      timedOut := chan.ackID :: s.timedOut } := by
  obtain ⟨c, hchan⟩ := List.getElem?_of_mem hmem
  obtain ⟨call, hcall, rfl, hid, -⟩ := hmirrors.call_of_chan hchan
  rw [← hid]
  by_cases hsending : call.stage = .sending
  · have hgone := hmirrors.erase call.ackID (a.calls.modify c fun call =>
      { call with found := true, stage := .returned false }) ?_ ?_
    · exact ⟨_, reach_giveUp hcall hsending, { hgone with }⟩
    · apply map_modify_eq
      exact fun _ => rfl
    · intro other hother
      obtain ⟨c', hget⟩ := List.getElem?_of_mem hother
      rcases getElem?_modify_cases hget with
        ⟨-, hold⟩ | ⟨rfl, before, hbefore, rfl⟩
      · exact .inl (List.mem_of_getElem? hold)
      · cases hcall.symm.trans hbefore
        exact .inr rfl
  · have hnone := (hmirrors.sending call
      (List.mem_of_getElem? hcall)).resolve_left hsending
    have hsame : s.pending.erase call.ackID = s.pending :=
      AList.ext (List.kerase_of_notMem_keys (AList.lookup_eq_none.mp hnone))
    rw [hsame]
    exact Mirrors.follows { hmirrors with }

end Steps

theorem follows_step {label : Label} (hmirrors : Mirrors node s a)
    (hfresh : DrawsFresh s label) (hstep : step s label = some next) :
    Follows node a next := by
  cases step_cases hstep with
  | create nanoID => exact hmirrors.create hfresh
  | start ackID =>
    refine Mirrors.follows { hmirrors with closing := fun c => ?_ }
    rw [holders_concat rfl]
    exact hmirrors.closing c
  | missing get started =>
    refine Mirrors.follows { hmirrors with closing := fun c => ?_ }
    have hholders := holders_set get (.returned false) c
    rw [started] at hholders
    rw [hmirrors.closing]
    simpa using hholders.symm
  | take get started lookup => exact hmirrors.take get started lookup
  | close get taken chanAt => exact hmirrors.close get taken chanAt
  | wait waits => exact Mirrors.follows { hmirrors with }
  | cleanUp waits mem => exact hmirrors.cleanUp mem waits
  | shutdown => exact hmirrors.shutdown

/-- Whatever the channels of a container go through, the model of all
containers has a run that mirrors it. -/
theorem mirrors_of_reach (node : ContainerID)
    (hreach : Reach step DrawsFresh {} s) :
    ∃ a, Reach Ack.step Ack.DrawsFresh {} a ∧ Mirrors node s a :=
  hreach.simulate (Mirrors node)
    (fun _ _ _ _ hmirrors hfresh hstep => follows_step hmirrors hfresh hstep)
    { calls := rfl
      pending := rfl
      named := fun _ _ h => by cases h
      closing := fun _ => rfl
      sending := fun _ h => by cases h }

end AckChannels

end Pipewave
