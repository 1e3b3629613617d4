/-
The timeline of one authenticated session on one container, as runs of the
cluster in which every callback finishes before the next event and every store
operation succeeds.  Each event refines one step of the session, and a
reconnect cancels the pending expiry exactly where the session says so.
-/
import Mathlib.Logic.Relation
import Pipewave.SessionCallbacks

namespace Pipewave

namespace Cluster

open Transition

/-- The events other than callbacks. -/
def Plain (auth : WebsocketAuth) : Label → Prop
  | .heartbeat other => other = auth
  | .save _ | .advance _ => True
  | .startTimer node _ | .stopTimer node _ => node = 0
  | _ => False

/-- One event of the session's timeline.  A timer runs out only while its
context is not cancelled. -/
inductive Happens (auth : WebsocketAuth) (w : World) : World → Prop where
  | connect {coreType : WsCoreType} {hookFirst : Bool} {opened w' : World}
      (opens : Opens w coreType 0 auth)
      (enters : step w (admission coreType 0 auth hookFirst true) =
        some opened)
      (completes : Completes w.threads.length opened w') : Happens auth w w'
  | disconnect {c : ConnID} {called w' : World}
      (enters : step w (.close c) = some called)
      (completes : Completes w.threads.length called w') : Happens auth w w'
  | expire {i : Nat} {r : Registration} {called w' : World}
      (reg : (w.nodes 0).hub.reg i = some r)
      (live : r.cancelled = false)
      (enters : run step w
        [.fireTimer 0 i, .lockTimer 0 i, .callTimer 0 i] = some called)
      (completes : Completes w.threads.length called w') : Happens auth w w'
  | plain (label : Label) {w' : World} (plain : Plain auth label)
      (enters : step w label = some w') : Happens auth w w'

/-- Every finite timeline from a state on. -/
abbrev Timeline (auth : WebsocketAuth) : World → World → Prop :=
  Relation.ReflTransGen (Happens auth)

/-- No timer that has not run `onExpired` yet ever does. -/
def ExpiryCancelled (auth : WebsocketAuth) (w : World) : Prop :=
  ∀ i r, (w.nodes 0).hub.reg i = some r → r.phase ≠ .expired →
    ∀ later, Timeline auth w later →
      ∀ r', (later.nodes 0).hub.reg i = some r' → r'.phase ≠ .expired

section Refinement

variable {auth : WebsocketAuth} {w w' : World}

/-- What holds between any two events of a timeline. -/
structure Settled (auth : WebsocketAuth) (w : World) : Prop where
  idle : ∀ (u : Nat) (thread : Thread), w.threads[u]? = some thread →
    thread.closing = none ∧ thread.todo = []
  running : (w.nodes 0).shuttingDown = false
  sound : (w.session auth).Sound auth
  listed : Listed auth w.conns (w.registered 0 auth)
  known : ∀ c, w.registered 0 auth = some c → ∃ conn, w.conn c = some conn

theorem settled_start (cutoff ttl : Int) (auth : WebsocketAuth) :
    Settled auth (start cutoff ttl) where
  idle := by
    intro u thread hthread
    cases hthread
  running := rfl
  sound := by
    refine ⟨⟨?_, ?_, ?_⟩, ?_, ?_⟩
    · intro i r hreg
      cases hreg
    · rintro i ⟨r, hreg, -⟩
      cases hreg
    · intro e he
      simp [World.session, start] at he
    · intro row hrow
      simp [World.session, World.row, start] at hrow
    · intro row hrow
      simp [World.session, World.row, start] at hrow
  listed := by
    intro c conn hconn
    cases hconn
  known := by
    intro c hregistered
    rw [registered_start] at hregistered
    cases hregistered

/-- The first state of a new thread. -/
theorem Settled.at (hsettled : Settled auth w) {thread : Thread}
    (next : World) (hthreads : next.threads = w.threads ++ [thread])
    (hrunning : (next.nodes 0).shuttingDown = (w.nodes 0).shuttingDown) :
    At auth w.threads.length (next.session auth) next.conns thread next where
  session := rfl
  conns := rfl
  running := hrunning.trans hsettled.running
  thread := by rw [hthreads, List.getElem?_concat_length]
  others := by
    intro u other hne hother
    rw [hthreads] at hother
    rcases getElem?_concat_cases hother with hold | ⟨hlast, -⟩
    · exact hsettled.idle u other hold
    · exact absurd hlast hne

/-- A step of the session that leaves its connections and its slot alone. -/
theorem Settled.keep (hsettled : Settled auth w)
    (hidle : ∀ (u : Nat) (thread : Thread), w'.threads[u]? = some thread →
      thread.closing = none ∧ thread.todo = [])
    (hrunning : (w'.nodes 0).shuttingDown = false)
    (hconns : w'.conns = w.conns)
    (hregistered : w'.registered 0 auth = w.registered 0 auth)
    (hstep : Session.Step auth (w.session auth) (w'.session auth)) :
    Settled auth w' where
  idle := hidle
  running := hrunning
  sound := hsettled.sound.step hstep
  listed := by
    rw [hconns, hregistered]
    exact hsettled.listed
  known := by
    intro c hc
    rw [World.conn, hconns]
    exact hsettled.known c (hregistered ▸ hc)

theorem endpoint_admits (coreType : WsCoreType) (hookFirst : Bool) (c : ConnID) :
    ∃ tail, (∀ act ∈ tail, act.harmless) ∧
      endpoint coreType hookFirst true c =
        { todo := (if hookFirst then [.hook true] else []) ++
            .closeDuplicate c :: .readRow c :: .addRow c ::
              .addConnection c :: tail
          onErr := (endpoint coreType hookFirst true c).onErr } := by
  cases coreType <;> cases hookFirst
  · exact ⟨[.getAll c, .hook true], by simp [Act.harmless], rfl⟩
  · exact ⟨[.getAll c], by simp [Act.harmless], rfl⟩
  · exact ⟨[.getAll c, .hook true, .serve c], by simp [Act.harmless], rfl⟩
  · exact ⟨[.getAll c, .serve c], by simp [Act.harmless], rfl⟩

theorem now_closeDuplicate_resume (s : Session) (auth : WebsocketAuth) :
    ((s.closeDuplicate auth).resume auth).now = s.now := by
  unfold Session.resume Session.closeDuplicate
  split <;> split <;> rfl

/-- An admitted connection takes the session through the new-connection
callback. -/
theorem connect_refines (hauthenticated : auth.isAnonymous = false)
    (hsettled : Settled auth w) {coreType : WsCoreType} {hookFirst : Bool}
    (hcompletes : Completes w.threads.length
      (openConn w { node := 0, auth, coreType }
        (endpoint coreType hookFirst true)) w') :
    w'.session auth =
        (w.session auth).newConnection auth w.conns.length ∧
      Settled auth w' := by
  have hat := hsettled.at (openConn w { node := 0, auth, coreType }
    (endpoint coreType hookFirst true)) rfl rfl
  obtain ⟨tail, hharmless, hthread⟩ :=
    endpoint_admits coreType hookFirst w.conns.length
  rw [hthread] at hat
  have hstart : Ahead auth w.threads.length (w.session auth)
      (w.conns ++ [{ node := 0, auth, coreType }]) _ w' := ⟨_, hat, hcompletes⟩
  have hasked : Ahead auth w.threads.length (w.session auth)
      (w.conns ++ [{ node := 0, auth, coreType }])
      { todo := .closeDuplicate w.conns.length :: .readRow w.conns.length ::
          .addRow w.conns.length :: .addConnection w.conns.length :: tail
        onErr := (endpoint coreType hookFirst true w.conns.length).onErr }
      w' := by
    cases hookFirst with
    | false => exact hstart
    | true =>
      refine hstart.perform rfl rfl ?_
      rintro v hsession -
      exact ⟨hsession, rfl⟩
  have hnew : (w.conns ++ [({ node := 0, auth, coreType } : Conn)])[
      w.conns.length]? = some { node := 0, auth, coreType } :=
    List.getElem?_concat_length
  have hfresh : (w.session auth).registered ≠ some w.conns.length := by
    intro hregistered
    obtain ⟨conn, hconn⟩ := hsettled.known _ hregistered
    exact (lt_of_conn hconn).ne rfl
  have hknown : ∀ d, (w.session auth).registered = some d → ∃ conn,
      (w.conns ++ [({ node := 0, auth, coreType } : Conn)])[d]? =
        some conn := by
    intro d hregistered
    obtain ⟨conn, hconn⟩ := hsettled.known d hregistered
    exact ⟨conn, (List.getElem?_append_left (lt_of_conn hconn)).trans hconn⟩
  obtain ⟨conns', hconn, hlisted, hclosed⟩ := hasked.closeDuplicate
    hauthenticated hnew rfl rfl rfl hfresh hknown (by
      intro d conn hne hd
      rcases getElem?_concat_cases hd with hold | ⟨hlast, -⟩
      · exact hsettled.listed d conn hold
      · exact absurd hlast hne)
  have hsound := hsettled.sound.closeDuplicate
  have hdone := ((hclosed.readRow hsound.1 hsound.2 hconn rfl rfl).claim
    hconn rfl rfl).done rfl hharmless
  have hsession : w'.session auth =
      (w.session auth).newConnection auth w.conns.length := by
    rw [hdone.session]
    simp only [Session.newConnection, now_closeDuplicate_resume]
  have hregistered : w'.registered 0 auth = some w.conns.length :=
    congrArg Session.registered hsession
  refine ⟨hsession, hdone.idle, hdone.running, ?_, ?_, ?_⟩
  · rw [hsession]
    exact hsettled.sound.newConnection _
  · rw [hdone.conns, hregistered]
    exact hlisted
  · intro c hc
    rw [hregistered] at hc
    cases hc
    exact ⟨_, conn_of_conns hdone.conns hconn⟩

/-- The close of an open connection takes the session through the close
callback; any other close changes nothing. -/
theorem disconnect_refines (hauthenticated : auth.isAnonymous = false)
    (hsettled : Settled auth w) {c : ConnID} {called : World}
    (henters : step w (.close c) = some called)
    (hcompletes : Completes w.threads.length called w') :
    Session.Step auth (w.session auth) (w'.session auth) ∧
      Settled auth w' := by
  simp only [step] at henters
  split at henters
  case isFalse => cases henters
  case isTrue hsome =>
    cases henters
    obtain ⟨conn, hconn⟩ := Option.isSome_iff_exists.mp hsome
    obtain ⟨hnode, hauth, hopen⟩ := hsettled.listed c conn hconn
    have hat := @Settled.at auth w hsettled { closing := some (c, .swap) }
      (w.spawn { closing := some (c, .swap) }) rfl rfl
    have hstart : Ahead auth w.threads.length (w.session auth) w.conns
        { closing := some (c, .swap) } w' := ⟨_, hat, hcompletes⟩
    cases hclosed : conn.closed with
    | true =>
      have hkept : Ahead auth w.threads.length (w.session auth) w.conns {}
          w' := by
        refine hstart.closing none rfl hconn ?_
        rintro v hsession hconns -
        simp only [closeStep, hclosed, ↓reduceIte]
        exact ⟨hsession, hconns, trivial⟩
      have hdone := hkept.done rfl fun act hact =>
        absurd hact List.not_mem_nil
      have hstep : Session.Step auth (w.session auth)
          (w'.session auth) := hdone.session ▸ .nothing
      exact ⟨hstep, hsettled.keep hdone.idle hdone.running hdone.conns
        (congrArg Session.registered hdone.session) hstep⟩
    | false =>
      have hregistered := hopen.mp hclosed
      have hlt := lt_of_conn hconn
      have hshut : (w.conns.set c { conn with closed := true })[c]? =
          some { conn with closed := true } := List.getElem?_set_self hlt
      have hswapped := hstart.swap hconn hclosed
      have hdone := (hswapped.callback hauthenticated hshut hnode
        hauth).done rfl fun act hact => absurd hact List.not_mem_nil
      have hnone : w'.registered 0 auth = none :=
        congrArg Session.registered hdone.session
      refine ⟨hdone.session ▸ .disconnect ?_, hdone.idle, hdone.running,
        hdone.session ▸ hsettled.sound.onClose, ?_, ?_⟩
      · exact fun h => Option.some_ne_none c (hregistered.symm.trans h)
      · rw [hdone.conns, hnone]
        intro d other hd
        by_cases hsame : d = c
        · subst hsame
          rw [hshut] at hd
          cases hd
          exact ⟨hnode, hauth, by simp⟩
        · rw [List.getElem?_set_ne (Ne.symm hsame)] at hd
          obtain ⟨hnode', hauth', hopen'⟩ := hsettled.listed d other hd
          refine ⟨hnode', hauth', ?_⟩
          rw [hopen', hregistered]
          simp [Ne.symm hsame]
      · intro d hd
        rw [hnone] at hd
        cases hd

theorem setHub_setHub (node : ContainerID) (hub hub' : Hub) :
    (w.setHub node hub).setHub node hub' = w.setHub node hub' := by
  simp [World.setHub, World.setNode]

theorem hub_setHub (node : ContainerID) (hub : Hub) :
    ((w.setHub node hub).nodes node).hub = hub := by
  simp [World.setHub, World.setNode]

/-- The three steps of a timer that runs out. -/
theorem run_expire (w : World) (i : Nat) :
    run step w [.fireTimer 0 i, .lockTimer 0 i, .callTimer 0 i] =
      ((w.nodes 0).hub.fire i w.now).bind fun fired =>
        (fired.lock i).bind fun locked =>
          (locked.reg i).bind fun r =>
            (locked.call i).map fun hub =>
              (w.setHub 0 hub).spawn (onExpired r) := by
  cases hfire : (w.nodes 0).hub.fire i w.now with
  | none => simp [run, step, hfire]
  | some fired =>
    cases hlock : fired.lock i with
    | none => simp [run, step, hfire, hlock, hub_setHub]
    | some locked =>
      cases hreg : locked.reg i with
      | none =>
        simp [run, step, hfire, hlock, hreg, hub_setHub, setHub_setHub]
      | some r =>
        cases hcall : locked.call i <;>
          simp [run, step, hfire, hlock, hreg, hcall, hub_setHub,
            setHub_setHub]

/-- The expiry of a timer takes the session's row away. -/
theorem expire_refines (hsettled : Settled auth w) {i : Nat}
    {r : Registration} {called : World}
    (hreg : (w.nodes 0).hub.reg i = some r) (hlive : r.cancelled = false)
    (henters : run step w
      [.fireTimer 0 i, .lockTimer 0 i, .callTimer 0 i] = some called)
    (hcompletes : Completes w.threads.length called w') :
    Session.Step auth (w.session auth) (w'.session auth) ∧
      Settled auth w' := by
  rw [run_expire] at henters
  obtain ⟨fired, hfire, henters⟩ := Option.bind_eq_some_iff.mp henters
  obtain ⟨locked, hlock, henters⟩ := Option.bind_eq_some_iff.mp henters
  obtain ⟨r', hr', henters⟩ := Option.bind_eq_some_iff.mp henters
  obtain ⟨hub, hcall, rfl⟩ := Option.map_eq_some_iff.mp henters
  have hexpire : (w.session auth).hub.expire i (w.session auth).now =
      some hub := by
    change ((w.nodes 0).hub.expire i w.now) = some hub
    simp only [Hub.expire, hfire, Option.bind_some, hlock, hcall]
  have harmed : (w.session auth).hub.Armed i := by
    obtain ⟨r₀, hr₀, hdue⟩ := Hub.expire_due hexpire
    obtain rfl : r = r₀ := Option.some.inj (hreg.symm.trans hr₀)
    exact ⟨r, hr₀, Hub.armed_of_due hdue hlive⟩
  have hids : (⟨r'.userID, r'.instanceID⟩ : WebsocketAuth) = auth := by
    obtain ⟨r₁, hr₁, -, rfl⟩ := Hub.moveTo_eq_some hcall
    have hown := (hsettled.sound.hub.expire harmed hexpire).own i
      { r' with phase := .expired }
      (by rw [Hub.reg_modifyReg, if_pos rfl, hr']; rfl)
    exact ConnectionMap.eq_iff_ids.mpr hown
  have hat := @Settled.at auth w hsettled (onExpired r')
    ((w.setHub 0 hub).spawn (onExpired r')) rfl
    (shuttingDown_setNode rfl)
  have hstart : Ahead auth w.threads.length { w.session auth with hub }
      w.conns (onExpired r') w' := by
    rw [← session_setHub]
    exact ⟨_, hat, hcompletes⟩
  rw [onExpired, hids] at hstart
  have hremoved : Ahead auth w.threads.length
      { w.session auth with hub, row := none } w.conns
      { todo := [.expireMessages auth] } w' := by
    refine hstart.perform rfl rfl ?_
    rintro v hsession -
    simp only [exec, ↓reduceIte, session_removeRow, hsession]
    exact ⟨trivial, rfl⟩
  have hdone := hremoved.done rfl (by simp [Act.harmless])
  have hstep : Session.Step auth (w.session auth) (w'.session auth) := by
    rw [hdone.session]
    exact .expire harmed hexpire
  exact ⟨hstep, hsettled.keep hdone.idle hdone.running hdone.conns
    (congrArg Session.registered hdone.session) hstep⟩

theorem session_heartbeat :
    ({ w with rows := w.rows.updateHeartBeat auth w.now } : World).session
      auth = { w.session auth with
        row := (w.session auth).row.map fun row =>
          { row with lastHeartbeat := w.now } } := by
  simp [World.session, World.row, World.registered,
    ActiveConnTable.updateHeartBeat, ActiveConnTable.lookup_modify]

theorem plain_refines (hsettled : Settled auth w) {label : Label}
    (hplain : Plain auth label) (henters : step w label = some w') :
    Session.Step auth (w.session auth) (w'.session auth) ∧
      Settled auth w' := by
  have hkept : Session.Step auth (w.session auth) (w'.session auth) →
      w'.threads = w.threads →
      (w'.nodes 0).shuttingDown = (w.nodes 0).shuttingDown →
      w'.conns = w.conns → w'.registered 0 auth = w.registered 0 auth →
      Session.Step auth (w.session auth) (w'.session auth) ∧
        Settled auth w' := by
    intro hstep hthreads hrunning hconns hregistered
    exact ⟨hstep, hsettled.keep (hthreads ▸ hsettled.idle)
      (hrunning.trans hsettled.running) hconns hregistered hstep⟩
  cases label <;> first | exact hplain.elim | skip
  case heartbeat other =>
    cases hplain
    cases henters
    refine hkept ?_ rfl rfl rfl rfl
    rw [session_heartbeat]
    exact .heartbeat
  case save row =>
    cases henters
    exact hkept .nothing rfl rfl rfl rfl
  case advance elapsed =>
    cases henters
    exact hkept (.advance elapsed) rfl rfl rfl rfl
  case startTimer node i =>
    cases hplain
    obtain ⟨hub, hstart, rfl⟩ := Option.map_eq_some_iff.mp henters
    refine hkept ?_ rfl (shuttingDown_setNode rfl) rfl
      (registered_setHub w 0 0 auth hub)
    rw [session_setHub]
    exact .start hstart
  case stopTimer node i =>
    cases hplain
    obtain ⟨hub, hstop, rfl⟩ := Option.map_eq_some_iff.mp henters
    refine hkept ?_ rfl (shuttingDown_setNode rfl) rfl
      (registered_setHub w 0 0 auth hub)
    rw [session_setHub]
    exact .stop hstop

/-- Every event refines one step of the session. -/
theorem happens_refines (hauthenticated : auth.isAnonymous = false)
    (hsettled : Settled auth w) (hhappens : Happens auth w w') :
    Session.Step auth (w.session auth) (w'.session auth) ∧
      Settled auth w' := by
  cases hhappens with
  | connect opens enters completes =>
    rw [step_admission _ _ opens] at enters
    cases enters
    obtain ⟨hsession, hafter⟩ :=
      connect_refines hauthenticated hsettled completes
    exact ⟨hsession ▸ .connect _, hafter⟩
  | disconnect enters completes =>
    exact disconnect_refines hauthenticated hsettled enters completes
  | expire reg live enters completes =>
    exact expire_refines hsettled reg live enters completes
  | plain label plain enters => exact plain_refines hsettled plain enters

end Refinement

section Reconnect

variable {auth : WebsocketAuth} {w w' : World} {i : Nat}

theorem settled_timeline (hauthenticated : auth.isAnonymous = false)
    (hsettled : Settled auth w) (htimeline : Timeline auth w w') :
    Settled auth w' := by
  induction htimeline with
  | refl => exact hsettled
  | tail _ hhappens ih =>
    exact (happens_refines hauthenticated ih hhappens).2

theorem spent_timeline (hauthenticated : auth.isAnonymous = false)
    (hsettled : Settled auth w) (hspent : (w.nodes 0).hub.Spent i)
    (htimeline : Timeline auth w w') : (w'.nodes 0).hub.Spent i := by
  induction htimeline with
  | refl => exact hspent
  | tail hbefore hhappens ih =>
    have hmiddle := settled_timeline hauthenticated hsettled hbefore
    obtain ⟨hstep, -⟩ := happens_refines hauthenticated hmiddle hhappens
    exact Session.spent_step hmiddle.sound ih hstep

theorem step_exec_act {t : Nat} {ok : Bool} {thread : Thread} {act : Act}
    {rest : List Act} (hthread : w.threads[t]? = some thread)
    (hidle : thread.closing = none) (htodo : thread.todo = act :: rest) :
    step w (.exec t ok) = some { (exec w act ok).world with
      threads := w.threads.set t (afterAct thread rest (exec w act ok)) } := by
  simp only [step, hthread, stepThread, hidle, htodo, Option.map_some,
    exec_threads]

theorem Completes.head {t : Nat} {next : World}
    (hstep : step w (.exec t true) = some next)
    (hcompletes : Completes t next w') : Completes t w w' := by
  obtain ⟨n, hrun, hreturned⟩ := hcompletes
  refine ⟨n + 1, ?_, hreturned⟩
  simp only [List.replicate_succ, run, hstep, hrun]

theorem completes_onExpired {t : Nat} {r : Registration}
    (hthread : w.threads[t]? = some (onExpired r)) :
    ∃ after, Completes t w after ∧ after.nodes = w.nodes := by
  have hlt := (List.getElem?_eq_some_iff.mp hthread).1
  have hfirst := @step_exec_act w t true _ _ _ hthread rfl rfl
  have hsecond := @step_exec_act
    { w.removeRow ⟨r.userID, r.instanceID⟩ with
      threads := w.threads.set t
        { todo := [.expireMessages ⟨r.userID, r.instanceID⟩] } } t true _ _ _
    (List.getElem?_set_self hlt) rfl rfl
  refine ⟨_, .head hfirst (.head hsecond ⟨0, rfl, {}, ?_, rfl, rfl, rfl⟩), rfl⟩
  exact List.getElem?_set_self (by rw [List.length_set]; exact hlt)

/-- A worker picks the task of an armed timer up, if none has yet. -/
theorem armed_waits (auth : WebsocketAuth)
    (harmed : (w.nodes 0).hub.Armed i) :
    ∃ started, Timeline auth w started ∧ ∃ r deadline,
      (started.nodes 0).hub.reg i = some r ∧ r.cancelled = false ∧
      r.phase = .waiting deadline := by
  obtain ⟨r, hreg, harmed⟩ := harmed
  simp only [Registration.armed, Bool.and_eq_true, Bool.not_eq_true',
    Bool.or_eq_true, decide_eq_true_eq] at harmed
  obtain ⟨hlive, hqueued | hwaiting⟩ := harmed
  · obtain ⟨hub, hstart, -, -, hregs⟩ := @Hub.moveTo_spec (w.nodes 0).hub i
      (fun r => r.phase = .queued) (.waiting (w.now + (w.nodes 0).hub.ttl))
      r hreg (decide_eq_true hqueued)
    have henters : step w (.startTimer 0 i) = some (w.setHub 0 hub) := by
      simp only [step, Hub.start, hstart, Option.map_some]
    refine ⟨w.setHub 0 hub, .single (.plain (.startTimer 0 i) rfl henters),
      { r with phase := .waiting (w.now + (w.nodes 0).hub.ttl) }, _, ?_,
      hlive, rfl⟩
    rw [hub_setHub, hregs, if_pos rfl, hreg]
    rfl
  · cases hphase : r.phase with
    | waiting deadline =>
      exact ⟨w, .refl, r, deadline, hreg, hlive, hphase⟩
    | _ => simp [Registration.isWaiting, hphase] at hwaiting

/-- A timer that is due and not cancelled runs out. -/
theorem due_expires (auth : WebsocketAuth) {r : Registration}
    (hreg : (w.nodes 0).hub.reg i = some r) (hlive : r.cancelled = false)
    (hdue : r.due w.now = true) :
    ∃ after, Happens auth w after ∧
      ∃ r', (after.nodes 0).hub.reg i = some r' ∧ r'.phase = .expired := by
  obtain ⟨next, hexpire, -, ⟨r', hreg', -, -, hexpired⟩, -, -⟩ :=
    Hub.expire_spec hreg hdue
  obtain ⟨fired, hfire, hexpire⟩ := Option.bind_eq_some_iff.mp hexpire
  obtain ⟨locked, hlock, hcall⟩ := Option.bind_eq_some_iff.mp hexpire
  obtain ⟨r₁, hreg₁, -⟩ := Hub.moveTo_eq_some hcall
  have henters := run_expire w i
  simp only [hfire, Option.bind_some, hlock, hreg₁, hcall,
    Option.map_some] at henters
  obtain ⟨after, hcompletes, hnodes⟩ := @completes_onExpired
    ((w.setHub 0 next).spawn (onExpired r₁)) w.threads.length r₁
    List.getElem?_concat_length
  refine ⟨after, .expire hreg hlive henters hcompletes, r', ?_, hexpired⟩
  rw [hnodes, ← hreg']
  exact congrArg (·.reg i) (hub_setHub 0 next)

/-- A timer that may expire does so on some timeline. -/
theorem armed_expires (auth : WebsocketAuth)
    (harmed : (w.nodes 0).hub.Armed i) :
    ∃ later, Timeline auth w later ∧
      ∃ r, (later.nodes 0).hub.reg i = some r ∧ r.phase = .expired := by
  obtain ⟨started, hstarted, r, deadline, hreg, hlive, hwaiting⟩ :=
    armed_waits auth harmed
  have hpassed : Happens auth started
      { started with now := started.now + (deadline - started.now).toNat } :=
    .plain (.advance (deadline - started.now).toNat) trivial rfl
  have hdue : r.due (started.now + (deadline - started.now).toNat) = true := by
    simp only [Registration.due, hwaiting, decide_eq_true_eq]
    omega
  obtain ⟨later, hexpires, hexpired⟩ := @due_expires
    { started with now := started.now + (deadline - started.now).toNat } i
    auth r hreg hlive hdue
  exact ⟨later, (hstarted.tail hpassed).tail hexpires, hexpired⟩

/-- A reconnect cancels the session's expiry exactly if it finds the row
visible, or had no timer and no duplicate to deal with. -/
theorem reconnect_cancels_iff (m : ActiveConnectionT)
    (hauthenticated : auth.isAnonymous = false)
    (htimeline : Timeline auth (start m.heartbeatCutoff m.hubTTL) w)
    {coreType : WsCoreType} {hookFirst : Bool} {opened : World}
    (hopens : Opens w coreType 0 auth)
    (henters : step w (admission coreType 0 auth hookFirst true) =
      some opened)
    (hcompletes : Completes w.threads.length opened w') :
    ExpiryCancelled auth w' ↔ (w.visibleRow auth).isSome = true ∨
      w.registered 0 auth = none ∧ ∀ i, ¬ (w.nodes 0).hub.Armed i := by
  have hsettled := settled_timeline hauthenticated
    (settled_start _ _ auth) htimeline
  rw [step_admission _ _ hopens] at henters
  cases henters
  obtain ⟨hsession, hafter⟩ :=
    connect_refines hauthenticated hsettled hcompletes
  have harmed : (∃ i, (w'.nodes 0).hub.Armed i) ↔
      (w.visibleRow auth).isSome = false ∧ (w.registered 0 auth ≠ none ∨
        ∃ i, (w.nodes 0).hub.Armed i) := by
    have hhub : (w'.nodes 0).hub = _ := congrArg Session.hub hsession
    rw [hhub]
    exact Session.armed_newConnection hsettled.sound w.conns.length
  have hcancelled : ExpiryCancelled auth w' ↔
      ¬ ∃ i, (w'.nodes 0).hub.Armed i := by
    constructor
    · rintro hnever ⟨i, hi⟩
      obtain ⟨later, hlater, r', hr', hexpired⟩ :=
        armed_expires auth hi
      obtain ⟨r, hr, harmed⟩ := hi
      refine hnever i r hr ?_ later hlater r' hr' hexpired
      intro hphase
      simp [Registration.armed, Registration.isWaiting, hphase] at harmed
    · intro hnone i r hr hphase later hlater r' hr'
      have hspent : (w'.nodes 0).hub.Spent i := by
        refine ⟨r, hr, ?_, hphase⟩
        rw [← Bool.not_eq_true]
        exact fun harmed => hnone ⟨i, r, hr, harmed⟩
      obtain ⟨r'', hr'', -, hphase'⟩ :=
        spent_timeline hauthenticated hafter hspent hlater
      rw [hr'] at hr''
      cases hr''
      exact hphase'
  rw [hcancelled, harmed, not_and_or, not_or, not_not, not_exists,
    Bool.not_eq_false]

/-- The default settings. -/
def oneMinute : ActiveConnectionT := ⟨60 * 10 ^ 9, 120 * 10 ^ 9, 0⟩

/-- A container that has accepted a WebSocket of the session. -/
def upgraded (w : World) : World :=
  openConn w { node := 0, auth := alice, coreType := .gobwas }
    (endpoint .gobwas true true)

/-- A session that has connected and, in the same moment, disconnected. -/
def departed : World :=
  final step ((final step
    (upgraded (start oneMinute.heartbeatCutoff oneMinute.hubTTL))
    (List.replicate 6 (.exec 0 true))).spawn { closing := some (0, .swap) })
    (List.replicate 5 (.exec 1 true))

/-- Its timer has run for some seconds. -/
def away (seconds : Nat) : World :=
  final step (final step departed [.startTimer 0 0])
    [.advance (seconds * 10 ^ 9)]

theorem timeline_away (seconds : Nat) : Timeline alice
    (start oneMinute.heartbeatCutoff oneMinute.hubTTL) (away seconds) := by
  have hopens : ∀ w, Opens w .gobwas 0 alice :=
    fun _ h => WsCoreType.noConfusion h
  refine .tail (.tail (.tail (.single
    (.connect (hopens _) (step_admission true true (hopens _))
      ⟨6, run_eq_final ?_, ?_⟩))
    (.disconnect (if_pos ?_) ⟨5, run_eq_final ?_, ?_⟩))
    (.plain (.startTimer 0 0) rfl (step_eq_final ?_)))
    (.plain (.advance (seconds * 10 ^ 9)) trivial (step_eq_final rfl))
  all_goals decide +kernel

/-- A new connection after some seconds, at the end of its callback. -/
def returned (seconds n : Nat) : World :=
  final step (upgraded (away seconds)) (List.replicate n (.exec 2 true))

/-- A session that comes back within the cutoff. -/
theorem reconnect_cancels_prompt :
    (returned 30 8).registered 0 alice = some 1 ∧
      ExpiryCancelled alice (returned 30 8) := by
  have hopens : Opens (away 30) .gobwas 0 alice :=
    fun h => WsCoreType.noConfusion h
  refine ⟨by decide +kernel, (reconnect_cancels_iff oneMinute rfl
    (timeline_away 30) hopens (step_admission true true hopens)
    ⟨8, run_eq_final ?_, ?_⟩).mpr (.inl ?_)⟩
  all_goals decide +kernel

/-- The session has come back after 70 seconds and been sent a message; then
the time of the old timer is over. -/
def overdue : World :=
  final step (final step (returned 70 6)
    [.save ⟨sessionKey alice, 1, [7], 300 * 10 ^ 9⟩])
    [.advance (50 * 10 ^ 9)]

/-- The old timer has run out. -/
def lapsed : World :=
  final step (final step overdue
    [.fireTimer 0 0, .lockTimer 0 0, .callTimer 0 0])
    (List.replicate 2 (.exec 3 true))

theorem timeline_lapsed : Timeline alice (returned 70 6) lapsed := by
  refine .tail (.tail (.single
    (.plain (.save ⟨sessionKey alice, 1, [7], 300 * 10 ^ 9⟩) trivial
      (step_eq_final rfl)))
    (.plain (.advance (50 * 10 ^ 9)) trivial (step_eq_final rfl)))
    (@Happens.expire alice overdue 0 _ _ _ (Option.eq_some_of_isSome ?_) ?_
      (run_eq_final ?_) ⟨2, run_eq_final ?_, ?_⟩)
  all_goals decide +kernel

/-- The row is past its cutoff and the timer is not: the reconnect leaves the
timer running, which then deletes the row and the pending messages of the
connected session. -/
theorem timer_outlives_reconnect :
    oneMinute.validate = none ∧
      Timeline alice (start oneMinute.heartbeatCutoff oneMinute.hubTTL)
        (away 70) ∧
      Happens alice (away 70) (returned 70 6) ∧
      Timeline alice (returned 70 6) lapsed ∧
      lapsed.registered 0 alice = some 1 ∧
      (lapsed.conn 1).map Conn.closed = some false ∧
      (overdue.row alice).map ActiveConnection.status = some .connected ∧
      lapsed.row alice = none ∧ overdue.pending ≠ [] ∧ lapsed.pending = [] ∧
      ¬ ExpiryCancelled alice (returned 70 6) := by
  have hopens : Opens (away 70) .gobwas 0 alice :=
    fun h => WsCoreType.noConfusion h
  refine ⟨by decide +kernel, timeline_away 70, .connect hopens
    (step_admission true true hopens) ⟨6, run_eq_final (by decide +kernel),
      by decide +kernel⟩, timeline_lapsed, by decide +kernel,
    by decide +kernel, by decide +kernel, by decide +kernel,
    by decide +kernel, by decide +kernel, ?_⟩
  intro hcancelled
  refine hcancelled 0 _ (Option.eq_some_of_isSome ?_) ?_ lapsed
    timeline_lapsed _ (Option.eq_some_of_isSome ?_) ?_
  all_goals decide +kernel

end Reconnect

end Cluster

end Pipewave
