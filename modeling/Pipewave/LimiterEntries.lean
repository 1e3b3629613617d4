/-
Rate limiter entries over the life of connections.  A registration makes a
session's entry and a close removes it, while workers handle frames that were
read before the close and look the limiter up; each access of the limiter is
one step.
-/
import Pipewave.ActiveConn
import Pipewave.Pool
import Pipewave.RateLimiter

namespace Pipewave

namespace LimiterEntries

open Transition
open RateLimiter (RateLimiterT Limiters)

/-- Where `onNew` is: before `rateLimiter.New`, behind it, or back. -/
inductive Registration where
  | pending
  | primed
  | done
deriving Repr, DecidableEq

/-- Where `Close` is: not called, past its compare-and-swap, behind
`rateLimiter.Remove`, or back. -/
inductive Closing where
  | notCalled
  | begun
  | removed
  | closed
deriving Repr, DecidableEq

/-- `Remove` has not run yet. -/
def Closing.ahead : Closing → Bool
  | .notCalled | .begun => true
  | .removed | .closed => false

structure Conn where
  auth : WebsocketAuth
  transport : WsCoreType
  registration : Registration := .pending
  closing : Closing := .notCalled
deriving Repr, DecidableEq

/-- Where `handleMessage` is: before `Get`, between the lookup and `New`, past
them, or back. -/
inductive Handling where
  | reading
  | missed
  | limited
  | done
deriving Repr, DecidableEq

structure Worker where
  auth : WebsocketAuth
  handling : Handling := .reading
deriving Repr, DecidableEq

structure State where
  limiter : Limiters := {}
  conns : List Conn := []
  workers : List Worker := []
deriving DecidableEq

inductive Label where
  /-- A connection is made and `onNew` begins. -/
  | connect (auth : WebsocketAuth) (transport : WsCoreType)
  | new (c : Nat)
  | registered (c : Nat)
  /-- `onNew` fails before it comes to `New`. -/
  | registerFailed (c : Nat)
  | close (c : Nat)
  | remove (c : Nat)
  | closed (c : Nat)
  /-- A frame of the connection, or a posted message, is there. -/
  | handle (c : Nat)
  | getLookup (w : Nat)
  | getNew (w : Nat)
  | finish (w : Nat)
deriving Repr, DecidableEq

namespace State

def modifyConn (s : State) (c : Nat) (change : Conn → Conn) : State :=
  { s with conns := s.conns.modify c change }

def setHandling (s : State) (w : Nat) (handling : Handling) : State :=
  { s with workers := s.workers.modify w fun worker =>
    { worker with handling } }

end State

def step (cfg : RateLimiterT) (s : State) : Label → Option State
  | .connect auth transport =>
    some { s with conns := s.conns ++ [{ auth, transport }] }
  | .new c =>
    match s.conns[c]? with
    | none => none
    | some conn =>
      if conn.registration ≠ .pending then none
      else some { s.modifyConn c fun conn =>
          { conn with registration := .primed } with
        limiter := (RateLimiter.new cfg s.limiter conn.auth).1 }
  | .registered c =>
    match s.conns[c]? with
    | none => none
    | some conn =>
      if conn.registration ≠ .primed then none
      else some (s.modifyConn c fun conn =>
        { conn with registration := .done })
  | .registerFailed c =>
    match s.conns[c]? with
    | none => none
    | some conn =>
      if conn.registration ≠ .pending then none
      else match conn.transport with
        -- The endpoint closes the connection.
        | .gobwas => some (s.modifyConn c fun conn =>
          { conn with registration := .done })
        -- Nobody knows the connection.
        | .longPolling => some (s.modifyConn c fun conn =>
          { conn with registration := .done, closing := .closed })
  | .close c =>
    match s.conns[c]? with
    | none => none
    | some conn =>
      if conn.closing ≠ .notCalled then none
      else some (s.modifyConn c fun conn =>
        { conn with closing := .begun })
  | .remove c =>
    match s.conns[c]? with
    | none => none
    | some conn =>
      if conn.closing ≠ .begun then none
      else some { s.modifyConn c fun conn =>
          { conn with closing := .removed } with
        limiter := RateLimiter.remove s.limiter conn.auth }
  | .closed c =>
    match s.conns[c]? with
    | none => none
    | some conn =>
      if conn.closing ≠ .removed then none
      else some (s.modifyConn c fun conn =>
        { conn with closing := .closed })
  | .handle c =>
    match s.conns[c]? with
    | none => none
    | some conn =>
      if conn.closing.ahead = false then none
      else some { s with workers := s.workers ++ [{ auth := conn.auth }] }
  | .getLookup w =>
    match s.workers[w]? with
    | none => none
    | some worker =>
      if worker.handling ≠ .reading then none
      else if (RateLimiter.lookup s.limiter worker.auth).isSome then
        some (s.setHandling w .limited)
      else some (s.setHandling w .missed)
  | .getNew w =>
    match s.workers[w]? with
    | none => none
    | some worker =>
      if worker.handling ≠ .missed then none
      else some { s.setHandling w .limited with
        limiter := (RateLimiter.new cfg s.limiter worker.auth).1 }
  | .finish w =>
    match s.workers[w]? with
    | none => none
    | some worker =>
      -- A frame that does not decode never comes to the limiter.
      if worker.handling = .reading ∨ worker.handling = .limited then
        some (s.setHandling w .done)
      else none

/-! ### Entries and who removes them -/

/-- The session's or the instance's own entry. -/
def HasEntry (r : Limiters) (auth : WebsocketAuth) : Prop :=
  if auth.isAnonymous then r.anonymousLimiter.lookup auth.instanceID ≠ none
  else r.userSessions.get auth.userID auth.instanceID ≠ none

instance (r : Limiters) (auth : WebsocketAuth) : Decidable (HasEntry r auth) :=
  inferInstanceAs (Decidable (ite _ _ _))

/-- Nothing of the session is open or in progress. -/
def Quiet (s : State) (auth : WebsocketAuth) : Prop :=
  (∀ conn ∈ s.conns, conn.auth = auth →
    conn.registration = .done ∧ conn.closing = .closed) ∧
  ∀ worker ∈ s.workers, worker.auth = auth → worker.handling = .done

instance (s : State) (auth : WebsocketAuth) : Decidable (Quiet s auth) :=
  inferInstanceAs (Decidable (_ ∧ _))

/-- A quiet session has no entry, and a user whose sessions are all quiet has
no limiter. -/
structure NoResidue (s : State) : Prop where
  session : ∀ auth, Quiet s auth → ¬ HasEntry s.limiter auth
  user : ∀ userID, userID ≠ [] → (∀ instanceID, Quiet s ⟨userID, instanceID⟩) →
    s.limiter.userLimiter.lookup userID = none

/-- The connection still comes to `Remove`.  A long polling connection that
fails to register never does. -/
def Conn.removesLater (conn : Conn) : Bool :=
  conn.closing.ahead &&
    (conn.registration ≠ .pending || conn.transport = .gobwas)

def Attended (s : State) (auth : WebsocketAuth) : Prop :=
  ∃ conn ∈ s.conns, conn.auth = auth ∧ conn.removesLater = true

instance (s : State) (auth : WebsocketAuth) : Decidable (Attended s auth) :=
  inferInstanceAs (Decidable (∃ conn ∈ s.conns, _))

/-- `New` runs for a session only while one of its connections has `Remove`
ahead: in a registration the connection at hand or another one. -/
def MakesAttended (s : State) : Label → Prop
  | .new c => ∀ conn ∈ s.conns[c]?, conn.closing.ahead = true ∨
      Attended s conn.auth
  | .getNew w => ∀ worker ∈ s.workers[w]?, Attended s worker.auth
  | _ => True

instance (s : State) : ∀ label, Decidable (MakesAttended s label)
  | .new c => inferInstanceAs (Decidable (∀ conn ∈ s.conns[c]?, _))
  | .getNew w => inferInstanceAs (Decidable (∀ worker ∈ s.workers[w]?, _))
  | .connect .. | .registered _ | .registerFailed _ | .close _ | .remove _ |
    .closed _ | .handle _ | .getLookup _ | .finish _ => .isTrue trivial

section Entries

variable {cfg : RateLimiterT} {r : Limiters} {auth other : WebsocketAuth}

/-- Two sessions are the same if they agree on all that an entry is found
by. -/
theorem eq_of_ids (huser : auth.userID = other.userID)
    (hinstance : auth.instanceID = other.instanceID) : auth = other := by
  cases auth
  cases other
  cases huser
  cases hinstance
  rfl

theorem hasEntry_new (hentry : HasEntry (RateLimiter.new cfg r other).1 auth) :
    auth = other ∨ HasEntry r auth := by
  unfold HasEntry at hentry ⊢
  split at hentry
  next hanon =>
    rw [if_pos hanon]
    by_cases helse : other.isAnonymous = false ∨
        auth.instanceID ≠ other.instanceID
    · rw [RateLimiter.sameElsewhere_new.anonymous _ helse] at hentry
      exact .inr hentry
    · rw [not_or, not_not, Bool.not_eq_false] at helse
      refine .inl (eq_of_ids ?_ helse.2)
      rw [WebsocketAuth.isAnonymous, decide_eq_true_eq] at hanon
      rw [hanon, of_decide_eq_true helse.1]
  next huser =>
    rw [if_neg huser]
    rw [RateLimiter.get_userSessions_new] at hentry
    split at hentry
    next hsame => exact .inl (eq_of_ids hsame.2.1 hsame.2.2)
    · exact .inr hentry

theorem hasEntry_remove (hentry : HasEntry (RateLimiter.remove r other) auth) :
    auth ≠ other ∧ HasEntry r auth := by
  unfold HasEntry at hentry ⊢
  split at hentry
  next hanon =>
    rw [if_pos hanon]
    have hne : auth ≠ other := by
      rintro rfl
      rw [RateLimiter.remove, if_pos hanon] at hentry
      exact hentry (AList.lookup_erase _ _)
    refine ⟨hne, ?_⟩
    have helse : other.isAnonymous = false ∨
        auth.instanceID ≠ other.instanceID := by
      by_contra hsame
      rw [not_or, not_not, Bool.not_eq_false] at hsame
      apply hne
      refine eq_of_ids ?_ hsame.2
      rw [WebsocketAuth.isAnonymous, decide_eq_true_eq] at hanon
      rw [hanon, of_decide_eq_true hsame.1]
    rwa [RateLimiter.sameElsewhere_remove.anonymous _ helse] at hentry
  next huser =>
    rw [if_neg huser]
    rw [RateLimiter.get_userSessions_remove] at hentry
    split at hentry
    · exact absurd rfl hentry
    next helse =>
      refine ⟨?_, hentry⟩
      rintro rfl
      exact helse ⟨Bool.not_eq_true _ ▸ huser, rfl, rfl⟩

end Entries

section Attendance

variable {s : State} {auth : WebsocketAuth}

/-- Changing a connection keeps a session attended, unless the connection was
the session's and comes to `Remove` no more. -/
theorem Attended.modifyConn (hattended : Attended s auth) {c : Nat}
    {change : Conn → Conn} (hauth : ∀ conn, (change conn).auth = conn.auth)
    (hlater : ∀ conn, s.conns[c]? = some conn → conn.auth = auth →
      conn.removesLater = true → (change conn).removesLater = true) :
    Attended (s.modifyConn c change) auth := by
  obtain ⟨conn, hmem, hconn, hremoves⟩ := hattended
  obtain ⟨i, hget⟩ := List.getElem?_of_mem hmem
  by_cases hsame : i = c
  · subst hsame
    refine ⟨change conn, List.mem_of_getElem? (i := i) ?_,
      (hauth conn).trans hconn, hlater conn hget hconn hremoves⟩
    rw [State.modifyConn, getElem?_modify_if, if_pos rfl, hget]
    rfl
  · refine ⟨conn, List.mem_of_getElem? (i := i) ?_, hconn, hremoves⟩
    rw [State.modifyConn, getElem?_modify_if, if_neg hsame, hget]

/-- The changed connection itself attends to its session. -/
theorem attended_modifyConn {c : Nat} {conn : Conn} {change : Conn → Conn}
    (hget : s.conns[c]? = some conn) (hauth : (change conn).auth = auth)
    (hlater : (change conn).removesLater = true) :
    Attended (s.modifyConn c change) auth := by
  refine ⟨change conn, List.mem_of_getElem? (i := c) ?_, hauth, hlater⟩
  rw [State.modifyConn, getElem?_modify_if, if_pos rfl, hget]
  rfl

end Attendance

/-- Every entry has a connection that will remove it. -/
structure Inv (s : State) : Prop where
  limiter : RateLimiter.Inv s.limiter
  attended : ∀ auth, HasEntry s.limiter auth → Attended s auth

section Steps

variable {cfg : RateLimiterT} {s next : State}

/-- A step that changes one connection and leaves the limiter alone. -/
theorem Inv.modifyConn (hinv : Inv s) {c : Nat} {conn : Conn}
    {change : Conn → Conn} (hget : s.conns[c]? = some conn)
    (hauth : ∀ conn, (change conn).auth = conn.auth)
    (hlater : conn.removesLater = true →
      (change conn).removesLater = true) :
    Inv (s.modifyConn c change) := by
  refine ⟨hinv.limiter, fun auth hentry => ?_⟩
  apply (hinv.attended auth hentry).modifyConn hauth
  intro conn' hget' _
  rw [hget] at hget'
  cases hget'
  exact hlater

theorem inv_new (hinv : Inv s) {c : Nat} (hguard : MakesAttended s (.new c))
    (hstep : step cfg s (.new c) = some next) : Inv next := by
  simp only [step] at hstep
  split at hstep
  · cases hstep
  next conn hget =>
    rw [Option.ite_none_left_eq_some] at hstep
    obtain ⟨-, hstep⟩ := hstep
    cases hstep
    refine ⟨RateLimiter.inv_new hinv.limiter, fun auth hentry => ?_⟩
    have hkept : ∀ {auth}, Attended s auth → Attended (s.modifyConn c
        fun conn => { conn with registration := .primed }) auth :=
      fun hattended =>
      hattended.modifyConn (fun _ => rfl) fun conn _ _ hremoves => by
        simp only [Conn.removesLater, Bool.and_eq_true] at hremoves ⊢
        exact ⟨hremoves.1, rfl⟩
    obtain rfl | hold := hasEntry_new hentry
    · obtain hahead | hattended := hguard conn hget
      · apply attended_modifyConn hget rfl
        simp [Conn.removesLater, hahead]
      · exact hkept hattended
    · exact hkept (hinv.attended auth hold)

theorem inv_getNew (hinv : Inv s) {w : Nat}
    (hguard : MakesAttended s (.getNew w))
    (hstep : step cfg s (.getNew w) = some next) : Inv next := by
  simp only [step] at hstep
  split at hstep
  · cases hstep
  next worker hget =>
    rw [Option.ite_none_left_eq_some] at hstep
    obtain ⟨-, hstep⟩ := hstep
    cases hstep
    refine ⟨RateLimiter.inv_new hinv.limiter, fun auth hentry => ?_⟩
    obtain rfl | hold := hasEntry_new hentry
    · exact hguard worker hget
    · exact hinv.attended auth hold

theorem inv_remove (hinv : Inv s) {c : Nat}
    (hstep : step cfg s (.remove c) = some next) : Inv next := by
  simp only [step] at hstep
  split at hstep
  · cases hstep
  next conn hget =>
    rw [Option.ite_none_left_eq_some] at hstep
    obtain ⟨-, hstep⟩ := hstep
    cases hstep
    refine ⟨RateLimiter.inv_remove hinv.limiter, fun auth hentry => ?_⟩
    obtain ⟨hne, hold⟩ := hasEntry_remove hentry
    have hkept : Attended (s.modifyConn c fun conn =>
        { conn with closing := .removed }) auth := by
      refine (hinv.attended auth hold).modifyConn (fun _ => rfl) ?_
      intro conn' hget' hauth
      rw [hget] at hget'
      cases hget'
      exact absurd hauth.symm hne
    exact hkept

/-- Steps of the workers other than `New` change their list only. -/
theorem inv_worker_step (hinv : Inv s) {label : Label}
    (hlabel : (∃ c, label = .handle c) ∨ (∃ w, label = .getLookup w) ∨
      ∃ w, label = .finish w)
    (hstep : step cfg s label = some next) : Inv next := by
  have hsame : next.limiter = s.limiter ∧ next.conns = s.conns := by
    obtain ⟨c, rfl⟩ | ⟨w, rfl⟩ | ⟨w, rfl⟩ := hlabel
    all_goals
      simp only [step] at hstep
      split at hstep
      · cases hstep
    · rw [Option.ite_none_left_eq_some] at hstep
      obtain ⟨-, hstep⟩ := hstep
      cases hstep
      exact ⟨rfl, rfl⟩
    · rw [Option.ite_none_left_eq_some] at hstep
      obtain ⟨-, hstep⟩ := hstep
      split at hstep <;> cases hstep <;> exact ⟨rfl, rfl⟩
    · rw [Option.ite_none_right_eq_some] at hstep
      obtain ⟨-, hstep⟩ := hstep
      cases hstep
      exact ⟨rfl, rfl⟩
  refine ⟨hsame.1 ▸ hinv.limiter, fun auth hentry => ?_⟩
  rw [hsame.1] at hentry
  unfold Attended
  rw [hsame.2]
  exact hinv.attended auth hentry

theorem inv_step (label : Label) (hinv : Inv s)
    (hguard : MakesAttended s label) (hstep : step cfg s label = some next) :
    Inv next := by
  cases label with
  | connect auth transport =>
    cases hstep
    refine ⟨hinv.limiter, fun auth hentry => ?_⟩
    obtain ⟨conn, hmem, hconn⟩ := hinv.attended auth hentry
    exact ⟨conn, List.mem_append_left _ hmem, hconn⟩
  | new c => exact inv_new hinv hguard hstep
  | getNew w => exact inv_getNew hinv hguard hstep
  | remove c => exact inv_remove hinv hstep
  | registered c =>
    simp only [step] at hstep
    split at hstep
    · cases hstep
    next conn hget =>
      rw [Option.ite_none_left_eq_some] at hstep
      obtain ⟨-, hstep⟩ := hstep
      cases hstep
      refine hinv.modifyConn hget (fun _ => rfl) ?_
      simp +contextual [Conn.removesLater]
  | registerFailed c =>
    simp only [step] at hstep
    split at hstep
    · cases hstep
    next conn hget =>
      rw [Option.ite_none_left_eq_some, not_not] at hstep
      obtain ⟨hpending, hstep⟩ := hstep
      split at hstep
      · cases hstep
        refine hinv.modifyConn hget (fun _ => rfl) ?_
        simp +contextual [Conn.removesLater]
      next hpolling =>
        cases hstep
        -- It was not going to remove anything.
        refine hinv.modifyConn hget (fun _ => rfl) ?_
        simp [Conn.removesLater, hpending, hpolling]
  | close c =>
    simp only [step] at hstep
    split at hstep
    · cases hstep
    next conn hget =>
      rw [Option.ite_none_left_eq_some] at hstep
      obtain ⟨-, hstep⟩ := hstep
      cases hstep
      refine hinv.modifyConn hget (fun _ => rfl) ?_
      simp +contextual [Conn.removesLater, Closing.ahead]
  | closed c =>
    simp only [step] at hstep
    split at hstep
    · cases hstep
    next conn hget =>
      rw [Option.ite_none_left_eq_some, not_not] at hstep
      obtain ⟨hremoved, hstep⟩ := hstep
      cases hstep
      refine hinv.modifyConn hget (fun _ => rfl) ?_
      simp [Conn.removesLater, hremoved, Closing.ahead]
  | handle c | getLookup w | finish w =>
    exact inv_worker_step hinv (by simp) hstep

/-- A quiet session has no connection that will remove anything. -/
theorem Quiet.not_attended {auth : WebsocketAuth} (hquiet : Quiet s auth) :
    ¬ Attended s auth := by
  rintro ⟨conn, hmem, hauth, hremoves⟩
  have hclosed := (hquiet.1 conn hmem hauth).2
  simp [Conn.removesLater, hclosed, Closing.ahead] at hremoves

theorem Inv.noResidue (hinv : Inv s) : NoResidue s := by
  have hsession : ∀ auth, Quiet s auth → ¬ HasEntry s.limiter auth :=
    fun auth hquiet hentry => hquiet.not_attended (hinv.attended auth hentry)
  refine ⟨hsession, fun userID huser hquiet => ?_⟩
  by_contra hlimiter
  rw [← ne_eq, hinv.limiter.paired] at hlimiter
  obtain ⟨sessions, hlookup⟩ := Option.ne_none_iff_exists'.mp hlimiter
  obtain ⟨instanceID, hmem⟩ := List.exists_mem_of_ne_nil _
    (hinv.limiter.noEmpty userID sessions hlookup)
  apply hsession ⟨userID, instanceID⟩ (hquiet instanceID)
  rw [HasEntry, if_neg (by simpa [WebsocketAuth.isAnonymous] using huser),
    NestedMap.get, hlookup, Option.bind_some]
  exact Option.isSome_iff_ne_none.mp (AList.lookup_isSome.mpr hmem)

end Steps

/-- As long as entries are made for attended sessions only, none outlives its
connections. -/
theorem noResidue_of_makesAttended {cfg : RateLimiterT} {s : State}
    (hreach : Reach (step cfg) MakesAttended {} s) :
    NoResidue s := by
  have hinv : Inv s := Reach.invariant Inv
    ⟨RateLimiter.inv_empty, fun auth hentry => by
      simp [HasEntry, NestedMap.get] at hentry⟩
    (fun _ label _ hinv hguard hstep => inv_step label hinv hguard hstep)
    hreach
  exact hinv.noResidue

/-- A websocket connection that has registered and one frame of it. -/
def openWithFrame : List Label :=
  [.connect RateLimiter.firstTab .gobwas, .new 0, .registered 0, .handle 0]

def closes : List Label := [.close 0, .remove 0, .closed 0]

theorem noResidue_handledFirst :
    let s := final (step RateLimiter.defaultConfig) {}
      (openWithFrame ++ [.getLookup 0, .finish 0] ++ closes)
    Quiet s RateLimiter.firstTab ∧ NoResidue s :=
  ⟨by decide +kernel, noResidue_of_makesAttended
    (reach_final (by decide +kernel) (by decide +kernel))⟩

/-- The worker looks the limiter up behind the close. -/
def handledLast : List Label :=
  openWithFrame ++ closes ++ [.getLookup 0, .getNew 0, .finish 0]

theorem handledLast_residue :
    let s := final (step RateLimiter.defaultConfig) {} handledLast
    Reach (step RateLimiter.defaultConfig) Unguarded {} s ∧
      Quiet s RateLimiter.firstTab ∧
      HasEntry s.limiter RateLimiter.firstTab ∧
      s.limiter.userLimiter.lookup RateLimiter.firstTab.userID ≠ none ∧
      ¬ NoResidue s := by
  have hquiet : Quiet (final (step RateLimiter.defaultConfig) {}
      handledLast) RateLimiter.firstTab := by decide +kernel
  have hentry : HasEntry (final (step RateLimiter.defaultConfig) {}
      handledLast).limiter RateLimiter.firstTab := by decide +kernel
  refine ⟨reach_final (by decide +kernel) (by decide +kernel),
    hquiet, hentry, by decide +kernel, fun hresidue => ?_⟩
  exact hresidue.session _ hquiet hentry

end LimiterEntries

end Pipewave
