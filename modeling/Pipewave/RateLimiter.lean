/-
The message rate limiters of a container.  All sessions of a user share one
limiter, which lives as long as the user has a session; every anonymous
instance has its own.  `Get` looks a limiter up and, if it finds none, goes on
to `New` in a second step.
-/
import Pipewave.Auth
import Pipewave.GoMap
import Pipewave.Transition

namespace Pipewave

namespace RateLimiter

open Transition

structure RateLimiterT where
  userRate : Int
  userBurst : Int
  anonymousRate : Int
  anonymousBurst : Int
  controlFrameRate : Int
  controlFrameBurst : Int
  issueTokenIPRate : Int
  issueTokenIPBurst : Int
deriving Repr, DecidableEq

/-- One pair of checks of `validate`; an error is a panic with its text. -/
def checkPair (name : String) (rate burst : Int) : Except String Unit :=
  if rate ≤ 0 then
    .error ("rate limiter " ++ name ++ " rate must be greater than 0")
  else if burst < rate then
    .error ("rate limiter " ++ name ++
      " burst must be greater than or equal to " ++ name ++ " rate")
  else .ok ()

def RateLimiterT.validate (r : RateLimiterT) : Except String Unit := do
  checkPair "user" r.userRate r.userBurst
  checkPair "anonymous" r.anonymousRate r.anonymousBurst
  checkPair "control frame" r.controlFrameRate r.controlFrameBurst
  checkPair "issue-token IP" r.issueTokenIPRate r.issueTokenIPBurst

/-- A limiter object, known by the number of those made before it. -/
abbrev LimiterID := Nat

/-- The arguments of `rate.NewLimiter`. -/
structure Limiter where
  rate : Int
  burst : Int
deriving Repr, DecidableEq

/-- `made` are the limiters made so far. -/
structure Limiters where
  userLimiter : GoMap Bytes LimiterID := ∅
  userSessions : NestedMap Bytes Bytes Unit := ∅
  anonymousLimiter : GoMap Bytes LimiterID := ∅
  made : List Limiter := []
deriving DecidableEq

/-- The user's limiter, made if there is none. -/
def limiterOf (cfg : RateLimiterT) (r : Limiters) (userID : Bytes) :
    Limiters × LimiterID :=
  match r.userLimiter.lookup userID with
  | some lim => (r, lim)
  | none =>
    ({ r with
      made := r.made ++ [⟨cfg.userRate, cfg.userBurst⟩]
      userLimiter := r.userLimiter.insert userID r.made.length },
      r.made.length)

/-- `New`. -/
def new (cfg : RateLimiterT) (r : Limiters) (auth : WebsocketAuth) :
    Limiters × LimiterID :=
  if auth.isAnonymous then
    match r.anonymousLimiter.lookup auth.instanceID with
    | some lim => (r, lim)
    | none =>
      ({ r with
        made := r.made ++ [⟨cfg.anonymousRate, cfg.anonymousBurst⟩]
        anonymousLimiter :=
          r.anonymousLimiter.insert auth.instanceID r.made.length },
        r.made.length)
  else
    let (r, lim) := limiterOf cfg r auth.userID
    ({ r with
      userSessions := r.userSessions.set auth.userID auth.instanceID () }, lim)

def remove (r : Limiters) (auth : WebsocketAuth) : Limiters :=
  if auth.isAnonymous then
    { r with anonymousLimiter := r.anonymousLimiter.erase auth.instanceID }
  else
    match r.userSessions.lookup auth.userID with
    | none => r
    | some sessions =>
      if (sessions.erase auth.instanceID).keys = [] then
        { r with
          userSessions := r.userSessions.erase auth.userID
          userLimiter := r.userLimiter.erase auth.userID }
      else
        { r with
          userSessions := r.userSessions.insert auth.userID
            (sessions.erase auth.instanceID) }

def lookup (r : Limiters) (auth : WebsocketAuth) : Option LimiterID :=
  if auth.isAnonymous then r.anonymousLimiter.lookup auth.instanceID
  else r.userLimiter.lookup auth.userID

/-- `missed` are the `Get` calls between a lookup without a result and `New`;
`returned` are the limiters handed out so far, which no step reads. -/
structure State where
  limiter : Limiters := {}
  missed : List WebsocketAuth := []
  returned : List LimiterID := []
deriving DecidableEq

inductive Label where
  | new (auth : WebsocketAuth)
  | remove (auth : WebsocketAuth)
  | getLookup (auth : WebsocketAuth)
  | getNew (auth : WebsocketAuth)
deriving Repr, DecidableEq

def Label.auth : Label → WebsocketAuth
  | .new auth | .remove auth | .getLookup auth | .getNew auth => auth

/-- The limiter an operation returns with its step. -/
def answer (cfg : RateLimiterT) (s : State) : Label → Option LimiterID
  | .new auth => some (new cfg s.limiter auth).2
  | .remove _ => none
  | .getLookup auth => lookup s.limiter auth
  | .getNew auth =>
    if auth ∈ s.missed then some (new cfg s.limiter auth).2 else none

def step (cfg : RateLimiterT) (s : State) (label : Label) : Option State :=
  let returned := (answer cfg s label).toList ++ s.returned
  match label with
  | .new auth =>
    some { s with limiter := (new cfg s.limiter auth).1, returned }
  | .remove auth => some { s with limiter := remove s.limiter auth }
  | .getLookup auth =>
    if (lookup s.limiter auth).isSome then some { s with returned }
    else some { s with missed := auth :: s.missed }
  | .getNew auth =>
    if auth ∈ s.missed then
      some ⟨(new cfg s.limiter auth).1, s.missed.erase auth, returned⟩
    else none

/-! ### One operation -/

/-- A user's session set is there and not empty. -/
def HasSessions (r : Limiters) (userID : Bytes) : Prop :=
  ∃ sessions, r.userSessions.lookup userID = some sessions ∧
    sessions.keys ≠ []

/-- The entries of all users and instances but one. -/
structure SameElsewhere (auth : WebsocketAuth) (r r' : Limiters) : Prop
    where
  user : ∀ userID, auth.isAnonymous = true ∨ userID ≠ auth.userID →
    r'.userLimiter.lookup userID = r.userLimiter.lookup userID ∧
      r'.userSessions.lookup userID = r.userSessions.lookup userID
  anonymous : ∀ instanceID,
    auth.isAnonymous = false ∨ instanceID ≠ auth.instanceID →
      r'.anonymousLimiter.lookup instanceID =
        r.anonymousLimiter.lookup instanceID

/-- A user has a limiter as long as it has a session, and no session set is
empty; no limiter is known before it is made. -/
structure Inv (r : Limiters) : Prop where
  paired : ∀ userID, r.userLimiter.lookup userID ≠ none ↔
    r.userSessions.lookup userID ≠ none
  noEmpty : NestedMap.NoEmptyInner r.userSessions
  userMade : ∀ userID lim, r.userLimiter.lookup userID = some lim →
    lim < r.made.length
  anonymousMade : ∀ instanceID lim,
    r.anonymousLimiter.lookup instanceID = some lim → lim < r.made.length

theorem inv_empty : Inv {} where
  paired := by simp
  noEmpty := NestedMap.noEmptyInner_empty
  userMade := by simp
  anonymousMade := by simp

section Operations

variable {cfg : RateLimiterT} {r : Limiters} {auth : WebsocketAuth}

theorem SameElsewhere.refl (auth : WebsocketAuth) (r : Limiters) :
    SameElsewhere auth r r :=
  ⟨fun _ _ => ⟨rfl, rfl⟩, fun _ _ => rfl⟩

theorem Inv.hasSessions_iff (hinv : Inv r) (userID : Bytes) :
    HasSessions r userID ↔ r.userSessions.lookup userID ≠ none := by
  constructor
  · rintro ⟨sessions, hlookup, -⟩
    rw [hlookup]
    exact Option.some_ne_none sessions
  · intro hsome
    obtain ⟨sessions, hlookup⟩ := Option.ne_none_iff_exists'.mp hsome
    exact ⟨sessions, hlookup, hinv.noEmpty userID sessions hlookup⟩

theorem lookup_limiterOf (userID other : Bytes) :
    (limiterOf cfg r userID).1.userLimiter.lookup other =
      if other = userID then some (limiterOf cfg r userID).2
      else r.userLimiter.lookup other := by
  unfold limiterOf
  split
  next lim hlookup =>
    split
    next hsame => rw [hsame, hlookup]
    · rfl
  next hlookup =>
    split
    next hsame => rw [hsame, AList.lookup_insert]
    next hother => rw [AList.lookup_insert_ne hother]

theorem limiterOf_frame (userID : Bytes) :
    (limiterOf cfg r userID).1.userSessions = r.userSessions ∧
      (limiterOf cfg r userID).1.anonymousLimiter = r.anonymousLimiter ∧
      r.made.length ≤ (limiterOf cfg r userID).1.made.length := by
  unfold limiterOf
  split
  · exact ⟨rfl, rfl, Nat.le_refl _⟩
  · refine ⟨rfl, rfl, ?_⟩
    rw [List.length_append]
    exact Nat.le_add_right _ _

theorem snd_limiterOf_lt (hinv : Inv r) (userID : Bytes) :
    (limiterOf cfg r userID).2 < (limiterOf cfg r userID).1.made.length := by
  unfold limiterOf
  split
  next lim hlookup => exact hinv.userMade userID lim hlookup
  · rw [List.length_append]
    exact Nat.lt_succ_self _

/-- `New` for a user: the user's limiter and one more session. -/
theorem new_user (huser : auth.isAnonymous = false) :
    new cfg r auth =
      ({ (limiterOf cfg r auth.userID).1 with
        userSessions :=
          r.userSessions.set auth.userID auth.instanceID () },
        (limiterOf cfg r auth.userID).2) := by
  rw [new, huser, ← (limiterOf_frame auth.userID).1]
  rfl

theorem made_le_new :
    r.made.length ≤ (new cfg r auth).1.made.length := by
  cases hanon : auth.isAnonymous with
  | false =>
    rw [new_user hanon]
    exact (limiterOf_frame auth.userID).2.2
  | true =>
    rw [new, hanon, if_pos rfl]
    split
    · exact Nat.le_refl _
    · rw [List.length_append]
      exact Nat.le_add_right _ _

theorem snd_new_lt (hinv : Inv r) :
    (new cfg r auth).2 < (new cfg r auth).1.made.length := by
  cases hanon : auth.isAnonymous with
  | false =>
    rw [new_user hanon]
    exact snd_limiterOf_lt hinv auth.userID
  | true =>
    rw [new, hanon, if_pos rfl]
    split
    next lim hlookup => exact hinv.anonymousMade auth.instanceID lim hlookup
    · rw [List.length_append]
      exact Nat.lt_succ_self _

theorem sameElsewhere_new : SameElsewhere auth r (new cfg r auth).1 := by
  cases hanon : auth.isAnonymous with
  | false =>
    rw [new_user hanon]
    refine ⟨fun userID hother => ?_, fun _ _ => ?_⟩
    · have hne : userID ≠ auth.userID := by simpa [hanon] using hother
      dsimp only
      rw [lookup_limiterOf, if_neg hne, NestedMap.set,
        AList.lookup_insert_ne hne]
      exact ⟨rfl, rfl⟩
    · dsimp only
      rw [(limiterOf_frame auth.userID).2.1]
  | true =>
    rw [new, hanon, if_pos rfl]
    split
    · exact .refl auth r
    · refine ⟨fun _ _ => ⟨rfl, rfl⟩, fun instanceID hother => ?_⟩
      have hne : instanceID ≠ auth.instanceID := by
        simpa [hanon] using hother
      exact AList.lookup_insert_ne hne

theorem sameElsewhere_remove : SameElsewhere auth r (remove r auth) := by
  cases hanon : auth.isAnonymous with
  | false =>
    rw [remove, hanon, if_neg Bool.false_ne_true]
    have hne : ∀ userID, auth.isAnonymous = true ∨ userID ≠ auth.userID →
        userID ≠ auth.userID := by simp [hanon]
    split
    · exact .refl auth r
    · split
      · refine ⟨fun userID hother => ⟨?_, ?_⟩, fun _ _ => rfl⟩
        · exact AList.lookup_erase_ne (hne userID hother)
        · exact AList.lookup_erase_ne (hne userID hother)
      · refine ⟨fun userID hother => ⟨rfl, ?_⟩, fun _ _ => rfl⟩
        exact AList.lookup_insert_ne (hne userID hother)
  | true =>
    rw [remove, hanon, if_pos rfl]
    refine ⟨fun _ _ => ⟨rfl, rfl⟩, fun instanceID hother => ?_⟩
    have hne : instanceID ≠ auth.instanceID := by simpa [hanon] using hother
    exact AList.lookup_erase_ne hne

theorem get_userSessions_new (userID instanceID : Bytes) :
    (new cfg r auth).1.userSessions.get userID instanceID =
      if auth.isAnonymous = false ∧ userID = auth.userID ∧
          instanceID = auth.instanceID then some ()
      else r.userSessions.get userID instanceID := by
  cases hanon : auth.isAnonymous with
  | false =>
    rw [new_user hanon]
    dsimp only
    rw [NestedMap.get_set]
    simp only [true_and]
  | true =>
    rw [new, hanon, if_pos rfl]
    split <;> simp

/-- `Remove` for a user deletes the session from the two-level map. -/
theorem userSessions_remove (huser : auth.isAnonymous = false) :
    (remove r auth).userSessions =
      r.userSessions.delete auth.userID auth.instanceID := by
  cases hlookup : r.userSessions.lookup auth.userID with
  | none =>
    simp only [remove, huser, Bool.false_eq_true, if_false, hlookup,
      NestedMap.delete]
  | some sessions =>
    simp only [remove, huser, Bool.false_eq_true, if_false, hlookup,
      NestedMap.delete]
    split <;> rfl

theorem get_userSessions_remove (userID instanceID : Bytes) :
    (remove r auth).userSessions.get userID instanceID =
      if auth.isAnonymous = false ∧ userID = auth.userID ∧
          instanceID = auth.instanceID then none
      else r.userSessions.get userID instanceID := by
  cases hanon : auth.isAnonymous with
  | false =>
    rw [userSessions_remove hanon, NestedMap.get_delete]
    simp only [true_and]
  | true =>
    rw [remove, hanon, if_pos rfl]
    simp

/-- Behind `New` the user has the limiter it returned. -/
theorem lookup_new (huser : auth.isAnonymous = false) :
    (new cfg r auth).1.userLimiter.lookup auth.userID =
      some (new cfg r auth).2 := by
  rw [new_user huser]
  dsimp only
  rw [lookup_limiterOf, if_pos rfl]

/-- `New` leaves every limiter where it is. -/
theorem lookup_new_of_some {userID : Bytes} {lim : LimiterID}
    (hlookup : r.userLimiter.lookup userID = some lim) :
    (new cfg r auth).1.userLimiter.lookup userID = some lim := by
  by_cases hother : auth.isAnonymous = true ∨ userID ≠ auth.userID
  · rw [(sameElsewhere_new.user userID hother).1, hlookup]
  · rw [not_or, not_not, Bool.not_eq_true] at hother
    obtain ⟨huser, rfl⟩ := hother
    rw [lookup_new huser, new_user huser, limiterOf, hlookup]

/-- Without one it makes a limiter. -/
theorem snd_new_of_none (huser : auth.isAnonymous = false)
    (hlookup : r.userLimiter.lookup auth.userID = none) :
    (new cfg r auth).2 = r.made.length := by
  rw [new_user huser, limiterOf, hlookup]

theorem inv_new (hinv : Inv r) : Inv (new cfg r auth).1 := by
  have hle : r.made.length ≤ (new cfg r auth).1.made.length := made_le_new
  have hlt : (new cfg r auth).2 < (new cfg r auth).1.made.length :=
    snd_new_lt hinv
  cases hanon : auth.isAnonymous with
  | false =>
    rw [new_user hanon] at hle hlt ⊢
    dsimp only at hle hlt
    refine ⟨fun userID => ?_, hinv.noEmpty.set _ _ _,
      fun userID lim => ?_, fun instanceID lim => ?_⟩
    · dsimp only
      rw [lookup_limiterOf, NestedMap.set]
      by_cases hsame : userID = auth.userID
      · rw [if_pos hsame, hsame, AList.lookup_insert]
        simp
      · rw [if_neg hsame, AList.lookup_insert_ne hsame]
        exact hinv.paired userID
    · dsimp only
      rw [lookup_limiterOf]
      split
      · rintro ⟨⟩
        exact hlt
      · intro hlookup
        exact Nat.lt_of_lt_of_le (hinv.userMade userID lim hlookup) hle
    · dsimp only
      rw [(limiterOf_frame auth.userID).2.1]
      intro hlookup
      exact Nat.lt_of_lt_of_le
        (hinv.anonymousMade instanceID lim hlookup) hle
  | true =>
    cases hlookup : r.anonymousLimiter.lookup auth.instanceID with
    | some lim =>
      simp only [new, hanon, if_true, hlookup]
      exact hinv
    | none =>
      simp only [new, hanon, if_true, hlookup] at hle hlt ⊢
      refine { hinv with
        userMade := fun userID lim hlim =>
          Nat.lt_of_lt_of_le (hinv.userMade userID lim hlim) hle
        anonymousMade := fun instanceID lim hlim => ?_ }
      obtain ⟨-, rfl⟩ | ⟨-, hold⟩ := GoMap.lookup_insert_some hlim
      · exact hlt
      · exact Nat.lt_of_lt_of_le
          (hinv.anonymousMade instanceID lim hold) hle

theorem made_remove : (remove r auth).made = r.made := by
  unfold remove
  split
  · rfl
  · split
    · rfl
    · split <;> rfl

/-- A user that still has a session keeps its limiter. -/
theorem lookup_remove {userID : Bytes}
    (hsessions : HasSessions (remove r auth) userID) :
    (remove r auth).userLimiter.lookup userID =
      r.userLimiter.lookup userID := by
  by_cases hother : auth.isAnonymous = true ∨ userID ≠ auth.userID
  · exact (sameElsewhere_remove.user userID hother).1
  · rw [not_or, not_not, Bool.not_eq_true] at hother
    obtain ⟨huser, rfl⟩ := hother
    rw [remove, huser, if_neg Bool.false_ne_true] at hsessions ⊢
    split
    · rfl
    next sessions hlookup =>
      rw [hlookup] at hsessions
      split
      next hlast =>
        obtain ⟨left, hleft, -⟩ := hsessions
        dsimp only at hleft
        rw [if_pos hlast, AList.lookup_erase] at hleft
        cases hleft
      · rfl

/-- The last session goes with the session set. -/
theorem not_hasSessions_remove (huser : auth.isAnonymous = false)
    (hlast : ∀ instanceID,
      r.userSessions.get auth.userID instanceID ≠ none →
        instanceID = auth.instanceID) :
    ¬ HasSessions (remove r auth) auth.userID := by
  rw [remove, huser, if_neg Bool.false_ne_true]
  rintro ⟨left, hleft, -⟩
  split at hleft
  next hnone =>
    rw [hnone] at hleft
    cases hleft
  next sessions hlookup =>
    split at hleft
    · rw [AList.lookup_erase] at hleft
      cases hleft
    next hfilled =>
      obtain ⟨instanceID, hmem⟩ := List.exists_mem_of_ne_nil _ hfilled
      rw [← AList.mem_keys, AList.mem_erase] at hmem
      apply hmem.1
      apply hlast
      rw [NestedMap.get, hlookup, Option.bind_some]
      exact Option.isSome_iff_ne_none.mp (AList.lookup_isSome.mpr hmem.2)

theorem inv_remove (hinv : Inv r) : Inv (remove r auth) := by
  unfold remove
  split
  · refine { hinv with anonymousMade := fun instanceID lim hlim => ?_ }
    exact hinv.anonymousMade instanceID lim (GoMap.lookup_erase_some hlim).2
  · split
    · exact hinv
    next sessions hlookup =>
      split
      next hlast =>
        refine ⟨fun userID => ?_, ?_, fun userID lim hlim => ?_,
          hinv.anonymousMade⟩
        · by_cases hsame : userID = auth.userID
          · rw [hsame, AList.lookup_erase, AList.lookup_erase]
            simp
          · rw [AList.lookup_erase_ne hsame, AList.lookup_erase_ne hsame]
            exact hinv.paired userID
        · have hdelete := hinv.noEmpty.delete auth.userID auth.instanceID
          simpa only [NestedMap.delete, hlookup, if_pos hlast] using hdelete
        · exact hinv.userMade userID lim (GoMap.lookup_erase_some hlim).2
      next hleft =>
        refine { hinv with
          paired := fun userID => ?_, noEmpty := hinv.noEmpty.insert hleft }
        by_cases hsame : userID = auth.userID
        · rw [hsame, AList.lookup_insert, hinv.paired, hlookup]
          simp
        · rw [AList.lookup_insert_ne hsame]
          exact hinv.paired userID

end Operations

/-! ### Runs -/

/-- The limiters in use and those handed out were made. -/
structure Made (s : State) : Prop where
  inv : Inv s.limiter
  returned : ∀ lim ∈ s.returned, lim < s.limiter.made.length

section Runs

variable {cfg : RateLimiterT} {s next : State}

variable {label : Label} {lim got : LimiterID}

/-- The limiters behind a step. -/
theorem limiter_step (hstep : step cfg s label = some next) :
    next.limiter = match label with
      | .new auth | .getNew auth => (new cfg s.limiter auth).1
      | .remove auth => remove s.limiter auth
      | .getLookup _ => s.limiter := by
  cases label with
  | new auth | remove auth =>
    cases hstep
    rfl
  | getLookup auth =>
    simp only [step] at hstep
    split at hstep
    · cases hstep
      rfl
    · cases hstep
      rfl
  | getNew auth =>
    simp only [step] at hstep
    split at hstep
    · cases hstep
      rfl
    · cases hstep

theorem returned_step (hstep : step cfg s label = some next) :
    next.returned = (answer cfg s label).toList ++ s.returned := by
  cases label with
  | new auth | remove auth =>
    cases hstep
    rfl
  | getLookup auth =>
    simp only [step] at hstep
    split at hstep
    · cases hstep
      rfl
    next hnone =>
      cases hstep
      rw [answer, Option.not_isSome_iff_eq_none.mp hnone]
      rfl
  | getNew auth =>
    simp only [step] at hstep
    split at hstep
    · cases hstep
      rfl
    · cases hstep

theorem inv_limiter_step (hinv : Inv s.limiter)
    (hstep : step cfg s label = some next) : Inv next.limiter := by
  rw [limiter_step hstep]
  cases label with
  | new auth | getNew auth => exact inv_new hinv
  | remove auth => exact inv_remove hinv
  | getLookup auth => exact hinv

theorem made_step (hmade : Made s) (hstep : step cfg s label = some next) :
    Made next := by
  have hbelow : ∀ lim, answer cfg s label = some lim →
      lim < next.limiter.made.length := by
    intro lim hanswer
    rw [limiter_step hstep]
    cases label with
    | new auth =>
      cases hanswer
      exact snd_new_lt hmade.inv
    | remove auth => cases hanswer
    | getLookup auth =>
      rw [answer, lookup] at hanswer
      split at hanswer
      · exact hmade.inv.anonymousMade _ _ hanswer
      · exact hmade.inv.userMade _ _ hanswer
    | getNew auth =>
      rw [answer, Option.ite_none_right_eq_some] at hanswer
      obtain ⟨-, hanswer⟩ := hanswer
      cases hanswer
      exact snd_new_lt hmade.inv
  have hgrows : s.limiter.made.length ≤ next.limiter.made.length := by
    rw [limiter_step hstep]
    cases label with
    | new auth | getNew auth => exact made_le_new
    | remove auth => exact Nat.le_of_eq (congrArg List.length made_remove.symm)
    | getLookup auth => exact Nat.le_refl _
  refine ⟨inv_limiter_step hmade.inv hstep, fun lim hlim => ?_⟩
  rw [returned_step hstep, List.mem_append, Option.mem_toList] at hlim
  obtain hlim | hlim := hlim
  · exact hbelow lim hlim
  · exact Nat.lt_of_lt_of_le (hmade.returned lim hlim) hgrows

theorem sameElsewhere_step (hstep : step cfg s label = some next) :
    SameElsewhere label.auth s.limiter next.limiter := by
  rw [limiter_step hstep]
  cases label with
  | new auth | getNew auth => exact sameElsewhere_new
  | remove auth => exact sameElsewhere_remove
  | getLookup auth => exact .refl auth s.limiter

/-- A step keeps the limiter of a user that has sessions behind it. -/
theorem lookup_step {userID : Bytes} (hstep : step cfg s label = some next)
    (hsessions : HasSessions next.limiter userID)
    (hlookup : s.limiter.userLimiter.lookup userID = some lim) :
    next.limiter.userLimiter.lookup userID = some lim := by
  rw [limiter_step hstep] at hsessions ⊢
  cases label with
  | new auth | getNew auth => exact lookup_new_of_some hlookup
  | remove auth => exact (lookup_remove hsessions).trans hlookup
  | getLookup auth => exact hlookup

/-- Every operation for a user with a limiter returns that one. -/
theorem answer_of_lookup (huser : label.auth.isAnonymous = false)
    (hlookup : s.limiter.userLimiter.lookup label.auth.userID = some lim)
    (hanswer : answer cfg s label = some got) : got = lim := by
  have hnew : (new cfg s.limiter label.auth).2 = lim := by
    have hkept : (new cfg s.limiter label.auth).1.userLimiter.lookup
        label.auth.userID = some lim := lookup_new_of_some hlookup
    rw [lookup_new huser] at hkept
    exact Option.some.inj hkept
  cases label with
  | new auth =>
    cases hanswer
    exact hnew
  | remove auth => cases hanswer
  | getLookup auth =>
    have hfound : lookup s.limiter auth = some lim := by
      simp only [Label.auth] at huser hlookup
      simp only [lookup, huser, Bool.false_eq_true, if_false, hlookup]
    exact Option.some.inj (hanswer.symm.trans hfound)
  | getNew auth =>
    rw [answer, Option.ite_none_right_eq_some] at hanswer
    obtain ⟨-, hanswer⟩ := hanswer
    cases hanswer
    exact hnew

/-- What an operation returns to a user's session is the user's limiter behind
it. -/
theorem lookup_of_answer (hstep : step cfg s label = some next)
    (huser : label.auth.isAnonymous = false)
    (hanswer : answer cfg s label = some got) :
    next.limiter.userLimiter.lookup label.auth.userID = some got := by
  rw [limiter_step hstep]
  cases label with
  | new auth =>
    cases hanswer
    exact lookup_new huser
  | remove auth => cases hanswer
  | getLookup auth =>
    simp only [Label.auth] at huser
    simp only [answer, lookup, huser, Bool.false_eq_true, if_false]
      at hanswer
    exact hanswer
  | getNew auth =>
    rw [answer, Option.ite_none_right_eq_some] at hanswer
    obtain ⟨-, hanswer⟩ := hanswer
    cases hanswer
    exact lookup_new huser

/-- While a user's session set stays filled its limiter stays. -/
theorem lookup_along {userID : Bytes} {labels : List Label}
    (hlookup : s.limiter.userLimiter.lookup userID = some lim)
    (halong : ∀ k passed,
      run (step cfg) s (labels.take k) = some passed →
        HasSessions passed.limiter userID) {k : Nat} {passed : State}
    (hrun : run (step cfg) s (labels.take k) = some passed) :
    passed.limiter.userLimiter.lookup userID = some lim := by
  induction labels generalizing s k with
  | nil =>
    rw [List.take_nil] at hrun
    cases hrun
    exact hlookup
  | cons label rest ih =>
    cases k with
    | zero =>
      cases hrun
      exact hlookup
    | succ k =>
      obtain ⟨next, hstep, hrun⟩ := run_cons hrun
      have hnext : HasSessions next.limiter userID :=
        halong 1 next (by simp [run, hstep])
      apply ih (lookup_step hstep hnext hlookup) _ hrun
      intro m passed' hpassed
      apply halong (m + 1) passed'
      simp only [List.take_succ_cons, run, hstep]
      exact hpassed

end Runs

/-- What a user's sessions can rely on. -/
structure SharesLimiter (cfg : RateLimiterT) (s : State) : Prop where
  limited : ∀ userID, s.limiter.userLimiter.lookup userID ≠ none ↔
    HasSessions s.limiter userID
  /-- What a session gets is its user's limiter. -/
  handedOut : ∀ label next got, step cfg s label = some next →
    label.auth.isAnonymous = false → answer cfg s label = some got →
      next.limiter.userLimiter.lookup label.auth.userID = some got
  /-- Along every run from here in which the user's session set stays filled,
  all operations of the user's sessions return the limiter it has here. -/
  shared : ∀ (userID : Bytes) (labels : List Label), (∀ k passed,
      run (step cfg) s (labels.take k) = some passed →
        HasSessions passed.limiter userID) →
    ∃ lim, s.limiter.userLimiter.lookup userID = some lim ∧
      ∀ k passed label got,
        run (step cfg) s (labels.take k) = some passed →
        label.auth.isAnonymous = false → label.auth.userID = userID →
        answer cfg passed label = some got → got = lim
  /-- Removing a user's last session leaves the user without one. -/
  emptied : ∀ auth, auth.isAnonymous = false →
    (∀ instanceID, s.limiter.userSessions.get auth.userID instanceID ≠ none →
      instanceID = auth.instanceID) →
    ¬ HasSessions (remove s.limiter auth) auth.userID
  /-- For a user without sessions `New` makes a limiter that nobody has got
  before. -/
  fresh : ∀ auth, auth.isAnonymous = false →
    ¬ HasSessions s.limiter auth.userID →
      (new cfg s.limiter auth).2 ∉ s.returned
  elsewhere : ∀ label next, step cfg s label = some next →
    SameElsewhere label.auth s.limiter next.limiter

theorem sharesLimiter_of_reach {cfg : RateLimiterT} {s : State}
    (hreach : Reach (step cfg) Unguarded {} s) :
    SharesLimiter cfg s := by
  have hmade : Made s := Reach.invariant Made
    ⟨inv_empty, fun _ h => absurd h List.not_mem_nil⟩
    (fun _ _ _ hmade _ hstep => made_step hmade hstep) hreach
  have hlimited : ∀ userID, s.limiter.userLimiter.lookup userID ≠ none ↔
      HasSessions s.limiter userID := fun userID => by
    rw [hmade.inv.paired, hmade.inv.hasSessions_iff]
  refine ⟨hlimited,
    fun label next got hstep huser hanswer =>
      lookup_of_answer hstep huser hanswer,
    fun userID labels halong => ?_,
    fun auth huser hlast => not_hasSessions_remove huser hlast,
    fun auth huser hnone => ?_,
    fun label next hstep => sameElsewhere_step hstep⟩
  · obtain ⟨lim, hlookup⟩ := Option.ne_none_iff_exists'.mp
      ((hlimited userID).mpr (halong 0 s rfl))
    refine ⟨lim, hlookup, ?_⟩
    rintro k passed label got hrun huser rfl hanswer
    exact answer_of_lookup huser (lookup_along hlookup halong hrun) hanswer
  · rw [← hlimited, not_not] at hnone
    intro hreturned
    have hlt := hmade.returned _ hreturned
    rw [snd_new_of_none huser hnone] at hlt
    exact Nat.lt_irrefl _ hlt

def defaultConfig : RateLimiterT :=
  ⟨30, 60, 5, 10, 5, 10, 5, 20⟩

def firstTab : WebsocketAuth := ⟨[0x75], [0x31]⟩
def secondTab : WebsocketAuth := ⟨[0x75], [0x32]⟩

/-- Two tabs of a user, both closed, and the first one back. -/
def twoTabs : List Label :=
  [.new firstTab, .getLookup secondTab, .new secondTab, .remove firstTab,
    .remove secondTab, .getLookup firstTab, .getNew firstTab]

theorem sharesLimiter_twoTabs :
    let s := final (step defaultConfig) {} twoTabs
    s.returned = [1, 0, 0, 0] ∧ SharesLimiter defaultConfig s :=
  ⟨by decide +kernel, sharesLimiter_of_reach
    (reach_final (by decide +kernel) (by decide +kernel))⟩

end RateLimiter

end Pipewave
