/-
The deduplicator and the heartbeat throttle, shared by all sessions of a
container.  Both are maps from a key to the time it was last let through; a
check loads the key and stores it in a second step, and a sweep condemns
entries that are too old before it deletes them.
-/
import Pipewave.ClientMsgHandler
import Pipewave.GoMap
import Pipewave.Mealy

namespace Pipewave

namespace SessionThrottle

open ClientMsgHandler (sessionThrottleKey userThrottleKey)

inductive Table where
  | deduplicator
  | hbThrottle
deriving Repr, DecidableEq

/-- `msgDeduplicateTTL` and `heartbeatThrottleDuration` in nanoseconds. -/
def Table.ttl : Table → Int
  | .deduplicator => 120000000000
  | .hbThrottle => 10000000000

/-- A key of one of the maps. -/
abbrev Slot := Table × Bytes

/-- What the handler asks the maps: whether a message is a duplicate, whether
a heartbeat updates the session, and whether it updates the user. -/
inductive Check where
  | message (id : Bytes)
  | session
  | user
deriving Repr, DecidableEq

/-- The slot a check reads; a message without an id is not checked. -/
def Check.slot (auth : WebsocketAuth) : Check → Option Slot
  | .message id =>
    if id = [] then none
    else some (.deduplicator, id ++ auth.instanceID)
  | .session => some (.hbThrottle, sessionThrottleKey auth)
  | .user => some (.hbThrottle, userThrottleKey auth)

/-- A check by one goroutine of a session. -/
structure Call where
  auth : WebsocketAuth
  goroutine : Nat
  check : Check
deriving Repr, DecidableEq

def Call.slot (call : Call) : Option Slot := call.check.slot call.auth

/-- The maps, the checks that have found their key free and not stored it yet,
and the two sweeps. -/
structure State where
  now : Int := 0
  entries : GoMap Slot Int := ∅
  storing : GoMap Call Int := ∅
  sweepNow : Table → Int := fun _ => 0
  condemned : GoMap Slot Unit := ∅

inductive Label where
  | advance (elapsed : Nat)
  /-- The clock is read and the key loaded. -/
  | load (call : Call)
  /-- The key is stored and the check lets its caller through. -/
  | store (call : Call)
  | sweepStart (table : Table)
  /-- The sweep's `Range` comes to a key. -/
  | sweepLook (slot : Slot)
  | sweepDelete (slot : Slot)
deriving Repr, DecidableEq

/-- The caller goes on to `HandleMessage` or to the update, or it stops. -/
inductive Outcome where
  | passed
  | stopped
deriving Repr, DecidableEq

def load (state : State) (call : Call) (slot : Slot) :
    State × Option Outcome :=
  if (state.storing.lookup call).isSome then (state, none)
  else
    match state.entries.lookup slot with
    | some seenAt =>
      if state.now - seenAt < slot.1.ttl then (state, some .stopped)
      else ({ state with storing := state.storing.insert call state.now },
        none)
    | none =>
      ({ state with storing := state.storing.insert call state.now }, none)

def store (state : State) (call : Call) (slot : Slot) :
    State × Option Outcome :=
  match state.storing.lookup call with
  | none => (state, none)
  | some now => ({ state with
      entries := state.entries.insert slot now
      storing := state.storing.erase call }, some .passed)

def sweepLook (state : State) (slot : Slot) : State :=
  match state.entries.lookup slot with
  | none => state
  | some seenAt =>
    if slot.1.ttl ≤ state.sweepNow slot.1 - seenAt then
      { state with condemned := state.condemned.insert slot () }
    else state

def sweepDelete (state : State) (slot : Slot) : State :=
  match state.condemned.lookup slot with
  | none => state
  | some _ => { state with
      entries := state.entries.erase slot
      condemned := state.condemned.erase slot }

/-- One step; a label that does not apply changes nothing. -/
def serve : Mealy.Machine State Label (Option Outcome) :=
  fun state label =>
    match label with
    | .advance elapsed => ({ state with now := state.now + elapsed }, none)
    | .load call =>
      match call.slot with
      | none => (state, some .passed)
      | some slot => load state call slot
    | .store call =>
      match call.slot with
      | none => (state, none)
      | some slot => store state call slot
    | .sweepStart table => ({ state with
        sweepNow := Function.update state.sweepNow table state.now }, none)
    | .sweepLook slot => (sweepLook state slot, none)
    | .sweepDelete slot => (sweepDelete state slot, none)

/-- The goroutine's call behind a label. -/
def Label.call : Label → Option Call
  | .load call | .store call => some call
  | _ => none

/-- A step of a session's goroutines. -/
def Label.ofSession (auth : WebsocketAuth) (label : Label) : Bool :=
  label.call.any fun call => call.auth = auth

/-- A step that decides about a message or about the session's row. -/
def Label.observed (auth : WebsocketAuth) (label : Label) : Bool :=
  label.call.any fun call => call.auth = auth ∧ call.check ≠ .user

/-- A session makes only the given checks. -/
def Keeps (auth : WebsocketAuth) (checks : Check → Prop)
    (labels : List Label) : Prop :=
  ∀ label ∈ labels, ∀ call ∈ label.call, call.auth = auth → checks call.check

/-- What a session sees does not change with what another one does. -/
def NonInterfering (auth other : WebsocketAuth)
    (checks otherChecks : Check → Prop) : Prop :=
  ∀ labels, Keeps auth checks labels → Keeps other otherChecks labels →
    Mealy.seen serve (Label.observed auth) {} labels =
      Mealy.seen serve (Label.observed auth) {}
        (labels.filter fun label => !label.ofSession other)

/-- No check of the one session reads a slot that a check of the other one
writes. -/
def NoSharedSlot (auth other : WebsocketAuth)
    (checks otherChecks : Check → Prop) : Prop :=
  ∀ check otherCheck slot, checks check → otherChecks otherCheck →
    check ≠ .user → check.slot auth = some slot →
      otherCheck.slot other ≠ some slot

/-- Two states agree on the given slots, on the checks that are about to store
one of them, and on the clocks. -/
structure View (mine : Slot → Prop) (s t : State) : Prop where
  now : s.now = t.now
  sweepNow : s.sweepNow = t.sweepNow
  entries : ∀ slot, mine slot →
    s.entries.lookup slot = t.entries.lookup slot
  condemned : ∀ slot, mine slot →
    s.condemned.lookup slot = t.condemned.lookup slot
  storing : ∀ call slot, call.slot = some slot → mine slot →
    s.storing.lookup call = t.storing.lookup call

section Views

variable {mine : Slot → Prop} {s t u : State}

theorem View.refl (mine : Slot → Prop) (s : State) : View mine s s :=
  ⟨rfl, rfl, fun _ _ => rfl, fun _ _ => rfl, fun _ _ _ _ => rfl⟩

theorem View.symm (hview : View mine s t) : View mine t s where
  now := hview.now.symm
  sweepNow := hview.sweepNow.symm
  entries := fun slot hmine => (hview.entries slot hmine).symm
  condemned := fun slot hmine => (hview.condemned slot hmine).symm
  storing := fun call slot hslot hmine =>
    (hview.storing call slot hslot hmine).symm

theorem View.trans (hview : View mine s t) (hview' : View mine t u) :
    View mine s u where
  now := hview.now.trans hview'.now
  sweepNow := hview.sweepNow.trans hview'.sweepNow
  entries := fun slot hmine =>
    (hview.entries slot hmine).trans (hview'.entries slot hmine)
  condemned := fun slot hmine =>
    (hview.condemned slot hmine).trans (hview'.condemned slot hmine)
  storing := fun call slot hslot hmine =>
    (hview.storing call slot hslot hmine).trans
      (hview'.storing call slot hslot hmine)

/-- Steps outside the view, on either side, leave two states alike. -/
theorem View.around {s' t' : State} (hview : View mine s t)
    (hleft : View mine s s') (hright : View mine t t') : View mine s' t' :=
  hleft.symm.trans (hview.trans hright)

variable {call : Call} {slot : Slot}

/-- A check of a slot in the view goes the same way in both states. -/
theorem View.load (hview : View mine s t) (hslot : call.slot = some slot)
    (hmine : mine slot) :
    View mine (load s call slot).1 (load t call slot).1 ∧
      (load s call slot).2 = (load t call slot).2 := by
  have hbegun : ∀ {s t : State}, View mine s t → View mine
      { s with storing := s.storing.insert call s.now }
      { t with storing := t.storing.insert call t.now } := by
    intro s t hview
    refine { hview with storing := fun call' slot' hslot' hmine' => ?_ }
    rw [hview.now]
    exact GoMap.lookup_insert_congr
      (hview.storing call' slot' hslot' hmine') _ _
  unfold SessionThrottle.load
  rw [hview.storing call slot hslot hmine, hview.entries slot hmine,
    hview.now]
  split
  · exact ⟨hview, rfl⟩
  · split
    · split
      · exact ⟨hview, rfl⟩
      · have hnext := hbegun hview
        rw [hview.now] at hnext
        exact ⟨hnext, rfl⟩
    · have hnext := hbegun hview
      rw [hview.now] at hnext
      exact ⟨hnext, rfl⟩

theorem View.store (hview : View mine s t) (hslot : call.slot = some slot)
    (hmine : mine slot) :
    View mine (store s call slot).1 (store t call slot).1 ∧
      (store s call slot).2 = (store t call slot).2 := by
  unfold SessionThrottle.store
  rw [hview.storing call slot hslot hmine]
  split
  · exact ⟨hview, rfl⟩
  · refine ⟨{ hview with entries := ?_, storing := ?_ }, rfl⟩
    · exact fun slot' hmine' =>
        GoMap.lookup_insert_congr (hview.entries slot' hmine') _ _
    · exact fun call' slot' hslot' hmine' =>
        GoMap.lookup_erase_congr (hview.storing call' slot' hslot' hmine') _

theorem View.sweepLook (hview : View mine s t) (hmine : mine slot) :
    View mine (sweepLook s slot) (sweepLook t slot) := by
  unfold SessionThrottle.sweepLook
  rw [hview.entries slot hmine, congrFun hview.sweepNow slot.1]
  split
  · exact hview
  · split
    · exact { hview with
        condemned := fun slot' hmine' =>
          GoMap.lookup_insert_congr (hview.condemned slot' hmine') _ _ }
    · exact hview

theorem View.sweepDelete (hview : View mine s t) (hmine : mine slot) :
    View mine (sweepDelete s slot) (sweepDelete t slot) := by
  unfold SessionThrottle.sweepDelete
  rw [hview.condemned slot hmine]
  split
  · exact hview
  · exact { hview with
      entries := fun slot' hmine' =>
        GoMap.lookup_erase_congr (hview.entries slot' hmine') _
      condemned := fun slot' hmine' =>
        GoMap.lookup_erase_congr (hview.condemned slot' hmine') _ }

theorem slot_ne {slot' : Slot} (hother : ¬ mine slot) (hmine : mine slot') :
    slot' ≠ slot :=
  fun heq => hother (heq ▸ hmine)

theorem call_ne {call' : Call} {slot' : Slot} (hslot : call.slot = some slot)
    (hother : ¬ mine slot) (hslot' : call'.slot = some slot')
    (hmine : mine slot') :
    call' ≠ call := by
  rintro rfl
  rw [hslot] at hslot'
  cases hslot'
  exact hother hmine

/-- A check of a slot outside the view changes nothing inside it. -/
theorem view_load (hslot : call.slot = some slot) (hother : ¬ mine slot) :
    View mine s (load s call slot).1 := by
  have hbegun : View mine s { s with
      storing := s.storing.insert call s.now } := by
    refine { View.refl mine s with storing := ?_ }
    intro call' slot' hslot' hmine'
    exact (AList.lookup_insert_ne (call_ne hslot hother hslot' hmine')).symm
  unfold SessionThrottle.load
  split
  · exact View.refl mine s
  · split
    · split
      · exact View.refl mine s
      · exact hbegun
    · exact hbegun

theorem view_store (hslot : call.slot = some slot) (hother : ¬ mine slot) :
    View mine s (store s call slot).1 := by
  unfold SessionThrottle.store
  split
  · exact View.refl mine s
  · refine { View.refl mine s with entries := ?_, storing := ?_ }
    · intro slot' hmine'
      exact (AList.lookup_insert_ne (slot_ne hother hmine')).symm
    · intro call' slot' hslot' hmine'
      exact (AList.lookup_erase_ne (call_ne hslot hother hslot' hmine')).symm

theorem view_sweepLook (hother : ¬ mine slot) :
    View mine s (sweepLook s slot) := by
  unfold SessionThrottle.sweepLook
  split
  · exact View.refl mine s
  · split
    · refine { View.refl mine s with condemned := ?_ }
      intro slot' hmine'
      exact (AList.lookup_insert_ne (slot_ne hother hmine')).symm
    · exact View.refl mine s

theorem view_sweepDelete (hother : ¬ mine slot) :
    View mine s (sweepDelete s slot) := by
  unfold SessionThrottle.sweepDelete
  split
  · exact View.refl mine s
  · refine { View.refl mine s with entries := ?_, condemned := ?_ }
    all_goals
      intro slot' hmine'
      exact (AList.lookup_erase_ne (slot_ne hother hmine')).symm

/-- Every label changes the view the same way in two states that look
alike. -/
theorem View.serve (hview : View mine s t) (label : Label) :
    View mine (serve s label).1 (serve t label).1 := by
  cases label with
  | advance elapsed =>
    exact { hview with now := congrArg (· + (elapsed : Int)) hview.now }
  | load call =>
    simp only [SessionThrottle.serve]
    cases hslot : call.slot with
    | none => exact hview
    | some slot =>
      by_cases hmine : mine slot
      · exact (hview.load hslot hmine).1
      · exact hview.around (view_load hslot hmine) (view_load hslot hmine)
  | store call =>
    simp only [SessionThrottle.serve]
    cases hslot : call.slot with
    | none => exact hview
    | some slot =>
      by_cases hmine : mine slot
      · exact (hview.store hslot hmine).1
      · exact hview.around (view_store hslot hmine) (view_store hslot hmine)
  | sweepStart table =>
    refine { hview with sweepNow := ?_ }
    simp only [SessionThrottle.serve, hview.sweepNow, hview.now]
  | sweepLook slot =>
    by_cases hmine : mine slot
    · exact hview.sweepLook hmine
    · exact hview.around (view_sweepLook hmine) (view_sweepLook hmine)
  | sweepDelete slot =>
    by_cases hmine : mine slot
    · exact hview.sweepDelete hmine
    · exact hview.around (view_sweepDelete hmine) (view_sweepDelete hmine)

theorem View.answer (hview : View mine s t) {label : Label}
    (hcall : label.call = some call)
    (hmine : ∀ slot, call.slot = some slot → mine slot) :
    (SessionThrottle.serve s label).2 = (SessionThrottle.serve t label).2 := by
  cases label with
  | load call' =>
    cases hcall
    simp only [SessionThrottle.serve]
    cases hslot : call.slot with
    | none => rfl
    | some slot => exact (hview.load hslot (hmine slot hslot)).2
  | store call' =>
    cases hcall
    simp only [SessionThrottle.serve]
    cases hslot : call.slot with
    | none => rfl
    | some slot => exact (hview.store hslot (hmine slot hslot)).2
  | advance _ | sweepStart _ | sweepLook _ | sweepDelete _ => cases hcall

/-- A step of a goroutine whose slot is outside the view is not seen. -/
theorem View.hide (hview : View mine s t) {label : Label}
    (hcall : label.call = some call)
    (hother : ∀ slot, call.slot = some slot → ¬ mine slot) :
    View mine (SessionThrottle.serve s label).1 t := by
  cases label with
  | load call' =>
    cases hcall
    simp only [SessionThrottle.serve]
    cases hslot : call.slot with
    | none => exact hview
    | some slot =>
      exact (view_load hslot (hother slot hslot)).symm.trans hview
  | store call' =>
    cases hcall
    simp only [SessionThrottle.serve]
    cases hslot : call.slot with
    | none => exact hview
    | some slot =>
      exact (view_store hslot (hother slot hslot)).symm.trans hview
  | advance _ | sweepStart _ | sweepLook _ | sweepDelete _ => cases hcall

end Views

section Sessions

variable {auth other : WebsocketAuth} {checks otherChecks : Check → Prop}

variable {label : Label}

theorem ofSession_iff :
    label.ofSession auth = true ↔
      ∃ call, label.call = some call ∧ call.auth = auth := by
  simp [Label.ofSession, Option.any_eq_true]

theorem observed_iff :
    label.observed auth = true ↔ ∃ call, label.call = some call ∧
      call.auth = auth ∧ call.check ≠ .user := by
  simp [Label.observed, Option.any_eq_true]

/-- The slots behind what a session observes. -/
def Mine (auth : WebsocketAuth) (checks : Check → Prop) (slot : Slot) : Prop :=
  ∃ check, checks check ∧ check ≠ .user ∧ check.slot auth = some slot

theorem nonInterfering_of_noSharedSlot (hne : auth ≠ other)
    (hshared : NoSharedSlot auth other checks otherChecks) :
    NonInterfering auth other checks otherChecks := by
  intro labels hkeeps hkeeps'
  refine Mealy.seen_filter (View (Mine auth checks))
    (fun label =>
      (∀ call ∈ label.call, call.auth = auth → checks call.check) ∧
        ∀ call ∈ label.call, call.auth = other → otherChecks call.check)
    ?_ ?_ ?_ ?_ (View.refl _ _) ?_
  · intro s t label hview hvalid hobserved
    obtain ⟨call, hcall, hauth, hcheck⟩ := observed_iff.mp hobserved
    refine hview.answer hcall fun slot hslot => ?_
    refine ⟨call.check, hvalid.1 call hcall hauth, hcheck, ?_⟩
    rw [← hauth]
    exact hslot
  · exact fun s t label hview _ _ => hview.serve label
  · intro s t label hview hvalid hhidden
    obtain ⟨call, hcall, hauth⟩ := ofSession_iff.mp hhidden
    refine hview.hide hcall fun slot hslot => ?_
    rintro ⟨check, hcheck, hobserved, hmine⟩
    refine hshared check call.check slot hcheck
      (hvalid.2 call hcall hauth) hobserved hmine ?_
    rw [← hauth]
    exact hslot
  · intro label hobserved
    obtain ⟨call, hcall, hauth, -⟩ := observed_iff.mp hobserved
    by_contra hhidden
    obtain ⟨call', hcall', hauth'⟩ :=
      ofSession_iff.mp (eq_true_of_ne_false hhidden)
    rw [hcall] at hcall'
    cases hcall'
    exact hne (hauth.symm.trans hauth')
  · exact fun label hlabel => ⟨hkeeps label hlabel, hkeeps' label hlabel⟩

/-- The other session's check is let through just before this session's. -/
def shadowing (auth other : WebsocketAuth) (check otherCheck : Check) :
    List Label :=
  [.load ⟨other, 0, otherCheck⟩, .store ⟨other, 0, otherCheck⟩,
    .load ⟨auth, 0, check⟩]

theorem seen_shadowing (hne : auth ≠ other) {check otherCheck : Check}
    {slot : Slot} (hobserved : check ≠ .user)
    (hslot : check.slot auth = some slot)
    (hshared : otherCheck.slot other = some slot) :
    Mealy.seen serve (Label.observed auth) {}
        (shadowing auth other check otherCheck) = [some .stopped] ∧
      Mealy.seen serve (Label.observed auth) {}
        ((shadowing auth other check otherCheck).filter fun label =>
          !label.ofSession other) = [none] := by
  have hslot' : (⟨auth, 0, check⟩ : Call).slot = some slot := hslot
  have hshared' : (⟨other, 0, otherCheck⟩ : Call).slot = some slot := hshared
  have httl : 0 < slot.1.ttl := by cases slot.1 <;> decide
  have hcalls : (⟨auth, 0, check⟩ : Call) ≠ ⟨other, 0, otherCheck⟩ := by
    simp [hne]
  constructor
  · simp [Mealy.seen, shadowing, serve, hslot', hshared', load, store,
      Label.observed, Label.call, hobserved, hne.symm, httl, hcalls,
      -AList.insert_empty]
  · simp [Mealy.seen, shadowing, serve, hslot', load, Label.observed,
      Label.ofSession, Label.call, hobserved, hne]

theorem call_of_mem_shadowing {check otherCheck : Check}
    (hlabel : label ∈ shadowing auth other check otherCheck) {call : Call}
    (hcall : call ∈ label.call) :
    call = ⟨other, 0, otherCheck⟩ ∨ call = ⟨auth, 0, check⟩ := by
  simp only [shadowing, List.mem_cons, List.not_mem_nil, or_false] at hlabel
  rcases hlabel with rfl | rfl | rfl
  · exact .inl (Option.some.inj hcall).symm
  · exact .inl (Option.some.inj hcall).symm
  · exact .inr (Option.some.inj hcall).symm

theorem noSharedSlot_of_nonInterfering (hne : auth ≠ other)
    (hfree : NonInterfering auth other checks otherChecks) :
    NoSharedSlot auth other checks otherChecks := by
  intro check otherCheck slot hcheck hother hobserved hslot hshared
  obtain ⟨hwith, hwithout⟩ := seen_shadowing hne hobserved hslot hshared
  have hsame := hfree (shadowing auth other check otherCheck) ?_ ?_
  · rw [hwith, hwithout] at hsame
    cases hsame
  · intro label hlabel call hcall hauth
    rcases call_of_mem_shadowing hlabel hcall with rfl | rfl
    · exact absurd hauth.symm hne
    · exact hcheck
  · intro label hlabel call hcall hauth
    rcases call_of_mem_shadowing hlabel hcall with rfl | rfl
    · exact hother
    · exact absurd hauth hne

/-- No message id of the one session, followed by its instance id, reads like
one of the other; and if both send heartbeats their instance ids differ. -/
structure KeysApart (auth other : WebsocketAuth)
    (checks otherChecks : Check → Prop) : Prop where
  message : ∀ id otherId, checks (.message id) →
    otherChecks (.message otherId) → id ≠ [] → otherId ≠ [] →
      id ++ auth.instanceID ≠ otherId ++ other.instanceID
  session : checks .session → otherChecks .session →
    auth.instanceID ≠ other.instanceID

theorem noSharedSlot_of_keysApart
    (hapart : KeysApart auth other checks otherChecks) :
    NoSharedSlot auth other checks otherChecks := by
  intro check otherCheck slot hcheck hother hobserved hslot hshared
  rw [← hslot] at hshared
  cases check with
  | user => exact hobserved rfl
  | message id =>
    cases otherCheck with
    | message otherId =>
      by_cases hid : id = []
      · simp [Check.slot, hid] at hslot
      · by_cases hotherId : otherId = []
        · simp [Check.slot, hid, hotherId] at hshared
        · simp only [Check.slot, if_neg hid, if_neg hotherId,
            Option.some.injEq, Prod.mk.injEq, true_and] at hshared
          exact hapart.message id otherId hcheck hother hid hotherId
            hshared.symm
    | session => simp [Check.slot] at hshared
    | user => simp [Check.slot] at hshared
  | session =>
    cases otherCheck with
    | message otherId => simp [Check.slot] at hshared
    | session =>
      simp only [Check.slot, sessionThrottleKey, Option.some.injEq,
        Prod.mk.injEq, true_and, List.append_cancel_left_eq] at hshared
      exact hapart.session hcheck hother hshared.symm
    | user =>
      simp [Check.slot, sessionThrottleKey, userThrottleKey] at hshared

theorem keysApart_of_noSharedSlot
    (hshared : NoSharedSlot auth other checks otherChecks) :
    KeysApart auth other checks otherChecks where
  message := by
    intro id otherId hcheck hother hid hotherId heq
    refine hshared (.message id) (.message otherId) _ hcheck hother
      Check.noConfusion (if_neg hid) ?_
    rw [Check.slot, if_neg hotherId, heq]
  session := by
    intro hcheck hother heq
    refine hshared .session .session _ hcheck hother Check.noConfusion rfl ?_
    rw [Check.slot, sessionThrottleKey, sessionThrottleKey, heq]

/-- Sessions that may send anything keep apart exactly when neither instance
id ends in the other. -/
theorem keysApart_all : KeysApart auth other (fun _ => True) (fun _ => True) ↔
    ¬ auth.instanceID <:+ other.instanceID ∧
      ¬ other.instanceID <:+ auth.instanceID := by
  constructor
  · intro hapart
    have happly := fun id otherId => hapart.message id otherId trivial trivial
    constructor
    · rintro ⟨front, hfront⟩
      refine happly (0 :: front) [0] (List.cons_ne_nil _ _)
        (List.cons_ne_nil _ _) ?_
      rw [← hfront]
      rfl
    · rintro ⟨front, hfront⟩
      refine happly [0] (0 :: front) (List.cons_ne_nil _ _)
        (List.cons_ne_nil _ _) ?_
      rw [← hfront]
      rfl
  · rintro ⟨hnot, hnot'⟩
    refine ⟨fun id otherId _ _ _ _ heq => ?_, fun _ _ heq => ?_⟩
    · have hsuffix : other.instanceID <:+ id ++ auth.instanceID :=
        heq ▸ List.suffix_append otherId other.instanceID
      rcases List.suffix_or_suffix_of_suffix (List.suffix_append id _)
        hsuffix with hends | hends
      · exact hnot hends
      · exact hnot' hends
    · exact hnot (heq ▸ List.suffix_refl _)

/-- Another session's checks change nothing for a session exactly when no key
of the one reads like a key of the other. -/
theorem nonInterfering_iff_keysApart (hne : auth ≠ other)
    (checks otherChecks : Check → Prop) :
    NonInterfering auth other checks otherChecks ↔
      KeysApart auth other checks otherChecks := by
  constructor
  · intro hfree
    exact keysApart_of_noSharedSlot (noSharedSlot_of_nonInterfering hne hfree)
  · intro hapart
    exact nonInterfering_of_noSharedSlot hne
      (noSharedSlot_of_keysApart hapart)

end Sessions

/-- Two tabs of one user whose instance ids have the same length. -/
theorem nonInterfering_twoTabs :
    NonInterfering ⟨[0x75], [0x31]⟩ ⟨[0x75], [0x32]⟩ (fun _ => True)
      (fun _ => True) :=
  (nonInterfering_iff_keysApart (by decide) _ _).mpr
    (keysApart_all.mpr (by decide))

/-- Two users whose instance ids are the same. -/
def firstUser : WebsocketAuth := ⟨[0x75], [0x31]⟩
def secondUser : WebsocketAuth := ⟨[0x76], [0x31]⟩

/-- A heartbeat of the second user and one of the first. -/
def twoHeartbeats : List Label :=
  [.load ⟨secondUser, 0, .session⟩, .store ⟨secondUser, 0, .session⟩,
    .load ⟨firstUser, 0, .session⟩, .store ⟨firstUser, 0, .session⟩]

/-- The first user's heartbeat updates their row only if the second sends
none; and a message is dropped because of another one with a shorter id and a
longer instance id. -/
theorem other_session_interferes :
    Mealy.seen serve (Label.observed firstUser) {} twoHeartbeats =
        [some .stopped, none] ∧
      Mealy.seen serve (Label.observed firstUser) {}
        (twoHeartbeats.filter fun label => !label.ofSession secondUser) =
          [none, some .passed] ∧
      ¬ NonInterfering firstUser secondUser (fun _ => True)
        (fun _ => True) ∧
      ¬ NonInterfering firstUser ⟨[0x76], [0x32, 0x31]⟩
        (· = .message [0x61, 0x32]) (· = .message [0x61]) := by
  refine ⟨by decide +kernel, by decide +kernel, ?_, ?_⟩
  · intro hfree
    exact (keysApart_of_noSharedSlot
      (noSharedSlot_of_nonInterfering (by decide) hfree)).session
        trivial trivial rfl
  · intro hfree
    exact (keysApart_of_noSharedSlot
      (noSharedSlot_of_nonInterfering (by decide) hfree)).message
        _ _ rfl rfl (List.cons_ne_nil _ _) (List.cons_ne_nil _ _) rfl

end SessionThrottle

end Pipewave
