/-
Handing a payload to a live connection.  When `Send` fails, a worker reads the
session's row up to five times, waiting in between while the row still says
connected, and saves the payload at the first read that says otherwise.
-/
import Pipewave.ActiveConn
import Pipewave.ConnectionManager

namespace Pipewave

namespace SendOrSave

def maxRetryNumber : Nat := 5

/-- Milliseconds before the next attempt, three seconds at most. -/
def retryDelay (retryNumber : Nat) : Nat :=
  min ((retryNumber + 1) * 750) 3000

/-- What one activation of `saveMessageHub` ends in. -/
inductive Decision where
  | drop
  | retry (delay : Nat)
  | save
deriving Repr, DecidableEq

/-- `saveMessageHub` after its read of the store, where no row stands for a
row not found as well as for a failed read. -/
def saveMessageHub (retryNumber : Nat) (activeCon : Option ActiveConnection) :
    Decision :=
  if maxRetryNumber ≤ retryNumber then .drop
  else match activeCon with
    | none => .drop
    | some row =>
      if row.status = .connected then .retry (retryDelay retryNumber)
      else .save

variable {retryNumber : Nat}

theorem saveMessageHub_some (row : ActiveConnection)
    (hretry : retryNumber < maxRetryNumber) :
    saveMessageHub retryNumber (some row) =
      if row.status = .connected then .retry (retryDelay retryNumber)
      else .save := by
  rw [saveMessageHub, if_neg (Nat.not_le.mpr hretry)]

theorem saveMessageHub_none (retryNumber : Nat) :
    saveMessageHub retryNumber none = .drop := by
  unfold saveMessageHub
  split <;> rfl

theorem saveMessageHub_exhausted (hretry : maxRetryNumber ≤ retryNumber)
    (activeCon : Option ActiveConnection) :
    saveMessageHub retryNumber activeCon = .drop :=
  if_pos hretry

theorem lt_of_saveMessageHub_retry {delay : Nat}
    {activeCon : Option ActiveConnection}
    (hretry : saveMessageHub retryNumber activeCon = .retry delay) :
    retryNumber < maxRetryNumber := by
  by_contra hmax
  rw [saveMessageHub_exhausted (Nat.not_lt.mp hmax)] at hretry
  cases hretry

/-- What happens around a send: the store over time, how long each task waits
for a worker, and which connections still take a payload. -/
structure Surroundings where
  cutoff : Int
  store : Int → ActiveConnTable
  wait : Nat → Nat
  sendOk : ConnID → Bool

/-- The two things that can happen to a payload. -/
inductive Effect where
  | send (auth : WebsocketAuth) (payload : Bytes) (ok : Bool)
  | save (auth : WebsocketAuth) (payload : Bytes)
deriving Repr, DecidableEq

section Chain

variable (env : Surroundings) (auth : WebsocketAuth) (payload : Bytes)

/-- `GetInstanceConnection` at a point in time. -/
def Surroundings.read (now : Int) : Option ActiveConnection :=
  (env.store now).getInstanceConnection auth env.cutoff now

/-- The activations of `saveMessageHub` from one attempt on. -/
def saveChain (retryNumber : Nat) (now : Int) : List Effect :=
  match _hdecision : saveMessageHub retryNumber (env.read auth now) with
  | .drop => []
  | .save => [.save auth payload]
  | .retry delay =>
    saveChain (retryNumber + 1) (now + delay + env.wait (retryNumber + 1))
termination_by maxRetryNumber - retryNumber
decreasing_by
  have hlt := lt_of_saveMessageHub_retry _hdecision
  omega

def sendOrSaveMessageHub (conn : ConnID) (now : Int) : List Effect :=
  if env.sendOk conn then [.send auth payload true]
  else .send auth payload false :: saveChain env auth payload 0
    (now + env.wait 0)

/-- When the reads of an unbroken chain of retries happen. -/
def readTime (now : Int) : Nat → Int
  | 0 => now + env.wait 0
  | k + 1 => readTime now k + retryDelay k + env.wait (k + 1)

/-- The `k`-th read sees the session connected. -/
def SeesConnected (now : Int) (k : Nat) : Prop :=
  ∃ row, env.read auth (readTime env now k) = some row ∧
    row.status = .connected

/-- The `k`-th read sees a row that is not connected. -/
def SeesOther (now : Int) (k : Nat) : Prop :=
  ∃ row, env.read auth (readTime env now k) = some row ∧
    row.status ≠ .connected

theorem saveChain_eq (retryNumber : Nat) (now : Int) :
    saveChain env auth payload retryNumber now =
      match saveMessageHub retryNumber (env.read auth now) with
      | .drop => []
      | .save => [.save auth payload]
      | .retry delay => saveChain env auth payload (retryNumber + 1)
          (now + delay + env.wait (retryNumber + 1)) := by
  rw [saveChain]
  split <;> next h => rw [h]

variable {now : Int} {k : Nat}

theorem saveChain_of_seesConnected (hk : k < maxRetryNumber)
    (hsees : SeesConnected env auth now k) :
    saveChain env auth payload k (readTime env now k) =
      saveChain env auth payload (k + 1) (readTime env now (k + 1)) := by
  obtain ⟨row, hread, hstatus⟩ := hsees
  rw [saveChain_eq, hread, saveMessageHub_some row hk, if_pos hstatus]
  rfl

theorem saveChain_of_seesOther (hk : k < maxRetryNumber)
    (hsees : SeesOther env auth now k) :
    saveChain env auth payload k (readTime env now k) =
      [.save auth payload] := by
  obtain ⟨row, hread, hstatus⟩ := hsees
  rw [saveChain_eq, hread, saveMessageHub_some row hk, if_neg hstatus]

theorem saveChain_of_drop
    (hdrop : saveMessageHub k (env.read auth now) = .drop) :
    saveChain env auth payload k now = [] := by
  rw [saveChain_eq, hdrop]

/-- The reads before the `k`-th see the session connected and the `k`-th, one
of the first five, sees it in another status. -/
def SavedAt (now : Int) (k : Nat) : Prop :=
  k < maxRetryNumber ∧ (∀ j < k, SeesConnected env auth now j) ∧
    SeesOther env auth now k

theorem saveChain_zero_eq (hk : k ≤ maxRetryNumber)
    (hsees : ∀ j < k, SeesConnected env auth now j) :
    saveChain env auth payload 0 (now + env.wait 0) =
      saveChain env auth payload k (readTime env now k) := by
  induction k with
  | zero => rfl
  | succ k ih =>
    rw [ih (Nat.le_of_succ_le hk) fun j hj => hsees j (Nat.lt_succ_of_lt hj)]
    exact saveChain_of_seesConnected env auth payload hk
      (hsees k (Nat.lt_succ_self k))

theorem saveChain_of_savedAt (hsaved : SavedAt env auth now k) :
    saveChain env auth payload 0 (now + env.wait 0) =
      [.save auth payload] := by
  obtain ⟨hk, hbefore, hsees⟩ := hsaved
  rw [saveChain_zero_eq env auth payload (Nat.le_of_lt hk) hbefore]
  exact saveChain_of_seesOther env auth payload hk hsees

theorem saveChain_of_not_savedAt (hsaved : ∀ k, ¬ SavedAt env auth now k) :
    saveChain env auth payload 0 (now + env.wait 0) = [] := by
  by_cases hall : ∀ j < maxRetryNumber, SeesConnected env auth now j
  · rw [saveChain_zero_eq env auth payload (Nat.le_refl _) hall]
    exact saveChain_of_drop env auth payload
      (saveMessageHub_exhausted (Nat.le_refl _) _)
  · -- The first read that does not see it connected finds no row at all.
    push Not at hall
    classical
    obtain ⟨hk, hfirst⟩ := Nat.find_spec hall
    have hbefore : ∀ j < Nat.find hall, SeesConnected env auth now j := by
      intro j hj
      by_contra hnot
      exact Nat.find_min hall hj ⟨Nat.lt_trans hj hk, hnot⟩
    rw [saveChain_zero_eq env auth payload (Nat.le_of_lt hk) hbefore]
    apply saveChain_of_drop
    cases hread : env.read auth (readTime env now (Nat.find hall)) with
    | none => exact saveMessageHub_none _
    | some row =>
      by_cases hstatus : row.status = .connected
      · exact absurd ⟨row, hread, hstatus⟩ hfirst
      · exact absurd ⟨hk, hbefore, row, hread, hstatus⟩ (hsaved _)

/-- The connection takes the payload, or it is saved in the end. -/
def Keeps (conn : ConnID) (now : Int) : Prop :=
  env.sendOk conn = true ∨ ∃ k, SavedAt env auth now k

/-- Handing over ends with the payload kept once or with nothing but the
failed send. -/
theorem sendOrSaveMessageHub_cases (conn : ConnID) (now : Int) :
    (Keeps env auth conn now ∧
      (sendOrSaveMessageHub env auth payload conn now =
          [.send auth payload true] ∨
        sendOrSaveMessageHub env auth payload conn now =
          [.send auth payload false, .save auth payload])) ∨
    (¬ Keeps env auth conn now ∧
      sendOrSaveMessageHub env auth payload conn now =
        [.send auth payload false]) := by
  unfold sendOrSaveMessageHub
  by_cases hok : env.sendOk conn = true
  · rw [if_pos hok]
    exact .inl ⟨.inl hok, .inl rfl⟩
  · rw [if_neg hok]
    by_cases hsaved : ∃ k, SavedAt env auth now k
    · obtain ⟨k, hk⟩ := hsaved
      rw [saveChain_of_savedAt env auth payload hk]
      exact .inl ⟨.inr ⟨k, hk⟩, .inr rfl⟩
    · rw [saveChain_of_not_savedAt env auth payload
        fun k hk => hsaved ⟨k, hk⟩]
      exact .inr ⟨not_or.mpr ⟨hok, hsaved⟩, rfl⟩

/-- After the failed send the payload was saved or sent once more. -/
def Rescued (effects : List Effect) : Prop :=
  ∃ effect ∈ effects.tail, effect = .save auth payload ∨
    ∃ ok, effect = .send auth payload ok

/-- A payload whose send failed is saved, once, if one of the first five reads
finds the row in another status after reads that all found it connected.
Otherwise it is dropped.  It is never sent again. -/
theorem failedSend_effects {conn : ConnID} {now : Int}
    (hfail : env.sendOk conn = false) :
    ((∃ k, SavedAt env auth now k) →
      sendOrSaveMessageHub env auth payload conn now =
        [.send auth payload false, .save auth payload]) ∧
    ((¬ ∃ k, SavedAt env auth now k) →
      sendOrSaveMessageHub env auth payload conn now =
        [.send auth payload false]) := by
  have hok : env.sendOk conn ≠ true := by
    rw [hfail]
    exact Bool.false_ne_true
  rcases sendOrSaveMessageHub_cases env auth payload conn now with
    ⟨hkeeps, htaken | hsaved⟩ | ⟨hkeeps, hdropped⟩
  · rw [sendOrSaveMessageHub, if_neg hok] at htaken
    cases htaken
  · refine ⟨fun _ => hsaved, fun hnever => ?_⟩
    exact absurd hkeeps (not_or.mpr ⟨hok, hnever⟩)
  · exact ⟨fun hsaved => absurd (.inr hsaved) hkeeps, fun _ => hdropped⟩

end Chain

/-- The session is marked temporarily disconnected before the third read. -/
def disconnectedLate : Surroundings where
  cutoff := 100
  store now := ActiveConnTable.updateStatus
    (ActiveConnTable.addConnection ∅ ⟨[1], [2]⟩ 1 now) ⟨[1], [2]⟩
    (if now < 1000 then .connected else .tempDisconnected)
  wait _ := 0
  sendOk _ := false

theorem read_disconnectedLate (now : Int) :
    disconnectedLate.read ⟨[1], [2]⟩ now = some ⟨some 1,
      if now < 1000 then .connected else .tempDisconnected, now⟩ := by
  simp [Surroundings.read, disconnectedLate,
    ActiveConnTable.getInstanceConnection, ActiveConnTable.updateStatus,
    ActiveConnTable.lookup_modify, ActiveConnTable.lookup_addConnection]

theorem failedSend_effects_disconnectedLate :
    sendOrSaveMessageHub disconnectedLate ⟨[1], [2]⟩ [7] 0 0 =
      [.send ⟨[1], [2]⟩ [7] false, .save ⟨[1], [2]⟩ [7]] := by
  refine (failedSend_effects disconnectedLate ⟨[1], [2]⟩ [7] rfl).1
    ⟨2, by decide, fun j hj => ?_, _, read_disconnectedLate _, by decide⟩
  have hcases : j = 0 ∨ j = 1 := by omega
  rcases hcases with rfl | rfl
  · exact ⟨_, read_disconnectedLate _, by decide⟩
  · exact ⟨_, read_disconnectedLate _, by decide⟩

/-- The session stays connected and its heartbeats keep coming; only the
connection object at hand is gone, as after a reconnect elsewhere. -/
def reconnectedElsewhere : Surroundings where
  cutoff := 100
  store now := ActiveConnTable.addConnection ∅ ⟨[1], [2]⟩ 1 now
  wait _ := 0
  sendOk _ := false

theorem read_reconnectedElsewhere (now : Int) :
    reconnectedElsewhere.read ⟨[1], [2]⟩ now =
      some ⟨some 1, .connected, now⟩ := by
  have hlookup := ActiveConnTable.lookup_addConnection ∅ ⟨[1], [2]⟩
    ⟨[1], [2]⟩ 1 now
  rw [if_pos rfl] at hlookup
  simp [Surroundings.read, reconnectedElsewhere,
    ActiveConnTable.getInstanceConnection, hlookup]

/-- The row exists all the time, every read succeeds, and the payload is
neither saved nor sent again. -/
theorem reconnectedElsewhere_dropped :
    (∀ now, ((reconnectedElsewhere.store now).lookup
      ⟨[1], [2]⟩).isSome = true) ∧
    (∀ now, (reconnectedElsewhere.read ⟨[1], [2]⟩ now).isSome = true) ∧
    reconnectedElsewhere.sendOk 0 = false ∧
    ¬ Rescued ⟨[1], [2]⟩ [7]
      (sendOrSaveMessageHub reconnectedElsewhere ⟨[1], [2]⟩ [7] 0 0) := by
  refine ⟨fun now => ?_, fun now => ?_, rfl, ?_⟩
  · rw [reconnectedElsewhere, ActiveConnTable.lookup_addConnection, if_pos rfl]
    rfl
  · rw [read_reconnectedElsewhere]
    rfl
  · have hnever : ∀ k, ¬ SavedAt reconnectedElsewhere ⟨[1], [2]⟩ 0 k := by
      rintro k ⟨_, _, row, hread, hstatus⟩
      rw [read_reconnectedElsewhere] at hread
      cases hread
      exact hstatus rfl
    have hchain := saveChain_of_not_savedAt reconnectedElsewhere ⟨[1], [2]⟩ [7]
      hnever
    rintro ⟨effect, hmem, _⟩
    change effect ∈ saveChain reconnectedElsewhere ⟨[1], [2]⟩ [7] 0
      (0 + reconnectedElsewhere.wait 0) at hmem
    rw [hchain] at hmem
    cases hmem

end SendOrSave

end Pipewave
