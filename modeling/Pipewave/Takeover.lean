/-
Who holds a session's row.  A new connection claims the row by an upsert; the
close path and the expiry of an older one write the same row without looking
at its holder, so the claim stands exactly as long as none of them does.
-/
import Pipewave.ClusterFrame

namespace Pipewave

namespace Cluster

open Transition

/-- The connection that last claimed a session's row is open. -/
def ClaimOpen (w : World) (auth : WebsocketAuth) : Prop :=
  ∃ b ∈ w.claims auth, ∃ conn ∈ w.conn b, conn.closed = false

instance (w : World) (auth : WebsocketAuth) : Decidable (ClaimOpen w auth) :=
  inferInstanceAs (Decidable (∃ b ∈ w.claims auth, _))

/-- Every open connection that was the last to claim its session holds the
session's row. -/
def ClaimsHeld (w : World) : Prop :=
  ∀ auth b conn, w.claims auth = some b → w.conn b = some conn →
    conn.closed = false → w.held auth = some (some conn.node, .connected)

def CloseStage.writesRow : CloseStage → Bool
  | .updateStatus | .removeRow => true
  | .swap | .removeConnection | .persist | .register => false

def ExpiresUnclaimed (w : World) : Act → Prop
  | .expireRow auth => ¬ ClaimOpen w auth
  | _ => True

instance (w : World) : ∀ act, Decidable (ExpiresUnclaimed w act)
  | .expireRow auth => inferInstanceAs (Decidable (¬ ClaimOpen w auth))
  | .closeDuplicate _ | .readRow _ | .disconnectSession .. => .isTrue trivial
  | .disconnectLocal .. | .disconnectRemote _ | .publish _ => .isTrue trivial
  | .resumeSession .. | .deregister .. | .addRow _ => .isTrue trivial
  | .addConnection _ | .getAll _ | .deleteUpTo .. => .isTrue trivial
  | .sendDirect .. | .hook _ | .serve _ => .isTrue trivial
  | .close _ | .expireMessages _ => .isTrue trivial

/-- A `Close` or an expiry writes a session's row only while the connection
that last claimed it is closed. -/
def WritesUnclaimed (w : World) (label : Label) : Prop :=
  ∀ thread ∈ running w label, label.succeeds = true →
    (∀ call ∈ thread.closing, call.2.writesRow = true →
      ∀ conn ∈ w.conn call.1, ¬ ClaimOpen w conn.auth) ∧
    ∀ act ∈ thread.nextAct, ExpiresUnclaimed w act

instance (w : World) (label : Label) : Decidable (WritesUnclaimed w label) :=
  inferInstanceAs (Decidable (∀ thread ∈ running w label, _))

/-- Claims refer to existing connections. -/
def ClaimsKnown (w : World) : Prop :=
  ∀ auth b, w.claims auth = some b → ∃ conn, w.conn b = some conn

variable {w w' : World} {auth : WebsocketAuth} {b c : ConnID} {conn : Conn}
  {stage : CloseStage} {label : Label}

/-- An act leaves a claim and its row alone, removes the row as an expiry, or
makes the claim. -/
theorem exec_claim {act : Act} {ok : Bool}
    (hclaim : (exec w act ok).world.claims auth = some b) :
    (w.claims auth = some b ∧
      ((exec w act ok).world.held auth = w.held auth ∨
        act = .expireRow auth ∧ ok = true)) ∨
    ∃ conn, w.conn b = some conn ∧
      (exec w act ok).world.held auth =
        some (some conn.node, .connected) := by
  rcases exec_cases w act ok with hquiet | ⟨c, conn, rfl, hconn, hexec⟩ |
    ⟨c, conn, rfl, hconn, rfl, hexec⟩ | ⟨gone, rfl, rfl, hexec⟩
  · exact .inl ⟨hquiet.claims ▸ hclaim, .inl (hquiet.held auth)⟩
  · rw [hexec] at hclaim ⊢
    exact .inl ⟨hclaim, .inl rfl⟩
  · rw [hexec] at hclaim ⊢
    simp only [World.claimRow, Function.update_apply] at hclaim
    simp only [World.held, World.row, World.claimRow,
      ActiveConnTable.lookup_addConnection]
    split at hclaim
    · next hsame =>
      cases hclaim
      exact .inr ⟨conn, hconn, by rw [if_pos hsame]; rfl⟩
    · next hother =>
      exact .inl ⟨hclaim, .inl (by rw [if_neg hother])⟩
  · rw [hexec] at hclaim ⊢
    refine .inl ⟨hclaim, ?_⟩
    by_cases hsame : auth = gone
    · exact .inr ⟨hsame ▸ rfl, rfl⟩
    · refine .inl ?_
      simp only [World.held, World.row, World.removeRow,
        ActiveConnTable.lookup_removeConnection, if_neg hsame]

/-- A `Close` writes the row of its own session only, and only in the two
store steps. -/
theorem closeStep_held {ok : Bool}
    (hother : ok = true → stage.writesRow = true → auth ≠ conn.auth) :
    (closeStep w c conn ok stage).1.held auth = w.held auth := by
  rw [World.held, closeStep_row, if_neg, if_neg, World.held]
  · rintro ⟨hauth, hok, rfl⟩
    exact hother hok rfl hauth
  · rintro ⟨hauth, hok, rfl⟩
    exact hother hok rfl hauth

theorem claimsKnown_step (hknown : ClaimsKnown w)
    (hstep : step w label = some w') :
    ClaimsKnown w' := by
  have hfrom : (∀ auth b, w'.claims auth = some b →
      ∃ conn, w.conn b = some conn) → ClaimsKnown w' := by
    intro hclaims auth b hclaim
    obtain ⟨conn, hconn⟩ := hclaims auth b hclaim
    obtain ⟨conn', hconn', -⟩ := conn_step hstep hconn
    exact ⟨conn', hconn'⟩
  cases step_cases hstep with
  | quiet same threads => exact hfrom (same.claims ▸ hknown)
  | spawned same threads swaps => exact hfrom (same.claims ▸ hknown)
  | opened isOpen idle => exact hfrom hknown
  | orphan running closing gone => exact hfrom hknown
  | @closing t ok thread c conn stage running closing known =>
    refine hfrom fun auth b hclaim => hknown auth b ?_
    rw [← closeStep_claims w c conn ok stage]
    exact hclaim
  | @act t ok thread act rest running closing todo =>
    refine hfrom fun auth b hclaim => ?_
    rcases exec_claim hclaim with ⟨hold, -⟩ | ⟨conn, hconn, -⟩
    · exact hknown auth b hold
    · exact ⟨conn, hconn⟩

/-- A step that meets the condition keeps every standing claim. -/
theorem claimsHeld_step (hknown : ClaimsKnown w) (hheld : ClaimsHeld w)
    (hguard : WritesUnclaimed w label) (hstep : step w label = some w') :
    ClaimsHeld w' := by
  intro auth b conn' hclaim hconn' hopen
  have hquiet : Quiet w w' →
      w'.held auth = some (some conn'.node, .connected) := by
    intro hsame
    rw [hsame.held]
    rw [hsame.claims] at hclaim
    rw [World.conn, hsame.conns] at hconn'
    exact hheld auth b conn' hclaim hconn' hopen
  cases step_cases hstep with
  | quiet same threads => exact hquiet same
  | spawned same threads swaps => exact hquiet same
  | opened isOpen idle =>
    obtain ⟨conn, hconn⟩ := hknown auth b hclaim
    rw [conn_openConn hconn] at hconn'
    cases hconn'
    exact hheld auth b conn' hclaim hconn hopen
  | orphan running closing gone =>
    exact hheld auth b conn' hclaim hconn' hopen
  | @closing t ok thread c conn stage running closing known =>
    have hclaims : w.claims auth = some b := by
      rw [← closeStep_claims w c conn ok stage]
      exact hclaim
    have hconn : w.conn b = some conn' := by
      have hafter := @conn_closeStep w c b conn ok stage known
      have hafter' : (closeStep w c conn ok stage).1.conn b = some conn' :=
        hconn'
      rw [hafter] at hafter'
      split at hafter'
      · cases hafter'
        cases hopen
      · exact hafter'
    refine (closeStep_held ?_).trans (hheld auth b conn' hclaims hconn hopen)
    rintro rfl hwrites rfl
    exact (hguard thread running rfl).1 (c, stage) closing hwrites conn
      known ⟨b, hclaims, conn', hconn, hopen⟩
  | @act t ok thread act rest running closing todo =>
    have hconn : w.conn b = some conn' := by
      rw [← hconn']
      exact congrArg (·[b]?) (exec_conns w act ok).symm
    rcases exec_claim hclaim with ⟨hold, hsame | ⟨rfl, rfl⟩⟩ |
      ⟨conn, hfound, hnew⟩
    · exact hsame.trans (hheld auth b conn' hold hconn hopen)
    · have hnext : thread.nextAct = some (.expireRow auth) :=
        Thread.nextAct_eq_some.mpr ⟨closing, rest, todo⟩
      exact absurd ⟨b, hold, conn', hconn, hopen⟩
        ((hguard thread running rfl).2 _ hnext)
    · rw [hconn] at hfound
      cases hfound
      exact hnew

/-- A store step of a `Close` takes the row from any holder. -/
theorem closeStep_unholds {holder : Option ContainerID}
    (hwrites : stage.writesRow = true) :
    (closeStep w c conn true stage).1.held conn.auth ≠
      some (holder, .connected) := by
  intro hheld
  rw [World.held, closeStep_row] at hheld
  cases stage with
  | updateStatus =>
    rw [if_pos ⟨rfl, rfl, rfl⟩, Option.map_map] at hheld
    obtain ⟨row, -, hpair⟩ := Option.map_eq_some_iff.mp hheld
    cases hpair
  | removeRow =>
    rw [if_neg (by rintro ⟨-, -, h⟩; cases h),
      if_pos ⟨rfl, rfl, rfl⟩] at hheld
    cases hheld
  | swap | removeConnection | persist | register => cases hwrites

/-- A store step of a `Close` breaks an open claim of its session at once. -/
theorem not_claimsHeld_of_closing {t : Nat} {thread : Thread} {connb : Conn}
    (hrunning : w.threads[t]? = some thread)
    (hclosing : thread.closing = some (c, stage))
    (hwrites : stage.writesRow = true) (hconn : w.conn c = some conn)
    (hclaim : w.claims conn.auth = some b) (hconnb : w.conn b = some connb)
    (hopen : connb.closed = false) (hstep : step w (.exec t true) = some w') :
    ¬ ClaimsHeld w' := by
  intro hheld
  simp only [step, hrunning, stepThread, hclosing, hconn, Option.map_some,
    Option.some.injEq] at hstep
  subst hstep
  have hnoswap : stage ≠ .swap := by
    rintro rfl
    cases hwrites
  have hconn' : (closeStep w c conn true stage).1.conn b = some connb := by
    rw [conn_closeStep hconn, if_neg fun h => hnoswap h.1]
    exact hconnb
  have hclaim' : (closeStep w c conn true stage).1.claims conn.auth =
      some b := by
    rw [closeStep_claims]
    exact hclaim
  exact closeStep_unholds hwrites
    (hheld conn.auth b connb hclaim' hconn' hopen)

theorem not_claimsHeld_of_expireRow {t : Nat} {thread : Thread} {connb : Conn}
    (hrunning : w.threads[t]? = some thread)
    (hact : thread.nextAct = some (.expireRow auth))
    (hclaim : w.claims auth = some b) (hconnb : w.conn b = some connb)
    (hopen : connb.closed = false) (hstep : step w (.exec t true) = some w') :
    ¬ ClaimsHeld w' := by
  intro hheld
  obtain ⟨hidle, rest, htodo⟩ := Thread.nextAct_eq_some.mp hact
  simp only [step, hrunning, stepThread, hidle, htodo, Option.map_some,
    Option.some.injEq] at hstep
  subst hstep
  have hrow : (w.removeRow auth).held auth =
      some (some connb.node, .connected) :=
    hheld auth b connb hclaim hconnb hopen
  simp [World.held, World.row, World.removeRow,
    ActiveConnTable.lookup_removeConnection] at hrow

/-- A write to a claimed row breaks the claim at once. -/
theorem writesUnclaimed_of_claimsHeld (hstep : step w label = some w')
    (hheld' : ClaimsHeld w') :
    WritesUnclaimed w label := by
  intro thread hrunning hsucceeds
  cases label with
  | exec t ok =>
    change ok = true at hsucceeds
    change w.threads[t]? = some thread at hrunning
    subst hsucceeds
    constructor
    · rintro ⟨c, stage⟩ hclosing hwrites conn hconn
        ⟨b, hclaim, connb, hconnb, hopen⟩
      exact not_claimsHeld_of_closing hrunning hclosing hwrites hconn
        hclaim hconnb hopen hstep hheld'
    · intro act hact
      cases act with
      | expireRow auth =>
        rintro ⟨b, hclaim, connb, hconnb, hopen⟩
        exact not_claimsHeld_of_expireRow hrunning hact hclaim hconnb
          hopen hstep hheld'
      | _ => trivial
  | _ => cases hrunning

/-- Along every run, the last claim of every session stands while its
connection is open exactly when no `Close` and no expiry writes a row under an
open claim. -/
theorem claims_held_iff_writes_unclaimed {cutoff ttl : Int}
    {labels : List Label} {w : World}
    (hrun : run step (start cutoff ttl) labels = some w) :
    (∀ k passed, run step (start cutoff ttl) (labels.take k) =
        some passed → ClaimsHeld passed) ↔
      Meets step WritesUnclaimed (start cutoff ttl) labels := by
  refine along_iff_meets ClaimsKnown ClaimsHeld
    (fun _ _ _ => claimsKnown_step) ?_ ?_ ?_ hrun
  · intro w label w' hknown hheld hstep
    exact ⟨writesUnclaimed_of_claimsHeld hstep,
      fun hguard => claimsHeld_step hknown hheld hguard hstep⟩
  · intro auth b hclaim
    cases hclaim
  · intro auth b conn hclaim
    cases hclaim

/-- Container 1 takes a session over from container 0, which handles the
disconnect message before container 1 claims the row. -/
def promptRun : List Label :=
  .accept 0 alice true true :: List.replicate 6 (.exec 0 true) ++
    .accept 1 alice true true :: List.replicate 6 (.exec 1 true) ++
    .deliver 0 :: List.replicate 6 (.exec 2 true) ++
    List.replicate 3 (.exec 1 true)

theorem claims_held_promptRun :
    (final step (start 60 120) promptRun).held alice =
        some (some 1, .connected) ∧
      ∀ k passed, run step (start 60 120) (promptRun.take k) =
        some passed → ClaimsHeld passed :=
  ⟨by decide +kernel, (claims_held_iff_writes_unclaimed
    (run_eq_final (by decide +kernel))).mpr (by decide +kernel)⟩

/-- The same takeover with the disconnect message handled last. -/
def delayedRun : List Label :=
  .accept 0 alice true true :: List.replicate 6 (.exec 0 true) ++
    .accept 1 alice true true :: List.replicate 9 (.exec 1 true) ++
    .deliver 0 :: List.replicate 6 (.exec 2 true)

/-- The old holder's close marks the new holder's row as disconnected, with
the new connection open and nothing left in progress. -/
theorem takeover_row_overwritten :
    ∃ w, Reach step Unguarded (start 60 120) w ∧
      (∀ thread ∈ w.threads, thread.closing = none ∧ thread.todo = []) ∧
      w.held alice = some (some 1, .tempDisconnected) ∧
      ¬ ClaimsHeld w := by
  refine ⟨final step (start 60 120) delayedRun,
    reach_final (by decide +kernel) (by decide +kernel),
    by decide +kernel, by decide +kernel, ?_⟩
  intro hheld
  have hrow := hheld alice 1 ⟨1, alice, .gobwas, false⟩ (by decide +kernel)
    (by decide +kernel) rfl
  exact absurd hrow (by decide +kernel)

end Cluster

end Pipewave
