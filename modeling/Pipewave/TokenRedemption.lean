/-
What a connection token stands for: the identity that `InspectToken` vouched
for when the token was requested.  Presented in time it is accepted, whatever
happens to other tokens.
-/
import Pipewave.ExchangeToken

namespace Pipewave

namespace ExchangeToken

open Transition
open AnonInstance (NanoID Signer)
open LongPollQueue (Reply)

/-! ### Whom a connection is opened for -/

/-- The identity is the user that `InspectToken` named, with the instance id of
the request, or it is anonymous with an instance id that the server signed,
for an earlier request or for this one. -/
def Vouches (server : Server) (q : Request) (auth : WebsocketAuth) : Prop :=
  q.request.headers.authorization ≠ [] ∧
    ∃ identified ∈ q.identified, ∃ username,
      (identified.inspection.result = some (.ok (username, false)) ∧
        auth = ⟨username, q.request.headers.pipewaveID⟩ ∧ username ≠ [] ∧
        q.request.headers.pipewaveID ≠ []) ∨
      (identified.inspection.result = some (.ok (username, true)) ∧
        auth.userID = [] ∧
        (auth.instanceID = q.request.headers.pipewaveID ∧
            server.signer.verify auth.instanceID identified.at_ = true ∨
          auth.instanceID = server.signer.sign (Signer.payload
            identified.inspection.nanoID (identified.at_ / 10 ^ 9))))

theorem orPanic_eq_ok {instanceID : Bytes} {auth : Option WebsocketAuth}
    {identity : Identity} (hok : orPanic instanceID auth = .ok identity) :
    auth = some identity.auth := by
  cases auth with
  | none => cases hok
  | some auth =>
    cases hok
    rfl

theorem instanceID_cases (signer : Signer) (header : Bytes) (id : NanoID)
    (now : Int) :
    let token := signer.mintOrReadAnonymousInstanceID header id now now
    token = header ∧ signer.verify token now = true ∨
      token = signer.sign (Signer.payload id (now / 10 ^ 9)) := by
  intro token
  simp only [token, Signer.mintOrReadAnonymousInstanceID,
    Signer.readAnonymousInstanceID]
  by_cases hread : header = [] ∨ signer.verify header now = false
  · rw [if_pos hread]
    exact .inr rfl
  · rw [if_neg hread]
    refine .inl ⟨rfl, ?_⟩
    rw [not_or, Bool.not_eq_false] at hread
    exact hread.2

theorem vouches_of_identify {server : Server} {q : Request}
    {identified : Identified} (hmem : q.identified = some identified)
    (hauthorization : q.request.headers.authorization ≠ [])
    (hidentify : identify server identified.at_ q.request.headers
      identified.inspection = .ok identified.toIdentity) :
    Vouches server q identified.auth := by
  refine ⟨hauthorization, identified, hmem, ?_⟩
  rw [identify] at hidentify
  split at hidentify
  · cases hidentify
  · cases hidentify
  next username hresult =>
    have hauth := orPanic_eq_ok hidentify
    rw [anonymousUserWebsocketAuth] at hauth
    split at hauth
    · cases hauth
    · refine ⟨username, .inr ⟨hresult, ?_, ?_⟩⟩
      · rw [← Option.some.inj hauth]
      · rw [← Option.some.inj hauth]
        exact instanceID_cases _ _ _ _
  next username hresult =>
    split at hidentify
    · cases hidentify
    · have hauth := orPanic_eq_ok hidentify
      rw [userWebsocketAuth] at hauth
      split at hauth
      · cases hauth
      next hparts =>
        rw [not_or] at hparts
        exact ⟨username, .inl ⟨hresult, (Option.some.inj hauth).symm, hparts⟩⟩

/-- No connection is opened under an identity that `InspectToken` has not
vouched for. -/
theorem opened_vouched {server : Server} {now : Int} {s : State}
    (hreach : Reach (step server) Unguarded
      { store := { now } } s) {c : Connect} (hc : c ∈ s.connects)
    (hopened : c.response = .opened) :
    ∃ scan ∈ c.scan, ∃ q ∈ s.requests, Vouches server q scan.auth := by
  have hinv := inv_of_reach hreach
  obtain ⟨scan, hscan⟩ :=
    Option.isSome_iff_exists.mp (hinv.opened c hc hopened)
  have hscans : scan ∈ s.scans := List.mem_filterMap.mpr ⟨c, hc, hscan⟩
  obtain ⟨i, -, q, identified, at_, hget, hidentified, hauth, -⟩ :=
    hinv.ledger.redeems hscans
  have hq := List.mem_of_getElem? hget
  obtain ⟨hauthorization, hidentify⟩ :=
    hinv.identified q hq identified hidentified
  refine ⟨scan, hscan, q, hq, ?_⟩
  rw [hauth]
  exact vouches_of_identify hidentified hauthorization hidentify

theorem opened_vouched_presented :
    ∃ c ∈ presented.connects, c.response = .opened ∧
      ∃ scan ∈ c.scan, ∃ q ∈ presented.requests,
        Vouches plainServer q scan.auth := by
  have hfirst : ∃ c ∈ presented.connects, c.response = .opened := by
    decide +kernel
  obtain ⟨c, hc, hopened⟩ := hfirst
  exact ⟨c, hc, hopened,
    @opened_vouched plainServer 0 presented reach_presented c hc hopened⟩

/-! ### An issued token is good for ten seconds -/

/-- The step may change what is stored under the token. -/
def Label.Touches (token : Bytes) : Label → Prop
  | .exchange _ connTmpToken _ => connTmpToken = token
  | .gobwasEndpoint tk _ _ => tk = token
  | .cacheTotal _ _ => totalActiveConnection = token
  | .tick _ | .issueTmpToken _ | .inspectToken _ _ => False

instance (token : Bytes) : (label : Label) → Decidable (label.Touches token)
  | .exchange _ connTmpToken _ =>
    inferInstanceAs (Decidable (connTmpToken = token))
  | .gobwasEndpoint tk _ _ => inferInstanceAs (Decidable (tk = token))
  | .cacheTotal _ _ =>
    inferInstanceAs (Decidable (totalActiveConnection = token))
  | .tick _ | .issueTmpToken _ | .inspectToken _ _ => .isFalse id

section Keeps

variable {server : Server} {s s' : State} {token value : Bytes}
  {expireAt : Int}

theorem keeps_set (hkeeps : s.store.Keeps token value expireAt)
    {key : Bytes} (hne : key ≠ token) (value' : Bytes) (ttl : Int)
    (tag : Option Nat) (reply : Reply) :
    (s.store.set key value' ttl tag reply).Keeps token value expireAt := by
  rw [Store.set]
  split
  · exact hkeeps.put hne _ _ _
  · exact hkeeps

theorem keeps_scanConnToken (hkeeps : s.store.Keeps token value expireAt)
    {other : Bytes} (hne : other ≠ token) (reply : Reply) :
    (scanConnToken server s.store other reply).2.Keeps token value
      expireAt := by
  have hgetDel : (s.store.getDel other reply).2.Keeps token value
      expireAt := by
    match reply with
    | .ok => exact hkeeps.take hne
    | .failed true => exact hkeeps.delete hne
    | .failed false => exact hkeeps
  rw [scanConnToken]
  generalize s.store.getDel other reply = got at hgetDel
  obtain ⟨found, store⟩ := got
  cases found with
  | none => exact hgetDel
  | some entry =>
    simp only
    split <;> exact hgetDel

theorem keeps_step {label : Label}
    (hkeeps : s.store.Keeps token value expireAt)
    (hother : ¬ label.Touches token)
    (hstep : step server s label = some s') :
    s'.store.Keeps token value expireAt := by
  match label with
  | .tick now =>
    simp only [step] at hstep
    split at hstep
    · cases hstep
      exact hkeeps
    · cases hstep
  | .issueTmpToken r =>
    cases hstep
    rw [State.issueTmpToken]
    split <;> exact hkeeps
  | .inspectToken i inspection =>
    simp only [step] at hstep
    split at hstep
    · cases hstep
      exact hkeeps
    · cases hstep
  | .exchange i connTmpToken reply =>
    simp only [step] at hstep
    split at hstep
    · cases hstep
      exact keeps_set hkeeps hother _ _ _ reply
    · cases hstep
  | .gobwasEndpoint tk reply opening =>
    cases hstep
    rw [State.gobwasEndpoint]
    split
    · exact hkeeps
    · exact keeps_scanConnToken hkeeps hother reply
  | .cacheTotal total reply =>
    cases hstep
    exact keeps_set hkeeps hother _ _ _ reply

theorem keeps_run {labels : List Label}
    (hkeeps : s.store.Keeps token value expireAt)
    (hothers : ∀ label ∈ labels, ¬ label.Touches token)
    (hrun : run (step server) s labels = some s') :
    s'.store.Keeps token value expireAt := by
  induction labels generalizing s with
  | nil =>
    cases hrun
    exact hkeeps
  | cons label rest ih =>
    obtain ⟨next, henabled, hrun⟩ := run_cons hrun
    apply ih _ _ hrun
    · exact keeps_step hkeeps (hothers label List.mem_cons_self) henabled
    · intro later hlater
      exact hothers later (List.mem_cons_of_mem label hlater)

end Keeps

/-- A token that was issued is accepted for the identity it was issued for
if it is presented within ten seconds, once, whatever other tokens are issued
and presented in between. -/
theorem issued_token_accepted {server : Server} {s s₁ s₂ s₃ : State}
    {i : Nat} {token : Bytes} {labels : List Label} {opening : Opening}
    (hissue : step server s (.exchange i token .ok) = some s₁)
    (hrun : run (step server) s₁ labels = some s₂)
    (hothers : ∀ label ∈ labels, ¬ label.Touches token)
    (hnow : s₂.now < s.now + tokenTTL) (htoken : token ≠ [])
    (hconnect : step server s₂ (.gobwasEndpoint token .ok opening) =
      some s₃) :
    ∃ r identified serial,
      s₁.requests[i]? = some ⟨r, some identified, some (token, s.now),
        some (.issued token identified.instanceID identified.auth.userID
          r.https)⟩ ∧
      s₃.connects = s₂.connects ++
        [⟨some ⟨token, identified.auth, s₂.now, serial⟩,
          opening.response⟩] := by
  simp only [step] at hissue
  split at hissue
  next r identified exchanged hget =>
    cases hissue
    have hlt := (List.getElem?_eq_some_iff.mp hget).1
    have hkeeps := keeps_run (ExpiringStore.keeps_put_self token
      (server.codec.encode identified.auth) tokenTTL (some i)) hothers hrun
    obtain ⟨entry, hfound, hvalue⟩ := hkeeps.get hnow
    have htake : (s₂.store.take token).1 = some entry := by
      rw [ExpiringStore.take, hfound]
    have hscan : (scanConnToken server s₂.store token .ok).1 =
        .ok ⟨token, identified.auth, s₂.now, entry.serial⟩ := by
      rw [scanConnToken, Store.getDel]
      generalize s₂.store.take token = taken at htake
      obtain ⟨found, store⟩ := taken
      cases htake
      simp only [hvalue, server.codec.decode_encode]
      rfl
    refine ⟨r, identified, entry.serial, List.getElem?_set_self hlt, ?_⟩
    cases hconnect
    rw [State.gobwasEndpoint, if_neg htoken]
    simp only [hscan]
  · cases hissue

/-- Behind the first steps of `issueTwo`. -/
def inspected : State :=
  final (step plainServer) {} (issueTwo.take 4)

def issued : State :=
  final (step plainServer) inspected [.exchange 1 [0x62] .ok]

/-- Until the anonymous client comes, in time. -/
def meanwhile : List Label :=
  [.exchange 0 [0x61] .ok, .gobwasEndpoint [0x61] .ok .opened,
    .cacheTotal 7 .ok, .tick (tokenTTL - 1)]

def waited : State := final (step plainServer) issued meanwhile

theorem issued_token_accepted_waited :
    ∃ r identified serial,
      issued.requests[1]? = some ⟨r, some identified, some ([0x62], 0),
        some (.issued [0x62] identified.instanceID identified.auth.userID
          r.https)⟩ ∧
      (waited.gobwasEndpoint plainServer [0x62] .ok .opened).connects =
        waited.connects ++
          [⟨some ⟨[0x62], identified.auth, tokenTTL - 1, serial⟩,
            .opened⟩] := by
  have hissue : step plainServer inspected (.exchange 1 [0x62] .ok) =
      some issued := step_eq_final (by decide +kernel)
  have hrun : run (step plainServer) issued meanwhile =
      some waited := run_eq_final (by decide +kernel)
  have hstart : inspected.now = 0 := by decide +kernel
  have hend : waited.now = tokenTTL - 1 := by decide +kernel
  have hconnect : step plainServer waited
      (.gobwasEndpoint [0x62] .ok .opened) =
        some (waited.gobwasEndpoint plainServer [0x62] .ok .opened) := rfl
  have haccepted := issued_token_accepted hissue hrun (by decide +kernel)
    (by decide +kernel) (List.cons_ne_nil _ _) hconnect
  rw [hstart, hend] at haccepted
  exact haccepted

end ExchangeToken

end Pipewave
