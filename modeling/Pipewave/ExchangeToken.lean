/-
From a bearer token to a websocket.  `/issue-tmp-token` has the bearer token
inspected and leaves the identity in the cache under a random token for ten
seconds; `/gw` takes it out of there and opens the connection under it.  The
cache is shared with the cached number of connections, and a client may present
any text as a token.  Times are in nanoseconds.
-/
import Pipewave.AnonInstance
import Pipewave.CacheValues
import Pipewave.ExpiringStore
import Pipewave.IPRateLimiter
import Pipewave.LongPollQueue
import Pipewave.LongPollingSend
import Pipewave.Pool
import Pipewave.Transition

namespace Pipewave

namespace ExchangeToken

open Transition
open AnonInstance (NanoID Signer)
open LongPollingSend (Headers)
open LongPollQueue (Reply)

def tokenTTL : Int := 10 * 10 ^ 9

/-- `total_active_connection`, the only other key, which lives five seconds. -/
def totalActiveConnection : Bytes :=
  [0x74, 0x6F, 0x74, 0x61, 0x6C, 0x5F, 0x61, 0x63, 0x74, 0x69, 0x76, 0x65,
    0x5F, 0x63, 0x6F, 0x6E, 0x6E, 0x65, 0x63, 0x74, 0x69, 0x6F, 0x6E]

def totalTTL : Int := 5 * 10 ^ 9

/-- `Encode` and `Decode` of an identity.  A record in msgpack is a map, and a
number is none. -/
structure Codec where
  packing : Cache.IntPacking
  encode : WebsocketAuth → Bytes
  decode : Bytes → Option WebsocketAuth
  decode_encode : ∀ auth, decode (encode auth) = some auth
  decode_number : ∀ n, decode (packing.marshal .int n) = none

structure Server where
  signer : Signer
  issueTokenIPLimiter : IPRateLimiter.Limits
  codec : Codec

/-- `https` is the forwarded protocol. -/
structure IssueRequest where
  headers : Headers
  ip : Bytes
  https : Bool
deriving Repr, DecidableEq

/-- What `InspectToken` returns, the user name and whether the session is
anonymous, or `none` if it is not configured; `nanoID` goes into an instance id
if one is minted. -/
structure Inspection where
  result : Option (Except String (Bytes × Bool))
  nanoID : NanoID

inductive ErrorCode where
  | recordNotFound
  | errUnexpectedRedis
  | errUnexpectedCodeLogic
deriving Repr, DecidableEq

/-- The text of an error response, or the code it is looked up by. -/
inductive ErrorText where
  | text (s : String)
  | code (c : ErrorCode)
deriving Repr, DecidableEq

/-- `uid` is the value of the cookie. -/
inductive IssueResponse where
  | error (text : ErrorText) (status : Nat)
  | issued (connToken instanceID uid : Bytes) (secure : Bool)
  | panics
deriving Repr, DecidableEq

/-- `instanceID` is the one returned to an anonymous client. -/
structure Identity where
  auth : WebsocketAuth
  instanceID : Bytes
deriving Repr, DecidableEq

/-- Whom a request is from, as found at `at_`. -/
structure Identified extends Identity where
  inspection : Inspection
  at_ : Int

/-- A request that the limiter let pass, or that has a response at once;
`exchanged` has the token and the time of its `Exchange`. -/
structure Request where
  request : IssueRequest
  identified : Option Identified := none
  exchanged : Option (Bytes × Int) := none
  response : Option IssueResponse := none

/-- How the steps behind a scanned token end. -/
inductive Opening where
  | upgradeFailed
  | registerFailed (err : String)
  | opened
deriving Repr, DecidableEq

inductive ConnectResponse where
  | error (text : ErrorText) (status : Nat)
  | opened
deriving Repr, DecidableEq

/-- An accepted token; `serial` is the `SET` it is from and nothing reads
it. -/
structure Scan where
  token : Bytes
  auth : WebsocketAuth
  at_ : Int
  serial : Nat
deriving Repr, DecidableEq

structure Connect where
  scan : Option Scan
  response : ConnectResponse
deriving Repr, DecidableEq

abbrev Store := ExpiringStore Bytes Bytes (Option Nat)

abbrev Put := ExpiringPut Bytes Bytes (Option Nat)

/-- A `SET` of a token is tagged with its request. -/
structure State where
  limiters : IPRateLimiter.Limiters := ∅
  store : Store := {}
  requests : List Request := []
  connects : List Connect := []

inductive Label where
  | tick (now : Int)
  /-- `/issue-tmp-token` up to `InspectToken`. -/
  | issueTmpToken (request : IssueRequest)
  /-- `InspectToken` returns to a request. -/
  | inspectToken (i : Nat) (inspection : Inspection)
  /-- `Exchange` for a request, and what follows it. -/
  | exchange (i : Nat) (connTmpToken : Bytes) (reply : Reply)
  | gobwasEndpoint (tk : Bytes) (reply : Reply) (opening : Opening)
  /-- The `SET` of `CacheThis`. -/
  | cacheTotal (total : Int) (reply : Reply)

/-! ### The handlers -/

def orPanic (instanceID : Bytes) :
    Option WebsocketAuth → Except IssueResponse Identity
  | none => .error .panics
  | some auth => .ok ⟨auth, instanceID⟩

def identify (server : Server) (now : Int) (headers : Headers)
    (inspection : Inspection) : Except IssueResponse Identity :=
  match inspection.result with
  | none => .error .panics
  | some (.error err) => .error (.error (.text err) 401)
  | some (.ok (_, true)) =>
    let instanceID := server.signer.mintOrReadAnonymousInstanceID
      headers.pipewaveID inspection.nanoID now now
    orPanic instanceID (anonymousUserWebsocketAuth instanceID)
  | some (.ok (username, false)) =>
    if headers.pipewaveID = [] then
      .error (.error (.text "Missing X-Pipewave-ID header") 400)
    else orPanic [] (userWebsocketAuth username headers.pipewaveID)

/-- A `SET` with expiry. -/
def Store.set (store : Store) (key value : Bytes) (ttl : Int)
    (tag : Option Nat) (reply : Reply) : Store :=
  if reply.executed = true then store.put key value ttl tag else store

/-- `GETDEL`. -/
def Store.getDel (store : Store) (key : Bytes) (reply : Reply) :
    Option (ExpiringEntry Bytes) × Store :=
  match reply with
  | .ok => store.take key
  | .failed executed =>
    (none, if executed = true then store.delete key else store)

def scanConnToken (server : Server) (store : Store) (token : Bytes)
    (reply : Reply) : Except ErrorCode Scan × Store :=
  match store.getDel token reply with
  | (none, store') => (.error .recordNotFound, store')
  | (some entry, store') => match server.codec.decode entry.value with
    | none => (.error .errUnexpectedCodeLogic, store')
    | some auth => (.ok ⟨token, auth, store.now, entry.serial⟩, store')

def Opening.response : Opening → ConnectResponse
  | .upgradeFailed => .error (.text "Failed to upgrade connection") 500
  | .registerFailed err => .error (.text err) 500
  | .opened => .opened

/-- The response behind `Exchange`. -/
def exchangeResponse (r : IssueRequest) (identity : Identity)
    (connToken : Bytes) : Reply → IssueResponse
  | .ok => .issued connToken identity.instanceID identity.auth.userID r.https
  | .failed _ => .error (.code .errUnexpectedRedis) 500

namespace State

variable (server : Server) (s : State)

def now : Int := s.store.now

def issueTmpToken (r : IssueRequest) : State :=
  if r.headers.authorization = [] then
    { s with
      requests := s.requests ++ [⟨r, none, none,
        some (.error (.text "Missing Authorization header") 401)⟩] }
  else
    let allowed := server.issueTokenIPLimiter.allow s.limiters s.now r.ip
    { s with
      limiters := allowed.1
      requests := s.requests ++ [⟨r, none, none, if allowed.2 = true then none
        else some (.error (.text "Too many requests") 429)⟩] }

def inspectToken (i : Nat) (r : IssueRequest) (inspection : Inspection) :
    State :=
  { s with
    requests := s.requests.set i
      (match identify server s.now r.headers inspection with
        | .error response => ⟨r, none, none, some response⟩
        | .ok identity =>
          ⟨r, some ⟨identity, inspection, s.now⟩, none, none⟩) }

def exchange (i : Nat) (r : IssueRequest) (identified : Identified)
    (connTmpToken : Bytes) (reply : Reply) : State :=
  { s with
    store := s.store.set connTmpToken
      (server.codec.encode identified.auth) tokenTTL (some i) reply
    requests := s.requests.set i
      ⟨r, some identified, some (connTmpToken, s.now), some
        (exchangeResponse r identified.toIdentity connTmpToken reply)⟩ }

def gobwasEndpoint (tk : Bytes) (reply : Reply) (opening : Opening) : State :=
  if tk = [] then
    { s with
      connects := s.connects ++ [⟨none,
        .error (.text "Missing connection token") 401⟩] }
  else
    let scanned := scanConnToken server s.store tk reply
    { s with
      store := scanned.2
      connects := s.connects ++ [match scanned.1 with
        | .error code => ⟨none, .error (.code code) 401⟩
        | .ok scan => ⟨some scan, opening.response⟩] }

end State

def step (server : Server) (s : State) : Label → Option State
  | .tick now => if s.now ≤ now then
      some { s with store := { s.store with now } } else none
  | .issueTmpToken request => some (s.issueTmpToken server request)
  | .inspectToken i inspection =>
    match s.requests[i]? with
    | some ⟨r, none, _, none⟩ => some (s.inspectToken server i r inspection)
    | _ => none
  | .exchange i connTmpToken reply =>
    match s.requests[i]? with
    | some ⟨r, some identified, _, none⟩ =>
      some (s.exchange server i r identified connTmpToken reply)
    | _ => none
  | .gobwasEndpoint tk reply opening =>
    some (s.gobwasEndpoint server tk reply opening)
  | .cacheTotal total reply => some { s with
      store := s.store.set totalActiveConnection
        (server.codec.packing.marshal .int total) totalTTL none reply }

/-! ### What a step does -/

/-- A scan takes an identity out of the store. -/
structure Scan.Takes (server : Server) (s : State) (scan : Scan) : Prop where
  now : scan.at_ = s.now
  entry : ∃ entry, s.store.get scan.token = some entry ∧
    entry.serial = scan.serial ∧
    server.codec.decode entry.value = some scan.auth

/-- What a call of `ScanConnToken` does to the store. -/
structure Scanned (server : Server) (s : State) (scan : Option Scan)
    (store : Store) : Prop where
  puts : store.puts = s.store.puts
  sound : s.store.Sound → store.Sound
  taken : (s.store.taken ++ scan.toList.map Scan.serial).Sublist store.taken
  takes : ∀ found ∈ scan, found.Takes server s

inductive StepCase (server : Server) (s : State) : State → Prop where
  | tick (now : Int) (hnow : s.now ≤ now) :
      StepCase server s { s with store := { s.store with now } }
  | arrives (limiters : IPRateLimiter.Limiters) (r : IssueRequest)
      (response : Option IssueResponse)
      (hresponse : response = none → r.headers.authorization ≠ []) :
      StepCase server s { s with
        limiters
        requests := s.requests ++ [⟨r, none, none, response⟩] }
  | inspects (i : Nat) (r : IssueRequest) (q : Request)
      (exchanged : Option (Bytes × Int))
      (hget : s.requests[i]? = some ⟨r, none, exchanged, none⟩)
      (hsame : q.request = r)
      (hidentified : ∀ identified ∈ q.identified,
        identified.at_ = s.now ∧ identify server s.now r.headers
          identified.inspection = .ok identified.toIdentity) :
      StepCase server s { s with requests := s.requests.set i q }
  | exchanges (i : Nat) (r : IssueRequest) (identified : Identified)
      (exchanged : Option (Bytes × Int)) (token : Bytes) (reply : Reply)
      (hget : s.requests[i]? = some ⟨r, some identified, exchanged, none⟩) :
      StepCase server s (s.exchange server i r identified token reply)
  | connects (c : Connect) (store : Store)
      (hscanned : Scanned server s c.scan store)
      (hopened : c.response = .opened → c.scan.isSome = true) :
      StepCase server s { s with store, connects := s.connects ++ [c] }
  | caches (total : Int) (reply : Reply) :
      StepCase server s { s with
        store := s.store.set totalActiveConnection
          (server.codec.packing.marshal .int total) totalTTL none reply }

section Scanning

variable (server : Server) (s : State)

theorem scanned_none : Scanned server s none s.store :=
  ⟨rfl, id, by simp, by simp⟩

theorem scanned_take_none (token : Bytes) :
    Scanned server s none (s.store.take token).2 := by
  refine ⟨ExpiringStore.take_puts token, fun h => h.take token, ?_, by simp⟩
  rw [ExpiringStore.take]
  split <;> simp [ExpiringStore.delete]

theorem scanned_scanConnToken (token : Bytes) (reply : Reply) :
    Scanned server s ((scanConnToken server s.store token reply).1).toOption
      (scanConnToken server s.store token reply).2 := by
  match reply with
  | .failed executed =>
    cases executed with
    | false => exact scanned_none server s
    | true => exact ⟨rfl, fun h => h.delete token, by
        simp [scanConnToken, Store.getDel, ExpiringStore.delete,
          Except.toOption], by simp [scanConnToken, Store.getDel,
          Except.toOption]⟩
  | .ok =>
    have hnone := scanned_take_none server s token
    simp only [scanConnToken, Store.getDel]
    split
    next store' htake =>
      rw [htake] at hnone
      exact hnone
    next entry store' htake =>
      rw [htake] at hnone
      split
      · exact hnone
      next auth hdecode =>
        have hget : s.store.get token = some entry ∧
            store'.taken = s.store.taken ++ [entry.serial] := by
          rw [ExpiringStore.take] at htake
          split at htake
          · cases htake
          next found hget =>
            cases htake
            exact ⟨hget, rfl⟩
        refine ⟨hnone.puts, hnone.sound, ?_, ?_⟩
        · rw [hget.2]
          exact List.Sublist.refl _
        · rintro scan ⟨⟩
          exact ⟨rfl, entry, hget.1, rfl, hdecode⟩

end Scanning

variable {server : Server} {s : State}

theorem step_cases {s' : State} {label : Label}
    (hstep : step server s label = some s') : StepCase server s s' := by
  match label with
  | .tick now =>
    simp only [step] at hstep
    split at hstep
    next hnow =>
      cases hstep
      exact .tick now hnow
    · cases hstep
  | .issueTmpToken r =>
    cases hstep
    rw [State.issueTmpToken]
    split
    · exact .arrives s.limiters r _ (by simp)
    next hauthorization => exact .arrives _ r _ fun _ => hauthorization
  | .inspectToken i inspection =>
    simp only [step] at hstep
    split at hstep
    next r exchanged hget =>
      cases hstep
      apply StepCase.inspects i r _ exchanged hget
      · split <;> rfl
      · intro identified hmem
        split at hmem
        · cases hmem
        next identity hidentify =>
          cases hmem
          exact ⟨rfl, hidentify⟩
    · cases hstep
  | .exchange i connTmpToken reply =>
    simp only [step] at hstep
    split at hstep
    next r identified exchanged hget =>
      cases hstep
      exact .exchanges i r identified exchanged connTmpToken reply hget
    · cases hstep
  | .gobwasEndpoint tk reply opening =>
    cases hstep
    rw [State.gobwasEndpoint]
    split
    · exact .connects _ _ (scanned_none server s) (by simp)
    · have hscanned := scanned_scanConnToken server s tk reply
      generalize scanConnToken server s.store tk reply = scanned at hscanned
      obtain ⟨result, store⟩ := scanned
      cases result with
      | error code => exact .connects _ _ hscanned (by simp)
      | ok scan => exact .connects _ _ hscanned fun _ => rfl
  | .cacheTotal total reply =>
    cases hstep
    exact .caches total reply

/-! ### Where the accepted tokens come from -/

def State.scans (s : State) : List Scan := s.connects.filterMap Connect.scan

/-- Whose `SET` an entry is from. -/
def Store.requestOf (store : Store) (serial : Nat) : Option Nat :=
  (store.puts[serial]?).bind ExpiringPut.tag

/-- What is in the store was put there for a request that has been answered,
or is the number of connections. -/
def Origin (server : Server) (requests : List Request) (put : Put) : Prop :=
  (put.tag = none ∧ ∃ n, put.value = server.codec.packing.marshal .int n) ∨
    ∃ i q identified, put.tag = some i ∧ requests[i]? = some q ∧
      q.identified = some identified ∧
      q.exchanged = some (put.key, put.at_) ∧ q.response.isSome = true ∧
      put.value = server.codec.encode identified.auth ∧ put.ttl = tokenTTL

/-- The scan took what a `SET` had left. -/
structure Scan.IsOf (server : Server) (scan : Scan) (put : Put) : Prop where
  key : put.key = scan.token
  decode : server.codec.decode put.value = some scan.auth
  early : put.at_ ≤ scan.at_
  late : scan.at_ < put.at_ + put.ttl

/-- The scans so far took different entries, each from a `SET` of its own
request. -/
structure Ledger (server : Server) (store : Store) (requests : List Request)
    (scans : List Scan) : Prop where
  sound : store.Sound
  origin : ∀ put ∈ store.puts, Origin server requests put
  once : ∀ n m i, store.requestOf n = some i → store.requestOf m = some i →
    n = m
  serials : (scans.map Scan.serial).Sublist store.taken
  scans : ∀ scan ∈ scans, ∃ put, store.puts[scan.serial]? = some put ∧
    scan.IsOf server put

structure Inv (server : Server) (s : State) : Prop where
  ledger : Ledger server s.store s.requests s.scans
  opened : ∀ c ∈ s.connects, c.response = .opened → c.scan.isSome = true
  waiting : ∀ q ∈ s.requests, q.response = none →
    q.request.headers.authorization ≠ []
  identified : ∀ q ∈ s.requests, ∀ identified ∈ q.identified,
    q.request.headers.authorization ≠ [] ∧
      identify server identified.at_ q.request.headers
        identified.inspection = .ok identified.toIdentity

/-- Requests that have their response do not change any more. -/
def AnsweredStay (requests requests' : List Request) : Prop :=
  ∀ (i : Nat) (q : Request), requests[i]? = some q →
    q.response.isSome = true → requests'[i]? = some q

theorem answeredStay_set {requests : List Request} {j : Nat} {q : Request}
    (hget : requests[j]? = some q) (hwaiting : q.response = none)
    (q' : Request) : AnsweredStay requests (requests.set j q') := by
  intro i other hother hresponse
  have hne : j ≠ i := by
    rintro rfl
    rw [hget] at hother
    cases hother
    rw [hwaiting] at hresponse
    cases hresponse
  rw [List.getElem?_set_ne hne, hother]

theorem answeredStay_append (requests more : List Request) :
    AnsweredStay requests (requests ++ more) := by
  intro i q hget _
  have hlt := (List.getElem?_eq_some_iff.mp hget).1
  exact (List.getElem?_append_left hlt).trans hget

namespace Ledger

variable {server : Server} {store : Store} {requests requests' : List Request}
  {scans : List Scan}

theorem origin_mono (hstay : AnsweredStay requests requests') {put : Put}
    (horigin : Origin server requests put) : Origin server requests' put := by
  rcases horigin with hnumber | ⟨i, q, identified, htag, hget, hrest⟩
  · exact .inl hnumber
  · exact .inr ⟨i, q, identified, htag, hstay i q hget hrest.2.2.1, hrest⟩

theorem mono (hledger : Ledger server store requests scans)
    (hstay : AnsweredStay requests requests') :
    Ledger server store requests' scans :=
  { hledger with
    origin := fun put hput => origin_mono hstay (hledger.origin put hput) }

theorem advance (hledger : Ledger server store requests scans) {now : Int}
    (hnow : store.now ≤ now) :
    Ledger server { store with now } requests scans :=
  ⟨hledger.sound.advance hnow, hledger.origin, hledger.once, hledger.serials,
    hledger.scans⟩

variable {tag : Option Nat}

theorem requestOf_put {key value : Bytes} {ttl : Int} {n i : Nat}
    (hrequest : Store.requestOf (store.put key value ttl tag) n = some i) :
    store.requestOf n = some i ∨ n = store.puts.length ∧ tag = some i := by
  obtain ⟨put, hput, htag⟩ := Option.bind_eq_some_iff.mp hrequest
  rcases getElem?_concat_cases hput with hold | ⟨hn, rfl⟩
  · exact .inl (Option.bind_eq_some_iff.mpr ⟨put, hold, htag⟩)
  · exact .inr ⟨hn, htag⟩

/-- A `SET`, the first one with its tag. -/
theorem set (hledger : Ledger server store requests scans) {key value : Bytes}
    {ttl : Int} (reply : Reply)
    (horigin : Origin server requests ⟨key, value, tag, store.now, ttl⟩)
    (hnew : ∀ i ∈ tag, ∀ n, store.requestOf n ≠ some i) :
    Ledger server (store.set key value ttl tag reply) requests scans := by
  rw [Store.set]
  split
  · constructor
    case sound => exact hledger.sound.put key value ttl tag
    case origin =>
      intro put hput
      rcases List.mem_append.mp hput with hold | hlast
      · exact hledger.origin put hold
      · rw [List.mem_singleton.mp hlast]
        exact horigin
    case once =>
      intro n m i hn hm
      rcases requestOf_put hn with hn | ⟨hn, htag⟩ <;>
        rcases requestOf_put hm with hm | ⟨hm, htag'⟩
      · exact hledger.once n m i hn hm
      · exact absurd hn (hnew i htag' n)
      · exact absurd hm (hnew i htag m)
      · rw [hn, hm]
    case serials => exact hledger.serials
    case scans =>
      intro scan hscan
      obtain ⟨put, hput, hof⟩ := hledger.scans scan hscan
      have hlt := (List.getElem?_eq_some_iff.mp hput).1
      exact ⟨put, (List.getElem?_append_left hlt).trans hput, hof⟩
  · exact hledger

theorem scan {s : State} (hledger : Ledger server s.store s.requests scans)
    {found : Option Scan} {store' : Store}
    (hscanned : Scanned server s found store') :
    Ledger server store' s.requests (scans ++ found.toList) := by
  have hrequestOf : ∀ n, store'.requestOf n = s.store.requestOf n := by
    intro n
    rw [Store.requestOf, Store.requestOf, hscanned.puts]
  constructor
  case sound => exact hscanned.sound hledger.sound
  case origin =>
    rw [hscanned.puts]
    exact hledger.origin
  case once =>
    intro n m i
    rw [hrequestOf, hrequestOf]
    exact hledger.once n m i
  case serials =>
    rw [List.map_append]
    exact (hledger.serials.append (.refl _)).trans hscanned.taken
  case scans =>
    rw [hscanned.puts]
    intro scan hscan
    rcases List.mem_append.mp hscan with hold | hlast
    · exact hledger.scans scan hold
    · have htakes := hscanned.takes scan (Option.mem_toList.mp hlast)
      obtain ⟨entry, hget, hserial, hdecode⟩ := htakes.entry
      obtain ⟨put, hput, hkey, hvalue, hearly, hlate⟩ :=
        hledger.sound.get hget
      rw [hserial] at hput
      refine ⟨put, hput, hkey, ?_, ?_, ?_⟩
      · rw [hvalue, hdecode]
      · rw [htakes.now]
        exact hearly
      · rw [htakes.now]
        exact hlate

end Ledger

theorem inv_init (server : Server) (now : Int) :
    Inv server { store := { now } } := by
  refine ⟨⟨ExpiringStore.sound_empty now, ?_, ?_, ?_, ?_⟩, ?_, ?_, ?_⟩
  · intro put hput
    cases hput
  · intro n m i hn
    cases hn
  · exact List.Sublist.refl _
  all_goals
    intro _ hmem
    cases hmem

theorem Inv.step {s' : State} {label : Label} (hinv : Inv server s)
    (hstep : step server s label = some s') :
    Inv server s' := by
  cases step_cases hstep with
  | tick now hnow => exact { hinv with ledger := hinv.ledger.advance hnow }
  | arrives limiters r response hresponse =>
    refine ⟨hinv.ledger.mono (answeredStay_append _ _), hinv.opened, ?_, ?_⟩
    · intro q hq
      rcases List.mem_append.mp hq with hold | hlast
      · exact hinv.waiting q hold
      · rw [List.mem_singleton.mp hlast]
        exact hresponse
    · intro q hq
      rcases List.mem_append.mp hq with hold | hlast
      · exact hinv.identified q hold
      · rw [List.mem_singleton.mp hlast]
        intro identified hmem
        cases hmem
  | inspects i r q exchanged hget hsame hidentified =>
    have hauthorization := hinv.waiting _ (List.mem_of_getElem? hget) rfl
    refine ⟨hinv.ledger.mono (answeredStay_set hget rfl q), hinv.opened,
      ?_, ?_⟩
    · intro other hother
      rcases List.mem_or_eq_of_mem_set hother with hold | rfl
      · exact hinv.waiting other hold
      · intro _
        rw [hsame]
        exact hauthorization
    · intro other hother
      rcases List.mem_or_eq_of_mem_set hother with hold | rfl
      · exact hinv.identified other hold
      · intro identified hmem
        obtain ⟨hat, hidentify⟩ := hidentified identified hmem
        rw [hsame, hat]
        exact ⟨hauthorization, hidentify⟩
  | exchanges i r identified exchanged token reply hget =>
    have hmem := List.mem_of_getElem? hget
    have hstay := answeredStay_set hget rfl
      ⟨r, some identified, some (token, s.now), some
        (exchangeResponse r identified.toIdentity token reply)⟩
    have hlt := (List.getElem?_eq_some_iff.mp hget).1
    refine ⟨(hinv.ledger.mono hstay).set reply ?_ ?_, hinv.opened, ?_, ?_⟩
    · exact .inr ⟨i, _, identified, rfl, List.getElem?_set_self hlt, rfl,
        rfl, rfl, rfl, rfl⟩
    · -- nothing was put for a request without a response
      rintro _ ⟨⟩ n hn
      obtain ⟨put, hput, htag⟩ := Option.bind_eq_some_iff.mp hn
      rcases hinv.ledger.origin put (List.mem_of_getElem? hput) with
        ⟨hnone, -⟩ | ⟨j, q, -, hj, hq, -, -, hresponse, -⟩
      · rw [htag] at hnone
        cases hnone
      · rw [htag] at hj
        cases hj
        rw [hget] at hq
        cases hq
        cases hresponse
    · intro other hother
      rcases List.mem_or_eq_of_mem_set hother with hold | rfl
      · exact hinv.waiting other hold
      · intro hnone
        cases hnone
    · intro other hother
      rcases List.mem_or_eq_of_mem_set hother with hold | rfl
      · exact hinv.identified other hold
      · rintro _ ⟨⟩
        exact hinv.identified _ hmem identified rfl
  | connects c store hscanned hopened =>
    refine ⟨?_, ?_, hinv.waiting, hinv.identified⟩
    · have hledger := hinv.ledger.scan hscanned
      rw [State.scans, List.filterMap_append]
      cases hscan : c.scan with
      | none => simpa [State.scans, hscan] using hledger
      | some scan => simpa [State.scans, hscan] using hledger
    · intro other hother
      rcases List.mem_append.mp hother with hold | hlast
      · exact hinv.opened other hold
      · rw [List.mem_singleton.mp hlast]
        exact hopened
  | caches total reply =>
    refine { hinv with ledger := hinv.ledger.set reply ?_ ?_ }
    · exact .inl ⟨rfl, total, rfl⟩
    · intro i hi
      cases hi

theorem inv_of_reach {now : Int} (hreach : Reach (step server) Unguarded
      { store := { now } } s) : Inv server s :=
  hreach.invariant (Inv server) (inv_init server now)
    fun _ _ _ hinv _ hstep => hinv.step hstep

/-! ### Single use -/

/-- The token was exchanged for the request at `i`, and the identity is the
one that request was inspected for. -/
def Redeems (s : State) (scan : Scan) (i : Nat) : Prop :=
  ∃ q identified at_, s.requests[i]? = some q ∧
    q.identified = some identified ∧ scan.auth = identified.auth ∧
    q.exchanged = some (scan.token, at_) ∧ at_ ≤ scan.at_ ∧
    scan.at_ < at_ + tokenTTL

/-- Every connection is opened under an identity that a token request was
given less than ten seconds before, and no two under that of one request. -/
structure SingleUse (s : State) : Prop where
  opened : ∀ c ∈ s.connects, c.response = .opened → c.scan.isSome = true
  redeems : ∀ scan ∈ s.scans, ∃ i, s.store.requestOf scan.serial = some i ∧
    Redeems s scan i
  distinct : (s.scans.map fun scan => s.store.requestOf scan.serial).Nodup

theorem Ledger.redeems (hledger : Ledger server s.store s.requests s.scans)
    {scan : Scan} (hscan : scan ∈ s.scans) :
    ∃ i, s.store.requestOf scan.serial = some i ∧
      Redeems s scan i := by
  obtain ⟨put, hput, hof⟩ := hledger.scans scan hscan
  have hdecode := hof.decode
  rcases hledger.origin put (List.mem_of_getElem? hput) with
    ⟨-, n, hvalue⟩ | ⟨i, q, identified, htag, hq, hidentified, hexchanged, -,
      hvalue, httl⟩
  · rw [hvalue, server.codec.decode_number] at hdecode
    cases hdecode
  · rw [hvalue, server.codec.decode_encode] at hdecode
    refine ⟨i, Option.bind_eq_some_iff.mpr ⟨put, hput, htag⟩, q, identified,
      put.at_, hq, hidentified, (Option.some.inj hdecode).symm, ?_,
      hof.early, ?_⟩
    · rw [hexchanged, hof.key]
    · rw [← httl]
      exact hof.late

theorem connToken_single_use {server : Server} {now : Int} {s : State}
    (hreach : Reach (step server) Unguarded
      { store := { now } } s) : SingleUse s := by
  have hinv := inv_of_reach hreach
  refine ⟨hinv.opened, fun scan hscan => hinv.ledger.redeems hscan, ?_⟩
  have hserials : (s.scans.map Scan.serial).Nodup :=
    hinv.ledger.serials.nodup hinv.ledger.sound.nodup
  have hmapped : ((s.scans.map Scan.serial).map s.store.requestOf).Nodup := by
    apply List.Nodup.map_on _ hserials
    intro n hn m _ hsame
    obtain ⟨scan, hscan, rfl⟩ := List.mem_map.mp hn
    obtain ⟨i, hi, -⟩ := hinv.ledger.redeems hscan
    exact hinv.ledger.once _ _ i hi (hsame ▸ hi)
  rw [List.map_map] at hmapped
  exact hmapped

/-! ### A run -/

def decodeFields : Bytes → Option WebsocketAuth
  | [] => none
  | [mark] => if mark = 0 then some ⟨[], []⟩ else none
  | mark :: byte :: rest => if mark = 0 then some ⟨[], byte :: rest⟩
      else (decodeFields rest).map fun auth =>
        { auth with userID := byte :: auth.userID }

/-- The bytes of the user id are marked, and a zero ends them. -/
def encodeFields (auth : WebsocketAuth) : Bytes :=
  auth.userID.flatMap (fun byte => [1, byte]) ++ 0 :: auth.instanceID

theorem decodeFields_encodeFields (auth : WebsocketAuth) :
    decodeFields (encodeFields auth) = some auth := by
  obtain ⟨userID, instanceID⟩ := auth
  induction userID with
  | nil => cases instanceID <;> rfl
  | cons byte rest ih =>
    simp only [encodeFields] at ih
    simp [encodeFields, decodeFields, ih]

/-- Behind the first byte of a map with three fields. -/
def markedCodec : Codec where
  packing := Cache.oneOrNine
  encode auth := 0x83 :: encodeFields auth
  decode
    | [] => none
    | first :: rest => if first = 0x83 then decodeFields rest else none
  decode_encode auth := by
    simp only [if_pos]
    exact decodeFields_encodeFields auth
  decode_number n := by
    have hshort : ∀ m < 128, UInt8.ofNat m ≠ 0x83 := by decide
    by_cases hsmall : 0 ≤ n ∧ n ≤ 127
    · simp only [Cache.oneOrNine, if_pos hsmall]
      exact if_neg (hshort n.toNat (by omega))
    · simp only [Cache.oneOrNine, if_neg hsmall]
      exact if_neg (by decide)

def plainServer : Server where
  signer := ⟨fun _ => [0x6D], by simp, fun _ => by decide⟩
  issueTokenIPLimiter := IPRateLimiter.newIPRateLimiter 5 10
  codec := markedCodec

def plainRequest : IssueRequest := ⟨⟨[0x74], [0x31]⟩, [0x69], true⟩

def plainNanoID : NanoID := ⟨[0x6E], by decide, by decide, by decide⟩

/-- A user and an anonymous client are given tokens. -/
def issueTwo : List Label :=
  [.issueTmpToken plainRequest, .issueTmpToken plainRequest,
    .inspectToken 0 ⟨some (.ok ([0x75], false)), plainNanoID⟩,
    .inspectToken 1 ⟨some (.ok ([], true)), plainNanoID⟩,
    .exchange 1 [0x62] .ok, .exchange 0 [0x61] .ok]

/-- The user presents their token twice, then the key of the cached number,
and the anonymous client comes too late. -/
def presentAll : List Label :=
  [.gobwasEndpoint [0x61] .ok .opened, .gobwasEndpoint [0x61] .ok .opened,
    .cacheTotal 7 .ok, .gobwasEndpoint totalActiveConnection .ok .opened,
    .tick tokenTTL, .gobwasEndpoint [0x62] .ok .opened]

def presented : State :=
  final (step plainServer) {} (issueTwo ++ presentAll)

theorem reach_presented :
    Reach (step plainServer) Unguarded {} presented :=
  reach_final (by decide +kernel) (by decide +kernel)

theorem connToken_single_use_presented :
    SingleUse presented ∧ presented.connects.map Connect.response =
      [.opened, .error (.code .recordNotFound) 401,
        .error (.code .errUnexpectedCodeLogic) 401,
        .error (.code .recordNotFound) 401] :=
  ⟨@connToken_single_use plainServer 0 presented reach_presented,
    by decide +kernel⟩

end ExchangeToken

end Pipewave
