/-
The hooks of the stand-alone server.  Those that decide something are calls to
the backend with their retries and fail closed; those that only report put an
event into the asynchronous transport.  What went wrong is logged, and the
client is told no more than what the backend wrote for it.
-/
import Pipewave.SyncCaller
import Pipewave.TokenRedemption

namespace Pipewave

namespace ServerFns

open Transition
open LongPollingSend (Headers)
open Webhook (Attempt CallErr CircuitBreaker Outcome Surroundings attemptsOf
  call)

/-- How the bodies of the answers are decoded: the rejection, the user with
whether the session is anonymous, and output type and data. -/
structure Bodies where
  error : Bytes → Option String
  inspectToken : Bytes → Option (Bytes × Bool)
  handleMessage : Bytes → Option (Bytes × Bytes)

/-- What a call to the backend needs. -/
structure Backend where
  bodies : Bodies
  retryMax : Int
  breaker : CircuitBreaker

inductive HandleMessageMode where
  | sync
  | forward
  | disabled
deriving Repr, DecidableEq

/-- A claim of a token, if it is a string. -/
abbrev Claims := String → Option Bytes

/-- `parse` is `ParseWithClaims` behind the trimming, and `quote` is `%q`. -/
structure JWTInspector where
  userIDClaim : String
  parse : Bytes → Except String Claims
  quote : String → String

def JWTInspector.inspectToken (j : JWTInspector) (token : Bytes) :
    Except String (Bytes × Bool) :=
  match j.parse token with
  | .error err => .error ("authn: verify jwt: " ++ err)
  | .ok claims =>
    let userID := (claims j.userIDClaim).getD []
    if userID = [] then
      .error ("authn: claim " ++ j.quote j.userIDClaim ++
        " missing or not a string")
    else .ok (userID, false)

/-- What the hooks report. -/
inductive Event where
  | messageReceived (auth : WebsocketAuth) (inputType data : Bytes)
  | onNewConnectionEstablished (auth : WebsocketAuth)
  | onCloseConnection (auth : WebsocketAuth)
  | onReadError (auth : WebsocketAuth) (err : String)
  | onWriteError (auth : WebsocketAuth) (err : String)
deriving Repr, DecidableEq

def sanitizeCallError (bodies : Bodies) (hook genericMsg : String) :
    CallErr → String
  | .callError status body =>
    if 400 ≤ status ∧ status < 500 then match bodies.error body with
      | some message => if message ≠ "" then message else hook ++ " rejected"
      | none => hook ++ " rejected"
    else genericMsg
  | .circuitOpen | .transport _ | .decode _ => genericMsg

/-- What `out` was decoded from: the body of the last answer. -/
def lastBody (o : Outcome) : Bytes :=
  match o.posts.getLast? with
  | some ⟨_, .answered _ body⟩ => body
  | _ => []

/-- `out` behind a call that went well; an empty body leaves it zero. -/
def decoded {α : Type} (decode : Bytes → Option α) (zero : α) (o : Outcome) :
    α :=
  if lastBody o = [] then zero else (decode (lastBody o)).getD zero

/-- The call with a place to decode into. -/
def callInto {α : Type} (backend : Backend) (decode : Bytes → Option α)
    (w : Surroundings) : Outcome :=
  call { w with hasOut := true, decodes := fun body => (decode body).isSome }
    backend.retryMax backend.breaker

/-- An empty user name would panic in the auth constructor. -/
def checkUserID (resp : Bytes × Bool) : Except String (Bytes × Bool) :=
  if resp.2 = false ∧ resp.1 = [] then .error "authentication failed"
  else .ok resp

/-- `override` is the JWT mode. -/
def inspectToken (backend : Backend) (override : Option JWTInspector)
    (w : Surroundings) (token : Bytes) : Except String (Bytes × Bool) :=
  match override with
  | some inspector => inspector.inspectToken token
  | none =>
    let o := callInto backend backend.bodies.inspectToken w
    match o.result with
    | some err => .error (sanitizeCallError backend.bodies "inspect_token"
        "authentication failed" err)
    | none => checkUserID
        (decoded backend.bodies.inspectToken ([], false) o)

/-- The answer to the client, and the events. -/
def handleMessage (backend : Backend) (mode : HandleMessageMode)
    (w : Surroundings) (auth : WebsocketAuth) (inputType data : Bytes) :
    Except String (Bytes × Bytes) × List Event :=
  match mode with
  | .forward => (.ok ([], []), [.messageReceived auth inputType data])
  | .disabled => (.ok ([], []), [])
  | .sync =>
    let o := callInto backend backend.bodies.handleMessage w
    match o.result with
    | some err => (.error (sanitizeCallError backend.bodies
        "handle_message" "upstream error" err), [])
    | none =>
      (.ok (decoded backend.bodies.handleMessage ([], []) o), [])

def onNewConnection (backend : Backend) (w : Surroundings)
    (auth : WebsocketAuth) : Except String Unit × List Event :=
  let o := call { w with hasOut := false } backend.retryMax backend.breaker
  match o.result with
  | some err => (.error (sanitizeCallError backend.bodies
      "on_new_connection" "connection rejected" err), [])
  | none => (.ok (), [.onNewConnectionEstablished auth])

def onCloseConnection (auth : WebsocketAuth) : List Event :=
  [.onCloseConnection auth]

def onReadError (auth : WebsocketAuth) (err : String) : List Event :=
  [.onReadError auth err]

def onWriteError (auth : WebsocketAuth) (err : String) : List Event :=
  [.onWriteError auth err]

/-! ### Failing closed -/

/-- The last of the posts was answered with this. -/
def LastAnswer (attempts : Nat → Attempt) (o : Outcome) (status : Int)
    (body : Bytes) : Prop :=
  ∃ k, o.posts.length = k + 1 ∧ attempts k = .answered status body

/-- What the client may learn of a failed call: the fixed text, or, if the
backend rejected it with a 4xx, so much or the message in its body. -/
def Surfaced (bodies : Bodies) (attempts : Nat → Attempt) (o : Outcome)
    (hook genericMsg text : String) : Prop :=
  text = genericMsg ∨ ∃ status body, LastAnswer attempts o status body ∧
    400 ≤ status ∧ status < 500 ∧
    (text = hook ++ " rejected" ∨ text ≠ "" ∧ bodies.error body = some text)

/-- A hook that only goes well if the backend's last answer is a 2xx. -/
structure FailsClosed {α : Type} (bodies : Bodies)
    (attempts : Nat → Attempt) (o : Outcome) (hook genericMsg : String)
    (result : Except String α) : Prop where
  ok : ∀ value, result = .ok value → ∃ status body,
    LastAnswer attempts o status body ∧ 200 ≤ status ∧ status < 300
  error : ∀ text, result = .error text →
    Surfaced bodies attempts o hook genericMsg text

theorem stops_call (w : Surroundings) (retryMax : Int) (b : CircuitBreaker) :
    Webhook.Stops w b (attemptsOf retryMax) (call w retryMax b).posts.length
      (call w retryMax b).result := by
  have hstart : Webhook.Reaches w b 0 :=
    ⟨fun k hk => absurd hk (Nat.not_lt_zero k),
      fun k hk => absurd hk (Nat.not_lt_zero k)⟩
  obtain ⟨n, hstops, -, hposts⟩ :=
    Webhook.stops_callLoop (attemptsOf retryMax) (attemptsOf retryMax) 0
      (Nat.zero_add _) hstart
  have hlength : (call w retryMax b).posts.length = n :=
    (congrArg List.length hposts).trans (Webhook.length_postsUpTo w n)
  rw [hlength]
  exact hstops

section Closed

variable {w : Surroundings} {retryMax : Int} {b : CircuitBreaker}

theorem lastAnswer_of_ok (hresult : (call w retryMax b).result = none) :
    ∃ status body, LastAnswer w.attempts (call w retryMax b) status body ∧
      200 ≤ status ∧ status < 300 := by
  obtain ⟨k, hlength, haccepts⟩ :=
    (stops_call w retryMax b).accepted_iff.mp hresult
  cases hattempt : w.attempts k with
  | transport err =>
    rw [hattempt] at haccepts
    exact haccepts.elim
  | answered status body =>
    rw [hattempt] at haccepts
    exact ⟨status, body, ⟨k, hlength, hattempt⟩, haccepts.1⟩

theorem lastAnswer_of_callError {status : Int} {body : Bytes}
    (hresult : (call w retryMax b).result =
      some (.callError status body)) :
    LastAnswer w.attempts (call w retryMax b) status body := by
  rcases (stops_call w retryMax b).result_eq
    (Webhook.attemptsOf_pos retryMax) with hopen | ⟨k, hlength, herror⟩
  · rw [hopen] at hresult
    cases hresult
  · refine ⟨k, hlength, ?_⟩
    rw [hresult] at herror
    cases hattempt : w.attempts k with
    | transport err =>
      rw [hattempt] at herror
      cases herror
    | answered status' body' =>
      rw [hattempt, Surroundings.errorOf] at herror
      split at herror
      · cases herror
        rfl
      · split at herror <;> cases herror

theorem surfaced_of_error (bodies : Bodies) (hook genericMsg : String)
    {err : CallErr} (hresult : (call w retryMax b).result = some err) :
    Surfaced bodies w.attempts (call w retryMax b) hook genericMsg
      (sanitizeCallError bodies hook genericMsg err) := by
  cases err with
  | circuitOpen | transport | decode => exact .inl rfl
  | callError status body =>
    by_cases hrejected : 400 ≤ status ∧ status < 500
    · refine .inr ⟨status, body, lastAnswer_of_callError hresult,
        hrejected.1, hrejected.2, ?_⟩
      rw [sanitizeCallError, if_pos hrejected]
      cases hbody : bodies.error body with
      | none => exact .inl rfl
      | some message =>
        by_cases hempty : message = ""
        · exact .inl (if_neg (not_not.mpr hempty))
        · simp only [if_pos hempty]
          exact .inr ⟨hempty, trivial⟩
    · rw [sanitizeCallError, if_neg hrejected]
      exact .inl rfl

/-- A hook that fails with the sanitized error if its call does. -/
theorem failsClosed_of_call {α : Type} {bodies : Bodies}
    {hook genericMsg : String} {result : Except String α}
    (herror : ∀ err, (call w retryMax b).result = some err →
      result = .error (sanitizeCallError bodies hook genericMsg err))
    (hok : (call w retryMax b).result = none →
      ∀ text, result = .error text → text = genericMsg) :
    FailsClosed bodies w.attempts (call w retryMax b) hook genericMsg
      result := by
  cases hresult : (call w retryMax b).result with
  | none =>
    exact ⟨fun _ _ => lastAnswer_of_ok hresult,
      fun text htext => .inl (hok hresult text htext)⟩
  | some err =>
    have hsanitized := herror err hresult
    constructor
    · intro value hvalue
      rw [hsanitized] at hvalue
      cases hvalue
    · intro text htext
      rw [hsanitized] at htext
      cases htext
      exact surfaced_of_error bodies hook genericMsg hresult

end Closed

/-- What the three deciding hooks do with the backend's answers, whatever they
are: they go well only behind a 2xx, a connection is reported as established
exactly when it was admitted, and no other text reaches the client. -/
structure Decides (backend : Backend) (w : Surroundings)
    (auth : WebsocketAuth) (token inputType data : Bytes) : Prop where
  inspects : FailsClosed backend.bodies w.attempts
    (callInto backend backend.bodies.inspectToken w) "inspect_token"
    "authentication failed" (inspectToken backend none w token)
  handles : FailsClosed backend.bodies w.attempts
    (callInto backend backend.bodies.handleMessage w) "handle_message"
    "upstream error" (handleMessage backend .sync w auth inputType data).1
  connects : FailsClosed backend.bodies w.attempts
    (call { w with hasOut := false } backend.retryMax backend.breaker)
    "on_new_connection" "connection rejected"
    (onNewConnection backend w auth).1
  admitted : (onNewConnection backend w auth).1.toBool = true ↔
    ∃ status body, LastAnswer w.attempts
      (call { w with hasOut := false } backend.retryMax backend.breaker)
      status body ∧ 200 ≤ status ∧ status < 300
  established : (onNewConnection backend w auth).2 =
    if (onNewConnection backend w auth).1.toBool = true then
      [.onNewConnectionEstablished auth] else []

theorem onNewConnection_toBool (backend : Backend) (w : Surroundings)
    (auth : WebsocketAuth) :
    (onNewConnection backend w auth).1.toBool = true ↔
      (call { w with hasOut := false } backend.retryMax
        backend.breaker).result = none := by
  rw [onNewConnection]
  split
  next err herror => simp [herror, Except.toBool]
  next hnone => simp [hnone, Except.toBool]

theorem hooks_decide (backend : Backend) (w : Surroundings)
    (auth : WebsocketAuth) (token inputType data : Bytes) :
    Decides backend w auth token inputType data := by
  constructor
  case inspects =>
    rw [callInto]
    apply failsClosed_of_call (w := { w with
      hasOut := true
      decodes := fun body => (backend.bodies.inspectToken body).isSome })
    · intro err herror
      simp only [inspectToken, callInto, herror]
    · intro hnone text htext
      simp only [inspectToken, callInto, hnone] at htext
      rw [checkUserID] at htext
      split at htext <;> cases htext
      rfl
  case handles =>
    rw [callInto]
    apply failsClosed_of_call (w := { w with
      hasOut := true
      decodes := fun body => (backend.bodies.handleMessage body).isSome })
    · intro err herror
      simp only [handleMessage, callInto, herror]
    · intro hnone text htext
      simp only [handleMessage, callInto, hnone] at htext
      cases htext
  case connects =>
    apply failsClosed_of_call (w := { w with hasOut := false })
    · intro err herror
      simp only [onNewConnection, herror]
    · intro hnone text htext
      simp only [onNewConnection, hnone] at htext
      cases htext
  case admitted =>
    rw [onNewConnection_toBool]
    constructor
    · intro hnone
      exact lastAnswer_of_ok hnone
    · rintro ⟨status, body, ⟨k, hlength, hattempt⟩, hstatus⟩
      refine (stops_call _ _ _).accepted_iff.mpr ⟨k, hlength, ?_⟩
      simp only [hattempt]
      exact ⟨hstatus, .inl rfl⟩
  case established =>
    rw [onNewConnection]
    split
    next => rfl
    next => rfl

/-! ### No identity that would panic -/

variable {token : Bytes} {backend : Backend} {override : Option JWTInspector}
  {w : Surroundings} {s : State} {q : ExchangeToken.Request}

theorem jwt_userID_ne_nil {j : JWTInspector} {userID : Bytes}
    {isAnonymous : Bool}
    (hok : j.inspectToken token = .ok (userID, isAnonymous)) :
    isAnonymous = false ∧ userID ≠ [] := by
  simp only [JWTInspector.inspectToken] at hok
  split at hok
  · cases hok
  · split at hok
    · cases hok
    next hne =>
      cases hok
      exact ⟨rfl, hne⟩

/-- A user that is not anonymous has a name. -/
theorem inspectToken_userID_ne_nil {userID : Bytes}
    (hok : inspectToken backend override w token = .ok (userID, false)) :
    userID ≠ [] := by
  cases override with
  | some inspector => exact (jwt_userID_ne_nil hok).2
  | none =>
    simp only [inspectToken] at hok
    split at hok
    · cases hok
    · rw [checkUserID] at hok
      split at hok
      · cases hok
      next hresp =>
        rintro rfl
        rw [Except.ok.inj hok] at hresp
        exact hresp ⟨rfl, rfl⟩

open ExchangeToken (IssueResponse Label State identify step)

/-- The step takes what a hook of the server returned, if it is one that takes
the result of `InspectToken`. -/
def FromFns (backend : Backend) (override : Option JWTInspector) :
    Label → Prop
  | .inspectToken _ inspection => ∃ w token,
      inspection.result = some (inspectToken backend override w token)
  | _ => True

theorem mintOrRead_ne_nil (signer : AnonInstance.Signer) (header : Bytes)
    (id : AnonInstance.NanoID) (readAt mintAt : Int) :
    signer.mintOrReadAnonymousInstanceID header id readAt mintAt ≠ [] := by
  rw [AnonInstance.Signer.mintOrReadAnonymousInstanceID]
  split
  next hread => exact AnonInstance.token_ne_nil_of_read hread
  next => simp [AnonInstance.Signer.sign]

theorem identify_ne_panics {inspection : ExchangeToken.Inspection}
    (hresult : inspection.result =
      some (inspectToken backend override w token))
    (server : ExchangeToken.Server) (now : Int) (headers : Headers) :
    identify server now headers inspection ≠ .error .panics := by
  intro hpanics
  rw [identify, hresult] at hpanics
  cases hinspect : inspectToken backend override w token with
  | error err =>
    rw [hinspect] at hpanics
    cases hpanics
  | ok identity =>
    obtain ⟨userID, isAnonymous⟩ := identity
    rw [hinspect] at hpanics
    cases isAnonymous with
    | true =>
      simp only [anonymousUserWebsocketAuth,
        if_neg (mintOrRead_ne_nil _ _ _ _ _)] at hpanics
      cases hpanics
    | false =>
      have huser := inspectToken_userID_ne_nil hinspect
      simp only at hpanics
      split at hpanics
      · cases hpanics
      next hinstance =>
        rw [userWebsocketAuth_eq_some huser hinstance] at hpanics
        cases hpanics

theorem authenticate_ne_panics {s : LongPollingSend.Server}
    (hinspector : s.inspectToken =
      some fun h => inspectToken backend override w h.authorization)
    (h : Headers) :
    LongPollingSend.authenticate s h ≠ .error .panics := by
  intro hpanics
  rw [LongPollingSend.authenticate, hinspector] at hpanics
  split at hpanics
  · cases hpanics
  · simp only at hpanics
    cases hinspect : inspectToken backend override w h.authorization with
    | error err =>
      rw [hinspect] at hpanics
      cases hpanics
    | ok identity =>
      obtain ⟨userID, isAnonymous⟩ := identity
      rw [hinspect] at hpanics
      cases isAnonymous with
      | true =>
        simp only at hpanics
        split at hpanics
        · cases hpanics
        next hread =>
          simp only [anonymousUserWebsocketAuth,
            if_neg (AnonInstance.token_ne_nil_of_read hread)] at hpanics
          cases hpanics
      | false =>
        have huser := inspectToken_userID_ne_nil hinspect
        simp only at hpanics
        split at hpanics
        · cases hpanics
        next hinstance =>
          rw [userWebsocketAuth_eq_some huser hinstance] at hpanics
          cases hpanics

/-- No request of the endpoint has panicked. -/
def Calm (s : State) : Prop :=
  ∀ q ∈ s.requests, q.response ≠ some .panics

theorem Calm.set (hcalm : Calm s) (i : Nat) (hq : q.response ≠ some .panics) :
    ∀ other ∈ s.requests.set i q, other.response ≠ some .panics := by
  intro other hother
  rcases List.mem_or_eq_of_mem_set hother with hold | rfl
  · exact hcalm other hold
  · exact hq

theorem Calm.append (hcalm : Calm s) (hq : q.response ≠ some .panics) :
    ∀ other ∈ s.requests ++ [q], other.response ≠ some .panics := by
  intro other hother
  rcases List.mem_append.mp hother with hold | hlast
  · exact hcalm other hold
  · rw [List.mem_singleton.mp hlast]
    exact hq

theorem Calm.step {server : ExchangeToken.Server} {s' : State} {label : Label}
    (hcalm : Calm s) (hfns : FromFns backend override label)
    (hstep : step server s label = some s') : Calm s' := by
  match label with
  | .tick now =>
    simp only [ExchangeToken.step] at hstep
    split at hstep
    · cases hstep
      exact hcalm
    · cases hstep
  | .issueTmpToken r =>
    cases hstep
    rw [State.issueTmpToken]
    split
    · exact hcalm.append (by simp)
    · apply hcalm.append
      split <;> simp
  | .inspectToken i inspection =>
    simp only [ExchangeToken.step] at hstep
    split at hstep
    next r exchanged hget =>
      cases hstep
      obtain ⟨w, token, hresult⟩ := hfns
      apply hcalm.set i
      have hidentify := identify_ne_panics hresult server s.now r.headers
      split
      next response herror =>
        rintro ⟨⟩
        exact hidentify herror
      · simp
    · cases hstep
  | .exchange i connTmpToken reply =>
    simp only [ExchangeToken.step] at hstep
    split at hstep
    · cases hstep
      apply hcalm.set i
      cases reply <;> simp [ExchangeToken.exchangeResponse]
    · cases hstep
  | .gobwasEndpoint tk reply opening =>
    cases hstep
    rw [State.gobwasEndpoint]
    split <;> exact hcalm
  | .cacheTotal total reply =>
    cases hstep
    exact hcalm

/-- With the server's own hooks, over the backend or with local tokens, no
request for a token and none to send a message panics. -/
theorem fns_never_panic (backend : Backend) (override : Option JWTInspector) :
    (∀ (server : ExchangeToken.Server) (now : Int) (s : State),
      Reach (step server)
        (fun _ label => FromFns backend override label)
        { store := { now } } s →
          ∀ q ∈ s.requests, q.response ≠ some .panics) ∧
      ∀ (s : LongPollingSend.Server) (w : Surroundings) (h : Headers),
        (s.inspectToken = some fun h =>
          inspectToken backend override w h.authorization) →
            LongPollingSend.authenticate s h ≠ .error .panics := by
  constructor
  · intro server now s hreach
    refine hreach.invariant Calm ?_ fun _ _ _ hcalm hfns hstep =>
      hcalm.step hfns hstep
    intro q hq
    cases hq
  · intro s w h hinspector
    exact authenticate_ne_panics hinspector h

/-! A backend that answers with an empty body. -/

def plainBackend : Backend where
  bodies := ⟨fun _ => none, fun _ => none, fun _ => none⟩
  retryMax := 1
  breaker := ⟨1, 0, 0, 0⟩

def emptyAnswer : Surroundings where
  callbackID := [0x63]
  attempts := fun _ => .answered 200 []
  allowAt := fun _ => 0
  recordAt := fun _ => 0
  ctxDone := fun _ => false
  hasOut := true
  decodes := fun _ => false

def emptyInspection : ExchangeToken.Inspection :=
  ⟨some (inspectToken plainBackend none emptyAnswer [0x74]),
    ExchangeToken.plainNanoID⟩

def rejected : List Label :=
  [.issueTmpToken ExchangeToken.plainRequest, .inspectToken 0 emptyInspection]

theorem fns_never_panic_emptyAnswer :
    let s := final (step ExchangeToken.plainServer) {} rejected
    (∀ q ∈ s.requests, q.response ≠ some .panics) ∧
      s.requests.map ExchangeToken.Request.response =
        [some (.error (.text "authentication failed") 401)] := by
  have hmeets : Meets (step ExchangeToken.plainServer)
      (fun _ label => FromFns plainBackend none label) {} rejected :=
    ⟨trivial, ⟨emptyAnswer, [0x74], rfl⟩, trivial⟩
  have hreach := reach_final (by decide +kernel) hmeets
  exact ⟨(fns_never_panic plainBackend none).1 ExchangeToken.plainServer 0 _
    hreach, by decide +kernel⟩

end ServerFns

end Pipewave
