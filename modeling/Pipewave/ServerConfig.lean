/-
The configuration of the stand-alone server.  Unlike the checks of a container,
most of its defaults also replace negative numbers, so that few of the numbers
can be refused.
-/
import Pipewave.EnvConfig

namespace Pipewave

namespace ServerConfig

open EnvConfig (rejectIf rejectIf_ok_iff then_ok_iff)

def authModeJWT : String := "jwt"
def authModeWebhook : String := "webhook"
def handleMsgModeSync : String := "sync"
def handleMsgModeForward : String := "forward"
def handleMsgModeDisabled : String := "disabled"
def signatureModeEnabled : String := "enabled"
def signatureModeDisabled : String := "disabled"
def repositoryPostgres : String := "postgres"
def repositoryDynamoDB : String := "dynamodb"
def unhealthyActionShutdown : String := "shutdown"
def unhealthyActionLogOnly : String := "log-only"
def transportWebhook : String := "webhook"
def transportPubsub : String := "pubsub"
def pubsubDriverNATSJS : String := "natsjs"

structure JWTT where
  jwksURL : String := ""
  publicKeyPEMFile : String := ""
  userIDClaim : String := ""

structure AuthT where
  mode : String := ""
  jwt : JWTT := {}

structure SignatureT where
  mode : String := ""
  signingKeyFile : String := ""

structure HandleMsgT where
  mode : String := ""
  timeout : Int := 0

structure SyncRetryT where
  max : Int := 0
  backoff : Int := 0

structure BreakerT where
  threshold : Int := 0
  cooldown : Int := 0

structure PingT where
  enabled : Bool := false
  path : String := ""
  interval : Int := 0
  timeout : Int := 0
  bootCheck : Bool := false
  failThreshold : Int := 0

structure CallbackPubsubT where
  driver : String := ""
  url : String := ""
  stream : String := ""
  subjectPrefix : String := ""

structure CallbacksT where
  baseURL : String := ""
  signature : SignatureT := {}
  handleMessage : HandleMsgT := {}
  syncTimeout : Int := 0
  asyncRetryMax : Int := 0
  syncRetry : SyncRetryT := {}
  breaker : BreakerT := {}
  ping : PingT := {}
  unhealthyAction : String := ""
  transport : String := ""
  pubsub : CallbackPubsubT := {}

structure ServerConfigT where
  clientAddr : String := ""
  adminAddr : String := ""
  apiKeys : List String := []
  repository : String := ""
  auth : AuthT := {}
  callbacks : CallbacksT := {}

/-- The default of a text that is empty. -/
def orText (value fallback : String) : String :=
  if value = "" then fallback else value

/-- The default of a number that is not positive. -/
def orPositive (value fallback : Int) : Int :=
  if value ≤ 0 then fallback else value

def second : Int := 10 ^ 9

def millisecond : Int := 10 ^ 6

def PingT.loadDefault (p : PingT) : PingT :=
  if p.enabled then
    { p with
      path := orText p.path "/pipewave/ping"
      interval := orPositive p.interval (30 * second)
      timeout := orPositive p.timeout (3 * second)
      failThreshold := orPositive p.failThreshold 3
      bootCheck := true }
  else p

def CallbackPubsubT.loadDefault (p : CallbackPubsubT) (transport : String) :
    CallbackPubsubT :=
  if transport = transportPubsub then
    { p with
      driver := orText p.driver pubsubDriverNATSJS
      stream := orText p.stream "PIPEWAVE_EVENTS"
      subjectPrefix := orText p.subjectPrefix "pipewave.events" }
  else p

def CallbacksT.loadDefault (c : CallbacksT) : CallbacksT :=
  let transport := orText c.transport transportWebhook
  { c with
    signature :=
      { mode := orText c.signature.mode signatureModeEnabled
        signingKeyFile :=
          orText c.signature.signingKeyFile "webhook_ed25519.key" }
    handleMessage :=
      { mode := orText c.handleMessage.mode handleMsgModeSync
        timeout := orPositive c.handleMessage.timeout (5 * second) }
    syncTimeout := orPositive c.syncTimeout (3 * second)
    asyncRetryMax := orPositive c.asyncRetryMax 6
    syncRetry :=
      { max := orPositive c.syncRetry.max 1
        backoff := orPositive c.syncRetry.backoff (100 * millisecond) }
    breaker :=
      { threshold := orPositive c.breaker.threshold 5
        cooldown := orPositive c.breaker.cooldown (10 * second) }
    ping := c.ping.loadDefault
    unhealthyAction := orText c.unhealthyAction unhealthyActionLogOnly
    transport
    pubsub := c.pubsub.loadDefault transport }

def ServerConfigT.loadDefault (c : ServerConfigT) : ServerConfigT :=
  { c with
    clientAddr := orText c.clientAddr ":8080"
    adminAddr := orText c.adminAddr ":8081"
    repository := orText c.repository repositoryPostgres
    auth := { c.auth with
      jwt := { c.auth.jwt with
        userIDClaim := orText c.auth.jwt.userIDClaim "sub" } }
    callbacks := c.callbacks.loadDefault }

/-- `quote` is `%q`. -/
def AuthT.validate (quote : String → String) (a : AuthT) :
    Except String Unit :=
  if a.mode = authModeWebhook then .ok ()
  else if a.mode = authModeJWT then
    rejectIf (a.jwt.jwksURL = "" ∧ a.jwt.publicKeyPEMFile = "")
      ("serverconfig: SERVER.AUTH.MODE=jwt requires JWKS_URL or " ++
        "PUBLIC_KEY_PEM_FILE")
  else .error ("serverconfig: SERVER.AUTH.MODE must be " ++
    quote authModeJWT ++ " or " ++ quote authModeWebhook ++ ", got " ++
    quote a.mode)

def CallbacksT.validateTransport (quote : String → String)
    (c : CallbacksT) : Except String Unit :=
  if c.transport = transportWebhook then .ok ()
  else if c.transport = transportPubsub then do
    rejectIf (c.pubsub.url = "")
      ("serverconfig: SERVER.CALLBACKS.PUBSUB.URL is required when " ++
        "TRANSPORT=pubsub")
    rejectIf (c.pubsub.driver ≠ pubsubDriverNATSJS)
      ("serverconfig: SERVER.CALLBACKS.PUBSUB.DRIVER must be " ++
        quote pubsubDriverNATSJS ++ ", got " ++ quote c.pubsub.driver)
  else .error ("serverconfig: SERVER.CALLBACKS.TRANSPORT must be " ++
    quote transportWebhook ++ " or " ++ quote transportPubsub ++ ", got " ++
    quote c.transport)

def ServerConfigT.validate (quote : String → String) (c : ServerConfigT) :
    Except String Unit := do
  rejectIf (c.apiKeys.length = 0)
    "serverconfig: SERVER.API_KEYS must not be empty"
  c.auth.validate quote
  rejectIf (c.callbacks.baseURL = "")
    "serverconfig: SERVER.CALLBACKS.BASE_URL is required"
  c.callbacks.validateTransport quote
  rejectIf (c.callbacks.handleMessage.mode ∉
      [handleMsgModeSync, handleMsgModeForward, handleMsgModeDisabled])
    ("serverconfig: SERVER.CALLBACKS.HANDLE_MESSAGE.MODE must be " ++
      "sync|forward|disabled, got " ++ quote c.callbacks.handleMessage.mode)
  rejectIf (c.callbacks.signature.mode ∉
      [signatureModeEnabled, signatureModeDisabled])
    ("serverconfig: SERVER.CALLBACKS.SIGNATURE.MODE must be " ++
      quote signatureModeEnabled ++ " or " ++ quote signatureModeDisabled ++
      ", got " ++ quote c.callbacks.signature.mode)
  rejectIf (c.repository ∉ [repositoryPostgres, repositoryDynamoDB])
    ("serverconfig: SERVER.REPOSITORY must be postgres|dynamodb, got " ++
      quote c.repository)
  rejectIf (c.callbacks.unhealthyAction ∉
      [unhealthyActionShutdown, unhealthyActionLogOnly])
    ("serverconfig: SERVER.CALLBACKS.UNHEALTHY_ACTION must be " ++
      quote unhealthyActionShutdown ++ " or " ++
      quote unhealthyActionLogOnly ++ ", got " ++
      quote c.callbacks.unhealthyAction)
  rejectIf (c.callbacks.syncRetry.max < 1)
    ("serverconfig: SERVER.CALLBACKS.SYNC_RETRY.MAX must be >= 1, got " ++
      toString c.callbacks.syncRetry.max)

/-- `Load` behind the reading of the files. -/
def load (quote : String → String) (c : ServerConfigT) :
    Except String ServerConfigT :=
  let cfg := c.loadDefault
  (cfg.validate quote).map fun _ => cfg

/-! ### What is accepted -/

/-- A mode that may be left out. -/
def ModeAccepted (mode : String) (modes : List String) : Prop :=
  mode = "" ∨ mode ∈ modes

/-- The conditions on what was written down. -/
structure Accepted (c : ServerConfigT) : Prop where
  apiKeys : c.apiKeys ≠ []
  auth : c.auth.mode = authModeWebhook ∨ c.auth.mode = authModeJWT ∧
    (c.auth.jwt.jwksURL ≠ "" ∨ c.auth.jwt.publicKeyPEMFile ≠ "")
  baseURL : c.callbacks.baseURL ≠ ""
  transport : ModeAccepted c.callbacks.transport [transportWebhook] ∨
    c.callbacks.transport = transportPubsub ∧ c.callbacks.pubsub.url ≠ "" ∧
      ModeAccepted c.callbacks.pubsub.driver [pubsubDriverNATSJS]
  handleMessage : ModeAccepted c.callbacks.handleMessage.mode
    [handleMsgModeSync, handleMsgModeForward, handleMsgModeDisabled]
  signature : ModeAccepted c.callbacks.signature.mode
    [signatureModeEnabled, signatureModeDisabled]
  repository : ModeAccepted c.repository
    [repositoryPostgres, repositoryDynamoDB]
  unhealthyAction : ModeAccepted c.callbacks.unhealthyAction
    [unhealthyActionShutdown, unhealthyActionLogOnly]

/-- What the callers, the breaker, the pinger and the broker rely on. -/
structure Usable (c : ServerConfigT) : Prop where
  timeouts : 0 < c.callbacks.handleMessage.timeout ∧
    0 < c.callbacks.syncTimeout
  retries : 1 ≤ c.callbacks.asyncRetryMax ∧ 1 ≤ c.callbacks.syncRetry.max ∧
    0 < c.callbacks.syncRetry.backoff
  breaker : 1 ≤ c.callbacks.breaker.threshold ∧
    0 < c.callbacks.breaker.cooldown
  ping : c.callbacks.ping.enabled = true →
    0 < c.callbacks.ping.interval ∧ 0 < c.callbacks.ping.timeout ∧
    1 ≤ c.callbacks.ping.failThreshold ∧ c.callbacks.ping.bootCheck = true
  pubsub : c.callbacks.transport = transportPubsub →
    c.callbacks.pubsub.stream ≠ "" ∧ c.callbacks.pubsub.subjectPrefix ≠ ""

theorem orPositive_pos (value : Int) {fallback : Int}
    (hfallback : 0 < fallback) : 0 < orPositive value fallback := by
  unfold orPositive
  split <;> omega

theorem orText_ne {fallback : String} (value : String)
    (hfallback : fallback ≠ "") : orText value fallback ≠ "" := by
  unfold orText
  split
  · exact hfallback
  next hset => exact hset

theorem orText_mem_iff {mode fallback : String} {modes : List String}
    (hfallback : fallback ∈ modes) :
    ¬ orText mode fallback ∉ modes ↔ ModeAccepted mode modes := by
  unfold orText ModeAccepted
  split
  next hempty => simp [hempty, hfallback]
  next hset => simp [hset]

/-- The defaults make everything usable, accepted or not. -/
theorem usable_loadDefault (c : ServerConfigT) : Usable c.loadDefault where
  timeouts := ⟨orPositive_pos _ (by decide), orPositive_pos _ (by decide)⟩
  retries := ⟨orPositive_pos _ (by decide), orPositive_pos _ (by decide),
    orPositive_pos _ (by decide)⟩
  breaker := ⟨orPositive_pos _ (by decide), orPositive_pos _ (by decide)⟩
  ping := by
    intro henabled
    change c.callbacks.ping.loadDefault.enabled = true at henabled
    change 0 < c.callbacks.ping.loadDefault.interval ∧
      0 < c.callbacks.ping.loadDefault.timeout ∧
      1 ≤ c.callbacks.ping.loadDefault.failThreshold ∧
      c.callbacks.ping.loadDefault.bootCheck = true
    unfold PingT.loadDefault at henabled ⊢
    split at henabled
    next hping =>
      rw [if_pos hping]
      exact ⟨orPositive_pos _ (by decide), orPositive_pos _ (by decide),
        orPositive_pos _ (by decide), rfl⟩
    next hping => exact absurd henabled hping
  pubsub := by
    intro htransport
    change orText c.callbacks.transport transportWebhook = transportPubsub
      at htransport
    change (c.callbacks.pubsub.loadDefault
        (orText c.callbacks.transport transportWebhook)).stream ≠ "" ∧
      (c.callbacks.pubsub.loadDefault
        (orText c.callbacks.transport transportWebhook)).subjectPrefix ≠ ""
    unfold CallbackPubsubT.loadDefault
    rw [if_pos htransport]
    exact ⟨orText_ne _ (by decide), orText_ne _ (by decide)⟩

theorem auth_ok_iff (quote : String → String) (a : AuthT) :
    a.validate quote = .ok () ↔ a.mode = authModeWebhook ∨
      a.mode = authModeJWT ∧
        (a.jwt.jwksURL ≠ "" ∨ a.jwt.publicKeyPEMFile ≠ "") := by
  unfold AuthT.validate
  split
  next hwebhook => simp [hwebhook]
  next hwebhook =>
    split
    next hjwt =>
      rw [rejectIf_ok_iff, not_and_or]
      simp [hjwt, authModeJWT, authModeWebhook]
    next hjwt => simp [hwebhook, hjwt]

theorem transport_ok_iff (quote : String → String) (c : CallbacksT) :
    c.loadDefault.validateTransport quote = .ok () ↔
      ModeAccepted c.transport [transportWebhook] ∨
      c.transport = transportPubsub ∧ c.pubsub.url ≠ "" ∧
        ModeAccepted c.pubsub.driver [pubsubDriverNATSJS] := by
  have hwebhook : orText c.transport transportWebhook = transportWebhook ↔
      ModeAccepted c.transport [transportWebhook] := by
    rw [← orText_mem_iff List.mem_cons_self]
    simp
  have hpubsub : orText c.transport transportWebhook = transportPubsub ↔
      c.transport = transportPubsub := by
    unfold orText
    split
    next hempty =>
      rw [hempty]
      decide
    next => exact Iff.rfl
  have hdriver : ¬ orText c.pubsub.driver pubsubDriverNATSJS ≠
      pubsubDriverNATSJS ↔
        ModeAccepted c.pubsub.driver [pubsubDriverNATSJS] := by
    rw [← orText_mem_iff List.mem_cons_self]
    simp
  unfold CallbacksT.validateTransport CallbacksT.loadDefault
  dsimp only
  split
  next hmode => simp [hwebhook.mp hmode]
  next hmode =>
    split
    next hbroker =>
      rw [then_ok_iff, rejectIf_ok_iff, rejectIf_ok_iff,
        CallbackPubsubT.loadDefault, if_pos hbroker]
      dsimp only
      rw [hdriver, ← hpubsub, ← hwebhook]
      constructor
      · exact fun hrest => Or.inr ⟨hbroker, hrest⟩
      · rintro (hother | ⟨-, hrest⟩)
        · exact absurd hother hmode
        · exact hrest
    next hbroker =>
      simp [← hwebhook, ← hpubsub, hmode, hbroker]

/-- The server starts exactly if what was written down is accepted, and what
it starts with is usable; no number is ever refused. -/
theorem loads_iff (quote : String → String) (c : ServerConfigT) :
    ((∃ cfg, load quote c = .ok cfg) ↔ Accepted c) ∧
    ∀ cfg, load quote c = .ok cfg → Usable cfg := by
  have hload : ∀ cfg, load quote c = .ok cfg ↔
      c.loadDefault.validate quote = .ok () ∧ c.loadDefault = cfg := by
    intro cfg
    unfold load
    dsimp only
    generalize c.loadDefault.validate quote = checked
    cases checked with
    | error text => simp [Except.map]
    | ok value => simp [Except.map]
  constructor
  · have hexists : (∃ cfg, load quote c = .ok cfg) ↔
        c.loadDefault.validate quote = .ok () := by
      simp [hload]
    have hretry : ¬ c.loadDefault.callbacks.syncRetry.max < 1 :=
      not_lt.mpr (usable_loadDefault c).retries.2.1
    have hkeys : ¬ c.loadDefault.apiKeys.length = 0 ↔ c.apiKeys ≠ [] :=
      not_congr List.length_eq_zero_iff
    rw [hexists, ServerConfigT.validate]
    simp only [then_ok_iff, rejectIf_ok_iff, auth_ok_iff, hretry, hkeys]
    constructor
    · rintro ⟨hkeys, hauth, hurl, htransport, hmode, hsignature, hrepository,
        haction, -⟩
      exact {
        apiKeys := hkeys
        auth := hauth
        baseURL := hurl
        transport := (transport_ok_iff quote c.callbacks).mp htransport
        handleMessage := (orText_mem_iff (by decide)).mp hmode
        signature := (orText_mem_iff (by decide)).mp hsignature
        repository := (orText_mem_iff (by decide)).mp hrepository
        unhealthyAction := (orText_mem_iff (by decide)).mp haction }
    · intro h
      exact ⟨h.apiKeys, h.auth, h.baseURL,
        (transport_ok_iff quote c.callbacks).mpr h.transport,
        (orText_mem_iff (by decide)).mpr h.handleMessage,
        (orText_mem_iff (by decide)).mpr h.signature,
        (orText_mem_iff (by decide)).mpr h.repository,
        (orText_mem_iff (by decide)).mpr h.unhealthyAction, not_false⟩
  · intro cfg hcfg
    obtain ⟨-, rfl⟩ := (hload cfg).mp hcfg
    exact usable_loadDefault c

end ServerConfig

end Pipewave
