/-
The configuration of a container: missing sections and zero fields are filled
in and then everything is checked.  A container starts exactly if what was
written down satisfies a list of conditions.
-/
import Pipewave.BufferLifetime
import Pipewave.QueuePressure
import Pipewave.RateLimiter

namespace Pipewave

namespace EnvConfig

open RateLimiter (RateLimiterT checkPair)
open QueuePressure (WorkerPoolT)

/-- A check that ends the start with a text. -/
def rejectIf (bad : Prop) [Decidable bad] (text : String) :
    Except String Unit :=
  if bad then .error text else .ok ()

theorem rejectIf_ok_iff (bad : Prop) [Decidable bad] (text : String) :
    rejectIf bad text = .ok () ↔ ¬ bad := by
  unfold rejectIf
  split
  next hbad => simp [hbad]
  next hgood => simp [hgood]

theorem then_ok_iff (first second : Except String Unit) :
    (first >>= fun _ => second) = .ok () ↔
      first = .ok () ∧ second = .ok () := by
  cases first with
  | error text => simp [bind, Except.bind]
  | ok value => simp [bind, Except.bind]

/-! ### Sections -/

structure InfoT where
  env : String := ""
  containerID : String := ""

def InfoT.validate (r : InfoT) : Except String Unit := do
  rejectIf (r.env = "") "info env must not be empty"
  rejectIf (r.containerID = "") "info container id must not be empty"

/-- `generated` is what `generateContainerID` returns. -/
def InfoT.loadDefault (r : InfoT) (generated : String) : InfoT :=
  if r.containerID = "" then { r with containerID := generated } else r

structure CorsT where
  enabled : Bool := false
  exactlyOrigins : List String := []
  regexOrigins : List String := []

/-- The panics of `regexp.MustCompile`. -/
abbrev Compile := String → Except String Unit

def CorsT.anchored (pattern : String) : String := "^(?:" ++ pattern ++ ")$"

def CorsT.validate (compile : Compile) (c : CorsT) : Except String Unit :=
  if c.enabled then do
    rejectIf (c.exactlyOrigins.length = 0 ∧ c.regexOrigins.length = 0)
      ("cors config: either exactly origins or regex origins must be " ++
        "provided when cors is enabled")
    c.regexOrigins.forM fun pattern => compile (CorsT.anchored pattern)
  else .ok ()

def validateActiveConnection (m : ActiveConnectionT) : Except String Unit :=
  match m.validate with
  | some text => .error text
  | none => .ok ()

structure PingCheckerT where
  pingIdleAfter : Int := 0
  pongTimeout : Int := 0

def PingCheckerT.validate (p : PingCheckerT) : Except String Unit := do
  rejectIf (p.pingIdleAfter ≤ 0)
    "ping checker ping idle after must be greater than 0"
  rejectIf (p.pongTimeout ≤ 0)
    "ping checker pong timeout must be greater than 0"

/-- The default of a field that is zero. -/
def orDefault (value fallback : Int) : Int :=
  if value = 0 then fallback else value

def PingCheckerT.loadDefault (p : PingCheckerT) : PingCheckerT where
  pingIdleAfter := orDefault p.pingIdleAfter (20 * 10 ^ 9)
  pongTimeout := orDefault p.pongTimeout (3 * 10 ^ 9)

def rateLimiterDefault (r : RateLimiterT) : RateLimiterT where
  userRate := orDefault r.userRate 30
  userBurst := orDefault r.userBurst 60
  anonymousRate := orDefault r.anonymousRate 5
  anonymousBurst := orDefault r.anonymousBurst 10
  controlFrameRate := orDefault r.controlFrameRate 5
  controlFrameBurst := orDefault r.controlFrameBurst 10
  issueTokenIPRate := orDefault r.issueTokenIPRate 5
  issueTokenIPBurst := orDefault r.issueTokenIPBurst 20

structure AnonymousInstanceT where
  secret : String := ""

def AnonymousInstanceT.validate (a : AnonymousInstanceT) :
    Except String Unit :=
  rejectIf (a.secret = "")
    "anonymous instance secret must be set (ANONYMOUS_INSTANCE_SECRET)"

structure OtelT where
  enabled : Bool := false
  exporterType : String := ""
  filePath : String := ""
  collectorEndpoint : String := ""

def OtelT.allowExporterType : List String :=
  ["discard", "stdout", "file", "otlp-grpc", "otlp-http"]

def OtelT.validate (o : OtelT) : Except String Unit :=
  if o.enabled then do
    rejectIf (o.exporterType ∉ OtelT.allowExporterType)
      ("OTEL.EXPORTER_TYPE must be one of " ++
        "[discard, stdout, file, otlp-grpc, otlp-http]")
    rejectIf (o.exporterType = "file" ∧ o.filePath = "")
      "OTEL.FILE_PATH is required when OTEL.EXPORTER_TYPE is file"
    rejectIf (o.exporterType = "otlp-grpc" ∧ o.collectorEndpoint = "")
      ("OTEL.COLLECTOR_ENDPOINT is required when " ++
        "OTEL.EXPORTER_TYPE is otlp-grpc")
    rejectIf (o.exporterType = "otlp-http" ∧ o.collectorEndpoint = "")
      ("OTEL.COLLECTOR_ENDPOINT is required when " ++
        "OTEL.EXPORTER_TYPE is otlp-http")
  else .ok ()

def OtelT.loadDefault (o : OtelT) : OtelT :=
  if o.exporterType = "" then { o with exporterType := "discard" } else o

structure MetricsT where
  enabled : Bool := false
  port : Int := 0
  path : Bytes := []
  msgTypeAllowlist : List Bytes := []

def maxMetricsMsgTypeLen : Nat := 32

/-- The checks of one entry of the list. -/
def MetricsT.validateEntry (e : Bytes) : Except String Unit := do
  rejectIf (e = [] ∨ maxMetricsMsgTypeLen < e.length)
    "METRICS.MSG_TYPE_ALLOWLIST entries must be 1..32 characters"
  e.forM fun byte => rejectIf (byte < 0x20 ∨ 0x7E < byte)
    "METRICS.MSG_TYPE_ALLOWLIST entries must be printable ASCII"

def MetricsT.validate (m : MetricsT) : Except String Unit :=
  if m.enabled then do
    rejectIf (m.port ≤ 0 ∨ 65535 < m.port)
      "METRICS.PORT must be between 1 and 65535 when METRICS.ENABLED is true"
    rejectIf (m.path.head? ≠ some 0x2F)
      "METRICS.PATH must start with '/' when METRICS.ENABLED is true"
    m.msgTypeAllowlist.forM MetricsT.validateEntry
  else .ok ()

/-- `/metrics`. -/
def MetricsT.defaultPath : Bytes :=
  [0x2F, 0x6D, 0x65, 0x74, 0x72, 0x69, 0x63, 0x73]

def MetricsT.loadDefault (m : MetricsT) : MetricsT :=
  { m with
    port := orDefault m.port 9090
    path := if m.path = [] then MetricsT.defaultPath else m.path }

/-! ### The whole configuration -/

/-- The sections with checks, as they were loaded. -/
structure EnvType where
  info : Option InfoT := none
  activeConnection : Option ActiveConnectionT := none
  pingChecker : Option PingCheckerT := none
  rateLimiter : Option RateLimiterT := none
  anonymousInstance : Option AnonymousInstanceT := none
  workerPool : Option WorkerPoolT := none
  cors : Option CorsT := none
  otel : Option OtelT := none
  metrics : Option MetricsT := none

/-- The sections once none is missing. -/
structure Env where
  info : InfoT
  activeConnection : ActiveConnectionT
  pingChecker : PingCheckerT
  rateLimiter : RateLimiterT
  anonymousInstance : AnonymousInstanceT
  workerPool : WorkerPoolT
  cors : CorsT
  otel : OtelT
  metrics : MetricsT

def EnvType.ensureNonNil (e : EnvType) : Env where
  info := e.info.getD {}
  activeConnection := e.activeConnection.getD ⟨0, 0, 0⟩
  pingChecker := e.pingChecker.getD {}
  rateLimiter := e.rateLimiter.getD ⟨0, 0, 0, 0, 0, 0, 0, 0⟩
  anonymousInstance := e.anonymousInstance.getD {}
  workerPool := e.workerPool.getD {}
  cors := e.cors.getD {}
  otel := e.otel.getD {}
  metrics := e.metrics.getD {}

def Env.loadDefault (e : Env) (generated : String) : Env :=
  { e with
    info := e.info.loadDefault generated
    activeConnection := e.activeConnection.loadDefault
    pingChecker := e.pingChecker.loadDefault
    rateLimiter := rateLimiterDefault e.rateLimiter
    workerPool := e.workerPool.loadDefault
    otel := e.otel.loadDefault
    metrics := e.metrics.loadDefault }

def Env.validate (compile : Compile) (e : Env) : Except String Unit := do
  e.info.validate
  e.cors.validate compile
  validateActiveConnection e.activeConnection
  e.pingChecker.validate
  e.rateLimiter.validate
  e.anonymousInstance.validate
  e.otel.validate
  e.metrics.validate
  e.workerPool.validate

/-- `LoadDefault` and `Validate`, as `FromGoStruct` and `FromYaml` call
them. -/
def EnvType.start (e : EnvType) (generated : String) (compile : Compile) :
    Except String Env :=
  let env := e.ensureNonNil.loadDefault generated
  (env.validate compile).map fun _ => env

/-! ### What is accepted -/

/-- A rate and a burst, either of which may be left out. -/
def PairAccepted (rate burst defaultRate defaultBurst : Int) : Prop :=
  0 ≤ rate ∧ orDefault rate defaultRate ≤ orDefault burst defaultBurst

/-- The conditions on what was written down. -/
structure Accepted (compile : Compile) (e : Env) : Prop where
  env : e.info.env ≠ ""
  secret : e.anonymousInstance.secret ≠ ""
  cors : e.cors.enabled = true →
    (e.cors.exactlyOrigins ≠ [] ∨ e.cors.regexOrigins ≠ []) ∧
    ∀ pattern ∈ e.cors.regexOrigins,
      compile (CorsT.anchored pattern) = .ok ()
  cutoff : 0 ≤ e.activeConnection.heartbeatCutoff
  /-- Twice the cutoff has to fit into 64 bits if it is the default. -/
  ttl : if e.activeConnection.pendingMsgTTL = 0 then
      e.activeConnection.heartbeatCutoff < 2 ^ 62
    else orDefault e.activeConnection.heartbeatCutoff (60 * 10 ^ 9) ≤
      e.activeConnection.pendingMsgTTL
  maxConnections : 0 ≤ e.activeConnection.maxConnections
  ping : 0 ≤ e.pingChecker.pingIdleAfter ∧ 0 ≤ e.pingChecker.pongTimeout
  user : PairAccepted e.rateLimiter.userRate e.rateLimiter.userBurst 30 60
  anonymous : PairAccepted e.rateLimiter.anonymousRate
    e.rateLimiter.anonymousBurst 5 10
  controlFrame : PairAccepted e.rateLimiter.controlFrameRate
    e.rateLimiter.controlFrameBurst 5 10
  issueTokenIP : PairAccepted e.rateLimiter.issueTokenIPRate
    e.rateLimiter.issueTokenIPBurst 5 20
  otel : e.otel.enabled = true →
    (e.otel.exporterType = "" ∨
      e.otel.exporterType ∈ OtelT.allowExporterType) ∧
    (e.otel.exporterType = "file" → e.otel.filePath ≠ "") ∧
    (e.otel.exporterType = "otlp-grpc" ∨ e.otel.exporterType = "otlp-http" →
      e.otel.collectorEndpoint ≠ "")
  metrics : e.metrics.enabled = true →
    0 ≤ e.metrics.port ∧ e.metrics.port ≤ 65535 ∧
    (e.metrics.path = [] ∨ e.metrics.path.head? = some 0x2F) ∧
    ∀ entry ∈ e.metrics.msgTypeAllowlist, entry ≠ [] ∧ entry.length ≤ 32 ∧
      ∀ byte ∈ entry, 0x20 ≤ byte ∧ byte ≤ 0x7E
  /-- Thresholds in the wrong order are repaired, negative ones are not. -/
  workerPool : 0 ≤ e.workerPool.workers ∧ 0 ≤ e.workerPool.buffer ∧
    0 ≤ e.workerPool.upperThreshold ∧ 0 ≤ e.workerPool.lowerThreshold

theorem forM_ok_iff {α : Type} (items : List α)
    (check : α → Except String Unit) :
    items.forM check = .ok () ↔ ∀ item ∈ items, check item = .ok () := by
  induction items with
  | nil => simp [pure, Except.pure]
  | cons item rest ih =>
    change (check item >>= fun _ => rest.forM check) = .ok () ↔ _
    rw [then_ok_iff, ih, List.forall_mem_cons]

theorem info_ok_iff (r : InfoT) {generated : String}
    (hgenerated : generated ≠ "") :
    (r.loadDefault generated).validate = .ok () ↔ r.env ≠ "" := by
  unfold InfoT.validate InfoT.loadDefault
  rw [then_ok_iff, rejectIf_ok_iff, rejectIf_ok_iff]
  split
  · simp [hgenerated]
  next hset => simp [hset]

theorem cors_ok_iff (compile : Compile) (c : CorsT) :
    c.validate compile = .ok () ↔ (c.enabled = true →
      (c.exactlyOrigins ≠ [] ∨ c.regexOrigins ≠ []) ∧
      ∀ pattern ∈ c.regexOrigins,
        compile (CorsT.anchored pattern) = .ok ()) := by
  unfold CorsT.validate
  split
  next henabled =>
    rw [then_ok_iff, rejectIf_ok_iff, forM_ok_iff, not_and_or,
      List.length_eq_zero_iff, List.length_eq_zero_iff]
    simp [henabled]
  next henabled => simp [henabled]

theorem validateActiveConnection_ok_iff (m : ActiveConnectionT) :
    validateActiveConnection m = .ok () ↔ 0 < m.heartbeatCutoff ∧
      0 ≤ m.maxConnections ∧ m.heartbeatCutoff ≤ m.pendingMsgTTL := by
  unfold validateActiveConnection ActiveConnectionT.validate
  by_cases hcutoff : m.heartbeatCutoff ≤ 0
  · simp only [hcutoff, ↓reduceIte, reduceCtorEq, false_iff]
    omega
  · by_cases hcap : m.maxConnections < 0
    · simp only [hcutoff, hcap, ↓reduceIte, reduceCtorEq, false_iff]
      omega
    · by_cases httl : m.pendingMsgTTL < m.heartbeatCutoff
      · simp only [hcutoff, hcap, httl, ↓reduceIte, reduceCtorEq, false_iff]
        omega
      · simp only [hcutoff, hcap, httl, ↓reduceIte, true_iff]
        omega

theorem loadDefault_activeConnection (m : ActiveConnectionT) :
    m.loadDefault =
      let cutoff := orDefault m.heartbeatCutoff (60 * 10 ^ 9)
      ⟨cutoff, orDefault m.pendingMsgTTL (GoTime.wrap64 (cutoff * 2)),
        m.maxConnections⟩ := by
  unfold ActiveConnectionT.loadDefault orDefault
  by_cases hcutoff : m.heartbeatCutoff = 0
  · by_cases httl : m.pendingMsgTTL = 0
    · simp [hcutoff, httl]
    · simp [hcutoff, httl]
  · by_cases httl : m.pendingMsgTTL = 0
    · simp [hcutoff, httl]
    · simp [hcutoff, httl]

theorem le_double_iff {cutoff : Int} (hpos : 0 < cutoff)
    (hbits : cutoff < 2 ^ 63) :
    cutoff ≤ GoTime.wrap64 (cutoff * 2) ↔ cutoff < 2 ^ 62 := by
  unfold GoTime.wrap64 Int.bmod
  dsimp only
  split <;> omega

theorem activeConnection_ok_iff (m : ActiveConnectionT)
    (hbits : m.heartbeatCutoff < 2 ^ 63) :
    validateActiveConnection m.loadDefault = .ok () ↔
      0 ≤ m.heartbeatCutoff ∧
      (if m.pendingMsgTTL = 0 then m.heartbeatCutoff < 2 ^ 62
        else orDefault m.heartbeatCutoff (60 * 10 ^ 9) ≤ m.pendingMsgTTL) ∧
      0 ≤ m.maxConnections := by
  have hdefault : 0 < orDefault m.heartbeatCutoff (60 * 10 ^ 9) ↔
      0 ≤ m.heartbeatCutoff := by
    unfold orDefault
    split <;> omega
  have hsmall : orDefault m.heartbeatCutoff (60 * 10 ^ 9) < 2 ^ 62 ↔
      m.heartbeatCutoff < 2 ^ 62 := by
    unfold orDefault
    split <;> omega
  have hfits : orDefault m.heartbeatCutoff (60 * 10 ^ 9) < 2 ^ 63 := by
    unfold orDefault
    split <;> omega
  rw [loadDefault_activeConnection, validateActiveConnection_ok_iff]
  dsimp only
  rw [hdefault]
  by_cases hcutoff : 0 ≤ m.heartbeatCutoff
  · by_cases httl : m.pendingMsgTTL = 0
    · rw [if_pos httl, ← hsmall,
        ← le_double_iff (hdefault.mpr hcutoff) hfits, httl]
      unfold orDefault
      simp only [↓reduceIte]
      tauto
    · rw [if_neg httl]
      nth_rewrite 2 [orDefault]
      rw [if_neg httl]
      tauto
  · simp [hcutoff]

theorem pingChecker_ok_iff (p : PingCheckerT) :
    p.loadDefault.validate = .ok () ↔
      0 ≤ p.pingIdleAfter ∧ 0 ≤ p.pongTimeout := by
  unfold PingCheckerT.validate PingCheckerT.loadDefault orDefault
  rw [then_ok_iff, rejectIf_ok_iff, rejectIf_ok_iff]
  dsimp only
  split <;> split <;> omega

theorem checkPair_ok_iff (name : String) {rate burst fallback other : Int}
    (hfallback : 0 < fallback) :
    checkPair name (orDefault rate fallback) (orDefault burst other) =
      .ok () ↔ PairAccepted rate burst fallback other := by
  have hrate : 0 < orDefault rate fallback ↔ 0 ≤ rate := by
    unfold orDefault
    split <;> omega
  unfold checkPair PairAccepted
  rw [← hrate]
  split
  · simp only [reduceCtorEq, false_iff]
    omega
  · split
    · simp only [reduceCtorEq, false_iff]
      omega
    · simp only [true_iff]
      omega

theorem rateLimiter_ok_iff (r : RateLimiterT) :
    (rateLimiterDefault r).validate = .ok () ↔
      PairAccepted r.userRate r.userBurst 30 60 ∧
      PairAccepted r.anonymousRate r.anonymousBurst 5 10 ∧
      PairAccepted r.controlFrameRate r.controlFrameBurst 5 10 ∧
      PairAccepted r.issueTokenIPRate r.issueTokenIPBurst 5 20 := by
  unfold RateLimiterT.validate rateLimiterDefault
  rw [then_ok_iff, then_ok_iff, then_ok_iff,
    checkPair_ok_iff _ (by decide), checkPair_ok_iff _ (by decide),
    checkPair_ok_iff _ (by decide), checkPair_ok_iff _ (by decide)]

theorem anonymousInstance_ok_iff (a : AnonymousInstanceT) :
    a.validate = .ok () ↔ a.secret ≠ "" :=
  rejectIf_ok_iff _ _

theorem otel_ok_iff (o : OtelT) :
    o.loadDefault.validate = .ok () ↔ (o.enabled = true →
      (o.exporterType = "" ∨ o.exporterType ∈ OtelT.allowExporterType) ∧
      (o.exporterType = "file" → o.filePath ≠ "") ∧
      (o.exporterType = "otlp-grpc" ∨ o.exporterType = "otlp-http" →
        o.collectorEndpoint ≠ "")) := by
  unfold OtelT.validate OtelT.loadDefault
  by_cases hempty : o.exporterType = ""
  · rw [if_pos hempty]
    split
    · rw [then_ok_iff, then_ok_iff, then_ok_iff, rejectIf_ok_iff,
        rejectIf_ok_iff, rejectIf_ok_iff, rejectIf_ok_iff]
      simp [hempty, OtelT.allowExporterType]
    next henabled =>
      simp only [true_iff]
      exact fun hother => absurd hother henabled
  · rw [if_neg hempty]
    split
    next henabled =>
      rw [then_ok_iff, then_ok_iff, then_ok_iff, rejectIf_ok_iff,
        rejectIf_ok_iff, rejectIf_ok_iff, rejectIf_ok_iff]
      simp only [henabled, forall_const, hempty, false_or]
      tauto
    next henabled =>
      simp only [true_iff]
      exact fun hother => absurd hother henabled

theorem entry_ok_iff (entry : Bytes) :
    MetricsT.validateEntry entry = .ok () ↔ entry ≠ [] ∧
      entry.length ≤ 32 ∧ ∀ byte ∈ entry, 0x20 ≤ byte ∧ byte ≤ 0x7E := by
  unfold MetricsT.validateEntry
  rw [then_ok_iff, rejectIf_ok_iff, forM_ok_iff]
  simp only [rejectIf_ok_iff, not_or, Nat.not_lt, UInt8.not_lt,
    maxMetricsMsgTypeLen, ne_eq, and_assoc]

theorem metrics_ok_iff (m : MetricsT) :
    m.loadDefault.validate = .ok () ↔ (m.enabled = true →
      0 ≤ m.port ∧ m.port ≤ 65535 ∧
      (m.path = [] ∨ m.path.head? = some 0x2F) ∧
      ∀ entry ∈ m.msgTypeAllowlist, entry ≠ [] ∧ entry.length ≤ 32 ∧
        ∀ byte ∈ entry, 0x20 ≤ byte ∧ byte ≤ 0x7E) := by
  have hport : ¬ (orDefault m.port 9090 ≤ 0 ∨
      65535 < orDefault m.port 9090) ↔ 0 ≤ m.port ∧ m.port ≤ 65535 := by
    unfold orDefault
    split <;> omega
  have hpath : ¬ (if m.path = [] then MetricsT.defaultPath
      else m.path).head? ≠ some 0x2F ↔
        m.path = [] ∨ m.path.head? = some 0x2F := by
    split
    next hempty => simp [hempty, MetricsT.defaultPath]
    next hset => simp [hset]
  unfold MetricsT.validate MetricsT.loadDefault
  by_cases henabled : m.enabled = true
  · rw [if_pos henabled, then_ok_iff, then_ok_iff, rejectIf_ok_iff,
      rejectIf_ok_iff, forM_ok_iff, hport, hpath]
    simp only [entry_ok_iff, henabled, forall_const, and_assoc]
  · rw [if_neg henabled]
    simp only [true_iff]
    exact fun hother => absurd hother henabled

theorem workerPool_ok_iff (w : WorkerPoolT) :
    w.loadDefault.validate = .ok () ↔ 0 ≤ w.workers ∧ 0 ≤ w.buffer ∧
      0 ≤ w.upperThreshold ∧ 0 ≤ w.lowerThreshold := by
  have hvalid : ∀ w : WorkerPoolT, w.validate = .ok () ↔
      0 ≤ w.workers ∧ 0 < w.buffer ∧ 0 < w.upperThreshold ∧
      0 ≤ w.lowerThreshold ∧ w.lowerThreshold < w.upperThreshold := by
    intro w
    unfold WorkerPoolT.validate
    repeat' split
    all_goals simp only [reduceCtorEq, false_iff, true_iff]
    all_goals omega
  rw [hvalid]
  unfold WorkerPoolT.loadDefault
  dsimp only
  have hbuffer : 0 < (if w.buffer = 0 then 4096 else w.buffer) ↔
      0 ≤ w.buffer := by
    split <;> omega
  rw [hbuffer]
  by_cases hnonneg : 0 ≤ w.buffer
  · have hquarter : 0 ≤ (if w.buffer = 0 then 4096
        else w.buffer).tdiv 4 :=
      Int.tdiv_nonneg (hbuffer.mpr hnonneg).le (by decide)
    have hupper := le_max_left 1
      (((if w.buffer = 0 then 4096 else w.buffer) * 3).tdiv 4)
    -- only the signs of the two ratios matter
    generalize (if w.buffer = 0 then 4096 else w.buffer).tdiv 4 = quarter
      at hquarter ⊢
    generalize max 1 (((if w.buffer = 0 then 4096 else w.buffer) * 3).tdiv 4)
      = upper at hupper ⊢
    repeat' split
    all_goals omega
  · simp [hnonneg]

/-- A container starts exactly if what was written down is accepted. -/
theorem starts_iff (compile : Compile) (e : EnvType) {generated : String}
    (hgenerated : generated ≠ "")
    (hbits : e.ensureNonNil.activeConnection.heartbeatCutoff < 2 ^ 63) :
    (∃ env, e.start generated compile = .ok env) ↔
      Accepted compile e.ensureNonNil := by
  have hstart : (∃ env, e.start generated compile = .ok env) ↔
      (e.ensureNonNil.loadDefault generated).validate compile = .ok () := by
    unfold EnvType.start
    dsimp only
    generalize (e.ensureNonNil.loadDefault generated).validate compile =
      checked
    cases checked with
    | error text => simp [Except.map]
    | ok value => simp [Except.map]
  rw [hstart, Env.validate]
  simp only [then_ok_iff, Env.loadDefault, info_ok_iff _ hgenerated,
    cors_ok_iff, activeConnection_ok_iff _ hbits, pingChecker_ok_iff,
    rateLimiter_ok_iff, anonymousInstance_ok_iff, otel_ok_iff,
    metrics_ok_iff, workerPool_ok_iff]
  constructor
  · rintro ⟨henv, hcors, ⟨hcutoff, httl, hcap⟩, hping,
      ⟨huser, hanon, hcontrol, hissue⟩, hsecret, hotel, hmetrics, hpool⟩
    exact { env := henv, secret := hsecret, cors := hcors, cutoff := hcutoff,
            ttl := httl, maxConnections := hcap, ping := hping, user := huser,
            anonymous := hanon, controlFrame := hcontrol,
            issueTokenIP := hissue, otel := hotel, metrics := hmetrics,
            workerPool := hpool }
  · intro h
    exact ⟨h.env, h.cors, ⟨h.cutoff, h.ttl, h.maxConnections⟩, h.ping,
      ⟨h.user, h.anonymous, h.controlFrame, h.issueTokenIP⟩, h.secret,
      h.otel, h.metrics, h.workerPool⟩

/-- The two settings without a default, and a rate for users. -/
def smallest (userRate : Int) : EnvType where
  info := some { env := "prod" }
  anonymousInstance := some { secret := "s" }
  rateLimiter := some ⟨userRate, 0, 0, 0, 0, 0, 0, 0⟩

/-- A rate above the default burst is refused unless the burst is set too. -/
theorem starts_iff_smallest :
    (∃ env, (smallest 60).start "c" (fun _ => .ok ()) = .ok env) ∧
    ¬ ∃ env, (smallest 61).start "c" (fun _ => .ok ()) = .ok env := by
  have hbits : ∀ userRate,
      (smallest userRate).ensureNonNil.activeConnection.heartbeatCutoff <
        2 ^ 63 := by
    intro userRate
    change (0 : Int) < 2 ^ 63
    decide
  constructor
  · apply (starts_iff _ (smallest 60) (by decide) (hbits 60)).mpr
    exact { env := by decide, secret := by decide
            cors := fun h => by cases h
            cutoff := by decide, ttl := by decide
            maxConnections := by decide, ping := by decide
            user := ⟨by decide, by decide⟩
            anonymous := ⟨by decide, by decide⟩
            controlFrame := ⟨by decide, by decide⟩
            issueTokenIP := ⟨by decide, by decide⟩
            otel := fun h => by cases h
            metrics := fun h => by cases h
            workerPool := by decide }
  · rw [starts_iff _ (smallest 61) (by decide) (hbits 61)]
    intro haccepted
    exact absurd haccepted.user.2 (by decide)

end EnvConfig

end Pipewave
