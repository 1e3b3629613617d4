/-
Whatever the services answer to the admin API, they are called for a configured
key only, and the first call that fails decides the answer.
-/
import Pipewave.AdminApi

namespace Pipewave

namespace AdminApi

open AdminSend (Message)

abbrev Log := List (Calls.Exchange Answer)

def MuxConfig.Authorised (cfg : MuxConfig) (request : Request) : Prop :=
  ∃ rest, request.authorization = bearer ++ rest ∧
    cfg.trimSpace rest ≠ [] ∧ cfg.trimSpace rest ∈ cfg.apiKeys

/-- The endpoint behind the two muxes. -/
def Request.endpoint (request : Request) : Option (Endpoint × List Bytes) :=
  if request.clean then request.apiPath.bind (route request.method)
  else none

/-- The send that a body decodes to. -/
def MuxConfig.send (cfg : MuxConfig) (body : Bytes) :
    Endpoint → Option AdminSend.Request
  | .sendToSession => (cfg.codec.sendToSessionReq body).toOption.map
      fun req => .session req.userID req.instanceID req.msgType req.payload
        req.ackTimeoutMs
  | .sendToUser => (cfg.codec.sendToUserReq body).toOption.map
      fun req => .user req.userID req.msgType req.payload req.ackTimeoutMs
  | .sendToUsers => (cfg.codec.sendToUsersReq body).toOption.map
      fun req => .users req.userIDs req.msgType req.payload
  | .broadcast => (cfg.codec.broadcastReq body).toOption.map
      fun req => .broadcast req.target req.msgType req.payload req.instanceIDs
  | _ => none

/-- A call that a handler may make for what it decoded. -/
def Permitted (sent : Option AdminSend.Request) (call : ServiceCall) :
    Prop :=
  ¬ call.IsCleanUp ∧ ∀ message, call.message = some message →
    ∃ send, sent = some send ∧ send.validate = .ok message

/-- What a handler leaves, with `called` if it has already called a service
successfully. -/
structure Handled (allowed : ServiceCall → Prop) (called : Prop) (log : Log)
    (response : Option Response) : Prop where
  calls : ∀ exchange ∈ log, allowed exchange.1
  failed : ∀ exchange ∈ log, ∀ aErr, exchange.2 = .error aErr →
    log.getLast? = some exchange ∧ response = some
      (.json aErr.code.httpCode (.error aErr.code aErr.message))
  served : called ∨ log ≠ [] → (∀ exchange ∈ log, exchange.2.isOk) →
    ∃ body, response = some (.json 200 body)
  returns : response ≠ none

section Handlers

variable {allowed : ServiceCall → Prop} {called : Prop}

theorem handled_done (response : Response) :
    Calls.All (Handled allowed False) (.done (some response)) where
  calls := by simp
  failed := by simp
  served := by simp
  returns := by simp

theorem handled_ok (body : Body) :
    Calls.All (Handled allowed called) (writeJSON 200 body) where
  calls := by simp
  failed := by simp
  served := fun _ _ => ⟨body, rfl⟩
  returns := by simp

/-- The step: one more call, with its error as the answer. -/
theorem handled_request {call : ServiceCall} {next : call.Value → Program}
    (hcall : allowed call)
    (hnext : ∀ value, Calls.All (Handled allowed True) (next value)) :
    Calls.All (Handled allowed called) (request call next) := by
  intro answer
  cases answer with
  | error aErr =>
    exact {
      calls := by simpa using hcall
      failed := by
        intro exchange hmem other hother
        cases List.mem_singleton.mp hmem
        cases hother
        exact ⟨rfl, rfl⟩
      served := by simp [Except.isOk, Except.toBool]
      returns := by simp }
  | ok value =>
    apply (hnext value).mono
    intro log response hrest
    exact {
      calls := by
        rintro exchange (_ | ⟨_, hmem⟩)
        · exact hcall
        · exact hrest.calls exchange hmem
      failed := by
        rintro exchange (_ | ⟨_, hmem⟩) aErr hfailed
        · cases hfailed
        · obtain ⟨hlast, hresponse⟩ :=
            hrest.failed exchange hmem aErr hfailed
          rw [List.getLast?_cons, hlast]
          exact ⟨rfl, hresponse⟩
      served := fun _ hok => hrest.served (Or.inl trivial)
        fun exchange hmem => hok exchange (List.mem_cons_of_mem _ hmem)
      returns := hrest.returns }

theorem handled_decodeBody {α : Type} {decoded : Except String α}
    {next : α → Program}
    (hnext : ∀ req, decoded = .ok req →
      Calls.All (Handled allowed False) (next req)) :
    Calls.All (Handled allowed False) (decodeBody decoded next) := by
  unfold decodeBody
  split
  · exact handled_done _
  · exact hnext _ rfl

end Handlers

theorem permitted_of_message_none {sent : Option AdminSend.Request}
    {call : ServiceCall} (hmessage : call.message = none)
    (hclean : ¬ call.IsCleanUp) : Permitted sent call := by
  refine ⟨hclean, ?_⟩
  intro message hsome
  rw [hmessage] at hsome
  cases hsome

theorem permitted_of_validate {send : AdminSend.Request}
    {call : ServiceCall} {message : Message}
    (hmessage : call.message = some message)
    (hvalid : send.validate = .ok message) :
    Permitted (some send) call := by
  constructor
  · rintro (rfl | rfl)
    · cases hmessage
    · cases hmessage
  · intro other hother
    rw [hmessage] at hother
    cases hother
    exact ⟨send, rfl, hvalid⟩

section Sends

theorem handled_sendToSession (req : SendToSessionReq) :
    Calls.All (Handled (Permitted (some (.session req.userID req.instanceID
      req.msgType req.payload req.ackTimeoutMs))) False)
      (sendToSession req) := by
  unfold sendToSession
  split
  · exact handled_done _
  next hfields =>
    split
    next hack =>
      apply handled_request _ fun acked => handled_ok _
      apply permitted_of_validate rfl
      rw [AdminSend.Request.validate, if_neg hfields, if_pos hack]
    next hack =>
      apply handled_request _ fun _ => handled_ok _
      apply permitted_of_validate rfl
      rw [AdminSend.Request.validate, if_neg hfields, if_neg hack]

theorem handled_sendToUser (req : SendToUserReq) :
    Calls.All (Handled (Permitted (some (.user req.userID req.msgType
      req.payload req.ackTimeoutMs))) False) (sendToUser req) := by
  unfold sendToUser
  split
  · exact handled_done _
  next hfields =>
    split
    next hack =>
      apply handled_request _ fun acked => handled_ok _
      apply permitted_of_validate rfl
      rw [AdminSend.Request.validate, if_neg hfields, if_pos hack]
    next hack =>
      apply handled_request _ fun _ => handled_ok _
      apply permitted_of_validate rfl
      rw [AdminSend.Request.validate, if_neg hfields, if_neg hack]

theorem handled_sendToUsers (req : SendToUsersReq) :
    Calls.All (Handled (Permitted (some (.users req.userIDs req.msgType
      req.payload))) False) (sendToUsers req) := by
  unfold sendToUsers
  split
  · exact handled_done _
  next hfields =>
    apply handled_request _ fun _ => handled_ok _
    apply permitted_of_validate rfl
    rw [AdminSend.Request.validate, if_neg hfields]

theorem handled_broadcast (req : BroadcastReq) :
    Calls.All (Handled (Permitted (some (.broadcast req.target req.msgType
      req.payload req.instanceIDs))) False) (broadcast req) := by
  unfold broadcast
  split
  · exact handled_done _
  next hfields =>
    split
    next hall =>
      apply handled_request _ fun _ => handled_ok _
      apply permitted_of_validate rfl
      rw [AdminSend.Request.validate, if_neg hfields, if_pos hall]
    next hall =>
      split
      next hauth =>
        apply handled_request _ fun _ => handled_ok _
        apply permitted_of_validate rfl
        rw [AdminSend.Request.validate, if_neg hfields, if_neg hall,
          if_pos hauth]
      next hauth =>
        split
        next hanon =>
          apply handled_request _ fun _ => handled_ok _
          apply permitted_of_validate rfl
          rw [AdminSend.Request.validate, if_neg hfields, if_neg hall,
            if_neg hauth, if_pos hanon]
        next => exact handled_done _

end Sends

/-- Every endpoint but the cleanup. -/
theorem handled_handle (cfg : MuxConfig) (body : Bytes) {endpoint : Endpoint}
    (hendpoint : endpoint ≠ .cleanup) (values : List Bytes) :
    Calls.All (Handled (Permitted (cfg.send body endpoint)) False)
      (cfg.handle body endpoint values) := by
  cases endpoint with
  | sendToSession =>
    apply handled_decodeBody
    intro req hreq
    rw [MuxConfig.send, hreq]
    exact handled_sendToSession req
  | sendToUser =>
    apply handled_decodeBody
    intro req hreq
    rw [MuxConfig.send, hreq]
    exact handled_sendToUser req
  | sendToUsers =>
    apply handled_decodeBody
    intro req hreq
    rw [MuxConfig.send, hreq]
    exact handled_sendToUsers req
  | broadcast =>
    apply handled_decodeBody
    intro req hreq
    rw [MuxConfig.send, hreq]
    exact handled_broadcast req
  | checkOnlineBatch =>
    apply handled_decodeBody
    intro userIDs _
    unfold checkOnlineBatch
    split
    · exact handled_done _
    · apply handled_request _ fun _ => handled_ok _
      exact permitted_of_message_none rfl (by simp [ServiceCall.IsCleanUp])
  | cleanup => exact absurd rfl hendpoint
  | webhookPublicKey =>
    change Calls.All _ (webhookPublicKey cfg.publicKey)
    unfold webhookPublicKey
    split
    · exact handled_done _
    · exact handled_ok _
  | monitoringConnections =>
    apply handled_request
    · exact permitted_of_message_none rfl (by simp [ServiceCall.IsCleanUp])
    · intro inside
      apply handled_request _ fun _ => handled_ok _
      exact permitted_of_message_none rfl (by simp [ServiceCall.IsCleanUp])
  | _ =>
    apply handled_request _ fun _ => handled_ok _
    exact permitted_of_message_none rfl (by simp [ServiceCall.IsCleanUp])

theorem matchAnyKey_iff (got : Bytes) (keys : List Bytes) :
    matchAnyKey got keys = true ↔ got ∈ keys := by
  have hfold : ∀ ok, keys.foldl (fun ok k => if got = k then true else ok)
      ok = true ↔ ok = true ∨ got ∈ keys := by
    induction keys with
    | nil => simp
    | cons key rest ih =>
      intro ok
      rw [List.foldl_cons, ih, List.mem_cons]
      split
      next heq => simp [heq]
      next hne => simp [hne]
  rw [matchAnyKey, hfold]
  simp

theorem hasKey_iff (cfg : MuxConfig) (request : Request) :
    cfg.hasKey request.authorization = true ↔ cfg.Authorised request := by
  unfold MuxConfig.hasKey MuxConfig.Authorised
  split
  next hbearer =>
    obtain ⟨rest, hrest⟩ := List.isPrefixOf_iff_prefix.mp hbearer
    rw [← hrest, List.drop_left]
    simp [matchAnyKey_iff]
  next hbearer =>
    simp only [Bool.false_eq_true, false_iff]
    rintro ⟨rest, hrest, -⟩
    apply hbearer
    rw [hrest]
    exact List.isPrefixOf_iff_prefix.mpr (List.prefix_append bearer rest)

theorem ErrorCode.httpCode_ge (e : ErrorCode) : 400 ≤ e.httpCode := by
  unfold ErrorCode.httpCode
  repeat' split
  all_goals decide

/-- What becomes of one request, with the calls that were made for it. -/
structure Answered (cfg : MuxConfig) (request : Request) (log : Log)
    (response : Option Response) : Prop where
  /-- A service is called for a configured key only. -/
  authorised : log ≠ [] → cfg.Authorised request
  /-- A send is one that the checks let through. -/
  sends : ∀ exchange ∈ log, ∀ message, exchange.1.message = some message →
    ∃ endpoint values send, request.endpoint = some (endpoint, values) ∧
      cfg.send request.body endpoint = some send ∧
      send.validate = .ok message
  /-- The first call that fails is the last one and decides the answer. -/
  failed : ∀ exchange ∈ log, ∀ aErr, exchange.2 = .error aErr →
    log.getLast? = some exchange ∧ 400 ≤ aErr.code.httpCode ∧
      response = some
        (.json aErr.code.httpCode (.error aErr.code aErr.message))
  served : log ≠ [] → (∀ exchange ∈ log, exchange.2.isOk) →
    ∃ body, response = some (.json 200 body)
  /-- The stores are never cleaned up. -/
  kept : ∀ exchange ∈ log, ¬ exchange.1.IsCleanUp
  /-- Every request for it dies instead. -/
  aborted : response = none ↔ cfg.Authorised request ∧
    ∃ values, request.endpoint = some (.cleanup, values)

section Muxes

variable {cfg : MuxConfig} {request : Request}

theorem answered_done {response : Response}
    (hcleanup : cfg.Authorised request →
      ∀ values, request.endpoint ≠ some (.cleanup, values)) :
    Calls.All (Answered cfg request) (.done (some response)) where
  authorised := by simp
  sends := by simp
  failed := by simp
  served := by simp
  kept := by simp
  aborted := by
    simp only [reduceCtorEq, false_iff, not_and, not_exists]
    exact hcleanup

theorem answered_of_handled (hkey : cfg.Authorised request)
    {endpoint : Endpoint} {values : List Bytes}
    (hendpoint : request.endpoint = some (endpoint, values))
    (hcleanup : endpoint ≠ .cleanup) {log : Log}
    {response : Option Response}
    (hhandled : Handled (Permitted (cfg.send request.body endpoint)) False
      log response) : Answered cfg request log response where
  authorised := fun _ => hkey
  sends := by
    intro exchange hmem message hmessage
    obtain ⟨send, hsend, hvalid⟩ :=
      (hhandled.calls exchange hmem).2 message hmessage
    exact ⟨endpoint, values, send, hendpoint, hsend, hvalid⟩
  failed := by
    intro exchange hmem aErr hfailed
    obtain ⟨hlast, hresponse⟩ := hhandled.failed exchange hmem aErr hfailed
    exact ⟨hlast, aErr.code.httpCode_ge, hresponse⟩
  served := fun hlog => hhandled.served (Or.inr hlog)
  kept := fun exchange hmem => (hhandled.calls exchange hmem).1
  aborted := by
    constructor
    · intro hnone
      exact absurd hnone hhandled.returns
    · rintro ⟨-, other, hsome⟩
      rw [hendpoint] at hsome
      exact absurd (Prod.mk.inj (Option.some.inj hsome)).1 hcleanup

theorem answered_handle (hkey : cfg.Authorised request)
    {endpoint : Endpoint} {values : List Bytes}
    (hendpoint : request.endpoint = some (endpoint, values)) :
    Calls.All (Answered cfg request)
      (cfg.handle request.body endpoint values) := by
  by_cases hcleanup : endpoint = .cleanup
  · subst hcleanup
    exact {
      authorised := by simp
      sends := by simp
      failed := by simp
      served := by simp
      kept := by simp
      aborted := iff_of_true rfl ⟨hkey, values, hendpoint⟩ }
  · apply (handled_handle cfg request.body hcleanup values).mono
    exact fun _ _ => answered_of_handled hkey hendpoint hcleanup

/-- Whatever the services answer to a request. -/
theorem answered_serve (cfg : MuxConfig) (health : Health)
    (request : Request) :
    Calls.All (Answered cfg request) (cfg.serve health request) := by
  unfold MuxConfig.serve
  by_cases hclean : request.clean = true
  · rw [hclean]
    cases hpath : request.apiPath with
    | none =>
      have hother : request.endpoint = none := by
        rw [Request.endpoint, if_pos hclean, hpath]
        rfl
      have hcleanup : cfg.Authorised request →
          ∀ values, request.endpoint ≠ some (.cleanup, values) := by
        simp [hother]
      simp only [Bool.not_true, Bool.false_eq_true, ↓reduceIte]
      split
      · split
        · exact answered_done hcleanup
        · exact answered_done hcleanup
      · exact answered_done hcleanup
    | some path =>
      have hroute : request.endpoint = route request.method path := by
        rw [Request.endpoint, if_pos hclean, hpath]
        rfl
      cases path with
      | nil =>
        apply answered_done
        intro _ values
        have hnone : route request.method [] = none := by
          cases request.method <;> rfl
        rw [hroute, hnone]
        simp
      | cons segment rest =>
        simp only [Bool.not_true, Bool.false_eq_true, ↓reduceIte]
        split
        next hkey =>
          unfold MuxConfig.api
          split
          next endpoint values hsome =>
            exact answered_handle ((hasKey_iff cfg request).mp hkey)
              (hroute.trans hsome)
          next hnone =>
            have hcleanup : cfg.Authorised request → ∀ values,
                request.endpoint ≠ some (.cleanup, values) := by
              simp [hroute, hnone]
            split
            · exact answered_done hcleanup
            · exact answered_done hcleanup
        next hkey =>
          apply answered_done
          intro hauthorised
          exact absurd ((hasKey_iff cfg request).mpr hauthorised) hkey
  · have hother : request.endpoint = none := by
      rw [Request.endpoint, if_neg hclean]
    rw [Bool.not_eq_true] at hclean
    rw [hclean]
    apply answered_done
    simp [hother]

/-- The requests are answered one after another, each with its own part of the
calls. -/
theorem answered_serveAll (cfg : MuxConfig)
    (requests : List (Health × Request)) :
    Calls.All (fun log responses =>
      ∃ parts : List (Log × Option Response),
        log = (parts.map Prod.fst).flatten ∧
        responses = parts.map Prod.snd ∧
        List.Forall₂ (fun request part =>
          Answered cfg request.2 part.1 part.2) requests parts)
      (cfg.serveAll requests) := by
  induction requests with
  | nil => exact ⟨[], rfl, rfl, List.Forall₂.nil⟩
  | cons first rest ih =>
    apply (answered_serve cfg first.1 first.2).bind
    intro log response hfirst
    apply ih.bind
    rintro logs responses ⟨parts, hlogs, hresponses, hparts⟩
    refine ⟨(log, response) :: parts, ?_, ?_, hparts.cons hfirst⟩
    · rw [List.map_cons, List.flatten_cons, ← hlogs, List.append_nil]
    · rw [List.map_cons, ← hresponses]

end Muxes

/-- Against any services and for any requests. -/
theorem requests_answered (cfg : MuxConfig) (service : Calls.Service Answer)
    (requests : List (Health × Request)) :
    ∃ parts : List (Log × Option Response),
      ((cfg.serveAll requests).run service []).1 =
        (parts.map Prod.fst).flatten ∧
      ((cfg.serveAll requests).run service []).2 = parts.map Prod.snd ∧
      List.Forall₂ (fun request part =>
        Answered cfg request.2 part.1 part.2) requests parts := by
  obtain ⟨log, hlog, parts, hparts, hresponses, hanswered⟩ :=
    (answered_serveAll cfg requests).run service []
  exact ⟨parts, hlog.trans hparts, hresponses, hanswered⟩

end AdminApi

end Pipewave
