/-
What becomes of requests and responses on the wire.  Both records travel in
the same frame: a request is written like the response that has only its
fields, and every response can be read as a request.
-/
import Pipewave.MessageType

namespace Pipewave

open Wire

/-- A field exceeds its limit.  A control type travels as its code. -/
def WebsocketResponse.TooLong (res : WebsocketResponse) : Prop :=
  255 < res.id.length ∨ 255 < res.responseToId.length ∨
    255 < res.ackId.length ∨
    (¬ IsControlType res.msgType ∧ 255 < res.msgType.length) ∨
    65535 < res.error.length

def WebsocketResquest.TooLong (req : WebsocketResquest) : Prop :=
  255 < req.id.length ∨
    (¬ IsControlType req.msgType ∧ 255 < req.msgType.length)

/-- The nil payload becomes the empty one. -/
def WebsocketResponse.normalise (res : WebsocketResponse) :
    WebsocketResponse :=
  { res with binary := some (res.binary.getD []) }

def WebsocketResquest.normalise (req : WebsocketResquest) :
    WebsocketResquest :=
  { req with binary := some (req.binary.getD []) }

/-- What a response says to a reader of requests. -/
def WebsocketResponse.request (res : WebsocketResponse) :
    WebsocketResquest where
  id := res.id
  msgType := res.msgType
  binary := res.binary

/-- The response whose frame a request is written as. -/
def WebsocketResquest.response (req : WebsocketResquest) :
    WebsocketResponse where
  id := req.id
  msgType := req.msgType
  binary := req.binary

/-- A kind of message survives the wire. -/
structure Survives {Message : Type} (marshall : Message → Option Bytes)
    (unmarshallInto : Message → Bytes → Message × Option Stop)
    (tooLong : Message → Prop) (normalise : Message → Message) : Prop where
  refused : ∀ message, marshall message = none ↔ tooLong message
  restored : ∀ message data, marshall message = some data → ∀ target,
    unmarshallInto target data = (normalise message, none)
  injective : ∀ message message', ¬ tooLong message → ¬ tooLong message' →
    marshall message = marshall message' →
      normalise message = normalise message'

/-- The third law follows from the other two. -/
theorem Survives.of_restored {Message : Type}
    {marshall : Message → Option Bytes}
    {unmarshallInto : Message → Bytes → Message × Option Stop}
    {tooLong : Message → Prop} {normalise : Message → Message}
    (hrefused : ∀ message, marshall message = none ↔ tooLong message)
    (hrestored : ∀ message data, marshall message = some data → ∀ target,
      unmarshallInto target data = (normalise message, none)) :
    Survives marshall unmarshallInto tooLong normalise where
  refused := hrefused
  restored := hrestored
  injective := by
    intro message message' hfits _ hsame
    rw [← hrefused] at hfits
    obtain ⟨data, hdata⟩ := Option.ne_none_iff_exists'.mp hfits
    have hmessage := hrestored message data hdata message
    have hmessage' := hrestored message' data (hsame ▸ hdata) message
    rw [hmessage] at hmessage'
    exact (Prod.mk.inj hmessage').1

theorem length_wireHead_le_iff (mt : MessageType) :
    (wireHead mt).1.length ≤ 255 ↔
      ¬ (¬ IsControlType mt ∧ 255 < mt.length) := by
  by_cases hcontrol : IsControlType mt
  · rw [(wireHead_eq_nil_iff mt).mpr hcontrol]
    simp [hcontrol]
  · have hhead : (wireHead mt).1 = mt := by
      rw [IsControlType, not_or, not_or] at hcontrol
      simp [wireHead, controlCodeFor, hcontrol.2.1, hcontrol.2.2]
    rw [hhead]
    simp [hcontrol]

namespace WebsocketResponse

variable {res : WebsocketResponse} {data : Bytes}

theorem fits_iff (res : WebsocketResponse) : res.Fits ↔ ¬ res.TooLong := by
  simp only [Fits, TooLong, length_wireHead_le_iff, not_or, Nat.not_lt]
  tauto

theorem marshall_eq_none_iff (res : WebsocketResponse) :
    res.marshall = none ↔ res.TooLong := by
  rw [← not_iff_not, ← fits_iff, ← marshall_isSome_iff,
    Option.isSome_iff_ne_none]

/-- The fields of the frame that a response is written as. -/
theorem exists_frame (hdata : res.marshall = some data) :
    ∃ f, decode data = .ok f ∧ f.id = res.id ∧
      f.responseToID = res.responseToId ∧ msgTypeFromFrame f = res.msgType ∧
      f.error = res.error ∧ f.binary = some (res.binary.getD []) ∧
      f.ackID = res.ackId := by
  have hread := unmarshall_marshall hdata
  rw [WebsocketResponse.unmarshall_eq] at hread
  cases hdecode : decode data with
  | error stop =>
    rw [hdecode] at hread
    cases hread
  | ok f =>
    rw [hdecode, ok_bind, pure_eq_ok] at hread
    have hfields := Except.ok.inj hread
    rw [WebsocketResponse.mk.injEq] at hfields
    exact ⟨f, rfl, hfields⟩

theorem unmarshallInto_marshall (hdata : res.marshall = some data)
    (target : WebsocketResponse) :
    target.unmarshallInto data = (res.normalise, none) := by
  obtain ⟨f, hdecode, hid, hresponseToID, hmsgType, herror, hbinary, hackID⟩ :=
    exists_frame hdata
  rw [unmarshallInto, hdecode]
  simp only [hid, hresponseToID, hmsgType, herror, hbinary, hackID]
  rfl

/-- Read as a request, a response keeps what a request has. -/
theorem request_unmarshallInto_marshall (hdata : res.marshall = some data)
    (target : WebsocketResquest) :
    target.unmarshallInto data = (res.request.normalise, none) := by
  obtain ⟨f, hdecode, hid, -, hmsgType, -, hbinary, -⟩ := exists_frame hdata
  rw [WebsocketResquest.unmarshallInto, hdecode]
  simp only [hid, hmsgType, hbinary]
  rfl

end WebsocketResponse

theorem WebsocketResquest.tooLong_response (req : WebsocketResquest) :
    req.response.TooLong ↔ req.TooLong := by
  simp [WebsocketResponse.TooLong, WebsocketResquest.TooLong,
    WebsocketResquest.response]

/-- Requests and responses survive the wire, and a response's bytes can be read
as a request. -/
theorem messages_survive :
    Survives WebsocketResponse.marshall WebsocketResponse.unmarshallInto
        WebsocketResponse.TooLong WebsocketResponse.normalise ∧
      Survives WebsocketResquest.marshall WebsocketResquest.unmarshallInto
        WebsocketResquest.TooLong WebsocketResquest.normalise ∧
      ∀ (res : WebsocketResponse) (data : Bytes),
        res.marshall = some data → ∀ target : WebsocketResquest,
          target.unmarshallInto data = (res.request.normalise, none) := by
  refine ⟨.of_restored WebsocketResponse.marshall_eq_none_iff
      fun res data hdata => WebsocketResponse.unmarshallInto_marshall hdata,
    .of_restored (fun req => ?_) fun req data hdata => ?_,
    fun res data hdata =>
      WebsocketResponse.request_unmarshallInto_marshall hdata⟩
  · rw [← req.tooLong_response]
    exact req.response.marshall_eq_none_iff
  · exact WebsocketResponse.request_unmarshallInto_marshall
      (show req.response.marshall = some data from hdata)

end Pipewave
