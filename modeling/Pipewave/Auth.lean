/-
The identity a connection is admitted under: an authenticated session is a
user with a client-chosen instance, an anonymous one has no user.
-/
import Pipewave.LengthPrefix

namespace Pipewave

/-- `WebsocketAuth` without its metadata, which nothing below reads. -/
structure WebsocketAuth where
  userID : Bytes
  instanceID : Bytes
deriving Repr, DecidableEq

def WebsocketAuth.isAnonymous (auth : WebsocketAuth) : Bool :=
  auth.userID = []

/-- `UserWebsocketAuth`; `none` is its panic. -/
def userWebsocketAuth (userID instanceID : Bytes) : Option WebsocketAuth :=
  if userID = [] ∨ instanceID = [] then none
  else some { userID, instanceID }

theorem userWebsocketAuth_eq_some {userID instanceID : Bytes}
    (huser : userID ≠ []) (hinstance : instanceID ≠ []) :
    userWebsocketAuth userID instanceID = some ⟨userID, instanceID⟩ := by
  rw [userWebsocketAuth, if_neg]
  rintro (h | h)
  · exact huser h
  · exact hinstance h

/-- `AnonymousUserWebsocketAuth`; `none` is its panic. -/
def anonymousUserWebsocketAuth (instanceID : Bytes) : Option WebsocketAuth :=
  if instanceID = [] then none else some { userID := [], instanceID }

end Pipewave
