/-
The in-memory registry of a container's connections, keyed by identity:
authenticated connections by user and instance, anonymous ones by instance.
-/
import Pipewave.Auth
import Pipewave.GoMap

namespace Pipewave

/-- A connection object, which its identity does not determine. -/
abbrev ConnID := Nat

structure ConnectionMap where
  userConn : NestedMap Bytes Bytes ConnID := ∅
  anonymousConn : GoMap Bytes ConnID := ∅

namespace ConnectionMap

variable (map : ConnectionMap) (auth other : WebsocketAuth)

def addConnection (conn : ConnID) : ConnectionMap :=
  if auth.isAnonymous then
    { map with anonymousConn := map.anonymousConn.insert auth.instanceID conn }
  else
    { map with
      userConn := map.userConn.set auth.userID auth.instanceID conn }

def removeConnection : ConnectionMap :=
  if auth.isAnonymous then
    { map with anonymousConn := map.anonymousConn.erase auth.instanceID }
  else
    { map with userConn := map.userConn.delete auth.userID auth.instanceID }

def getConnection : Option ConnID :=
  if auth.isAnonymous then map.anonymousConn.lookup auth.instanceID
  else map.userConn.get auth.userID auth.instanceID

/-- `GetAllUserConn`, each connection with the instance it is filed under. -/
def getAllUserConn (userID : Bytes) : List (Bytes × ConnID) :=
  map.userConn.inner userID

def getAllAnonymousConn : List ConnID :=
  map.anonymousConn.entries.map Sigma.snd

def getAllAuthenticatedConn : List ConnID :=
  map.userConn.values

theorem eq_iff_ids {auth other : WebsocketAuth} :
    other = auth ↔
      other.userID = auth.userID ∧ other.instanceID = auth.instanceID := by
  cases auth
  cases other
  simp

theorem isAnonymous_iff {auth : WebsocketAuth} :
    auth.isAnonymous = true ↔ auth.userID = [] := by
  simp [WebsocketAuth.isAnonymous]

theorem mem_getAllAuthenticatedConn {map : ConnectionMap}
    {auth : WebsocketAuth} {conn : ConnID} (hauth : auth.isAnonymous = false)
    (hget : map.getConnection auth = some conn) :
    conn ∈ map.getAllAuthenticatedConn := by
  rw [getConnection, hauth, if_neg Bool.false_ne_true] at hget
  exact NestedMap.mem_values.mpr ⟨_, _, hget⟩

theorem getConnection_addConnection (conn : ConnID) :
    (addConnection map auth conn).getConnection other =
      if other = auth then some conn else map.getConnection other := by
  by_cases hauth : auth.isAnonymous = true
  · by_cases hother : other.isAnonymous = true
    · have huser : other.userID = auth.userID :=
        (isAnonymous_iff.mp hother).trans (isAnonymous_iff.mp hauth).symm
      simp only [addConnection, getConnection, hauth, hother, ↓reduceIte]
      by_cases hinstance : other.instanceID = auth.instanceID
      · rw [hinstance, AList.lookup_insert,
          if_pos (eq_iff_ids.mpr ⟨huser, hinstance⟩)]
      · rw [AList.lookup_insert_ne hinstance,
          if_neg fun h => hinstance (eq_iff_ids.mp h).2]
    · have hne : other ≠ auth := by
        rintro rfl
        exact hother hauth
      simp only [addConnection, getConnection, hauth, hother, hne, ↓reduceIte,
        Bool.false_eq_true]
  · by_cases hother : other.isAnonymous = true
    · have hne : other ≠ auth := by
        rintro rfl
        exact hauth hother
      simp only [addConnection, getConnection, hauth, hother, hne, ↓reduceIte,
        Bool.false_eq_true]
    · simp only [addConnection, getConnection, hauth, hother, ↓reduceIte,
        Bool.false_eq_true, NestedMap.get_set, eq_iff_ids]

theorem getConnection_removeConnection :
    (removeConnection map auth).getConnection other =
      if other = auth then none else map.getConnection other := by
  by_cases hauth : auth.isAnonymous = true
  · by_cases hother : other.isAnonymous = true
    · have huser : other.userID = auth.userID :=
        (isAnonymous_iff.mp hother).trans (isAnonymous_iff.mp hauth).symm
      simp only [removeConnection, getConnection, hauth, hother, ↓reduceIte]
      by_cases hinstance : other.instanceID = auth.instanceID
      · rw [hinstance, AList.lookup_erase,
          if_pos (eq_iff_ids.mpr ⟨huser, hinstance⟩)]
      · rw [AList.lookup_erase_ne hinstance,
          if_neg fun h => hinstance (eq_iff_ids.mp h).2]
    · have hne : other ≠ auth := by
        rintro rfl
        exact hother hauth
      simp only [removeConnection, getConnection, hauth, hother, hne,
        ↓reduceIte, Bool.false_eq_true]
  · by_cases hother : other.isAnonymous = true
    · have hne : other ≠ auth := by
        rintro rfl
        exact hauth hother
      simp only [removeConnection, getConnection, hauth, hother, hne,
        ↓reduceIte, Bool.false_eq_true]
    · simp only [removeConnection, getConnection, hauth, hother, ↓reduceIte,
        Bool.false_eq_true, NestedMap.get_delete, eq_iff_ids]

end ConnectionMap

end Pipewave
