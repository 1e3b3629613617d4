/-
How long a buffered message is kept against how long its session may come
back.  The hub waits for the heartbeat cutoff and a minute, the row of a
message expires after a setting of its own.
-/
import Pipewave.PendingMessage
import Pipewave.SessionTimeline

namespace Pipewave

namespace ActiveConnectionT

/-- Zero fields are filled in; doubling the cutoff wraps around in 64 bits. -/
def loadDefault (m : ActiveConnectionT) : ActiveConnectionT :=
  let m := if m.heartbeatCutoff = 0 then
    { m with heartbeatCutoff := 60 * 10 ^ 9 } else m
  if m.pendingMsgTTL = 0 then
    { m with pendingMsgTTL := GoTime.wrap64 (m.heartbeatCutoff * 2) } else m

end ActiveConnectionT

/-- A column of type `TIMESTAMPTZ` has microseconds. -/
def timestamptz (nanoseconds : Int) : Int := nanoseconds / 1000

/-- The row that `Create` inserts at the time `now`. -/
def pendingRow (m : ActiveConnectionT) (auth : WebsocketAuth) (sendAt : Int)
    (message : Bytes) (now : Int) : PendingMessage where
  sessionKey := sessionKey auth
  sendAt := sendAt
  message := message
  expiresAt := timestamptz (now + m.pendingMsgTTL)

/-- `DELETE FROM pending_messages WHERE expires_at < NOW()`. -/
def PendingTable.cleanUpExpiredPendingMessages (table : PendingTable)
    (now : Int) : PendingTable :=
  table.filter fun row => ¬ row.expiresAt < timestamptz now

end Pipewave
