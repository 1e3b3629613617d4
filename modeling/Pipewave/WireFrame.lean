/-
The v1 binary envelope of the WebSocket wire protocol: the frame, its encoder
and its decoder.  The decoder reads by index, as the source does, so that an
access past the end of the input is a value of its own and not silently
excluded.
-/
import Pipewave.LengthPrefix

namespace Pipewave

namespace Wire

def version : UInt8 := 0x1

def controlHeartbeat : UInt8 := 0xCA
def controlAck : UInt8 := 0xCB

def flagID : UInt8 := 0x10
def flagResponseToID : UInt8 := 0x20
def flagAckID : UInt8 := 0x40
def flagError : UInt8 := 0x80

def maxShortField : Nat := 255
def maxErrorLen : Nat := 65535

inductive WireError where
  | fieldTooLong
  | malformed
  | version
deriving Repr, DecidableEq

/-- The decoded envelope.  Text fields are byte strings, as Go strings are.
`binary` is `none` for a nil slice, which the encoder does not tell apart
from an empty one. -/
structure Frame where
  msgType : Bytes := []
  controlCode : UInt8 := 0
  id : Bytes := []
  responseToID : Bytes := []
  ackID : Bytes := []
  error : Bytes := []
  binary : Option Bytes := none
deriving Repr, DecidableEq

/-- A flag contributes its bit exactly when its field is non-empty. -/
def flagBit (flag : UInt8) (field : Bytes) : UInt8 :=
  if field ≠ [] then flag else 0

def encodeFlags (f : Frame) : UInt8 :=
  flagBit flagID f.id ||| flagBit flagResponseToID f.responseToID |||
    flagBit flagAckID f.ackID ||| flagBit flagError f.error

/-- The message type with its length byte, or a zero byte and the control
code when the message type is empty. -/
def encodeHead (f : Frame) : Bytes :=
  if f.msgType = [] then [0, f.controlCode]
  else UInt8.ofNat f.msgType.length :: f.msgType

def encodeShort (field : Bytes) : Bytes :=
  if field ≠ [] then UInt8.ofNat field.length :: field else []

def encodeError (field : Bytes) : Bytes :=
  if field ≠ [] then
    [UInt8.ofNat (field.length >>> 8), UInt8.ofNat field.length] ++ field
  else []

/-- `Encode`.  The buffer's capacity is not modelled. -/
def encode (f : Frame) : Except WireError Bytes :=
  if f.msgType.length > maxShortField ∨ f.id.length > maxShortField ∨
      f.responseToID.length > maxShortField ∨
      f.ackID.length > maxShortField then
    .error .fieldTooLong
  else if f.error.length > maxErrorLen then
    .error .fieldTooLong
  else
    .ok ([version ||| encodeFlags f] ++ encodeHead f ++ encodeShort f.id ++
      encodeShort f.responseToID ++ encodeShort f.ackID ++
      encodeError f.error ++ f.binary.getD [])

/-- How a call of the decoder can end other than with a frame: a returned
error, or a run-time panic on an index or slice out of range. -/
inductive Stop where
  | err (error : WireError)
  | outOfRange
deriving Repr, DecidableEq

/-- `data[i]` -/
def byteAt (data : Bytes) (i : Nat) : Except Stop UInt8 :=
  match data[i]? with
  | some byte => .ok byte
  | none => .error .outOfRange

/-- `data[lo:hi]` -/
def slice (data : Bytes) (lo hi : Nat) : Except Stop Bytes :=
  if lo ≤ hi ∧ hi ≤ data.length then .ok ((data.drop lo).take (hi - lo))
  else .error .outOfRange

/-- The closure `readShort`: `none` stands for its `ok == false`, and the
position it leaves behind is returned. -/
def readShort (data : Bytes) (pos : Nat) :
    Except Stop (Option (Bytes × Nat)) := do
  if pos ≥ data.length then
    return none
  let n := (← byteAt data pos).toNat
  let pos := pos + 1
  if pos + n > data.length then
    return none
  let s ← slice data pos (pos + n)
  return some (s, pos + n)

/-- The message-type part: the type, the control code and the next position. -/
def decodeHead (data : Bytes) (msgTypeLen pos : Nat) :
    Except Stop ((Bytes × UInt8) × Nat) := do
  if msgTypeLen = 0 then
    if pos ≥ data.length then
      throw (.err .malformed)
    return (([], ← byteAt data pos), pos + 1)
  else
    if pos + msgTypeLen > data.length then
      throw (.err .malformed)
    return ((← slice data pos (pos + msgTypeLen), 0), pos + msgTypeLen)

/-- One flagged short field: left empty when its flag is clear. -/
def decodeShort (data : Bytes) (flags flag : UInt8) (pos : Nat) :
    Except Stop (Bytes × Nat) := do
  if flags &&& flag ≠ 0 then
    match ← readShort data pos with
    | none => throw (.err .malformed)
    | some read => return read
  else
    return ([], pos)

/-- The flagged error field, whose length takes two bytes. -/
def decodeError (data : Bytes) (flags : UInt8) (pos : Nat) :
    Except Stop (Bytes × Nat) := do
  if flags &&& flagError ≠ 0 then
    if pos + 2 > data.length then
      throw (.err .malformed)
    let n := (← byteAt data pos).toNat <<< 8 ||| (← byteAt data (pos + 1)).toNat
    let pos := pos + 2
    if pos + n > data.length then
      throw (.err .malformed)
    return (← slice data pos (pos + n), pos + n)
  else
    return ([], pos)

/-- `Decode` -/
def decode (data : Bytes) : Except Stop Frame := do
  if data.length < 2 then
    throw (.err .malformed)
  let first ← byteAt data 0
  if first &&& 0x0F ≠ version then
    throw (.err .version)
  let flags := first &&& 0xF0
  let msgTypeLen := (← byteAt data 1).toNat
  let ((msgType, controlCode), pos) ← decodeHead data msgTypeLen 2
  let (id, pos) ← decodeShort data flags flagID pos
  let (responseToID, pos) ← decodeShort data flags flagResponseToID pos
  let (ackID, pos) ← decodeShort data flags flagAckID pos
  let (error, pos) ← decodeError data flags pos
  let binary ← slice data pos data.length
  return { msgType, controlCode, id, responseToID, ackID, error,
           binary := some binary }

end Wire

end Pipewave
