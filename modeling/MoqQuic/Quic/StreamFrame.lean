import Mathlib.Data.Int.Basic
import MoqQuic.Quicvarint

/-!
# MoqQuic.Quic.StreamFrame

STREAM frames on the side of the sender: `internal/wire/stream_frame.go`.

A frame is a value; the buffers that frames share through the pool have no part in it, apart
from their size, which a slice must not exceed. `Length` and `MaxDataLen` panic where
`quicvarint.Len` does.
-/

namespace MoqQuic.Quic

open Parse

def MaxPacketBufferSize : Nat := 1452

/-- The ways in which a send stream panics. -/
inductive StreamPanic where
  | varintTooLarge
  | sliceBounds
  | numOutstandingFramesNegative
  deriving DecidableEq, Repr

structure StreamFrame where
  streamID : Nat
  offset : Nat
  data : Bytes := []
  fin : Bool := false
  dataLenPresent : Bool := true
  deriving DecidableEq, Repr

/-- `quicvarint.Len`. -/
def varintLen (i : Nat) : Except StreamPanic Nat :=
  match Quicvarint.len i with
  | none => .error .varintTooLarge
  | some l => .ok l

namespace StreamFrame

def dataLen (f : StreamFrame) : Nat := f.data.length

/-- The length of the frame type, the stream ID and the offset. -/
def prefixLen (f : StreamFrame) : Except StreamPanic Nat := do
  let idLen ← varintLen f.streamID
  if f.offset ≠ 0 then return 1 + idLen + (← varintLen f.offset) else return 1 + idLen

def length (f : StreamFrame) : Except StreamPanic Nat := do
  let prefixLen ← f.prefixLen
  if f.dataLenPresent then return prefixLen + (← varintLen f.dataLen) + f.dataLen
  else return prefixLen + f.dataLen

/-- `MaxDataLen`; the length field is taken to be one byte at first. -/
def maxDataLen (f : StreamFrame) (maxSize : Int) : Except StreamPanic Nat := do
  let prefixLen ← f.prefixLen
  let headerLen := if f.dataLenPresent then prefixLen + 1 else prefixLen
  if headerLen > maxSize then return 0
  else
    let maxDataLen := (maxSize - headerLen).toNat
    if f.dataLenPresent then
      let lenLen ← varintLen maxDataLen
      return if lenLen ≠ 1 then maxDataLen - 1 else maxDataLen
    else return maxDataLen

/-- `MaybeSplitOffFrame`: what is left of the frame, the frame that is split off, and whether
splitting was required. -/
def maybeSplitOffFrame (f : StreamFrame) (maxSize : Int) :
    Except StreamPanic (StreamFrame × Option StreamFrame × Bool) := do
  if maxSize ≥ (← f.length) then return (f, none, false)
  else
    let n ← f.maxDataLen maxSize
    if n = 0 then return (f, none, true)
    else if n > f.dataLen then .error .sliceBounds
    else
      return ({ f with offset := f.offset + n, data := f.data.drop n },
        some { f with data := f.data.take n, fin := false }, true)

end StreamFrame

end MoqQuic.Quic
