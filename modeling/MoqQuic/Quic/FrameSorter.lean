import Mathlib.Data.List.AList
import MoqQuic.Lib.Intervals
import MoqQuic.Lib.LinkedList
import MoqQuic.Lib.Parse

/-!
# MoqQuic.Quic.FrameSorter

The frame sorter: `frame_sorter.go`, which puts the data of a stream in order.

Frames that have not been read yet wait in `queue` under their offsets, and `gaps` lists
the ranges that were not received.  `push` finds the gaps in which a frame starts and
ends, clears the queued frames that the new one replaces, cuts the new one where older
ones stay, and edits the gaps in place; each of its stages is a definition of its own.

A done-callback is an opaque value, and `called` records the callbacks that were called.
-/

namespace MoqQuic.Quic

def MaxByteCount : Nat := 1 <<< 62 - 1

def MaxStreamFrameSorterGaps : Nat := 10000

def MinStreamFrameBufferSize : Nat := 128

abbrev ByteInterval : Type := HalfOpen Nat

/-- An element of the list of gaps. -/
abbrev GapElement : Type := Nat × ByteInterval

structure FrameSorterEntry (κ : Type) where
  data : Bytes
  doneCb : Option κ

abbrev FrameSorterQueue (κ : Type) : Type := AList fun _ : Nat => FrameSorterEntry κ

structure FrameSorter (κ : Type) where
  queue : FrameSorterQueue κ := ∅
  readPos : Nat := 0
  gaps : LinkedList ByteInterval := .singleton ⟨0, MaxByteCount⟩
  called : List κ := []

inductive SorterError where
  | duplicateStreamData
  | tooManyGaps
  deriving DecidableEq, Repr

inductive SorterPanic where
  | noGapFound
  | readPosHigherThanGap
  | nilDereference
  deriving DecidableEq, Repr

namespace FrameSorter

variable {κ : Type}

/-! ## finding the gaps -/

/-- Follow a pointer. -/
def deref {α : Type} : Option α → Except SorterPanic α
  | none => .error .nilDereference
  | some a => .ok a

/-- The loop of `findStartGap`. -/
def findStartGapFrom (offset : Nat) : List GapElement → Except SorterPanic (GapElement × Bool)
  | [] => .error .noGapFound
  | gap :: rest =>
    if offset ≥ gap.2.start ∧ offset ≤ gap.2.stop then .ok (gap, true)
    else if offset < gap.2.start then .ok (gap, false)
    else findStartGapFrom offset rest

def findStartGap (gaps : LinkedList ByteInterval) (offset : Nat) :
    Except SorterPanic (GapElement × Bool) :=
  findStartGapFrom offset gaps.elems

/-- The loop of `findEndGap`. -/
def findEndGapFrom (gaps : LinkedList ByteInterval) (offset : Nat) :
    List GapElement → Except SorterPanic (Option GapElement × Bool)
  | [] => .error .noGapFound
  | gap :: rest =>
    if offset ≥ gap.2.start ∧ offset < gap.2.stop then .ok (some gap, true)
    else if offset < gap.2.start then .ok (gaps.prev gap.1, false)
    else findEndGapFrom gaps offset rest

def findEndGap (gaps : LinkedList ByteInterval) (startGap : GapElement) (offset : Nat) :
    Except SorterPanic (Option GapElement × Bool) :=
  findEndGapFrom gaps offset (startGap :: gaps.after startGap.1)

/-! ## clearing the queue -/

/-- The queue and the callbacks called while frames are deleted from it. -/
structure Clearing (κ : Type) where
  queue : FrameSorterQueue κ
  called : List κ

def Clearing.delete (c : Clearing κ) (pos : Nat) (entry : FrameSorterEntry κ) : Clearing κ where
  queue := c.queue.erase pos
  called := c.called ++ entry.doneCb.toList

/-- The rounds of `deleteConsecutive`; each deletes an entry, so there are no more rounds
than entries. -/
def deleteRounds : Nat → Clearing κ → Nat → Clearing κ
  | 0, c, _ => c
  | rounds + 1, c, pos =>
    match c.queue.lookup pos with
    | none => c
    | some oldEntry => deleteRounds rounds (c.delete pos oldEntry) (pos + oldEntry.data.length)

def deleteConsecutive (c : Clearing κ) (pos : Nat) : Clearing κ :=
  deleteRounds c.queue.keys.length c pos

/-- What the loop of `push` over the frames at its start leaves behind. -/
structure Replacing (κ : Type) where
  clearing : Clearing κ
  pos : Nat
  hasReplacedAtLeastOne : Bool
  /-- the new frame is cut at `pos` -/
  cut : Bool

/-- The rounds of that loop; no result means `errDuplicateStreamData`. -/
def replaceRounds (stop : Nat) : Nat → Clearing κ → Nat → Bool → Option (Replacing κ)
  | 0, c, pos, has => some ⟨c, pos, has, false⟩
  | rounds + 1, c, pos, has =>
    match c.queue.lookup pos with
    | none => some ⟨c, pos, has, false⟩
    | some oldEntry =>
      if stop - pos > oldEntry.data.length ∨
          (has = true ∧ stop - pos = oldEntry.data.length) then
        replaceRounds stop rounds (c.delete pos oldEntry) (pos + oldEntry.data.length) true
      else if has then some ⟨c, pos, has, true⟩
      else none

def replace (c : Clearing κ) (start stop : Nat) : Option (Replacing κ) :=
  replaceRounds stop c.queue.keys.length c start false

/-! ## the frame and the gaps -/

/-- The variables of `push` that describe the new frame. -/
structure Frame where
  data : Bytes
  start : Nat
  stop : Nat
  wasCut : Bool := false

/-- Cut the frame where a longer frame starts. -/
def Frame.cutAt (f : Frame) (cut : Bool) (pos : Nat) : Frame :=
  if cut then { f with data := f.data.take (pos - f.start), stop := pos, wasCut := true } else f

/-- Cut the frame, such that it starts at the start of the gap. -/
def Frame.cutStart (f : Frame) (startGap : ByteInterval) (startsInGap has : Bool) : Frame :=
  if startsInGap = false ∧ has = false then
    { f with
      data := f.data.drop (startGap.start - f.start), start := startGap.start, wasCut := true }
  else f

/-- Cut the frame, such that it ends at the end of the gap. -/
def Frame.cutEnd (f : Frame) (endGap : ByteInterval) (endsInGap : Bool) : Frame :=
  if endsInGap = false ∧ f.start ≠ endGap.stop ∧ f.stop > endGap.stop then
    { f with data := f.data.take (endGap.stop - f.start), stop := endGap.stop, wasCut := true }
  else f

/-- The gap in which the frame starts; the result tells whether `adjustedStartGapEnd`. -/
def adjustStartGap (gaps : LinkedList ByteInterval) (startGap : GapElement) (f : Frame)
    (has : Bool) : LinkedList ByteInterval × Bool :=
  if f.start ≤ startGap.2.start then
    if f.stop ≥ startGap.2.stop then (gaps.remove startGap.1, false)
    else (gaps.setValue startGap.1 ⟨f.stop, startGap.2.stop⟩, false)
  else if has = false then (gaps.setValue startGap.1 ⟨startGap.2.start, f.start⟩, true)
  else (gaps, false)

/-- The loop over the gaps between `startGap` and `endGap`. -/
def deleteGaps (endGapStart : Nat) : List GapElement → LinkedList ByteInterval → Clearing κ →
    Except SorterPanic (LinkedList ByteInterval × Clearing κ)
  | [], _, _ => .error .nilDereference
  | gap :: rest, gaps, c =>
    if gap.2.stop < endGapStart then
      deleteGaps endGapStart rest (gaps.remove gap.1) (deleteConsecutive c gap.2.stop)
    else .ok (gaps, c)

/-- What lies between `startGap` and `endGap` is covered by the frame. -/
def deleteBetween (next : List GapElement) (startGap endGap : GapElement)
    (gaps : LinkedList ByteInterval) (c : Clearing κ) :
    Except SorterPanic (LinkedList ByteInterval × Clearing κ) :=
  if startGap.1 ≠ endGap.1 then
    deleteGaps endGap.2.start next gaps (deleteConsecutive c startGap.2.stop)
  else .ok (gaps, c)

def adjustEndGap (gaps : LinkedList ByteInterval) (startGap endGap : GapElement) (f : Frame)
    (adjustedStartGapEnd : Bool) : LinkedList ByteInterval :=
  if f.stop = endGap.2.stop then
    if startGap.1 ≠ endGap.1 then gaps.remove endGap.1 else gaps
  else if startGap.1 = endGap.1 ∧ adjustedStartGapEnd = true then
    gaps.insertAfter ⟨f.stop, startGap.2.stop⟩ startGap.1
  else if startGap.1 ≠ endGap.1 then gaps.setValue endGap.1 ⟨f.stop, endGap.2.stop⟩
  else gaps

/-- The end of `push`: a short frame that was cut is copied, which calls its callback, and
the frame is queued. -/
def store (s : FrameSorter κ) (gaps : LinkedList ByteInterval) (c : Clearing κ) (f : Frame)
    (doneCb : Option κ) : FrameSorter κ × Option SorterError :=
  let copied := f.wasCut && decide (f.data.length < MinStreamFrameBufferSize)
  let called := if copied then c.called ++ doneCb.toList else c.called
  let doneCb := if copied then none else doneCb
  if gaps.len > MaxStreamFrameSorterGaps then
    ({ s with queue := c.queue, gaps := gaps, called := called }, some .tooManyGaps)
  else
    ({ s with queue := c.queue.insert f.start ⟨f.data, doneCb⟩, gaps := gaps, called := called },
      none)

/-! ## pushing and popping -/

/-- `push` after its gaps were found and the frames at its start were replaced. -/
def place (s : FrameSorter κ) (startGap : GapElement) (startsInGap : Bool) (endGap : GapElement)
    (endsInGap : Bool) (r : Replacing κ) (f : Frame) (doneCb : Option κ) :
    Except SorterPanic (FrameSorter κ × Option SorterError) := do
  let has := r.hasReplacedAtLeastOne
  let f := (f.cutAt r.cut r.pos).cutStart startGap.2 startsInGap has
  let (gaps, adjustedStartGapEnd) := adjustStartGap s.gaps startGap f has
  let (gaps, c) ← deleteBetween (s.gaps.after startGap.1) startGap endGap gaps r.clearing
  let f := f.cutEnd endGap.2 endsInGap
  let gaps := adjustEndGap gaps startGap endGap f adjustedStartGapEnd
  return s.store gaps c f doneCb

/-- The part of `push` after the check for old data. -/
def pushNew (s : FrameSorter κ) (f : Frame) (doneCb : Option κ) :
    Except SorterPanic (FrameSorter κ × Option SorterError) := do
  let (startGap, startsInGap) ← findStartGap s.gaps f.start
  let (endGap, endsInGap) ← findEndGap s.gaps startGap f.stop
  let endGap ← deref endGap
  if (startGap.1 = endGap.1 ∧ f.stop ≤ startGap.2.start) ∨
      (startGap.1 ≠ endGap.1 ∧ startGap.2.stop ≥ endGap.2.start ∧ f.stop ≤ startGap.2.start) then
    return (s, some .duplicateStreamData)
  else
    match replace ⟨s.queue, s.called⟩ f.start f.stop with
    | none => return (s, some .duplicateStreamData)
    | some r => s.place startGap startsInGap endGap endsInGap r f doneCb

def push (s : FrameSorter κ) (data : Bytes) (offset : Nat) (doneCb : Option κ) :
    Except SorterPanic (FrameSorter κ × Option SorterError) := do
  if data = [] then return (s, some .duplicateStreamData)
  else
    let front ← deref s.gaps.front
    if offset + data.length ≤ front.2.start then return (s, some .duplicateStreamData)
    else s.pushNew { data := data, start := offset, stop := offset + data.length } doneCb

/-- `Push`: duplicate data is no error, and its callback is called. -/
def pushFrame (s : FrameSorter κ) (data : Bytes) (offset : Nat) (doneCb : Option κ) :
    Except SorterPanic (FrameSorter κ × Option SorterError) := do
  let (s, err) ← s.push data offset doneCb
  if err = some .duplicateStreamData then
    return ({ s with called := s.called ++ doneCb.toList }, none)
  else return (s, err)

/-- `Pop`: the offset, the data and the callback; no data when there is none at the read
position. -/
def pop (s : FrameSorter κ) :
    Except SorterPanic (FrameSorter κ × Nat × Option Bytes × Option κ) :=
  match s.queue.lookup s.readPos with
  | none => .ok (s, s.readPos, none, none)
  | some entry => do
    let readPos := s.readPos + entry.data.length
    let front ← deref s.gaps.front
    if front.2.stop ≤ readPos then .error .readPosHigherThanGap
    else
      return ({ s with queue := s.queue.erase s.readPos, readPos := readPos },
        s.readPos, some entry.data, entry.doneCb)

/-- The rounds of `Peek`; the check for enough data and the copying walk over the same entries.
No entry is empty, so there are no more rounds than bytes. -/
def peekRounds (queue : FrameSorterQueue κ) : Nat → Nat → Nat → Option Bytes
  | 0, _, _ => none
  | rounds + 1, pos, remaining =>
    match queue.lookup pos with
    | none => none
    | some entry =>
      if remaining ≤ entry.data.length then some (entry.data.take remaining)
      else (peekRounds queue rounds (pos + entry.data.length)
        (remaining - entry.data.length)).map (entry.data ++ ·)

/-- `Peek`: `n` bytes from the offset, unless that is `errTooLittleData`. -/
def peek (s : FrameSorter κ) (offset n : Nat) : Option Bytes :=
  if n = 0 then some [] else peekRounds s.queue n offset n

end FrameSorter

end MoqQuic.Quic
