import MoqQuic.Quic.FrameSorter.Reassembly
import MoqQuic.Quic.ReceiveStream.Reading

/-!
# MoqQuic.Quic.ReceiveStream.InOrder

Reading and peeking, when all frames are ranges of one stream.

`InOrder S C s` says that the stream `s` stands at a position of `S`, of which the offsets in `C`
were received: the rest of the current frame is what comes next, and the sorter has what follows.
`Read` then returns what comes next, `Peek` the same without moving, and both wait only for an
offset that was not received.
-/

namespace MoqQuic.Quic

open Outcome Parse

namespace ReceiveStream

variable {κ : Type} {S : Nat → UInt8} {C : Set Nat} {s : ReceiveStream κ} {len : Nat}

/-- The stream stands at `readPos` of `S`, and nobody cancelled it. -/
structure InOrder (S : Nat → UInt8) (C : Set Nat) (s : ReceiveStream κ) : Prop where
  sorter : FrameSorter.Inv S C s.frameQueue
  position : s.readPos + s.rest.length = s.frameQueue.readPos
  content : s.rest = slice S s.readPos s.rest.length
  last : s.currentFrameIsLast = true → s.finalOffset ≤ s.frameQueue.readPos
  inFrame : ¬ (s.currentFrameIsLast = true ∧ s.currentFrame = none) → s.readPosInFrame ≤ s.frameLen
  remotely : s.cancelledRemotely = false
  locally : s.cancelledLocally = false
  opened : s.closeForShutdownErr = false

theorem InOrder.isCancelled (h : InOrder S C s) : s.isCancelled = false := by
  simp [ReceiveStream.isCancelled, isRemoteCancellationEffective, h.remotely, h.locally]

/-- What was read was received. -/
theorem InOrder.mem_of_lt (h : InOrder S C s) {x : Nat} (hx : x < s.readPos + s.rest.length) :
    x ∈ C := h.sorter.read x (h.position ▸ hx)

/-- What reading and peeking leave as it is. -/
structure SameSource (s s' : ReceiveStream κ) : Prop where
  finalOffset : s'.finalOffset = s.finalOffset
  readSignal : s'.readSignal = s.readSignal

theorem SameSource.refl (s : ReceiveStream κ) : SameSource s s := ⟨rfl, rfl⟩

theorem SameSource.trans {s' s'' : ReceiveStream κ} (h : SameSource s s')
    (h' : SameSource s' s'') : SameSource s s'' :=
  ⟨h'.finalOffset.trans h.finalOffset, h'.readSignal.trans h.readSignal⟩

/-! ## dequeueing -/

/-- There is a frame to read from, or the next offset was not received. -/
def Fresh (C : Set Nat) (s : ReceiveStream κ) : Prop :=
  s.rest ≠ [] ∨ s.currentFrame = none ∧ s.readPos ∉ C ∧
    (s.currentFrameIsLast = false → s.readPos < s.finalOffset)

theorem InOrder.dequeueNextFrame (h : InOrder S C s) (hrest : s.rest = []) :
    Holds (fun _ => False) (fun s' => InOrder S C s' ∧ Fresh C s' ∧ SameSource s s' ∧
      s'.readPos = s.readPos ∧ s'.flowController = s.flowController ∧
      s'.readPosInFrame ≤ s'.frameLen) s.dequeueNextFrame := by
  have hposition : s.readPos = s.frameQueue.readPos := by
    have hpos := h.position
    rw [hrest] at hpos
    exact hpos
  rw [ReceiveStream.dequeueNextFrame]
  cases hentry : s.frameQueue.queue.lookup s.frameQueue.readPos with
  | none =>
    obtain ⟨hpop, hnot⟩ := h.sorter.pop_none hentry
    rw [hpop]
    refine ⟨?_, .inr ⟨rfl, ?_, fun hlast => ?_⟩, ⟨rfl, rfl⟩, rfl, rfl, Nat.zero_le _⟩
    · refine ⟨h.sorter.setCalled _, hposition, rfl, fun hlast => ?_, fun _ => Nat.zero_le _,
        h.remotely, h.locally, h.opened⟩
      simp only [Option.getD_none, List.length_nil, Nat.add_zero, Bool.and_eq_true,
        decide_eq_true_eq] at hlast
      exact hlast.1
    · exact hposition ▸ hnot
    · simp only [Option.getD_none, List.length_nil, Nat.add_zero, h.remotely, Bool.not_false,
        Bool.and_true, decide_eq_false_iff_not] at hlast
      simp only
      omega
  | some entry =>
    obtain ⟨queue, hpop, hinv, hread, -⟩ := h.sorter.pop_some hentry
    have hpos : 0 < entry.data.length := h.sorter.tiles.pos hentry
    have hcontent := h.sorter.content _ _ hentry
    rw [hpop]
    refine ⟨?_, .inl ?_, ⟨rfl, rfl⟩, rfl, rfl, Nat.zero_le _⟩
    · refine ⟨hinv.setCalled _, ?_, ?_, fun hlast => ?_, fun _ => Nat.zero_le _,
        h.remotely, h.locally, h.opened⟩
      · simp only [rest, Option.getD_some, List.drop_zero]
        omega
      · simp only [rest, Option.getD_some, List.drop_zero]
        rw [hposition]
        exact hcontent
      · simp only [Option.getD_some, Bool.and_eq_true, decide_eq_true_eq] at hlast
        simp only [hread]
        exact hlast.1
    · simp only [rest, Option.getD_some, List.drop_zero]
      exact List.ne_nil_of_length_pos hpos

/-! ## reading -/

/-- A part of the current frame is copied. -/
theorem InOrder.copyFrame (h : InOrder S C s) (hin : s.readPosInFrame ≤ s.frameLen)
    (len : Nat) (progress : ReadProgress) :
    InOrder S C (s.copyFrame len progress).1 ∧ SameSource s (s.copyFrame len progress).1 ∧
      (s.copyFrame len progress).1.readPosInFrame ≤ (s.copyFrame len progress).1.frameLen ∧
      (s.copyFrame len progress).2.data = progress.data ++
        slice S s.readPos (min (len - progress.data.length) s.rest.length) ∧
      (s.copyFrame len progress).1.readPos =
        s.readPos + min (len - progress.data.length) s.rest.length := by
  rw [copyFrame_data, copyFrame_eq]
  generalize hm : (s.rest.take (len - progress.data.length)).length = m
  rw [List.length_take] at hm
  have hlen : s.rest.length = s.frameLen - s.readPosInFrame := List.length_drop
  have hposition := h.position
  have hle : m ≤ s.rest.length := hm ▸ min_le_right _ _
  -- what is left is the rest without what was copied
  have hrest : (s.currentFrame.getD []).drop (s.readPosInFrame + m) = s.rest.drop m := by
    rw [rest, List.drop_drop]
  have hcontent : s.rest.drop m = slice S (s.readPos + m) (s.rest.length - m) := by
    conv_lhs => rw [h.content]
    exact drop_slice S s.readPos m _
  refine ⟨⟨h.sorter, ?_, ?_, h.last, fun _ => ?_, h.remotely, h.locally, h.opened⟩, ⟨rfl, rfl⟩,
    ?_, ?_, ?_⟩
  · simp only [rest, hrest, List.length_drop]
    simp only [rest] at hposition hle
    simp only [List.length_drop] at hposition hle ⊢
    omega
  · simp only [rest]
    rw [hrest, hcontent, length_slice]
  · simp only [frameLen] at hin hlen ⊢
    omega
  · simp only [frameLen] at hin hlen ⊢
    omega
  · rw [hm]
    congr 1
    conv_lhs => rw [h.content]
    rw [← hm]
    rcases Nat.le_total (len - progress.data.length) s.rest.length with hle' | hle'
    · rw [Nat.min_eq_left hle', take_slice S hle']
    · rw [Nat.min_eq_right hle', List.take_of_length_le (by rw [length_slice]; exact hle')]
  · rw [hm]

/-- A `Read` is under way: what it copied comes after what was read `before`. -/
structure ReadingOn (S : Nat → UInt8) (C : Set Nat) (before : Bytes) (s₀ s : ReceiveStream κ)
    (progress : ReadProgress) : Prop where
  inOrder : InOrder S C s
  source : SameSource s₀ s
  inFrame : s.readPosInFrame ≤ s.frameLen
  data : before ++ progress.data = slice S 0 s.readPos

/-- What a `Read` comes to. -/
structure ReadsOn (S : Nat → UInt8) (C : Set Nat) (before : Bytes) (len : Nat)
    (deadline : Option Nat) (s₀ s : ReceiveStream κ) (progress : ReadProgress)
    (err : Option ReadError) : Prop where
  inOrder : InOrder S C s
  source : SameSource s₀ s
  data : before ++ progress.data = slice S 0 s.readPos
  ok : err = none → progress.data ≠ [] ∨ len = 0
  eof : err = some .eof → s.finalOffset ≤ s.readPos
  cases : err = none ∨ err = some .eof ∨ err = some .deadline ∧ expired deadline progress = true

/-- A `Read` returns, or it waits for the next offset. -/
def ReadOutcomeOn (S : Nat → UInt8) (C : Set Nat) (before : Bytes) (len : Nat)
    (deadline : Option Nat) (s₀ s : ReceiveStream κ) : ReadOutcome → Prop
  | .returned progress err => ReadsOn S C before len deadline s₀ s progress err
  | .waits => InOrder S C s ∧ SameSource s₀ s ∧ before = slice S 0 s.readPos ∧ 0 < len ∧
      s.currentFrame = none ∧ s.currentFrameIsLast = false ∧ s.readPos ∉ C ∧
      s.readPos < s.finalOffset

variable {before : Bytes}

theorem ReadingOn.copyFrame {s₀ : ReceiveStream κ} {progress : ReadProgress}
    (h : ReadingOn S C before s₀ s progress) (len : Nat) :
    ReadingOn S C before s₀ (s.copyFrame len progress).1 (s.copyFrame len progress).2 := by
  obtain ⟨hs', hsource, hin, hdata, hread⟩ := h.inOrder.copyFrame h.inFrame len progress
  refine ⟨hs', h.source.trans hsource, hin, ?_⟩
  have happend := slice_append S 0 s.readPos (min (len - progress.data.length) s.rest.length)
  rw [Nat.zero_add] at happend
  rw [hdata, hread, ← List.append_assoc, h.data, happend]

theorem InOrder.readEof (h : InOrder S C s) (heof : s.atEof) :
    InOrder S C s.readEof ∧ s.finalOffset ≤ s.readPos := by
  have hrest : s.rest = [] := List.drop_eq_nil_iff.mpr heof.1
  have hposition := h.position
  rw [hrest] at hposition
  have hnil : s.readEof.rest = [] := rest_of_none rfl
  refine ⟨⟨h.sorter.setCalled _, ?_, ?_, h.last, ?_, h.remotely, h.locally, h.opened⟩,
    (h.last heof.2).trans hposition.ge⟩
  · rw [hnil]
    exact hposition
  · rw [hnil]
    rfl
  · exact fun hnot => absurd ⟨heof.2, rfl⟩ hnot

theorem inOrder_readRule (before : Bytes) (deadline : Option Nat) (s₀ : ReceiveStream κ) :
    ReadRule (fun _ => False) len deadline (ReadingOn S C before s₀)
      (fun s progress => ReadingOn S C before s₀ s progress ∧ Fresh C s)
      (fun s outcome => ReadOutcomeOn S C before len deadline s₀ s outcome) where
  dequeue h hrest _ := by
    refine (h.inOrder.dequeueNextFrame hrest).imp
      fun s' ⟨hs', hfresh, hsource, hread, _, hin⟩ => ⟨?_, hfresh⟩
    exact ⟨hs', h.source.trans hsource, hin, hread ▸ h.data⟩
  keep h hrest := ⟨h, .inl hrest⟩
  weaken h := h.1
  noMore h _ hne := by
    rw [h.1.inOrder.opened, if_neg (by simp)]
    exact ⟨h.1.inOrder, h.1.source, h.1.data, fun _ => .inl hne, by simp, .inl rfl⟩
  shutdown h hclosed := by
    rw [h.inOrder.opened] at hclosed
    cases hclosed
  cancelled h hcancelled := by
    rw [h.inOrder.isCancelled] at hcancelled
    cases hcancelled
  expired h hexpired := ⟨h.inOrder, h.source, h.data, by simp, by simp, .inr (.inr ⟨rfl, hexpired⟩)⟩
  wait h hnil hlen hnone hlast := by
    obtain hrest | ⟨-, hnot, hend⟩ := h.2
    · exact absurd (rest_of_none hnone) hrest
    · have hdata := h.1.data
      rw [hnil, List.append_nil] at hdata
      exact ⟨h.1.inOrder, h.1.source, hdata, hlen, hnone, hlast, hnot, hend hlast⟩
  behind h hbehind := absurd h.1.inFrame (not_le.mpr hbehind)
  copy h _ _ _ := h.1.copyFrame len
  eof h _ _ heof := by
    have hcopied := h.1.copyFrame len
    obtain ⟨hend, hle⟩ := hcopied.inOrder.readEof heof
    exact ⟨hend, ⟨hcopied.source.1, hcopied.source.2⟩, hcopied.data, by simp, fun _ => hle,
      .inr (.inl rfl)⟩
  full h hlen _ := by
    refine ⟨h.inOrder, h.source, h.data, fun _ => ?_, by simp, .inl rfl⟩
    rcases Nat.eq_zero_or_pos len with hzero | hpos
    · exact .inr hzero
    · exact .inl (List.ne_nil_of_length_pos (hpos.trans_le hlen))

/-- The end of the stream was found before. -/
theorem InOrder.readLast (h : InOrder S C s) (hlast : s.currentFrameIsLast = true)
    (hnone : s.currentFrame = none) :
    InOrder S C { s with errorRead := true } ∧ s.finalOffset ≤ s.readPos := by
  have hposition := h.position
  rw [rest_of_none hnone] at hposition
  exact ⟨{ h with }, (h.last hlast).trans hposition.ge⟩

/-- **`Read`** up to its first wait. -/
theorem InOrder.readImpl (h : InOrder S C s) (hbefore : before = slice S 0 s.readPos) (len : Nat)
    (deadline : Option Nat) :
    Holds (fun _ => False) (fun r => ReadOutcomeOn S C before len deadline s r.1 r.2)
      (s.readImpl len deadline) := by
  refine (inOrder_readRule before deadline s).readImpl (fun hnot => ?_) fun hlast hnone => ?_
  · exact ⟨h, .refl s, h.inFrame hnot, by rw [List.append_nil, hbefore]⟩
  · obtain ⟨hs', hle⟩ := h.readLast hlast hnone
    exact ⟨hs', ⟨rfl, rfl⟩, by rw [List.append_nil, hbefore], by simp, fun _ => hle,
      .inr (.inl rfl)⟩

/-- **`Read`** after a wait. -/
theorem InOrder.wakeRead (h : InOrder S C s) (hbefore : before = slice S 0 s.readPos)
    (hlen : 0 < len) (hnone : s.currentFrame = none) (hlast : s.currentFrameIsLast = false)
    (deadline : Option Nat) :
    Holds (fun _ => False) (fun r => ReadOutcomeOn S C before len deadline s r.1 r.2)
      (s.wakeRead len deadline) := by
  refine (inOrder_readRule before deadline s).wakeRead ?_ (rest_of_none hnone) hlen
  exact ⟨h, .refl s, h.inFrame (by simp [hlast]), by rw [List.append_nil, hbefore]⟩

/-! ## peeking -/

theorem InOrder.nextFrame (h : InOrder S C s) :
    Holds (fun _ => False) (fun s' => InOrder S C s' ∧ Fresh C s' ∧ SameSource s s' ∧
      s'.readPos = s.readPos ∧ s'.flowController = s.flowController) s.nextFrame := by
  rw [ReceiveStream.nextFrame]
  split
  · rename_i hneeds
    exact (h.dequeueNextFrame (needsFrame_iff.mp hneeds)).imp fun s' hs' =>
      ⟨hs'.1, hs'.2.1, hs'.2.2.1, hs'.2.2.2.1, hs'.2.2.2.2.1⟩
  · rename_i hneeds
    exact ⟨h, .inl fun hrest => hneeds (needsFrame_iff.mpr hrest), .refl s, rfl, rfl⟩

/-- What a `Peek` at `len` bytes returns: what comes next, and less than was asked for only at the
end of the stream. -/
structure Peeks (S : Nat → UInt8) (C : Set Nat) (s : ReceiveStream κ) (len : Nat) (data : Bytes)
    (err : Option ReadError) : Prop where
  content : data = slice S s.readPos data.length
  received : ∀ x, s.readPos ≤ x → x < s.readPos + data.length → x ∈ C
  ok : err = none → data.length = len
  eof : err = some .eof → s.finalOffset ≤ s.readPos + data.length ∧ data.length < len

variable {err : Option ReadError}

theorem InOrder.peeks_take (h : InOrder S C s) {n : Nat} (hn : n ≤ s.rest.length) (hok : err = none → n = len)
    (heof : err = some .eof → s.finalOffset ≤ s.readPos + n ∧ n < len) :
    Peeks S C s len (s.rest.take n) err := by
  have hlen : (s.rest.take n).length = n := by
    rw [List.length_take, Nat.min_eq_left hn]
  refine ⟨?_, fun x _ hx => h.mem_of_lt ?_, fun herr => hlen.trans (hok herr), fun herr => ?_⟩
  · rw [hlen]
    conv_lhs => rw [h.content]
    exact take_slice S hn
  · rw [hlen] at hx
    omega
  · rw [hlen]
    exact heof herr

variable {data : Bytes}

section

variable (h : InOrder S C s)

include h

theorem InOrder.peeks_append {n : Nat}
    (hpeek : s.frameQueue.peek (s.readPos + s.rest.length) n = some data) (hok : err = none → s.rest.length + n = len)
    (heof : err = some .eof →
      s.finalOffset ≤ s.readPos + (s.rest.length + n) ∧ s.rest.length + n < len) :
    Peeks S C s len (s.rest ++ data) err := by
  rw [h.position] at hpeek
  obtain ⟨hsome, hmem⟩ | ⟨hnone, -⟩ := h.sorter.peek n
  · rw [hsome, Option.some.injEq] at hpeek
    have hdata : s.rest ++ data = slice S s.readPos (s.rest.length + n) := by
      conv_lhs => rw [h.content]
      rw [← hpeek, ← h.position, slice_append]
    have hlen : (s.rest ++ data).length = s.rest.length + n := by rw [hdata, length_slice]
    have hposition := h.position
    refine ⟨by rw [hlen]; exact hdata, fun x _ hx => ?_, fun herr => hlen.trans (hok herr),
      fun herr => hlen ▸ heof herr⟩
    rw [hlen] at hx
    by_cases hrest : x < s.readPos + s.rest.length
    · exact h.mem_of_lt hrest
    · exact hmem x (by omega) (by omega)
  · rw [hnone] at hpeek
    cases hpeek

/-- `peekFrame` on a stream that is not cancelled. -/
theorem InOrder.peekFrame_eq (len : Nat) : s.peekFrame len =
    if s.rest.length ≥ len then some (s.rest.take len, none)
    else (s.frameQueue.peek (s.readPos + s.rest.length) (len - s.rest.length)).elim
      (if s.currentFrameIsLast then some (s.rest, some .eof)
        else (if s.readPos + len > s.finalOffset then s.peekUpTo s.rest s.finalOffset
          else none).map fun data => (data, some .eof))
      fun data => some (s.rest ++ data, none) := by
  have hrest : (s.currentFrame.getD []).drop s.readPosInFrame = s.rest := rfl
  simp only [ReceiveStream.peekFrame, h.remotely, Bool.false_eq_true, false_and, if_false, hrest]
  by_cases hlen : s.rest.length ≥ len
  · rw [if_pos hlen, if_pos hlen]
  · rw [if_neg hlen, if_neg hlen]
    generalize s.frameQueue.peek _ _ = found
    generalize s.peekUpTo _ _ = upTo
    cases found <;> cases upTo <;> grind

/-- The bytes up to the end of the stream, which is before the end of the buffer. -/
theorem InOrder.peeks_peekUpTo (hend : s.readPos + len > s.finalOffset)
    (hlen : s.rest.length < len) (hpeek : s.peekUpTo s.rest s.finalOffset = some data) :
    Peeks S C s len data (some .eof) := by
  rw [peekUpTo] at hpeek
  split at hpeek
  · rename_i hle
    rw [← Option.some.inj hpeek]
    exact h.peeks_take hle (by simp) fun _ => by omega
  · obtain ⟨more, hmore, rfl⟩ := Option.map_eq_some_iff.mp hpeek
    exact h.peeks_append hmore (by simp) fun _ => by omega

theorem InOrder.peekFrame_some (hpeek : s.peekFrame len = some (data, err)) :
    Peeks S C s len data err ∧ (err = none ∨ err = some .eof) := by
  rw [h.peekFrame_eq] at hpeek
  split at hpeek
  · rename_i hlen
    obtain ⟨rfl, rfl⟩ := Prod.mk.inj (Option.some.inj hpeek)
    exact ⟨h.peeks_take hlen (fun _ => rfl) (by simp), .inl rfl⟩
  rename_i hlen
  cases hfound : s.frameQueue.peek (s.readPos + s.rest.length) (len - s.rest.length) with
  | some more =>
    rw [hfound] at hpeek
    obtain ⟨rfl, rfl⟩ := Prod.mk.inj (Option.some.inj hpeek)
    exact ⟨h.peeks_append hfound (fun _ => by omega) (by simp), .inl rfl⟩
  | none =>
    rw [hfound, Option.elim_none] at hpeek
    split at hpeek
    · rename_i hlast
      obtain ⟨rfl, rfl⟩ := Prod.mk.inj (Option.some.inj hpeek)
      have hle := h.last hlast
      rw [← h.position] at hle
      have hall : Peeks S C s len (s.rest.take s.rest.length) (some .eof) :=
        h.peeks_take le_rfl (by simp) fun _ => ⟨hle, by omega⟩
      rw [List.take_length] at hall
      exact ⟨hall, .inr rfl⟩
    · obtain ⟨upTo, hupTo, heq⟩ := Option.map_eq_some_iff.mp hpeek
      obtain ⟨rfl, rfl⟩ := Prod.mk.inj heq
      split at hupTo
      · exact ⟨h.peeks_peekUpTo ‹_› (not_le.mp hlen) hupTo, .inr rfl⟩
      · cases hupTo

/-- A `Peek` fails only if something was not received. -/
theorem InOrder.peekFrame_none (hpeek : s.peekFrame len = none) :
    s.currentFrameIsLast = false ∧ ∃ x, s.readPos ≤ x ∧ x < s.readPos + len ∧ x ∉ C := by
  rw [h.peekFrame_eq] at hpeek
  split at hpeek
  · cases hpeek
  rename_i hlen
  have hposition := h.position
  rw [hposition] at hpeek
  obtain ⟨hsome, -⟩ | ⟨hnone, x, hle, hlt, hx⟩ := h.sorter.peek (len - s.rest.length)
  · rw [hsome] at hpeek
    cases hpeek
  · rw [hnone, Option.elim_none] at hpeek
    split at hpeek
    · cases hpeek
    · rename_i hlast
      exact ⟨by simpa using hlast, x, by omega, by omega, hx⟩

end

/-- What a `Peek` comes to. The stream stays where it is. -/
structure PeeksTo (S : Nat → UInt8) (C : Set Nat) (len : Nat) (expired : Bool)
    (s s' : ReceiveStream κ) (outcome : PeekOutcome) : Prop where
  inOrder : InOrder S C s'
  source : SameSource s s'
  readPos : s'.readPos = s.readPos
  flowController : s'.flowController = s.flowController
  outcome : match outcome with
    | .returned data err => Peeks S C s' len data err ∧
        (err = none ∨ err = some .eof ∨ err = some .deadline ∧ expired = true)
    | .waits => 0 < len ∧ ∃ x, s'.readPos ≤ x ∧ x < s'.readPos + len ∧ x ∉ C

/-- Nothing is returned. -/
theorem peeks_nil (hok : err = none → len = 0)
    (heof : err = some .eof → s.finalOffset ≤ s.readPos ∧ 0 < len) : Peeks S C s len [] err :=
  ⟨rfl, fun x hle hlt => by simp at hlt; omega, fun herr => (hok herr).symm, heof⟩

/-- **`Peek`** up to its first wait. -/
theorem InOrder.peekRound (h : InOrder S C s) (hlen : 0 < len) (expired : Bool) :
    Holds (fun _ => False) (fun r => PeeksTo S C len expired s r.1 r.2) (s.peekRound len expired) := by
  rw [ReceiveStream.peekRound]
  split
  · rename_i hend
    obtain ⟨-, hle⟩ := h.readLast hend.1 hend.2
    exact ⟨h, .refl s, rfl, rfl, peeks_nil (by simp) fun _ => ⟨hle, hlen⟩, .inr (.inl rfl)⟩
  rw [h.isCancelled, h.opened, if_neg (by simp), if_neg (by simp)]
  split
  · exact ⟨h, .refl s, rfl, rfl, peeks_nil (by simp) (by simp), .inr (.inr ⟨rfl, ‹_›⟩)⟩
  refine h.nextFrame.bind fun s' ⟨hs', hfresh, hsource, hread, hflow⟩ => ?_
  cases hneeds : s'.needsFrame with
  | true =>
    -- no frame could be dequeued
    have hrest := needsFrame_iff.mp hneeds
    obtain hne | ⟨-, hnot, -⟩ := hfresh
    · exact absurd hrest hne
    have hposition := hs'.position
    rw [hrest] at hposition
    simp only [if_true]
    split
    · rename_i hend
      have hle : s'.finalOffset ≤ s'.readPos := by
        cases hend with
        | inl hlast => exact (hs'.last hlast).trans hposition.ge
        | inr hge => exact hge
      exact ⟨hs', hsource, hread, hflow, peeks_nil (by simp) fun _ => ⟨hle, hlen⟩, .inr (.inl rfl)⟩
    · exact ⟨hs', hsource, hread, hflow, hlen, s'.readPos, le_rfl, Nat.lt_add_of_pos_right hlen, hnot⟩
  | false =>
    simp only [Bool.false_eq_true, if_false]
    cases hpeek : s'.peekFrame len with
    | some found =>
      obtain ⟨hpeeks, herr⟩ := hs'.peekFrame_some hpeek
      exact ⟨hs', hsource, hread, hflow, hpeeks, herr.imp_right .inl⟩
    | none =>
      obtain ⟨hlast, hmissing⟩ := hs'.peekFrame_none hpeek
      simp only
      split
      · rename_i hend
        have hle : s'.finalOffset ≤ s'.readPos := by simpa [hlast] using hend
        exact ⟨hs', hsource, hread, hflow, peeks_nil (by simp) fun _ => ⟨hle, hlen⟩,
          .inr (.inl rfl)⟩
      · exact ⟨hs', hsource, hread, hflow, hlen, hmissing⟩

/-- **`Peek`** after a wait. -/
theorem InOrder.wakePeek (h : InOrder S C s) (hlen : 0 < len) (expired : Bool) :
    Holds (fun _ => False) (fun r => PeeksTo S C len expired s r.1 r.2) (s.wakePeek len expired) := by
  rw [ReceiveStream.wakePeek]
  refine h.nextFrame.bind fun s' ⟨hs', _, hsource, hread, hflow⟩ => ?_
  refine (hs'.peekRound hlen expired).imp fun r hr => ?_
  exact { hr with
    source := hsource.trans hr.source
    readPos := hr.readPos.trans hread
    flowController := hr.flowController.trans hflow }

/-! ## receiving -/

variable {s' : ReceiveStream κ}

/-- A frame that is taken is put into the queue. -/
theorem handleStreamFrameImpl_ok {frame : StreamFrame}
    {putBack : Option κ} {now : Time} (hlocal : s.cancelledLocally = false)
    (hok : s.handleStreamFrameImpl frame putBack now = .ok (none, s')) : ∃ flow queue,
      s.frameQueue.pushFrame frame.data frame.offset putBack = .ok (queue, none) ∧
      s' = { s with
        flowController := flow
        finalOffset := if frame.fin then frame.offset + frame.dataLen else s.finalOffset
        frameQueue := queue
        readSignal := true } := by
  rw [handleStreamFrameImpl] at hok
  cases hflow : s.flowController.updateHighestReceived (frame.offset + frame.dataLen) frame.fin now
    with
  | mk flow err =>
    simp only [hflow] at hok
    cases err with
    | some err => cases hok
    | none =>
      have hnot : ¬ s.cancelledLocally = true := by simp [hlocal]
      simp only [if_neg hnot] at hok
      obtain ⟨r, hpush, hok⟩ := Outcome.bind_eq_ok.mp hok
      obtain ⟨queue, err⟩ := r
      cases err with
      | some err => cases hok
      | none =>
        cases hok
        exact ⟨flow, queue, hpush, rfl⟩

/-- **A frame** adds its range. A final offset that is known does not change. -/
theorem InOrder.handleStreamFrameImpl (h : InOrder S C s)
    {frame : StreamFrame} {putBack : Option κ} {now : Time}
    (hdata : frame.data = slice S frame.offset frame.dataLen)
    (hfinal : s.finalOffset ≠ MaxByteCount → frame.fin = true →
      frame.offset + frame.dataLen = s.finalOffset)
    (hok : s.handleStreamFrameImpl frame putBack now = .ok (none, s')) :
    InOrder S (C ∪ FrameSorter.range frame.offset (frame.offset + frame.dataLen)) s' ∧
      s'.readPos = s.readPos ∧ s'.readSignal = true ∧ s'.currentFrame = s.currentFrame ∧
      s'.currentFrameIsLast = s.currentFrameIsLast ∧
      s'.finalOffset = if frame.fin then frame.offset + frame.dataLen else s.finalOffset := by
  obtain ⟨flow, queue, hpush, rfl⟩ := handleStreamFrameImpl_ok h.locally hok
  rw [hdata] at hpush
  obtain ⟨hinv, hread⟩ := h.sorter.of_pushFrame hpush
  refine ⟨⟨hinv, ?_, h.content, fun hlast => ?_, h.inFrame, h.remotely, h.locally, h.opened⟩,
    rfl, rfl, rfl, rfl, rfl⟩
  · exact h.position.trans hread.symm
  · have hle := h.last hlast
    have hknown : s.finalOffset ≠ MaxByteCount := by
      intro hmax
      rw [hmax] at hle
      have hpos : 0 < s.frameQueue.readPos := lt_of_lt_of_le (by decide) hle
      have hbound := h.sorter.bound _ (h.sorter.read (s.frameQueue.readPos - 1) (by omega))
      omega
    simp only [hread]
    split
    · exact (hfinal hknown ‹_›).le.trans hle
    · exact hle

end ReceiveStream

end MoqQuic.Quic
