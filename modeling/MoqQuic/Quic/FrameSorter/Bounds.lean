import MoqQuic.Lib.Outcome
import MoqQuic.Quic.FrameSorter.Clear

/-!
# MoqQuic.Quic.FrameSorter.Bounds

How far a frame sorter can get, whatever it is given.

A peer may send different data for one offset. Such frames are not ranges of one stream, and
nothing can be said about the data that is popped; but the read position still stays behind the
end of all frames that were pushed, and below the largest offset.
-/

namespace MoqQuic.Quic

open Parse Outcome

namespace FrameSorter

variable {κ : Type} {limit : Nat}

/-- No data of the queue is behind `limit`. -/
def QueueWithin (limit : Nat) (queue : FrameSorterQueue κ) : Prop :=
  ∀ p e, queue.lookup p = some e → e.data = [] ∨ p + e.data.length ≤ limit

def Frame.Within (limit : Nat) (f : Frame) : Prop :=
  f.data = [] ∨ f.start + f.data.length ≤ limit

/-- All gaps end within the offsets of a stream. -/
def GapsEnd (gaps : LinkedList ByteInterval) : Prop := ∀ g ∈ gaps.values, g.stop ≤ MaxByteCount

/-- The sorter has nothing behind `limit`. -/
structure Within (limit : Nat) (s : FrameSorter κ) : Prop where
  readPos_le : s.readPos ≤ limit
  readPos_lt : s.readPos < MaxByteCount
  queue : QueueWithin limit s.queue
  gaps : GapsEnd s.gaps

theorem within_new : Within 0 ({} : FrameSorter κ) where
  readPos_le := le_rfl
  readPos_lt := Nat.sub_pos_of_lt (by decide)
  queue p e he := by
    rw [AList.lookup_empty] at he
    cases he
  gaps g hg := by
    rw [List.mem_singleton.mp hg]

theorem Within.mono {limit' : Nat} {s : FrameSorter κ} (h : Within limit s)
    (hle : limit ≤ limit') : Within limit' s where
  readPos_le := h.readPos_le.trans hle
  readPos_lt := h.readPos_lt
  queue p e he := (h.queue p e he).imp_right fun hend => hend.trans hle
  gaps := h.gaps

/-! ## the queue -/

variable {queue : FrameSorterQueue κ}

theorem QueueWithin.erase (h : QueueWithin limit queue) (pos : Nat) :
    QueueWithin limit (queue.erase pos) := by
  intro p e he
  rw [lookup_erase] at he
  split at he
  · cases he
  · exact h p e he

variable {gaps : LinkedList ByteInterval} {f : Frame} {offset : Nat}

theorem QueueWithin.insert (h : QueueWithin limit queue) (hf : f.Within limit) (doneCb : Option κ) :
    QueueWithin limit (queue.insert f.start ⟨f.data, doneCb⟩) := by
  intro p e he
  by_cases hp : p = f.start
  · rw [hp, AList.lookup_insert, Option.some.injEq] at he
    rw [hp, ← he]
    exact hf
  · rw [AList.lookup_insert_ne hp] at he
    exact h p e he

theorem queueWithin_deleteRounds : ∀ (rounds : Nat) {c : Clearing κ} (pos : Nat),
    QueueWithin limit c.queue → QueueWithin limit (deleteRounds rounds c pos).queue
  | 0, _, _, h => h
  | rounds + 1, c, pos, h => by
    rw [deleteRounds]
    split
    · exact h
    · exact queueWithin_deleteRounds rounds _ (h.erase pos)

theorem queueWithin_replaceRounds {stop : Nat} : ∀ (rounds : Nat) {c : Clearing κ} (pos : Nat)
    (has : Bool) {r : Replacing κ}, QueueWithin limit c.queue →
      replaceRounds stop rounds c pos has = some r → QueueWithin limit r.clearing.queue
  | 0, c, pos, has, r, h, hr => by
    rw [replaceRounds, Option.some.injEq] at hr
    exact hr ▸ h
  | rounds + 1, c, pos, has, r, h, hr => by
    rw [replaceRounds] at hr
    split at hr
    · rw [← Option.some.inj hr]
      exact h
    · split at hr
      · exact queueWithin_replaceRounds rounds _ _ (h.erase pos) hr
      · split at hr
        · rw [← Option.some.inj hr]
          exact h
        · cases hr

/-! ## the frame -/

theorem Frame.Within.take (h : f.Within limit) (n stop : Nat) :
    Frame.Within limit { f with data := f.data.take n, stop := stop, wasCut := true } := by
  refine h.imp (fun hnil => by simp [hnil]) fun hend => ?_
  have hlen := List.length_take_le' n f.data
  simp only
  omega

theorem Frame.Within.cutAt (h : f.Within limit) (cut : Bool) (pos : Nat) :
    (f.cutAt cut pos).Within limit := by
  rw [Frame.cutAt]
  split
  · exact h.take _ _
  · exact h

theorem Frame.Within.cutStart (h : f.Within limit) (gap : ByteInterval) (startsInGap has : Bool) :
    (f.cutStart gap startsInGap has).Within limit := by
  rw [Frame.cutStart]
  split
  · simp only [Frame.Within, List.drop_eq_nil_iff, List.length_drop]
    cases h with
    | inl hnil => simp [hnil]
    | inr hend => omega
  · exact h

theorem Frame.Within.cutEnd (h : f.Within limit) (gap : ByteInterval) (endsInGap : Bool) :
    (f.cutEnd gap endsInGap).Within limit := by
  rw [Frame.cutEnd]
  split
  · exact h.take _ _
  · exact h

/-- Only a frame that starts before its gap is moved, and then to the start of the gap. -/
theorem start_cutAt_cutStart (f : Frame) (cut : Bool) (pos : Nat) (gap : ByteInterval)
    {startsInGap : Bool} (hin : startsInGap = true → f.start ≤ gap.stop)
    (hlt : gap.start < ((f.cutAt cut pos).cutStart gap startsInGap false).start) :
    ((f.cutAt cut pos).cutStart gap startsInGap false).start ≤ gap.stop := by
  have hcut : (f.cutAt cut pos).start = f.start := by
    rw [Frame.cutAt]
    split <;> rfl
  rw [Frame.cutStart] at hlt ⊢
  cases startsInGap with
  | false => simp at hlt
  | true => simpa [hcut] using hin rfl

/-! ## the gaps -/

theorem GapsEnd.of_elem (h : GapsEnd gaps) {e : GapElement} (he : e ∈ gaps.elems) :
    e.2.stop ≤ MaxByteCount := h e.2 (List.mem_map_of_mem he)

theorem findStartGapFrom_mem : ∀ {es : List GapElement} {gap : GapElement}
    {startsInGap : Bool}, findStartGapFrom offset es = .ok (gap, startsInGap) →
      gap ∈ es ∧ (startsInGap = true → offset ≤ gap.2.stop)
  | [], _, _, h => by cases h
  | e :: es, gap, startsInGap, h => by
    rw [findStartGapFrom] at h
    split at h
    · rename_i hin
      cases h
      exact ⟨List.mem_cons_self, fun _ => hin.2⟩
    · split at h
      · cases h
        exact ⟨List.mem_cons_self, fun hfalse => by cases hfalse⟩
      · obtain ⟨hmem, hle⟩ := findStartGapFrom_mem h
        exact ⟨List.mem_cons_of_mem _ hmem, hle⟩

theorem findEndGapFrom_mem :
    ∀ {es : List GapElement} {gap : GapElement} {endsInGap : Bool},
      (∀ e ∈ es, e ∈ gaps.elems) → findEndGapFrom gaps offset es = .ok (some gap, endsInGap) →
        gap ∈ gaps.elems
  | [], _, _, _, h => by cases h
  | e :: es, gap, endsInGap, hes, h => by
    obtain ⟨he, hes⟩ := List.forall_mem_cons.mp hes
    rw [findEndGapFrom] at h
    split at h
    · cases h
      exact he
    · split at h
      · rw [Except.ok.injEq, Prod.mk.injEq] at h
        exact LinkedList.mem_elems_of_prev h.1
      · exact findEndGapFrom_mem hes h

theorem GapsEnd.adjustStartGap (h : GapsEnd gaps) {startGap : GapElement}
    (hgap : startGap.2.stop ≤ MaxByteCount) {has : Bool}
    (hstart : has = false → startGap.2.start < f.start → f.start ≤ startGap.2.stop) :
    GapsEnd (adjustStartGap gaps startGap f has).1 := by
  rw [FrameSorter.adjustStartGap]
  split
  · split
    · exact LinkedList.forall_values_remove h
    · exact LinkedList.forall_values_setValue h hgap
  · rename_i hlt
    split
    · rename_i hhas
      exact LinkedList.forall_values_setValue h ((hstart hhas (not_le.mp hlt)).trans hgap)
    · exact h

variable {startGap endGap : GapElement}

theorem GapsEnd.adjustEndGap (h : GapsEnd gaps)
    (hstart : startGap.2.stop ≤ MaxByteCount) (hend : endGap.2.stop ≤ MaxByteCount) (f : Frame)
    (adjusted : Bool) :
    GapsEnd (adjustEndGap gaps startGap endGap f adjusted) := by
  rw [FrameSorter.adjustEndGap]
  split
  · split
    · exact LinkedList.forall_values_remove h
    · exact h
  · split
    · exact LinkedList.forall_values_insertAfter h hstart
    · split
      · exact LinkedList.forall_values_setValue h hend
      · exact h

theorem within_deleteGaps {endGapStart : Nat} : ∀ (es : List GapElement)
    {gaps : LinkedList ByteInterval} {c : Clearing κ}, GapsEnd gaps → QueueWithin limit c.queue →
      Holds (fun _ => True) (fun r => GapsEnd r.1 ∧ QueueWithin limit r.2.queue)
        (deleteGaps endGapStart es gaps c)
  | [], _, _, _, _ => trivial
  | e :: es, gaps, c, hgaps, hqueue => by
    rw [deleteGaps]
    split
    · exact within_deleteGaps es (LinkedList.forall_values_remove hgaps)
        (queueWithin_deleteRounds _ _ hqueue)
    · exact ⟨hgaps, hqueue⟩

theorem within_deleteBetween {c : Clearing κ} (hgaps : GapsEnd gaps)
    (hqueue : QueueWithin limit c.queue) (next : List GapElement) (startGap endGap : GapElement) :
    Holds (fun _ => True) (fun r => GapsEnd r.1 ∧ QueueWithin limit r.2.queue)
      (deleteBetween next startGap endGap gaps c) := by
  rw [deleteBetween]
  split
  · exact within_deleteGaps next hgaps (queueWithin_deleteRounds _ _ hqueue)
  · exact ⟨hgaps, hqueue⟩

/-! ## pushing -/

/-- Pushing keeps the bound and the read position. -/
def Pushed (limit : Nat) (s : FrameSorter κ) (r : FrameSorter κ × Option SorterError) : Prop :=
  Within limit r.1 ∧ r.1.readPos = s.readPos

variable {s : FrameSorter κ}

section

variable (h : Within limit s)

include h

theorem Within.store {c : Clearing κ} (hgaps : GapsEnd gaps)
    (hqueue : QueueWithin limit c.queue) (hf : f.Within limit) (doneCb : Option κ) :
    Pushed limit s (s.store gaps c f doneCb) := by
  rw [FrameSorter.store]
  split
  · exact ⟨⟨h.readPos_le, h.readPos_lt, hqueue, hgaps⟩, rfl⟩
  · exact ⟨⟨h.readPos_le, h.readPos_lt, hqueue.insert hf _, hgaps⟩, rfl⟩

theorem Within.place {startsInGap : Bool}
    (hstart : startGap ∈ s.gaps.elems) (hend : endGap ∈ s.gaps.elems) {r : Replacing κ}
    (hr : QueueWithin limit r.clearing.queue) (hf : f.Within limit)
    (hin : startsInGap = true → f.start ≤ startGap.2.stop) (endsInGap : Bool) (doneCb : Option κ) :
    Holds (fun _ => True) (Pushed limit s)
      (s.place startGap startsInGap endGap endsInGap r f doneCb) := by
  have hstartEnd := h.gaps.of_elem hstart
  have hstarts : r.hasReplacedAtLeastOne = false →
      startGap.2.start < ((f.cutAt r.cut r.pos).cutStart startGap.2 startsInGap
        r.hasReplacedAtLeastOne).start →
      ((f.cutAt r.cut r.pos).cutStart startGap.2 startsInGap
        r.hasReplacedAtLeastOne).start ≤ startGap.2.stop := by
    intro hhas hlt
    rw [hhas] at hlt ⊢
    exact start_cutAt_cutStart f r.cut r.pos startGap.2 hin hlt
  have hgaps := h.gaps.adjustStartGap hstartEnd hstarts
  rw [FrameSorter.place]
  refine (within_deleteBetween hgaps hr _ startGap endGap).bind fun ⟨gaps, c⟩ hcleared => ?_
  exact h.store (hcleared.1.adjustEndGap hstartEnd (h.gaps.of_elem hend) _ _) hcleared.2
    (((hf.cutAt _ _).cutStart _ _ _).cutEnd _ _) doneCb

theorem Within.pushNew (hf : f.Within limit) (doneCb : Option κ) :
    Holds (fun _ => True) (Pushed limit s) (s.pushNew f doneCb) := by
  rw [FrameSorter.pushNew]
  cases hfind : findStartGap s.gaps f.start with
  | error e => trivial
  | ok found =>
    obtain ⟨startGap, startsInGap⟩ := found
    obtain ⟨hstart, hin⟩ := findStartGapFrom_mem hfind
    simp only [bind, Except.bind]
    cases hfindEnd : findEndGap s.gaps startGap f.stop with
    | error e => trivial
    | ok found =>
      obtain ⟨endGap, endsInGap⟩ := found
      cases endGap with
      | none => trivial
      | some endGap =>
        have hend : endGap ∈ s.gaps.elems := by
          refine findEndGapFrom_mem (List.forall_mem_cons.mpr ⟨hstart, fun e he => ?_⟩)
            hfindEnd
          exact LinkedList.mem_elems_of_mem_after he
        simp only [deref]
        split
        · exact ⟨h, rfl⟩
        · cases hr : replace ⟨s.queue, s.called⟩ f.start f.stop with
          | none => exact ⟨h, rfl⟩
          | some r =>
            exact h.place hstart hend (queueWithin_replaceRounds _ _ _ h.queue hr) hf hin
              endsInGap doneCb

/-- **`Push`** of a frame that ends at most at `limit`. -/
theorem Within.pushFrame {data : Bytes} (hle : offset + data.length ≤ limit) (doneCb : Option κ) :
    Holds (fun _ => True) (Pushed limit s) (s.pushFrame data offset doneCb) := by
  have hpush : Holds (fun _ => True) (Pushed limit s) (s.push data offset doneCb) := by
    rw [FrameSorter.push]
    split
    · exact ⟨h, rfl⟩
    · cases s.gaps.front with
      | none => trivial
      | some front =>
        simp only [deref, bind, Except.bind]
        split
        · exact ⟨h, rfl⟩
        · exact h.pushNew (.inr hle) doneCb
  rw [FrameSorter.pushFrame]
  refine hpush.bind fun ⟨s', err⟩ hs' => ?_
  simp only
  split
  · exact ⟨{ hs'.1 with }, hs'.2⟩
  · exact hs'

end

/-! ## popping -/

/-- Data that is popped leaves the queue. -/
theorem keys_pop (s : FrameSorter κ) :
    Holds (fun _ => True) (fun r => r.1.queue.keys.length ≤ s.queue.keys.length ∧
      (r.2.2.1 = none ∨ r.1.queue.keys.length < s.queue.keys.length)) s.pop := by
  rw [FrameSorter.pop]
  cases hentry : s.queue.lookup s.readPos with
  | none => exact ⟨le_rfl, .inl rfl⟩
  | some entry =>
    cases s.gaps.front with
    | none => trivial
    | some front =>
      simp only [deref, bind, Except.bind]
      split
      · trivial
      · have hless := Nat.lt_of_succ_le (length_keys_erase hentry).le
        exact ⟨hless.le, .inr hless⟩

/-- **`Pop`** moves the read position over the data it returns. -/
theorem Within.pop (h : Within limit s) :
    Holds (fun _ => True) (fun r => Within limit r.1 ∧ r.2.1 = s.readPos ∧
      r.1.readPos = s.readPos + (r.2.2.1.getD []).length) s.pop := by
  rw [FrameSorter.pop]
  cases hentry : s.queue.lookup s.readPos with
  | none => exact ⟨h, rfl, rfl⟩
  | some entry =>
    cases hfront : s.gaps.front with
    | none => trivial
    | some front =>
      simp only [deref, bind, Except.bind]
      split
      · trivial
      · rename_i hlt
        have hstop := h.gaps.of_elem (List.mem_of_mem_head? hfront)
        have hread := h.readPos_le
        have hend := h.queue _ _ hentry
        refine ⟨⟨?_, ?_, h.queue.erase _, h.gaps⟩, rfl, rfl⟩
        · cases hend with
          | inl hnil => simpa [hnil] using hread
          | inr hle => exact hle
        · simp only
          omega

end FrameSorter

end MoqQuic.Quic
