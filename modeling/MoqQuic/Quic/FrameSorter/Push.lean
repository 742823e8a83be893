import MoqQuic.Quic.FrameSorter.Clear

/-!
# MoqQuic.Quic.FrameSorter.Push

What `push` does to the frame sorter, as a refinement of a set: the sorter stands for
the set of offsets that were received, and pushing a frame adds its range.

`Inv` relates the sorter to the set and to the stream the data is from: the gaps are the
complement of the set, and the queue tiles what was received and not read.  The gaps
after a push are the old ones with the range of the frame cut out.
-/

namespace MoqQuic.Quic

open Tiling HalfOpen

variable {κ : Type}

/-- The bytes of the stream from `a`, `n` of them. -/
def slice (S : Nat → UInt8) (a n : Nat) : Bytes := (List.range n).map fun i => S (a + i)

@[simp] theorem length_slice (S : Nat → UInt8) (a n : Nat) : (slice S a n).length = n := by
  simp [slice]

theorem take_slice (S : Nat → UInt8) {a m n : Nat} (h : m ≤ n) :
    (slice S a n).take m = slice S a m := by
  rw [slice, ← List.map_take, List.take_range, Nat.min_eq_left h, slice]

theorem drop_slice (S : Nat → UInt8) (a m n : Nat) :
    (slice S a n).drop m = slice S (a + m) (n - m) := by
  apply List.ext_getElem
  · simp
  · intro i _ _
    simp [slice, Nat.add_assoc]

theorem slice_append (S : Nat → UInt8) (a m n : Nat) :
    slice S a m ++ slice S (a + m) n = slice S a (m + n) := by
  rw [slice, slice, slice, List.range_add, List.map_append, List.map_map]
  simp [Function.comp_def, Nat.add_assoc]

namespace FrameSorter

/-- The gaps are what is missing of the set `C` of received offsets. -/
structure Missing (C : Set Nat) (gaps : List ByteInterval) : Prop where
  /-- they are in order and not empty, and no two touch -/
  separated : Separated gaps
  stops : ∀ g ∈ gaps, g.stop ≤ MaxByteCount
  mem_iff : ∀ x, x ∈ C ↔ x < MaxByteCount ∧ x ∉ union gaps

/-- The sorter stands for the set `C` of received offsets of the stream `S`. -/
structure Inv (S : Nat → UInt8) (C : Set Nat) (s : FrameSorter κ) : Prop
    extends Missing C s.gaps.values where
  /-- the last offset is not received -/
  bound : ∀ x ∈ C, x + 1 < MaxByteCount
  read : ∀ x, x < s.readPos → x ∈ C
  tiles : Tiles entryLen s.queue.lookup {x | x ∈ C ∧ s.readPos ≤ x}
  content : ∀ p e, s.queue.lookup p = some e → e.data = slice S p e.data.length

/-- The received offsets that were not read. -/
abbrev unread (C : Set Nat) (s : FrameSorter κ) : Set Nat := {x | x ∈ C ∧ s.readPos ≤ x}

section Gaps

variable {S : Nat → UInt8} {C : Set Nat} {s : FrameSorter κ}

theorem Inv.readPos_le (h : Inv S C s) {x : Nat} (hx : x ∉ C) : s.readPos ≤ x :=
  not_lt.mp fun hlt => hx (h.read x hlt)

/-- Some gap reaches to the end. -/
theorem Inv.exists_last (h : Inv S C s) : ∃ g ∈ s.gaps.values, g.stop = MaxByteCount := by
  have hnot : MaxByteCount - 1 ∉ C := fun hmem => by
    have hlt := h.bound _ hmem
    omega
  have hin : MaxByteCount - 1 ∈ union s.gaps.values := by
    by_contra hout
    exact hnot ((h.mem_iff _).mpr ⟨by decide, hout⟩)
  obtain ⟨g, hg, -, hlt⟩ := hin
  have hle := h.stops g hg
  exact ⟨g, hg, by omega⟩

/-! ## finding the gaps -/

theorem findStartGapFrom_spec (offset : Nat) : ∀ es : List GapElement,
    (∃ e ∈ es, offset ≤ e.2.stop) → ∃ pre gap post startsInGap,
      findStartGapFrom offset es = .ok (gap, startsInGap) ∧ es = pre ++ gap :: post ∧
        (∀ e ∈ pre, e.2.stop < offset) ∧
          (startsInGap = true ∧ gap.2.start ≤ offset ∧ offset ≤ gap.2.stop ∨
            startsInGap = false ∧ offset < gap.2.start)
  | [], ⟨e, he, _⟩ => by simp at he
  | e :: es, hex => by
    rw [findStartGapFrom]
    by_cases hin : offset ≥ e.2.start ∧ offset ≤ e.2.stop
    · exact ⟨[], e, es, true, if_pos hin, rfl, by simp, .inl ⟨rfl, hin.1, hin.2⟩⟩
    · rw [if_neg hin]
      by_cases hlt : offset < e.2.start
      · exact ⟨[], e, es, false, if_pos hlt, rfl, by simp, .inr ⟨rfl, hlt⟩⟩
      · rw [if_neg hlt]
        have hbehind : e.2.stop < offset := by omega
        have hex' := ((List.exists_mem_cons_iff ..).mp hex).resolve_left (not_le.mpr hbehind)
        obtain ⟨pre, gap, post, b, hfind, rfl, hpre, hb⟩ := findStartGapFrom_spec offset es hex'
        exact ⟨e :: pre, gap, post, b, hfind, rfl, List.forall_mem_cons.mpr ⟨hbehind, hpre⟩, hb⟩

theorem findEndGapFrom_spec (gaps : LinkedList ByteInterval) (offset : Nat) :
    ∀ es : List GapElement, (∃ e ∈ es, offset < e.2.stop) → ∃ mid gap post,
      es = mid ++ gap :: post ∧ (∀ e ∈ mid, e.2.stop ≤ offset) ∧
        (findEndGapFrom gaps offset es = .ok (some gap, true) ∧
            gap.2.start ≤ offset ∧ offset < gap.2.stop ∨
          findEndGapFrom gaps offset es = .ok (gaps.prev gap.1, false) ∧ offset < gap.2.start)
  | [], ⟨e, he, _⟩ => by simp at he
  | e :: es, hex => by
    rw [findEndGapFrom]
    by_cases hin : offset ≥ e.2.start ∧ offset < e.2.stop
    · exact ⟨[], e, es, rfl, by simp, .inl ⟨if_pos hin, hin.1, hin.2⟩⟩
    · rw [if_neg hin]
      by_cases hlt : offset < e.2.start
      · exact ⟨[], e, es, rfl, by simp, .inr ⟨if_pos hlt, hlt⟩⟩
      · rw [if_neg hlt]
        have hbehind : e.2.stop ≤ offset := by omega
        have hex' := ((List.exists_mem_cons_iff ..).mp hex).resolve_left (not_lt.mpr hbehind)
        obtain ⟨mid, gap, post, rfl, hmid, hfind⟩ := findEndGapFrom_spec gaps offset es hex'
        exact ⟨e :: mid, gap, post, rfl, List.forall_mem_cons.mpr ⟨hbehind, hmid⟩, hfind⟩

theorem Inv.elems_apart (h : Inv S C s) : s.gaps.elems.Pairwise fun e e' => e.2.stop < e'.2.start :=
  List.pairwise_map.mp h.separated.apart

theorem Inv.elems_nonempty (h : Inv S C s) {e : GapElement} (he : e ∈ s.gaps.elems) :
    e.2.start < e.2.stop := h.separated.nonempty e.2 (List.mem_map_of_mem he)

theorem Inv.notMem_of_elem (h : Inv S C s) {e : GapElement} (he : e ∈ s.gaps.elems) {x : Nat}
    (hle : e.2.start ≤ x) (hlt : x < e.2.stop) : x ∉ C :=
  fun hx => ((h.mem_iff x).mp hx).2 ⟨e.2, List.mem_map_of_mem he, hle, hlt⟩

/-- What `findEndGap` can return, when the gaps are `pre`, the gap in which the frame starts,
and `post`. -/
inductive Ends (pre : List GapElement) (startGap : GapElement) (post : List GapElement)
    (stop : Nat) : Option GapElement → Bool → Prop
  | before (hlt : stop < startGap.2.start) : Ends pre startGap post stop pre.getLast? false
  | same (hle : startGap.2.start ≤ stop) (hpost : ∀ e ∈ post, stop < e.2.start) :
      Ends pre startGap post stop (some startGap) (decide (stop < startGap.2.stop))
  | later {mid : List GapElement} {endGap : GapElement} {post' : List GapElement}
      (hsplit : post = mid ++ endGap :: post') (hle : endGap.2.start ≤ stop)
      (hpost : ∀ e ∈ post', stop < e.2.start) :
      Ends pre startGap post stop (some endGap) (decide (stop < endGap.2.stop))

theorem Inv.findEndGap_ends (h : Inv S C s) {pre post : List GapElement} {startGap : GapElement}
    (hsplit : s.gaps.elems = pre ++ startGap :: post) {stop : Nat} (hstop : stop < MaxByteCount)
    (hpre : ∀ e ∈ pre, e.2.stop ≤ stop) : ∃ endGap endsInGap,
      findEndGap s.gaps startGap stop = .ok (endGap, endsInGap) ∧
        Ends pre startGap post stop endGap endsInGap := by
  have hapart := h.elems_apart
  have hafter : s.gaps.after startGap.1 = post := LinkedList.after_eq hsplit
  have hex : ∃ e ∈ startGap :: post, stop < e.2.stop := by
    obtain ⟨g, hg, hlast⟩ := h.exists_last
    obtain ⟨e, he, rfl⟩ := List.mem_map.mp hg
    rw [hsplit] at he
    cases List.mem_append.mp he with
    | inl hin => exact absurd (hpre e hin) (by omega)
    | inr hin => exact ⟨e, hin, by omega⟩
  obtain ⟨mid, gap, post', hes, hmid, hfind⟩ := findEndGapFrom_spec s.gaps stop _ hex
  rw [findEndGap, hafter]
  -- the gaps behind one that starts at or stops behind `stop` start behind it
  have hbehind : ∀ front e rest, s.gaps.elems = front ++ e :: rest → stop < e.2.stop →
      ∀ e' ∈ rest, stop < e'.2.start := by
    intro front e rest heq hlt e' he'
    rw [heq] at hapart
    have hlt' := (List.pairwise_cons.mp (List.pairwise_append.mp hapart).2.1).1 e' he'
    omega
  cases mid with
  | nil =>
    obtain ⟨rfl, rfl⟩ := List.cons.inj hes
    obtain ⟨hok, hle, hlt⟩ | ⟨hok, hlt⟩ := hfind
    · rw [← decide_eq_true hlt] at hok
      exact ⟨_, _, hok, .same hle (hbehind pre startGap post hsplit hlt)⟩
    · rw [LinkedList.prev_eq hsplit] at hok
      exact ⟨_, _, hok, .before hlt⟩
  | cons e mid =>
    obtain ⟨rfl, hpost⟩ := List.cons.inj hes
    have hsplit' : s.gaps.elems = (pre ++ startGap :: mid) ++ gap :: post' := by
      rw [hsplit, hpost]
      simp
    obtain ⟨hok, hle, hlt⟩ | ⟨hok, hlt⟩ := hfind
    · rw [← decide_eq_true hlt] at hok
      exact ⟨_, _, hok, .later hpost hle (hbehind _ gap post' hsplit' hlt)⟩
    · -- the gap before the one behind `stop`
      have hgap : ∀ e' ∈ gap :: post', stop < e'.2.start := by
        have hne := h.elems_nonempty (e := gap) (by simp [hsplit'])
        exact List.forall_mem_cons.mpr ⟨hlt, hbehind _ gap post' hsplit' (by omega)⟩
      rw [LinkedList.prev_eq hsplit'] at hok
      rcases List.eq_nil_or_concat mid with rfl | ⟨mid', last, rfl⟩
      · have hstopLe : startGap.2.stop ≤ stop := hmid startGap (by simp)
        have hne := h.elems_nonempty (e := startGap) (by simp [hsplit])
        rw [List.getLast?_concat, ← decide_eq_false hstopLe.not_gt] at hok
        exact ⟨_, _, hok, .same (by omega) (by rw [hpost]; exact hgap)⟩
      · have hstopLe : last.2.stop ≤ stop := hmid last (by simp)
        have hne := h.elems_nonempty (e := last) (by simp [hsplit, hpost])
        have hsplitLast : post = mid' ++ last :: gap :: post' := by simp [hpost]
        have hlast : (pre ++ startGap :: (mid' ++ [last])).getLast? = some last := by
          rw [← List.cons_append, ← List.append_assoc, List.getLast?_concat]
        rw [List.concat_eq_append, hlast, ← decide_eq_false hstopLe.not_gt] at hok
        exact ⟨_, _, hok, .later hsplitLast (by omega) hgap⟩

end Gaps

/-! ## placing the frame -/

section Place

variable {S : Nat → UInt8} {C : Set Nat} {s : FrameSorter κ}

/-- What `push` has prepared when it stores the frame: `f` is what was kept of the frame
from `start` to `stop`, `c` the queue cleared for it, and `gaps` the new gaps. -/
structure Placed (S : Nat → UInt8) (C : Set Nat) (s : FrameSorter κ) (start stop : Nat)
    (gaps : LinkedList ByteInterval) (c : Clearing κ) (f : Frame) : Prop where
  lt : f.start < f.stop
  data : f.data = slice S f.start (f.stop - f.start)
  start_le : start ≤ f.start
  le_stop : f.stop ≤ stop
  rest : ∀ x, start ≤ x → x < stop → x ∈ C ∨ f.start ≤ x ∧ x < f.stop
  unread : s.readPos ≤ f.start
  cleared : Cleared s.queue.lookup c.at f.start f.stop
  startBoundary : Boundary entryLen s.queue.lookup f.start
  stopBoundary : Boundary entryLen s.queue.lookup f.stop
  gaps : gaps.values = cut start stop s.gaps.values

variable {front rest : List GapElement} {gaps : LinkedList ByteInterval} {e : GapElement}
  {g : ByteInterval} {c : Clearing κ} {has : Bool}

section

variable (h : Inv S C s)
include h

variable {x : Nat}

/-- A gap is a boundary of the queue at its start, at its end and inside. -/
theorem Inv.boundary_of_elem (he : e ∈ s.gaps.elems)
    (hle : e.2.start ≤ x) (hlt : x ≤ e.2.stop) : Boundary entryLen s.queue.lookup x := by
  have hne := h.elems_nonempty he
  rcases hlt.eq_or_lt with rfl | hlt
  · have hpred : e.2.stop - 1 ∉ unread C s :=
      fun hmem => h.notMem_of_elem he (x := e.2.stop - 1) (by omega) (by omega) hmem.1
    have hbd := h.tiles.boundary_of_pred hpred
    rwa [Nat.sub_add_cancel (by omega)] at hbd
  · exact h.tiles.boundary_of_notMem fun hmem => h.notMem_of_elem he hle hlt hmem.1

/-- No frame starts in a gap. -/
theorem Inv.lookup_of_elem (he : e ∈ s.gaps.elems) (hle : e.2.start ≤ x)
    (hlt : x < e.2.stop) : s.queue.lookup x = none := by
  cases hx : s.queue.lookup x with
  | none => rfl
  | some entry => exact absurd (h.tiles.start_mem hx).1 (h.notMem_of_elem he hle hlt)

/-- What lies between two gaps, or before all of them, is covered. -/
theorem Inv.mem_between (hsplit : s.gaps.elems = front ++ rest)
    (hmax : x < MaxByteCount) (hfront : ∀ e ∈ front, e.2.stop ≤ x)
    (hrest : ∀ e ∈ rest, x < e.2.start) : x ∈ C := by
  refine (h.mem_iff x).mpr ⟨hmax, ?_⟩
  rintro ⟨g, hg, hle, hlt⟩
  obtain ⟨e, he, rfl⟩ := List.mem_map.mp hg
  rw [hsplit] at he
  cases List.mem_append.mp he with
  | inl hin => exact absurd (hfront e hin) (by omega)
  | inr hin => exact absurd (hrest e hin) (by omega)

section

variable (hsplit : s.gaps.elems = front ++ e :: rest)
include hsplit

/-- The gaps before a gap stop before it starts. -/
theorem Inv.stop_lt : ∀ e' ∈ front, e'.2.stop < e.2.start := by
  intro e' he'
  have hapart := h.elems_apart
  rw [hsplit] at hapart
  exact (List.pairwise_append.mp hapart).2.2 e' he' e (by simp)

/-- The gaps after a gap start after it stops. -/
theorem Inv.lt_start : ∀ e' ∈ rest, e.2.stop < e'.2.start := by
  intro e' he'
  have hapart := h.elems_apart
  rw [hsplit] at hapart
  exact (List.pairwise_cons.mp (List.pairwise_append.mp hapart).2.1).1 e' he'

/-- What lies right before a gap is covered. -/
theorem Inv.mem_before (hfront : ∀ d ∈ front, d.2.stop ≤ x) (hlt : x < e.2.start) : x ∈ C := by
  have hmem : e ∈ s.gaps.elems := by simp [hsplit]
  have hne := h.elems_nonempty hmem
  have hmax : e.2.stop ≤ MaxByteCount := h.stops e.2 (List.mem_map_of_mem hmem)
  refine h.mem_between hsplit (by omega) hfront (List.forall_mem_cons.mpr ⟨hlt, fun d hd => ?_⟩)
  have hlt' := h.lt_start hsplit d hd
  omega

/-- What lies right behind a gap is covered. -/
theorem Inv.mem_behind
    (hmax : x < MaxByteCount) (hle : e.2.stop ≤ x) (hrest : ∀ d ∈ rest, x < d.2.start) : x ∈ C := by
  have hsplit' : s.gaps.elems = (front ++ [e]) ++ rest := by simp [hsplit]
  have hne := h.elems_nonempty (e := e) (by simp [hsplit])
  refine h.mem_between hsplit' hmax (fun d hd => ?_) hrest
  simp only [List.mem_append, List.mem_singleton] at hd
  obtain hd | rfl := hd
  · have hlt := h.stop_lt hsplit d hd
    omega
  · exact hle

end

/-- What lies between a gap and the next one is covered and not read. -/
theorem Inv.mem_unread_between {e e' : GapElement}
    (hsplit : s.gaps.elems = front ++ e :: e' :: rest) (hle : e.2.stop ≤ x)
    (hlt : x < e'.2.start) : x ∈ unread C s := by
  have hsplit' : s.gaps.elems = (front ++ [e]) ++ e' :: rest := by simp [hsplit]
  have hne := h.elems_nonempty (e := e) (by simp [hsplit])
  have hne' := h.elems_nonempty (e := e') (by simp [hsplit])
  have hmax : e'.2.stop ≤ MaxByteCount := h.stops e'.2 (List.mem_map_of_mem (by simp [hsplit]))
  have hread := h.readPos_le (h.notMem_of_elem (e := e) (by simp [hsplit]) le_rfl hne)
  refine ⟨h.mem_behind hsplit (by omega) hle ?_, by omega⟩
  refine List.forall_mem_cons.mpr ⟨hlt, fun d hd => ?_⟩
  have hlt' := h.lt_start hsplit' d hd
  omega

/-- The next gap behind one that is not the last. -/
theorem Inv.next_gap {front mid post : List GapElement} {e endGap : GapElement}
    (hsplit : s.gaps.elems = front ++ e :: (mid ++ endGap :: post)) :
    ∃ e' rest, mid ++ endGap :: post = e' :: rest ∧ s.gaps.elems = front ++ e :: e' :: rest ∧
      e.2.stop < e'.2.start ∧ e'.2.start ≤ endGap.2.start := by
  cases mid with
  | nil => exact ⟨endGap, post, rfl, hsplit, h.lt_start hsplit endGap (by simp), le_rfl⟩
  | cons e' mid =>
    have hsplit' : s.gaps.elems = (front ++ [e]) ++ e' :: (mid ++ endGap :: post) := by
      simp [hsplit]
    have hne := h.elems_nonempty (e := e') (by simp [hsplit])
    have hlt := h.lt_start hsplit' endGap (by simp)
    exact ⟨e', mid ++ endGap :: post, rfl, hsplit, h.lt_start hsplit e' (by simp), by omega⟩

/-- The frames behind a gap are deleted up to the next one. -/
theorem Inv.cleared_to_next {e e' : GapElement}
    (hsplit : s.gaps.elems = front ++ e :: e' :: rest) {a m : Nat}
    (ha : Boundary entryLen s.queue.lookup a) (hclear : Cleared s.queue.lookup c.at a m)
    (ham : a ≤ m) (hem : e.2.start ≤ m) (hme : m ≤ e.2.stop) :
    Cleared s.queue.lookup (deleteConsecutive c e.2.stop).at a e'.2.start := by
  have hmem : e ∈ s.gaps.elems := by simp [hsplit]
  have hmem' : e' ∈ s.gaps.elems := by simp [hsplit]
  have hnext := h.lt_start hsplit e' (by simp)
  refine cleared_deleteConsecutive h.tiles hclear ha ?_ ham hme ?_ ?_ hnext.le ?_ ?_
  · exact h.boundary_of_elem hmem hem hme
  · intro x hle hlt hx
    exact h.notMem_of_elem hmem (by omega) hlt hx.1
  · exact h.boundary_of_elem hmem (by omega) le_rfl
  · intro x hle hlt
    exact h.mem_unread_between hsplit hle hlt
  · intro hx
    exact h.notMem_of_elem hmem' le_rfl (h.elems_nonempty hmem') hx.1

/-- **The gaps between** the one where the frame starts and the one where it ends are removed,
and the frames behind them deleted. -/
theorem Inv.deleteGaps_spec {a : Nat}
    (ha : Boundary entryLen s.queue.lookup a) (endGap : GapElement) (post : List GapElement) :
    ∀ (mid front pre : List GapElement) (gaps : LinkedList ByteInterval) (c : Clearing κ) (lo : Nat),
      s.gaps.elems = front ++ (mid ++ endGap :: post) →
      gaps.elems = pre ++ (mid ++ endGap :: post) →
      (mid ++ endGap :: post).head?.map (fun e => e.2.start) = some lo → a ≤ lo →
      Cleared s.queue.lookup c.at a lo →
      ∃ gaps' c', deleteGaps endGap.2.start (mid ++ endGap :: post) gaps c = .ok (gaps', c') ∧
        gaps'.elems = pre ++ endGap :: post ∧ Cleared s.queue.lookup c'.at a endGap.2.start
  | [], front, pre, gaps, c, lo, hs, hg, hlo, _, hclear => by
    have hne := h.elems_nonempty (e := endGap) (by simp [hs])
    have hlo : endGap.2.start = lo := by simpa using hlo
    refine ⟨gaps, c, ?_, hg, hlo ▸ hclear⟩
    rw [List.nil_append, deleteGaps, if_neg (by omega)]
  | e :: mid, front, pre, gaps, c, lo, hs, hg, hlo, hale, hclear => by
    have hlo : e.2.start = lo := by simpa using hlo
    have hne := h.elems_nonempty (e := e) (by simp [hs])
    rw [List.cons_append] at hs
    obtain ⟨e', rest, hrest, hs', hnext, hle⟩ := h.next_gap hs
    have hclear' := h.cleared_to_next hs' ha hclear hale hlo.le (by omega)
    obtain ⟨gaps', c', hok, helems, hcleared⟩ :=
      Inv.deleteGaps_spec ha endGap post mid (front ++ [e]) pre (gaps.remove e.1) _ e'.2.start
        (by simp [hs]) (LinkedList.elems_remove hg) (by simp [hrest]) (by omega) hclear'
    refine ⟨gaps', c', ?_, helems, hcleared⟩
    rw [List.cons_append, deleteGaps, if_pos (by omega)]
    exact hok

end

/-- What is kept of the frame when its start is settled. -/
structure Kept (S : Nat → UInt8) (C : Set Nat) (s : FrameSorter κ) (start stop : Nat)
    (f : Frame) : Prop where
  stop_eq : f.stop = stop
  start_le : start ≤ f.start
  lt : f.start < stop
  data : f.data = slice S f.start (stop - f.start)
  rest : ∀ x, start ≤ x → x < f.start → x ∈ C
  unread : s.readPos ≤ f.start
  boundary : Boundary entryLen s.queue.lookup f.start

variable {start stop : Nat} {f : Frame}

@[simp] theorem start_cutEnd (f : Frame) (g : ByteInterval) (ends : Bool) :
    (f.cutEnd g ends).start = f.start := by
  rw [Frame.cutEnd]
  split <;> rfl

/-- The frame ends where the gap does, if not before. -/
theorem Kept.stop_cutEnd (hk : Kept S C s start stop f) (hlt : f.start < g.stop) :
    (f.cutEnd g (decide (stop < g.stop))).stop = min stop g.stop := by
  have hstop := hk.stop_eq
  rw [Frame.cutEnd]
  split
  · next hcut => exact (Nat.min_eq_right (hstop ▸ hcut.2.2.le)).symm
  · next hcut =>
    simp only [decide_eq_false_iff_not] at hcut
    omega

theorem Kept.data_cutEnd (hk : Kept S C s start stop f) (hlt : f.start < g.stop) :
    (f.cutEnd g (decide (stop < g.stop))).data = slice S f.start (min stop g.stop - f.start) := by
  have hstop := hk.stop_eq
  rw [Frame.cutEnd]
  split
  · next hcut =>
    have hle : g.stop ≤ stop := hstop ▸ hcut.2.2.le
    rw [Nat.min_eq_right hle, hk.data]
    exact take_slice S (by omega)
  · next hcut =>
    simp only [decide_eq_false_iff_not] at hcut
    rw [Nat.min_eq_left (by omega)]
    exact hk.data

/-- **The end of the frame**: it ends in the gap, or where the gap does. -/
theorem Kept.placed (hk : Kept S C s start stop f) (h : Inv S C s) {front post : List GapElement}
    {endGap : GapElement} (hsplit : s.gaps.elems = front ++ endGap :: post)
    (hmax : stop < MaxByteCount) (hpost : ∀ e ∈ post, stop < e.2.start)
    (hle : endGap.2.start ≤ stop) (hlt : f.start < endGap.2.stop)
    (hclear : Cleared s.queue.lookup c.at f.start (max f.start endGap.2.start))
    (hgaps : gaps.values = cut start stop s.gaps.values) :
    Placed S C s start stop gaps c (f.cutEnd endGap.2 (decide (stop < endGap.2.stop))) := by
  have hmem : endGap ∈ s.gaps.elems := by simp [hsplit]
  have hne := h.elems_nonempty hmem
  have hstop := hk.stop_cutEnd hlt
  have hklt := hk.lt
  constructor
  · rw [start_cutEnd, hstop]
    omega
  · rw [hk.data_cutEnd hlt, start_cutEnd, hstop]
  · rw [start_cutEnd]
    exact hk.start_le
  · rw [hstop]
    exact Nat.min_le_left _ _
  · intro x hxle hxlt
    rw [start_cutEnd, hstop]
    by_cases hfront : x < f.start
    · exact .inl (hk.rest x hxle hfront)
    · by_cases hin : x < endGap.2.stop
      · exact .inr ⟨by omega, by omega⟩
      · exact .inl (h.mem_behind hsplit (by omega) (by omega) fun e he => hxlt.trans (hpost e he))
  · rw [start_cutEnd]
    exact hk.unread
  · rw [start_cutEnd, hstop]
    refine hclear.trans (cleared_refl _ _) (le_max_left _ _) (by omega) le_rfl ?_
    intro p hple hplt
    exact h.lookup_of_elem hmem (by omega) (by omega)
  · rw [start_cutEnd]
    exact hk.boundary
  · rw [hstop]
    exact h.boundary_of_elem hmem (by omega) (by omega)
  · exact hgaps

/-! ## the gaps after a push -/

/-- The gaps before the frame stay, and so do the gaps behind it. -/
theorem Inv.cut_values (h : Inv S C s) {pre mid post : List GapElement}
    (hsplit : s.gaps.elems = pre ++ (mid ++ post)) (hlt : start < stop)
    (hpre : ∀ e ∈ pre, e.2.stop ≤ start) (hpost : ∀ e ∈ post, stop ≤ e.2.start) :
    cut start stop s.gaps.values =
      pre.map Prod.snd ++ (cut start stop (mid.map Prod.snd) ++ post.map Prod.snd) := by
  have hne : ∀ es : List GapElement, es ⊆ s.gaps.elems →
      ∀ g ∈ es.map Prod.snd, g.start < g.stop := by
    intro es hsub g hg
    obtain ⟨e, he, rfl⟩ := List.mem_map.mp hg
    exact h.elems_nonempty (hsub he)
  have hpre' : cut start stop (pre.map Prod.snd) = pre.map Prod.snd :=
    cut_before hlt.le (hne pre (by simp [hsplit])) (List.forall_mem_map.mpr hpre)
  have hpost' : cut start stop (post.map Prod.snd) = post.map Prod.snd :=
    cut_after hlt.le (hne post (by simp [hsplit])) (List.forall_mem_map.mpr hpost)
  rw [LinkedList.values, hsplit, List.map_append, List.map_append, cut_append, cut_append, hpre',
    hpost']

/-- The frame takes something of the gap in which it starts: the start of the gap, or a part
from its own start on. -/
structure Opens (start stop : Nat) (g : ByteInterval) (f : Frame) (has : Bool) : Prop where
  stop_eq : f.stop = stop
  start_lt : f.start < g.stop
  lt_stop : g.start < stop
  start_le : start ≤ f.start
  inside : g.start < f.start → f.start = start ∧ has = false

theorem Opens.remains_same (ho : Opens start stop g f has) :
    remains start stop g =
      (if f.start ≤ g.start then [] else [⟨g.start, start⟩]) ++
        if stop < g.stop then [⟨stop, g.stop⟩] else [] := by
  have hstart := ho.start_le
  have hlt := ho.start_lt
  have hstop := ho.lt_stop
  rw [remains, Nat.max_eq_right hstop.le]
  congr 1
  split
  · next hle => exact proper_of_le (by omega)
  · next hgt =>
    have heq := (ho.inside (by omega)).1
    rw [Nat.min_eq_right (by omega)]
    exact proper_of_lt (by omega)

/-- **A frame inside one gap**, or from it into the frames behind it. -/
theorem Opens.values_same {pre post : List GapElement} {gap : GapElement} {f' : Frame}
    (ho : Opens start stop gap.2 f has) (hsplit : gaps.elems = pre ++ gap :: post)
    (hf' : f'.stop = min stop gap.2.stop) :
    (adjustEndGap (adjustStartGap gaps gap f has).1 gap gap f'
        (adjustStartGap gaps gap f has).2).values =
      pre.map Prod.snd ++ (remains start stop gap.2 ++ post.map Prod.snd) := by
  have hstop := ho.stop_eq
  rw [ho.remains_same, adjustStartGap, hstop]
  by_cases hstart : f.start ≤ gap.2.start
  · rw [if_pos hstart, if_pos hstart]
    by_cases hend : stop < gap.2.stop
    · rw [if_neg (by omega), if_pos hend, adjustEndGap, if_neg (by omega), if_neg (by simp),
        if_neg (by simp)]
      simp [LinkedList.values, LinkedList.elems_setValue _ hsplit]
    · rw [if_pos (by omega), if_neg hend, adjustEndGap, if_pos (by omega), if_neg (by simp)]
      simp [LinkedList.values, LinkedList.elems_remove hsplit]
  · obtain ⟨hfs, rfl⟩ := ho.inside (by omega)
    have hset := LinkedList.elems_setValue ⟨gap.2.start, start⟩ hsplit
    rw [if_neg hstart, if_neg hstart, if_pos rfl, hfs]
    by_cases hend : stop < gap.2.stop
    · rw [if_pos hend, adjustEndGap, if_neg (by omega), if_pos ⟨rfl, rfl⟩]
      simp [LinkedList.values, LinkedList.elems_insertAfter _ hset, hf', Nat.min_eq_left hend.le]
    · rw [if_neg hend, adjustEndGap, if_pos (by omega), if_neg (by simp)]
      simp [LinkedList.values, hset]

/-- **The first of several gaps**: what is left of it. -/
theorem Opens.elems_first {pre post : List GapElement} {gap : GapElement}
    (ho : Opens start stop gap.2 f has) (hsplit : gaps.elems = pre ++ gap :: post)
    (hstop : gap.2.stop ≤ stop) :
    ∃ left : List GapElement, (adjustStartGap gaps gap f has).1.elems = pre ++ (left ++ post) ∧
      left.map Prod.snd = remains start stop gap.2 := by
  have hf := ho.stop_eq
  rw [ho.remains_same, adjustStartGap, if_neg (not_lt.mpr hstop), List.append_nil]
  by_cases hstart : f.start ≤ gap.2.start
  · rw [if_pos hstart, if_pos hstart, if_pos (by omega)]
    exact ⟨[], LinkedList.elems_remove hsplit, rfl⟩
  · obtain ⟨hfs, rfl⟩ := ho.inside (by omega)
    rw [if_neg hstart, if_neg hstart, if_pos rfl, hfs]
    exact ⟨[(gap.1, ⟨gap.2.start, start⟩)], LinkedList.elems_setValue _ hsplit, rfl⟩

/-- **The last of several gaps**: what is left of it. -/
theorem values_last {pre post : List GapElement} {startGap endGap : GapElement} {f' : Frame}
    (hsplit : gaps.elems = pre ++ endGap :: post) (hne : startGap.1 ≠ endGap.1)
    (hf' : f'.stop = min stop endGap.2.stop) (hstart : start ≤ endGap.2.start)
    (hle : endGap.2.start ≤ stop) (adjusted : Bool) :
    (adjustEndGap gaps startGap endGap f' adjusted).values =
      pre.map Prod.snd ++ (remains start stop endGap.2 ++ post.map Prod.snd) := by
  have hleft : proper endGap.2.start (min endGap.2.stop start) = [] := proper_of_le (by omega)
  rw [remains, hleft, List.nil_append, Nat.max_eq_right hle, adjustEndGap]
  by_cases hend : stop < endGap.2.stop
  · rw [if_neg (by omega), if_neg (by simp [hne]), if_pos hne, proper_of_lt hend]
    simp [LinkedList.values, LinkedList.elems_setValue _ hsplit, hf', Nat.min_eq_left hend.le]
  · rw [if_pos (by omega), if_pos hne, proper_of_le (not_lt.mp hend)]
    simp [LinkedList.values, LinkedList.elems_remove hsplit]

/-- **A frame from one gap to a later one.** -/
theorem Kept.placed_across (hk : Kept S C s start stop f) (h : Inv S C s)
    {pre mid post left : List GapElement} {startGap endGap : GapElement} {lo : Nat}
    (hsplit : s.gaps.elems = pre ++ startGap :: (mid ++ endGap :: post))
    (hmax : stop < MaxByteCount) (hpre : ∀ e ∈ pre, e.2.stop ≤ start)
    (hpost : ∀ e ∈ post, stop < e.2.start) (hstart : start ≤ startGap.2.stop)
    (hle : endGap.2.start ≤ stop) (hgaps : gaps.elems = pre ++ (left ++ (mid ++ endGap :: post)))
    (hleft : left.map Prod.snd = remains start stop startGap.2)
    (hlo : (mid ++ endGap :: post).head?.map (fun e => e.2.start) = some lo) (halo : f.start ≤ lo)
    (hclear : Cleared s.queue.lookup c.at f.start lo) :
    ∃ gaps' c', deleteGaps endGap.2.start (mid ++ endGap :: post) gaps c = .ok (gaps', c') ∧
      ∀ adjusted, Placed S C s start stop
        (adjustEndGap gaps' startGap endGap
          (f.cutEnd endGap.2 (decide (stop < endGap.2.stop))) adjusted) c'
        (f.cutEnd endGap.2 (decide (stop < endGap.2.stop))) := by
  have hsplit' : s.gaps.elems = (pre ++ startGap :: mid) ++ endGap :: post := by simp [hsplit]
  have hmidLt : ∀ e ∈ mid, startGap.2.stop < e.2.start ∧ e.2.stop < endGap.2.start := by
    intro e he
    exact ⟨h.lt_start hsplit e (by simp [he]), h.stop_lt hsplit' e (by simp [he])⟩
  have hbetween : startGap.2.stop < endGap.2.start := h.lt_start hsplit endGap (by simp)
  have hmem : endGap ∈ s.gaps.elems := by simp [hsplit]
  have hne := h.elems_nonempty hmem
  have hloLe : lo ≤ endGap.2.start := by
    obtain ⟨e', rest, hrest, -, -, hle'⟩ := h.next_gap hsplit
    have heq : e'.2.start = lo := by simpa [hrest] using hlo
    omega
  have haddr : startGap.1 ≠ endGap.1 := (LinkedList.ne_of_split hsplit').1 startGap (by simp)
  obtain ⟨gaps', c', hok, helems, hcleared⟩ := h.deleteGaps_spec hk.boundary endGap post mid
    (pre ++ [startGap]) (pre ++ left) gaps c lo (by simp [hsplit]) (by simp [hgaps]) hlo halo hclear
  refine ⟨gaps', c', hok, fun adjusted => ?_⟩
  have hflt : f.start < endGap.2.stop := by omega
  refine hk.placed h hsplit' hmax hpost hle hflt ?_ ?_
  · rw [Nat.max_eq_right (by omega)]
    exact hcleared
  · have hcut : cut start stop (mid.map Prod.snd) = [] := by
      refine cut_inside (List.forall_mem_map.mpr fun e he => ?_)
      have hlt := hmidLt e he
      omega
    have hvalues : cut start stop s.gaps.values = pre.map Prod.snd ++
        (cut start stop ((startGap :: (mid ++ [endGap])).map Prod.snd) ++ post.map Prod.snd) :=
      h.cut_values (by simp [hsplit]) (lt_of_le_of_lt hk.start_le hk.lt) hpre
        fun e he => (hpost e he).le
    have hstartLe : start ≤ endGap.2.start := by omega
    rw [hvalues, values_last helems haddr (hk.stop_cutEnd hflt) hstartLe hle]
    simp [hcut, hleft]

/-! ## where the frame starts -/

/-- The frame as it comes. -/
abbrev newFrame (S : Nat → UInt8) (start stop : Nat) : Frame where
  data := slice S start (stop - start)
  start := start
  stop := stop

/-- The replaced frames reach up to the next gap. -/
theorem replaced_to_gap (h : Inv S C s) {r : Replacing κ} {lo : Nat}
    (hw : Walked ⟨s.queue, s.called⟩ r.clearing (unread C s) start r.pos)
    (hto : ReplacedTo ⟨s.queue, s.called⟩ stop r)
    (hentry : ∃ entry, s.queue.lookup start = some entry) (hlo : lo ∉ C) (hlt : lo ≤ stop)
    (hle : start ≤ lo) (hcovered : ∀ x, start ≤ x → x < lo → x ∈ unread C s) :
    r.cut = false ∧ r.pos = lo := by
  have hpos : r.pos ≤ lo := by
    by_contra hgt
    exact hlo (hw.covered lo hle (not_le.mp hgt)).1
  obtain ⟨entry, hentry⟩ := hentry
  have hbd := hw.boundary (h.tiles.boundary_of_start hentry)
  obtain ⟨hcut, hnone⟩ | ⟨-, entry', hentry', hstop⟩ := hto
  · refine ⟨hcut, le_antisymm hpos (not_lt.mp fun hlt' => ?_)⟩
    obtain ⟨b, hb⟩ := h.tiles.starts (hcovered r.pos hw.le hlt') hbd
    exact absurd (hnone.symm.trans hb) (by simp)
  · -- a frame that sticks out would cover the start of the gap
    exact absurd (h.tiles.mem hentry' hpos (by omega)).1 hlo

/-- The gap that a frame opens: nothing was replaced, or what was replaced reaches up to it. -/
structure OpensAt (S : Nat → UInt8) (C : Set Nat) (s : FrameSorter κ) (start stop : Nat)
    (gap : GapElement) (r : Replacing κ) (startsInGap : Bool) (f : Frame) : Prop where
  frame : ((newFrame S start stop).cutAt r.cut r.pos).cutStart gap.2 startsInGap
    r.hasReplacedAtLeastOne = f
  kept : Kept S C s start stop f
  opens : Opens start stop gap.2 f r.hasReplacedAtLeastOne
  cleared : Cleared s.queue.lookup r.clearing.at f.start (max f.start gap.2.start)

section Start

variable {pre post : List GapElement} {gap : GapElement}

section

variable (h : Inv S C s) (hsplit : s.gaps.elems = pre ++ gap :: post)
include h hsplit

/-- A frame that starts in a gap, where nothing is queued. -/
theorem Inv.opensAt_inside (hmax : stop < MaxByteCount) (hlt : start < stop) (hnew : gap.2.start < stop)
    (hnone : s.queue.lookup start = none) (hle : gap.2.start ≤ start) (hstop : start ≤ gap.2.stop) :
    OpensAt S C s start stop gap ⟨⟨s.queue, s.called⟩, start, false, false⟩ true
      (newFrame S start stop) := by
  have hmem : gap ∈ s.gaps.elems := by simp [hsplit]
  have hbd := h.boundary_of_elem hmem hle hstop
  have hread : s.readPos ≤ start := by
    have hnot := h.notMem_of_elem hmem le_rfl (h.elems_nonempty hmem)
    have hread := h.readPos_le hnot
    omega
  -- the end of the gap is queued
  have hstart : start < gap.2.stop := by
    refine lt_of_le_of_ne hstop fun heq => ?_
    have hin : start ∈ C :=
      h.mem_behind hsplit (by omega) heq.ge fun e he => heq ▸ h.lt_start hsplit e he
    obtain ⟨b, hb⟩ := h.tiles.starts (x := start) ⟨hin, hread⟩ hbd
    exact absurd (hnone.symm.trans hb) (by simp)
  constructor
  · simp [Frame.cutAt, Frame.cutStart]
  · exact ⟨rfl, le_rfl, hlt, rfl, fun x hle hlt => absurd hlt (not_lt.mpr hle), hread, hbd⟩
  · exact ⟨rfl, hstart, hnew, le_rfl, fun _ => ⟨rfl, rfl⟩⟩
  · rw [Nat.max_eq_left hle]
    exact cleared_refl _ _

/-- A frame that starts before a gap, in data that was read or in the middle of a queued
frame. -/
theorem Inv.opensAt_cut (hnew : gap.2.start < stop) (hpre : ∀ e ∈ pre, e.2.stop < start) (hlt : start < gap.2.start) :
    OpensAt S C s start stop gap ⟨⟨s.queue, s.called⟩, start, false, false⟩ false
      { data := slice S gap.2.start (stop - gap.2.start), start := gap.2.start, stop := stop,
        wasCut := true } := by
  have hmem : gap ∈ s.gaps.elems := by simp [hsplit]
  have hne := h.elems_nonempty hmem
  constructor
  · have hdrop : (slice S start (stop - start)).drop (gap.2.start - start) =
        slice S gap.2.start (stop - gap.2.start) := by
      rw [drop_slice]
      congr 1 <;> omega
    simp [Frame.cutAt, Frame.cutStart, hdrop]
  · refine ⟨rfl, hlt.le, hnew, rfl, ?_, h.readPos_le (h.notMem_of_elem hmem le_rfl hne),
      h.boundary_of_elem hmem le_rfl hne.le⟩
    intro x hle hlt'
    exact h.mem_before hsplit (fun e he => (hpre e he).le.trans hle) hlt'
  · exact ⟨rfl, hne, hnew, hlt.le, fun hgt => absurd hgt (lt_irrefl _)⟩
  · rw [Nat.max_self]
    exact cleared_refl _ _

theorem Inv.opensAt_replaced (hnew : gap.2.start < stop) (hpre : ∀ e ∈ pre, e.2.stop < start) (hlt : start < gap.2.start)
    {r : Replacing κ}
    (hhas : r.hasReplacedAtLeastOne = true)
    (hw : Walked ⟨s.queue, s.called⟩ r.clearing (unread C s) start r.pos)
    (hto : ReplacedTo ⟨s.queue, s.called⟩ stop r)
    (hentry : ∃ entry, s.queue.lookup start = some entry) :
    OpensAt S C s start stop gap r false (newFrame S start stop) := by
  have hmem : gap ∈ s.gaps.elems := by simp [hsplit]
  have hne := h.elems_nonempty hmem
  have hnot := h.notMem_of_elem hmem le_rfl hne
  have hread : s.readPos ≤ start := by
    obtain ⟨entry, hentry⟩ := hentry
    exact (h.tiles.start_mem hentry).2
  have hcovered : ∀ x, start ≤ x → x < gap.2.start → x ∈ unread C s := by
    intro x hle hlt'
    exact ⟨h.mem_before hsplit (fun e he => (hpre e he).le.trans hle) hlt', by omega⟩
  obtain ⟨hcut, hpos⟩ := replaced_to_gap h hw hto hentry hnot hnew.le hlt.le hcovered
  have hbd : Boundary entryLen s.queue.lookup start := by
    obtain ⟨entry, hentry⟩ := hentry
    exact h.tiles.boundary_of_start hentry
  constructor
  · simp [Frame.cutAt, Frame.cutStart, hcut, hhas]
  · exact ⟨rfl, le_rfl, hlt.trans hnew, rfl, fun x hle hlt => absurd hlt (not_lt.mpr hle), hread,
      hbd⟩
  · exact ⟨rfl, hlt.trans hne, hnew, le_rfl, fun hgt => absurd hgt hlt.not_gt⟩
  · rw [Nat.max_eq_right hlt.le, ← hpos]
    exact hw.cleared

end

end Start

/-! ## placing -/

/-- `place` comes to storing a frame that fits. -/
def PlaceSpec (S : Nat → UInt8) (C : Set Nat) (s : FrameSorter κ) (start stop : Nat)
    (doneCb : Option κ) (result : Except SorterPanic (FrameSorter κ × Option SorterError)) : Prop :=
  ∃ gaps c f, result = .ok (s.store gaps c f doneCb) ∧ Placed S C s start stop gaps c f

variable {pre post : List GapElement} {startGap endGap : GapElement} {r : Replacing κ}
  {startsInGap endsInGap : Bool}

theorem OpensAt.place_same (ho : OpensAt S C s start stop startGap r startsInGap f)
    (h : Inv S C s) (hsplit : s.gaps.elems = pre ++ startGap :: post) (hmax : stop < MaxByteCount)
    (hpre : ∀ e ∈ pre, e.2.stop < start) (hpost : ∀ e ∈ post, stop < e.2.start)
    (doneCb : Option κ) :
    PlaceSpec S C s start stop doneCb (s.place startGap startsInGap startGap
      (decide (stop < startGap.2.stop)) r (newFrame S start stop) doneCb) := by
  have hcut : cut start stop s.gaps.values =
      pre.map Prod.snd ++ (cut start stop ([startGap].map Prod.snd) ++ post.map Prod.snd) :=
    h.cut_values (by simp [hsplit]) (lt_of_le_of_lt ho.kept.start_le ho.kept.lt)
      (fun e he => (hpre e he).le) fun e he => (hpost e he).le
  have hvalues := ho.opens.values_same hsplit (ho.kept.stop_cutEnd ho.opens.start_lt)
  refine ⟨_, r.clearing, _, ?_, ho.kept.placed h hsplit hmax hpost ho.opens.lt_stop.le
    ho.opens.start_lt ho.cleared (hvalues.trans (by simp [hcut]))⟩
  simp only [place, ho.frame, deleteBetween, ne_eq, not_true_eq_false, if_false]
  rfl

variable {mid : List GapElement}

theorem OpensAt.place_across
    (ho : OpensAt S C s start stop startGap r startsInGap f) (h : Inv S C s)
    (hsplit : s.gaps.elems = pre ++ startGap :: (mid ++ endGap :: post))
    (hmax : stop < MaxByteCount) (hpre : ∀ e ∈ pre, e.2.stop < start)
    (hpost : ∀ e ∈ post, stop < e.2.start) (hle : endGap.2.start ≤ stop) (doneCb : Option κ) :
    PlaceSpec S C s start stop doneCb (s.place startGap startsInGap endGap
      (decide (stop < endGap.2.stop)) r (newFrame S start stop) doneCb) := by
  have hsplit' : s.gaps.elems = (pre ++ startGap :: mid) ++ endGap :: post := by simp [hsplit]
  have hmem : startGap ∈ s.gaps.elems := by simp [hsplit]
  have hne := h.elems_nonempty hmem
  have hfstart := ho.opens.start_lt
  have hfle := ho.kept.start_le
  obtain ⟨e', rest, hrest, hnextSplit, hnext, hnextLe⟩ := h.next_gap hsplit
  have hclear := h.cleared_to_next hnextSplit ho.kept.boundary ho.cleared (le_max_left _ _)
    (le_max_right _ _) (by omega)
  obtain ⟨left, hleftElems, hleft⟩ := ho.opens.elems_first hsplit (by omega)
  obtain ⟨gaps, c, hok, hplaced⟩ := ho.kept.placed_across h hsplit hmax
    (fun e he => (hpre e he).le) hpost (by omega) hle hleftElems hleft
    (by simp [hrest]) (by omega) hclear
  have haddr : startGap.1 ≠ endGap.1 := (LinkedList.ne_of_split hsplit').1 startGap (by simp)
  refine ⟨_, c, _, ?_, hplaced (adjustStartGap s.gaps startGap f r.hasReplacedAtLeastOne).2⟩
  simp only [place, ho.frame, deleteBetween, if_pos haddr, LinkedList.after_eq hsplit, hok]
  rfl

/-- The frame starts with queued frames right behind a gap. -/
structure Behind (C : Set Nat) (s : FrameSorter κ) (start stop : Nat) (gap : GapElement)
    (r : Replacing κ) : Prop where
  start_eq : start = gap.2.stop
  has : r.hasReplacedAtLeastOne = true
  lt : start < r.pos
  le : r.pos ≤ stop
  walked : Walked ⟨s.queue, s.called⟩ r.clearing (unread C s) start r.pos
  replacedTo : ReplacedTo ⟨s.queue, s.called⟩ stop r
  entry : ∃ entry, s.queue.lookup start = some entry

abbrev cutFrame (S : Nat → UInt8) (start pos : Nat) : Frame :=
  { newFrame S start pos with wasCut := true }

/-- The gap behind which a frame starts stays as it is. -/
theorem adjustStartGap_behind (hstart : startGap.2.stop = f.start)
    (hne : startGap.2.start < startGap.2.stop) (gaps : LinkedList ByteInterval) :
    adjustStartGap gaps startGap f true = (gaps, false) := by
  rw [adjustStartGap, if_neg (by omega), if_neg (by simp)]

/-- A frame that starts with a queued frame right behind a gap, and ends before the next
gap: it is cut where the first longer frame starts. -/
theorem Inv.place_behind_same (h : Inv S C s) (hsplit : s.gaps.elems = pre ++ startGap :: post)
    (hmax : stop < MaxByteCount) (hpre : ∀ e ∈ pre, e.2.stop < start)
    (hpost : ∀ e ∈ post, stop < e.2.start) (hb : Behind C s start stop startGap r)
    (doneCb : Option κ) :
    PlaceSpec S C s start stop doneCb (s.place startGap true startGap
      (decide (stop < startGap.2.stop)) r (newFrame S start stop) doneCb) := by
  obtain ⟨hstart, hhas, hlt, hpos, hw, hto, hentry⟩ := hb
  have hmem : startGap ∈ s.gaps.elems := by simp [hsplit]
  have hne := h.elems_nonempty hmem
  obtain ⟨entry, hentry⟩ := hentry
  have hread : s.readPos ≤ start := (h.tiles.start_mem hentry).2
  have hcovered : ∀ x, start ≤ x → x ≤ stop → x ∈ C := by
    intro x hle hlt'
    exact h.mem_behind hsplit (by omega) (by omega) fun e he => hlt'.trans_lt (hpost e he)
  -- the data goes on at `r.pos`, so a frame that sticks out starts there
  obtain ⟨hcut, entry', hentry'⟩ : r.cut = true ∧ ∃ entry, s.queue.lookup r.pos = some entry := by
    obtain ⟨-, hnone⟩ | ⟨hcut, entry', hentry', -⟩ := hto
    · have hbd := hw.boundary (h.tiles.boundary_of_start hentry)
      have hin : r.pos ∈ unread C s := ⟨hcovered r.pos hlt.le hpos, by omega⟩
      obtain ⟨b, hb⟩ := h.tiles.starts hin hbd
      exact absurd (hnone.symm.trans hb) (by simp)
    · exact ⟨hcut, entry', hentry'⟩
  have hframe : ((newFrame S start stop).cutAt r.cut r.pos).cutStart startGap.2 true true =
      cutFrame S start r.pos := by
    simp [Frame.cutAt, Frame.cutStart, hcut, take_slice S (show r.pos - start ≤ stop - start by omega)]
  have hvalues : s.gaps.values = cut start stop s.gaps.values := by
    have hsplit' : s.gaps.elems = (pre ++ [startGap]) ++ ([] ++ post) := by simp [hsplit]
    have hfront : ∀ e ∈ pre ++ [startGap], e.2.stop ≤ start := by
      intro e he
      simp only [List.mem_append, List.mem_singleton] at he
      obtain he | rfl := he
      · exact (hpre e he).le
      · exact hstart.ge
    rw [h.cut_values hsplit' (hlt.trans_le hpos) hfront fun e he => (hpost e he).le]
    simp [LinkedList.values, hsplit]
  refine ⟨s.gaps, r.clearing, cutFrame S start r.pos, ?_, ?_⟩
  · have hend : (cutFrame S start r.pos).cutEnd startGap.2 (decide (stop < startGap.2.stop)) =
        cutFrame S start r.pos := if_neg fun hcond => hcond.2.1 hstart
    have hgaps : adjustEndGap s.gaps startGap startGap (cutFrame S start r.pos) false = s.gaps := by
      rw [adjustEndGap, if_neg (by simp only; omega), if_neg (by simp), if_neg (by simp)]
    have hfirst : adjustStartGap s.gaps startGap (cutFrame S start r.pos) true = (s.gaps, false) :=
      adjustStartGap_behind hstart.symm hne s.gaps
    simp only [place, hhas, hframe, hfirst, deleteBetween, ne_eq, not_true_eq_false, if_false]
    change Except.ok _ = _
    rw [hend, hgaps]
  · constructor
    · exact hlt
    · rfl
    · exact le_rfl
    · exact hpos
    · intro x hle hlt'
      exact .inl (hcovered x hle hlt'.le)
    · exact hread
    · exact hw.cleared
    · exact h.tiles.boundary_of_start hentry
    · exact h.tiles.boundary_of_start hentry'
    · exact hvalues

/-- A frame that starts with a queued frame right behind a gap, and ends in or behind a
later gap. -/
theorem Inv.place_behind_across (h : Inv S C s)
    (hsplit : s.gaps.elems = pre ++ startGap :: (mid ++ endGap :: post))
    (hmax : stop < MaxByteCount) (hpre : ∀ e ∈ pre, e.2.stop < start)
    (hpost : ∀ e ∈ post, stop < e.2.start) (hle : endGap.2.start ≤ stop)
    (hb : Behind C s start stop startGap r) (doneCb : Option κ) :
    PlaceSpec S C s start stop doneCb (s.place startGap true endGap
      (decide (stop < endGap.2.stop)) r (newFrame S start stop) doneCb) := by
  obtain ⟨hstart, hhas, hlt, -, hw, hto, hentry⟩ := hb
  have hsplit' : s.gaps.elems = (pre ++ startGap :: mid) ++ endGap :: post := by simp [hsplit]
  have hmem : startGap ∈ s.gaps.elems := by simp [hsplit]
  have hne := h.elems_nonempty hmem
  obtain ⟨e', rest, hrest, hnextSplit, hnext, hnextLe⟩ := h.next_gap hsplit
  have hmem' : e' ∈ s.gaps.elems := by simp [hnextSplit]
  have hne' := h.elems_nonempty hmem'
  obtain ⟨hcut, hpos⟩ := replaced_to_gap h hw hto hentry (h.notMem_of_elem hmem' le_rfl hne')
    (hnextLe.trans hle) (by omega) fun x hxle hxlt => h.mem_unread_between hnextSplit (by omega) hxlt
  obtain ⟨entry, hentry⟩ := hentry
  have hkept : Kept S C s start stop (newFrame S start stop) :=
    ⟨rfl, le_rfl, hlt.trans_le (hpos.le.trans (hnextLe.trans hle)), rfl,
      fun x hle hlt => absurd hlt (not_lt.mpr hle), (h.tiles.start_mem hentry).2, h.tiles.boundary_of_start hentry⟩
  -- the frames behind the gap are gone already
  have hnone : deleteConsecutive r.clearing startGap.2.stop = r.clearing := by
    refine deleteConsecutive_of_none ?_
    rw [hw.cleared startGap.2.stop, if_pos (by omega)]
  have hleft : [startGap].map Prod.snd = remains start stop startGap.2 := by
    rw [remains, Nat.min_eq_left hstart.ge, proper_of_lt hne, proper_of_le (by omega)]
    rfl
  have hkeptGaps : s.gaps.elems = pre ++ ([startGap] ++ (mid ++ endGap :: post)) := by simp [hsplit]
  obtain ⟨gaps, c, hok, hplaced⟩ := hkept.placed_across h hsplit hmax
    (fun e he => (hpre e he).le) hpost hstart.le hle hkeptGaps hleft
    (by simp [hrest]) (by simp only; omega) (hpos ▸ hw.cleared)
  have haddr : startGap.1 ≠ endGap.1 := (LinkedList.ne_of_split hsplit').1 startGap (by simp)
  have hframe : ((newFrame S start stop).cutAt r.cut r.pos).cutStart startGap.2 true true =
      newFrame S start stop := by
    simp [Frame.cutAt, Frame.cutStart, hcut]
  have hfirst : adjustStartGap s.gaps startGap (newFrame S start stop) true = (s.gaps, false) :=
    adjustStartGap_behind hstart.symm hne s.gaps
  refine ⟨_, c, _, ?_, hplaced false⟩
  simp only [place, hhas, hframe, hfirst, deleteBetween, if_pos haddr, LinkedList.after_eq hsplit,
    hnone, hok]
  rfl

/-- **Where a frame starts**: it opens a gap, or lies right behind one. -/
theorem Inv.start_cases (h : Inv S C s) (hsplit : s.gaps.elems = pre ++ startGap :: post)
    (hmax : stop < MaxByteCount) (hlt : start < stop) (hnew : startGap.2.start < stop)
    (hpre : ∀ e ∈ pre, e.2.stop < start)
    (hstart : startsInGap = true ∧ startGap.2.start ≤ start ∧ start ≤ startGap.2.stop ∨
      startsInGap = false ∧ start < startGap.2.start)
    (hr : ReplaceOutcome ⟨s.queue, s.called⟩ (unread C s) start stop (some r)) :
    (∃ f, OpensAt S C s start stop startGap r startsInGap f) ∨
      startsInGap = true ∧ Behind C s start stop startGap r := by
  have hmem : startGap ∈ s.gaps.elems := by simp [hsplit]
  cases hr with
  | nothing hnone =>
    obtain ⟨rfl, hle, hstop⟩ | ⟨rfl, hbefore⟩ := hstart
    · exact .inl ⟨_, h.opensAt_inside hsplit hmax hlt hnew hnone hle hstop⟩
    · exact .inl ⟨_, h.opensAt_cut hsplit hnew hpre hbefore⟩
  | replaced hhas hentry hlt' hle' hw hto =>
    obtain ⟨rfl, hle, hstop⟩ | ⟨rfl, hbefore⟩ := hstart
    · refine .inr ⟨rfl, ?_, hhas, hlt', hle', hw, hto, hentry⟩
      obtain ⟨entry, hentry⟩ := hentry
      have hin := (h.tiles.start_mem hentry).1
      by_contra hne
      exact h.notMem_of_elem hmem hle (lt_of_le_of_ne hstop hne) hin
    · exact .inl ⟨_, h.opensAt_replaced hsplit hnew hpre hbefore hhas hw hto hentry⟩

end Place

end FrameSorter

end MoqQuic.Quic
