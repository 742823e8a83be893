import Mathlib.Data.Set.Card
import MoqQuic.Quic.FrameSorter.Bounds
import MoqQuic.Quic.FrameSorter.Push

/-!
# MoqQuic.Quic.FrameSorter.Reassembly

Stream reassembly: any pushes of ranges of a stream, in any order and as often as one
likes, with pops in between.

`Inv` is kept by every push and pop, whatever the case `push` is in, and it says all
that is needed of the popped data: it is the stream up to the read position, and the
read position stops only at the first offset that was not received.
-/

namespace MoqQuic.Quic

open Tiling HalfOpen

variable {κ : Type}

namespace FrameSorter

variable {S : Nat → UInt8} {C : Set Nat} {s : FrameSorter κ} {start stop : Nat}

/-- The offsets at which a gap starts. -/
def gapStarts (C : Set Nat) : Set Nat :=
  {x | x < MaxByteCount ∧ x ∉ C ∧ ∀ y, y + 1 = x → y ∈ C}

/-- The range of a frame. -/
abbrev range (start stop : Nat) : Set Nat := {x | start ≤ x ∧ x < stop}

/-! ## the gaps -/

theorem Missing.cut {gaps : List ByteInterval} (h : Missing C gaps) (hlt : start < stop)
    (hmax : stop < MaxByteCount) : Missing (C ∪ range start stop) (HalfOpen.cut start stop gaps) where
  separated := separated_cut hlt h.separated
  stops := by
    intro g' hg'
    obtain ⟨g, hg, hg'⟩ := List.mem_flatMap.mp hg'
    exact (stop_le_of_mem_remains hg').trans (h.stops g hg)
  mem_iff := by
    intro x
    rw [mem_union_cut, Set.mem_union, h.mem_iff x, Set.mem_ofPred_eq]
    have hin : start ≤ x ∧ x < stop → x < MaxByteCount := fun hx => hx.2.trans hmax
    tauto

/-- There are as many gaps as places where one starts. -/
theorem Missing.ncard_gapStarts {gaps : List ByteInterval} (h : Missing C gaps) :
    (gapStarts C).ncard = gaps.length := by
  have hset : gapStarts C = ↑(gaps.map fun g => g.start).toFinset := by
    ext x
    simp only [gapStarts, Set.mem_ofPred_eq, List.coe_toFinset, List.mem_map]
    constructor
    · rintro ⟨hmax, hnot, hpred⟩
      -- a gap around `x` starts at `x`, or the offset before would be in it
      have hin : x ∈ union gaps := by
        by_contra hout
        exact hnot ((h.mem_iff x).mpr ⟨hmax, hout⟩)
      obtain ⟨g, hg, hle, hlt⟩ := hin
      refine ⟨g, hg, ?_⟩
      rcases hle.eq_or_lt with heq | hlt'
      · exact heq
      · have hmem := hpred (x - 1) (by omega)
        exact absurd ⟨g, hg, by omega, by omega⟩ ((h.mem_iff _).mp hmem).2
    · rintro ⟨g, hg, rfl⟩
      have hne := h.separated.nonempty g hg
      have hle := h.stops g hg
      refine ⟨by omega, fun hmem => ((h.mem_iff _).mp hmem).2 ⟨g, hg, le_rfl, hne⟩, ?_⟩
      intro y hy
      refine (h.mem_iff y).mpr ⟨by omega, ?_⟩
      -- no gap stops where another starts
      rintro ⟨g', hg', hle', hlt'⟩
      obtain rfl | hbefore | hbehind := h.separated.cases hg' hg
      · omega
      · omega
      · omega
  rw [hset, Set.ncard_coe_finset, List.toFinset_card_of_nodup h.separated.nodup_starts,
    List.length_map]

/-! ## one push -/

variable {gaps : LinkedList ByteInterval} {f : Frame}

/-- The queue with the frame tiles what is not read. -/
theorem Placed.tiles {c : Clearing κ}
    (hp : Placed S C s start stop gaps c f) (h : Inv S C s) (doneCb : Option κ) :
    Tiles entryLen (c.queue.insert f.start ⟨f.data, doneCb⟩).lookup
      {x | x ∈ C ∪ range start stop ∧ s.readPos ≤ x} := by
  have hlt := hp.lt
  have hlen : f.start + entryLen (⟨f.data, doneCb⟩ : FrameSorterEntry κ) = f.stop := by
    simp only [entryLen, hp.data, length_slice]
    omega
  have hstore := h.tiles.store (b := ⟨f.data, doneCb⟩) (by omega) (hlen ▸ hp.cleared)
    hp.startBoundary (hlen ▸ hp.stopBoundary)
  have hlookup : (c.queue.insert f.start ⟨f.data, doneCb⟩).lookup =
      Function.update c.at f.start (some ⟨f.data, doneCb⟩) := by
    funext p
    by_cases hpf : p = f.start
    · rw [hpf, AList.lookup_insert, Function.update_self]
    · rw [AList.lookup_insert_ne hpf, Function.update_of_ne hpf]
  have hset : {x | x ∈ C ∪ range start stop ∧ s.readPos ≤ x} = {x | x ∈ C ∧ s.readPos ≤ x} ∪
      {x | f.start ≤ x ∧ x < f.start + entryLen (⟨f.data, doneCb⟩ : FrameSorterEntry κ)} := by
    ext x
    have hunread := hp.unread
    have hstart := hp.start_le
    have hstop := hp.le_stop
    have hrest := hp.rest x
    simp only [hlen, Set.mem_union, Set.mem_ofPred_eq]
    constructor
    · rintro ⟨hin | hin, hread⟩
      · exact .inl ⟨hin, hread⟩
      · cases hrest hin.1 hin.2 with
        | inl hmem => exact .inl ⟨hmem, hread⟩
        | inr hmem => exact .inr hmem
    · rintro (⟨hin, hread⟩ | ⟨hle, hlt'⟩)
      · exact ⟨.inl hin, hread⟩
      · exact ⟨.inr ⟨by omega, by omega⟩, by omega⟩
  rw [hlookup, hset]
  exact hstore

/-- A push without a panic: it adds the range, or there are too many gaps then. -/
def PushesTo (S : Nat → UInt8) (C : Set Nat) (s : FrameSorter κ) (start stop : Nat)
    (r : FrameSorter κ × Option SorterError) : Prop :=
  r.1.readPos = s.readPos ∧
    (r.2 ≠ some .tooManyGaps ∧ Inv S (C ∪ range start stop) r.1 ∨
      r.2 = some .tooManyGaps ∧ MaxStreamFrameSorterGaps < (gapStarts (C ∪ range start stop)).ncard)

/-- **Storing** a frame that fits adds its range, if there are not too many gaps. -/
theorem Inv.store (h : Inv S C s) {c : Clearing κ}
    (hp : Placed S C s start stop gaps c f) (hmax : stop < MaxByteCount) (doneCb : Option κ) :
    PushesTo S C s start stop (s.store gaps c f doneCb) := by
  have hlt : start < stop := (hp.start_le.trans_lt hp.lt).trans_le hp.le_stop
  have hmissing : Missing (C ∪ range start stop) gaps.values := by
    rw [hp.gaps]
    exact h.toMissing.cut hlt hmax
  have hcard : (gapStarts (C ∪ range start stop)).ncard = gaps.len := by
    rw [hmissing.ncard_gapStarts, LinkedList.values, List.length_map, LinkedList.len]
  have hdata : f.data.length = f.stop - f.start := by rw [hp.data, length_slice]
  rw [FrameSorter.store]
  by_cases hlen : gaps.len > MaxStreamFrameSorterGaps
  · simp only [if_pos hlen]
    exact ⟨rfl, .inr ⟨rfl, hcard ▸ hlen⟩⟩
  simp only [if_neg hlen]
  refine ⟨rfl, .inl ⟨by simp, ?_⟩⟩
  constructor
  · exact hmissing
  · intro x hx
    cases hx with
    | inl hold => exact h.bound x hold
    | inr hnew =>
      have hlt' := hnew.2
      omega
  · intro x hx
    exact .inl (h.read x hx)
  · exact hp.tiles h _
  · intro p e he
    simp only at he
    by_cases hpf : p = f.start
    · rw [hpf, AList.lookup_insert, Option.some.injEq] at he
      rw [hpf, ← he]
      simp only
      rw [hdata]
      exact hp.data
    · rw [AList.lookup_insert_ne hpf] at he
      exact h.content p e (hp.cleared.of_some he).1

/-- A push without a panic or an error that adds the range. -/
def PushSpec (S : Nat → UInt8) (C : Set Nat) (s : FrameSorter κ) (start stop : Nat)
    (result : Except SorterPanic (FrameSorter κ × Option SorterError)) : Prop :=
  ∃ s' err, result = .ok (s', err) ∧ Inv S (C ∪ range start stop) s' ∧ s'.readPos = s.readPos ∧
    err ≠ some .tooManyGaps

theorem PushesTo.pushSpec {r : FrameSorter κ × Option SorterError} (h : PushesTo S C s start stop r)
    (hgaps : (gapStarts (C ∪ range start stop)).ncard ≤ MaxStreamFrameSorterGaps) :
    PushSpec S C s start stop (.ok r) := by
  obtain ⟨hread, ⟨herr, hinv⟩ | ⟨-, hmany⟩⟩ := h
  · exact ⟨r.1, r.2, rfl, hinv, hread, herr⟩
  · omega

/-- Duplicate data changes nothing. -/
theorem Inv.push_duplicate (h : Inv S C s) (hcovered : ∀ x, start ≤ x → x < stop → x ∈ C) :
    PushesTo S C s start stop (s, some .duplicateStreamData) := by
  have hset : C ∪ range start stop = C :=
    Set.union_eq_self_of_subset_right fun x hx => hcovered x hx.1 hx.2
  exact ⟨rfl, .inl ⟨by simp, hset.symm ▸ h⟩⟩

theorem Inv.push_placed (h : Inv S C s) (hmax : stop < MaxByteCount) (doneCb : Option κ)
    {result : Except SorterPanic (FrameSorter κ × Option SorterError)}
    (hp : PlaceSpec S C s start stop doneCb result) :
    ∃ r, result = .ok r ∧ PushesTo S C s start stop r := by
  obtain ⟨gaps, c, f, rfl, hplaced⟩ := hp
  exact ⟨_, rfl, h.store hplaced hmax doneCb⟩

/-- **`push`** of new data, in each of its cases. -/
theorem Inv.pushNew (h : Inv S C s) (hlt : start < stop) (hmax : stop < MaxByteCount)
    (hfront : ∀ e, s.gaps.front = some e → e.2.start < stop) (doneCb : Option κ) :
    ∃ r, s.pushNew (newFrame S start stop) doneCb = .ok r ∧ PushesTo S C s start stop r := by
  have hex : ∃ e ∈ s.gaps.elems, start ≤ e.2.stop := by
    obtain ⟨g, hg, hlast⟩ := h.exists_last
    obtain ⟨e, he, rfl⟩ := List.mem_map.mp hg
    exact ⟨e, he, by omega⟩
  obtain ⟨pre, startGap, post, startsInGap, hfind, hsplit, hpre, hstart⟩ :=
    findStartGapFrom_spec start s.gaps.elems hex
  obtain ⟨endGap, endsInGap, hfindEnd, hends⟩ := h.findEndGap_ends hsplit hmax
    fun e he => (hpre e he).le.trans hlt.le
  have hmem : startGap ∈ s.gaps.elems := by simp [hsplit]
  have hne := h.elems_nonempty hmem
  -- data before the first gap that does not stop before it is covered
  have hcovered : stop ≤ startGap.2.start → ∀ x, start ≤ x → x < stop → x ∈ C := by
    intro hle x hxle hxlt
    exact h.mem_before hsplit (fun e he => (hpre e he).le.trans hxle) (hxlt.trans_le hle)
  simp only [FrameSorter.pushNew, findStartGap, hfind, hfindEnd, bind, Except.bind]
  have houtcome := replace_outcome (c := ⟨s.queue, s.called⟩) h.tiles start stop
  cases hends with
  | before hbefore =>
    rcases List.eq_nil_or_concat pre with rfl | ⟨front, last, rfl⟩
    · have hlt' := hfront startGap (by simp [LinkedList.front, hsplit])
      omega
    · have hlast := hpre last (by simp)
      have haddr := (LinkedList.ne_of_split hsplit).1 last (by simp)
      have hneLast := h.elems_nonempty (e := last) (by simp [hsplit])
      rw [List.concat_eq_append, List.getLast?_concat]
      simp only [deref]
      rw [if_pos (.inr ⟨haddr.symm, by omega, by omega⟩)]
      exact ⟨_, rfl, h.push_duplicate (hcovered hbefore.le)⟩
  | same hle hpost =>
    simp only [deref]
    by_cases hdup : stop ≤ startGap.2.start
    · rw [if_pos (by simp [hdup])]
      exact ⟨_, rfl, h.push_duplicate (hcovered hdup)⟩
    · rw [if_neg (by simp [hdup])]
      cases hr : replace ⟨s.queue, s.called⟩ start stop with
      | none =>
        rw [hr] at houtcome
        cases houtcome with
        | duplicate hin =>
          exact ⟨_, rfl, h.push_duplicate fun x hxle hxlt => (hin x hxle hxlt).1⟩
      | some r =>
        rw [hr] at houtcome
        refine h.push_placed hmax doneCb ?_
        obtain ⟨f, ho⟩ | ⟨rfl, hb⟩ := h.start_cases hsplit hmax hlt (by omega) hpre hstart houtcome
        · exact ho.place_same h hsplit hmax hpre hpost doneCb
        · exact h.place_behind_same hsplit hmax hpre hpost hb doneCb
  | @later mid endGap post' hpost hle hpost' =>
    subst hpost
    have hnext := h.lt_start hsplit endGap (by simp)
    simp only [deref]
    rw [if_neg (by omega)]
    cases hr : replace ⟨s.queue, s.called⟩ start stop with
    | none =>
      rw [hr] at houtcome
      cases houtcome with
      | duplicate hin =>
            exact ⟨_, rfl, h.push_duplicate fun x hxle hxlt => (hin x hxle hxlt).1⟩
    | some r =>
      rw [hr] at houtcome
      refine h.push_placed hmax doneCb ?_
      obtain ⟨f, ho⟩ | ⟨rfl, hb⟩ := h.start_cases hsplit hmax hlt (by omega) hpre hstart houtcome
      · exact ho.place_across h hsplit hmax hpre hpost' hle doneCb
      · exact h.place_behind_across hsplit hmax hpre hpost' hle hb doneCb

/-- There is a first gap. -/
theorem Inv.exists_front (h : Inv S C s) : ∃ e ∈ s.gaps.elems, s.gaps.front = some e := by
  obtain ⟨g, hg, -⟩ := h.exists_last
  obtain ⟨e, he, -⟩ := List.mem_map.mp hg
  have hne := List.ne_nil_of_mem he
  exact ⟨_, List.head_mem hne, List.head?_eq_some_head hne⟩

variable {offset length : Nat}

/-- **`push`** of a range of the stream. -/
theorem Inv.push (h : Inv S C s) (hmax : offset + length < MaxByteCount)
    (doneCb : Option κ) : ∃ r, s.push (slice S offset length) offset doneCb = .ok r ∧
      PushesTo S C s offset (offset + length) r := by
  rw [FrameSorter.push]
  by_cases hempty : length = 0
  · rw [if_pos (by simp [hempty, slice])]
    exact ⟨_, rfl, h.push_duplicate (by omega)⟩
  · rw [if_neg (by simp [← List.length_eq_zero_iff, hempty]), length_slice]
    obtain ⟨e, -, hfront⟩ := h.exists_front
    simp only [hfront, deref, bind, Except.bind]
    by_cases hold : offset + length ≤ e.2.start
    · rw [if_pos hold]
      -- nothing is missing before the first gap
      obtain ⟨rest, hsplit⟩ : ∃ rest, s.gaps.elems = [] ++ e :: rest :=
        List.head?_eq_some_iff.mp hfront
      exact ⟨_, rfl, h.push_duplicate fun x hxle hxlt =>
        h.mem_before hsplit (by simp) (hxlt.trans_le hold)⟩
    · rw [if_neg hold]
      have hframe : newFrame S offset (offset + length) =
          ⟨slice S offset length, offset, offset + length, false⟩ := by
        simp [newFrame]
      rw [← hframe]
      refine h.pushNew (by omega) hmax (fun e' he' => ?_) doneCb
      rw [hfront] at he'
      rw [← Option.some.inj he']
      omega

/-- The callbacks are not part of what the sorter stands for. -/
theorem Inv.setCalled (h : Inv S C s) (called : List κ) : Inv S C { s with called := called } :=
  { h with }

/-- **`Push`** adds the range of the frame. -/
theorem Inv.pushFrame (h : Inv S C s) (hmax : offset + length < MaxByteCount)
    (hgaps : (gapStarts (C ∪ range offset (offset + length))).ncard ≤ MaxStreamFrameSorterGaps)
    (doneCb : Option κ) :
    ∃ s', s.pushFrame (slice S offset length) offset doneCb = .ok (s', none) ∧
      Inv S (C ∪ range offset (offset + length)) s' ∧ s'.readPos = s.readPos := by
  obtain ⟨r, hr, hpushes⟩ := h.push hmax doneCb
  obtain ⟨s', err, hok, hinv, hread, herr⟩ := hpushes.pushSpec hgaps
  simp only [FrameSorter.pushFrame, hr, hok, bind, Except.bind]
  cases err with
  | none => exact ⟨s', rfl, hinv, hread⟩
  | some err =>
    cases err with
    | tooManyGaps => exact absurd rfl herr
    | duplicateStreamData => exact ⟨_, rfl, hinv.setCalled _, hread⟩

/-- No gap ends behind an offset that is too large. -/
theorem findEndGapFrom_of_le (gaps : LinkedList ByteInterval) {offset : Nat} :
    ∀ es : List GapElement, (∀ e ∈ es, e.2.start ≤ offset ∧ e.2.stop ≤ offset) →
      findEndGapFrom gaps offset es = .error .noGapFound
  | [], _ => rfl
  | e :: es, hes => by
    obtain ⟨he, hes⟩ := List.forall_mem_cons.mp hes
    rw [findEndGapFrom, if_neg (by omega), if_neg (by omega)]
    exact findEndGapFrom_of_le gaps es hes

/-- New data that reaches the largest offset is a panic. -/
theorem Inv.pushNew_overflow (h : Inv S C s) (hmax : MaxByteCount ≤ f.stop)
    (doneCb : Option κ) (r : FrameSorter κ × Option SorterError) : s.pushNew f doneCb ≠ .ok r := by
  have hbefore : ∀ e ∈ s.gaps.elems, e.2.start ≤ f.stop ∧ e.2.stop ≤ f.stop := by
    intro e he
    have hne := h.elems_nonempty he
    have hle := h.stops e.2 (List.mem_map_of_mem he)
    omega
  rw [FrameSorter.pushNew]
  cases hfind : findStartGap s.gaps f.start with
  | error e => simp [bind, Except.bind]
  | ok found =>
    have hmem := (findStartGapFrom_mem hfind).1
    have hend : findEndGap s.gaps found.1 f.stop = .error .noGapFound :=
      findEndGapFrom_of_le s.gaps _ (List.forall_mem_cons.mpr ⟨hbefore _ hmem, fun e he =>
        hbefore e (LinkedList.mem_elems_of_mem_after he)⟩)
    simp [bind, Except.bind, hend]

/-- A push that returns, of a range that may reach too far. -/
theorem Inv.of_push (h : Inv S C s) {doneCb : Option κ}
    {r : FrameSorter κ × Option SorterError}
    (hok : s.push (slice S offset length) offset doneCb = .ok r) :
    PushesTo S C s offset (offset + length) r := by
  by_cases hmax : offset + length < MaxByteCount
  · obtain ⟨r', hr', hpushes⟩ := h.push hmax doneCb
    rw [hok] at hr'
    exact Except.ok.inj hr' ▸ hpushes
  rw [FrameSorter.push] at hok
  by_cases hempty : length = 0
  · rw [if_pos (by simp [hempty, slice])] at hok
    exact Except.ok.inj hok ▸ h.push_duplicate (by omega)
  rw [if_neg (by simp [← List.length_eq_zero_iff, hempty]), length_slice] at hok
  obtain ⟨e, hmem, hfront⟩ := h.exists_front
  simp only [hfront, deref, bind, Except.bind] at hok
  have hne := h.elems_nonempty hmem
  have hle := h.stops e.2 (List.mem_map_of_mem hmem)
  rw [if_neg (by omega)] at hok
  exact absurd hok (h.pushNew_overflow (not_lt.mp hmax) doneCb r)

theorem Inv.of_pushFrame (h : Inv S C s) {doneCb : Option κ}
    {s' : FrameSorter κ}
    (hok : s.pushFrame (slice S offset length) offset doneCb = .ok (s', none)) :
    Inv S (C ∪ range offset (offset + length)) s' ∧ s'.readPos = s.readPos := by
  rw [FrameSorter.pushFrame] at hok
  obtain ⟨r, hpush, hok⟩ := Outcome.bind_eq_ok.mp hok
  obtain ⟨hread, hcases⟩ := h.of_push hpush
  dsimp only at hok
  split at hok
  · rename_i hdup
    cases hok
    obtain ⟨-, hinv⟩ | ⟨hmany, -⟩ := hcases
    · exact ⟨hinv.setCalled _, hread⟩
    · rw [hdup] at hmany
      cases hmany
  · obtain ⟨hs', herr⟩ := Prod.mk.inj (Except.ok.inj hok)
    subst hs'
    obtain ⟨-, hinv⟩ | ⟨hmany, -⟩ := hcases
    · exact ⟨hinv, hread⟩
    · rw [herr] at hmany
      cases hmany

/-! ## one pop -/

variable {entry : FrameSorterEntry κ}

/-- The front of the gaps is behind the frame at the read position. -/
theorem Inv.front_behind (h : Inv S C s) (hentry : s.queue.lookup s.readPos = some entry) :
    ∃ front, s.gaps.front = some front ∧ s.readPos + entry.data.length < front.2.stop := by
  obtain ⟨front, hmem, hfront⟩ := h.exists_front
  have hne := h.elems_nonempty hmem
  have hnot := h.notMem_of_elem hmem le_rfl hne
  have hle := h.readPos_le hnot
  refine ⟨front, hfront, ?_⟩
  by_contra hge
  exact hnot (h.tiles.mem hentry hle (by simp only [entryLen]; omega)).1

/-- **`Pop`** with data at the read position. -/
theorem Inv.pop_some (h : Inv S C s) (hentry : s.queue.lookup s.readPos = some entry) :
    ∃ s', s.pop = .ok (s', s.readPos, some entry.data, entry.doneCb) ∧ Inv S C s' ∧
      s'.readPos = s.readPos + entry.data.length ∧ s'.queue.keys.length < s.queue.keys.length := by
  obtain ⟨front, hfront, hlt⟩ := h.front_behind hentry
  rw [FrameSorter.pop, hentry]
  simp only [hfront, deref, bind, Except.bind]
  rw [if_neg (by omega)]
  refine ⟨_, rfl, ?_, rfl, ?_⟩
  · constructor
    · exact h.toMissing
    · exact h.bound
    · intro x hx
      by_cases hold : x < s.readPos
      · exact h.read x hold
      · exact (h.tiles.mem hentry (not_lt.mp hold) hx).1
    · have htake := h.tiles.takeFirst hentry (fun x hx => hx.2) (lookup_erase s.queue s.readPos)
      have hset : {x | x ∈ C ∧ s.readPos + entry.data.length ≤ x} =
          {x | x ∈ unread C s ∧ s.readPos + entryLen entry ≤ x} := by
        ext x
        simp only [Set.mem_ofPred_eq, entryLen]
        constructor
        · rintro ⟨hx, hle⟩
          exact ⟨⟨hx, by omega⟩, hle⟩
        · rintro ⟨hx, hle⟩
          exact ⟨hx.1, hle⟩
      simp only
      rw [hset]
      exact htake
    · intro p e he
      rw [lookup_erase] at he
      split at he
      · cases he
      · exact h.content p e he
  · exact Nat.lt_of_succ_le (length_keys_erase hentry).le

/-- No queued frame reaches over the read position. -/
theorem Inv.boundary_readPos (h : Inv S C s) : Boundary entryLen s.queue.lookup s.readPos := by
  intro p e he hlt
  have hle := (h.tiles.start_mem he).2
  omega

/-- **`Pop`** returns nothing only if the next offset was not received. -/
theorem Inv.pop_none (h : Inv S C s) (hnone : s.queue.lookup s.readPos = none) :
    s.pop = .ok (s, s.readPos, none, none) ∧ s.readPos ∉ C := by
  rw [FrameSorter.pop, hnone]
  refine ⟨rfl, fun hmem => ?_⟩
  obtain ⟨e, he⟩ := h.tiles.starts (x := s.readPos) ⟨hmem, le_rfl⟩ h.boundary_readPos
  exact absurd (hnone.symm.trans he) (by simp)

/-! ## peeking -/

/-- The rounds of `Peek` from a place where a frame starts or none is. -/
theorem Inv.peekRounds (h : Inv S C s) : ∀ (rounds pos n : Nat), n ≤ rounds → 0 < n →
    s.readPos ≤ pos → Boundary entryLen s.queue.lookup pos →
      (FrameSorter.peekRounds s.queue rounds pos n = some (slice S pos n) ∧
          ∀ x, pos ≤ x → x < pos + n → x ∈ C) ∨
        (FrameSorter.peekRounds s.queue rounds pos n = none ∧ ∃ x, pos ≤ x ∧ x < pos + n ∧ x ∉ C)
  | 0, pos, n, hrounds, hn, _, _ => by omega
  | rounds + 1, pos, n, hrounds, hn, hread, hbd => by
    rw [FrameSorter.peekRounds]
    cases hentry : s.queue.lookup pos with
    | none =>
      refine .inr ⟨rfl, pos, le_rfl, by omega, fun hmem => ?_⟩
      obtain ⟨e, he⟩ := h.tiles.starts (x := pos) ⟨hmem, hread⟩ hbd
      rw [hentry] at he
      cases he
    | some entry =>
      have hpos : 0 < entry.data.length := h.tiles.pos hentry
      have hcontent := h.content pos entry hentry
      have hin : ∀ x, pos ≤ x → x < pos + entry.data.length → x ∈ C :=
        fun x hle hlt => (h.tiles.mem hentry hle hlt).1
      simp only
      by_cases hle : n ≤ entry.data.length
      · rw [if_pos hle, hcontent, take_slice S hle]
        exact .inl ⟨rfl, fun x hxle hxlt => hin x hxle (by omega)⟩
      · rw [if_neg hle]
        have hrest := h.peekRounds rounds (pos + entry.data.length) (n - entry.data.length)
          (by omega) (by omega) (by omega) (h.tiles.boundary_of_stop hentry)
        obtain ⟨hsome, hmem⟩ | ⟨hnone, x, hxle, hxlt, hx⟩ := hrest
        · refine .inl ⟨?_, fun x hxle hxlt => ?_⟩
          · rw [hsome, Option.map_some]
            conv_lhs => rw [hcontent]
            rw [length_slice, slice_append, Nat.add_sub_cancel' (by omega)]
          · by_cases hx : x < pos + entry.data.length
            · exact hin x hxle hx
            · exact hmem x (by omega) (by omega)
        · exact .inr ⟨by rw [hnone, Option.map_none], x, by omega, by omega, hx⟩

/-- **`Peek`** at the read position returns the data that was received, if all of it was. -/
theorem Inv.peek (h : Inv S C s) (n : Nat) :
    (s.peek s.readPos n = some (slice S s.readPos n) ∧
        ∀ x, s.readPos ≤ x → x < s.readPos + n → x ∈ C) ∨
      (s.peek s.readPos n = none ∧ ∃ x, s.readPos ≤ x ∧ x < s.readPos + n ∧ x ∉ C) := by
  rw [FrameSorter.peek]
  split
  · rename_i hn
    subst hn
    exact .inl ⟨rfl, by omega⟩
  · exact h.peekRounds n s.readPos n le_rfl (by omega) le_rfl h.boundary_readPos

end FrameSorter

/-! ## whole runs -/

open FrameSorter

/-- The calls on a frame sorter: a push of a range of the stream, and a pop. -/
inductive SorterOp (κ : Type) where
  | push (offset length : Nat) (doneCb : Option κ)
  | pop

/-- A frame sorter with the data popped from it. -/
structure Reassembly (κ : Type) where
  sorter : FrameSorter κ := {}
  popped : Bytes := []
  /-- the errors that `Push` returned -/
  errors : List SorterError := []

namespace Reassembly

/-- One call. -/
def step (S : Nat → UInt8) (r : Reassembly κ) : SorterOp κ → Except SorterPanic (Reassembly κ)
  | .push offset length doneCb => do
    let (sorter, err) ← r.sorter.pushFrame (slice S offset length) offset doneCb
    return { r with sorter := sorter, errors := r.errors ++ err.toList }
  | .pop => do
    let (sorter, _, data, _) ← r.sorter.pop
    return { r with sorter := sorter, popped := r.popped ++ data.getD [] }

/-- A run from a new frame sorter. -/
def run (S : Nat → UInt8) (ops : List (SorterOp κ)) : Except SorterPanic (Reassembly κ) :=
  ops.foldlM (step S) {}

/-- The offsets that were pushed. -/
def covered (ops : List (SorterOp κ)) : Set Nat :=
  {x | ∃ offset length doneCb, SorterOp.push offset length doneCb ∈ ops ∧
    offset ≤ x ∧ x < offset + length}

/-- The pushes are within the limits. -/
structure Valid (ops : List (SorterOp κ)) : Prop where
  bound : ∀ offset length doneCb, SorterOp.push offset length doneCb ∈ ops →
    offset + length < MaxByteCount
  gaps : ∀ ops', ops' <+: ops → (gapStarts (covered ops')).ncard ≤ MaxStreamFrameSorterGaps

theorem covered_push (ops : List (SorterOp κ)) (offset length : Nat) (doneCb : Option κ) :
    covered (ops ++ [.push offset length doneCb]) =
      covered ops ∪ range offset (offset + length) := by
  ext x
  simp only [covered, Set.mem_union, Set.mem_ofPred_eq, List.mem_append, List.mem_singleton,
    SorterOp.push.injEq]
  constructor
  · rintro ⟨o, l, cb, hmem | ⟨rfl, rfl, rfl⟩, hin⟩
    · exact .inl ⟨o, l, cb, hmem, hin⟩
    · exact .inr hin
  · rintro (⟨o, l, cb, hmem, hin⟩ | hin)
    · exact ⟨o, l, cb, .inl hmem, hin⟩
    · exact ⟨offset, length, doneCb, .inr ⟨rfl, rfl, rfl⟩, hin⟩

theorem covered_pop (ops : List (SorterOp κ)) : covered (ops ++ [.pop]) = covered ops := by
  ext x
  simp [covered]

theorem Valid.left {ops ops' : List (SorterOp κ)} (h : Valid (ops ++ ops')) : Valid ops where
  bound o l cb hmem := h.bound o l cb (List.mem_append_left _ hmem)
  gaps ops₁ hpre := h.gaps ops₁ (hpre.trans (List.prefix_append _ _))

/-- What every run keeps. -/
structure Good (S : Nat → UInt8) (C : Set Nat) (r : Reassembly κ) : Prop where
  inv : FrameSorter.Inv S C r.sorter
  popped : r.popped = slice S 0 r.sorter.readPos
  errors : r.errors = []

theorem good_init (S : Nat → UInt8) : Good S ∅ ({} : Reassembly κ) where
  popped := rfl
  errors := rfl
  inv := by
    constructor
    · constructor
      · exact ⟨by simp [LinkedList.values, LinkedList.singleton, MaxByteCount],
          by simp [LinkedList.values, LinkedList.singleton]⟩
      · simp [LinkedList.values, LinkedList.singleton]
      · intro x
        simp [LinkedList.values, LinkedList.singleton, union]
    · simp
    · simp
    · constructor
      · intro p b hb
        simp at hb
      · intro p b p' b' hb
        simp at hb
      · simp
    · intro p e he
      simp at he

variable {r : Reassembly κ}

theorem good_push {S : Nat → UInt8} {C : Set Nat} (h : Good S C r) {offset length : Nat}
    (hmax : offset + length < MaxByteCount)
    (hgaps : (gapStarts (C ∪ range offset (offset + length))).ncard ≤ MaxStreamFrameSorterGaps)
    (doneCb : Option κ) : ∃ r', step S r (.push offset length doneCb) = .ok r' ∧
      Good S (C ∪ range offset (offset + length)) r' := by
  obtain ⟨s', hok, hinv, hread⟩ := h.inv.pushFrame hmax hgaps doneCb
  simp only [step, hok, bind, Except.bind]
  refine ⟨_, rfl, hinv, ?_, ?_⟩
  · simp only [hread]
    exact h.popped
  · simp [h.errors]

theorem good_pop {S : Nat → UInt8} {C : Set Nat} (h : Good S C r) :
    ∃ r', step S r .pop = .ok r' ∧ Good S C r' ∧
      (r.sorter.queue.lookup r.sorter.readPos = none ∨
        r'.sorter.queue.keys.length < r.sorter.queue.keys.length) := by
  cases hentry : r.sorter.queue.lookup r.sorter.readPos with
  | none =>
    simp only [step, (h.inv.pop_none hentry).1, bind, Except.bind]
    exact ⟨_, rfl, ⟨h.inv, by simpa using h.popped, h.errors⟩, .inl trivial⟩
  | some entry =>
    obtain ⟨s', hok, hinv, hread, hlen⟩ := h.inv.pop_some hentry
    simp only [step, hok, bind, Except.bind]
    refine ⟨_, rfl, ⟨hinv, ?_, h.errors⟩, .inr hlen⟩
    have hdata := h.inv.content _ _ hentry
    have happend := slice_append S 0 r.sorter.readPos entry.data.length
    rw [Nat.zero_add, ← hdata] at happend
    simp [hread, h.popped, happend]

variable {ops : List (SorterOp κ)}

theorem run_append {S : Nat → UInt8} (hrun : run S ops = .ok r) (ops' : List (SorterOp κ)) :
    run S (ops ++ ops') = ops'.foldlM (step S) r := by
  rw [run] at hrun
  simp only [run, List.foldlM_append, hrun, bind, Except.bind]

/-- **Every run** keeps the invariant. -/
theorem good_run (S : Nat → UInt8) (h : Valid ops) :
    ∃ r, run S ops = .ok r ∧ Good S (covered ops) r := by
  -- the induction adds a call at the end, since what is covered depends on all before
  induction ops using List.reverseRecOn with
  | nil =>
    have hempty : covered ([] : List (SorterOp κ)) = ∅ := by
      ext x
      simp [covered]
    exact ⟨{}, rfl, hempty.symm ▸ good_init S⟩
  | append_singleton ops op ih =>
    obtain ⟨r, hrun, hgood⟩ := ih h.left
    rw [run_append hrun, List.foldlM_cons]
    simp only [List.foldlM_nil, bind_pure]
    cases op with
    | push offset length doneCb =>
      have hgaps := h.gaps _ (List.prefix_refl _)
      rw [covered_push] at hgaps ⊢
      exact good_push hgood (h.bound offset length doneCb (by simp)) hgaps doneCb
    | pop =>
      rw [covered_pop]
      obtain ⟨r', hok, hgood', -⟩ := good_pop hgood
      exact ⟨r', hok, hgood'⟩

/-- When `Pop` has nothing to return, the read position is as far as the data goes. -/
theorem Good.greatest {S : Nat → UInt8} {C : Set Nat} (h : Good S C r)
    (hnone : r.sorter.queue.lookup r.sorter.readPos = none) :
    IsGreatest {k | ∀ x < k, x ∈ C} r.sorter.readPos := by
  refine ⟨h.inv.read, fun k hk => ?_⟩
  by_contra hlt
  exact (h.inv.pop_none hnone).2 (hk _ (not_le.mp hlt))

/-- Popping comes to an end. -/
theorem Good.pop_all {S : Nat → UInt8} {C : Set Nat} :
    ∀ (n : Nat) {r : Reassembly κ}, Good S C r → r.sorter.queue.keys.length ≤ n →
      ∃ m r', (List.replicate m SorterOp.pop).foldlM (step S) r = .ok r' ∧ Good S C r' ∧
        r'.sorter.queue.lookup r'.sorter.readPos = none
  | 0, r, h, hlen =>
    ⟨0, r, rfl, h, (Clearing.at_eq_none (c := ⟨r.sorter.queue, []⟩) hlen r.sorter.readPos)⟩
  | n + 1, r, h, hlen => by
    obtain ⟨r₁, hok, hgood, hnone | hlt⟩ := good_pop h
    · exact ⟨0, r, rfl, h, hnone⟩
    · obtain ⟨m, r', hrun, hgood', hnone⟩ := Good.pop_all n hgood (by omega)
      refine ⟨m + 1, r', ?_, hgood', hnone⟩
      rw [List.replicate_succ, List.foldlM_cons, hok]
      exact hrun

/-- **Stream reassembly**: whatever ranges of the stream are pushed, and whenever data is
popped, there is no panic and no error, the gaps are what was not pushed, the popped data
is a prefix of the stream, and popping until nothing comes gives the longest prefix that
was pushed. -/
theorem reassembles (S : Nat → UInt8) (ops : List (SorterOp κ)) (h : Valid ops) :
    ∃ r, run S ops = .ok r ∧ r.errors = [] ∧ Missing (covered ops) r.sorter.gaps.values ∧
      (∃ k, r.popped = slice S 0 k ∧ ∀ x < k, x ∈ covered ops) ∧
      (r.sorter.pop = .ok (r.sorter, r.sorter.readPos, none, none) →
        ∃ k, r.popped = slice S 0 k ∧ IsGreatest {k | ∀ x < k, x ∈ covered ops} k) ∧
      ∃ m r', run S (ops ++ List.replicate m .pop) = .ok r' ∧
        r'.sorter.pop = .ok (r'.sorter, r'.sorter.readPos, none, none) := by
  obtain ⟨r, hrun, hgood⟩ := good_run S h
  refine ⟨r, hrun, hgood.errors, hgood.inv.toMissing, ⟨_, hgood.popped, hgood.inv.read⟩, ?_, ?_⟩
  · intro hpop
    refine ⟨_, hgood.popped, hgood.greatest ?_⟩
    cases hentry : r.sorter.queue.lookup r.sorter.readPos with
    | none => rfl
    | some entry =>
      obtain ⟨s', hok, -⟩ := hgood.inv.pop_some hentry
      rw [hpop] at hok
      simp at hok
  · obtain ⟨m, r', hpops, hgood', hnone⟩ := hgood.pop_all _ le_rfl
    exact ⟨m, r', (run_append hrun _).trans hpops, (hgood'.inv.pop_none hnone).1⟩

/-! ## short runs -/

/-- Where the range of a push ends. -/
def rangeEnd : SorterOp κ → Option Nat
  | .push offset length _ => some (offset + length)
  | .pop => none

/-- A gap starts at the beginning of the stream or where a pushed range ends. -/
theorem gapStarts_covered_subset (ops : List (SorterOp κ)) :
    gapStarts (covered ops) ⊆ ↑(insert 0 (ops.filterMap rangeEnd).toFinset) := by
  intro x hx
  obtain ⟨-, hnot, hpred⟩ := hx
  cases x with
  | zero => simp
  | succ y =>
    obtain ⟨offset, length, doneCb, hmem, hle, hlt⟩ := hpred y rfl
    have hend : y + 1 = offset + length := by
      by_contra hne
      exact hnot ⟨offset, length, doneCb, hmem, by omega, by omega⟩
    simp only [Finset.coe_insert, List.coe_toFinset, Set.mem_insert_iff, Set.mem_ofPred_eq,
      List.mem_filterMap]
    exact .inr ⟨_, hmem, by simp [rangeEnd, hend]⟩

/-- Few calls leave few gaps. -/
theorem valid_of_length (hlen : ops.length < MaxStreamFrameSorterGaps)
    (hbound : ∀ offset length doneCb, SorterOp.push offset length doneCb ∈ ops →
      offset + length < MaxByteCount) : Valid ops where
  bound := hbound
  gaps := by
    intro ops' hpre
    have hsub := Set.ncard_le_ncard (gapStarts_covered_subset ops') (Finset.finite_toSet _)
    rw [Set.ncard_coe_finset] at hsub
    have hinsert := Finset.card_insert_le 0 (ops'.filterMap rangeEnd).toFinset
    have hcard := List.toFinset_card_le (ops'.filterMap rangeEnd)
    have hends := List.length_filterMap_le rangeEnd ops'
    have hle := hpre.length_le
    omega

/-- A late start, an overlap and a duplicate. -/
def overlapping : List (SorterOp Nat) :=
  [.push 3 2 (some 1), .pop, .push 0 4 (some 2), .push 1 2 none, .pop, .pop]

theorem overlapping_reassembled :
    Valid overlapping ∧ ∃ r, run UInt8.ofNat overlapping = .ok r ∧ r.errors = [] ∧
      Missing (covered overlapping) r.sorter.gaps.values ∧
      (∃ k, r.popped = slice UInt8.ofNat 0 k ∧ ∀ x < k, x ∈ covered overlapping) ∧
      (r.sorter.pop = .ok (r.sorter, r.sorter.readPos, none, none) →
        ∃ k, r.popped = slice UInt8.ofNat 0 k ∧
          IsGreatest {k | ∀ x < k, x ∈ covered overlapping} k) ∧
      ∃ m r', run UInt8.ofNat (overlapping ++ List.replicate m .pop) = .ok r' ∧
        r'.sorter.pop = .ok (r'.sorter, r'.sorter.readPos, none, none) := by
  have hvalid : Valid overlapping := by
    refine valid_of_length (by decide) fun offset length doneCb hmem => ?_
    simp only [overlapping, List.mem_cons, SorterOp.push.injEq, reduceCtorEq, List.not_mem_nil,
      or_false, false_or] at hmem
    obtain ⟨rfl, rfl, -⟩ | ⟨rfl, rfl, -⟩ | ⟨rfl, rfl, -⟩ := hmem <;> decide
  exact ⟨hvalid, reassembles UInt8.ofNat overlapping hvalid⟩

end Reassembly

end MoqQuic.Quic
