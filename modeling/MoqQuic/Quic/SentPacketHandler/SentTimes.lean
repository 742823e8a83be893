import MoqQuic.Congestion.SentTimes
import MoqQuic.Quic.SentPacketHandler.Accounts

/-!
# MoqQuic.Quic.SentPacketHandler.SentTimes

The packets of the handler against the send times that a BBR sender keeps.

`live` are the packets that are tracked in some space. `Effect` lists what a call may do to
them and to the log of calls, as long as no packet is given up: nothing that concerns the send
times, a packet with a new number that is sent, packets that are acknowledged, or a new
start. Every such effect keeps `Known`: the numbers of the packets differ, the send times are
theirs, and all RTT samples were genuine.
-/

namespace MoqQuic.Quic.SentPacketHandler

open Outcome SentPacketHistory BbrSender

variable {φ : Type} {h h' : SentPacketHandler φ} {encLevel : EncryptionLevel}

/-! ## the send times after the calls -/

/-- A call that does not concern the send times. -/
def Silent : Call φ → Prop
  | .onPacketSent .. | .onPacketAcked .. | .onRetransmissionTimeout => False
  | .onCongestionEvent .. | .maybeExitSlowStart | .onAcked _ | .onLost _
  | .ignorePacketsBelow _ => True

theorem sentTimesAfter_append (calls calls' : List (Call φ)) :
    sentTimesAfter (calls ++ calls') = calls'.foldl record (sentTimesAfter calls) :=
  List.foldl_append

theorem sentTimesAfter_silent (calls : List (Call φ)) {silent : List (Call φ)}
    (hs : ∀ c ∈ silent, Silent c) : sentTimesAfter (calls ++ silent) = sentTimesAfter calls := by
  rw [sentTimesAfter_append]
  induction silent with
  | nil => rfl
  | cons c silent ih =>
    have hc := hs c List.mem_cons_self
    have hrecord : record (sentTimesAfter calls) c = sentTimesAfter calls := by
      cases c with
      | onPacketSent | onPacketAcked | onRetransmissionTimeout => cases hc
      | _ => rfl
    rw [List.foldl_cons, hrecord]
    exact ih fun c' hc' => hs c' (List.mem_cons_of_mem c hc')

theorem foldl_record_acked (packets : List (NumberedPacket φ)) (prior : Int) (t : Time) :
    ∀ (times : Nat → Option Time) (n : Nat),
      (packets.map fun e => Call.onPacketAcked e prior t).foldl record times n =
        if ∃ e ∈ packets, e.1.toNat = n then none else times n := by
  induction packets with
  | nil => simp
  | cons e packets ih =>
    intro times n
    rw [List.map_cons, List.foldl_cons, ih]
    by_cases hlater : ∃ e ∈ packets, e.1.toNat = n
    · rw [if_pos hlater, if_pos]
      obtain ⟨e', he', hn⟩ := hlater
      exact ⟨e', List.mem_cons_of_mem e he', hn⟩
    · rw [if_neg hlater]
      by_cases hn : e.1.toNat = n
      · rw [if_pos ⟨e, List.mem_cons_self, hn⟩, record, ← hn, Function.update_self]
      · rw [if_neg, record, Function.update_of_ne (Ne.symm hn)]
        rintro ⟨e', he', hn'⟩
        rcases List.mem_cons.mp he' with rfl | he'
        · exact hn hn'
        · exact hlater ⟨e', he', hn'⟩

/-- Whenever a packet is acknowledged, its number has its own send time. -/
def Genuine (calls : List (Call φ)) : Prop :=
  ∀ i e prior t, calls[i]? = some (.onPacketAcked e prior t) →
    sentTimesAfter (calls.take i) e.1.toNat = some e.2.sendTime

variable {calls : List (Call φ)}

theorem Genuine.snoc (hg : Genuine calls) {c : Call φ}
    (hc : ∀ e prior t, c = .onPacketAcked e prior t →
      sentTimesAfter calls e.1.toNat = some e.2.sendTime) : Genuine (calls ++ [c]) := by
  intro i e prior t hi
  rcases Nat.lt_trichotomy i calls.length with hlt | rfl | hgt
  · rw [List.getElem?_append_left hlt] at hi
    rw [List.take_append_of_le_length (Nat.le_of_lt hlt)]
    exact hg i e prior t hi
  · rw [List.getElem?_append_right (Nat.le_refl _), Nat.sub_self] at hi
    rw [List.take_append_of_le_length (Nat.le_refl _), List.take_length]
    exact hc e prior t (Option.some.inj hi)
  · rw [List.getElem?_eq_none (by simp; omega)] at hi
    cases hi

theorem Genuine.silent {calls silent : List (Call φ)} (hg : Genuine calls)
    (hs : ∀ c ∈ silent, Silent c) : Genuine (calls ++ silent) := by
  induction silent generalizing calls with
  | nil => simpa using hg
  | cons c silent ih =>
    have hnext : Genuine (calls ++ [c]) := by
      refine hg.snoc fun e prior t hc => ?_
      have hsilent := hs c List.mem_cons_self
      rw [hc] at hsilent
      cases hsilent
    have hrest := ih hnext fun c' hc' => hs c' (List.mem_cons_of_mem c hc')
    simpa using hrest

variable {packets : List (NumberedPacket φ)}

/-- Packets with distinct numbers are acknowledged one after the other. -/
theorem Genuine.acked (prior : Int) (t : Time) :
    ∀ {calls : List (Call φ)}, Genuine calls → (packets.map fun e => e.1.toNat).Nodup →
      (∀ e ∈ packets, sentTimesAfter calls e.1.toNat = some e.2.sendTime) →
      Genuine (calls ++ packets.map fun e => .onPacketAcked e prior t) := by
  induction packets with
  | nil => exact fun hg _ _ => by simpa using hg
  | cons e packets ih =>
    intro calls hg hnodup hsent
    have hdistinct := List.nodup_cons.mp hnodup
    have hnext : Genuine (calls ++ [.onPacketAcked e prior t]) := by
      refine hg.snoc fun e' prior' t' hc => ?_
      cases hc
      exact hsent e List.mem_cons_self
    have hrest := ih hnext hdistinct.2 fun e' he' => by
      have hne : e'.1.toNat ≠ e.1.toNat := fun heq =>
        hdistinct.1 (List.mem_map.mpr ⟨e', he', heq⟩)
      rw [sentTimesAfter_append, List.foldl_cons, List.foldl_nil, record, Function.update_of_ne hne]
      exact hsent e' (List.mem_cons_of_mem e he')
    simpa using hrest

/-! ## the packets of all spaces -/

/-- The packets that are tracked in some space. -/
def live (h : SentPacketHandler φ) : List (NumberedPacket φ) :=
  h.tracked .initial ++ h.tracked .handshake ++ h.tracked .oneRTT

theorem live_congr
    (hspaces : ∀ level, h'.getPacketNumberSpace level = h.getPacketNumberSpace level) :
    h'.live = h.live := by
  simp only [live, tracked_congr hspaces]

variable {e : NumberedPacket φ}

theorem mem_live_of_mem_tracked (he : e ∈ h.tracked encLevel) : e ∈ h.live := by
  have happ : h.tracked .zeroRTT = h.tracked .oneRTT := rfl
  cases encLevel <;> simp_all [live]

/-- The packets of one space, and all others. -/
theorem live_split {space : PacketNumberSpace φ}
    (hs : h.getPacketNumberSpace encLevel = some space) :
    ∃ others, h.live.Perm (space.history.iterate ++ others) ∧
      ∀ space', (h.setPacketNumberSpace encLevel space').live.Perm
        (space'.history.iterate ++ others) := by
  have hswap : ∀ x y z : List (NumberedPacket φ), (x ++ y ++ z).Perm (y ++ (x ++ z)) :=
    fun x y z => by
      rw [List.append_assoc]
      exact List.perm_append_comm_assoc x y z
  cases encLevel with
  | initial =>
    refine ⟨h.tracked .handshake ++ h.tracked .oneRTT, ?_, fun space' => ?_⟩
    · rw [live, tracked_of_some hs, List.append_assoc]
    · rw [live, tracked_of_some (getPacketNumberSpace_set_self h .initial space'),
        List.append_assoc]
      exact List.Perm.refl _
  | handshake =>
    refine ⟨h.tracked .initial ++ h.tracked .oneRTT, ?_, fun space' => ?_⟩
    · rw [live, tracked_of_some hs]
      exact hswap _ _ _
    · rw [live, tracked_of_some (getPacketNumberSpace_set_self h .handshake space')]
      exact hswap _ _ _
  | zeroRTT | oneRTT =>
    refine ⟨h.tracked .initial ++ h.tracked .handshake, ?_, fun space' => ?_⟩
    · cases hs
      exact List.perm_append_comm
    · exact List.perm_append_comm

/-- Packets that leave or enter one space leave or enter the whole. -/
theorem live_set (out new : List (NumberedPacket φ)) {space space' : PacketNumberSpace φ}
    (hs : h.getPacketNumberSpace encLevel = some space)
    (hperm : (new ++ space.history.iterate).Perm (out ++ space'.history.iterate)) :
    (new ++ h.live).Perm (out ++ (h.setPacketNumberSpace encLevel space').live) := by
  obtain ⟨others, hlive, hlive'⟩ := live_split hs
  calc new ++ h.live
    _ |>.Perm (new ++ (space.history.iterate ++ others)) := hlive.append_left new
    _ |>.Perm (out ++ space'.history.iterate ++ others) := by
        rw [← List.append_assoc]
        exact hperm.append_right others
    _ |>.Perm (out ++ (h.setPacketNumberSpace encLevel space').live) := by
        rw [List.append_assoc]
        exact ((hlive' space').symm).append_left out

/-! ## what a call can do -/

/-- **The effects** of a call of an undisturbed run. -/
inductive Effect (h h' : SentPacketHandler φ) : Prop
  | quiet (calls : List (Call φ)) (hlive : h'.live.Perm h.live)
      (hcalls : h'.calls = h.calls ++ calls) (hsilent : ∀ c ∈ calls, Silent c)
  | sent (e : NumberedPacket φ) (inFlight : Int) (bytes : Nat) (retransmittable : Bool)
      (hlive : h'.live.Perm (e :: h.live))
      (hcalls : h'.calls =
        h.calls ++ [.onPacketSent e.2.sendTime inFlight e.1 bytes retransmittable])
      (hnonneg : 0 ≤ e.1) (hnew : ∀ e' ∈ h.live, e'.1 ≠ e.1)
  | acked (packets : List (NumberedPacket φ)) (calls : List (Call φ)) (prior : Int) (t : Time)
      (hlive : h.live.Perm (packets ++ h'.live))
      (hcalls : h'.calls = h.calls ++ calls ++ packets.map fun e => .onPacketAcked e prior t)
      (hsilent : ∀ c ∈ calls, Silent c)
  | reset (hlive : h'.live = []) (hcalls : h'.calls = h.calls ++ [.onRetransmissionTimeout])

/-- The packets have distinct numbers, the send times are theirs, and all samples so far were
genuine. -/
structure Known (h : SentPacketHandler φ) : Prop where
  nodup : (h.live.map Prod.fst).Nodup
  nonneg : ∀ e ∈ h.live, 0 ≤ e.1
  sentTimes : ∀ n t, sentTimesAfter h.calls n = some t ↔
    ∃ e ∈ h.live, e.1 = (n : Int) ∧ e.2.sendTime = t
  genuine : Genuine h.calls

/-- A new packet with a number of its own. -/
theorem Known.sent (hk : Known h) {inFlight : Int} {bytes : Nat}
    {retransmittable : Bool} (hlive : h'.live.Perm (e :: h.live))
    (hcalls : h'.calls = h.calls ++ [.onPacketSent e.2.sendTime inFlight e.1 bytes retransmittable])
    (hnonneg : 0 ≤ e.1) (hnew : ∀ e' ∈ h.live, e'.1 ≠ e.1) : Known h' := by
  refine ⟨?_, fun e' he' => ?_, fun n t => ?_, ?_⟩
  · rw [(hlive.map Prod.fst).nodup_iff, List.map_cons, List.nodup_cons]
    refine ⟨fun hmem => ?_, hk.nodup⟩
    obtain ⟨e', he', hn⟩ := List.mem_map.mp hmem
    exact hnew e' he' hn
  · rcases List.mem_cons.mp (hlive.mem_iff.mp he') with rfl | he'
    · exact hnonneg
    · exact hk.nonneg e' he'
  · rw [hcalls, sentTimesAfter_append, List.foldl_cons, List.foldl_nil, record]
    simp only [hlive.mem_iff]
    by_cases hn : n = e.1.toNat
    · -- the number is taken by the new packet only
      have hcast : e.1 = (n : Int) := by rw [hn, Int.toNat_of_nonneg hnonneg]
      rw [hn, Function.update_self, Option.some.injEq, ← hn]
      constructor
      · exact fun ht => ⟨e, List.mem_cons_self, hcast, ht⟩
      · rintro ⟨e', he', hn', ht⟩
        rcases List.mem_cons.mp he' with rfl | he'
        · exact ht
        · exact absurd (hn'.trans hcast.symm) (hnew e' he')
    · rw [Function.update_of_ne hn, hk.sentTimes]
      constructor
      · exact fun ⟨e', he', hin⟩ => ⟨e', List.mem_cons_of_mem e he', hin⟩
      · rintro ⟨e', he', hn', ht⟩
        rcases List.mem_cons.mp he' with rfl | he'
        · exact absurd (by rw [hn', Int.toNat_natCast]) hn
        · exact ⟨e', he', hn', ht⟩
  · rw [hcalls]
    refine hk.genuine.snoc fun e' prior t hc => ?_
    cases hc

/-- Packets that leave when they are acknowledged. -/
theorem Known.acked (hk : Known h)
    {prior : Int} {t : Time} (hlive : h.live.Perm (packets ++ h'.live))
    (hcalls : h'.calls = h.calls ++ calls ++ packets.map fun e => .onPacketAcked e prior t)
    (hsilent : ∀ c ∈ calls, Silent c) : Known h' := by
  have hnodup : (packets.map Prod.fst ++ h'.live.map Prod.fst).Nodup := by
    rw [← List.map_append, ← (hlive.map Prod.fst).nodup_iff]
    exact hk.nodup
  have hout : ∀ e ∈ packets, e ∈ h.live :=
    fun e he => hlive.mem_iff.mpr (List.mem_append_left _ he)
  have hstay : ∀ e ∈ h'.live, e ∈ h.live :=
    fun e he => hlive.mem_iff.mpr (List.mem_append_right _ he)
  have hapart : ∀ e ∈ packets, ∀ e' ∈ h'.live, e.1 ≠ e'.1 := fun e he e' he' =>
    (List.nodup_append.mp hnodup).2.2 _ (List.mem_map_of_mem he) _ (List.mem_map_of_mem he')
  have hsent : ∀ e ∈ packets, sentTimesAfter (h.calls ++ calls) e.1.toNat = some e.2.sendTime := by
    intro e he
    rw [sentTimesAfter_silent _ hsilent, hk.sentTimes]
    exact ⟨e, hout e he, (Int.toNat_of_nonneg (hk.nonneg e (hout e he))).symm, rfl⟩
  refine ⟨(List.nodup_append.mp hnodup).2.1, fun e he => hk.nonneg e (hstay e he),
    fun n t' => ?_, ?_⟩
  · rw [hcalls, sentTimesAfter_append, foldl_record_acked, sentTimesAfter_silent _ hsilent]
    by_cases hn : ∃ e ∈ packets, e.1.toNat = n
    · rw [if_pos hn]
      obtain ⟨e, he, hn⟩ := hn
      constructor
      · intro hnone
        cases hnone
      · rintro ⟨e', he', hn', -⟩
        refine absurd ?_ (hapart e he e' he')
        rw [hn', ← hn, Int.toNat_of_nonneg (hk.nonneg e (hout e he))]
    · rw [if_neg hn, hk.sentTimes]
      constructor
      · rintro ⟨e, he, hin⟩
        rcases List.mem_append.mp (hlive.mem_iff.mp he) with he | he
        · exact absurd ⟨e, he, by rw [hin.1, Int.toNat_natCast]⟩ hn
        · exact ⟨e, he, hin⟩
      · exact fun ⟨e, he, hin⟩ => ⟨e, hstay e he, hin⟩
  · rw [hcalls]
    refine (hk.genuine.silent hsilent).acked prior t ?_ hsent
    have hpairwise := List.pairwise_map.mp (List.nodup_append.mp hnodup).1
    refine List.pairwise_map.mpr (hpairwise.imp_of_mem fun he he' hne heq => hne ?_)
    have hpos := hk.nonneg _ (hout _ he)
    have hpos' := hk.nonneg _ (hout _ he')
    grind

/-- **One effect** keeps what is known. -/
theorem Known.effect (hk : Known h) (he : Effect h h') : Known h' := by
  cases he with
  | quiet calls hlive hcalls hsilent =>
    refine ⟨?_, fun e he => hk.nonneg e (hlive.mem_iff.mp he), fun n t => ?_, ?_⟩
    · exact (hlive.map Prod.fst).nodup_iff.mpr hk.nodup
    · rw [hcalls, sentTimesAfter_silent _ hsilent, hk.sentTimes]
      simp only [hlive.mem_iff]
    · rw [hcalls]
      exact hk.genuine.silent hsilent
  | sent e inFlight bytes retransmittable hlive hcalls hnonneg hnew =>
    exact hk.sent hlive hcalls hnonneg hnew
  | acked packets calls prior t hlive hcalls hsilent => exact hk.acked hlive hcalls hsilent
  | reset hlive hcalls =>
    refine ⟨by simp [hlive], by simp [hlive], fun n t => ?_, ?_⟩
    · rw [hcalls, sentTimesAfter_append, hlive]
      simp [record]
    · rw [hcalls]
      refine hk.genuine.snoc fun e prior t hc => ?_
      cases hc

end MoqQuic.Quic.SentPacketHandler
