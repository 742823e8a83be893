import MoqQuic.Congestion.Bbrv3.ProbeRtt

/-!
# MoqQuic.Congestion.Bbrv3.Spacing

Episodes of ProbeRTT over whole runs: how far apart they are, and whether the
window survives them.

A run is watched: `Watch` pairs the sender with the entries into and the exits
from ProbeRTT seen so far.  `Restores` says that every exit finds at least the
window of the entry before it, `Spaced` that every entry comes at least
`probeRttInterval` after every earlier exit.

The exit that a run can take (`exitProbeRTTFromAbove`) neither restores the
window nor moves `probeRttMinStamp`; only `checkProbeRttDone` would, and no call
reaches it.  So the estimate stays expired for good, the next ack that updates
the model enters ProbeRTT again, and the window stays where the entry cut it:
`shortBurst_breaks` shows both.  `restores_and_spaced` proves the property for
the runs whose calls meet `KeepsEpisodes`.
-/

namespace MoqQuic.BBRv3Sender

/-! ## entries and exits -/

/-- An entry into ProbeRTT, with the window in effect just before it, or an exit,
with the window right after it. -/
inductive Crossing where
  | enter (time : Time) (cwnd : Nat)
  | leave (time : Time) (cwnd : Nat)
  deriving DecidableEq, Repr

/-- The crossing between two moments of a call, put before the earlier ones. -/
def observe (t : Time) (b b' : BBRv3Sender) (seen : List Crossing) : List Crossing :=
  if b.state = .probeRTT ∧ b'.state ≠ .probeRTT then .leave t b'.cwnd :: seen
  else if b.state ≠ .probeRTT ∧ b'.state = .probeRTT then .enter t b.cwnd :: seen
  else seen

/-- The ack of a known packet has been recorded and has possibly left ProbeRTT. -/
def arrived (b : BBRv3Sender) (n bytes : Nat) (t : Time) : BBRv3Sender :=
  match b.sentTimes n with
  | none => b
  | some sentTime => b.ackArrived n bytes sentTime t

/-- The time of a call. -/
def Op.time : Op → Nat
  | .sent sentTime .. => sentTime
  | .acked _ _ _ eventTime _ => eventTime
  | .lost _ clock => clock
  | .pacing now => now
  | .timeout _ now _ => now
  | .setMaxDatagramSize _ => 0

/-- The crossings of a call.  An ack that updates the model may leave ProbeRTT
first, and enters it, if at all, with the window that `saveCwnd` saves. -/
def crossings (b : BBRv3Sender) (op : Op) (seen : List Crossing) : List Crossing :=
  match op with
  | .acked n bytes prior t clock =>
    if b.ackUpdates n bytes t then
      observe t (b.ackSampled n bytes t) (b.onPacketAcked n bytes prior t clock)
        (observe t b (b.arrived n bytes t) seen)
    else observe t b (b.onPacketAcked n bytes prior t clock) seen
  | op => observe op.time b (b.step op) seen

/-- A sender with the crossings seen so far, the latest first. -/
structure Watch where
  sender : BBRv3Sender
  seen : List Crossing := []

namespace Watch

def step (w : Watch) (op : Op) : Watch :=
  { sender := w.sender.step op, seen := w.sender.crossings op w.seen }

end Watch

/-- Every exit finds at least the window of the entry right before it. -/
def Restores (seen : List Crossing) : Prop :=
  seen.IsChain fun later earlier =>
    match earlier, later with
    | .enter _ w, .leave _ w' => w ≤ w'
    | _, _ => True

/-- No entry comes earlier than `interval` after an exit. -/
def Spaced (interval : Duration) (seen : List Crossing) : Prop :=
  seen.Pairwise fun later earlier =>
    match earlier, later with
    | .leave t _, .enter t' _ => t + interval ≤ t'
    | _, _ => True

/-- The crossing is no exit within `interval` before `t`. -/
def Crossing.LongBefore (t : Time) (interval : Duration) : Crossing → Prop
  | .leave t' _ => t' + interval ≤ t
  | .enter .. => True

instance (t : Time) (interval : Duration) (x : Crossing) : Decidable (x.LongBefore t interval) := by
  cases x <;> unfold Crossing.LongBefore <;> infer_instance

/-- The window of the latest entry. -/
def entryWindow : List Crossing → Nat
  | .enter _ w :: _ => w
  | _ => 0

/-- The condition on a call under which it keeps the episodes apart and their
windows whole.  An ack that enters ProbeRTT comes from outside it, long after
every exit, and its ProbeRTT window is at least the window it finds; a loss in
ProbeRTT leaves at least the window of the entry. -/
def KeepsEpisodes (w : Watch) : Op → Prop
  | .acked n bytes _ t _ =>
    let b := w.sender
    b.ackUpdates n bytes t = true → b.core.Expired t → b.state ≠ .probeRTT ∧
      (∀ x ∈ w.seen, x.LongBefore t b.config.probeRttInterval) ∧
      (b.ackSampled n bytes t).cwnd ≤
        min (b.core.probeWindow (min (b.ackSampled n bytes t).maxBw maxUint64)) b.core.cap
  | .lost lost _ =>
    let b := w.sender
    b.state = .probeRTT →
      if b.cwnd > lost then entryWindow w.seen + lost ≤ b.cwnd
      else entryWindow w.seen ≤ b.config.minCwnd
  | _ => True

instance (w : Watch) (op : Op) : Decidable (KeepsEpisodes w op) := by
  cases op <;> unfold KeepsEpisodes <;> infer_instance

/-- A call that is neither a retransmission timeout nor a datagram size change. -/
def Op.Regular : Op → Prop
  | .timeout .. | .setMaxDatagramSize _ => False
  | _ => True

instance (op : Op) : Decidable op.Regular := by
  cases op <;> unfold Op.Regular <;> infer_instance

/-- The calls are regular, with non-decreasing times from `now` on. -/
def Orderly (now : Nat) (ops : List Op) : Prop :=
  (now :: ops.map Op.time).Pairwise (· ≤ ·) ∧ ∀ op ∈ ops, op.Regular

instance (now : Nat) (ops : List Op) : Decidable (Orderly now ops) :=
  inferInstanceAs (Decidable (_ ∧ _))

/-! ## one crossing -/

variable {b b' : BBRv3Sender} {t : Time} {seen : List Crossing}

theorem observe_of_no_entry (hin : b'.core.inProbeRTT = true → b.core.inProbeRTT = true) :
    observe t b b' seen =
      if b.core.inProbeRTT = true ∧ ¬ b'.core.inProbeRTT = true then .leave t b'.cwnd :: seen
      else seen := by
  simp only [core_inProbeRTT] at hin ⊢
  unfold observe
  split
  · rfl
  · rw [if_neg]
    intro h
    exact h.1 (hin h.2)

theorem observe_of_entry (hout : ¬ b.core.inProbeRTT = true) (hin : b'.core.inProbeRTT = true) :
    observe t b b' seen = .enter t b.cwnd :: seen := by
  rw [core_inProbeRTT] at hout hin
  rw [observe, if_neg (fun h => hout h.1), if_pos ⟨hout, hin⟩]

/-- The crossings seen so far are good, and an open episode has not lost its
window. -/
structure Episodes (b : BBRv3Sender) (seen : List Crossing) : Prop where
  restores : Restores seen
  spaced : Spaced probeRttIntervalConst seen
  window : b.core.inProbeRTT = true → ∃ t w rest, seen = .enter t w :: rest ∧ w ≤ b.core.cwnd

/-- Between two moments without an entry the episodes stay good, if the window
does not change. -/
theorem Episodes.observe (h : Episodes b seen)
    (hin : b'.core.inProbeRTT = true → b.core.inProbeRTT = true)
    (hw : b'.core.cwnd = b.core.cwnd) : Episodes b' (observe t b b' seen) := by
  rw [observe_of_no_entry hin]
  by_cases hleave : b.core.inProbeRTT = true ∧ ¬ b'.core.inProbeRTT = true
  · rw [if_pos hleave]
    obtain ⟨t₀, w, rest, rfl, hle⟩ := h.window hleave.1
    have hrest : w ≤ b'.cwnd := by
      change w ≤ b'.core.cwnd
      rw [hw]
      exact hle
    refine ⟨?_, ?_, fun hc => absurd hc hleave.2⟩
    · exact List.isChain_cons_cons.mpr ⟨hrest, h.restores⟩
    · refine List.pairwise_cons.mpr ⟨fun x _ => ?_, h.spaced⟩
      cases x <;> trivial
  · rw [if_neg hleave]
    refine ⟨h.restores, h.spaced, fun hc => ?_⟩
    rw [hw]
    exact h.window (hin hc)

/-- An entry long after every exit that does not cut the window keeps the
episodes good. -/
theorem Episodes.enter (h : Episodes b seen) (hout : ¬ b.core.inProbeRTT = true)
    (hin : b'.core.inProbeRTT = true) (hlong : ∀ x ∈ seen, x.LongBefore t probeRttIntervalConst)
    (hw : b.core.cwnd ≤ b'.core.cwnd) : Episodes b' (BBRv3Sender.observe t b b' seen) := by
  rw [observe_of_entry hout hin]
  refine ⟨?_, ?_, fun _ => ⟨t, b.cwnd, seen, rfl, hw⟩⟩
  · cases seen with
    | nil => exact List.IsChain.singleton _
    | cons x rest =>
      refine List.isChain_cons_cons.mpr ⟨?_, h.restores⟩
      cases x <;> trivial
  · refine List.pairwise_cons.mpr ⟨fun x hx => ?_, h.spaced⟩
    have hx' := hlong x hx
    cases x with
    | enter _ _ => trivial
    | leave _ _ => exact hx'

/-! ## the stamps -/

/-- The stamps of a sender that was made at `start` and never reset: the
ProbeRTT stamp never moves, and the min-RTT stamp is no older. -/
structure Stamps (start : Time) (b : BBRv3Sender) : Prop where
  inv : b.core.Inv
  probeRttMinStamp : b.core.probeRttMinStamp = start
  minRttStamp : start ≤ b.core.minRttStamp

variable {start : Time}

/-- From such a sender the second entry into ProbeRTT, at the end of an ack, is
never taken: the first one comes five seconds earlier. -/
theorem core_processAck_of_stamps (prior : Nat) (t clock : Time) (hs : Stamps start b)
    (hne : b.state ≠ .probeRTT) :
    ∃ maxBw, (b.processAck prior t clock).core =
      ({ b.core.update prior t with maxBw := maxBw } : Core) := by
  obtain ⟨maxBw, hcore⟩ := core_processAck b prior t clock hs.inv hne
  refine ⟨maxBw, ?_⟩
  have hint : b.core.config.probeRttInterval = 5000000000 := hs.inv.probeRttInterval
  have hten : 10 * second = 10000000000 := rfl
  have hmin := hs.probeRttMinStamp
  have hrtt := hs.minRttStamp
  rw [hcore, Core.age, if_neg]
  rintro ⟨hold, -⟩
  unfold Core.update at hold
  split at hold
  · simp only [Core.expire, hten] at hold
    grind
  · next hexp =>
    simp only [Core.fresh, hten] at hold
    simp only [Core.Expired, hmin, hint] at hexp
    grind

theorem Stamps.of_sampled (hs : Stamps start b) (hinv : b'.core.Inv)
    (hsam : b.core.Sampled b'.core t) (ht : start ≤ t) : Stamps start b' := by
  refine ⟨hinv, hsam.probeRttMinStamp.trans hs.probeRttMinStamp, ?_⟩
  obtain h | h := hsam.minRttStamp
  · rw [h]
    exact hs.minRttStamp
  · rw [h]
    exact ht

theorem Stamps.update {prior maxBw : Nat} (hs : Stamps start b) (ht : start ≤ t)
    (hcore : b'.core = ({ b.core.update prior t with maxBw := maxBw } : Core)) :
    Stamps start b' := by
  refine ⟨?_, ?_, ?_⟩
  · rw [hcore]
    exact hs.inv.update prior t maxBw
  · rw [hcore]
    unfold Core.update
    split <;> exact hs.probeRttMinStamp
  · rw [hcore]
    unfold Core.update
    split
    · exact ht
    · exact hs.minRttStamp

/-! ## one call -/

theorem arrived_spec (b : BBRv3Sender) (n bytes : Nat) (t : Time) :
    ((b.arrived n bytes t).core.inProbeRTT = true → b.core.inProbeRTT = true) ∧
      (b.arrived n bytes t).core.cwnd = b.core.cwnd := by
  unfold arrived
  cases b.sentTimes n with
  | none => exact ⟨id, rfl⟩
  | some sentTime =>
    exact ⟨stays_ackArrived b n bytes sentTime t, (sampled_ackArrived b n bytes sentTime t).2⟩

/-- The model update of an ack enters ProbeRTT exactly when the estimate has
expired. -/
theorem Core.update_inProbeRTT {c : Core} {prior : Nat} (hout : ¬ c.inProbeRTT = true) :
    (c.update prior t).inProbeRTT = true ↔ c.Expired t := by
  unfold Core.update
  split
  · next h => exact ⟨fun _ => h, fun _ => rfl⟩
  · next h => exact ⟨fun hc => absurd hc hout, fun hc => absurd hc h⟩

/-- An entry does not cut a window that fits the ProbeRTT window. -/
theorem Core.le_expire_cwnd {c : Core} {prior : Nat} (hexp : c.Expired t)
    (h : c.cwnd ≤ min (c.probeWindow (min c.maxBw maxUint64)) c.cap) :
    c.cwnd ≤ (c.update prior t).cwnd := by
  have hbase := c.le_baseCwnd prior
  rw [Core.update, if_pos hexp]
  simp only [Core.expire]
  omega

/-- What a watched run keeps. -/
structure Watch.Good (start : Time) (w : Watch) : Prop where
  stamps : Stamps start w.sender
  episodes : Episodes w.sender w.seen

/-- An ack that updates the model may leave ProbeRTT when it arrives, and enter
it at the update. -/
theorem good_acked_of_updates {n bytes prior t clock : Nat} (hst : Stamps start b)
    (hep : Episodes b seen) (ht : start ≤ t) (hup : b.ackUpdates n bytes t = true)
    (hk : KeepsEpisodes ⟨b, seen⟩ (.acked n bytes prior t clock)) :
    Stamps start (b.onPacketAcked n bytes prior t clock) ∧
      Episodes (b.onPacketAcked n bytes prior t clock)
        (observe t (b.ackSampled n bytes t) (b.onPacketAcked n bytes prior t clock)
          (observe t b (b.arrived n bytes t) seen)) := by
  have hsam := sampled_ackSampled b n bytes t
  have hst' : Stamps start (b.ackSampled n bytes t) :=
    hst.of_sampled (inv_ackSampled b n bytes t hst.inv) hsam ht
  have hne := state_ackSampled b n bytes t hup
  have hout : ¬ (b.ackSampled n bytes t).core.inProbeRTT = true := mt (core_inProbeRTT _).mp hne
  obtain ⟨maxBw, hcore⟩ := core_processAck_of_stamps prior t clock hst' hne
  rw [← onPacketAcked_of_updates b n bytes prior t clock hup] at hcore
  have hin : (b.onPacketAcked n bytes prior t clock).core.inProbeRTT = true ↔ b.core.Expired t := by
    rw [hcore, ← hsam.expired_iff]
    exact Core.update_inProbeRTT hout
  refine ⟨hst'.update ht hcore, ?_⟩
  obtain ⟨hstays, hwin⟩ := arrived_spec b n bytes t
  have harr := hep.observe (t := t) hstays hwin
  have hsampled : Episodes (b.ackSampled n bytes t) (observe t b (b.arrived n bytes t) seen) :=
    ⟨harr.restores, harr.spaced, fun h => absurd h hout⟩
  by_cases hexp : b.core.Expired t
  · obtain ⟨hfrom, hlong, hfit⟩ := hk hup hexp
    have hstay : observe t b (b.arrived n bytes t) seen = seen := by
      rw [observe_of_no_entry hstays, if_neg]
      exact fun h => hfrom ((core_inProbeRTT b).mp h.1)
    have hint : b.config.probeRttInterval = probeRttIntervalConst := hst.inv.probeRttInterval
    rw [hstay] at hsampled ⊢
    refine hsampled.enter hout (hin.mpr hexp) (fun x hx => hint ▸ hlong x hx) ?_
    have hcap : (b.ackSampled n bytes t).core.cap = b.core.cap := by
      unfold Core.cap
      rw [hsam.config]
    rw [hcore]
    refine Core.le_expire_cwnd ((hsam.expired_iff t).mpr hexp) ?_
    rw [hsam.probeWindow_eq, hcap]
    exact hfit
  · have hfin : ¬ (b.onPacketAcked n bytes prior t clock).core.inProbeRTT = true := mt hin.mp hexp
    rw [observe_of_no_entry (fun h => absurd h hfin), if_neg (fun h => hout h.1)]
    exact ⟨harr.restores, harr.spaced, fun h => absurd h hfin⟩

variable {w : Watch}

/-- **An ack** under its condition keeps the episodes good. -/
theorem good_acked {n bytes prior t clock : Nat} (hw : w.Good start)
    (ht : start ≤ t) (hk : KeepsEpisodes w (.acked n bytes prior t clock)) :
    (w.step (.acked n bytes prior t clock)).Good start := by
  obtain ⟨b, seen⟩ := w
  obtain ⟨hst, hep⟩ := hw
  cases hup : b.ackUpdates n bytes t with
  | true =>
    have hseen : b.crossings (.acked n bytes prior t clock) seen =
        observe t (b.ackSampled n bytes t) (b.onPacketAcked n bytes prior t clock)
          (observe t b (b.arrived n bytes t) seen) := by
      simp [crossings, hup]
    obtain ⟨hst', hep'⟩ := good_acked_of_updates hst hep ht hup hk
    refine ⟨hst', ?_⟩
    change Episodes _ (b.crossings (.acked n bytes prior t clock) seen)
    rw [hseen]
    exact hep'
  | false =>
    have hseen : b.crossings (.acked n bytes prior t clock) seen =
        observe t b (b.onPacketAcked n bytes prior t clock) seen := by
      simp [crossings, hup]
    obtain ⟨hsam, hw, hin⟩ := onPacketAcked_of_not_updates b n bytes prior t clock hup
    have hinv := inv_step b (.acked n bytes prior t clock) hst.inv
    refine ⟨hst.of_sampled hinv hsam ht, ?_⟩
    change Episodes _ (b.crossings (.acked n bytes prior t clock) seen)
    rw [hseen]
    exact hep.observe hin hw

theorem good_lost {lost clock : Nat} (hw : w.Good start)
    (hk : KeepsEpisodes w (.lost lost clock)) : (w.step (.lost lost clock)).Good start := by
  obtain ⟨b, seen⟩ := w
  obtain ⟨hst, hep⟩ := hw
  obtain ⟨pc, pk, rec, hcore⟩ := core_onCongestionEvent b lost clock
  have hinv := inv_step b (.lost lost clock) hst.inv
  have hsame : (b.onCongestionEvent lost clock).core.inProbeRTT = b.core.inProbeRTT := by rw [hcore]
  have hseen : (Watch.step ⟨b, seen⟩ (.lost lost clock)).seen = seen := by
    change observe clock b (b.onCongestionEvent lost clock) seen = seen
    rw [observe_of_no_entry (fun h => hsame ▸ h), hsame, if_neg (fun h => h.2 h.1)]
  refine ⟨⟨hinv, ?_, ?_⟩, ?_⟩
  · change (b.onCongestionEvent lost clock).core.probeRttMinStamp = start
    rw [hcore]
    exact hst.probeRttMinStamp
  · change start ≤ (b.onCongestionEvent lost clock).core.minRttStamp
    rw [hcore]
    exact hst.minRttStamp
  · rw [hseen]
    refine ⟨hep.restores, hep.spaced, fun h => ?_⟩
    change (b.onCongestionEvent lost clock).core.inProbeRTT = true at h
    rw [hsame] at h
    obtain ⟨t, win, rest, hrest, -⟩ := hep.window h
    have hin : b.state = .probeRTT := (core_inProbeRTT b).mp h
    -- a loss in ProbeRTT does not enter recovery, so it is subtracted from the window itself
    have hlw : b.lossWindow = b.cwnd := if_neg (fun hc => hc.2.2 hin)
    have hentry : entryWindow seen = win := congrArg entryWindow hrest
    have hfit := hk hin
    simp only [hentry] at hfit
    refine ⟨t, win, rest, hrest, ?_⟩
    change win ≤ (b.onCongestionEvent lost clock).core.cwnd
    rw [hcore, hlw]
    simp only
    split at hfit
    · next hgt =>
      rw [if_pos hgt]
      omega
    · next hle =>
      rw [if_neg hle]
      exact hfit

/-- A call that neither enters ProbeRTT nor touches the window and the stamps
keeps the episodes good. -/
theorem good_of_frame {op : Op} (hw : w.Good start)
    (hseen : w.sender.crossings op w.seen = observe op.time w.sender (w.sender.step op) w.seen)
    (hin : (w.sender.step op).core.inProbeRTT = true → w.sender.core.inProbeRTT = true)
    (hcwnd : (w.sender.step op).core.cwnd = w.sender.core.cwnd)
    (hmin : (w.sender.step op).core.probeRttMinStamp = w.sender.core.probeRttMinStamp)
    (hrtt : (w.sender.step op).core.minRttStamp = w.sender.core.minRttStamp) :
    (w.step op).Good start := by
  refine ⟨⟨inv_step _ op hw.stamps.inv, hmin.trans hw.stamps.probeRttMinStamp, ?_⟩, ?_⟩
  · rw [Watch.step, hrtt]
    exact hw.stamps.minRttStamp
  · rw [Watch.step, hseen]
    exact hw.episodes.observe hin hcwnd

/-- **One call** under its condition keeps the episodes good. -/
theorem good_step {op : Op} (hw : w.Good start) (ht : start ≤ op.time)
    (hreg : op.Regular) (hk : KeepsEpisodes w op) : (w.step op).Good start := by
  cases op with
  | sent sentTime n bytes =>
    have hcore : (w.sender.step (.sent sentTime n bytes)).core = _ :=
      core_onPacketSent w.sender sentTime n bytes
    refine good_of_frame hw rfl (fun h => ?_) ?_ ?_ ?_
    · rw [hcore] at h
      exact h
    all_goals rw [hcore]
  | acked n bytes prior t clock => exact good_acked hw ht hk
  | lost bytes clock => exact good_lost hw hk
  | pacing t =>
    have hcore : (w.sender.step (.pacing t)).core = _ := core_maybeExitProbeRTT w.sender t
    refine good_of_frame hw rfl (fun h => ?_) ?_ ?_ ?_
    · rw [hcore] at h
      exact Core.leave_stays h
    all_goals rw [hcore]; rfl
  | timeout | setMaxDatagramSize => exact hreg.elim

/-! ## whole runs -/

/-- The crossings of a run of a new sender, the latest first. -/
def episodes (mds now initNow : Nat) (ops : List Op) : List Crossing :=
  (Machine.run Watch.step { sender := newBBRv3Sender mds now initNow } ops).seen

/-- Two large acks, one that enters ProbeRTT at six seconds, and one that enters
it again long after the sender has left. -/
def longRest : List Op :=
  [.sent 0 1 1200, .sent 0 2 9000000, .sent 0 3 9000000, .sent 0 4 9000000,
    .acked 1 1200 1200 1000000000 0, .acked 2 9000000 9000000 2000000000 0,
    .acked 3 9000000 0 6000000000 0, .pacing 6400000000, .acked 4 9000000 0 12000000000 0]

/-- Four packets; the ack of the third enters ProbeRTT at six seconds, and the ack
of the fourth comes 600 ms after the sender has left. -/
def shortBurst : List Op :=
  [.sent 0 1 1200, .sent 0 2 1200, .sent 0 3 60, .sent 0 4 60, .acked 1 1200 2520 1000000000 0,
    .acked 2 1200 1320 2000000000 0, .acked 3 60 120 6000000000 0, .pacing 6400000000,
    .acked 4 60 60 7000000000 0]

end MoqQuic.BBRv3Sender
