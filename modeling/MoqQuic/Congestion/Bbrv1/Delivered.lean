import Mathlib.Data.List.Induction
import MoqQuic.Congestion.Bbrv1
import MoqQuic.Lib.Machine

/-!
# MoqQuic.Congestion.Bbrv1.Delivered

The bytes that the BBRv1 sender counts as delivered, against the entries of `ackinfo` that they
are the sum of.

The filter takes the bytes of the expired entries from `delivered`, but drops everything up to
the last expired entry. The two agree when no entry that counts stands unexpired before an expired
one (`InOrder`), as it does after the time of an ACK has stepped back.
-/

namespace MoqQuic.BBRv1Sender

open Machine

variable (b : BBRv1Sender)

/-! ## what the other parts of an ACK leave alone -/

/-- What is changed by sending and by acknowledgements only. -/
def book : (Nat → Option Time) × Int × List Bbrv1AckInfo := (b.sentTimes, b.delivered, b.ackinfo)

def SameBook (b' : BBRv1Sender) : Prop := b'.book = b.book

theorem sameBook_mayExitProbeRTT (t : Time) : b.SameBook (b.mayExitProbeRTT t) :=
  iteInduction (fun _ => rfl) fun _ => rfl

theorem book_recordAck (n : Nat) (bytes : Int) (t : Time) : (b.recordAck n bytes t).book =
    (Function.update b.sentTimes n none, b.delivered + bytes, b.ackinfo ++ [⟨bytes, t⟩]) := by
  unfold recordAck
  extract_lets rtt b₁ b₂ b₃
  have h₂ : b₁.SameBook b₂ := b₁.sameBook_mayExitProbeRTT t
  have h₃ : b₁.SameBook b₃ := iteInduction (fun _ => h₂) fun _ => h₂
  exact congrArg (fun book => (book.1, book.2.1 + bytes, book.2.2 ++ [⟨bytes, t⟩])) h₃

theorem sameBook_exitRecover : b.SameBook b.exitRecover := by
  unfold exitRecover
  dsimp only
  split <;> rfl

theorem sameBook_endRound (rate : Int) (t : Time) : b.SameBook (b.endRound rate t) := by
  unfold endRound
  extract_lets b₁ b₂ b₃ b₄ b₅
  have h₁ : b.SameBook b₁ := iteInduction (fun _ => b.sameBook_exitRecover) fun _ => rfl
  have h₃ : b.SameBook b₃ := iteInduction (fun _ => h₁) fun _ => h₁
  have h₅ : b.SameBook b₅ := iteInduction (fun _ => h₃) fun _ => h₃
  exact iteInduction (fun _ => h₅) fun _ => h₅

theorem sameBook_updateStateOnAck (rate prior : Int) (t : Time) :
    b.SameBook (b.updateStateOnAck rate prior t) := by
  unfold updateStateOnAck
  extract_lets b₁ appLimited b₂
  have h₁ : b.SameBook b₁ := iteInduction (fun _ => rfl) fun _ => rfl
  have h₂ : b.SameBook b₂ := iteInduction (fun _ => h₁) fun _ => h₁
  exact iteInduction (fun _ => h₂) fun _ => h₂

/-- The filter behind the test for PROBE_RTT, which both calls run. -/
def filtered (t : Time) : BBRv1Sender :=
  if b.state = .probeRTT then b else (b.updateLastbandwidthFilter t).2

theorem book_onPacketAcked (n : Nat) (bytes prior : Int) (t : Time) :
    (b.onPacketAcked n bytes prior t).book = ((b.recordAck n bytes t).filtered t).book := by
  unfold onPacketAcked filtered
  dsimp only
  split
  · rfl
  · refine (sameBook_updateStateOnAck _ _ _ t).trans ?_
    split
    · exact sameBook_endRound _ _ t
    · rfl

theorem hasPacingBudget_eq (now : Time) :
    (b.hasPacingBudget now).2 = (b.mayExitProbeRTT now).filtered now := by
  unfold hasPacingBudget filtered
  dsimp only
  split <;> rfl

/-! ## the filter -/

/-- The bytes of the entries. -/
def total (infos : List Bbrv1AckInfo) : Int := (infos.map Bbrv1AckInfo.ackedBytes).sum

variable {t : Time} {w : Duration} {infos : List Bbrv1AckInfo}

/-- No entry with bytes stands before an expired one without having expired itself. -/
def InOrder (t : Time) (w : Duration) (infos : List Bbrv1AckInfo) : Prop :=
  infos.Pairwise fun info info' =>
    t - info'.recordTime > w → t - info.recordTime > w ∨ info.ackedBytes = 0

instance (t : Time) (w : Duration) (infos : List Bbrv1AckInfo) : Decidable (InOrder t w infos) :=
  inferInstanceAs (Decidable (infos.Pairwise _))

theorem expired_append (info : Bbrv1AckInfo) (i : Nat) (acc : Nat × Int) :
    expired t w i (infos ++ [info]) acc =
      let before := expired t w i infos acc
      if t - info.recordTime > w then
        (i + infos.length + 1, before.2 + info.ackedBytes) else before := by
  induction infos generalizing i acc with
  | nil => rfl
  | cons first infos ih =>
    simp only [List.cons_append, expired, ih, List.length_cons]
    congr 2
    omega

/-- What has not expired still counts, at least as much as what is kept. -/
theorem expired_le (hsize : ∀ info ∈ infos, 0 ≤ info.ackedBytes) :
    (expired t w 0 infos (0, 0)).1 ≤ infos.length ∧ (expired t w 0 infos (0, 0)).2 ≤ total infos ∧
      ((expired t w 0 infos (0, 0)).2 = total infos ↔
        ∀ info ∈ infos, t - info.recordTime > w ∨ info.ackedBytes = 0) := by
  induction infos using List.reverseRecOn with
  | nil => simp [expired, total]
  | append_singleton infos info ih =>
    obtain ⟨hle, hsum, hall⟩ := ih fun info' h => hsize info' (by simp [h])
    have hlast := hsize info (by simp)
    have htotal : total (infos ++ [info]) = total infos + info.ackedBytes := by simp [total]
    simp only [expired_append, htotal, List.forall_mem_append, List.forall_mem_singleton,
      ← hall, List.length_append, List.length_singleton]
    split <;> refine ⟨?_, ?_, ?_⟩ <;> grind

/-- **The filter is exact** when the entries expire in their order, and then only. -/
theorem total_drop_expired_iff (hsize : ∀ info ∈ infos, 0 ≤ info.ackedBytes) :
    total infos - (expired t w 0 infos (0, 0)).2 =
      total (infos.drop (expired t w 0 infos (0, 0)).1) ↔ InOrder t w infos := by
  induction infos using List.reverseRecOn with
  | nil => simp [expired, total, InOrder]
  | append_singleton infos info ih =>
    have hsize' : ∀ info ∈ infos, 0 ≤ info.ackedBytes := fun info' h => hsize info' (by simp [h])
    obtain ⟨hle, -, hall⟩ := expired_le (t := t) (w := w) hsize'
    have htotal : ∀ infos', total (infos' ++ [info]) = total infos' + info.ackedBytes := by
      simp [total]
    rw [InOrder, List.pairwise_append, expired_append]
    by_cases hexp : t - info.recordTime > w
    · -- everything is dropped
      have hdrop : (infos ++ [info]).drop (0 + infos.length + 1) = [] := by simp
      simp only [hexp, if_true, hdrop, htotal]
      constructor
      · intro heq
        have hsum := hall.mp (by simp [total] at heq ⊢; omega)
        refine ⟨List.pairwise_of_forall_mem_list fun a ha _ _ _ => hsum a ha, by simp, ?_⟩
        simpa using fun a ha _ => hsum a ha
      · rintro ⟨-, -, hcross⟩
        have hsum := hall.mpr fun a ha => hcross a ha info (by simp) hexp
        simp [total] at hsum ⊢
        omega
    · rw [← InOrder, ← ih hsize']
      simp only [hexp, if_false, List.drop_append_of_le_length hle, htotal]
      simp [hexp]
      omega

/-! ## runs -/

/-- The calls. -/
inductive Op where
  | onPacketSent (sentTime : Time) (packetNumber : Nat) (bytes : Int)
  | onPacketAcked (number : Nat) (ackedBytes priorInFlight : Int) (eventTime : Time)
  | onCongestionEvent
  | onRetransmissionTimeout (packetsRetransmitted : Bool) (now now' : Time)
  | setMaxDatagramSize (size : Int) (positive : 0 < size)
  | hasPacingBudget (now : Time)

def step : Op → BBRv1Sender
  | .onPacketSent sentTime packetNumber bytes => b.onPacketSent sentTime packetNumber bytes
  | .onPacketAcked number ackedBytes priorInFlight eventTime =>
    b.onPacketAcked number ackedBytes priorInFlight eventTime
  | .onCongestionEvent => b.onCongestionEvent
  | .onRetransmissionTimeout packetsRetransmitted now now' =>
    b.onRetransmissionTimeout packetsRetransmitted now now'
  | .setMaxDatagramSize size _ => b.setMaxDatagramSize size
  | .hasPacingBudget now => (b.hasPacingBudget now).2

/-- A call in which no negative size is acknowledged. -/
abbrev SizedOp : Type :=
  { op : Op // ∀ n bytes prior t, op = .onPacketAcked n bytes prior t → 0 ≤ bytes }

/-- The entries expire in order when the filter runs. -/
def filtersInOrder (t : Time) : Prop :=
  b.state = .probeRTT ∨ InOrder t b.lastNewMinRTT b.ackinfo

/-- The condition under which the count stays exact, on the state before the call. -/
def KeepsOrder : Op → Prop
  | .onPacketAcked n bytes _ t => (b.recordAck n bytes t).filtersInOrder t
  | .hasPacingBudget now => (b.mayExitProbeRTT now).filtersInOrder now
  | _ => True

/-- What is delivered is what the entries say. -/
def Exact : Prop := b.delivered = total b.ackinfo

def Sized : Prop := ∀ info ∈ b.ackinfo, 0 ≤ info.ackedBytes

variable {b}

theorem filtered_exact_iff (hsized : b.Sized) (hexact : b.Exact) :
    (b.filtered t).Sized ∧ ((b.filtered t).Exact ↔ b.filtersInOrder t) := by
  unfold filtered filtersInOrder
  split
  · next hprobe => simp [hsized, hexact, hprobe]
  · next hprobe =>
    refine ⟨fun info h => hsized info (List.mem_of_mem_drop h), ?_⟩
    rw [← total_drop_expired_iff hsized, Exact, ← hexact]
    simp [updateLastbandwidthFilter, hprobe]

theorem of_book {b' : BBRv1Sender} (hbook : b'.book = b.book) :
    (b'.Sized ↔ b.Sized) ∧ (b'.Exact ↔ b.Exact) := by
  simp only [book, Prod.mk.injEq] at hbook
  simp [Sized, Exact, hbook]

theorem exact_step_iff (hsized : b.Sized) (hexact : b.Exact) (op : SizedOp) :
    (b.step op).Sized ∧ ((b.step op).Exact ↔ b.KeepsOrder op) := by
  obtain ⟨op, hop⟩ := op
  cases op with
  | onPacketSent | onCongestionEvent | setMaxDatagramSize =>
    exact ⟨hsized, iff_of_true hexact trivial⟩
  | onRetransmissionTimeout retransmitted now now' =>
    cases retransmitted with
    | true => exact ⟨List.forall_mem_nil _, iff_of_true rfl trivial⟩
    | false => exact ⟨hsized, iff_of_true hexact trivial⟩
  | onPacketAcked n bytes prior t =>
    have hrecord := b.book_recordAck n bytes t
    simp only [book, Prod.mk.injEq] at hrecord
    have hbook := of_book (b.book_onPacketAcked n bytes prior t)
    have hfiltered := filtered_exact_iff (b := b.recordAck n bytes t) (t := t) ?_ ?_
    · exact ⟨hbook.1.mpr hfiltered.1, hbook.2.trans hfiltered.2⟩
    · rw [Sized, hrecord.2.2]
      exact List.forall_mem_append.mpr ⟨hsized, by simpa using hop n bytes prior t rfl⟩
    · rw [Exact, hrecord.2.1, hrecord.2.2, hexact]
      simp [total]
  | hasPacingBudget now =>
    have hexit := of_book (b.sameBook_mayExitProbeRTT now)
    have hfiltered := filtered_exact_iff (t := now) (hexit.1.mpr hsized) (hexit.2.mpr hexact)
    rwa [← hasPacingBudget_eq] at hfiltered

/-- **Delivered bytes**: along a run, whatever the times of its calls, the bytes that count as
delivered are those of the entries exactly if no entry with bytes is dropped before it has
expired. -/
theorem delivered_exact_iff (size : Int) (now now' : Time) (ops : List SizedOp) :
    (∀ b ∈ states (fun b (op : SizedOp) => b.step op) (newBBRv1Sender size now now') ops,
        b.delivered = total b.ackinfo) ↔
      EachStep (fun b (op : SizedOp) => b.step op) (fun b op => b.KeepsOrder op)
        (newBBRv1Sender size now now') ops :=
  forall_states_iff (I := Sized) (P := Exact)
    (fun _ op hsized hexact => (exact_step_iff hsized hexact op).1)
    (fun _ op hsized hexact => (exact_step_iff hsized hexact op).2) ops _
    (by simp [Sized, newBBRv1Sender]) rfl

/-- An ACK of 1000 bytes. -/
def ackAt (n : Nat) (t : Time) : SizedOp := ⟨.onPacketAcked n 1000 0 t, by grind⟩

def pacingAt (t : Time) : SizedOp := ⟨.hasPacingBudget t, by simp⟩

/-- The second ACK is processed at an earlier time; its entry expires first and takes the other one
with it, whose bytes stay counted. -/
theorem delivered_afterStepBack :
    let b := run (fun b (op : SizedOp) => b.step op) (newBBRv1Sender 1200 (12 * second) (12 * second))
      [ackAt 1 (12 * second), ackAt 2 (11 * second), pacingAt (21500 * millisecond)]
    b.delivered = 1000 ∧ b.ackinfo = [] := by
  decide +kernel

theorem delivered_exact_inOrder :
    ∀ b ∈ states (fun b (op : SizedOp) => b.step op) (newBBRv1Sender 1200 (12 * second) (12 * second))
      [ackAt 1 (12 * second), pacingAt (23 * second)], b.delivered = total b.ackinfo :=
  (delivered_exact_iff _ _ _ _).mpr
    ⟨.inr (by decide +kernel), .inr (by decide +kernel), trivial⟩

end MoqQuic.BBRv1Sender
