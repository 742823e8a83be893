import Mathlib.Algebra.Order.BigOperators.Group.List
import MoqQuic.Lib.Machine
import MoqQuic.Quic.FlowControl.Changes

/-!
# MoqQuic.Quic.FlowControl.Conservation

The flow controller of a connection with any number of streams.

The controllers are called in any order and at any time. `Moves` says once what a call on a stream
does to the controller of the stream and to the one of the connection; the sums over the streams and
the limits of both levels follow from that.

The controllers do not check their callers. Who reads must not read more than was received, and who
sends must not send more than the windows allow. A violation of the limit of a stream raises the
count of the stream but not the one of the connection; the error closes the connection.
-/

namespace MoqQuic.Quic

open BaseFlowController Machine

structure Flows where
  connection : ConnectionFlowController
  streams : List StreamFlowController := []
  /-- an error was returned -/
  failed : Bool := false
  deriving DecidableEq, Repr

namespace Flows

def new (receiveWindow maxReceiveWindow : Nat) : Flows where
  connection := .new receiveWindow maxReceiveWindow

/-- The calls, those on a stream with its position. -/
inductive Op where
  | openStream (streamID receiveWindow maxReceiveWindow initialSendWindow : Nat)
  | updateHighestReceived (i offset : Nat) (final : Bool) (now : Time)
  | addBytesRead (i n : Nat)
  | abandon (i : Nat)
  | getWindowUpdate (i : Nat) (now : Time) (rtt : Duration) (allowed allowed' : Bool)
  | addBytesSent (i n : Nat)
  | updateSendWindow (i offset : Nat)
  | getConnectionWindowUpdate (now : Time) (rtt : Duration) (allowed : Bool)
  | updateConnectionSendWindow (offset : Nat)
  deriving DecidableEq, Repr

/-- A call on a stream: what it makes of the controllers, and whether it returns an error. -/
def onStream (f : Flows) (i : Nat) (call : StreamFlow → StreamFlow × Bool) : Flows :=
  match f.streams[i]? with
  | none => f
  | some stream =>
    let (c, err) := call ⟨stream, f.connection⟩
    { connection := c.connection
      streams := f.streams.set i c.stream
      failed := f.failed || err }

def step (f : Flows) : Op → Flows
  | .openStream streamID receiveWindow maxReceiveWindow initialSendWindow =>
    let c := newStreamFlowController streamID f.connection receiveWindow maxReceiveWindow
      initialSendWindow
    { f with streams := f.streams ++ [c.stream] }
  | .updateHighestReceived i offset final now => f.onStream i fun c =>
    let (c, err) := c.updateHighestReceived offset final now
    (c, err.isSome)
  | .addBytesRead i n => f.onStream i fun c => ((c.addBytesRead n).2.2, false)
  | .abandon i => f.onStream i fun c => (c.abandon, false)
  | .getWindowUpdate i now rtt allowed allowed' => f.onStream i fun c =>
    ((c.getWindowUpdate now rtt allowed allowed').2, false)
  | .addBytesSent i n => f.onStream i fun c => (c.addBytesSent n, false)
  | .updateSendWindow i offset => f.onStream i fun c => ((c.updateSendWindow offset).2, false)
  | .getConnectionWindowUpdate now rtt allowed =>
    { f with connection := (f.connection.getWindowUpdate now rtt allowed).2 }
  | .updateConnectionSendWindow offset =>
    { f with connection := ⟨(f.connection.toBaseFlowController.updateSendWindow offset).2⟩ }

/-- Nobody reads more than was received, and nobody sends more than the windows allow. -/
def Fair (f : Flows) : Op → Prop
  | .addBytesRead i n => ∀ c ∈ f.streams[i]?, c.bytesRead + n ≤ c.highestReceived
  | .addBytesSent i n => ∀ c ∈ f.streams[i]?, n ≤ StreamFlow.sendWindowSize ⟨c, f.connection⟩
  | _ => True

end Flows

/-! ## what a call does -/

namespace BaseFlowController

/-- The window does not shrink, and its size stays within the maximum. -/
structure Widens (a b : BaseFlowController) : Prop where
  receiveWindow : a.receiveWindow ≤ b.receiveWindow
  receiveWindowSize : a.receiveWindowSize ≤ a.maxReceiveWindowSize →
    b.receiveWindowSize ≤ b.maxReceiveWindowSize

theorem Widens.refl (a : BaseFlowController) : Widens a a := ⟨le_rfl, id⟩

theorem Widens.trans {a b c : BaseFlowController} (h : Widens a b) (h' : Widens b c) : Widens a c :=
  ⟨h.receiveWindow.trans h'.receiveWindow, h'.receiveWindowSize ∘ h.receiveWindowSize⟩

variable {a b : BaseFlowController}

theorem Raised.widens (h : Raised a b) : Widens a b := by
  refine ⟨h.receiveWindow.ge, fun hle => ?_⟩
  rw [h.receiveWindowSize, h.maxReceiveWindowSize]
  exact hle

theorem Tuned.widens (h : Tuned a b) : Widens a b := by
  refine ⟨h.receiveWindow_le, fun hle => ?_⟩
  rw [h.maxReceiveWindowSize]
  cases h.le_max with
  | inl heq => exact heq.trans_le hle
  | inr hmax => exact hmax

end BaseFlowController

namespace StreamFlow

variable {c c' : StreamFlow}

/-- What a call on a stream does; `failed` says that it returns an error. -/
structure Moves (c c' : StreamFlow) (failed : Bool) : Prop where
  bytesSent : c'.connection.bytesSent + c.stream.bytesSent =
    c.connection.bytesSent + c'.stream.bytesSent
  bytesRead : c'.connection.bytesRead + c.stream.bytesRead =
    c.connection.bytesRead + c'.stream.bytesRead
  highestReceived : failed = false → c'.connection.highestReceived + c.stream.highestReceived =
    c.connection.highestReceived + c'.stream.highestReceived
  read : c.stream.bytesRead ≤ c.stream.highestReceived →
    c'.stream.bytesRead ≤ c'.stream.highestReceived
  sent : c.stream.bytesSent ≤ c.stream.sendWindow → c'.stream.bytesSent ≤ c'.stream.sendWindow
  connectionSent : c.connection.bytesSent ≤ c.connection.sendWindow →
    c'.connection.bytesSent ≤ c'.connection.sendWindow
  window : failed = false → c.stream.highestReceived ≤ c.stream.receiveWindow →
    c'.stream.highestReceived ≤ c'.stream.receiveWindow
  connectionWindow : failed = false →
    c.connection.highestReceived ≤ c.connection.receiveWindow →
      c'.connection.highestReceived ≤ c'.connection.receiveWindow
  widens : Widens c.stream.toBaseFlowController c'.stream.toBaseFlowController
  connectionWidens : Widens c.connection.toBaseFlowController c'.connection.toBaseFlowController

theorem moves_updateHighestReceived (c : StreamFlow) (offset : Nat) (final : Bool) (now : Time) :
    Moves c (c.updateHighestReceived offset final now).1
      (c.updateHighestReceived offset final now).2.isSome := by
  obtain ⟨hstream, hconnection⟩ := c.raised_updateHighestReceived offset final now
  have hreceived : (c.updateHighestReceived offset final now).2.isSome = false →
      Received c (c.updateHighestReceived offset final now).1 offset final := by
    intro hok
    rw [Option.isSome_eq_false_iff, Option.isNone_iff_eq_none] at hok
    exact received_updateHighestReceived (Prod.ext rfl hok)
  refine ⟨?_, ?_, fun hok => (hreceived hok).balance, fun hle => ?_, fun hle => ?_, fun hle => ?_,
    fun hok hle => ?_, fun hok hle => ?_, hstream.widens, hconnection.widens⟩
  · rw [hstream.bytesSent, hconnection.bytesSent]
  · rw [hstream.bytesRead, hconnection.bytesRead]
  · rw [hstream.bytesRead]
    exact hle.trans hstream.highestReceived_le
  · rw [hstream.bytesSent, hstream.sendWindow]
    exact hle
  · rw [hconnection.bytesSent, hconnection.sendWindow]
    exact hle
  · rw [hstream.receiveWindow]
    cases (hreceived hok).streamWindow with
    | inl hsame => exact hsame.trans_le hle
    | inr hwindow => exact hwindow
  · rw [hconnection.receiveWindow]
    cases (hreceived hok).connectionWindow with
    | inl hsame => exact hsame.trans_le hle
    | inr hwindow => exact hwindow

theorem moves_getWindowUpdate (c : StreamFlow) (now : Time) (rtt : Duration)
    (allowed allowed' : Bool) :
    Moves c (c.getWindowUpdate now rtt allowed allowed').2 false := by
  obtain ⟨hstream, hconnection, -⟩ := c.tuned_getWindowUpdate now rtt allowed allowed'
  refine ⟨?_, ?_, fun _ => ?_, fun hle => ?_, fun hle => ?_, fun hle => ?_, fun _ hle => ?_,
    fun _ hle => ?_, hstream.widens, hconnection.widens⟩
  · rw [hstream.bytesSent, hconnection.bytesSent]
  · rw [hstream.bytesRead, hconnection.bytesRead]
  · rw [hstream.highestReceived, hconnection.highestReceived]
  · rw [hstream.bytesRead, hstream.highestReceived]
    exact hle
  · rw [hstream.bytesSent, hstream.sendWindow]
    exact hle
  · rw [hconnection.bytesSent, hconnection.sendWindow]
    exact hle
  · rw [hstream.highestReceived]
    exact hle.trans hstream.receiveWindow_le
  · rw [hconnection.highestReceived]
    exact hle.trans hconnection.receiveWindow_le

theorem moves_addBytesRead {n : Nat} (hn : c.stream.bytesRead + n ≤ c.stream.highestReceived) :
    Moves c (c.addBytesRead n).2.2 false where
  bytesSent := rfl
  bytesRead := by
    simp only [addBytesRead, ConnectionFlowController.addBytesRead, BaseFlowController.addBytesRead]
    omega
  highestReceived _ := rfl
  read _ := hn
  sent := id
  connectionSent := id
  window _ := id
  connectionWindow _ := id
  widens := ⟨le_rfl, id⟩
  connectionWidens := ⟨le_rfl, id⟩

/-- **`Abandon`** reads what was not read. -/
theorem abandon_eq (hread : c.stream.bytesRead ≤ c.stream.highestReceived) :
    c.abandon = (c.addBytesRead (c.stream.highestReceived - c.stream.bytesRead)).2.2 := by
  have hstream : c.abandon.stream =
      (c.addBytesRead (c.stream.highestReceived - c.stream.bytesRead)).2.2.stream := by
    rw [abandon_stream, addBytesRead]
    simp only [Nat.add_sub_cancel' hread]
  have hconnection : c.abandon.connection =
      (c.addBytesRead (c.stream.highestReceived - c.stream.bytesRead)).2.2.connection :=
    c.abandon_connection
  calc c.abandon = ⟨c.abandon.stream, c.abandon.connection⟩ := rfl
    _ = _ := by rw [hstream, hconnection]

theorem moves_abandon (hread : c.stream.bytesRead ≤ c.stream.highestReceived) :
    Moves c c.abandon false := by
  rw [abandon_eq hread]
  exact moves_addBytesRead (Nat.add_sub_cancel' hread).le

theorem moves_addBytesSent {n : Nat} (hn : n ≤ c.sendWindowSize) :
    Moves c (c.addBytesSent n) false := by
  rw [sendWindowSize, le_min_iff] at hn
  refine
    { bytesSent := ?_
      bytesRead := rfl
      highestReceived := fun _ => rfl
      read := id
      sent := fun hle => ?_
      connectionSent := fun hle => ?_
      window := fun _ => id
      connectionWindow := fun _ => id
      widens := ⟨le_rfl, id⟩
      connectionWidens := ⟨le_rfl, id⟩ }
  · simp only [addBytesSent, BaseFlowController.addBytesSent]
    omega
  · have hwindow := hn.1
    rw [BaseFlowController.sendWindowSize, if_neg (not_lt.mpr hle)] at hwindow
    simp only [addBytesSent]
    omega
  · have hwindow := hn.2
    rw [BaseFlowController.sendWindowSize, if_neg (not_lt.mpr hle)] at hwindow
    simp only [addBytesSent, BaseFlowController.addBytesSent]
    omega

theorem moves_updateSendWindow (c : StreamFlow) (offset : Nat) :
    Moves c (c.updateSendWindow offset).2 false := by
  simp only [updateSendWindow, BaseFlowController.updateSendWindow]
  split
  · rename_i hlt
    exact ⟨rfl, rfl, fun _ => rfl, id, fun hle => hle.trans hlt.le, id, fun _ => id, fun _ => id,
      ⟨le_rfl, id⟩, .refl _⟩
  · exact ⟨rfl, rfl, fun _ => rfl, id, id, id, fun _ => id, fun _ => id, .refl _, .refl _⟩

end StreamFlow

/-! ## sums over the streams -/

namespace Flows

open StreamFlow (Moves)

variable {f f' : Flows}

/-- One element of a list is replaced. -/
theorem sum_map_set {α : Type} (g : α → Nat) (b : α) :
    ∀ {as : List α} {i : Nat} {a : α}, as[i]? = some a →
      ((as.set i b).map g).sum + g a = (as.map g).sum + g b
  | [], i, a, h => by simp at h
  | x :: as, 0, a, h => by
    rw [List.getElem?_cons_zero, Option.some.injEq] at h
    simp only [h, List.set_cons_zero, List.map_cons, List.sum_cons]
    omega
  | x :: as, i + 1, a, h => by
    rw [List.getElem?_cons_succ] at h
    have ih := sum_map_set g b h
    simp only [List.set_cons_succ, List.map_cons, List.sum_cons]
    omega

/-- What is kept by every call of a fair caller. -/
structure Balanced (f : Flows) : Prop where
  bytesSent : f.connection.bytesSent = (f.streams.map (·.bytesSent)).sum
  bytesRead : f.connection.bytesRead = (f.streams.map (·.bytesRead)).sum
  highestReceived : f.failed = false →
    f.connection.highestReceived = (f.streams.map (·.highestReceived)).sum
  read : ∀ c ∈ f.streams, c.bytesRead ≤ c.highestReceived
  sent : ∀ c ∈ f.streams, c.bytesSent ≤ c.sendWindow
  connectionSent : f.connection.bytesSent ≤ f.connection.sendWindow
  window : f.failed = false → ∀ c ∈ f.streams, c.highestReceived ≤ c.receiveWindow
  connectionWindow : f.failed = false → f.connection.highestReceived ≤ f.connection.receiveWindow

/-- The controllers that there are keep their windows. -/
structure Widens (f f' : Flows) : Prop where
  connection : BaseFlowController.Widens f.connection.toBaseFlowController
    f'.connection.toBaseFlowController
  streams : ∀ (i : Nat) (c : StreamFlowController), f.streams[i]? = some c →
    ∃ c', f'.streams[i]? = some c' ∧
      BaseFlowController.Widens c.toBaseFlowController c'.toBaseFlowController

theorem Widens.refl (f : Flows) : Widens f f :=
  ⟨.refl _, fun _ c hc => ⟨c, hc, .refl _⟩⟩

theorem Widens.trans {f'' : Flows} (h : Widens f f') (h' : Widens f' f'') : Widens f f'' := by
  refine ⟨h.connection.trans h'.connection, fun i c hc => ?_⟩
  obtain ⟨c', hc', hwidens⟩ := h.streams i c hc
  obtain ⟨c'', hc'', hwidens'⟩ := h'.streams i c' hc'
  exact ⟨c'', hc'', hwidens.trans hwidens'⟩

theorem forall_mem_set {P : StreamFlowController → Prop} {streams : List StreamFlowController}
    {i : Nat} {c c' : StreamFlowController} (hc : streams[i]? = some c) (h : P c → P c')
    (hall : ∀ c ∈ streams, P c) : ∀ c ∈ streams.set i c', P c := by
  intro d hd
  obtain hd | rfl := List.mem_or_eq_of_mem_set hd
  · exact hall d hd
  · exact h (hall c (List.mem_of_getElem? hc))

/-- **A call on a stream** keeps the sums and the limits. -/
theorem Balanced.onStream (h : Balanced f) {i : Nat} {call : StreamFlow → StreamFlow × Bool}
    (hmoves : ∀ c, f.streams[i]? = some c →
      Moves ⟨c, f.connection⟩ (call ⟨c, f.connection⟩).1 (call ⟨c, f.connection⟩).2) :
    Balanced (f.onStream i call) ∧ f.Widens (f.onStream i call) := by
  rw [Flows.onStream]
  cases hstream : f.streams[i]? with
  | none => exact ⟨h, .refl f⟩
  | some c =>
    have hm := hmoves c hstream
    simp only
    generalize hcall : call ⟨c, f.connection⟩ = r at hm
    obtain ⟨c', err⟩ := r
    have hsum := fun g => sum_map_set g c'.stream hstream
    have hnot : (f.failed || err) = false → f.failed = false ∧ err = false :=
      Bool.or_eq_false_iff.mp
    refine ⟨⟨?_, ?_, fun hok => ?_, forall_mem_set hstream hm.read h.read,
      forall_mem_set hstream hm.sent h.sent, hm.connectionSent h.connectionSent,
      fun hok => forall_mem_set hstream (hm.window (hnot hok).2) (h.window (hnot hok).1),
      fun hok => hm.connectionWindow (hnot hok).2 (h.connectionWindow (hnot hok).1)⟩,
      hm.connectionWidens, fun j d hd => ?_⟩
    · have hset := hsum (·.bytesSent)
      have hmoved := hm.bytesSent
      have hbefore := h.bytesSent
      simp only at hset hmoved hbefore ⊢
      omega
    · have hset := hsum (·.bytesRead)
      have hmoved := hm.bytesRead
      have hbefore := h.bytesRead
      simp only at hset hmoved hbefore ⊢
      omega
    · have hset := hsum (·.highestReceived)
      have hmoved := hm.highestReceived (hnot hok).2
      have hbefore := h.highestReceived (hnot hok).1
      simp only at hset hmoved hbefore ⊢
      omega
    · simp only [List.getElem?_set]
      split
      · rename_i heq
        subst heq
        rw [hstream] at hd
        obtain rfl := Option.some.inj hd
        obtain ⟨hlt, -⟩ := List.getElem?_eq_some_iff.mp hstream
        exact ⟨c'.stream, by rw [if_pos hlt], hm.widens⟩
      · exact ⟨d, hd, .refl _⟩

/-- **A call on the connection** that leaves what it counts. -/
theorem Balanced.setConnection (h : Balanced f) {connection : ConnectionFlowController}
    (hsent : connection.bytesSent = f.connection.bytesSent)
    (hwindow : f.connection.sendWindow ≤ connection.sendWindow)
    (hread : connection.bytesRead = f.connection.bytesRead)
    (hreceived : connection.highestReceived = f.connection.highestReceived)
    (hwidens : BaseFlowController.Widens f.connection.toBaseFlowController
      connection.toBaseFlowController) :
    Balanced { f with connection := connection } ∧
      f.Widens { f with connection := connection } := by
  refine ⟨{ h with
    bytesSent := hsent.trans h.bytesSent
    bytesRead := hread.trans h.bytesRead
    highestReceived := fun hok => hreceived.trans (h.highestReceived hok)
    connectionSent := ?_
    connectionWindow := fun hok => ?_ }, hwidens, fun _ c hc => ⟨c, hc, .refl _⟩⟩
  · exact hsent.trans_le (h.connectionSent.trans hwindow)
  · exact hreceived.trans_le ((h.connectionWindow hok).trans hwidens.receiveWindow)

/-- A new stream has counted nothing. -/
theorem Balanced.openStream (h : Balanced f) (streamID receiveWindow maxReceiveWindow
    initialSendWindow : Nat) :
    Balanced (f.step (.openStream streamID receiveWindow maxReceiveWindow initialSendWindow)) ∧
      f.Widens (f.step (.openStream streamID receiveWindow maxReceiveWindow initialSendWindow)) := by
  have hall : ∀ {P : StreamFlowController → Prop} {c : StreamFlowController},
      (∀ c ∈ f.streams, P c) → P c → ∀ d ∈ f.streams ++ [c], P d := by
    intro P c hstreams hc d hd
    obtain hd | hd := List.mem_append.mp hd
    · exact hstreams d hd
    · exact List.mem_singleton.mp hd ▸ hc
  refine ⟨{ h with
    bytesSent := ?_
    bytesRead := ?_
    highestReceived := fun hok => ?_
    read := hall h.read (Nat.zero_le _)
    sent := hall h.sent (Nat.zero_le _)
    window := fun hok => hall (h.window hok) (Nat.zero_le _) }, .refl _, fun i c hc => ?_⟩
  · simp [step, newStreamFlowController, h.bytesSent]
  · simp [step, newStreamFlowController, h.bytesRead]
  · simp [step, newStreamFlowController, h.highestReceived hok]
  · obtain ⟨hlt, -⟩ := List.getElem?_eq_some_iff.mp hc
    exact ⟨c, by rw [step, List.getElem?_append_left hlt, hc], .refl _⟩

theorem Balanced.step (h : Balanced f) {op : Op} (hfair : f.Fair op) :
    Balanced (f.step op) ∧ f.Widens (f.step op) := by
  cases op with
  | openStream streamID receiveWindow maxReceiveWindow initialSendWindow =>
    exact h.openStream streamID receiveWindow maxReceiveWindow initialSendWindow
  | updateHighestReceived i offset final now =>
    rw [Flows.step]
    exact h.onStream fun c _ => StreamFlow.moves_updateHighestReceived _ offset final now
  | addBytesRead i n =>
    rw [Flows.step]
    exact h.onStream fun c hc => StreamFlow.moves_addBytesRead (hfair c hc)
  | abandon i =>
    rw [Flows.step]
    exact h.onStream fun c hc => StreamFlow.moves_abandon (h.read c (List.mem_of_getElem? hc))
  | getWindowUpdate i now rtt allowed allowed' =>
    rw [Flows.step]
    exact h.onStream fun c _ => StreamFlow.moves_getWindowUpdate _ now rtt allowed allowed'
  | addBytesSent i n =>
    rw [Flows.step]
    exact h.onStream fun c hc => StreamFlow.moves_addBytesSent (hfair c hc)
  | updateSendWindow i offset =>
    rw [Flows.step]
    exact h.onStream fun c _ => StreamFlow.moves_updateSendWindow _ offset
  | getConnectionWindowUpdate now rtt allowed =>
    have htuned := f.connection.toBaseFlowController.tuned_getWindowUpdate now rtt allowed
    exact h.setConnection htuned.bytesSent htuned.sendWindow.ge htuned.bytesRead
      htuned.highestReceived htuned.widens
  | updateConnectionSendWindow offset =>
    rw [Flows.step, BaseFlowController.updateSendWindow]
    split
    · rename_i hlt
      exact h.setConnection rfl hlt.le rfl rfl ⟨le_rfl, id⟩
    · exact h.setConnection rfl le_rfl rfl rfl ⟨le_rfl, id⟩

theorem balanced_new (receiveWindow maxReceiveWindow : Nat) :
    Balanced (new receiveWindow maxReceiveWindow) where
  bytesSent := rfl
  bytesRead := rfl
  highestReceived _ := rfl
  read := by simp [new]
  sent := by simp [new]
  connectionSent := le_rfl
  window := by simp [new]
  connectionWindow _ := Nat.zero_le _

/-- What was read was received, what was received and what was sent is within the windows. -/
def WithinLimits (c : BaseFlowController) : Prop :=
  c.bytesRead ≤ c.highestReceived ∧ c.highestReceived ≤ c.receiveWindow ∧ c.bytesSent ≤ c.sendWindow

theorem Balanced.connectionRead (h : Balanced f) (hok : f.failed = false) :
    f.connection.bytesRead ≤ f.connection.highestReceived := by
  rw [h.bytesRead, h.highestReceived hok]
  exact List.sum_le_sum h.read

/-- **Conservation**: whenever fair callers use the controllers of a connection, what the streams read
and sent adds up to what the connection counts. While there was no error, this is so also for what
was received, and all controllers are within their limits. No window shrinks, and the size of a
window that is at most the maximum stays so. -/
theorem flows_conserve (receiveWindow maxReceiveWindow : Nat) (ops : List Op)
    (hfair : EachStep step Fair (new receiveWindow maxReceiveWindow) ops) :
    ∀ f ∈ states step (new receiveWindow maxReceiveWindow) ops,
      f.connection.bytesSent = (f.streams.map (·.bytesSent)).sum ∧
      f.connection.bytesRead = (f.streams.map (·.bytesRead)).sum ∧
      (f.failed = false → f.connection.highestReceived = (f.streams.map (·.highestReceived)).sum ∧
        WithinLimits f.connection.toBaseFlowController ∧
        ∀ c ∈ f.streams, WithinLimits c.toBaseFlowController) ∧
      ∀ ops', EachStep step Fair f ops' → ∀ f' ∈ states step f ops', f.Widens f' := by
  intro f hf
  have hbalanced : Balanced f := states_of_eachStep ops _
    (fun g op _ hg hop => (hg.step hop).1) hfair
    (balanced_new receiveWindow maxReceiveWindow) f hf
  refine ⟨hbalanced.bytesSent, hbalanced.bytesRead, fun hok => ?_, fun ops' hfair' f' hf' => ?_⟩
  · exact ⟨hbalanced.highestReceived hok,
      ⟨hbalanced.connectionRead hok, hbalanced.connectionWindow hok, hbalanced.connectionSent⟩,
      fun c hc => ⟨hbalanced.read c hc, hbalanced.window hok c hc, hbalanced.sent c hc⟩⟩
  · have hrun : Balanced f' ∧ f.Widens f' := states_of_eachStep ops' f
      (I := fun g => Balanced g ∧ f.Widens g)
      (fun g op _ hg hop => ⟨(hg.1.step hop).1, hg.2.trans (hg.1.step hop).2⟩) hfair'
      ⟨hbalanced, .refl f⟩ f' hf'
    exact hrun.2

instance (f : Flows) (op : Op) : Decidable (f.Fair op) := by
  cases op <;> unfold Fair <;> infer_instance

/-- Two streams receive, read and send. -/
def twoStreams : List Op :=
  [.openStream 0 10 40 5, .openStream 4 10 40 5, .updateHighestReceived 0 8 false 1,
    .updateHighestReceived 1 6 true 2, .addBytesRead 0 8, .getWindowUpdate 0 3 100 true true,
    .abandon 1, .updateConnectionSendWindow 7, .addBytesSent 0 5, .addBytesSent 1 2,
    .getConnectionWindowUpdate 4 100 true]

theorem twoStreams_conserve :
    (run step (new 15 60) twoStreams).connection.highestReceived = 14 ∧
      (run step (new 15 60) twoStreams).connection.bytesSent = 7 ∧
      WithinLimits (run step (new 15 60) twoStreams).connection.toBaseFlowController := by
  have hconserve := flows_conserve 15 60 twoStreams (by decide) _ (run_mem_states _ _)
  exact ⟨rfl, rfl, (hconserve.2.2.1 rfl).2.1⟩

/-- A stream receives more than its window. -/
def overrun : Flows :=
  run step (new 100 100) [.openStream 0 10 10 0, .updateHighestReceived 0 20 false 0]

/-- A stream reads what it did not receive. -/
def overread : Flows := run step (new 100 100) [.openStream 0 10 10 0, .addBytesRead 0 5]

/-- A violation of the limit of a stream is counted by the stream only. A reader that reads what was
not received is not stopped. The size of a window may exceed its maximum from the start. -/
theorem flows_unchecked :
    (overrun.connection.highestReceived = 0 ∧ (overrun.streams.map (·.highestReceived)).sum = 20) ∧
    (overread.failed = false ∧
      overread.connection.highestReceived < overread.connection.bytesRead) ∧
    (new 100 50).connection.maxReceiveWindowSize < (new 100 50).connection.receiveWindowSize := by
  decide

end Flows

end MoqQuic.Quic
