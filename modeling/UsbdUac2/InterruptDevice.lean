import UsbdUac2.Calls
import UsbdUac2.FrameCapture

/-!
# The device of the interrupt example

The device has a queue for each direction.  Its methods are called by the class and are
not interrupted here, and its interrupts and its hardware move in between.  Each call is
a run of the two machines `FramePlayback` and `FrameCapture`, and so is each move, so
that what their runs keep holds of the device (`Sound`).

A stop masks the interrupt of a direction, and leaves its queue as it is.  `Resumed`
says what a later start finds there.
-/

namespace Uac2

open DocumentedBbQueue (contents)
open Runs (Run Transition events)

/-! ## The output side -/

namespace FramePlayback

variable {Q : Type} [BbQueue Q]

/-- A packet goes into the queue whole, or not at all. -/
def receive (data : List UInt8) (s : FramePlayback Q) : FramePlayback Q :=
  if BbQueue.grantExact data.length s.queue then
    { s with
      queue := BbQueue.commit data data.length s.queue
      produced := s.produced + UInt32.ofNat data.length
      received := s.received ++ data }
  else s

/-- `start_audio_out`. -/
def started (s : FramePlayback Q) : FramePlayback Q :=
  { s with unmasked := true, fifo := [], written := [], played := [] }

/-- `stop_audio_out`. -/
def stopped (s : FramePlayback Q) : FramePlayback Q := { s with unmasked := false }

@[simp] theorem receive_unmasked (data : List UInt8) (s : FramePlayback Q) :
    (s.receive data).unmasked = s.unmasked := by
  rw [receive]
  split <;> rfl

@[simp] theorem receive_uncounted (data : List UInt8) (s : FramePlayback Q) :
    (s.receive data).uncounted = s.uncounted := by
  rw [receive]
  split <;> rfl

/-- A packet is received in a run. -/
theorem receive_run (data : List UInt8) {s : FramePlayback Q} (hidle : s.uncounted = none) :
    ∃ ts, Run Step s ts (s.receive data) := by
  rcases s with ⟨queue, produced, consumed, uncounted, unmasked, fifo, received, taken, written,
    played⟩
  cases hidle
  by_cases hgrant : BbQueue.grantExact data.length queue = true
  · have hrx := Run.nil.snoc (Step.rx (s := ⟨queue, produced, consumed, none, unmasked, fifo,
      received, taken, written, played⟩) rfl hgrant)
    rw [receive, if_pos hgrant]
    exact ⟨_, hrx.snoc (.count rfl)⟩
  · rw [receive, if_neg hgrant]
    exact ⟨_, Run.nil.snoc (.refuse rfl (Bool.eq_false_iff.mpr hgrant))⟩

/-- How the output goes on from a state in which it was stopped, after `starts` more
starts.  Until the first of them nothing is taken from the queue, and until the second
what is taken is what is written. -/
structure Resumed (s₀ : FramePlayback Q) (starts : Nat) (s : FramePlayback Q) : Prop where
  received : ∃ more, s.received = s₀.received ++ more
  stopped : starts = 0 → s.unmasked = false ∧ s.taken = s₀.taken
  started : starts = 1 → s.taken = s₀.taken ++ (s.written.filterMap id).flatten

section

variable {s₀ s s' : FramePlayback Q} {starts : Nat}

omit [BbQueue Q] in
theorem resumed_refl (hoff : s₀.unmasked = false) : Resumed s₀ 0 s₀ where
  received := ⟨[], (List.append_nil _).symm⟩
  stopped _ := ⟨hoff, rfl⟩
  started h := nomatch h

theorem Resumed.receive (h : Resumed s₀ starts s) (data : List UInt8) :
    Resumed s₀ starts (s.receive data) := by
  rw [FramePlayback.receive]
  split
  · obtain ⟨more, hmore⟩ := h.received
    refine ⟨⟨more ++ data, ?_⟩, h.stopped, h.started⟩
    show s.received ++ data = _
    rw [hmore, List.append_assoc]
  · exact h

omit [BbQueue Q] in
theorem Resumed.stop (h : Resumed s₀ starts s) : Resumed s₀ starts s.stopped where
  received := h.received
  stopped hzero := ⟨rfl, (h.stopped hzero).2⟩
  started := h.started

omit [BbQueue Q] in
theorem Resumed.start (h : Resumed s₀ starts s) : Resumed s₀ (starts + 1) s.started where
  received := h.received
  stopped hzero := nomatch hzero
  started hone := by
    have htaken := (h.stopped (Nat.succ.inj hone)).2
    exact htaken.trans (List.append_nil _).symm

theorem Resumed.step (h : Resumed s₀ starts s) {e : FrameEvent}
    (he : e = .frame ∨ e = .silence ∨ e = .play) (hs : Step s e s') :
    Resumed s₀ starts s' := by
  cases hs with
  | @frame frame queue hunmasked _ _ =>
      refine ⟨h.received, fun hzero => ?_, fun hone => ?_⟩
      · cases hunmasked.symm.trans (h.stopped hzero).1
      · show s.taken ++ frame = _
        rw [h.started hone]
        simp
  | silence hunmasked =>
      refine ⟨h.received, fun hzero => ?_, fun hone => ?_⟩
      · cases hunmasked.symm.trans (h.stopped hzero).1
      · show s.taken = _
        rw [h.started hone]
        simp
  | play => exact ⟨h.received, h.stopped, h.started⟩
  | _ => simp at he

/-- What the queue held when the output was stopped comes first. -/
theorem Resumed.stream {cap : Nat} [DocumentedBbQueue Q cap] (h : Resumed s₀ starts s)
    (h₀ : Inv s₀) (hs : Inv s) :
    ∃ more, s.received = s₀.received ++ more ∧
      (starts = 0 → contents s.queue = contents s₀.queue ++ more) ∧
      (starts = 1 → (s.written.filterMap id).flatten ++ contents s.queue =
        contents s₀.queue ++ more) := by
  obtain ⟨more, hmore⟩ := h.received
  have hstream : s.taken ++ contents s.queue = s₀.taken ++ (contents s₀.queue ++ more) := by
    rw [← hs.stream, hmore, h₀.stream, List.append_assoc]
  refine ⟨more, hmore, fun hzero => ?_, fun hone => ?_⟩
  · rw [(h.stopped hzero).2] at hstream
    exact List.append_cancel_left hstream
  · rw [h.started hone, List.append_assoc] at hstream
    exact List.append_cancel_left hstream

end

end FramePlayback

/-! ## The input side -/

namespace FrameCapture

variable {Q : Type} [BbQueue Q]

/-- The frames for a packet among those that can be read. -/
def toCopy (samples written : Nat) (rgr : List UInt8) : Nat :=
  min (samples - written) (rgr.length / bytesPerFrame)

/-- The loop of `audio_data_tx`: the packet, the queue and the counter behind it. -/
def takeFrames (samples written : Nat) (buf : List UInt8) (queue : Q) (consumed : UInt32) :
    List UInt8 × Q × UInt32 :=
  if written < samples then
    match BbQueue.read queue with
    | some rgr =>
        if rgr.length / bytesPerFrame = 0 then (buf, queue, consumed)
        else
          takeFrames samples (written + toCopy samples written rgr)
            (buf ++ rgr.take (toCopy samples written rgr * bytesPerFrame))
            (BbQueue.release (toCopy samples written rgr * bytesPerFrame) queue)
            (consumed + UInt32.ofNat (toCopy samples written rgr))
    | none => (buf, queue, consumed)
  else (buf, queue, consumed)
termination_by samples - written
decreasing_by
  rename_i hsome
  have hpos : 0 < toCopy samples written rgr := by
    rw [toCopy, Nat.lt_min]
    exact ⟨by omega, Nat.pos_of_ne_zero hsome⟩
  omega

/-- The packet for the host, the queue and the counter behind it. -/
def packet (nominalSamples : Nat) (s : FrameCapture Q) : List UInt8 × Q × UInt32 :=
  takeFrames (samples nominalSamples (InterruptAudio.fill s.produced s.consumed)) 0 [] s.queue
    s.consumed

/-- A packet is taken from the queue and handed to the endpoint. -/
def transmit (nominalSamples : Nat) (s : FrameCapture Q) : FrameCapture Q :=
  { s with
    queue := (s.packet nominalSamples).2.1
    consumed := (s.packet nominalSamples).2.2
    packets := s.packets ++ [(s.packet nominalSamples).1] }

/-- `start_audio_in`. -/
def started (s : FrameCapture Q) : FrameCapture Q := { s with unmasked := true, fifo := [] }

/-- `stop_audio_in`. -/
def stopped (s : FrameCapture Q) : FrameCapture Q := { s with unmasked := false }

/-- The loop is a run of the task. -/
theorem takeFrames_run (nominalSamples : Nat) {samples written : Nat} {buf : List UInt8}
    {queue : Q} {consumed : UInt32} {s : FrameCapture Q}
    (htask : s.task = .filling samples written buf) (hqueue : s.queue = queue)
    (hconsumed : s.consumed = consumed) :
    ∃ ts, Run (Step nominalSamples) s ts
      { s with
        queue := (takeFrames samples written buf queue consumed).2.1
        consumed := (takeFrames samples written buf queue consumed).2.2
        task := .idle
        packets := s.packets ++ [(takeFrames samples written buf queue consumed).1] } := by
  induction written, buf, queue, consumed using takeFrames.induct (Q := Q) samples
    generalizing s with
  | case1 written buf queue consumed hlt rgr hread hnone =>
      subst hqueue hconsumed
      have hdone : Done samples written s.queue := Or.inr fun rgr' hread' => by
        cases hread.symm.trans hread'
        exact hnone
      have hloop : takeFrames samples written buf s.queue s.consumed =
          (buf, s.queue, s.consumed) := by
        rw [takeFrames, if_pos hlt, hread]
        exact if_pos hnone
      rw [hloop]
      exact ⟨_, Run.nil.snoc (.finish htask hdone)⟩
  | case2 written buf queue consumed hlt rgr hread hsome ih =>
      subst hqueue hconsumed
      have hloop : takeFrames samples written buf s.queue s.consumed =
          takeFrames samples (written + toCopy samples written rgr)
            (buf ++ rgr.take (toCopy samples written rgr * bytesPerFrame))
            (BbQueue.release (toCopy samples written rgr * bytesPerFrame) s.queue)
            (s.consumed + UInt32.ofNat (toCopy samples written rgr)) := by
        rw [takeFrames, if_pos hlt, hread]
        exact if_neg hsome
      have hcopy : Step nominalSamples s .copy _ := .copy htask hlt hread hsome
      obtain ⟨ts, hr⟩ := ih (s := { s with
        queue := BbQueue.release (toCopy samples written rgr * bytesPerFrame) s.queue
        consumed := s.consumed + UInt32.ofNat (toCopy samples written rgr)
        task := .filling samples (written + toCopy samples written rgr)
          (buf ++ rgr.take (toCopy samples written rgr * bytesPerFrame)) }) rfl rfl rfl
      rw [hloop]
      exact ⟨_, (Run.nil.snoc hcopy).append hr⟩
  | case3 written buf queue consumed hlt hread =>
      subst hqueue hconsumed
      have hdone : Done samples written s.queue := Or.inr fun rgr' hread' => by
        cases hread.symm.trans hread'
      have hloop : takeFrames samples written buf s.queue s.consumed =
          (buf, s.queue, s.consumed) := by
        rw [takeFrames, if_pos hlt, hread]
      rw [hloop]
      exact ⟨_, Run.nil.snoc (.finish htask hdone)⟩
  | case4 written buf queue consumed hge =>
      subst hqueue hconsumed
      have hloop : takeFrames samples written buf s.queue s.consumed =
          (buf, s.queue, s.consumed) := by
        rw [takeFrames, if_neg hge]
      rw [hloop]
      exact ⟨_, Run.nil.snoc (.finish htask (Or.inl (Nat.not_lt.mp hge)))⟩

/-- A packet is handed over in a run. -/
theorem transmit_run (nominalSamples : Nat) {s : FrameCapture Q} (hidle : s.task = .idle) :
    ∃ ts, Run (Step nominalSamples) s ts (s.transmit nominalSamples) := by
  rcases s with ⟨queue, produced, consumed, task, unmasked, fifo, made, packets⟩
  cases hidle
  have htx : Step nominalSamples ⟨queue, produced, consumed, .idle, unmasked, fifo, made, packets⟩
    .tx _ := .tx rfl
  obtain ⟨ts, hr⟩ := takeFrames_run nominalSamples (s := ⟨queue, produced, consumed, .filling
    (samples nominalSamples (InterruptAudio.fill produced consumed)) 0 [], unmasked, fifo, made,
    packets⟩) rfl rfl rfl
  exact ⟨_, (Run.nil.snoc htx).append hr⟩

end FrameCapture

/-! ## The device -/

/-- A call for a packet to the host. -/
def Action.transmits : Action → Bool
  | .audioDataTx _ => true
  | _ => false

/-- A notice that starts the output. -/
def Action.startsPlayback : Action → Bool
  | .alternateSettingChanged .out alt => alt = 1
  | _ => false

/-- The device of the interrupt example.  The rate of the frames is fixed when the example
is compiled: 8000 with the feature `usbhs`, and 1000 else. -/
structure InterruptDevice (usbFrameRate : Nat) (Q : Type) where
  playback : FramePlayback Q
  capture : FrameCapture Q

namespace InterruptDevice

/-- `SAMPLE_RATE`. -/
def rate : UInt32 := 48000

/-- `NOMINAL_SAMPLES`. -/
def nominalSamples (usbFrameRate : Nat) : Nat := rate.toNat / usbFrameRate

/-- The buffer of `audio_data_rx`. -/
def bufBytes (usbFrameRate : Nat) : Nat := (nominalSamples usbFrameRate + 1) * bytesPerFrame

variable {usbFrameRate : Nat} {Q : Type} [BbQueue Q]

/-- Before the first setting, around the queues for the output and the input. -/
def new (queueOut queueIn : Q) : InterruptDevice usbFrameRate Q where
  playback := .initial queueOut
  capture := .initial queueIn

def alternateSettingChanged (terminal : UsbDirection) (altSetting : UInt8)
    (d : InterruptDevice usbFrameRate Q) : InterruptDevice usbFrameRate Q :=
  match terminal with
  | .out =>
      if altSetting = 0 then { d with playback := d.playback.stopped }
      else if altSetting = 1 then { d with playback := d.playback.started }
      else d
  | .in =>
      if altSetting = 0 then { d with capture := d.capture.stopped }
      else if altSetting = 1 then { d with capture := d.capture.started }
      else d

def audioDataRx {B : Type} [UsbBus B] (ep : Endpoint .out) (d : InterruptDevice usbFrameRate Q)
    (bus : B) : InterruptDevice usbFrameRate Q × B :=
  match UsbBus.read ep.address (bufBytes usbFrameRate) bus with
  | (.ok bytes, bus) => ({ d with playback := d.playback.receive bytes }, bus)
  | (.error _, bus) => (d, bus)

/-- An error of the endpoint is only logged. -/
def audioDataTx {B : Type} [UsbBus B] (ep : Endpoint .in) (d : InterruptDevice usbFrameRate Q)
    (bus : B) : InterruptDevice usbFrameRate Q × B :=
  ({ d with capture := d.capture.transmit (nominalSamples usbFrameRate) },
    (UsbBus.write ep.address (d.capture.packet (nominalSamples usbFrameRate)).1 bus).2)

/-- A panic is no feedback. -/
def feedback (nominal : UsbIsochronousFeedback) (d : InterruptDevice usbFrameRate Q) :
    Option UsbIsochronousFeedback :=
  InterruptAudio.feedback d.playback.produced d.playback.consumed nominal

instance {B : Type} [UsbBus B] : AudioHandler (InterruptDevice usbFrameRate Q) B where
  audioDataRx := audioDataRx
  audioDataTx := audioDataTx
  feedback nominal d := (d.feedback nominal, d)
  alternateSettingChanged := alternateSettingChanged

instance : ClockSource (InterruptDevice usbFrameRate Q) where
  clockType := .internalFixed
  sofSync := false
  sampleRate _ := rate
  sampleRates _ := .ok [.newFixed rate]
  clockValidity _ := .ok true

/-- What the interrupts and the hardware do between the calls. -/
inductive Move : InterruptDevice usbFrameRate Q → FrameEvent ⊕ CaptureEvent →
    InterruptDevice usbFrameRate Q → Prop where
  | playback {d : InterruptDevice usbFrameRate Q} {e : FrameEvent} {s : FramePlayback Q} :
      e = .frame ∨ e = .silence ∨ e = .play → FramePlayback.Step d.playback e s →
      Move d (.inl e) { d with playback := s }
  | record {d : InterruptDevice usbFrameRate Q} {word : UInt32} {s : FrameCapture Q} :
      FrameCapture.Step (nominalSamples usbFrameRate) d.capture (.record word) s →
      Move d (.inr (.record word)) { d with capture := s }
  | capture {d : InterruptDevice usbFrameRate Q} {e : CaptureEvent} {s : FrameCapture Q} :
      e = .frame ∨ e = .discard →
      FrameCapture.Step (nominalSamples usbFrameRate) d.capture e s →
      Move d (.inr e) { d with capture := s }

/-! ## What the calls and the moves keep -/

section

variable {cap : Nat} [DocumentedBbQueue Q cap] {d d' : InterruptDevice usbFrameRate Q}

/-- Both sides are in a run of their machine, and no method is in progress. -/
structure Sound (d : InterruptDevice usbFrameRate Q) : Prop where
  playback : FramePlayback.Inv d.playback
  capture : FrameCapture.Inv (nominalSamples usbFrameRate) d.capture
  counted : d.playback.uncounted = none
  idle : d.capture.task = .idle

theorem sound_new {queueOut queueIn : Q} (hout : contents queueOut = [])
    (hin : contents queueIn = []) :
    Sound (new queueOut queueIn : InterruptDevice usbFrameRate Q) where
  playback := FramePlayback.inv_initial hout
  capture := FrameCapture.inv_initial hin
  counted := rfl
  idle := rfl

theorem Sound.call {B : Type} [UsbBus B] {a : Action} (h : Sound d) (hc : Call B d a d') :
    Sound d' := by
  cases hc with
  | @rx ep bus =>
      show Sound (audioDataRx ep d bus).1
      unfold audioDataRx
      split
      · rename_i bytes _ _
        obtain ⟨ts, hr⟩ := FramePlayback.receive_run bytes h.counted
        refine ⟨hr.invariant h.playback FramePlayback.Inv.step, h.capture, ?_, h.idle⟩
        rw [FramePlayback.receive_uncounted]
        exact h.counted
      · exact h
  | @tx ep bus =>
      obtain ⟨ts, hr⟩ := FrameCapture.transmit_run (nominalSamples usbFrameRate) h.idle
      exact ⟨h.playback, hr.invariant h.capture FrameCapture.Inv.step, h.counted, h.idle⟩
  | @changed terminal alt =>
      show Sound (d.alternateSettingChanged terminal alt)
      unfold alternateSettingChanged
      cases terminal with
      | out =>
          dsimp only
          split_ifs
          · exact ⟨h.playback.step (.stop h.counted), h.capture, h.counted, h.idle⟩
          · exact ⟨h.playback.step (.start h.counted), h.capture, h.counted, h.idle⟩
          · exact h
      | «in» =>
          dsimp only
          split_ifs
          · exact ⟨h.playback, h.capture.step (.stop h.idle), h.counted, h.idle⟩
          · exact ⟨h.playback, h.capture.step (.start h.idle), h.counted, h.idle⟩
          · exact h
  | _ => exact h

theorem Sound.move {e : FrameEvent ⊕ CaptureEvent} (h : Sound d) (hm : Move d e d') :
    Sound d' := by
  cases hm with
  | playback he hs =>
      refine ⟨h.playback.step hs, h.capture, ?_, h.idle⟩
      rcases he with rfl | rfl | rfl <;> cases hs <;> exact h.counted
  | record hs =>
      refine ⟨h.playback, h.capture.step hs, h.counted, ?_⟩
      cases hs
      exact h.idle
  | capture he hs =>
      refine ⟨h.playback, h.capture.step hs, h.counted, ?_⟩
      rcases he with rfl | rfl <;> cases hs <;> exact h.idle

omit [DocumentedBbQueue Q cap] in
/-- Each call to transmit hands one packet over. -/
theorem call_packets {B : Type} [UsbBus B] {a : Action} (hc : Call B d a d') :
    d'.capture.packets.length = d.capture.packets.length + if a.transmits then 1 else 0 := by
  cases hc with
  | @rx ep bus =>
      show (audioDataRx ep d bus).1.capture.packets.length = d.capture.packets.length
      unfold audioDataRx
      split <;> rfl
  | tx => exact List.length_append
  | @changed terminal alt =>
      show (d.alternateSettingChanged terminal alt).capture.packets.length =
        d.capture.packets.length
      unfold alternateSettingChanged
      cases terminal <;> dsimp only <;> split_ifs <;> rfl
  | @quiet a hquiet =>
      cases a with
      | audioDataTx => exact absurd hquiet id
      | _ => rfl
  | _ => rfl

omit [DocumentedBbQueue Q cap] in
theorem calls_packets {B : Type} [UsbBus B]
    {ts : List (Transition (InterruptDevice usbFrameRate Q) Action)} (hr : Run (Call B) d ts d') :
    d'.capture.packets.length =
      d.capture.packets.length + (events ts).countP Action.transmits := by
  induction hr with
  | nil => rfl
  | snoc _ hc ih =>
      rw [call_packets hc, ih, Runs.events_snoc, List.countP_append, List.countP_singleton,
        Nat.add_assoc]

omit [DocumentedBbQueue Q cap] in
theorem move_packets {e : FrameEvent ⊕ CaptureEvent} (hm : Move d e d') :
    d'.capture.packets = d.capture.packets := by
  cases hm with
  | playback => rfl
  | record hs =>
      cases hs
      rfl
  | capture he hs => rcases he with rfl | rfl <;> cases hs <;> rfl

omit [DocumentedBbQueue Q cap] in
theorem call_resumed {B : Type} [UsbBus B] {s₀ : FramePlayback Q} {starts : Nat} {a : Action}
    (h : FramePlayback.Resumed s₀ starts d.playback) (hc : Call B d a d') :
    FramePlayback.Resumed s₀ (starts + if a.startsPlayback then 1 else 0) d'.playback := by
  cases hc with
  | @rx ep bus =>
      show FramePlayback.Resumed s₀ starts (audioDataRx ep d bus).1.playback
      unfold audioDataRx
      split
      · exact h.receive _
      · exact h
  | @changed terminal alt =>
      show FramePlayback.Resumed s₀ _ (d.alternateSettingChanged terminal alt).playback
      cases terminal with
      | out =>
          unfold alternateSettingChanged
          by_cases hzero : alt = 0
          · subst hzero
            exact h.stop
          · by_cases hone : alt = 1
            · subst hone
              exact h.start
            · simpa [Action.startsPlayback, hzero, hone] using h
      | «in» =>
          have hsame : (d.alternateSettingChanged .in alt).playback = d.playback := by
            unfold alternateSettingChanged
            dsimp only
            split_ifs <;> rfl
          rw [hsame]
          exact h
  | @quiet a hquiet =>
      cases a with
      | alternateSettingChanged => exact absurd hquiet id
      | _ => exact h
  | _ => exact h

omit [DocumentedBbQueue Q cap] in
theorem calls_resumed {B : Type} [UsbBus B] {s₀ : FramePlayback Q} {starts : Nat}
    {ts : List (Transition (InterruptDevice usbFrameRate Q) Action)}
    (h : FramePlayback.Resumed s₀ starts d.playback) (hr : Run (Call B) d ts d') :
    FramePlayback.Resumed s₀ (starts + (events ts).countP Action.startsPlayback)
      d'.playback := by
  induction hr with
  | nil => exact h
  | snoc _ hc ih =>
      rw [Runs.events_snoc, List.countP_append, List.countP_singleton, ← Nat.add_assoc]
      exact call_resumed ih hc

omit [DocumentedBbQueue Q cap] in
theorem move_resumed {s₀ : FramePlayback Q} {starts : Nat} {e : FrameEvent ⊕ CaptureEvent}
    (h : FramePlayback.Resumed s₀ starts d.playback) (hm : Move d e d') :
    FramePlayback.Resumed s₀ starts d'.playback := by
  cases hm with
  | playback he hs => exact h.step he hs
  | record => exact h
  | capture => exact h

end

end InterruptDevice

end Uac2
